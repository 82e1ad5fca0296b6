import InstanceIdentity.Text.Blank
import InstanceIdentity.Unicode.Alphanumeric

/-!
# Whole numbers in text

A whole number is written with decimal digits of any script, perhaps with a sign in
front, with single low lines between digits, and with blanks around. A number of very
many digits is neither read nor written.

## Main definitions

* `greatestDigits`, `excessMessage` — the limit on digits, and what breaks it, in words
* `readInteger?` — the whole number that a text stands for
* `writeInteger?` — the digits of a whole number
-/

namespace InstanceIdentity

/-- The most digits that a whole number may have. -/
def greatestDigits : Nat := 4300

/-- That a number has too many digits, in words. How many they are is told of one that is read. -/
def excessMessage (digits : Option Nat) : String :=
  "Exceeds the limit (" ++ toString greatestDigits ++ " digits) for integer string conversion" ++
    digits.elim "" (fun n => ": value has " ++ toString n ++ " digits") ++
    "; use sys.set_int_max_str_digits() to increase the limit"

/-- The values of digits that have single low lines between them at most, from the values before
them, latest first. -/
def digitValues? (before : List Nat) : List Char → Option (List Nat)
  | [] => if before = [] then none else some before.reverse
  | '_' :: c :: rest =>
    if before = [] then none
    else (Unicode.digitValue? c).bind fun value => digitValues? (value :: before) rest
  | c :: rest => (Unicode.digitValue? c).bind fun value => digitValues? (value :: before) rest

/-- The number that digits stand for, if they are not too many. -/
def readNatural? (s : List Char) : Option Nat :=
  (digitValues? [] s).bind fun values =>
    if greatestDigits < values.length then none
    else some (values.foldl (fun n value => 10 * n + value) 0)

/-- The whole number that a text stands for. -/
def readInteger? (s : List Char) : Option Int :=
  match Text.strip Text.isBlank s with
  | '-' :: digits => (readNatural? digits).map fun n => -(n : Int)
  | '+' :: digits => (readNatural? digits).map Int.ofNat
  | digits => (readNatural? digits).map Int.ofNat

/-- Whether a whole number has few enough digits to be written. -/
def IsWritable (n : Int) : Prop := n.natAbs < Nat.pow 10 greatestDigits

instance (n : Int) : Decidable (IsWritable n) :=
  inferInstanceAs (Decidable (n.natAbs < Nat.pow 10 greatestDigits))

/-- A whole number in decimal digits, if they are not too many. -/
def writeInteger? (n : Int) : Option String := if IsWritable n then some (toString n) else none

end InstanceIdentity
