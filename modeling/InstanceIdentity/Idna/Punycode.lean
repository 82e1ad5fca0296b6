import InstanceIdentity.Text.Basic
import InstanceIdentity.Text.Split

/-!
# Punycode

A text of any characters is written with letters, digits and hyphens. First come its
ASCII characters and a hyphen behind them, if there are any. Then follow the other
ones in ascending order, each as the number of places and code points that a reader
has to pass before it inserts the character. The numbers are written in digits of a
base that adapts to the numbers before.

## Main definitions

* `Punycode.digit`, `Punycode.digits` — a digit, and a number of variable length
* `Punycode.adapt` — the bias of the next number
* `Punycode.encode` — the written form of a text
* `Punycode.decode?`, `Punycode.decodeReplacing` — the text with a written form
-/

namespace InstanceIdentity

namespace Punycode

/-- The character of a digit below thirty-six: letters first. -/
def digit (n : Nat) : Char := Char.ofNat (if n < 26 then 97 + n else 22 + n)

/-- The least digit that does not end a number, at a weight. It is between one and twenty-six. -/
def threshold (bias weight : Nat) : Nat := min 26 (max 1 (weight - bias))

theorem threshold_pos (bias weight : Nat) : 0 < threshold bias weight := by
  simp only [threshold]
  omega

/-- The digits of a number from a weight on. The last one is below its threshold. -/
def digits (bias weight n : Nat) : List Char :=
  let least := threshold bias weight
  if n < least then [digit n]
  else
    digit (least + (n - least) % (36 - least)) ::
      digits bias (weight + 36) ((n - least) / (36 - least))
termination_by n
decreasing_by
  have positive := threshold_pos bias weight
  have smaller := Nat.div_le_self (n - threshold bias weight) (36 - threshold bias weight)
  omega

/-- Divides a number until it is small, and adds a weight for each division. -/
def shrink (n weight : Nat) : Nat × Nat :=
  if 455 < n then shrink (n / 35) (weight + 36) else (n, weight)
termination_by n
decreasing_by omega

/-- The bias of the next number, from the number before it and how many characters are written. -/
def adapt (first : Bool) (n written : Nat) : Nat :=
  let n := if first then n / 700 else n / 2
  let (n, weight) := shrink (n + n / written) 0
  weight + 36 * n / (n + 38)

/-- How far the writing has come: the digits, the number of the next character so far, the bias, and
how many characters are written. -/
structure Progress where
  output : List Char
  number : Nat
  bias : Nat
  written : Nat

/-- Passes a character of the text while the code point `n` is written. -/
def Progress.pass (basic n : Nat) (p : Progress) (c : Char) : Progress :=
  if c.toNat < n then { p with number := p.number + 1 }
  else if c.toNat = n then
    { output := p.output ++ digits p.bias 36 p.number
      number := 0
      bias := adapt (p.written = basic) p.number (p.written + 1)
      written := p.written + 1 }
  else p

/-- Writes code points one after another, from the least one that is still to come. -/
def insertAll (s : List Char) (basic : Nat) : Nat → List Nat → Progress → List Char
  | _, [], p => p.output
  | least, n :: rest, p =>
    let p := { p with number := p.number + (n - least) * (p.written + 1) }
    let p := s.foldl (Progress.pass basic n) p
    insertAll s basic (n + 1) rest { p with number := p.number + 1 }

/-- Puts a number into an ascending list, unless it is there. -/
def insertNumber (n : Nat) : List Nat → List Nat
  | [] => [n]
  | m :: rest =>
    if n < m then n :: m :: rest else if n = m then m :: rest else m :: insertNumber n rest

/-- The written form of a text. -/
def encode (s : List Char) : List Char :=
  let basic := s.filter fun c => c.toNat < 0x80
  let others := (s.map Char.toNat).filter fun n => 0x80 ≤ n
  (if basic = [] then [] else basic ++ ['-']) ++
    insertAll s basic.length 0x80 (others.foldr insertNumber []) ⟨[], 0, 72, basic.length⟩

/-! ## Reading -/

/-- The value of a digit. Letters count in either case. -/
def digitValue? (c : Char) : Option Nat :=
  if 'a' ≤ c ∧ c ≤ 'z' then some (c.toNat - 97)
  else if 'A' ≤ c ∧ c ≤ 'Z' then some (c.toNat - 65)
  else if '0' ≤ c ∧ c ≤ '9' then some (c.toNat - 22)
  else none

/-- A reader among the digits of a number: the characters of some type that it has read before, the
bias, and the weight, the factor and the sum of the digits of the number so far. -/
structure Reader (α : Type) where
  text : List α
  place : Nat
  character : Nat
  bias : Nat
  weight : Nat
  factor : Nat
  sum : Nat

/-- A reader before the first number. -/
def Reader.start {α : Type} (basic : List α) : Reader α := ⟨basic, 0, 0x80, 72, 36, 1, 0⟩

/-- The code point that a complete number names. -/
def Reader.codePoint {α : Type} (r : Reader α) (n : Nat) : Nat :=
  r.character + (r.place + n) / (r.text.length + 1)

/-- Inserts a character at the place that a complete number names. -/
def Reader.insert {α : Type} (r : Reader α) (first : Bool) (n codePoint : Nat) (c : α) :
    Reader α :=
  let size := r.text.length + 1
  let place := (r.place + n) % size
  ⟨r.text.take place ++ c :: r.text.drop place, place + 1, codePoint, adapt first n size, 36, 1, 0⟩

/-- Inserts the character that a complete number names. -/
def Reader.insert? (r : Reader Char) (first : Bool) (n : Nat) : Option (Reader Char) :=
  let codePoint := r.codePoint n
  if codePoint.isValidChar then some (r.insert first n codePoint (Char.ofNat codePoint)) else none

/-- Inserts the code point that a complete number names. A question mark takes the place of one
beyond the last code point. -/
def Reader.insertReplacing (r : Reader CodePoint) (first : Bool) (n : Nat) : Reader CodePoint :=
  let codePoint := if r.codePoint n ≤ 0x10FFFF then r.codePoint n else 0x3F
  r.insert first n codePoint (.ofNat codePoint)

/-- One more digit of a number that goes on. -/
def Reader.extend {α : Type} (r : Reader α) (value : Nat) : Reader α :=
  { r with
    weight := r.weight + 36
    factor := r.factor * (36 - threshold r.bias r.weight)
    sum := r.sum + value * r.factor }

/-- Reads digits. The last number has to be complete. -/
def readDigits (first : Bool) (r : Reader Char) : List Char → Option (List Char)
  | [] => if r.weight = 36 then some r.text else none
  | c :: rest =>
    (digitValue? c).bind fun value =>
      if value < threshold r.bias r.weight then
        (r.insert? first (r.sum + value * r.factor)).bind fun r => readDigits false r rest
      else readDigits first (r.extend value) rest

/-- Reads digits as far as they are valid. A number that is not complete does not count. -/
def readReplacing (first : Bool) (r : Reader CodePoint) : List Char → Text
  | [] => r.text
  | c :: rest =>
    match digitValue? c with
    | none => r.text
    | some value =>
      if value < threshold r.bias r.weight then
        readReplacing false (r.insertReplacing first (r.sum + value * r.factor)) rest
      else readReplacing first (r.extend value) rest

/-- The text with a written form. Without a hyphen there are no ASCII characters. -/
def decode? (s : List Char) : Option (List Char) :=
  let (basic, digits) := Text.splitLast '-' s
  readDigits true (.start basic) digits

/-- The text of code points and digits, as far as the digits are valid. -/
def decodeReplacing (basic : Text) (digits : List Char) : Text :=
  readReplacing true (.start basic) digits

end Punycode

end InstanceIdentity
