import InstanceIdentity.Json.Basic
import InstanceIdentity.Json.Error
import InstanceIdentity.Number.Decimal

/-!
# Numerals

A numeral is read as far as it goes. A point or exponent mark without a digit after
it is no part of the numeral before it: the numeral ends there, and the flaw stands
at the point or mark.

## Main definitions

* `Json.Part`, `Json.Numeral` — a numeral in progress
* `Json.Numeral.begin?`, `Json.Numeral.extend?` — its first and its later characters
* `Json.Numeral.complete` — its value
-/

namespace InstanceIdentity

namespace Json

/-- The part of a numeral that was read last. -/
inductive Part
  | minus
  | zero
  | whole
  | point
  | fraction
  | mark
  | sign
  | power
  deriving DecidableEq, Repr

/-- Whether a part begins a fraction or an exponent and still wants a digit. -/
def Part.WantsDigit (p : Part) : Prop := p = .point ∨ p = .mark ∨ p = .sign

instance (p : Part) : Decidable p.WantsDigit :=
  inferInstanceAs (Decidable (p = .point ∨ p = .mark ∨ p = .sign))

/-- A numeral in progress. The characters stand latest first. `opened` is the place of a point or
exponent mark that still wants a digit. -/
structure Numeral where
  start : Place
  written : List Char
  wholeDigits : Nat
  part : Part
  integral : Bool
  opened : Place

namespace Numeral

/-- A numeral that begins with a minus sign or a digit. -/
def begin? (place : Place) (c : Char) : Option Numeral :=
  if c = '-' then some ⟨place, [c], 0, .minus, true, place⟩
  else if c = '0' then some ⟨place, [c], 1, .zero, true, place⟩
  else if c.isDigit then some ⟨place, [c], 1, .whole, true, place⟩
  else none

/-- The numeral with one more character, if the character can extend it. -/
def extend? (n : Numeral) (place : Place) (c : Char) : Option Numeral :=
  let n' := { n with written := c :: n.written }
  let digit (part : Part) : Option Numeral :=
    if c.isDigit then some { n' with part := part, integral := false } else none
  let mark : Option Numeral :=
    if c = 'e' ∨ c = 'E' then some { n' with part := .mark, opened := place } else none
  let point : Option Numeral :=
    if c = '.' then some { n' with part := .point, opened := place } else mark
  match n.part with
  | .minus =>
    if c = '0' then some { n' with part := .zero, wholeDigits := 1 }
    else if c.isDigit then some { n' with part := .whole, wholeDigits := 1 }
    else none
  | .zero => point
  | .whole => if c.isDigit then some { n' with wholeDigits := n.wholeDigits + 1 } else point
  | .point => digit .fraction
  | .fraction => (digit .fraction).or mark
  | .mark => if c = '+' ∨ c = '-' then some { n' with part := .sign } else digit .power
  | .sign => digit .power
  | .power => digit .power

/-- The number that a numeral without a point or mark stands for. -/
def int (n : Numeral) : Int :=
  match n.written.reverse with
  | '-' :: digits => -natOfDigits digits
  | digits => natOfDigits digits

/-- The value of a numeral that nothing extends. A point or mark that still wants a digit is left
over from it. -/
def complete (n : Numeral) (leftover : Flaw) : Except Error Json :=
  if n.part = .minus then .error (.malformed .missingValue n.start)
  else if n.integral ∧ greatestDigits < n.wholeDigits then .error (.tooManyDigits n.wholeDigits)
  else if n.part.WantsDigit then .error (.malformed leftover n.opened)
  else if n.integral then .ok (.int n.int)
  else .ok (.real (String.ofList n.written.reverse))

end Numeral

end Json

end InstanceIdentity
