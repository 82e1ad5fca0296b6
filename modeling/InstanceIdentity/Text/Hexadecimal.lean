/-!
# Hexadecimal digits

Digits are written in lower case and read in either case.

## Main definitions

* `Text.hexDigit`, `Text.hex` — writing a digit, and a number of fixed width
* `Text.hexValue?` — reading a digit
-/

namespace InstanceIdentity

namespace Text

/-- The lower-case hexadecimal digit of a number below sixteen. -/
def hexDigit (n : Nat) : Char :=
  Char.ofNat (if n < 10 then 48 + n else 87 + n)

/-- A number in hexadecimal with a fixed count of digits. -/
def hex : Nat → Nat → List Char
  | 0, _ => []
  | width + 1, n => hex width (n / 16) ++ [hexDigit (n % 16)]

/-- The number that a hexadecimal digit stands for. -/
def hexValue? (c : Char) : Option (Fin 16) :=
  if '0' ≤ c ∧ c ≤ '9' then some (Fin.ofNat 16 (c.toNat - 48))
  else if 'a' ≤ c ∧ c ≤ 'f' then some (Fin.ofNat 16 (c.toNat - 87))
  else if 'A' ≤ c ∧ c ≤ 'F' then some (Fin.ofNat 16 (c.toNat - 55))
  else none

end Text

end InstanceIdentity
