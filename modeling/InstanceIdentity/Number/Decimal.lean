import InstanceIdentity.Number.Binary64

/-!
# Decimal numerals

A decimal numeral denotes digits scaled by a power of ten. Its binary value is the
nearest one. Numerals that lie far outside the range of the binary format are
recognised by the place of their first digit, so that an extreme exponent costs
nothing.

## Main definitions

* `Decimal` — a sign, digits and a power of ten
* `Decimal.toBinary64` — the nearest binary number
* `Binary64.ofText?` — the number that a numeral, `inf` or `nan` denotes
-/

namespace InstanceIdentity

/-- The number `digits * 10 ^ exponent` with a sign. -/
structure Decimal where
  negative : Bool
  digits : Nat
  exponent : Int
  deriving DecidableEq, Repr

/-- The number that a list of decimal digits denotes. -/
def natOfDigits (digits : List Char) : Nat :=
  digits.foldl (fun n c => 10 * n + (c.toNat - 48)) 0

namespace Decimal

/-- The nearest binary number. A numeral of 311 or more places before the point is infinite, and one
whose first digit stands after 330 or more zeros is zero. -/
def toBinary64 (d : Decimal) : Binary64 :=
  let places := (Nat.toDigits 10 d.digits).length + d.exponent
  if d.digits = 0 ∨ places < -330 then .zero d.negative
  else if 310 < places then .infinity d.negative
  else
    .nearest d.negative (d.digits * tenTo d.exponent.toNat * twoTo 1074) (tenTo (-d.exponent).toNat)

/-- Reads digits with an optional point and an optional exponent. -/
def ofChars? (negative : Bool) (s : List Char) : Option Decimal :=
  let whole := s.takeWhile Char.isDigit
  let (fraction, rest) :=
    match s.dropWhile Char.isDigit with
    | '.' :: rest => (rest.takeWhile Char.isDigit, rest.dropWhile Char.isDigit)
    | rest => ([], rest)
  let scaled (exponent : Int) : Decimal :=
    ⟨negative, natOfDigits (whole ++ fraction), exponent - fraction.length⟩
  if whole ++ fraction = [] then none
  else
    match rest with
    | [] => some (scaled 0)
    | mark :: rest =>
      if mark = 'e' ∨ mark = 'E' then
        let (negativePower, power) :=
          match rest with
          | '-' :: power => (true, power)
          | '+' :: power => (false, power)
          | power => (false, power)
        if power ≠ [] ∧ power.all Char.isDigit then
          some (scaled (if negativePower then -natOfDigits power else natOfDigits power))
        else none
      else none

end Decimal

/-- The number that a text denotes: a decimal numeral, `inf` or `nan`, perhaps with a sign. Letters
count in either case. -/
def Binary64.ofText? (s : String) : Option Binary64 :=
  let (negative, magnitude) :=
    match s.toList with
    | '-' :: rest => (true, rest)
    | '+' :: rest => (false, rest)
    | rest => (false, rest)
  let magnitude := magnitude.map Char.toLower
  if magnitude = "inf".toList ∨ magnitude = "infinity".toList then some (.infinity negative)
  else if magnitude = "nan".toList then some .nan
  else (Decimal.ofChars? negative magnitude).map Decimal.toBinary64

end InstanceIdentity
