/-!
# UTF-16 and UTF-32

Both take their units in one of two byte orders. In UTF-16 a surrogate that has no
partner is an invalid part of its own; what ends in the middle of a unit or of a
pair ends with one invalid part. In UTF-32 a unit that is no character is an invalid
part, and so are the bytes of an incomplete unit at the end.

## Main definitions

* `ByteOrder`
* `Utf16.decode`, `Utf32.decode` — the characters of a byte sequence, `none` for each
  invalid part
-/

namespace InstanceIdentity

/-- Which end of a unit comes first. -/
inductive ByteOrder | little | big
  deriving DecidableEq, Repr

namespace Utf16

/-- The number of a two-byte unit. -/
def unit (order : ByteOrder) (a b : UInt8) : Nat :=
  match order with
  | .little => a.toNat + 0x100 * b.toNat
  | .big => 0x100 * a.toNat + b.toNat

/-- The units of a byte sequence, and whether a byte is left over. -/
def units (order : ByteOrder) : List UInt8 → List Nat → List Nat × Bool
  | a :: b :: rest, before => units order rest (unit order a b :: before)
  | [_], before => (before.reverse, true)
  | [], before => (before.reverse, false)

/-- Goes through the units with the result so far, latest first, and perhaps a first half that waits
for its second. -/
def pair : List Nat → Option Nat → List (Option Char) → List (Option Char) × Bool
  | [], waiting, before => (before, waiting.isSome)
  | u :: rest, waiting, before =>
    if 0xDC00 ≤ u ∧ u < 0xE000 then
      match waiting with
      | some high =>
        pair rest none
          (some (Char.ofNat (0x10000 + high % 0x400 * 0x400 + u % 0x400)) :: before)
      | none => pair rest none (none :: before)
    else
      let before := if waiting.isSome then none :: before else before
      if 0xD800 ≤ u ∧ u < 0xDC00 then pair rest (some u) before
      else pair rest none (some (Char.ofNat u) :: before)

/-- The characters of a byte sequence, `none` for each invalid part. -/
def decode (order : ByteOrder) (bytes : List UInt8) : List (Option Char) :=
  let (numbers, oddByte) := units order bytes []
  let (characters, halfPair) := pair numbers none []
  (if oddByte || halfPair then none :: characters else characters).reverse

end Utf16

namespace Utf32

/-- The number of a four-byte unit. -/
def unit (order : ByteOrder) (a b c d : UInt8) : Nat :=
  match order with
  | .little => a.toNat + 0x100 * (b.toNat + 0x100 * (c.toNat + 0x100 * d.toNat))
  | .big => 0x100 * (0x100 * (0x100 * a.toNat + b.toNat) + c.toNat) + d.toNat

/-- The character with a number, if there is one. -/
def character? (n : Nat) : Option Char :=
  if n.isValidChar then some (Char.ofNat n) else none

/-- Goes through the bytes with the result so far, latest first. -/
def collect (order : ByteOrder) : List UInt8 → List (Option Char) → List (Option Char)
  | a :: b :: c :: d :: rest, before =>
    collect order rest (character? (unit order a b c d) :: before)
  | [], before => before.reverse
  | _, before => (none :: before).reverse

/-- The characters of a byte sequence, `none` for each invalid part. -/
def decode (order : ByteOrder) (bytes : List UInt8) : List (Option Char) := collect order bytes []

end Utf32

end InstanceIdentity
