import InstanceIdentity.Text.Basic

/-!
# UTF-7

ASCII characters stand for themselves, except for the plus sign. It opens a section in
which letters, digits, plus signs and slashes carry six bits each; sixteen bits are a
unit of UTF-16. Any other character closes the section, and a hyphen only closes it.
A section that holds nothing stands for the plus sign itself. Half of a surrogate pair is
kept where the other half is missing, unless the bytes end in a section before it.

## Main definitions

* `Utf7.Section`, `Utf7.Mode` — the bits of a section, and where the decoder stands
* `Utf7.State.step` — one more byte
* `Utf7.decode` — the code points of a byte sequence, `none` for each invalid part
-/

namespace InstanceIdentity

namespace Utf7

/-- The six bits of a character in a section. -/
def sextet? (b : Nat) : Option Nat :=
  if 65 ≤ b ∧ b ≤ 90 then some (b - 65)
  else if 97 ≤ b ∧ b ≤ 122 then some (b - 71)
  else if 48 ≤ b ∧ b ≤ 57 then some (b + 4)
  else if b = 43 then some 62
  else if b = 47 then some 63
  else none

/-- A section in progress: the bits that make no unit yet, how many they are, and the first half of
a surrogate pair that waits for the second. -/
structure Section where
  buffer : Nat
  bits : Nat
  high : Option CodePoint

/-- Where the decoder stands: outside of sections, just behind a plus sign, or in a section. -/
inductive Mode
  | direct
  | opened
  | within (s : Section)

/-- The code points so far, latest first, and where the decoder stands. -/
structure State where
  units : List (Option CodePoint)
  mode : Mode

/-- Adds half of a surrogate pair whose other half is missing. -/
def addHalf (units : List (Option CodePoint)) : Option CodePoint → List (Option CodePoint)
  | none => units
  | some half => some half :: units

/-- Adds a unit of UTF-16, perhaps behind the first half of a surrogate pair. -/
def addUnit (units : List (Option CodePoint)) (high : Option CodePoint) (u : CodePoint) :
    List (Option CodePoint) × Option CodePoint :=
  match high with
  | some h =>
    if u.IsLow then (some (CodePoint.join h u) :: units, none)
    else if u.IsHigh then (some h :: units, some u)
    else (some u :: some h :: units, none)
  | none => if u.IsHigh then (units, some u) else (some u :: units, none)

/-- Adds six bits to a section. Beyond a unit there are no bits, two or four. -/
def State.extend (units : List (Option CodePoint)) (s : Section) (sextet : Nat) : State :=
  let buffer := s.buffer * 64 + sextet
  let bits := s.bits + 6
  if 16 ≤ bits then
    let rest := if bits = 16 then 1 else if bits = 18 then 4 else 16
    let (units, high) := addUnit units s.high (.ofNat (buffer / rest))
    ⟨units, .within ⟨buffer % rest, bits - 16, high⟩⟩
  else ⟨units, .within ⟨buffer, bits, s.high⟩⟩

/-- Whether the bits that are left in a section cannot be padding. -/
def Section.isBroken (s : Section) : Bool := 6 ≤ s.bits || (0 < s.bits && s.buffer ≠ 0)

/-- A byte outside of sections. -/
def State.direct (units : List (Option CodePoint)) (b : Nat) : State :=
  if b = 43 then ⟨units, .opened⟩
  else if b < 0x80 then ⟨some (.ofNat b) :: units, .direct⟩
  else ⟨none :: units, .direct⟩

/-- A byte that closes a section. Behind a broken section it is lost. -/
def State.close (units : List (Option CodePoint)) (s : Section) (b : Nat) : State :=
  if s.isBroken then ⟨none :: units, .direct⟩
  else
    let units := if b < 0x80 then addHalf units s.high else units
    if b = 45 then ⟨units, .direct⟩ else .direct units b

/-- One more byte. -/
def State.step (s : State) (byte : UInt8) : State :=
  let b := byte.toNat
  match s.mode with
  | .direct => .direct s.units b
  | .opened =>
    match sextet? b with
    | some sextet => .extend s.units ⟨0, 0, none⟩ sextet
    | none =>
      if b = 45 then ⟨some (.ofChar '+') :: s.units, .direct⟩ else ⟨none :: s.units, .direct⟩
  | .within sectionSoFar =>
    match sextet? b with
    | some sextet => .extend s.units sectionSoFar sextet
    | none => .close s.units sectionSoFar b

/-- The code points when the bytes end. -/
def State.finish (s : State) : List (Option CodePoint) :=
  match s.mode with
  | .within sectionSoFar =>
    if sectionSoFar.high.isSome || sectionSoFar.isBroken then (none :: s.units).reverse
    else s.units.reverse
  | _ => s.units.reverse

/-- The code points of a byte sequence, `none` for each invalid part. -/
def decode (bytes : List UInt8) : List (Option CodePoint) :=
  (bytes.foldl State.step ⟨[], .direct⟩).finish

end Utf7

end InstanceIdentity
