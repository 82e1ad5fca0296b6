import InstanceIdentity.Text.Hexadecimal

/-!
# UTF-8

The decoder goes through the bytes once. Between two bytes it knows how many bytes
the character in progress still wants, its bits so far, and between which bounds
the next byte has to lie. The bounds exclude overlong forms, surrogates and numbers
beyond the last code point at the earliest byte that shows them, so an invalid part
is a longest prefix of some valid character and counts as one.

## Main definitions

* `Utf8.Pending` — a character in progress
* `Utf8.begin`, `Utf8.Pending.next` — the first byte and a later one
* `Utf8.decode` — the characters of a byte sequence, `none` for each invalid part
* `Utf8.Malformed`, `Utf8.read` — the characters of a valid byte sequence, or the first invalid part
-/

namespace InstanceIdentity

namespace Utf8

/-- A character in progress: the bytes it still wants, its bits so far, and the bounds of the next
byte. -/
structure Pending where
  wanted : Nat
  bits : Nat
  least : Nat
  greatest : Nat
  deriving DecidableEq, Repr

/-- What a byte leads to: a unit of the result or a character in progress. -/
inductive Progress
  | unit (u : Option Char)
  | pending (p : Pending)

/-- The first byte of a character. -/
def begin (b : Nat) : Progress :=
  if b < 0x80 then .unit (some (Char.ofNat b))
  else if b < 0xC2 then .unit none
  else if b < 0xE0 then .pending ⟨1, b - 0xC0, 0x80, 0xBF⟩
  else if b < 0xF0 then
    .pending ⟨2, b - 0xE0, if b = 0xE0 then 0xA0 else 0x80, if b = 0xED then 0x9F else 0xBF⟩
  else if b < 0xF5 then
    .pending ⟨3, b - 0xF0, if b = 0xF0 then 0x90 else 0x80, if b = 0xF4 then 0x8F else 0xBF⟩
  else .unit none

/-- A later byte of a character, if the byte can continue it. -/
def Pending.next (p : Pending) (b : Nat) : Option Progress :=
  if p.least ≤ b ∧ b ≤ p.greatest then
    let bits := p.bits * 0x40 + b % 0x40
    if p.wanted ≤ 1 then some (.unit (some (Char.ofNat bits)))
    else some (.pending ⟨p.wanted - 1, bits, 0x80, 0xBF⟩)
  else none

/-- The state between two bytes: the units so far, latest first, and the character in progress. -/
structure State where
  units : List (Option Char)
  pending : Option Pending

/-- The state after a byte has led somewhere. -/
def State.advance (units : List (Option Char)) : Progress → State
  | .unit u => ⟨u :: units, none⟩
  | .pending p => ⟨units, some p⟩

/-- The state after one more byte. A byte that cannot continue a character ends an invalid part and
begins anew. -/
def State.step (s : State) (b : UInt8) : State :=
  match s.pending with
  | none => advance s.units (begin b.toNat)
  | some p =>
    match p.next b.toNat with
    | some progress => advance s.units progress
    | none => advance (none :: s.units) (begin b.toNat)

/-- The units when the bytes end: a character in progress is an invalid part. -/
def State.finish (s : State) : List (Option Char) :=
  match s.pending with
  | none => s.units.reverse
  | some _ => (none :: s.units).reverse

/-- The characters of a byte sequence, `none` for each invalid part. -/
def decode (bytes : List UInt8) : List (Option Char) :=
  (bytes.foldl State.step ⟨[], none⟩).finish

/-- Why a part of a byte sequence is invalid. -/
inductive Reason | start | continuation | unfinished
  deriving DecidableEq, Repr

/-- A reason in words. -/
def Reason.phrase : Reason → String
  | .start => "invalid start byte"
  | .continuation => "invalid continuation byte"
  | .unfinished => "unexpected end of data"

/-- An invalid part: its first byte, where it stands, how long it is, and what is wrong with it. -/
structure Malformed where
  byte : UInt8
  position : Nat
  length : Nat
  reason : Reason
  deriving DecidableEq, Repr

/-- The invalid part in words. -/
def Malformed.message (m : Malformed) : String :=
  "'utf-8' codec can't decode " ++
    (if m.length = 1 then
      "byte 0x" ++ String.ofList (Text.hex 2 m.byte.toNat) ++ " in position " ++
        toString m.position
    else
      "bytes in position " ++ toString m.position ++ "-" ++
        toString (m.position + m.length - 1)) ++
    ": " ++ m.reason.phrase

/-- A character in progress among bytes: the byte that began it, and how many bytes it has. -/
structure Begun where
  byte : UInt8
  length : Nat
  pending : Pending

/-- The part that a character in progress is when it cannot go on at a position. -/
def Begun.malformed (b : Begun) (position : Nat) (reason : Reason) : Malformed :=
  ⟨b.byte, position - b.length, b.length, reason⟩

/-- Reads bytes from a position on, with the characters before it, latest first, and perhaps a
character in progress. -/
def readFrom (position : Nat) (before : List Char) :
    Option Begun → List UInt8 → Except Malformed (List Char)
  | none, [] => .ok before.reverse
  | some begun, [] => .error (begun.malformed position .unfinished)
  | none, b :: rest =>
    match begin b.toNat with
    | .unit (some c) => readFrom (position + 1) (c :: before) none rest
    | .unit none => .error ⟨b, position, 1, .start⟩
    | .pending p => readFrom (position + 1) before (some ⟨b, 1, p⟩) rest
  | some begun, b :: rest =>
    match begun.pending.next b.toNat with
    | some (.unit (some c)) => readFrom (position + 1) (c :: before) none rest
    | some (.pending p) =>
      readFrom (position + 1) before (some ⟨begun.byte, begun.length + 1, p⟩) rest
    | _ => .error (begun.malformed position .continuation)

/-- The characters of a byte sequence that is valid throughout, or its first invalid part. -/
def read (bytes : List UInt8) : Except Malformed (List Char) := readFrom 0 [] none bytes

end Utf8

end InstanceIdentity
