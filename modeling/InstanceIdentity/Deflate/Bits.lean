/-!
# Bits of a compressed sequence

Compressed data are read bit by bit, from the least bit of each byte on. Reading stops
where the data end too early, and where they have a flaw.

## Main definitions

* `Deflate.Flaw` — what can be wrong with compressed data
* `Deflate.Bits` — the bits that are left
* `Deflate.Reading` — what takes bits from the front, or stops
* `Deflate.bit`, `Deflate.number` — a bit, and a number of several bits
-/

namespace InstanceIdentity

namespace Deflate

/-- What can be wrong with compressed data. -/
inductive Flaw
  | header | method | headerFlags | headerCheck | window | dictionary
  | blockType | storedLength | tooManySymbols | codeLengths | lengthRepeat | noEndOfBlock
  | literalSet | distanceSet | literalCode | distanceCode | distance
  | dataCheck | dataLength
  deriving DecidableEq, Repr

/-- A flaw in words. -/
def Flaw.message : Flaw → String
  | .header => "incorrect header check"
  | .method => "unknown compression method"
  | .headerFlags => "unknown header flags set"
  | .headerCheck => "header crc mismatch"
  | .window => "invalid window size"
  | .dictionary => "need dictionary"
  | .blockType => "invalid block type"
  | .storedLength => "invalid stored block lengths"
  | .tooManySymbols => "too many length or distance symbols"
  | .codeLengths => "invalid code lengths set"
  | .lengthRepeat => "invalid bit length repeat"
  | .noEndOfBlock => "invalid code -- missing end-of-block"
  | .literalSet => "invalid literal/lengths set"
  | .distanceSet => "invalid distances set"
  | .literalCode => "invalid literal/length code"
  | .distanceCode => "invalid distance code"
  | .distance => "invalid distance too far back"
  | .dataCheck => "incorrect data check"
  | .dataLength => "incorrect length check"

/-- Why reading stops: the data end too early, or they have a flaw. -/
inductive Stop
  | unfinished
  | broken (f : Flaw)
  deriving DecidableEq, Repr

/-- The bits that are left: those of a byte that has been begun, and whole bytes. -/
structure Bits where
  current : List Bool
  bytes : List UInt8

/-- The bits of a byte, the least one first. -/
def bitsOf (b : UInt8) : List Bool := (List.range 8).map fun i => b.toNat.testBit i

/-- How many bits are left. -/
def Bits.size (b : Bits) : Nat := b.current.length + 8 * b.bytes.length

/-- The next bit. -/
def Bits.next? : Bits → Option (Bool × Bits)
  | ⟨bit :: current, bytes⟩ => some (bit, ⟨current, bytes⟩)
  | ⟨[], b :: bytes⟩ =>
    match bitsOf b with
    | bit :: current => some (bit, ⟨current, bytes⟩)
    | [] => none
  | ⟨[], []⟩ => none

/-- What takes bits from the front, or stops. -/
abbrev Reading := StateT Bits (Except Stop)

/-- The next bit. -/
def bit : Reading Bool := fun bits =>
  match bits.next? with
  | some found => .ok found
  | none => .error .unfinished

/-- A number of so many bits, the least one first. -/
def number : Nat → Reading Nat
  | 0 => pure 0
  | width + 1 => do
    let least ← bit
    let rest ← number width
    return least.toNat + 2 * rest

/-- Stops because of a flaw. -/
def broken {α : Type} (f : Flaw) : Reading α := throw (.broken f)

end Deflate

end InstanceIdentity
