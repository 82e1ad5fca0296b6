import InstanceIdentity.Deflate.Code

/-!
# Compressed blocks

Compressed data are a row of blocks. A block is stored as it is, or it is a row of
items in a prefix code: a byte, or a copy of bytes that came before. The code is a
fixed one, or the block begins with the lengths of its words, which are in a prefix
code of their own.

## Main definitions

* `Deflate.Item`, `Deflate.item` — the items of a block
* `Deflate.expand`, `Deflate.stored` — the bytes of a block
* `Deflate.inflate` — the bytes of all blocks
-/

namespace InstanceIdentity

namespace Deflate

/-- An item of a block: a byte, the end, or a copy of bytes that came before. -/
inductive Item
  | literal (b : UInt8)
  | ending
  | copy (length distance : Nat)

/-- The least lengths of a copy, and how many bits are added, by symbols from 257 on. -/
def copyLengths : List (Nat × Nat) :=
  [(3, 0), (4, 0), (5, 0), (6, 0), (7, 0), (8, 0), (9, 0), (10, 0), (11, 1), (13, 1), (15, 1),
   (17, 1), (19, 2), (23, 2), (27, 2), (31, 2), (35, 3), (43, 3), (51, 3), (59, 3), (67, 4),
   (83, 4), (99, 4), (115, 4), (131, 5), (163, 5), (195, 5), (227, 5), (258, 0)]

/-- The least distances of a copy, and how many bits are added, by symbols. -/
def copyDistances : List (Nat × Nat) :=
  [(1, 0), (2, 0), (3, 0), (4, 0), (5, 1), (7, 1), (9, 2), (13, 2), (17, 3), (25, 3), (33, 4),
   (49, 4), (65, 5), (97, 5), (129, 6), (193, 6), (257, 7), (385, 7), (513, 8), (769, 8),
   (1025, 9), (1537, 9), (2049, 10), (3073, 10), (4097, 11), (6145, 11), (8193, 12), (12289, 12),
   (16385, 13), (24577, 13)]

/-- The number that a symbol stands for in a table, with the bits that are added to it. -/
def tabled (table : List (Nat × Nat)) (symbol : Nat) (flaw : Flaw) : Reading Nat :=
  match table[symbol]? with
  | some (least, width) => do return least + (← number width)
  | none => broken flaw

/-- The next item of a block, in the codes of its literals and distances. -/
def item (literals distances : Code) : Reading Item := do
  let symbol ← literals.symbol .literalCode
  if symbol < 256 then return .literal (UInt8.ofNat symbol)
  else if symbol = 256 then return .ending
  else
    let length ← tabled copyLengths (symbol - 257) .literalCode
    let symbol ← distances.symbol .distanceCode
    return .copy length (← tabled copyDistances symbol .distanceCode)

/-- Bytes and a copy of some of them behind. The copy may go on into itself. -/
def copied (distance : Nat) : Nat → Array UInt8 → Array UInt8
  | 0, output => output
  | length + 1, output =>
    copied distance length (output.push (output.getD (output.size - distance) 0))

/-- What comes of compressed data: the bytes so far, and the bits that are left or why reading has
stopped. -/
abbrev Expanded := Array UInt8 × Except Stop Bits

/-- The bytes of a block behind those before it. There are at most as many items as bits. -/
def expand (literals distances : Code) : Nat → Array UInt8 → Bits → Expanded
  | 0, output, _ => (output, .error .unfinished)
  | most + 1, output, bits =>
    match item literals distances bits with
    | .error stop => (output, .error stop)
    | .ok (.literal b, bits) => expand literals distances most (output.push b) bits
    | .ok (.ending, bits) => (output, .ok bits)
    | .ok (.copy length distance, bits) =>
      if output.size < distance then (output, .error (.broken .distance))
      else expand literals distances most (copied distance length output) bits

/-- The bytes of a stored block behind those before it. Its length stands there twice, the second
time with all bits turned over. -/
def stored (output : Array UInt8) (bits : Bits) : Expanded :=
  match bits.bytes with
  | a :: b :: c :: d :: rest =>
    let length := a.toNat + 256 * b.toNat
    if length + (c.toNat + 256 * d.toNat) ≠ 0xFFFF ∨ a.toNat + c.toNat ≠ 0xFF then
      (output, .error (.broken .storedLength))
    else if rest.length < length then (output ++ rest, .error .unfinished)
    else (output ++ rest.take length, .ok ⟨[], rest.drop length⟩)
  | _ => (output, .error .unfinished)

/-! ## Codes of a block -/

/-- The fixed code of literals. -/
def fixedLiterals : Code :=
  .ofLengths
    (List.replicate 144 8 ++ List.replicate 112 9 ++ List.replicate 24 7 ++ List.replicate 8 8)

/-- The fixed code of distances. -/
def fixedDistances : Code := .ofLengths (List.replicate 32 5)

/-- The order in which the lengths of words for lengths are written. -/
def lengthOrder : List Nat :=
  [16, 17, 18, 0, 8, 7, 9, 6, 10, 5, 11, 4, 12, 3, 13, 2, 14, 1, 15]

/-- So many numbers of three bits. -/
def threeBitNumbers : Nat → Reading (List Nat)
  | 0 => pure []
  | count + 1 => do
    let n ← number 3
    return n :: (← threeBitNumbers count)

/-- The code of the lengths. Where it has no words, any bit is the length zero. -/
def lengthCode (written : List Nat) : Reading Code :=
  let lengths := (List.range 19).map fun symbol =>
    ((lengthOrder.zip written).lookup symbol).getD 0
  if lengths.all (· = 0) then pure ⟨[2], #[0, 0]⟩
  else
    match Code.full? lengths with
    | some code => pure code
    | none => broken .codeLengths

/-- The lengths that a symbol adds to others, which stand latest first. -/
def addedLengths (symbol : Nat) (before : List Nat) : Reading (List Nat) :=
  if symbol < 16 then pure [symbol]
  else if symbol = 16 then do
    let more ← number 2
    match before with
    | [] => broken .lengthRepeat
    | last :: _ => return List.replicate (3 + more) last
  else if symbol = 17 then do return List.replicate (3 + (← number 3)) 0
  else do return List.replicate (11 + (← number 7)) 0

/-- Reads lengths until there are as many as there should be. Each symbol adds at least one. -/
def readLengths (code : Code) (total : Nat) : Nat → List Nat → Reading (List Nat)
  | 0, before => pure before.reverse
  | most + 1, before =>
    if total ≤ before.length then pure before.reverse
    else do
      let symbol ← code.symbol .codeLengths
      let added ← addedLengths symbol before
      if total < before.length + added.length then broken .lengthRepeat
      else readLengths code total most (added ++ before)

/-- The codes that a block begins with. -/
def readCodes : Reading (Code × Code) := do
  let literalCount := 257 + (← number 5)
  let distanceCount := 1 + (← number 5)
  let lengthCount := 4 + (← number 4)
  if 286 < literalCount ∨ 30 < distanceCount then broken .tooManySymbols
  else
    let code ← lengthCode (← threeBitNumbers lengthCount)
    let total := literalCount + distanceCount
    let lengths ← readLengths code total total []
    if lengths.getD 256 0 = 0 then broken .noEndOfBlock
    else
      match Code.ofLengths? (lengths.take literalCount) with
      | none => broken .literalSet
      | some literals =>
        match Code.ofLengths? (lengths.drop literalCount) with
        | none => broken .distanceSet
        | some distances => return (literals, distances)

/-! ## Rows of blocks -/

/-- The head of a block: whether it is the last one, and its kind. -/
def blockHead : Reading (Bool × Nat) := do
  let isLast ← bit
  return (isLast, ← number 2)

/-- The bytes of a block of some kind behind those before it. -/
def block (kind : Nat) (output : Array UInt8) (bits : Bits) : Expanded :=
  match kind with
  | 0 => stored output bits
  | 1 => expand fixedLiterals fixedDistances (bits.size + 1) output bits
  | 2 =>
    match readCodes bits with
    | .error stop => (output, .error stop)
    | .ok ((literals, distances), bits) =>
      expand literals distances (bits.size + 1) output bits
  | _ => (output, .error (.broken .blockType))

/-- The bytes of a row of blocks behind those before it. There are fewer blocks than bits. -/
def blocks : Nat → Array UInt8 → Bits → Expanded
  | 0, output, _ => (output, .error .unfinished)
  | most + 1, output, bits =>
    match blockHead bits with
    | .error stop => (output, .error stop)
    | .ok ((isLast, kind), bits) =>
      match block kind output bits with
      | (output, .error stop) => (output, .error stop)
      | (output, .ok bits) => if isLast then (output, .ok bits) else blocks most output bits

/-- What comes of bytes: others, and the bytes that are left or why reading has stopped. -/
abbrev Unpacked := Array UInt8 × Except Stop (List UInt8)

/-- The bytes of compressed data, and the whole bytes behind the last block. -/
def inflate (bytes : List UInt8) : Unpacked :=
  let bits : Bits := ⟨[], bytes⟩
  match blocks (bits.size + 1) #[] bits with
  | (output, .ok bits) => (output, .ok bits.bytes)
  | (output, .error stop) => (output, .error stop)

end Deflate

end InstanceIdentity
