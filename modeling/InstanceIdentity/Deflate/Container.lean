import InstanceIdentity.Deflate.Block

/-!
# Containers of compressed data

Compressed data come in a container with a header before them and a check behind them.
One container is short; the other one can carry a name and a comment, and several of
its kind in a row are one.

## Main definitions

* `Deflate.sums`, `Deflate.crc` — the checks of the two containers
* `Deflate.unpackShort` — the bytes in a short container
* `Deflate.unpackMember` — the bytes in a container of the other kind
-/

namespace InstanceIdentity

namespace Deflate

/-- The check of the short container: two sums modulo a prime. -/
def sums (bytes : Array UInt8) : Nat :=
  let (a, b) := bytes.foldl
    (fun (a, b) byte => ((a + byte.toNat) % 65521, (b + a + byte.toNat) % 65521)) (1, 0)
  65536 * b + a

/-- One bit further in a division of polynomials. -/
def crcShift (c : UInt32) : UInt32 :=
  if c &&& 1 = 1 then (c >>> 1) ^^^ 0xEDB88320 else c >>> 1

/-- One byte further. -/
def crcStep (c : UInt32) (b : UInt8) : UInt32 :=
  (List.range 8).foldl (fun c _ => crcShift c) (c ^^^ b.toUInt32)

/-- The check of the other container: the remainder of a division of polynomials. -/
def crc (bytes : Array UInt8) : Nat := (bytes.foldl crcStep 0xFFFFFFFF ^^^ 0xFFFFFFFF).toNat

/-- The number that bytes write, the least one first. -/
def littleEndian (bytes : List UInt8) : Nat := bytes.foldr (fun b n => b.toNat + 256 * n) 0

/-- So many bytes from the front, and the rest. -/
def split (count : Nat) (bytes : List UInt8) : Except Stop (List UInt8 × List UInt8) :=
  if bytes.length < count then .error .unfinished
  else .ok (bytes.take count, bytes.drop count)

/-- Unpacks the data in a container whose header is read by one function and whose end by
another. -/
def unpackBetween (header : List UInt8 → Except Stop (List UInt8))
    (trailer : Array UInt8 → List UInt8 → Except Stop (List UInt8)) (bytes : List UInt8) :
    Unpacked :=
  match header bytes with
  | .error stop => (#[], .error stop)
  | .ok bytes =>
    match inflate bytes with
    | (output, .ok rest) => (output, trailer output rest)
    | (output, .error stop) => (output, .error stop)

/-! ## The short container -/

/-- The bytes behind the header of a short container. -/
def shortHeader (bytes : List UInt8) : Except Stop (List UInt8) :=
  match bytes with
  | a :: b :: rest =>
    if (256 * a.toNat + b.toNat) % 31 ≠ 0 then .error (.broken .header)
    else if a.toNat % 16 ≠ 8 then .error (.broken .method)
    else if 7 < a.toNat / 16 then .error (.broken .window)
    else if b.toNat.testBit 5 then do
      let _ ← split 4 rest
      .error (.broken .dictionary)
    else .ok rest
  | _ => .error .unfinished

/-- The bytes behind the check of a short container. -/
def shortTrailer (output : Array UInt8) (bytes : List UInt8) : Except Stop (List UInt8) := do
  let (check, rest) ← split 4 bytes
  if littleEndian check.reverse = sums output then .ok rest else .error (.broken .dataCheck)

/-- The bytes in a short container. -/
def unpackShort : List UInt8 → Unpacked := unpackBetween shortHeader shortTrailer

/-! ## The long container -/

/-- The bytes behind a text that ends with zero. -/
def skipText (bytes : List UInt8) : Except Stop (List UInt8) :=
  match bytes.dropWhile (· ≠ 0) with
  | [] => .error .unfinished
  | _ :: rest => .ok rest

/-- The bytes behind the parts of a header that its flags announce: further fields, a name, a
comment and a check of the header. -/
def skipParts (flags : Nat) (all bytes : List UInt8) : Except Stop (List UInt8) := do
  let bytes ←
    if flags.testBit 2 then do
      let (length, bytes) ← split 2 bytes
      let (_, bytes) ← split (littleEndian length) bytes
      .ok bytes
    else .ok bytes
  let bytes ← if flags.testBit 3 then skipText bytes else .ok bytes
  let bytes ← if flags.testBit 4 then skipText bytes else .ok bytes
  if flags.testBit 1 then
    let (check, rest) ← split 2 bytes
    let header := (all.take (all.length - bytes.length)).toArray
    if littleEndian check = crc header % 65536 then .ok rest else .error (.broken .headerCheck)
  else .ok bytes

/-- The bytes behind the header of a long container. -/
def memberHeader (bytes : List UInt8) : Except Stop (List UInt8) := do
  let (mark, rest) ← split 2 bytes
  if mark ≠ [0x1F, 0x8B] then .error (.broken .header)
  else
    let (features, rest) ← split 2 rest
    let flags := (features.getD 1 0).toNat
    if features.getD 0 0 ≠ 8 then .error (.broken .method)
    else if 32 ≤ flags then .error (.broken .headerFlags)
    else
      let (_, rest) ← split 6 rest
      skipParts flags bytes rest

/-- The bytes behind the check of a long container. -/
def memberTrailer (output : Array UInt8) (bytes : List UInt8) : Except Stop (List UInt8) := do
  let (check, rest) ← split 4 bytes
  if littleEndian check ≠ crc output then .error (.broken .dataCheck)
  else
    let (length, rest) ← split 4 rest
    if littleEndian length = output.size % 4294967296 then .ok rest
    else .error (.broken .dataLength)

/-- The bytes in a long container. -/
def unpackMember : List UInt8 → Unpacked := unpackBetween memberHeader memberTrailer

end Deflate

end InstanceIdentity
