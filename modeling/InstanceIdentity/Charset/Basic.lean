import InstanceIdentity.Charset.CodePage
import InstanceIdentity.Charset.EastAsian.Basic
import InstanceIdentity.Charset.Escaped
import InstanceIdentity.Charset.Utf7
import InstanceIdentity.Charset.Utf8
import InstanceIdentity.Charset.Utf16

/-!
# Charsets

The encodings that a response can name, and the text of a byte sequence in one of
them. Decoding is strict, and then invalid bytes have no text at all, or it puts the
replacement character in the place of each invalid part.

## Main definitions

* `Charset` — the encodings
* `Charset.units` — the code points of a byte sequence and its invalid parts
* `Charset.decode?`, `Charset.decodeReplacing` — the text of a byte sequence
-/

namespace InstanceIdentity

/-- An encoding of text. Without a byte order, UTF-16 and UTF-32 take it from the byte order mark
and are little-endian where there is none. The marked form of UTF-8 drops the mark. Escaped text has
a full and a raw form. -/
inductive Charset
  | ascii
  | latin1
  | page (p : CodePage)
  | eastAsian (e : EastAsian)
  | escaped (raw : Bool)
  | utf7
  | utf8 (marked : Bool)
  | utf16 (order : Option ByteOrder)
  | utf32 (order : Option ByteOrder)
  deriving DecidableEq, Repr

namespace Charset

/-- Characters and invalid parts with the code points of the characters. -/
def ofCharacters (characters : List (Option Char)) : List (Option CodePoint) :=
  characters.map (Option.map CodePoint.ofChar)

/-- The code points of a byte sequence, `none` for each invalid part. Only two encodings can write
surrogates that are in no pair. -/
def units (charset : Charset) (bytes : List UInt8) : List (Option CodePoint) :=
  match charset with
  | .ascii =>
    ofCharacters
      (bytes.map fun b => if b.toNat < 0x80 then some (Char.ofNat b.toNat) else none)
  | .latin1 => ofCharacters (bytes.map fun b => some (Char.ofNat b.toNat))
  | .page p => ofCharacters (p.units bytes)
  | .eastAsian e => ofCharacters (e.units bytes)
  | .escaped raw => decodePlain (if raw then Escaped.rawFront else Escaped.front) bytes
  | .utf7 => Utf7.decode bytes
  | .utf8 marked =>
    match marked, bytes with
    | true, 0xEF :: 0xBB :: 0xBF :: rest => ofCharacters (Utf8.decode rest)
    | _, bytes => ofCharacters (Utf8.decode bytes)
  | .utf16 (some order) => ofCharacters (Utf16.decode order bytes)
  | .utf16 none =>
    match bytes with
    | 0xFF :: 0xFE :: rest => ofCharacters (Utf16.decode .little rest)
    | 0xFE :: 0xFF :: rest => ofCharacters (Utf16.decode .big rest)
    | bytes => ofCharacters (Utf16.decode .little bytes)
  | .utf32 (some order) => ofCharacters (Utf32.decode order bytes)
  | .utf32 none =>
    match bytes with
    | 0xFF :: 0xFE :: 0x00 :: 0x00 :: rest => ofCharacters (Utf32.decode .little rest)
    | 0x00 :: 0x00 :: 0xFE :: 0xFF :: rest => ofCharacters (Utf32.decode .big rest)
    | bytes => ofCharacters (Utf32.decode .little bytes)

/-- The text of a byte sequence that is valid throughout. -/
def decode? (charset : Charset) (bytes : List UInt8) : Option Text :=
  let units := charset.units bytes
  if units.all Option.isSome then some (units.filterMap id) else none

/-- The text of a byte sequence, with the replacement character for each invalid part. -/
def decodeReplacing (charset : Charset) (bytes : List UInt8) : Text :=
  (charset.units bytes).map fun u => u.getD .replacement

end Charset

end InstanceIdentity
