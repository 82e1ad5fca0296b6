import InstanceIdentity.Text.Hexadecimal
import InstanceIdentity.Unicode.Alphanumeric

/-!
# Percent encoding

A character that an address cannot hold as it is stands there as its UTF-8 bytes,
each written as a percent sign and two upper-case hexadecimal digits.

## Main definitions

* `Url.isUnreserved`, `Url.isSubDelimiter` — character classes of addresses
* `Url.encodeComponent` — encodes what a component may not hold
* `Url.decodeUnreserved?` — undoes the encoding of characters that never need it
* `Url.requote` — brings a whole address to its canonical encoding
-/

namespace InstanceIdentity

namespace Url

/-- The characters that stand for themselves everywhere. -/
def isUnreserved (c : Char) : Bool :=
  c.isAlphanum || c = '-' || c = '.' || c = '_' || c = '~'

/-- The reserved characters that are delimiters inside a component. -/
def isSubDelimiter (c : Char) : Bool := "!$&'()*+,;=".toList.contains c

/-- The reserved characters, delimiters between components included. -/
def isReserved (c : Char) : Bool := isSubDelimiter c || "#/:?@[]".toList.contains c

/-- The characters of the part before a host. -/
def isUserinfoChar (c : Char) : Bool := isUnreserved c || isSubDelimiter c || c = ':'

/-- The characters of a path. -/
def isPathChar (c : Char) : Bool := isUserinfoChar c || c = '@' || c = '/'

/-- The characters of a query or a fragment. -/
def isQueryChar (c : Char) : Bool := isPathChar c || c = '?'

/-- Whether a character is a hexadecimal digit. -/
def isHexDigit (c : Char) : Bool := (Text.hexValue? c).isSome

/-- A byte in percent encoding. -/
def percentByte (b : UInt8) : List Char := '%' :: (Text.hex 2 b.toNat).map Char.toUpper

/-- A character in percent encoding. -/
def percentChar (c : Char) : List Char := (String.utf8EncodeChar c).flatMap percentByte

/-- Keeps the characters of a class and encodes the others. -/
def quote (keep : Char → Bool) (s : List Char) : List Char :=
  s.flatMap fun c => if keep c then [c] else percentChar c

/-- Whether two hexadecimal digits follow each percent sign. -/
def percentsEscape : List Char → Bool
  | [] => true
  | '%' :: a :: b :: rest => isHexDigit a && isHexDigit b && percentsEscape rest
  | c :: rest => c ≠ '%' && percentsEscape rest

/-- Writes the digits of each escape in upper case. -/
def upperEscapes : List Char → List Char
  | [] => []
  | '%' :: a :: b :: rest =>
    if isHexDigit a && isHexDigit b then '%' :: a.toUpper :: b.toUpper :: upperEscapes rest
    else '%' :: upperEscapes (a :: b :: rest)
  | c :: rest => c :: upperEscapes rest

/-- Encodes the characters that a component may not hold. Where each percent sign begins an escape,
the escapes stay; otherwise every percent sign is encoded. -/
def encodeComponent (allowed : Char → Bool) (s : List Char) : List Char :=
  let escaped := percentsEscape s
  quote (fun c => allowed c || (c = '%' && escaped)) (upperEscapes s)

/-- Undoes the encoding of unreserved characters where each percent sign begins an escape, and
writes the digits of the other escapes in upper case. -/
def normalEscapes : List Char → List Char
  | [] => []
  | '%' :: a :: b :: rest =>
    match Text.hexValue? a, Text.hexValue? b with
    | some high, some low =>
      let c := Char.ofNat (16 * high.val + low.val)
      if isUnreserved c then c :: normalEscapes rest
      else '%' :: a.toUpper :: b.toUpper :: normalEscapes rest
    | _, _ => '%' :: normalEscapes (a :: b :: rest)
  | c :: rest => c :: normalEscapes rest

/-- The value of a hexadecimal digit, which may be a decimal digit of any script. -/
def anyHexValue? (c : Char) : Option Nat :=
  ((Text.hexValue? c).map Fin.val).or (Unicode.digitValue? c)

/-- Undoes the encoding of unreserved characters. There is no answer where a percent sign stands
before two letters or digits that are not hexadecimal. -/
def decodeUnreserved? : List Char → Option (List Char)
  | [] => some []
  | '%' :: a :: b :: rest =>
    if Unicode.isAlphanumeric a && Unicode.isAlphanumeric b then
      match anyHexValue? a, anyHexValue? b with
      | some high, some low =>
        let c := Char.ofNat (16 * high + low)
        (decodeUnreserved? rest).map fun rest =>
          if isUnreserved c then c :: rest else '%' :: a :: b :: rest
      | _, _ => none
    else (decodeUnreserved? (a :: b :: rest)).map ('%' :: ·)
  | c :: rest => (decodeUnreserved? rest).map (c :: ·)

/-- An address in canonical encoding: unreserved characters stand for themselves, and all but
reserved ones and percent signs are encoded. In an address with a percent sign that can begin no
escape, percent signs are encoded too. -/
def requote (s : List Char) : List Char :=
  match decodeUnreserved? s with
  | some s => quote (fun c => isUnreserved c || isReserved c || c = '%') s
  | none => quote (fun c => isUnreserved c || isReserved c) s

end Url

end InstanceIdentity
