import InstanceIdentity.Charset.Name
import InstanceIdentity.Idna.Punycode
import InstanceIdentity.Text.Basic

/-!
# The text of a body

A body whose charset is named is decoded with it. Without a name, or with an empty
one, the first four bytes tell: a byte order mark names the encoding, and otherwise
the zero bytes do, since JSON text begins with two characters of one byte each. A
body of fewer bytes is taken for UTF-8, and so is one that is invalid in the
encoding that was detected.

## Main definitions

* `Charset.detect?` — the encoding that the first four bytes show
* `CharsetError` — why a named charset cannot be used
* `bodyText` — the text of a body
-/

namespace InstanceIdentity

/-- The encoding that the first four bytes show. -/
def Charset.detect? : List UInt8 → Option Charset
  | a :: b :: c :: d :: _ =>
    if [a, b, c, d] = [0xFF, 0xFE, 0, 0] ∨ [a, b, c, d] = [0, 0, 0xFE, 0xFF] then
      some (.utf32 none)
    else if [a, b, c] = [0xEF, 0xBB, 0xBF] then some (.utf8 true)
    else if [a, b] = [0xFF, 0xFE] ∨ [a, b] = [0xFE, 0xFF] then some (.utf16 none)
    else
      match decide (a = 0), decide (b = 0), decide (c = 0), decide (d = 0) with
      | false, false, false, false => some (.utf8 false)
      | true, false, true, false => some (.utf16 (some .big))
      | false, true, false, true => some (.utf16 (some .little))
      | true, true, true, false => some (.utf32 (some .big))
      | false, true, true, true => some (.utf32 (some .little))
      | _, _, _, _ => none
  | _ => none

/-- Why a named charset cannot be used: its name holds a null character, it is none that can be
decoded with replacements, or a byte among digits is no ASCII character. -/
inductive CharsetError
  | nullInName
  | unusable (name complaint : String)
  | outsideAscii (b : Char) (place : Nat)
  deriving DecidableEq, Repr

/-- The reason in words. -/
def CharsetError.message : CharsetError → String
  | .nullInName => "embedded null character"
  | .unusable name complaint =>
    "decoding with '" ++ name ++ "' codec failed (UnicodeError: " ++ complaint ++ ")"
  | .outsideAscii b place =>
    "'ascii' codec can't decode byte 0x" ++ String.ofList (Text.hex 2 b.toNat) ++ " in position "
      ++ toString place ++ ": ordinal not in range(128)"

/-- The text of a body in Punycode. The replacement character stands for each byte outside of ASCII
before the digits. -/
def punycodeText (body : List UInt8) : Except CharsetError Text :=
  let (basic, digits) := Text.splitLast '-' (body.map fun b => Char.ofNat b.toNat)
  match digits.findIdx? fun c => 0x80 ≤ c.toNat with
  | some place => .error (.outsideAscii (digits.getD place '\x00') place)
  | none =>
    let basic := basic.map fun c => if c.toNat < 0x80 then CodePoint.ofChar c else .replacement
    .ok (Punycode.decodeReplacing basic digits)

/-- The text of a body in the named encoding. A name that stands for none means UTF-8. -/
def textIn (name : String) (body : List UInt8) : Except CharsetError Text :=
  if name.toList.contains '\x00' then .error .nullInName
  else
    match Charset.find? name with
    | some (.charset c) => .ok (c.decodeReplacing body)
    | some .punycode => punycodeText body
    | some (.unusable complaint) => .error (.unusable name complaint)
    | none => .ok (Charset.decodeReplacing (.utf8 false) body)

/-- The text of a body in the encoding that it shows, or in UTF-8. -/
def textDetected (body : List UInt8) : Text :=
  ((Charset.detect? body).bind fun charset => charset.decode? body).getD
    (Charset.decodeReplacing (.utf8 false) body)

/-- The text of a body whose charset may be named. An empty body has an empty text in any case. -/
def bodyText (charset : Option String) (body : List UInt8) : Except CharsetError Text :=
  match charset with
  | none => .ok (textDetected body)
  | some name =>
    if name = "" then .ok (textDetected body)
    else if body = [] then .ok []
    else textIn name body

end InstanceIdentity
