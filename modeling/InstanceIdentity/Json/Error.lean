import InstanceIdentity.Number.Integer

/-!
# Why a text is not JSON

A text is refused for a flaw at a place in it, for a whole number that is too long,
or for nesting that is too deep. Nesting takes calls, and what is deep enough leaves none
for the report of a flaw, which is refused for that instead.

## Main definitions

* `Json.Place` — a position in a text, as offset and as line and column
* `Json.Flaw` — what is wrong at a place
* `Json.Error`, `Json.Error.message` — the causes and their wording
* `Json.Error.withLeft` — a refusal when only so many calls are left
-/

namespace InstanceIdentity

namespace Json

/-- A position in a text. Lines and columns count from one, the offset from zero. -/
structure Place where
  line : Nat
  column : Nat
  offset : Nat
  deriving DecidableEq, Repr

namespace Place

/-- The position of the first character. -/
def first : Place := ⟨1, 1, 0⟩

/-- The position after a character. -/
def next (p : Place) (c : Char) : Place :=
  if c = '\n' then ⟨p.line + 1, 1, p.offset + 1⟩ else ⟨p.line, p.column + 1, p.offset + 1⟩

/-- A position in words. -/
def text (p : Place) : String :=
  "line " ++ toString p.line ++ " column " ++ toString p.column ++ " (char " ++
    toString p.offset ++ ")"

end Place

/-- What is wrong at a place. -/
inductive Flaw
  | byteOrderMark
  | extraData
  | missingValue
  | missingComma
  | missingName
  | missingColon
  | unterminatedString
  | controlCharacter
  | unicodeEscape
  | unknownEscape
  deriving DecidableEq, Repr

/-- A flaw in words. -/
def Flaw.phrase : Flaw → String
  | .byteOrderMark => "Unexpected UTF-8 BOM (decode using utf-8-sig)"
  | .extraData => "Extra data"
  | .missingValue => "Expecting value"
  | .missingComma => "Expecting ',' delimiter"
  | .missingName => "Expecting property name enclosed in double quotes"
  | .missingColon => "Expecting ':' delimiter"
  | .unterminatedString => "Unterminated string starting at"
  | .controlCharacter => "Invalid control character at"
  | .unicodeEscape => "Invalid \\uXXXX escape"
  | .unknownEscape => "Invalid \\escape"

/-- The values that hold other values. -/
inductive Container | array | object
  deriving DecidableEq, Repr

/-- Why a text is not JSON. The last cause is that no call was left for something else than an array
or object, be it a call of another kind of object or not. -/
inductive Error
  | malformed (flaw : Flaw) (place : Place)
  | tooManyDigits (digits : Nat)
  | tooDeep (container : Container)
  | noCall (isObject : Bool)
  deriving DecidableEq, Repr

/-- A refusal in words. -/
def Error.message : Error → String
  | .malformed flaw place => flaw.phrase ++ ": " ++ place.text
  | .tooManyDigits digits => excessMessage (some digits)
  | .tooDeep .array =>
    "maximum recursion depth exceeded while decoding a JSON array from a unicode string"
  | .tooDeep .object =>
    "maximum recursion depth exceeded while decoding a JSON object from a unicode string"
  | .noCall true => "maximum recursion depth exceeded while calling a Python object"
  | .noCall false => "maximum recursion depth exceeded"

/-- Whether a flaw is reported from within the arrays and objects that are open. The other flaws are
reported when they have been left. -/
def Flaw.isReportedInside : Flaw → Bool
  | .byteOrderMark | .extraData | .missingValue => false
  | _ => true

/-- What becomes of a refusal when so many calls are left. To report a flaw takes three of them, one
within the other. -/
def Error.withLeft (left : Nat) : Error → Error
  | .malformed flaw place =>
    if flaw.isReportedInside ∧ left < 3 then .noCall (left ≠ 1) else .malformed flaw place
  | e => e

end Json

end InstanceIdentity
