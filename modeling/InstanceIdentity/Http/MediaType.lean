import InstanceIdentity.Text.Blank
import InstanceIdentity.Text.Split

/-!
# Media types

The content type of a response names a type and may add parameters, among them the
charset of the body.

## Main definitions

* `MediaType`, `MediaType.parse` — a type and its parameters
* `MediaType.charset?` — the charset that a content type names or implies
-/

namespace InstanceIdentity

/-- A type and its parameters, names in lower case. -/
structure MediaType where
  type : List Char
  parameters : List (List Char × List Char)
  deriving DecidableEq, Repr

namespace MediaType

/-- The characters that may surround the name and the value of a parameter. -/
def isPadding (c : Char) : Bool := c = '"' || c = '\x27' || c = ' '

/-- A parameter. A piece without an equals sign is none. -/
def parameter? (piece : List Char) : Option (List Char × List Char) :=
  if piece.contains '=' then
    let (name, value) := Text.splitFirst '=' (Text.strip Text.isBlank piece)
    some ((Text.strip isPadding name).map Char.toLower, Text.strip isPadding value)
  else none

/-- Takes a content type apart at its semicolons. -/
def parse (header : List Char) : MediaType :=
  match Text.split ';' header with
  | [] => ⟨[], []⟩
  | type :: pieces => ⟨Text.strip Text.isBlank type, pieces.filterMap parameter?⟩

/-- Whether a text occurs within another one. -/
def occurs (s : List Char) : List Char → Bool
  | [] => s.isEmpty
  | c :: rest => s.isPrefixOf (c :: rest) || occurs s rest

/-- The charset that a content type names or implies. Of several names the last one counts. -/
def charset? (m : MediaType) : Option String :=
  match m.parameters.reverse.lookup "charset".toList with
  | some name => some (String.ofList name)
  | none =>
    if occurs "text".toList m.type then some "ISO-8859-1"
    else if occurs "application/json".toList m.type then some "utf-8"
    else none

end MediaType

end InstanceIdentity
