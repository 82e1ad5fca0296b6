import InstanceIdentity.Text.Basic

/-!
# JSON values

Members of an object stand in the order of the text, and a key may occur more than
once. A number with a fraction or an exponent, an infinity and not-a-number are
kept as they were written.

## Main definitions

* `Json` — values
* `Json.Kind`, `Json.kind` — the types of values and their names in messages
* `Json.lookup` — the value of a key
-/

namespace InstanceIdentity

/-- A JSON value. -/
inductive Json
  | null
  | bool (b : Bool)
  | int (n : Int)
  | real (written : String)
  | string (t : Text)
  | array (items : List Json)
  | object (members : List (Text × Json))

namespace Json

/-- The types of values. -/
inductive Kind | null | bool | int | real | string | array | object
  deriving DecidableEq, Repr

/-- The word for a type in messages. -/
def Kind.name : Kind → String
  | .null => "NoneType"
  | .bool => "bool"
  | .int => "int"
  | .real => "float"
  | .string => "str"
  | .array => "list"
  | .object => "dict"

/-- The type of a value. -/
def kind : Json → Kind
  | .null => .null
  | .bool _ => .bool
  | .int _ => .int
  | .real _ => .real
  | .string _ => .string
  | .array _ => .array
  | .object _ => .object

/-- The value of a key among members: the last one counts. -/
def lookup (key : Text) (members : List (Text × Json)) : Option Json :=
  (members.reverse.find? fun member => member.1 = key).map Prod.snd

end Json

end InstanceIdentity
