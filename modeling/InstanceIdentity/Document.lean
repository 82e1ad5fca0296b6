import InstanceIdentity.Json.Basic
import InstanceIdentity.Text.Quoted

/-!
# Identity documents

The identity document of an instance has eight texts. The metadata service sends it
as a JSON object with a key for each; a key that is absent leaves its text empty,
and keys that are not in the table count for nothing.

## Main definitions

* `Field` — the eight fields, with their names and keys
* `Document` — a document
* `Document.ofJson` — the document that a JSON value stands for
* `Mismatch` — why a JSON value is no document
* `Document.quoted` — the written form of a document
-/

namespace InstanceIdentity

/-- The fields of a document. -/
inductive Field
  | privateIp
  | instanceId
  | instanceType
  | accountId
  | imageId
  | architecture
  | region
  | availabilityZone
  deriving DecidableEq, Repr

namespace Field

/-- The fields in the order of the table. -/
def all : List Field :=
  [.privateIp, .instanceId, .instanceType, .accountId, .imageId, .architecture, .region,
   .availabilityZone]

/-- The key of a field in the service's JSON. -/
def key : Field → String
  | .privateIp => "privateIp"
  | .instanceId => "instanceId"
  | .instanceType => "instanceType"
  | .accountId => "accountId"
  | .imageId => "imageId"
  | .architecture => "architecture"
  | .region => "region"
  | .availabilityZone => "availabilityZone"

/-- The name of a field in a document. -/
def name : Field → String
  | .privateIp => "private_ip"
  | .instanceId => "instance_id"
  | .instanceType => "instance_type"
  | .accountId => "account_id"
  | .imageId => "image_id"
  | .architecture => "architecture"
  | .region => "region"
  | .availabilityZone => "availability_zone"

/-- The field with a name. -/
def ofName? (name : String) : Option Field := all.find? fun field => field.name = name

end Field

/-- The identity document of an instance. -/
structure Document where
  privateIp : Text := []
  instanceId : Text := []
  instanceType : Text := []
  accountId : Text := []
  imageId : Text := []
  architecture : Text := []
  region : Text := []
  availabilityZone : Text := []
  deriving DecidableEq, Repr

/-- Why a JSON value is no document. -/
inductive Mismatch
  | notAnObject (found : Json.Kind)
  | notAString (field : Field) (found : Json.Kind)
  deriving DecidableEq, Repr

/-- A mismatch in words. -/
def Mismatch.message : Mismatch → String
  | .notAnObject found => "expected a JSON object, got " ++ found.name
  | .notAString field found =>
    "expected a string for '" ++ field.key ++ "', got " ++ found.name

namespace Document

/-- The text of a field. -/
def get (d : Document) : Field → Text
  | .privateIp => d.privateIp
  | .instanceId => d.instanceId
  | .instanceType => d.instanceType
  | .accountId => d.accountId
  | .imageId => d.imageId
  | .architecture => d.architecture
  | .region => d.region
  | .availabilityZone => d.availabilityZone

/-- The document with a text for each field. -/
def ofFields (texts : Field → Text) : Document where
  privateIp := texts .privateIp
  instanceId := texts .instanceId
  instanceType := texts .instanceType
  accountId := texts .accountId
  imageId := texts .imageId
  architecture := texts .architecture
  region := texts .region
  availabilityZone := texts .availabilityZone

/-- The document with a text for each field that is named. -/
def ofNamed (texts : List (String × Text)) : Document :=
  ofFields fun field => (texts.lookup field.name).getD []

@[simp] theorem get_ofFields (texts : Field → Text) (field : Field) :
    (ofFields texts).get field = texts field := by
  cases field <;> rfl

@[simp] theorem ofFields_get (d : Document) : ofFields d.get = d := rfl

/-- The value of a field among the members of an object. -/
def member (members : List (Text × Json)) (field : Field) : Option Json :=
  Json.lookup (Text.ofString field.key) members

/-- What keeps a value from being the text of a field: it is there and is no string. -/
def wrongKind? : Option Json → Option Json.Kind
  | none => none
  | some (.string _) => none
  | some v => some v.kind

/-- The text that a value amounts to: a string as it is, and nothing otherwise. -/
def textOf : Option Json → Text
  | some (.string t) => t
  | _ => []

/-- The document in the members of an object, or the first field in the order of the table whose
value is no string. -/
def ofMembers (members : List (Text × Json)) : Except Mismatch Document :=
  match Field.all.findSome? fun field =>
      (wrongKind? (member members field)).map (Mismatch.notAString field) with
  | some mismatch => .error mismatch
  | none => .ok (ofFields fun field => textOf (member members field))

/-- The document that a JSON value stands for. -/
def ofJson : Json → Except Mismatch Document
  | .object members => ofMembers members
  | v => .error (.notAnObject v.kind)

/-- A field as it stands in the written form. -/
def quotedField (d : Document) (field : Field) : Text :=
  Text.ofString (field.name ++ "=") ++ (d.get field).quoted

/-- The written form of a document. -/
def quoted (d : Document) : Text :=
  Text.ofString "IdentityDocument(" ++
    List.intercalate (Text.ofString ", ") (Field.all.map d.quotedField) ++ Text.ofString ")"

end Document

end InstanceIdentity
