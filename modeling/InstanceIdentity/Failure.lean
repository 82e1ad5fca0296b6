import InstanceIdentity.Text.Quoted

/-!
# Failures

A fetch that brings no document brings a failure: a value with a message, which can
be compared and written down. There are failures of transport and of decoding, and
failures of no particular kind.

## Main definitions

* `Failure.Kind` — the kinds, and which kind includes which
* `Failure` — a kind and a message
* `Failure.quoted` — the written form of a failure
* `Failure.assign` — a failure cannot be changed
-/

namespace InstanceIdentity

namespace Failure

/-- The kinds of failure. -/
inductive Kind | general | transport | decode
  deriving DecidableEq, Repr

namespace Kind

/-- The kinds, the one that includes the others first. -/
def all : List Kind := [.general, .transport, .decode]

/-- The name of a kind. -/
def name : Kind → String
  | .general => "FetchError"
  | .transport => "TransportFailure"
  | .decode => "DecodeFailure"

/-- The kind with a name. -/
def ofName? (name : String) : Option Kind := all.find? fun kind => kind.name = name

/-- The kinds that include a kind: itself, and the general one. -/
def including (kind : Kind) : List Kind := all.filter fun k => k = .general ∨ k = kind

end Kind

end Failure

/-- Why a fetch brought no document. -/
structure Failure where
  kind : Failure.Kind
  message : Text
  deriving DecidableEq, Repr

/-- The refusal to change a field of a value. -/
structure FrozenField where
  field : String
  deriving DecidableEq, Repr

/-- The refusal to change a field, in words. -/
def FrozenField.message (frozen : FrozenField) : String :=
  "cannot assign to field '" ++ frozen.field ++ "'"

namespace Failure

/-- The written form of a failure. -/
def quoted (f : Failure) : Text :=
  Text.ofString (f.kind.name ++ "(message=") ++ f.message.quoted ++ Text.ofString ")"

/-- Giving a failure another message is refused. -/
def assign (_ : Failure) (_ : Text) : Except FrozenField Failure := .error ⟨"message"⟩

end Failure

end InstanceIdentity
