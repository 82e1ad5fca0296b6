import InstanceIdentity.Document
import Mathlib.Logic.Relation

/-!
# Members and fields

The members of an object decide about a document only through the values of the eight keys, and
the last value of a key counts. So many objects have one document. This file describes the changes
to the members of an object that leave all these keys alone: members under keys that are not in
the table come and go, members change places unless they have one key, and one that comes again is
dropped. Six of the keys are also left alone where the private address and the architecture are
dropped or get other texts.

## Main definitions

* `reportedKeys`, `unreportedKeys` — the keys of the fields that a detection reports, and the others
* `Json.Rearranges`, `Json.IsRearranged` — one change that leaves all keys of the table alone, and
  any number of them
* `Json.Revises`, `Json.IsVariant` — one change that leaves the reported keys alone, and any number
  of them
* `Document.SameIdentity` — documents that agree about the six fields

## Main results

* `Document.ofMembers_eq_ok_iff` — the document in the members of an object
* `Json.IsRearranged.lookup_eq` — the values of all keys of the table stay
* `Json.IsVariant.lookup_eq` — the values of reported keys stay
* `Json.IsVariant.sameIdentity` — variants of an object are documents with one identity
-/

namespace InstanceIdentity

/-! ## Keys -/

namespace Field

theorem mem_all (field : Field) : field ∈ all := by
  cases field <;> decide

theorem key_injective {field field' : Field}
    (h : Text.ofString field.key = Text.ofString field'.key) : field = field' := by
  cases field <;> cases field' <;> first | rfl | exact absurd h (by decide)

end Field

/-- The keys of the fields that a detection reports. -/
def reportedKeys : List String :=
  ["accountId", "region", "availabilityZone", "instanceId", "instanceType", "imageId"]

/-- The keys of the private address and the architecture, which are not reported. -/
def unreportedKeys : List String := ["privateIp", "architecture"]

theorem Field.key_mem (field : Field) : field.key ∈ reportedKeys ++ unreportedKeys := by
  cases field <;> decide

theorem ofString_ne_of_mem : ∀ key ∈ reportedKeys, ∀ key' ∈ unreportedKeys,
    Text.ofString key' ≠ Text.ofString key := by
  decide

/-! ## Values of keys -/

namespace Json

variable {key : Text} {v : Json} {member : Text × Json}
  {front back members members' : List (Text × Json)}

theorem lookup_append (key : Text) (front back : List (Text × Json)) :
    lookup key (front ++ back) = (lookup key back).or (lookup key front) := by
  rw [lookup, lookup, lookup, List.reverse_append, List.find?_append, Option.map_or]

theorem lookup_cons (key : Text) (member : Text × Json) (back : List (Text × Json)) :
    lookup key (member :: back) =
      (lookup key back).or (if member.1 = key then some member.2 else none) := by
  rw [← List.singleton_append, lookup_append]
  congr 1
  by_cases same : member.1 = key <;> simp [lookup, same]

/-- A member under another key makes no difference. -/
theorem lookup_cons_of_ne (other : member.1 ≠ key) :
    lookup key (member :: back) = lookup key back := by
  rw [lookup_cons, if_neg other, Option.or_none]

theorem lookup_eq_none_iff : lookup key members = none ↔ ∀ member ∈ members, member.1 ≠ key := by
  simp [lookup]

/-- A key that comes again has the later value. -/
theorem lookup_cons_of_mem (again : ∃ later ∈ back, later.1 = member.1) :
    lookup key (member :: back) = lookup key back := by
  rw [lookup_cons]
  split
  · rename_i same
    cases found : lookup key back with
    | some v => rfl
    | none =>
      obtain ⟨later, inBack, sameKey⟩ := again
      exact absurd (sameKey.trans same) (lookup_eq_none_iff.mp found later inBack)
  · rw [Option.or_none]

theorem mem_of_lookup (h : lookup key members = some v) : (key, v) ∈ members := by
  obtain ⟨⟨key', v'⟩, found, rfl⟩ := Option.map_eq_some_iff.mp h
  obtain rfl : key' = key := by simpa using List.find?_some found
  exact List.mem_reverse.mp (List.mem_of_find?_eq_some found)

/-- A key that comes with one value only has that value. -/
theorem lookup_of_mem (inside : (key, v) ∈ members)
    (only : ∀ member ∈ members, member.1 = key → member.2 = v) : lookup key members = some v := by
  cases found : lookup key members with
  | none => exact absurd rfl (lookup_eq_none_iff.mp found _ inside)
  | some v' => rw [← only _ (mem_of_lookup found) rfl]

/-- A value that no single change changes stays, however many of them there are and whichever way
they go. -/
theorem lookup_eq_of_eqvGen {change : List (Text × Json) → List (Text × Json) → Prop}
    (same : ∀ members members', change members members' → lookup key members = lookup key members')
    (h : Relation.EqvGen change members members') : lookup key members = lookup key members' := by
  induction h with
  | rel members members' changed => exact same _ _ changed
  | refl members => rfl
  | symm members members' _ ih => exact ih.symm
  | trans members between members' _ _ ih ih' => exact ih.trans ih'

/-! ## Rearrangements -/

/-- One change to the members of an object that leaves all keys of the table alone. -/
inductive Rearranges : List (Text × Json) → List (Text × Json) → Prop
  | exchanged (front back : List (Text × Json)) {member member' : Text × Json}
      (other : member.1 ≠ member'.1) :
      Rearranges (front ++ member :: member' :: back) (front ++ member' :: member :: back)
  | repeated (front back : List (Text × Json)) {member : Text × Json}
      (again : ∃ later ∈ back, later.1 = member.1) :
      Rearranges (front ++ back) (front ++ member :: back)
  | unknown (front back : List (Text × Json)) {member : Text × Json}
      (unknown : ∀ key ∈ reportedKeys ++ unreportedKeys, member.1 ≠ Text.ofString key) :
      Rearranges (front ++ back) (front ++ member :: back)

/-- Members are rearranged if such changes, forwards and backwards, lead from one to the other. -/
def IsRearranged : List (Text × Json) → List (Text × Json) → Prop := Relation.EqvGen Rearranges

theorem Rearranges.lookup_eq {key : String} (h : Rearranges members members')
    (known : key ∈ reportedKeys ++ unreportedKeys) :
    lookup (Text.ofString key) members = lookup (Text.ofString key) members' := by
  cases h with
  | exchanged front back other =>
    rw [lookup_append, lookup_append]
    congr 1
    rw [lookup_cons, lookup_cons, lookup_cons, lookup_cons, Option.or_assoc, Option.or_assoc]
    congr 1
    -- Only one of the two members may have the key.
    split
    · rename_i second
      rw [if_neg fun first => other (first.trans second.symm)]
      rfl
    · rw [Option.none_or, Option.or_none]
  | repeated front back again => rw [lookup_append, lookup_append, lookup_cons_of_mem again]
  | unknown front back unknown =>
    rw [lookup_append, lookup_append, lookup_cons_of_ne (unknown key known)]

/-- Rearranged members have the same values under all keys of the table. -/
theorem IsRearranged.lookup_eq {key : String} (h : IsRearranged members members')
    (known : key ∈ reportedKeys ++ unreportedKeys) :
    lookup (Text.ofString key) members = lookup (Text.ofString key) members' :=
  lookup_eq_of_eqvGen (fun _ _ rearranges => rearranges.lookup_eq known) h

/-! ## Variants -/

/-- One change to the members of an object that leaves the reported keys alone. -/
inductive Revises : List (Text × Json) → List (Text × Json) → Prop
  | rearranged {members members' : List (Text × Json)}
      (rearranges : Rearranges members members') : Revises members members'
  | unreported (front back : List (Text × Json)) {key : String} (t : Text)
      (unreported : key ∈ unreportedKeys) :
      Revises (front ++ back) (front ++ (Text.ofString key, .string t) :: back)

/-- Members are variants of each other if such changes, forwards and backwards, lead from one to the
other. -/
def IsVariant : List (Text × Json) → List (Text × Json) → Prop := Relation.EqvGen Revises

theorem Revises.lookup_eq {key : String} (h : Revises members members')
    (reported : key ∈ reportedKeys) :
    lookup (Text.ofString key) members = lookup (Text.ofString key) members' := by
  cases h with
  | rearranged rearranges => exact rearranges.lookup_eq (List.mem_append_left _ reported)
  | @unreported front back key' t unreported =>
    have other := ofString_ne_of_mem key reported key' unreported
    rw [lookup_append, lookup_append, lookup_cons_of_ne other]

/-- Variants have the same values under the reported keys. -/
theorem IsVariant.lookup_eq {key : String} (h : IsVariant members members')
    (reported : key ∈ reportedKeys) :
    lookup (Text.ofString key) members = lookup (Text.ofString key) members' :=
  lookup_eq_of_eqvGen (fun _ _ revises => revises.lookup_eq reported) h

end Json

/-! ## Documents -/

namespace Document

variable {members members' : List (Text × Json)} {d d' : Document}

/-- Documents are the same if their texts are, field by field. -/
theorem eq_iff_get : d = d' ↔ ∀ field, d.get field = d'.get field := by
  constructor
  · rintro rfl field
    rfl
  · intro fields
    rw [← ofFields_get d, funext fields, ofFields_get]

/-- The members of an object are a document if no value of a field is anything but a string, and
then it has the values of the fields. -/
theorem ofMembers_eq_ok_iff : ofMembers members = .ok d ↔
    (∀ field, wrongKind? (member members field) = none) ∧
      ∀ field, d.get field = textOf (member members field) := by
  have same : d = ofFields (fun field => textOf (member members field)) ↔
      ∀ field, d.get field = textOf (member members field) := by
    constructor
    · rintro rfl field
      exact get_ofFields _ field
    · intro fields
      rw [← ofFields_get d, funext fields]
  rw [ofMembers, ← same]
  split
  · rename_i mismatch found
    obtain ⟨field, -, wrong⟩ := List.exists_of_findSome?_eq_some found
    simp only [reduceCtorEq, false_iff, not_and]
    intro right
    rw [right field] at wrong
    cases wrong
  · rename_i nothing
    have right : ∀ field, wrongKind? (member members field) = none := by
      intro field
      have := List.findSome?_eq_none_iff.mp nothing field field.mem_all
      simpa using this
    constructor
    · intro fields
      exact ⟨right, (Except.ok.inj fields).symm⟩
    · rintro ⟨-, rfl⟩
      rfl

/-- Two documents agree about the fields that a detection reports. -/
structure SameIdentity (d d' : Document) : Prop where
  accountId : d.accountId = d'.accountId
  region : d.region = d'.region
  availabilityZone : d.availabilityZone = d'.availabilityZone
  instanceId : d.instanceId = d'.instanceId
  instanceType : d.instanceType = d'.instanceType
  imageId : d.imageId = d'.imageId

end Document

/-- Variants of an object that are both documents have one identity. -/
theorem Json.IsVariant.sameIdentity {members members' : List (Text × Json)} {d d' : Document}
    (h : IsVariant members members') (fits : Document.ofMembers members = .ok d)
    (fits' : Document.ofMembers members' = .ok d') : d.SameIdentity d' := by
  have agree {field : Field} (reported : field.key ∈ reportedKeys) :
      d.get field = d'.get field := by
    rw [(Document.ofMembers_eq_ok_iff.mp fits).2, (Document.ofMembers_eq_ok_iff.mp fits').2,
      Document.member, Document.member, h.lookup_eq reported]
  exact {
    accountId := @agree .accountId (by decide)
    region := @agree .region (by decide)
    availabilityZone := @agree .availabilityZone (by decide)
    instanceId := @agree .instanceId (by decide)
    instanceType := @agree .instanceType (by decide)
    imageId := @agree .imageId (by decide) }

end InstanceIdentity
