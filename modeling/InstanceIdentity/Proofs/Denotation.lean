import InstanceIdentity.Client
import InstanceIdentity.Proofs.Except
import InstanceIdentity.Proofs.Members

/-!
# The document that a JSON value stands for

Only an object can stand for a document. Each key of the table counts with its last value, however
often it came before and whatever with. If one of these values is no string, the object is refused
for the first such field in the order of the table, wherever its member stands in the text.
Otherwise every field has the string under its key, and a field whose key is absent is empty.

So neither the order of members with different keys counts, nor members under other keys, nor a
member whose key comes again.

## Main definitions

* `Json.HasLast` — the last value of a key among members
* `Document.Misfits` — a field whose value is no string
* `Document.Denotes` — the document that a value stands for, or the words of its refusal

## Main results

* `Document.ofMembers_eq_error_iff` — which field an object is refused for
* `Document.denotes_iff` — `Document.ofJson` computes what a value denotes
* `Document.ofJson_denotes` — the same of values and of texts, and of rearranged members
-/

namespace InstanceIdentity

/-! ## Last values -/

namespace Json

variable {key : Text} {v v' : Json} {members members' : List (Text × Json)}

/-- A key has a last value among members: a member has both, and behind it the key does not come
again. -/
inductive HasLast (key : Text) (v : Json) : List (Text × Json) → Prop
  | intro (front : List (Text × Json)) {back : List (Text × Json)}
      (last : ∀ later ∈ back, later.1 ≠ key) : HasLast key v (front ++ (key, v) :: back)

theorem lookup_of_absent (absent : ∀ member ∈ members, member.1 ≠ key) :
    lookup key members = none :=
  lookup_eq_none_iff.mpr absent

theorem HasLast.lookup_eq (h : HasLast key v members) : lookup key members = some v := by
  obtain ⟨front, last⟩ := h
  rw [lookup_append, lookup_cons, lookup_of_absent last, if_pos rfl]
  rfl

/-- The value of a key is its last one. -/
theorem lookup_eq_some_iff : lookup key members = some v ↔ HasLast key v members := by
  constructor
  · intro found
    -- A later member with the key goes before the first.
    induction members with
    | nil => cases found
    | cons member rest ih =>
      rw [lookup_cons] at found
      cases later : lookup key rest with
      | some v' =>
        rw [later, Option.some_or] at found
        obtain ⟨front, last⟩ := ih (later.trans found)
        exact .intro (member :: front) last
      | none =>
        rw [later, Option.none_or] at found
        split at found
        · rename_i same
          obtain rfl := Option.some.inj found
          obtain rfl := same
          exact .intro [] (lookup_eq_none_iff.mp later)
        · cases found
  · exact HasLast.lookup_eq

end Json

/-! ## Documents -/

namespace Document

variable {members members' : List (Text × Json)} {field : Field} {kind : Json.Kind}
  {m : Mismatch} {d : Document} {v : Json} {result result' : Except String Document}

/-- A field misfits: its key is there, and the last value is of a kind that is no string. -/
inductive Misfits (members : List (Text × Json)) (field : Field) : Json.Kind → Prop
  | intro {v : Json} (last : Json.HasLast (Text.ofString field.key) v members)
      (other : v.kind ≠ .string) : Misfits members field v.kind

/-- A value stands for a document, or it is refused in words: for what it is instead of an object,
or for the first field of the table that misfits. In a document every field has the last text of
its key, and none if the key is absent. -/
inductive Denotes : Json → Except String Document → Prop
  | notAnObject {v : Json} (other : v.kind ≠ .object) :
      Denotes v (.error ("expected a JSON object, got " ++ v.kind.name))
  | notAString {members : List (Text × Json)} {field : Field} {kind : Json.Kind}
      {earlier later : List Field} (order : Field.all = earlier ++ field :: later)
      (misfits : Misfits members field kind)
      (first : ∀ before ∈ earlier, ∀ kind, ¬ Misfits members before kind) :
      Denotes (.object members)
        (.error ("expected a string for '" ++ field.key ++ "', got " ++ kind.name))
  | document {members : List (Text × Json)} {d : Document}
      (fits : ∀ field kind, ¬ Misfits members field kind)
      (present : ∀ field t, Json.HasLast (Text.ofString field.key) (.string t) members →
        d.get field = t)
      (absent : ∀ field, (∀ member ∈ members, member.1 ≠ Text.ofString field.key) →
        d.get field = []) :
      Denotes (.object members) (.ok d)

theorem wrongKind?_eq_some_iff :
    wrongKind? (member members field) = some kind ↔ Misfits members field kind := by
  constructor
  · intro wrong
    cases found : member members field with
    | none =>
      rw [found] at wrong
      cases wrong
    | some v =>
      have last := Json.lookup_eq_some_iff.mp found
      rw [found] at wrong
      cases v with
      | string t => cases wrong
      | _ =>
        obtain rfl := Option.some.inj wrong
        exact .intro last nofun
  · rintro ⟨last, other⟩
    rename_i v
    rw [member, last.lookup_eq]
    cases v with
    | string t => exact absurd rfl other
    | _ => rfl

theorem wrongKind?_eq_none_iff :
    wrongKind? (member members field) = none ↔ ∀ kind, ¬ Misfits members field kind := by
  simp only [← wrongKind?_eq_some_iff, Option.eq_none_iff_forall_ne_some, ne_eq]

/-- The members of an object are refused for the first field of the table that misfits. -/
theorem ofMembers_eq_error_iff : ofMembers members = .error m ↔
    ∃ earlier field later kind, Field.all = earlier ++ field :: later ∧
      Misfits members field kind ∧ (∀ before ∈ earlier, ∀ kind, ¬ Misfits members before kind) ∧
      m = .notAString field kind := by
  have found : ofMembers members = .error m ↔
      (Field.all.findSome? fun field =>
        (wrongKind? (member members field)).map (Mismatch.notAString field)) = some m := by
    rw [ofMembers]
    split
    · simp [*]
    · simp [*]
  rw [found, List.findSome?_eq_some_iff]
  simp only [Option.map_eq_some_iff, Option.map_eq_none_iff, wrongKind?_eq_some_iff,
    wrongKind?_eq_none_iff]
  constructor
  · rintro ⟨earlier, field, later, order, ⟨kind, misfits, rfl⟩, first⟩
    exact ⟨earlier, field, later, kind, order, misfits, first, rfl⟩
  · rintro ⟨earlier, field, later, kind, order, misfits, first, rfl⟩
    exact ⟨earlier, field, later, order, ⟨kind, misfits, rfl⟩, first⟩

/-- The text of a field that does not misfit is the last one of its key. -/
theorem textOf_eq_iff (fits : ∀ kind, ¬ Misfits members field kind) {t : Text} :
    t = textOf (member members field) ↔
      (∀ t', Json.HasLast (Text.ofString field.key) (.string t') members → t = t') ∧
        ((∀ member ∈ members, member.1 ≠ Text.ofString field.key) → t = []) := by
  cases found : member members field with
  | none =>
    have absent := Json.lookup_eq_none_iff.mp found
    constructor
    · rintro rfl
      refine ⟨fun t' last => ?_, fun _ => rfl⟩
      cases found.symm.trans last.lookup_eq
    · exact fun agrees => agrees.2 absent
  | some v =>
    have last := Json.lookup_eq_some_iff.mp found
    -- A value that does not misfit is a string.
    cases v with
    | string t' =>
      constructor
      · rintro rfl
        refine ⟨fun t'' last' => ?_, fun absent => ?_⟩
        · exact Json.string.inj (Option.some.inj (found.symm.trans last'.lookup_eq))
        · cases found.symm.trans (Json.lookup_of_absent absent)
      · exact fun agrees => agrees.1 t' last
    | _ => exact absurd (.intro last nofun) (fits _)

/-- The members of an object are a document if no field misfits, and then the last values count. -/
theorem ofMembers_eq_ok_iff_last : ofMembers members = .ok d ↔
    (∀ field kind, ¬ Misfits members field kind) ∧
      (∀ field t, Json.HasLast (Text.ofString field.key) (.string t) members →
        d.get field = t) ∧
      ∀ field, (∀ member ∈ members, member.1 ≠ Text.ofString field.key) → d.get field = [] := by
  rw [ofMembers_eq_ok_iff]
  simp only [wrongKind?_eq_none_iff]
  constructor
  · rintro ⟨fits, texts⟩
    have agrees (field : Field) := (textOf_eq_iff (fits field)).mp (texts field)
    exact ⟨fits, fun field => (agrees field).1, fun field => (agrees field).2⟩
  · rintro ⟨fits, present, absent⟩
    exact ⟨fits, fun field => (textOf_eq_iff (fits field)).mpr ⟨present field, absent field⟩⟩

/-- Every value stands for what is computed from it. -/
theorem denotes_ofJson (v : Json) : Denotes v ((ofJson v).mapError Mismatch.message) := by
  cases v with
  | object members =>
    rw [ofJson]
    cases computed : ofMembers members with
    | error m =>
      obtain ⟨earlier, field, later, kind, order, misfits, first, rfl⟩ :=
        ofMembers_eq_error_iff.mp computed
      exact .notAString order misfits first
    | ok d =>
      obtain ⟨fits, present, absent⟩ := ofMembers_eq_ok_iff_last.mp computed
      exact .document fits present absent
  | _ => exact .notAnObject nofun

theorem Denotes.eq (h : Denotes v result) : (ofJson v).mapError Mismatch.message = result := by
  cases h with
  | notAnObject other =>
    cases v with
    | object members => exact absurd rfl other
    | _ => rfl
  | notAString order misfits first =>
    have refused := ofMembers_eq_error_iff.mpr ⟨_, _, _, _, order, misfits, first, rfl⟩
    rw [ofJson, refused]
    rfl
  | document fits present absent =>
    rw [ofJson, ofMembers_eq_ok_iff_last.mpr ⟨fits, present, absent⟩]
    rfl

/-- What a value denotes is computed from it. -/
theorem denotes_iff : Denotes v result ↔ (ofJson v).mapError Mismatch.message = result := by
  constructor
  · exact Denotes.eq
  · rintro rfl
    exact denotes_ofJson v

/-- The document of a text is that of the value in the text. -/
theorem documentOfText_mapError {room : Nat} {text : Text}
    (read : Json.readText room text = .ok v) :
    (documentOfText room text).mapError BodyError.message =
      (ofJson v).mapError Mismatch.message := by
  rw [documentOfText, read]
  dsimp only
  cases ofJson v <;> rfl

/-- Rearranged members are the same document, or refused for the same field. -/
theorem ofMembers_of_isRearranged (h : Json.IsRearranged members members') :
    ofMembers members = ofMembers members' := by
  have same (field : Field) : member members field = member members' field :=
    h.lookup_eq field.key_mem
  simp only [ofMembers, same]

/-- The document in a JSON value, and in a JSON text, is what the value denotes: the last value of
every key counts, the first misfit in the order of the table is reported, and rearranging members
changes nothing. -/
theorem ofJson_denotes :
    Field.all.map Field.key =
        ["privateIp", "instanceId", "instanceType", "accountId", "imageId", "architecture",
          "region", "availabilityZone"] ∧
      (∀ v result, Denotes v result ↔ (ofJson v).mapError Mismatch.message = result) ∧
      (∀ room text v, Json.readText room text = .ok v → ∀ result,
        Denotes v result ↔ (documentOfText room text).mapError BodyError.message = result) ∧
      ∀ members members', Json.IsRearranged members members' →
        ofJson (.object members) = ofJson (.object members') := by
  refine ⟨rfl, fun v result => denotes_iff, fun room text v read result => ?_,
    fun members members' rearranged => ofMembers_of_isRearranged rearranged⟩
  rw [documentOfText_mapError read]
  exact denotes_iff

/-- A member whose key comes again does not count, and of two misfits the architecture is reported,
which stands behind in the text and before in the table. -/
theorem ofJson_denotes_architecture :
    let region (v : Json) : Text × Json := (Text.ofString "region", v)
    let architecture (v : Json) : Text × Json := (Text.ofString "architecture", v)
    let refused : Except String Document :=
      .error "expected a string for 'architecture', got NoneType"
    Denotes (.object [region (.int 1), region (.string (Text.ofString "a"))])
        (.ok { region := Text.ofString "a" }) ∧
      Denotes (.object [region (.array []), architecture .null]) refused ∧
      Denotes (.object [architecture .null, region (.array [])]) refused := by
  intro region architecture refused
  obtain ⟨-, values, -, rearrangements⟩ := ofJson_denotes
  have exchanged : Json.IsRearranged [region (.array []), architecture .null]
      [architecture .null, region (.array [])] :=
    .rel _ _ (.exchanged [] [] (by decide))
  have behind : Denotes (.object [region (.array []), architecture .null]) refused :=
    (values _ _).mpr rfl
  refine ⟨(values _ _).mpr rfl, behind, (values _ _).mpr ?_⟩
  rw [← rearrangements _ _ exchanged]
  exact (values _ _).mp behind

end Document

end InstanceIdentity
