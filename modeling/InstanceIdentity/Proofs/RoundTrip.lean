import InstanceIdentity.Proofs.Delivery
import InstanceIdentity.Proofs.Members
import InstanceIdentity.Proofs.Writing

/-!
# Documents survive the wire

A service may write the texts of a document as it likes: in any order, with white space and escapes,
and among members that are not in the table. A fetch brings back just this document, and a detection
comes to its attributes. The texts may be any texts without a split surrogate pair.

The status decides whether the body is looked at. Some statuses say that there is no body, and
behind one of an error no document is used. And the headers must let the body through: another
length than its own keeps it back, and so does a coding that it is not packed with.

## Main definitions

* `Document.entries` — the texts of a document under their keys
* `Document.IsListedBy`, `Document.IsWrittenAs` — the members of an object, and the texts, that a
  document may be written as
* `Response.IsAdmitted` — the statuses whose documents are used
* `Response.Brings` — responses with a text in ASCII, and nothing in its way

## Main results

* `Document.IsWrittenAs.exists_read` — a written document is read as itself
* `Response.Brings.accepted_iff` — the document is accepted exactly with an admitted status
* `Client.fetch_of_written` — what a fetch and a detection make of a written document
* `Client.fetch_loses_written` — statuses and headers that keep a written document back
-/

namespace InstanceIdentity

open Exchange

variable {room : Nat} {d d' : Document} {r : Response} {s : List Char}

/-! ## Documents in writing -/

namespace Field

theorem val_lt_of_mem_key (field : Field) : ∀ c ∈ Text.ofString field.key, c.val < 0x80 := by
  have ascii : ∀ c ∈ field.key.toList, c.toNat < 0x80 := by
    refine List.all_iff_forall_prop.mp ?_
    cases field <;> decide
  intro c member
  obtain ⟨c, inKey, rfl⟩ := List.mem_map.mp member
  exact ascii c inKey

/-- Keys are read back as they are. -/
theorem joined_key (field : Field) :
    Text.joined (Text.ofString field.key) = Text.ofString field.key :=
  Text.joined_of_isJoined (Text.isJoined_of_ascii field.val_lt_of_mem_key)

/-- Only a key itself is read back as that key. -/
theorem eq_key_of_joined {field : Field} {name : Text}
    (h : Text.joined name = Text.ofString field.key) : name = Text.ofString field.key := by
  have ascii : ∀ c ∈ Text.joined name, c.val < 0x80 := by
    rw [h]
    exact field.val_lt_of_mem_key
  rw [← h, Text.joined_of_ascii ascii]

end Field

namespace Document

/-- The texts of a document under their keys. -/
def entries (d : Document) : List (Text × Text) :=
  [(Text.ofString "privateIp", d.privateIp),
   (Text.ofString "instanceId", d.instanceId),
   (Text.ofString "instanceType", d.instanceType),
   (Text.ofString "accountId", d.accountId),
   (Text.ofString "imageId", d.imageId),
   (Text.ofString "architecture", d.architecture),
   (Text.ofString "region", d.region),
   (Text.ofString "availabilityZone", d.availabilityZone)]

/-- These are the keys of the table. -/
theorem entries_eq (d : Document) :
    d.entries = Field.all.map fun field => (Text.ofString field.key, d.get field) := rfl

/-- Documents in whose texts no surrogate pair is split. -/
def IsJoined (d : Document) : Prop := ∀ field, Text.IsJoined (d.get field)

/-- Members list a document if they are its texts under the keys of the fields and any texts under
other keys, in any order. -/
inductive IsListedBy (d : Document) (members : List (Text × Text)) : Prop
  | intro {others : List (Text × Text)} (order : members.Perm (d.entries ++ others))
      (unknown : ∀ member ∈ others, ∀ key ∈ reportedKeys ++ unreportedKeys,
        member.1 ≠ Text.ofString key)

/-- A document may be written as any object whose members list it. -/
inductive IsWrittenAs (d : Document) (s : List Char) : Prop
  | intro {members : List (Text × Text)} (listed : d.IsListedBy members)
      (written : Json.WrittenObject members s)

section Members

variable {members : List (Text × Text)} {field : Field} {t : Text}

theorem isListedBy_entries (d : Document) : d.IsListedBy d.entries := by
  have order : d.entries.Perm (d.entries ++ []) := by rw [List.append_nil]
  exact .intro order fun _ inside => absurd inside List.not_mem_nil

/-- Every document can be written. -/
theorem isWrittenAs_write (d : Document) : d.IsWrittenAs (Json.write d.entries) :=
  .intro d.isListedBy_entries (Json.writtenObject_write (List.cons_ne_nil _ _))

theorem IsListedBy.mem (h : d.IsListedBy members) (field : Field) :
    (Text.ofString field.key, d.get field) ∈ members := by
  obtain ⟨order, -⟩ := h
  have entry : (Text.ofString field.key, d.get field) ∈ d.entries := by
    rw [entries_eq]
    exact List.mem_map.mpr ⟨field, field.mem_all, rfl⟩
  exact order.mem_iff.mpr (List.mem_append_left _ entry)

/-- In the list, the key of a field has the text of that field only. -/
theorem IsListedBy.eq_get (h : d.IsListedBy members)
    (inside : (Text.ofString field.key, t) ∈ members) : t = d.get field := by
  obtain ⟨order, unknown⟩ := h
  rcases List.mem_append.mp (order.mem_iff.mp inside) with entry | other
  · rw [entries_eq] at entry
    obtain ⟨field', -, same⟩ := List.mem_map.mp entry
    obtain ⟨key, rfl⟩ := Prod.mk.inj same
    rw [Field.key_injective key]
  · exact absurd rfl (unknown _ other _ field.key_mem)

/-- Among the members that are read back, the key of a field has the text of that field. -/
theorem IsListedBy.member_eq (h : d.IsListedBy members) (joined : d.IsJoined) (field : Field) :
    member (members.map Json.readBack) field = some (.string (d.get field)) := by
  have text : Text.joined (d.get field) = d.get field := Text.joined_of_isJoined (joined field)
  have entry : Json.readBack (Text.ofString field.key, d.get field) =
      (Text.ofString field.key, .string (d.get field)) := by
    rw [Json.readBack, field.joined_key, text]
  apply Json.lookup_of_mem
  · exact List.mem_map.mpr ⟨_, h.mem field, entry⟩
  · intro member behind key
    obtain ⟨⟨name, t⟩, inside, rfl⟩ := List.mem_map.mp behind
    -- A key that is read back as that of a field was that key before, so it is no other one.
    obtain rfl := Field.eq_key_of_joined key
    obtain rfl := h.eq_get inside
    rw [entry]

/-- The members that are read back are the document that was listed. -/
theorem IsListedBy.ofMembers_eq (h : d.IsListedBy members) (joined : d.IsJoined) :
    ofMembers (members.map Json.readBack) = .ok d := by
  apply ofMembers_eq_ok_iff.mpr
  constructor
  · intro field
    rw [h.member_eq joined]
    rfl
  · intro field
    rw [h.member_eq joined]
    rfl

end Members

/-- A written document is read as itself. -/
theorem IsWrittenAs.exists_read (free : 0 < room) (h : d.IsWrittenAs s) (joined : d.IsJoined) :
    ∃ v, Json.read room s = .ok v ∧ ofJson v = .ok d := by
  obtain ⟨listed, written⟩ := h
  exact ⟨_, Json.read_of_written free written, listed.ofMembers_eq joined⟩

/-- A written document is recognizable: it is plain ASCII, and no shorter than its braces. -/
theorem IsWrittenAs.isRecognizable (h : d.IsWrittenAs s) : IsRecognizable s := by
  obtain ⟨-, written⟩ := h
  have plain := written.isPlain
  exact {
    long := written.length_ge
    ascii := fun c first => (plain c (List.mem_of_mem_take first)).2
    nonzero := fun null => (plain _ null).1 rfl }

end Document

/-! ## Responses -/

namespace Response

/-- The statuses whose documents are used: they do not say that there is no body, and they are none
of an error. -/
def IsAdmitted (status : Int) : Prop :=
  status ≠ 0 ∧ ¬ (status = 204 ∨ status = 304 ∨ (100 ≤ status ∧ status < 200)) ∧
    ¬ (400 ≤ status ∧ status ≤ 599)

instance (status : Int) : Decidable (IsAdmitted status) :=
  inferInstanceAs (Decidable (status ≠ 0 ∧
    ¬ (status = 204 ∨ status = 304 ∨ (100 ≤ status ∧ status < 200)) ∧
    ¬ (400 ≤ status ∧ status ≤ 599)))

/-- No document is accepted but with an admitted status. -/
theorem Accepted.isAdmitted (h : r.Accepted room d) : IsAdmitted r.status := by
  obtain ⟨f, arrives, gives⟩ := h.arrives
  have status := (Ending.eq_of_ofFinal arrives).1
  have counts : f.content ≠ [] := fun empty => not_gives_of_content_eq_nil empty gives
  refine ⟨fun zero => ?_, fun bodiless => ?_, h.status⟩
  · rw [← status] at zero
    exact counts (if_pos zero)
  · rw [← status] at bodiless
    exact counts (Ending.content_eq_nil h.final arrives (f.isBodiless_iff.mpr bodiless))

/-- A response brings a text in UTF-8: nothing in the headers is in the way of the body, it does not
redirect, and no content type is named but JSON. -/
structure Brings (r : Response) (s : List Char) : Prop where
  whole : r.ComesWhole
  nowhere : r.location? = none
  contentType : r.header? "content-type" = none ∨ r.header? "content-type" = some "application/json"
  body : r.body = Utf8.encode s

namespace Brings

theorem presents (h : r.Brings s) : Presents s (r.header? "content-type") r.body := by
  rw [h.body]
  rcases h.contentType with untyped | json
  · rw [untyped]
    exact .shown .utf8 false
  · rw [json]
    exact .declared

/-- The document that is written in a body is given, if any byte counts. -/
theorem gives (free : 0 < room) (h : r.Brings s) (written : d.IsWrittenAs s) (joined : d.IsJoined)
    (counts : r.status ≠ 0) : r.Gives room d := by
  obtain ⟨v, value, fits⟩ := written.exists_read free joined
  have decoded := h.presents.bodyText_eq written.isRecognizable
  rw [if_neg counts] at decoded
  exact .intro decoded value fits

/-- A response that brings a written document is accepted with this document, exactly if its status
is admitted. -/
theorem accepted_iff (free : 0 < room) (h : r.Brings s) (written : d.IsWrittenAs s)
    (joined : d.IsJoined) : r.Accepted room d' ↔ d' = d ∧ IsAdmitted r.status := by
  constructor
  · intro accepted
    have admitted := accepted.isAdmitted
    obtain ⟨f, arrives, gives⟩ := accepted.arrives
    obtain rfl := Ending.eq_of_ofFinal_of_uncoded h.whole.uncoded arrives
    exact ⟨gives.unique (h.gives free written joined admitted.1), admitted⟩
  · rintro ⟨rfl, counts, bodied, status⟩
    have bodied' : r.isBodiless = false := by
      rwa [Bool.eq_false_iff, ne_eq, r.isBodiless_iff]
    have arrives : Ending.ofFinal r = .response r :=
      Ending.ofFinal_of_uncoded h.whole.uncoded (h.whole.reading_eq bodied')
    exact {
      final := locationOf_of_comesWhole h.whole h.nowhere
      arrives := ⟨r, arrives, h.gives free written joined counts⟩
      status := status }

end Brings

end Response

/-! ## Fetches and detections -/

/-- Only a document is concluded to be a resource with something in it. -/
theorem Detector.exists_of_conclude {o : Outcome} {found : Resource}
    (h : (conclude o).1 = .resource found) (some : found ≠ .empty) :
    ∃ d, o = .document d ∧ Resource.ofDocument d = found := by
  cases o with
  | document d => exact ⟨d, rfl, Detection.resource.inj h⟩
  | failure f => exact absurd (Detection.resource.inj h).symm some
  | raised f =>
    rw [conclude] at h
    split at h
    · cases h
    · exact absurd (Detection.resource.inj h).symm some

namespace Client

variable {c : Client} {w : World}

/-- A fetch with a single response that brings a written document comes to this document, exactly if
the status is admitted. -/
theorem fetch_eq_document_iff {timeout : Seconds} (reaches : CanSend c.documentUrl)
    (replies : w.replies = [.response r]) (brings : r.Brings s) (written : d.IsWrittenAs s)
    (joined : d.IsJoined) (pending : timeout.elapsed = false) :
    (c.fetch timeout w).1 = .document d' ↔ d' = d ∧ Response.IsAdmitted r.status := by
  rw [fetch_single_eq_document_iff replies, brings.accepted_iff w.room_pos written joined]
  exact ⟨fun fetched => fetched.2.2, fun accepted => ⟨reaches, pending, accepted⟩⟩

/-- Every document survives the wire, however it is written. If its texts have no split surrogate
pair, a fetch with a single response that brings it comes to just this document, and a detection to
its attributes. This is so exactly if the status is admitted. -/
theorem fetch_of_written (c : Client) (w : World) (reaches : CanSend c.documentUrl)
    (replies : w.replies = [.response r]) (brings : r.Brings s) (written : d.IsWrittenAs s)
    (joined : d.IsJoined) :
    (∀ timeout : Seconds, timeout.elapsed = false →
        ((c.fetch timeout w).1 = .document d ↔ Response.IsAdmitted r.status)) ∧
      ∀ (limit : Seconds) (given : Option Seconds), (given.getD limit).elapsed = false →
        ((Detector.detect ⟨c.fetch, limit⟩ given w).1 = .resource {
            attributes :=
              [("cloud.provider", Text.ofString "aws"),
               ("cloud.platform", Text.ofString "aws_ec2"),
               ("cloud.account.id", d.accountId),
               ("cloud.region", d.region),
               ("cloud.availability_zone", d.availabilityZone),
               ("host.id", d.instanceId),
               ("host.type", d.instanceType),
               ("host.image.id", d.imageId)] } ↔
          Response.IsAdmitted r.status) := by
  constructor
  · intro timeout pending
    rw [fetch_eq_document_iff reaches replies brings written joined pending]
    exact ⟨fun fetched => fetched.2, fun admitted => ⟨rfl, admitted⟩⟩
  · intro limit given pending
    have fetched (d' : Document) : (c.fetch (given.getD limit) w).1 = .document d' ↔
        d' = d ∧ Response.IsAdmitted r.status :=
      fetch_eq_document_iff reaches replies brings written joined pending
    rw [fst_detect]
    constructor
    · intro detected
      obtain ⟨d', document, -⟩ :=
        Detector.exists_of_conclude detected (by simp [Resource.empty])
      exact ((fetched d').mp document).2
    · intro admitted
      rw [(fetched d).mpr ⟨rfl, admitted⟩]
      rfl

/-- A character beyond the first plane, a quote and half of a surrogate pair come back, and a member
that is not in the table makes no difference. -/
theorem fetch_of_written_region :
    let d : Document := { region := [0x1F600, CodePoint.ofChar '"', 0xD83D] }
    let s := Json.write ((Text.ofString "zone", Text.ofString "a") :: d.entries)
    let r : Response := ⟨200, some "OK", [], Utf8.encode s⟩
    CanSend standard.documentUrl ∧ r.Brings s ∧ d.IsWrittenAs s ∧ d.IsJoined ∧
      (standard.fetch (.whole 5) (.fresh [.response r])).1 = .document d ∧
      (Detector.detect ⟨standard.fetch, .whole 5⟩ none (.fresh [.response r])).1 =
        .resource (.ofDocument d) := by
  intro d s r
  have brings : r.Brings s := {
    whole := ⟨by decide +kernel, .inl (by decide +kernel)⟩
    nowhere := by decide +kernel
    contentType := .inl (by decide +kernel)
    body := rfl }
  have written : d.IsWrittenAs s := by
    let zone : Text × Text := (Text.ofString "zone", Text.ofString "a")
    have unknown : ∀ member ∈ [zone], ∀ key ∈ reportedKeys ++ unreportedKeys,
        member.1 ≠ Text.ofString key := by
      decide
    have order : (zone :: d.entries).Perm (d.entries ++ [zone]) :=
      (List.perm_append_singleton zone d.entries).symm
    exact .intro (.intro order unknown) (Json.writtenObject_write (List.cons_ne_nil _ _))
  have joined : d.IsJoined := by
    intro field
    cases field <;> decide
  have admitted : Response.IsAdmitted r.status := by decide
  obtain ⟨fetched, detected⟩ :=
    standard.fetch_of_written (.fresh [.response r]) canSend_standard rfl brings written joined
  exact ⟨canSend_standard, brings, written, joined, (fetched (.whole 5) rfl).mpr admitted,
    (detected (.whole 5) none rfl).mpr admitted⟩

/-- A status that says that there is no body keeps a written document back, and so does a header
with a length that is not that of the body, and one with a coding that the body is not packed
with. -/
theorem fetch_loses_written :
    let d : Document := { region := Text.ofString "eu-west-1" }
    let s := Json.write d.entries
    let fetched (status : Int) (headers : List (String × String)) : Outcome :=
      (standard.fetch (.whole 5)
        (.fresh [.response ⟨status, some "OK", headers, Utf8.encode s⟩])).1
    CanSend standard.documentUrl ∧ d.IsWrittenAs s ∧ d.IsJoined ∧
      (∀ status ∈ [0, 100, 199, 204, 304], fetched status [] ≠ .document d) ∧
      fetched 200 [("Content-Length", "1")] ≠ .document d ∧
      fetched 200 [("Content-Encoding", "deflate")] ≠ .document d := by
  intro d s fetched
  have joined : d.IsJoined := by
    intro field
    cases field <;> decide
  have deflated : fetched 200 [("Content-Encoding", "deflate")] ≠ .document d := by
    let r : Response := ⟨200, some "OK", [("Content-Encoding", "deflate")], Utf8.encode s⟩
    have named : r.codings = [.deflate] := Response.codings_deflate (by decide +kernel)
    have broken : r.intake.flaw = some .distance := by
      rw [Response.intake_of_codings named]
      decide +kernel
    obtain ⟨m, failed⟩ :=
      standard.exists_conclude_of_broken (World.fresh [.response r]).room (by decide) broken
    have concluded : fetched 200 [("Content-Encoding", "deflate")] =
        standard.conclude (World.fresh [.response r]).room (.ofFinal r) :=
      fst_fetch_single canSend_standard rfl rfl (by decide +kernel)
    rw [concluded, failed]
    exact fun same => by cases same
  exact ⟨canSend_standard, d.isWrittenAs_write, joined, by decide +kernel, by decide +kernel,
    deflated⟩

end Client

end InstanceIdentity
