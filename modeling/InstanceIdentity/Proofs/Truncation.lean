import InstanceIdentity.Proofs.Delivery
import InstanceIdentity.Proofs.Reading

/-!
# Bodies that are cut off or too long

A body that is declared as JSON is decoded with replacements, so any bytes have a text. Still no
part of a body passes for the whole. If a document is accepted and also the one of a longer body,
then the bytes in between are white space and the documents are the same. Bytes in the middle of
a character are no exception: their text ends with the replacement character, and no JSON text
ends outside ASCII.

## Main definitions

* `utf8Text` — the text of a body that is declared as JSON
* `Json.spaceBytes` — the bytes of white space
* `Response.DeclaresJson` — successful responses whose body is declared as JSON
* `Response.IsJson` — those whose body comes as it was sent

## Main results

* `read_utf8Text_append` — bytes behind an object
* `Client.fetch_of_append` — a fetch with a body and with a longer one
-/

namespace InstanceIdentity

open Exchange

/-! ## Texts of bytes -/

/-- The text of bytes in UTF-8, with the replacement character for each invalid part. -/
def utf8Text (bytes : List UInt8) : List Char := (Utf8.decode bytes).map fun u => u.getD '\uFFFD'

theorem decodeReplacing_utf8 (bytes : List UInt8) :
    Charset.decodeReplacing (.utf8 false) bytes = Text.ofChars (utf8Text bytes) := by
  show ((Utf8.decode bytes).map _).map _ = ((Utf8.decode bytes).map _).map _
  rw [List.map_map, List.map_map]
  congr 1
  funext u
  cases u <;> rfl

theorem utf8Text_encode (t : List Char) : utf8Text (Utf8.encode t) = t := by
  rw [utf8Text, Utf8.decode_encode, List.map_map]
  exact List.map_id t

/-- The bytes of the white space in JSON. -/
def Json.spaceBytes : List UInt8 := [0x20, 0x09, 0x0A, 0x0D]

variable {room : Nat} {bytes more : List UInt8} {u : Option Char} {b : UInt8}
  {members : List (Text × Json)} {v : Json}

theorem isAscii_of_isSpace (h : Json.isSpace (u.getD '\uFFFD') = true) : Utf8.IsAscii u := by
  cases u with
  | none => exact absurd h (by decide)
  | some c =>
    refine ⟨c, rfl, ?_⟩
    simp only [Json.isSpace, Option.getD_some, Bool.or_eq_true, decide_eq_true_eq] at h
    rcases h with ((rfl | rfl) | rfl) | rfl <;> decide

theorem mem_spaceBytes_of_isSpace (h : Json.isSpace (Char.ofNat b.toNat) = true) :
    b ∈ Json.spaceBytes := by
  have byte {c : Char} (same : Char.ofNat b.toNat = c) : b.toNat = c.toNat := by
    rw [← same, Utf8.toNat_ofNat_toNat]
  simp only [Json.isSpace, Bool.or_eq_true, decide_eq_true_eq] at h
  simp only [Json.spaceBytes, List.mem_cons, List.not_mem_nil, or_false, ← UInt8.toNat_inj]
  rcases h with ((space | tab) | line) | feed
  · exact .inl (byte space)
  · exact .inr (.inl (byte tab))
  · exact .inr (.inr (.inl (byte line)))
  · exact .inr (.inr (.inr (byte feed)))

/-- Bytes whose text is white space are white space themselves. -/
theorem mem_spaceBytes_of_utf8Text (h : ∀ c ∈ utf8Text bytes, Json.isSpace c = true) :
    ∀ b ∈ bytes, b ∈ Json.spaceBytes := by
  have units : ∀ u ∈ Utf8.decode bytes, Json.isSpace (u.getD '\uFFFD') = true :=
    fun u member => h _ (List.mem_map_of_mem member)
  have decoded := Utf8.decode_of_isAscii fun u member => isAscii_of_isSpace (units u member)
  rw [decoded] at units
  intro b member
  exact mem_spaceBytes_of_isSpace (units _ (List.mem_map_of_mem member))

/-- No JSON text ends within a character. -/
theorem pendingAfter_of_read (h : Json.read room (utf8Text bytes) = .ok v) :
    Utf8.pendingAfter bytes = none := by
  by_contra cut
  obtain ⟨front, decoded⟩ := Utf8.exists_decode_eq_append cut
  rw [utf8Text, decoded, List.map_append] at h
  exact Json.read_append_foreign (by decide) h

/-- If bytes are read as an object, and more of them as any value, then there is only white space in
between, and the value is that object. -/
theorem read_utf8Text_append (h : Json.read room (utf8Text bytes) = .ok (.object members))
    (h' : Json.read room (utf8Text (bytes ++ more)) = .ok v) :
    (∀ b ∈ more, b ∈ Json.spaceBytes) ∧ v = .object members := by
  rw [utf8Text, Utf8.decode_append (pendingAfter_of_read h), List.map_append] at h'
  obtain ⟨spaces, same⟩ := Json.read_append_of_object h h'
  exact ⟨mem_spaceBytes_of_utf8Text spaces, same⟩

/-! ## Responses -/

/-- A successful response whose body is declared as JSON. -/
structure Response.DeclaresJson (r : Response) : Prop where
  status : r.status = 200
  type : r.header? "content-type" = some "application/json"

/-- A successful response whose body is declared as JSON and comes as it was sent. -/
structure Response.IsJson (r : Response) : Prop where
  status : r.status = 200
  type : r.header? "content-type" = some "application/json"
  uncoded : r.codings = []

variable {r f : Response} {d d' : Document}

namespace Response.DeclaresJson

theorem bodyText_eq (h : r.DeclaresJson) :
    bodyText r.charset? r.content = .ok (Text.ofChars (utf8Text r.body)) := by
  have counts : r.content = r.body := by
    rw [content, h.status]
    rfl
  rw [charset?_of_json h.type, counts, bodyText_utf8, decodeReplacing_utf8]

theorem gives_iff (h : r.DeclaresJson) : r.Gives room d ↔ ∃ members,
    Json.read room (utf8Text r.body) = .ok (.object members) ∧
      Document.ofMembers members = .ok d := by
  constructor
  · rintro ⟨decoded, value, fits⟩
    obtain rfl := Except.ok.inj (h.bodyText_eq.symm.trans decoded)
    -- A value that is no object is no document.
    cases ‹Json› with
    | object members => exact ⟨members, value, fits⟩
    | _ => cases fits
  · rintro ⟨members, value, fits⟩
    exact ⟨h.bodyText_eq, value, fits⟩

/-- What arrives of a response is declared as the response is. -/
theorem arrives (h : r.DeclaresJson) (arrives : Ending.ofFinal r = .response f) :
    f.DeclaresJson := by
  obtain ⟨status, -, headers⟩ := Ending.eq_of_ofFinal arrives
  refine ⟨status.trans h.status, ?_⟩
  rw [header?, headers]
  exact h.type

end Response.DeclaresJson

namespace Response.IsJson

theorem declaresJson (h : r.IsJson) : r.DeclaresJson := ⟨h.status, h.type⟩

/-- What is accepted is the document in the body. -/
theorem gives_of_accepted (h : r.IsJson) (accepted : r.Accepted room d) : r.Gives room d := by
  obtain ⟨f, arrives, gives⟩ := accepted.arrives
  rwa [Ending.eq_of_ofFinal_of_uncoded h.uncoded arrives] at gives

theorem comesWhole (h : r.IsJson) (unmeasured : r.headerLength = .ok none) : r.ComesWhole :=
  ⟨h.uncoded, .inl unmeasured⟩

theorem accepted_of_gives (h : r.IsJson) (unmeasured : r.headerLength = .ok none)
    (gives : r.Gives room d) : r.Accepted room d :=
  Response.accepted_of_gives (h.comesWhole unmeasured) h.status gives

end Response.IsJson

/-! ## Fetches -/

namespace Client

variable {c : Client} {timeout : Seconds} {w : World}

/-- A fetch of JSON without a declared length brings a document or fails to decode one. -/
theorem fetch_of_isJson (reaches : CanSend c.documentUrl) (pending : timeout.elapsed = false)
    (replies : w.replies = [.response r]) (json : r.IsJson)
    (unmeasured : r.headerLength = .ok none) :
    (∃ d, (c.fetch timeout w).1 = .document d) ∨
      ∃ m, (c.fetch timeout w).1 = .failure ⟨.decode, m⟩ := by
  rcases r.gives_or_withholds w.room with ⟨d, gives⟩ | ⟨m, withholds⟩
  · have accepted := json.accepted_of_gives unmeasured gives
    exact .inl ⟨d, (fetch_single_eq_document_iff replies).mpr ⟨reaches, pending, accepted⟩⟩
  · obtain ⟨final, arrives⟩ :=
      Response.final_of_comesWhole (json.comesWhole unmeasured) json.status
    rw [fst_fetch_single reaches pending replies final, arrives]
    exact .inr ⟨_, (Settles.noDocument withholds).conclude_eq⟩

/-- Two documents are accepted from a body and from a longer one only if there is white space in
between, and then they are the same. -/
theorem eq_of_fetch_append {r' : Response} {w' : World} (json : r.IsJson) (json' : r'.IsJson)
    (continued : r'.body = r.body ++ more) (replies : w.replies = [.response r])
    (replies' : w'.replies = [.response r']) (fetched : (c.fetch timeout w).1 = .document d)
    (fetched' : (c.fetch timeout w').1 = .document d') (same : w'.room = w.room) :
    (∀ b ∈ more, b ∈ Json.spaceBytes) ∧ d = d' := by
  obtain ⟨-, -, accepted⟩ := (fetch_single_eq_document_iff replies).mp fetched
  obtain ⟨-, -, accepted'⟩ := (fetch_single_eq_document_iff replies').mp fetched'
  obtain ⟨members, value, fits⟩ :=
    json.declaresJson.gives_iff.mp (json.gives_of_accepted accepted)
  obtain ⟨members', value', fits'⟩ :=
    json'.declaresJson.gives_iff.mp (json'.gives_of_accepted accepted')
  rw [continued, same] at value'
  obtain ⟨spaces, object⟩ := read_utf8Text_append value value'
  obtain rfl := Json.object.inj object
  exact ⟨spaces, Except.ok.inj (fits.symm.trans fits')⟩

/-- A body that is cut off or too long is never taken for a document. If a fetch accepts a body, and
the same fetch a longer one, then there is only white space in between and the documents are the
same. So, where no length is declared, a proper beginning of an accepted body that ends with its
last brace fails to be decoded, and so does an accepted body with anything but white space behind
it. -/
theorem fetch_of_append (c : Client) (timeout : Seconds) (w : World) (json : r.IsJson)
    (front more : List UInt8) :
    let fetched (body : List UInt8) : Outcome :=
      (c.fetch timeout { w with replies := [.response { r with body := body }] }).1
    (∀ d d', fetched front = .document d → fetched (front ++ more) = .document d' →
        (∀ b ∈ more, b ∈ Json.spaceBytes) ∧ d = d') ∧
      (r.headerLength = .ok none →
        (∀ d, fetched (front ++ more) = .document d → (front ++ more).getLast? = some 0x7D →
            more ≠ [] → ∃ m, fetched front = .failure ⟨.decode, m⟩) ∧
          ∀ d, fetched front = .document d → ¬ (∀ b ∈ more, b ∈ Json.spaceBytes) →
            ∃ m, fetched (front ++ more) = .failure ⟨.decode, m⟩) := by
  intro fetched
  have isJson (body : List UInt8) : Response.IsJson { r with body := body } :=
    ⟨json.status, json.type, json.uncoded⟩
  have between (d d' : Document) (short : fetched front = .document d)
      (long : fetched (front ++ more) = .document d') :
      (∀ b ∈ more, b ∈ Json.spaceBytes) ∧ d = d' :=
    eq_of_fetch_append (isJson front) (isJson (front ++ more)) rfl rfl rfl short long rfl
  refine ⟨between, fun unmeasured => ?_⟩
  -- Where one body is accepted, any other one is accepted or fails to be decoded.
  have decided {body : List UInt8} {d : Document} (accepted : fetched body = .document d)
      (other : List UInt8) :
      (∃ d, fetched other = .document d) ∨ ∃ m, fetched other = .failure ⟨.decode, m⟩ := by
    obtain ⟨reaches, pending, -⟩ := (fetch_single_eq_document_iff rfl).mp accepted
    exact fetch_of_isJson reaches pending rfl (isJson other) unmeasured
  constructor
  · intro d whole brace cut
    rcases decided whole front with ⟨d', short⟩ | failed
    · -- The last brace is among the bytes that would be white space.
      obtain ⟨spaces, -⟩ := between d' d short whole
      rw [List.getLast?_append, List.getLast?_eq_some_getLast cut, Option.some_or] at brace
      have space := spaces _ (List.getLast_mem cut)
      rw [Option.some.inj brace] at space
      exact absurd space (by decide)
    · exact failed
  · intro d short visible
    rcases decided short (front ++ more) with ⟨d', long⟩ | failed
    · exact absurd (between d d' short long).1 visible
    · exact failed

/-- A successful response whose body is declared as JSON, by no other header. -/
def declaredJson (body : List UInt8) : Response :=
  ⟨200, some "OK", [("Content-Type", "application/json")], body⟩

/-- An empty object is a document. It is none without its last brace, and none with a letter behind
it. -/
theorem fetch_of_append_emptyObject :
    let fetched (body : List UInt8) : Outcome :=
      (standard.fetch (.whole 5) (.fresh [.response (declaredJson body)])).1
    (declaredJson []).IsJson ∧ (declaredJson []).headerLength = .ok none ∧
      fetched [0x7B, 0x7D] = .document {} ∧ (∃ m, fetched [0x7B] = .failure ⟨.decode, m⟩) ∧
      ∃ m, fetched [0x7B, 0x7D, 0x78] = .failure ⟨.decode, m⟩ := by
  intro fetched
  have json : (declaredJson []).IsJson := ⟨rfl, by decide +kernel, by decide +kernel⟩
  have unmeasured : (declaredJson []).headerLength = .ok none := by decide +kernel
  have object : fetched [0x7B, 0x7D] = .document {} := by
    have json' : (declaredJson [0x7B, 0x7D]).IsJson := ⟨json.status, json.type, json.uncoded⟩
    have value : Json.read (World.fresh []).room (utf8Text [0x7B, 0x7D]) = .ok (.object []) := rfl
    have gives := json'.declaresJson.gives_iff.mpr ⟨[], value, rfl⟩
    have accepted := json'.accepted_of_gives unmeasured gives
    exact (fetch_single_eq_document_iff rfl).mpr ⟨canSend_standard, rfl, accepted⟩
  have shorter := (standard.fetch_of_append (.whole 5) (.fresh []) json [0x7B] [0x7D]).2 unmeasured
  have longer :=
    (standard.fetch_of_append (.whole 5) (.fresh []) json [0x7B, 0x7D] [0x78]).2 unmeasured
  have visible : ¬ ∀ b ∈ [0x78], b ∈ Json.spaceBytes :=
    fun spaces => absurd (spaces _ (List.mem_singleton_self _)) (by decide)
  exact ⟨json, unmeasured, object, shorter.1 _ object (by decide) (by decide),
    longer.2 _ object visible⟩

end Client

end InstanceIdentity
