import InstanceIdentity.Proofs.Acceptance
import InstanceIdentity.Proofs.Denotation
import InstanceIdentity.Proofs.Truncation
import InstanceIdentity.Proofs.Writing

/-!
# Members that are not in the table

A member whose key is not in the table makes no difference to a document. Its value need not be a
string, it may be any value of JSON, and it may stand anywhere among the members. But before any
key is looked up the whole body is read, and the reader has limits on nesting and on the digits of
whole numbers that no member is exempt from. So a body that gets such a member stays the same
document if the member is within the limits, and fails to be decoded for the limit if it is not.
How deep a body may be nested depends on what calls for the fetch.

## Main definitions

* `Json.Inserts` — the text of an object and the same text with one member more, behind so many

## Main results

* `Json.Inserts.read` — an object with one member more
* `Json.exists_inserts` — behind any number of its members an object has a place for one more
* `Client.fetch_of_inserts` — a fetch with a body that gets a member
* `Client.fetch_refuses_inserted` — members beyond the limits
-/

namespace InstanceIdentity

open Exchange

namespace Json

/-- The text of an object, and the same text with one more member behind so many of the others: as
the only one, or before, behind or between them. -/
inductive Inserts (added : List Char) : Nat → List Char → List Char → Prop
  | only {before inside after : List Char} (blank : IsBlank before) (empty : IsBlank inside)
      (blank' : IsBlank after) :
      Inserts added 0 (before ++ '\x7b' :: (inside ++ '\x7d' :: after))
        (before ++ '\x7b' :: (added ++ '\x7d' :: after))
  | among {before after : List Char} {front back : List (List Char)} (blank : IsBlank before)
      (members : ∀ text ∈ front ++ back, ∃ m x, Written (.member m) x text)
      (some : front ++ back ≠ []) (blank' : IsBlank after) :
      Inserts added front.length
        (before ++ '\x7b' :: (List.intercalate [','] (front ++ back) ++ '\x7d' :: after))
        (before ++ '\x7b' :: (List.intercalate [','] (front ++ added :: back) ++ '\x7d' :: after))

/-- A member as it can be written, without white space. -/
theorem written_member {key : Text} {v : Json} {x : Extent} {s : List Char}
    (joined : Text.IsJoined key) (value : Written (.value v) x s) :
    Written (.member (key, v)) x (writeText key ++ ':' :: s) := by
  have quoted := (writtenString_writeText key).quoted
  rw [Text.joined_of_isJoined joined] at quoted
  have item := Written.item isBlank_nil value isBlank_nil
  have written := Written.member isBlank_nil quoted isBlank_nil item
  simpa only [List.nil_append, List.append_nil] using written

/-- Digits without a zero in front are a whole number, however many they are. -/
theorem exists_written_digits {c : Char} (digit : c.isDigit = true) (nonzero : c ≠ '0') (k : Nat) :
    ∃ i, Written (.value (.int i)) ⟨0, k + 1⟩ (List.replicate (k + 1) c) := by
  have rest : IsDigits (List.replicate k c) :=
    fun d member => List.eq_of_mem_replicate member ▸ digit
  have written := WrittenInteger.plain (.digits digit nonzero rest)
  rw [← List.replicate_succ, List.length_replicate] at written
  exact ⟨_, .integer written⟩

/-- Arrays can be written within one another, however many they are. -/
theorem exists_written_arrays (k : Nat) :
    ∃ v, Written (.value v) ⟨k + 1, 0⟩
      (List.replicate (k + 1) '[' ++ List.replicate (k + 1) ']') := by
  induction k with
  | zero => exact ⟨_, .emptyArray isBlank_nil⟩
  | succ k ih =>
    obtain ⟨v, written⟩ := ih
    have around := Written.array (.lastItem (.item isBlank_nil written isBlank_nil))
    rw [List.nil_append, List.append_nil, List.append_assoc, ← List.replicate_succ',
      ← List.cons_append, ← List.replicate_succ] at around
    exact ⟨_, around⟩

/-- A member with its extent and its text. -/
structure Entry where
  member : Text × Json
  extent : Extent
  text : List Char

/-- The text of an entry is one of its member and has its extent. -/
def Entry.IsWritten (entry : Entry) : Prop := Written (.member entry.member) entry.extent entry.text

variable {entries front back : List Entry} {entry : Entry} {texts : List (List Char)}
  {added s s' : List Char} {m : Text × Json} {ms : List (Text × Json)} {x : Extent} {room n : Nat}

theorem exists_entries (h : ∀ text ∈ texts, ∃ m x, Written (.member m) x text) :
    ∃ entries : List Entry, entries.map Entry.text = texts ∧
      ∀ entry ∈ entries, entry.IsWritten := by
  induction texts with
  | nil => exact ⟨[], rfl, by simp⟩
  | cons text texts ih =>
    rw [List.forall_mem_cons] at h
    obtain ⟨⟨m, x, written⟩, others⟩ := h
    obtain ⟨entries, rfl, all⟩ := ih others
    exact ⟨⟨m, x, text⟩ :: entries, rfl, List.forall_mem_cons.mpr ⟨written, all⟩⟩

/-- Members with commas between them are within the limits if each of them is. -/
theorem exists_written_members (h : ∀ entry ∈ entries, entry.IsWritten) (some : entries ≠ []) :
    ∃ x, Written (.members (entries.map Entry.member)) x
        (List.intercalate [','] (entries.map Entry.text)) ∧
      ∀ room level, x.Fits room level ↔ ∀ entry ∈ entries, entry.extent.Fits room level := by
  induction entries with
  | nil => exact absurd rfl some
  | cons entry entries ih =>
    rw [List.forall_mem_cons] at h
    cases entries with
    | nil =>
      refine ⟨entry.extent, ?_, by simp⟩
      have written := Written.lastMember h.1
      simpa using written
    | cons next rest =>
      obtain ⟨x, written, fits⟩ := ih h.2 (List.cons_ne_nil _ _)
      refine ⟨entry.extent.beside x, ?_, fun room level => ?_⟩
      · have both := Written.members h.1 written
        simpa using both
      · rw [Extent.fits_beside, fits]
        exact (List.forall_mem_cons (p := fun entry : Entry => entry.extent.Fits room level)).symm

theorem forall_mem_among {P : Entry → Prop} (h : ∀ other ∈ front ++ back, P other) (h' : P entry) :
    ∀ other ∈ front ++ entry :: back, P other := by
  rw [List.forall_mem_append] at h
  exact List.forall_mem_append.mpr ⟨h.1, List.forall_mem_cons.mpr ⟨h', h.2⟩⟩

section Objects

variable {before after : List Char} (blank : IsBlank before) (blank' : IsBlank after)

include blank

theorem read_of_entries (h : ∀ entry ∈ entries, entry.IsWritten) (some : entries ≠ [])
    (blank' : IsBlank after) (fits : ∀ entry ∈ entries, entry.extent.Fits room 1) :
    read room (before ++
        '\x7b' :: (List.intercalate [','] (entries.map Entry.text) ++ '\x7d' :: after)) =
      .ok (.object (entries.map Entry.member)) := by
  obtain ⟨x, written, extent⟩ := exists_written_members h some
  exact read_of_members blank written blank' ((extent room 1).mpr fits)

theorem read_of_entries_excess (free : 0 < room) (h : ∀ entry ∈ entries, entry.IsWritten)
    (inside : entry ∈ entries) (exceeds : ¬ entry.extent.Fits room 1) :
    ∃ e, Error.IsLimit e ∧ read room (before ++
      '\x7b' :: (List.intercalate [','] (entries.map Entry.text) ++ '\x7d' :: after)) =
        .error e := by
  obtain ⟨x, written, extent⟩ := exists_written_members h (List.ne_nil_of_mem inside)
  exact read_of_exceeds free blank written fun fits =>
    exceeds ((extent room 1).mp fits entry inside)

/-- What has been read is within the limits. -/
theorem fits_of_entries (free : 0 < room) (h : ∀ entry ∈ entries, entry.IsWritten)
    (read : read room (before ++
      '\x7b' :: (List.intercalate [','] (entries.map Entry.text) ++ '\x7d' :: after)) = .ok v) :
    ∀ entry ∈ entries, entry.extent.Fits room 1 := by
  intro entry member
  by_contra exceeds
  obtain ⟨e, -, refused⟩ := read_of_entries_excess blank free h member exceeds
  cases read.symm.trans refused

/-- The text of an object with an entry among others. -/
theorem read_of_entry (h : ∀ other ∈ front ++ back, other.IsWritten) (written : entry.IsWritten)
    (blank' : IsBlank after) (fits : ∀ other ∈ front ++ back, other.extent.Fits room 1)
    (within : entry.extent.Fits room 1) :
    read room (before ++ '\x7b' ::
        (List.intercalate [','] (front.map Entry.text ++ entry.text :: back.map Entry.text) ++
          '\x7d' :: after)) =
      .ok (.object (front.map Entry.member ++ entry.member :: back.map Entry.member)) := by
  have some : front ++ entry :: back ≠ [] := by simp
  have read := read_of_entries blank (forall_mem_among h written) some blank'
    (forall_mem_among fits within)
  simpa only [List.map_append, List.map_cons] using read

end Objects

/-- An object with one member more is read with this member at its place, if the member is within
the limits, and refused for a limit if it is not. -/
theorem Inserts.read (h : Inserts added n s s') (free : 0 < room)
    (written : Written (.member m) x added) (object : Json.read room s = .ok (.object ms)) :
    (x.Fits room 1 → Json.read room s' = .ok (.object (ms.take n ++ m :: ms.drop n))) ∧
      (¬ x.Fits room 1 → ∃ e, Error.IsLimit e ∧ Json.read room s' = .error e) := by
  cases h with
  | @only before inside after blank empty blank' =>
    have fits : Extent.flat.nested.Fits room 0 :=
      Extent.fits_nested.mpr (Extent.fits_flat free)
    have nothing := read_of_fits (.item blank (.emptyObject empty) blank') fits
    simp only [List.append_assoc, List.cons_append, List.nil_append] at nothing
    obtain rfl := Json.object.inj (Except.ok.inj (nothing.symm.trans object))
    exact ⟨read_of_members blank (.lastMember written) blank',
      read_of_exceeds free blank (.lastMember written)⟩
  | @among before after front back blank members some blank' =>
    rw [List.forall_mem_append] at members
    obtain ⟨front, rfl, inFront⟩ := exists_entries members.1
    obtain ⟨back, rfl, inBack⟩ := exists_entries members.2
    have entry : Entry.IsWritten ⟨m, x, added⟩ := written
    have all : ∀ other ∈ front ++ back, other.IsWritten :=
      List.forall_mem_append.mpr ⟨inFront, inBack⟩
    have some' : front ++ back ≠ [] := fun none => some (by rw [← List.map_append, none]; rfl)
    rw [← List.map_append] at object
    constructor
    · have fits := fits_of_entries blank free all object
      have read := read_of_entries blank all some' blank' fits
      obtain rfl := Json.object.inj (Except.ok.inj (read.symm.trans object))
      -- The members in front are as many as their texts.
      rw [List.map_append, List.take_left' (by simp), List.drop_left' (by simp)]
      exact read_of_entry blank all entry blank' fits
    · intro exceeds
      have inside : (⟨m, x, added⟩ : Entry) ∈ front ++ ⟨m, x, added⟩ :: back := by simp
      have refused := @read_of_entries_excess _ _ _ before after blank free
        (forall_mem_among all entry) inside exceeds
      simpa only [List.map_append, List.map_cons] using refused

/-- Members with commas between them are entries. -/
theorem exists_entries_of_written (h : Written (.members ms) x s) :
    ∃ entries : List Entry, entries ≠ [] ∧ (∀ entry ∈ entries, entry.IsWritten) ∧
      entries.map Entry.member = ms ∧ List.intercalate [','] (entries.map Entry.text) = s := by
  generalize piece : Piece.members ms = p at h
  -- Over the ways of writing members, of which one comes after another.
  induction h generalizing ms with
  | @lastMember m x s member =>
    obtain rfl := Piece.members.inj piece
    exact ⟨[⟨m, x, s⟩], by simp, List.forall_mem_singleton.mpr member, rfl, by simp⟩
  | @members m ms x y s s' member others ih ih' =>
    obtain rfl := Piece.members.inj piece
    obtain ⟨entries, some, all, rfl, rfl⟩ := ih' rfl
    refine ⟨⟨m, x, s⟩ :: entries, by simp, List.forall_mem_cons.mpr ⟨member, all⟩, rfl, ?_⟩
    obtain ⟨next, rest, rfl⟩ := List.exists_cons_of_ne_nil some
    simp
  | _ => cases piece

/-- The text of an object has a place for one member more behind any number of its members. -/
theorem exists_inserts (added : List Char) (object : Json.read room s = .ok (.object ms))
    (within : n ≤ ms.length) : ∃ s', Inserts added n s s' := by
  obtain ⟨y, text, -⟩ := read_eq_ok_iff_written.mp object
  cases text with
  | item blank value blank' =>
  generalize whole : Json.object ms = v at value
  cases value with
  | word listed =>
    subst whole
    simp [words] at listed
  | emptyObject empty =>
    obtain rfl := Json.object.inj whole
    obtain rfl := Nat.le_zero.mp within
    simp only [List.append_assoc, List.cons_append, List.nil_append]
    exact ⟨_, .only blank empty blank'⟩
  | object members =>
    obtain rfl := Json.object.inj whole
    obtain ⟨entries, some, all, rfl, rfl⟩ := exists_entries_of_written members
    have split := (entries.map Entry.text).take_append_drop n
    have texts : ∀ text ∈ entries.map Entry.text, ∃ m x, Written (.member m) x text :=
      List.forall_mem_map.mpr fun entry member => ⟨_, _, all entry member⟩
    have inserts := @Inserts.among added _ _ ((entries.map Entry.text).take n)
      ((entries.map Entry.text).drop n) blank (split.symm ▸ texts) (by simpa [split] using some)
      blank'
    rw [split, List.length_take_of_le (by simpa using within)] at inserts
    simp only [List.append_assoc, List.cons_append, List.nil_append]
    exact ⟨_, inserts⟩
  | _ => cases whole

end Json

/-! ## Fetches -/

variable {r r' f f' : Response} {d : Document}
variable {m : Text × Json} {x : Json.Extent} {added : List Char}

namespace Client

/-- A body that is refused as JSON fails to be decoded. -/
theorem fetch_of_refused {c : Client} {timeout : Seconds} {w : World} {e : Json.Error}
    (reaches : CanSend c.documentUrl) (pending : timeout.elapsed = false)
    (replies : w.replies = [.response r]) (json : r.DeclaresJson) (final : locationOf r = .ok none)
    (arrives : Ending.ofFinal r = .response f)
    (refused : Json.read w.room (utf8Text f.body) = .error e) :
    (c.fetch timeout w).1 = .failure ⟨.decode,
      Text.ofString ("failed to decode identity document (HTTP 200): " ++ e.message)⟩ := by
  have json' := json.arrives arrives
  have withholds : f.Withholds w.room e.message := .json json'.bodyText_eq refused
  rw [fetch_of_withholds reaches pending replies final arrives withholds, json'.status]
  rfl

/-- A member that is not in the table makes no difference. Let a fetch with a single response that
is declared as JSON bring a document. Its body, as it arrives, is the text of an object. Behind any
number of its members there is a place for one more, with any key that is not in the table and any
value of JSON. Another response, whose body arrives with the member there, brings the same document
if the member is within the limits of the reader: no more arrays and objects within one another than
have room, the body's own object included, and at most 4300 digits in a whole number. Beyond the
limits the fetch fails to decode the body, and says which limit it was. -/
theorem fetch_of_inserts (c : Client) (timeout : Seconds) (w : World) (json : r.DeclaresJson)
    (arrives : Ending.ofFinal r = .response f) (written : Json.Written (.member m) x added)
    (unknown : ∀ key ∈ reportedKeys ++ unreportedKeys, m.1 ≠ Text.ofString key) :
    let fetched (r : Response) : Outcome :=
      (c.fetch timeout { w with replies := [.response r] }).1
    fetched r = .document d → ∃ ms, Json.read w.room (utf8Text f.body) = .ok (.object ms) ∧
      ∀ n ≤ ms.length, (∃ s, Json.Inserts added n (utf8Text f.body) s) ∧
        ∀ {r' f' : Response}, r'.DeclaresJson → locationOf r' = .ok none →
          Ending.ofFinal r' = .response f' →
          Json.Inserts added n (utf8Text f.body) (utf8Text f'.body) →
            (x.depth + 1 ≤ w.room ∧ x.digits ≤ 4300 → fetched r' = .document d) ∧
            (¬ (x.depth + 1 ≤ w.room ∧ x.digits ≤ 4300) → ∃ e : Json.Error, e.IsLimit ∧
              fetched r' = .failure ⟨.decode, Text.ofString
                ("failed to decode identity document (HTTP 200): " ++ e.message)⟩) := by
  intro fetched document
  obtain ⟨reaches, pending, accepted⟩ := (fetch_single_eq_document_iff rfl).mp document
  obtain ⟨f₀, arrived, gives⟩ := accepted.arrives
  obtain rfl := Ending.response.inj (arrives.symm.trans arrived)
  obtain ⟨ms, object, fits⟩ := (json.arrives arrives).gives_iff.mp gives
  refine ⟨ms, object, fun n within => ⟨Json.exists_inserts added object within, ?_⟩⟩
  intro r' f' json' final' arrives' inserts
  obtain ⟨read, refused⟩ := inserts.read w.room_pos written object
  have limits : x.Fits w.room 1 ↔ x.depth + 1 ≤ w.room ∧ x.digits ≤ 4300 := by
    rw [Json.Extent.Fits, Nat.add_comm]
    rfl
  rw [← limits]
  constructor
  · intro free
    have same := Document.ofMembers_of_isRearranged
      (.rel _ _ (.unknown (ms.take n) (ms.drop n) unknown))
    rw [List.take_append_drop] at same
    have gives' : f'.Gives w.room d :=
      (json'.arrives arrives').gives_iff.mpr ⟨_, read free, same.symm.trans fits⟩
    have accepted' : r'.Accepted w.room d :=
      ⟨final', ⟨f', arrives', gives'⟩, by rw [json'.status]; decide⟩
    exact (fetch_single_eq_document_iff rfl).mpr ⟨reaches, pending, accepted'⟩
  · intro beyond
    obtain ⟨e, limit, refused⟩ := refused beyond
    exact ⟨e, limit, fetch_of_refused reaches pending rfl json' final' arrives' refused⟩

theorem arrives_declaredJson (body : List UInt8) :
    (declaredJson body).DeclaresJson ∧ locationOf (declaredJson body) = .ok none ∧
      Ending.ofFinal (declaredJson body) = .response (declaredJson body) := by
  have empty : (declaredJson []).IsJson := ⟨rfl, by decide +kernel, by decide +kernel⟩
  have unmeasured : (declaredJson []).headerLength = .ok none := by decide +kernel
  have json : (declaredJson body).IsJson := ⟨rfl, empty.type, empty.uncoded⟩
  exact ⟨json.declaresJson, Response.final_of_comesWhole (json.comesWhole unmeasured) rfl⟩

theorem fetch_emptyObject :
    (standard.fetch (.whole 5)
      (.fresh [.response (declaredJson (Utf8.encode ['\x7b', '\x7d']))])).1 = .document {} := by
  obtain ⟨json, final, arrives⟩ := arrives_declaredJson (Utf8.encode ['\x7b', '\x7d'])
  have accepted : (declaredJson (Utf8.encode ['\x7b', '\x7d'])).Accepted (World.fresh []).room {} :=
    ⟨final, ⟨_, arrives, json.gives_iff.mpr ⟨[], rfl, rfl⟩⟩, by decide⟩
  exact (fetch_single_eq_document_iff rfl).mpr ⟨canSend_standard, rfl, accepted⟩

/-- An array in an unknown member makes no difference to an empty object. -/
theorem fetch_of_inserts_note :
    let member := (Text.ofString "note", Json.array [.null])
    let added := Json.writeText member.1 ++ ':' :: ('[' :: ("null".toList ++ [']']))
    let empty : Response := declaredJson (Utf8.encode ['\x7b', '\x7d'])
    let noted : Response := declaredJson (Utf8.encode ('\x7b' :: (added ++ ['\x7d'])))
    empty.DeclaresJson ∧ noted.DeclaresJson ∧ Ending.ofFinal empty = .response empty ∧
      locationOf noted = .ok none ∧ Ending.ofFinal noted = .response noted ∧
      Json.Written (.member member) ⟨1, 0⟩ added ∧
      (∀ key ∈ reportedKeys ++ unreportedKeys, member.1 ≠ Text.ofString key) ∧
      Json.Inserts added 0 (utf8Text empty.body) (utf8Text noted.body) ∧
      (standard.fetch (.whole 5) (.fresh [.response empty])).1 = .document {} ∧
      (standard.fetch (.whole 5) (.fresh [.response noted])).1 = .document {} := by
  intro member added empty noted
  obtain ⟨json, -, arrives⟩ := arrives_declaredJson (Utf8.encode ['\x7b', '\x7d'])
  obtain ⟨json', final', arrives'⟩ :=
    arrives_declaredJson (Utf8.encode ('\x7b' :: (added ++ ['\x7d'])))
  have null : Json.Written (.value .null) .flat "null".toList := .word (by simp [Json.words])
  have written : Json.Written (.member member) ⟨1, 0⟩ added :=
    Json.written_member (by decide)
      (.array (.lastItem (.item Json.isBlank_nil null Json.isBlank_nil)))
  have unknown : ∀ key ∈ reportedKeys ++ unreportedKeys, member.1 ≠ Text.ofString key := by decide
  have inserts : Json.Inserts added 0 (utf8Text empty.body) (utf8Text noted.body) := by
    have texts : utf8Text empty.body = ['\x7b', '\x7d'] ∧
        utf8Text noted.body = '\x7b' :: (added ++ ['\x7d']) :=
      ⟨utf8Text_encode _, utf8Text_encode _⟩
    rw [texts.1, texts.2]
    exact .only Json.isBlank_nil Json.isBlank_nil Json.isBlank_nil
  obtain ⟨ms, -, places⟩ := standard.fetch_of_inserts (.whole 5) (.fresh []) json arrives written
    unknown fetch_emptyObject
  obtain ⟨-, same⟩ := places 0 (Nat.zero_le _)
  have kept := (same json' final' arrives' inserts).1 (by decide)
  exact ⟨json, json', arrives, final', arrives', written, unknown, inserts, fetch_emptyObject, kept⟩

/-- A whole number of 4301 digits under a key that is not in the table is too long, and 1500 arrays
within one another are too deep. -/
theorem fetch_refuses_inserted :
    let fetched (body : List Char) : Outcome :=
      (standard.fetch (.whole 5) (.fresh [.response (declaredJson (Utf8.encode body))])).1
    let key := Text.ofString "note"
    let long := Json.writeText key ++ ':' :: List.replicate 4301 '1'
    let deep := Json.writeText key ++ ':' :: (List.replicate 1500 '[' ++ List.replicate 1500 ']')
    (∀ known ∈ reportedKeys ++ unreportedKeys, key ≠ Text.ofString known) ∧
      fetched ['\x7b', '\x7d'] = .document {} ∧
      ∀ added ∈ [long, deep], (∃ v x, Json.Written (.member (key, v)) x added) ∧
        Json.Inserts added 0 ['\x7b', '\x7d'] ('\x7b' :: (added ++ ['\x7d'])) ∧
        fetched ('\x7b' :: (added ++ ['\x7d'])) ≠ .document {} := by
  intro fetched key long deep
  have refused {added : List Char} {v : Json} {x : Json.Extent}
      (written : Json.Written (.member (key, v)) x added)
      (exceeds : ¬ x.Fits (World.fresh []).room 1) :
      (∃ v x, Json.Written (.member (key, v)) x added) ∧
        Json.Inserts added 0 ['\x7b', '\x7d'] ('\x7b' :: (added ++ ['\x7d'])) ∧
        fetched ('\x7b' :: (added ++ ['\x7d'])) ≠ .document {} := by
    refine ⟨⟨v, x, written⟩, .only Json.isBlank_nil Json.isBlank_nil Json.isBlank_nil, ?_⟩
    obtain ⟨json, final, arrives⟩ :=
      arrives_declaredJson (Utf8.encode ('\x7b' :: (added ++ ['\x7d'])))
    obtain ⟨e, -, unread⟩ := Json.read_of_exceeds (World.fresh []).room_pos Json.isBlank_nil
      (.lastMember written) exceeds
    have text := utf8Text_encode ('\x7b' :: (added ++ ['\x7d']))
    have failed : fetched ('\x7b' :: (added ++ ['\x7d'])) = .failure _ :=
      fetch_of_refused canSend_standard rfl rfl json final arrives (text.symm ▸ unread)
    rw [failed]
    exact nofun
  obtain ⟨i, digits⟩ := Json.exists_written_digits (c := '1') rfl (by decide) 4300
  obtain ⟨v, arrays⟩ := Json.exists_written_arrays 1499
  refine ⟨by decide, fetch_emptyObject, ?_⟩
  simp only [List.forall_mem_cons, List.not_mem_nil, false_implies, implies_true, and_true]
  exact ⟨refused (Json.written_member (by decide) digits) (by decide),
    refused (Json.written_member (by decide) arrays) (by decide)⟩

end Client

end InstanceIdentity
