import InstanceIdentity.Proofs.Traffic

/-!
# What a fetch comes to

The exchange of a fetch ends in a fault or in a final response, and this ending alone
decides what the fetch comes to. There are five grounds: a fault of a request, any other
fault, a body that gives no document, a status of an error, and a document that is
accepted. The body is judged before the status.

## Main definitions

* `Response.Gives`, `Response.Withholds` — the document in a response, or why it has none
* `Client.Ground` — the grounds of an outcome
* `Client.Settles` — the outcome on each ground

## Main results

* `Client.fst_fetch` — a fetch concludes from how its exchange ends
* `Client.existsUnique_settles` — every ending falls under one ground
* `Client.fetch_classified` — every fetch that is begun has one ending and one ground
-/

namespace InstanceIdentity

/-! ## The document in a response -/

namespace Response

/-- A response gives a document where so many arrays and objects have room: its text is a JSON
value, and the value is that document. -/
inductive Gives (room : Nat) (r : Response) (d : Document) : Prop
  | intro {text : Text} {v : Json} (decoded : bodyText r.charset? r.content = .ok text)
      (value : Json.readText room text = .ok v) (fits : Document.ofJson v = .ok d)

/-- A response withholds a document for a reason in words: its body is no text in the charset, its
text is no JSON value, or the value is no document. -/
inductive Withholds (room : Nat) (r : Response) : String → Prop
  | charset {e : CharsetError} (undecoded : bodyText r.charset? r.content = .error e) :
      Withholds room r e.message
  | json {text : Text} {e : Json.Error} (decoded : bodyText r.charset? r.content = .ok text)
      (malformed : Json.readText room text = .error e) : Withholds room r e.message
  | mismatch {text : Text} {v : Json} {m : Mismatch}
      (decoded : bodyText r.charset? r.content = .ok text)
      (value : Json.readText room text = .ok v) (misfits : Document.ofJson v = .error m) :
      Withholds room r m.message

variable {room : Nat} {r : Response} {d d' : Document} {m : String}

theorem Gives.readDocument_eq (h : r.Gives room d) : readDocument room r = .ok d := by
  obtain ⟨decoded, value, fits⟩ := h
  rw [readDocument, decoded]
  dsimp only
  rw [documentOfText, value]
  dsimp only
  rw [fits]

theorem Withholds.readDocument_eq (h : r.Withholds room m) :
    ∃ e, readDocument room r = .error e ∧ e.message = m := by
  cases h with
  | @charset e undecoded => exact ⟨.charset e, by rw [readDocument, undecoded], rfl⟩
  | @json text e decoded malformed =>
    refine ⟨.json e, ?_, rfl⟩
    rw [readDocument, decoded]
    dsimp only
    rw [documentOfText, malformed]
  | @mismatch text v m decoded value misfits =>
    refine ⟨.mismatch m, ?_, rfl⟩
    rw [readDocument, decoded]
    dsimp only
    rw [documentOfText, value]
    dsimp only
    rw [misfits]

/-- Every response gives a document or withholds it. -/
theorem gives_or_withholds (room : Nat) (r : Response) :
    (∃ d, r.Gives room d) ∨ ∃ m, r.Withholds room m := by
  -- A document may be missed at each stage of the reading: text, value, document.
  cases decoded : bodyText r.charset? r.content with
  | error e => exact .inr ⟨_, .charset decoded⟩
  | ok text =>
    cases value : Json.readText room text with
    | error e => exact .inr ⟨_, .json decoded value⟩
    | ok v =>
      cases fits : Document.ofJson v with
      | error m => exact .inr ⟨_, .mismatch decoded value fits⟩
      | ok d => exact .inl ⟨d, decoded, value, fits⟩

theorem Gives.unique (h : r.Gives room d) (h' : r.Gives room d') : d = d' :=
  Except.ok.inj (h.readDocument_eq.symm.trans h'.readDocument_eq)

theorem Gives.not_withholds (h : r.Gives room d) : ¬ r.Withholds room m := by
  intro h'
  obtain ⟨e, he, -⟩ := h'.readDocument_eq
  cases h.readDocument_eq.symm.trans he

theorem gives_iff : r.Gives room d ↔ readDocument room r = .ok d := by
  refine ⟨Gives.readDocument_eq, fun document => ?_⟩
  rcases r.gives_or_withholds room with ⟨d', gives⟩ | ⟨m, withholds⟩
  · obtain rfl := Except.ok.inj (gives.readDocument_eq.symm.trans document)
    exact gives
  · obtain ⟨e, failed, -⟩ := withholds.readDocument_eq
    cases document.symm.trans failed

/-- The statuses of errors are those from 400 to 599. -/
theorem isError_iff (r : Response) : r.isError = true ↔ 400 ≤ r.status ∧ r.status ≤ 599 := by
  rw [isError, Bool.and_eq_true, decide_eq_true_iff, decide_eq_true_iff]
  omega

end Response

/-! ## Grounds -/

namespace Client

/-- The grounds of an outcome. -/
inductive Ground | requestFault | otherFault | noDocument | errorStatus | accepted
  deriving DecidableEq, Repr

/-- The outcome that the ending of an exchange has on a ground, where so many arrays and objects
have room in a body. -/
inductive Settles (c : Client) (room : Nat) : Ground → Exchange.Ending → Outcome → Prop
  | requestFault {f : Fault} (reach : f.reach = .request) :
      Settles c room .requestFault (.fault f)
        (.failure ⟨.transport, Text.ofString ("GET " ++ c.documentUrl ++ " failed: ") ++ f.quoted⟩)
  | otherFault {f : Fault} (reach : f.reach ≠ .request) :
      Settles c room .otherFault (.fault f) (.raised f)
  | noDocument {r : Response} {m : String} (withholds : r.Withholds room m) :
      Settles c room .noDocument (.response r)
        (.failure ⟨.decode, Text.ofString
          ("failed to decode identity document (HTTP " ++ toString r.status ++ "): " ++ m)⟩)
  | errorStatus {r : Response} {d : Document} (gives : r.Gives room d)
      (status : 400 ≤ r.status ∧ r.status ≤ 599) :
      Settles c room .errorStatus (.response r)
        (.failure ⟨.transport, Text.ofString
          ("GET " ++ c.documentUrl ++ " returned HTTP " ++ toString r.status ++ " " ++
            r.reason.getD "None")⟩)
  | accepted {r : Response} {d : Document} (gives : r.Gives room d)
      (status : ¬ (400 ≤ r.status ∧ r.status ≤ 599)) :
      Settles c room .accepted (.response r) (.document d)

variable {c : Client} {room : Nat} {ground ground' : Ground} {ending : Exchange.Ending}
  {o o' : Outcome}

/-- On every ground the conclusion is the outcome. -/
theorem Settles.conclude_eq (h : c.Settles room ground ending o) : c.conclude room ending = o := by
  cases h with
  | @requestFault f reach =>
    -- The words in front of the fault are one text here and two there.
    rw [conclude, if_pos reach, transportFailure, ← List.append_assoc, ← Text.ofString_append,
      String.append_assoc]
    rfl
  | @otherFault f reach => rw [conclude, if_neg reach]
  | @noDocument r m withholds =>
    obtain ⟨e, he, rfl⟩ := withholds.readDocument_eq
    rw [conclude, judge, he]
  | @errorStatus r d gives status =>
    rw [conclude, judge, gives.readDocument_eq]
    dsimp only
    -- Again the texts are the same and only put together in another order.
    have words : "GET " ++ c.documentUrl ++ " " ++
          ("returned HTTP " ++ toString r.status ++ " " ++ r.reasonText) =
        "GET " ++ c.documentUrl ++ " returned HTTP " ++ toString r.status ++ " " ++
          r.reason.getD "None" := by
      simp only [String.append_assoc]
      rw [← @String.append_assoc " " "returned HTTP "]
      rfl
    rw [if_pos (r.isError_iff.mpr status), transportFailure, ← Text.ofString_append, words]
  | @accepted r d gives status =>
    rw [conclude, judge, gives.readDocument_eq]
    dsimp only
    rw [if_neg (mt r.isError_iff.mp status)]

/-- An ending falls under one ground only. -/
theorem Settles.unique (h : c.Settles room ground ending o)
    (h' : c.Settles room ground' ending o') : ground = ground' := by
  -- Two grounds would disagree about the reach of a fault, the body or the status.
  cases h with
  | requestFault reach =>
    cases h' with
    | requestFault => rfl
    | otherFault reach' => exact absurd reach reach'
  | otherFault reach =>
    cases h' with
    | requestFault reach' => exact absurd reach' reach
    | otherFault => rfl
  | noDocument withholds =>
    cases h' with
    | noDocument => rfl
    | errorStatus gives status => exact absurd withholds gives.not_withholds
    | accepted gives status => exact absurd withholds gives.not_withholds
  | errorStatus gives status =>
    cases h' with
    | noDocument withholds => exact absurd withholds gives.not_withholds
    | errorStatus => rfl
    | accepted gives' status' => exact absurd status status'
  | accepted gives status =>
    cases h' with
    | noDocument withholds => exact absurd withholds gives.not_withholds
    | errorStatus gives' status' => exact absurd status' status
    | accepted => rfl

theorem exists_settles (c : Client) (room : Nat) (ending : Exchange.Ending) :
    ∃ ground o, c.Settles room ground ending o := by
  cases ending with
  | fault f =>
    by_cases reach : f.reach = .request
    · exact ⟨_, _, .requestFault reach⟩
    · exact ⟨_, _, .otherFault reach⟩
  | response r =>
    rcases r.gives_or_withholds room with ⟨d, gives⟩ | ⟨m, withholds⟩
    · by_cases status : 400 ≤ r.status ∧ r.status ≤ 599
      · exact ⟨_, _, .errorStatus gives status⟩
      · exact ⟨_, _, .accepted gives status⟩
    · exact ⟨_, _, .noDocument withholds⟩

/-- What is concluded from an ending falls under one ground. -/
theorem existsUnique_settles (c : Client) (room : Nat) (ending : Exchange.Ending) :
    ∃! ground, c.Settles room ground ending (c.conclude room ending) := by
  obtain ⟨ground, o, settles⟩ := c.exists_settles room ending
  rw [settles.conclude_eq]
  exact ⟨ground, settles, fun _ other => other.unique settles⟩

/-! ## Fetches -/

/-- A fetch that is begun concludes from how its exchange ends. -/
theorem fst_fetch {timeout : Seconds} {w : World} (pending : timeout.elapsed = false)
    (ends : Exchange.Ends w.replies c.documentUrl ending) :
    (c.fetch timeout w).1 = c.conclude w.room ending := by
  -- Neither the announcement nor the suppression changes the script.
  have plays : World.Plays { w.log c.announcement with suppressed := true } w.replies 0 :=
    World.plays_self _
  have same := ends.fst_run plays timeout
  obtain ⟨legs, sends⟩ := Exchange.exists_sends w.replies c.documentUrl
  have room : ((c.fetch timeout w).2).room = w.room := by
    rw [snd_fetch pending sends]
    exact World.sent_room
  rw [fetch, if_neg (by simp [pending])] at room ⊢
  exact congrArg₂ c.conclude room same

theorem fst_fetch_of_settles {timeout : Seconds} {w : World} (pending : timeout.elapsed = false)
    (ends : Exchange.Ends w.replies c.documentUrl ending)
    (settles : c.Settles w.room ground ending o) : (c.fetch timeout w).1 = o := by
  rw [fst_fetch pending ends, settles.conclude_eq]

end Client

end InstanceIdentity
