import InstanceIdentity.Proofs.Delivery
import InstanceIdentity.Proofs.Members
import InstanceIdentity.Proofs.Rehearsal
import InstanceIdentity.Proofs.Replacement

/-!
# What a detection shows of a document

A detection reports six fields of a document, and nothing else gets through. Two detections with
documents come to the same resource exactly if the documents agree about these fields. So a
response may be replaced by another one whose object is a variant: a detection shows the same in
all that can be seen of it, its result, its log records and its requests.

## Main definitions

* `Response.Carries` — the object in a response
* `Response.SameIdentity` — final responses with documents of one identity

## Main results

* `Resource.ofDocument_eq_iff` — the resource of a document is its identity
* `Session.detection_projects` — detections with documents, and with variants of an object
-/

namespace InstanceIdentity

open Exchange World

variable {room : Nat} {r r' f f' : Response} {d d' : Document}
  {members members' : List (Text × Json)}

/-! ## Resources -/

/-- The resources of two documents are the same exactly if the documents have one identity. -/
theorem Resource.ofDocument_eq_iff : ofDocument d = ofDocument d' ↔ d.SameIdentity d' := by
  constructor
  · intro same
    have attributes := congrArg Resource.attributes same
    simp only [ofDocument, List.cons.injEq, Prod.mk.injEq, true_and, and_true] at attributes
    obtain ⟨accountId, region, availabilityZone, instanceId, instanceType, imageId⟩ := attributes
    exact ⟨accountId, region, availabilityZone, instanceId, instanceType, imageId⟩
  · intro same
    rw [ofDocument, ofDocument, same.accountId, same.region, same.availabilityZone,
      same.instanceId, same.instanceType, same.imageId]

/-! ## Responses -/

namespace Response

/-- A response carries an object where so many arrays and objects have room: what arrives of it is
read as the object with these members. -/
inductive Carries (room : Nat) (r : Response) (members : List (Text × Json)) : Prop
  | intro {f : Response} {text : Text} (arrives : Ending.ofFinal r = .response f)
      (decoded : bodyText f.charset? f.content = .ok text)
      (value : Json.readText room text = .ok (.object members))

/-- Two final responses have documents of one identity, and no status of an error. -/
structure SameIdentity (room : Nat) (f f' : Response) : Prop where
  gives : ∃ d d', f.Gives room d ∧ f'.Gives room d' ∧ d.SameIdentity d'
  status : ¬ (400 ≤ f.status ∧ f.status ≤ 599)
  status' : ¬ (400 ≤ f'.status ∧ f'.status ≤ 599)

/-- The document that is accepted is the one in the object. -/
theorem Carries.ofMembers_eq (h : r.Carries room members)
    (arrives : Ending.ofFinal r = .response f) (gives : f.Gives room d) :
    Document.ofMembers members = .ok d := by
  obtain ⟨arrives', decoded, value⟩ := h
  obtain rfl := Ending.response.inj (arrives.symm.trans arrives')
  obtain ⟨decoded', value', fits⟩ := gives
  obtain rfl := Except.ok.inj (decoded.symm.trans decoded')
  obtain rfl := Except.ok.inj (value.symm.trans value')
  exact fits

/-- Accepted responses that carry variants of an object have the same place in an exchange. -/
theorem Accepted.alike (accepted : r.Accepted room d) (accepted' : r'.Accepted room d')
    (carries : r.Carries room members) (carries' : r'.Carries room members')
    (variants : Json.IsVariant members members') :
    Reply.Alike (SameIdentity room) (.response r) (.response r') := by
  obtain ⟨f, arrives, gives⟩ := accepted.arrives
  obtain ⟨f', arrives', gives'⟩ := accepted'.arrives
  have identity : d.SameIdentity d' :=
    variants.sameIdentity (carries.ofMembers_eq arrives gives)
      (carries'.ofMembers_eq arrives' gives')
  refine .response (accepted'.final.trans accepted.final.symm) (fun location redirects => ?_)
    fun _ => ?_
  · cases accepted.final.symm.trans redirects
  rw [arrives, arrives']
  refine .response ⟨⟨d, d', gives, gives', identity⟩, ?_, ?_⟩
  · rw [(Ending.eq_of_ofFinal arrives).1]
    exact accepted.status
  · rw [(Ending.eq_of_ofFinal arrives').1]
    exact accepted'.status

/-- Responses of one identity are detected alike. -/
theorem SameIdentity.conclude_eq (h : f.SameIdentity room f') (c : Client) :
    Detector.conclude (c.judge room f) = Detector.conclude (c.judge room f') := by
  obtain ⟨d, d', gives, gives', identity⟩ := h.gives
  have judged : c.judge room f = .document d :=
    (Client.Settles.accepted (c := c) gives h.status).conclude_eq
  have judged' : c.judge room f' = .document d' :=
    (Client.Settles.accepted (c := c) gives' h.status').conclude_eq
  rw [judged, judged', Detector.conclude, Detector.conclude,
    Resource.ofDocument_eq_iff.mpr identity]

end Response

/-! ## Detections -/

namespace Session

variable {c c' : Client} {limit limit' timeout timeout' : Seconds}
  {given given' : Option Seconds} {w w' : World}

/-- Detections whose fetches bring documents have the same result exactly if these have one
identity. -/
theorem detect_eq_iff (fetched : (c.fetch (given.getD limit) w).1 = .document d)
    (fetched' : (c'.fetch (given'.getD limit') w').1 = .document d') :
    (Detector.detect ⟨c.fetch, limit⟩ given w).1 =
      (Detector.detect ⟨c'.fetch, limit'⟩ given' w').1 ↔ d.SameIdentity d' := by
  rw [Client.fst_detect, Client.fst_detect, fetched, fetched', ← Resource.ofDocument_eq_iff]
  exact Detection.resource.injEq _ _ ▸ Iff.rfl

/-- With scripts whose answers have one identity, a detection shows the same. -/
theorem respond_detect_of_alike {replies replies' : List Reply} {spare : Nat}
    (alike : ScriptsAlike (Response.SameIdentity (begun [] spare).room) replies replies')
    (suppressed : Bool) :
    respond c limit suppressed ⟨.detect given, replies, spare⟩ =
      respond c limit suppressed ⟨.detect given, replies', spare⟩ := by
  let fetched (replies : List Reply) := c.fetch (given.getD limit) (.begun replies spare)
  have concluded :
      Detector.conclude (fetched replies).1 = Detector.conclude (fetched replies').1 :=
    Client.fst_fetch_of_alike Detector.conclude alike rfl fun f f' same => same.conclude_eq c
  obtain ⟨records, requests, asked⟩ : (fetched replies).2.records = (fetched replies').2.records ∧
      (fetched replies).2.requests = (fetched replies').2.requests ∧
      (fetched replies).2.asked = (fetched replies').2.asked := Client.snd_fetch_of_alike alike
  have shown (replies : List Reply) : respond c limit suppressed ⟨.detect given, replies, spare⟩ =
      { result := .detected (Detector.conclude (fetched replies).1).1
        records := (fetched replies).2.records.reverse ++
          (Detector.conclude (fetched replies).1).2.toList
        requests := (fetched replies).2.requests.reverse
        asked := (fetched replies).2.asked.reverse
        suppressed := suppressed } := respond_detect
  rw [shown, shown, concluded, records, requests, asked]

/-- Only the six reported fields get from a document into the resource of a detection, and all of
them do. Detections whose fetches bring documents come to the same resource exactly if the documents
agree about these fields. And where two responses are both accepted, and the objects in them are
variants, one may take the place of the other in every script: a detection shows the same result,
log records and requests. -/
theorem detection_projects (c : Client) (limit : Seconds) :
    (∀ (c' : Client) (limit' : Seconds) (given given' : Option Seconds) (w w' : World)
        (d d' : Document), (c.fetch (given.getD limit) w).1 = .document d →
        (c'.fetch (given'.getD limit') w').1 = .document d' →
        ((Detector.detect ⟨c.fetch, limit⟩ given w).1 =
          (Detector.detect ⟨c'.fetch, limit'⟩ given' w').1 ↔ d.SameIdentity d')) ∧
      ∀ (timeout timeout' : Seconds) (r r' : Response) (d d' : Document)
        (members members' : List (Text × Json)) (spare : Nat),
        (c.fetch timeout (.begun [.response r] spare)).1 = .document d →
        (c.fetch timeout' (.begun [.response r'] spare)).1 = .document d' →
        r.Carries (begun [] spare).room members → r'.Carries (begun [] spare).room members' →
        Json.IsVariant members members' →
        ∀ (given : Option Seconds) (suppressed : Bool) (earlier later : List Reply),
          respond c limit suppressed ⟨.detect given, earlier ++ .response r :: later, spare⟩ =
            respond c limit suppressed
              ⟨.detect given, earlier ++ .response r' :: later, spare⟩ := by
  constructor
  · intro c' limit' given given' w w' d d' fetched fetched'
    exact detect_eq_iff fetched fetched'
  · intro timeout timeout' r r' d d' members members' spare fetched fetched' carries carries'
      variants given suppressed earlier later
    obtain ⟨-, -, accepted⟩ := (Client.fetch_single_eq_document_iff rfl).mp fetched
    obtain ⟨-, -, accepted'⟩ := (Client.fetch_single_eq_document_iff rfl).mp fetched'
    have alike := accepted.alike accepted' carries carries' variants
    exact respond_detect_of_alike (scriptsAlike_replace alike earlier later) suppressed

/-- A private address makes no difference, nor does a member under another key. -/
theorem detection_projects_privateIp :
    let text := "\x7b\"region\":\"a\",\"privateIp\":\"b\"\x7d"
    let text' := "\x7b\"c\":1,\"region\":\"a\"\x7d"
    let r : Response := ⟨200, some "OK", [], text.toUTF8.toList⟩
    let r' : Response := ⟨200, some "OK", [], text'.toUTF8.toList⟩
    let d : Document := { region := Text.ofString "a", privateIp := Text.ofString "b" }
    let d' : Document := { region := Text.ofString "a" }
    (Client.standard.fetch (.whole 5) (.fresh [.response r])).1 = .document d ∧
      (Client.standard.fetch (.whole 5) (.fresh [.response r'])).1 = .document d' ∧
      d.SameIdentity d' ∧
      respond .standard (.whole 5) false ⟨.detect none, [.response r], spareCalls⟩ =
        respond .standard (.whole 5) false ⟨.detect none, [.response r'], spareCalls⟩ := by
  intro text text' r r' d d'
  have fetched : (Client.standard.fetch (.whole 5) (.fresh [.response r])).1 = .document d := by
    decide +kernel
  have fetched' : (Client.standard.fetch (.whole 5) (.fresh [.response r'])).1 = .document d' := by
    decide +kernel
  let region : Text × Json := (Text.ofString "region", .string (Text.ofString "a"))
  let privateIp : Text × Json := (Text.ofString "privateIp", .string (Text.ofString "b"))
  let other : Text × Json := (Text.ofString "c", .int 1)
  have carries : r.Carries (fresh []).room [region, privateIp] := by
    have value : Json.readText (fresh []).room (Text.ofChars text.toList) =
        .ok (.object [region, privateIp]) := by
      rw [String.toList_ofList]
      rfl
    exact .intro (f := r) (by decide +kernel) (by decide +kernel) value
  have carries' : r'.Carries (fresh []).room [other, region] := by
    have value : Json.readText (fresh []).room (Text.ofChars text'.toList) =
        .ok (.object [other, region]) := by
      rw [String.toList_ofList]
      rfl
    exact .intro (f := r') (by decide +kernel) (by decide +kernel) value
  have variants : Json.IsVariant [region, privateIp] [other, region] := by
    have added : Json.IsVariant [region] [region, privateIp] :=
      .rel _ _ (.unreported [region] [] (Text.ofString "b") (by decide))
    have added' : Json.IsVariant [region] [other, region] :=
      .rel _ _ (.rearranged (.unknown [] [region] (by decide)))
    exact .trans _ _ _ (.symm _ _ added) added'
  have projects := Session.detection_projects .standard (.whole 5)
  have same := (projects.1 .standard (.whole 5) none none (.fresh [.response r])
    (.fresh [.response r']) d d' fetched fetched').mp (by decide +kernel)
  exact ⟨fetched, fetched', same, projects.2 (.whole 5) (.whole 5) r r' d d' _ _ _ fetched
    fetched' carries carries' variants none false [] []⟩

end Session

end InstanceIdentity
