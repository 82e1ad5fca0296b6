import InstanceIdentity.Proofs.Encoding
import InstanceIdentity.Proofs.Status
import Mathlib.Data.Bool.AllAny

/-!
# How a body arrives

Between a body and the document in it stand the codings and the length that the headers speak
of, a status that may say that there is no body, and the charset. This file says when none of
them is in the way. A body comes whole if no coding is named and no length but its own is
declared. It presents a text if the text is read from it: one of UTF-8, UTF-16 and UTF-32 where
nothing names the charset, and UTF-8 where it is declared as JSON.

An exchange with a single response has the response's own ending, and a fetch that brings a
document from it tells that the address could be sent to, that there was time, and that the
response was final.

## Main definitions

* `Response.headerLength` — what the headers say about the length of the body
* `Response.ComesWhole` — responses whose headers are not in the way
* `Presents` — a text in a body under a content type
* `Exchange.CanSend` — addresses that can be sent to
* `Response.Accepted` — responses whose documents are used

## Main results

* `Exchange.Ending.ofFinal_of_uncoded` — a body that arrives
* `Presents.bodyText_eq` — the text that is read
* `Client.fetch_single_eq_document_iff` — when a fetch with a single response brings a document
-/

namespace InstanceIdentity

open Exchange

variable {room : Nat} {r f : Response} {t : List Char} {d : Document}

namespace Response

/-! ## Headers about the body -/

theorem header?_of_plain (plain : r.headers = []) (name : String) : r.header? name = none := by
  rw [header?, plain]
  rfl

/-- The length of the body in the headers. It does not count where the body comes in chunks. -/
def headerLength (r : Response) : Except LengthConflict (Option Nat) :=
  match r.header? "content-length" with
  | none => .ok none
  | some header => if r.isChunked then .ok none else lengthIn header

/-- A body that comes as it was sent: no coding is named, and no length but that of the body. -/
structure ComesWhole (r : Response) : Prop where
  uncoded : r.codings = []
  length : r.headerLength = .ok none ∨ r.headerLength = .ok (some r.body.length)

/-- A status that says that there is no body counts for more than a length in the headers. -/
theorem declaredLength_eq (r : Response) :
    r.declaredLength = r.headerLength.map fun length =>
      if r.isBodiless then some 0 else length := by
  rw [declaredLength, headerLength]
  cases r.header? "content-length" with
  | none => rfl
  | some header =>
    dsimp only
    cases r.isChunked with
    | true => rfl
    | false => cases lengthIn header <;> rfl

theorem declaredLength_of_bodied (bodied : r.isBodiless = false) :
    r.declaredLength = r.headerLength := by
  rw [declaredLength_eq, bodied]
  cases r.headerLength <;> rfl

theorem reading_of_exact (bodied : r.isBodiless = false)
    (exact : ∀ n, r.headerLength = .ok (some n) → n = r.body.length) : r.reading = none := by
  rw [reading, declaredLength_of_bodied bodied]
  cases length : r.headerLength with
  | error e => rfl
  | ok length? =>
    cases length? with
    | none => rfl
    | some n => exact if_pos (.inr (exact n length))

theorem ComesWhole.exact (h : r.ComesWhole) {n : Nat} (length : r.headerLength = .ok (some n)) :
    n = r.body.length := by
  rcases h.length with none | some
  · rw [none] at length
    cases length
  · rw [some] at length
    exact (Option.some.inj (Except.ok.inj length)).symm

theorem ComesWhole.reading_eq (h : r.ComesWhole) (bodied : r.isBodiless = false) :
    r.reading = none :=
  reading_of_exact bodied fun _ length => h.exact length

theorem ComesWhole.exists_declaredLength (h : r.ComesWhole) :
    ∃ length, r.declaredLength = .ok length := by
  rw [declaredLength_eq]
  rcases h.length with none | some
  · exact ⟨_, by rw [none]; rfl⟩
  · exact ⟨_, by rw [some]; rfl⟩

end Response

/-! ## A named coding -/

namespace Unicode

/-- No row of capital letters has a small letter of ASCII. -/
theorem lowerRows_skip : lowerRows.all (fun row => match row with
    | [first, last, _, _] => last < 0x61 || 0x7A < first
    | _ => true) = true := by
  simp only [lowerRows, rows, List.flatMap_cons, List.flatMap_nil]
  repeat rw [String.toList_ofList]
  decide +kernel

theorem lowerChar_of_small {c : Char} (small : 0x61 ≤ c.toNat ∧ c.toNat ≤ 0x7A) :
    lowerChar c = c := by
  have nowhere : lowerRows.findSome? (lowerIn? c.toNat) = none := by
    rw [List.findSome?_eq_none_iff]
    intro row member
    have skips := List.all_eq_true.mp lowerRows_skip row member
    unfold lowerIn?
    split
    · rw [Bool.or_eq_true, decide_eq_true_iff, decide_eq_true_iff] at skips
      exact if_neg (by omega)
    · rfl
  rw [lowerChar, nowhere]

/-- Small letters of ASCII are their own lower case. -/
theorem lower_of_small {s : List Char} (small : ∀ c ∈ s, 0x61 ≤ c.toNat ∧ c.toNat ≤ 0x7A) :
    lower s = s := by
  -- What stands before a character counts for a sigma only.
  suffices after : ∀ before, lowerAfter before s = s from after []
  induction s with
  | nil => exact fun _ => rfl
  | cons c rest ih =>
    rw [List.forall_mem_cons] at small
    have sigma : c ≠ 'Σ' := by
      rintro rfl
      exact absurd small.1 (by decide)
    have dotted : c ≠ 'İ' := by
      rintro rfl
      exact absurd small.1 (by decide)
    intro before
    rw [lowerAfter, if_neg sigma, if_neg dotted, lowerChar_of_small small.1, ih small.2]
    rfl

end Unicode

theorem Response.codings_deflate (named : r.header? "content-encoding" = some "deflate") :
    r.codings = [.deflate] := by
  have small : Unicode.lower "deflate".toList = "deflate".toList :=
    Unicode.lower_of_small (List.all_iff_forall_prop.mp (by decide))
  rw [codings, codingHeader, named, Option.getD_some, small]
  decide +kernel

/-- How far the codings that are named can be undone. -/
theorem Response.intake_of_codings {codings : List ContentCoding} (named : r.codings = codings) :
    r.intake = Intake.read ⟨[], [], false, none⟩ (codings.map Unpacker.start) (pieces r.body) := by
  rw [intake, named]

namespace Exchange

/-- A body arrives as it is if no coding is named and it is as long as declared. -/
theorem Ending.ofFinal_of_uncoded (uncoded : r.codings = []) (read : r.reading = none) :
    ofFinal r = .response r :=
  ofFinal_eq_response_iff.mpr ⟨r.body, Response.decoded_of_uncoded uncoded, read, rfl⟩

/-- Of a body that can be unpacked, what was packed arrives. -/
theorem Ending.ofFinal_of_unpacked (counts : r.status ≠ 0) (unpacked : r.intake.flaw = none)
    (read : r.reading = none) :
    ofFinal r = .response ⟨r.status, r.reason, r.headers, r.intake.output⟩ := by
  have decoded : r.decoded = .ok r.intake.output := by
    rw [Response.decoded, if_neg counts, unpacked]
  exact ofFinal_eq_response_iff.mpr ⟨_, decoded, read, rfl⟩

/-- A body that cannot be unpacked is a fault. -/
theorem Ending.ofFinal_of_broken {flaw : Deflate.Flaw} (counts : r.status ≠ 0)
    (broken : r.intake.flaw = some flaw) :
    ofFinal r = .fault (Response.codingFault r.codingHeader flaw) := by
  have decoded : r.decoded = .error (Response.codingFault r.codingHeader flaw) := by
    rw [Response.decoded, if_neg counts, broken]
  rw [ofFinal, decoded]

/-- A response without a location that comes whole is final. -/
theorem locationOf_of_comesWhole (whole : r.ComesWhole) (nowhere : r.location? = none) :
    locationOf r = .ok none := by
  obtain ⟨length, declared⟩ := whole.exists_declaredLength
  rw [locationOf, declared]
  dsimp only
  rw [nowhere]

/-- What arrives of a final response has its status, reason and headers. -/
theorem Ending.eq_of_ofFinal (h : ofFinal r = .response f) :
    f.status = r.status ∧ f.reason = r.reason ∧ f.headers = r.headers := by
  obtain ⟨body, -, -, rfl⟩ := ofFinal_eq_response_iff.mp h
  exact ⟨rfl, rfl, rfl⟩

/-- Of a response that names no coding, the body itself arrives. -/
theorem Ending.eq_of_ofFinal_of_uncoded (uncoded : r.codings = []) (h : ofFinal r = .response f) :
    f = r := by
  obtain ⟨body, decoded, -, rfl⟩ := ofFinal_eq_response_iff.mp h
  rw [Response.decoded_of_uncoded uncoded] at decoded
  obtain rfl := Except.ok.inj decoded
  rfl

end Exchange

/-! ## Texts -/

/-- A body presents a text under a content type or without one: in any encoding where nothing names
the charset, and in UTF-8 without a mark where it is declared as JSON. -/
inductive Presents (t : List Char) : Option String → List UInt8 → Prop
  | shown (e : Encoding) (marked : Bool) : Presents t none (e.write marked t)
  | declared : Presents t (some "application/json") (Utf8.encode t)

/-- A body that is declared as JSON is read as UTF-8. -/
theorem Response.charset?_of_json (json : r.header? "content-type" = some "application/json") :
    r.charset? = some "utf-8" := by
  have implied : (MediaType.parse "application/json".toList).charset? = some "utf-8" := by
    decide +kernel
  rw [charset?, json]
  exact implied

/-- A recognizable text is read from a body that presents it, if any byte counts. -/
theorem Presents.bodyText_eq (h : Presents t (r.header? "content-type") r.body)
    (recognizable : IsRecognizable t) :
    bodyText r.charset? r.content = .ok (if r.status = 0 then [] else Text.ofChars t) := by
  rw [Response.content]
  split
  · exact bodyText_nil _
  generalize type : r.header? "content-type" = type? at h
  generalize r.body = body at h
  cases h with
  | shown e marked =>
    have unnamed : r.charset? = none := by rw [Response.charset?, type]
    rw [unnamed, bodyText, textDetected_write recognizable]
  | declared =>
    rw [Response.charset?_of_json type, bodyText_utf8]
    exact congrArg Except.ok (Encoding.decodeReplacing_encode t)

/-! ## Single responses -/

/-- An address that requests can be sent to. -/
def Exchange.CanSend (address : String) : Prop :=
  ∃ leg, Leg.ofAddress address = .ok leg ∧ Url.isSendable leg.url = true

/-- A response is final, and what arrives of it gives a document with a status that is not one of an
error. -/
structure Response.Accepted (room : Nat) (r : Response) (d : Document) : Prop where
  final : locationOf r = .ok none
  arrives : ∃ f, Ending.ofFinal r = .response f ∧ f.Gives room d
  status : ¬ (400 ≤ r.status ∧ r.status ≤ 599)

/-- A successful response whose body comes whole is final, and arrives as it is. -/
theorem Response.final_of_comesWhole (whole : r.ComesWhole) (status : r.status = 200) :
    locationOf r = .ok none ∧ Ending.ofFinal r = .response r := by
  have nowhere : r.location? = none := by
    rw [location?, status]
    rfl
  have bodied : r.isBodiless = false := by
    rw [isBodiless, status]
    rfl
  exact ⟨locationOf_of_comesWhole whole nowhere,
    Ending.ofFinal_of_uncoded whole.uncoded (whole.reading_eq bodied)⟩

/-- A document that is given by such a response is accepted. -/
theorem Response.accepted_of_gives (whole : r.ComesWhole) (status : r.status = 200)
    (gives : r.Gives room d) : r.Accepted room d := by
  obtain ⟨final, arrives⟩ := final_of_comesWhole whole status
  exact {
    final := final
    arrives := ⟨r, arrives, gives⟩
    status := by rw [status]; decide }

theorem World.replyAt_singleton (reply : Reply) (n : Nat) : replyAt [reply] n = reply := by
  cases n <;> rfl

namespace Client

variable {c : Client} {timeout : Seconds} {w : World}

/-- A fetch with a single final response concludes from its ending. -/
theorem fst_fetch_single (reaches : CanSend c.documentUrl) (pending : timeout.elapsed = false)
    (replies : w.replies = [.response r]) (final : locationOf r = .ok none) :
    (c.fetch timeout w).1 = c.conclude w.room (.ofFinal r) := by
  obtain ⟨leg, begins, sendable⟩ := reaches
  have answered : Answered w.replies 0 leg r := ⟨sendable, by rw [replies]; rfl⟩
  exact fst_fetch pending (.stopped begins .start (.final answered final))

/-- A fetch with a single final response fails for what the response withholds a document for. -/
theorem fetch_of_withholds {reason : String} (reaches : CanSend c.documentUrl)
    (pending : timeout.elapsed = false) (replies : w.replies = [.response r])
    (final : locationOf r = .ok none) (arrives : Ending.ofFinal r = .response f)
    (withholds : f.Withholds w.room reason) :
    (c.fetch timeout w).1 = .failure ⟨.decode, Text.ofString
      ("failed to decode identity document (HTTP " ++ toString f.status ++ "): " ++ reason)⟩ := by
  rw [fst_fetch_single reaches pending replies final, arrives,
    (Settles.noDocument withholds).conclude_eq]

theorem conclude_of_accepted (h : r.Accepted room d) :
    c.conclude room (.ofFinal r) = .document d := by
  obtain ⟨f, arrives, gives⟩ := h.arrives
  have status := h.status
  rw [← (Ending.eq_of_ofFinal arrives).1] at status
  rw [arrives, (Settles.accepted gives status).conclude_eq]

/-- A fetch brings a document only if it was begun. -/
theorem elapsed_of_fetch (h : (c.fetch timeout w).1 = .document d) : timeout.elapsed = false := by
  cases pending : timeout.elapsed with
  | false => rfl
  | true =>
    rw [fetch, if_pos pending] at h
    dsimp only at h
    rw [refuse] at h
    split at h
    · cases h
    · cases h

/-- Only a response is concluded to be a document. -/
theorem exists_response_of_conclude {ending : Ending} (h : c.conclude room ending = .document d) :
    ∃ f, ending = .response f ∧ f.Gives room d ∧ ¬ (400 ≤ f.status ∧ f.status ≤ 599) := by
  obtain ⟨ground, o, settles⟩ := c.exists_settles room ending
  obtain rfl : o = .document d := settles.conclude_eq.symm.trans h
  cases settles with
  | accepted gives status => exact ⟨_, rfl, gives, status⟩

/-- A fetch with a single response brings a document exactly if the address can be sent to, there is
time, and the response is accepted. -/
theorem fetch_single_eq_document_iff (replies : w.replies = [.response r]) :
    (c.fetch timeout w).1 = .document d ↔
      CanSend c.documentUrl ∧ timeout.elapsed = false ∧ r.Accepted w.room d := by
  constructor
  · intro fetched
    have pending := elapsed_of_fetch fetched
    obtain ⟨ending, ends⟩ := exists_ends w.replies c.documentUrl
    rw [fst_fetch pending ends] at fetched
    obtain ⟨f, response, gives, status⟩ := exists_response_of_conclude fetched
    cases ends with
    | refused => cases response
    | stopped begins route stops =>
      obtain ⟨r', answered, final, arrives⟩ :=
        stops.exists_final (Ending.after_eq_response_iff.mp response)
      obtain rfl : r = r' := by
        have reply := answered.reply
        rw [replies, World.replyAt_singleton] at reply
        exact Reply.response.inj reply
      rw [(Ending.eq_of_ofFinal arrives).1] at status
      -- A redirect would have come from the same response, which is final.
      cases route with
      | start => exact ⟨⟨_, begins, answered.sendable⟩, pending, final, ⟨f, arrives, gives⟩, status⟩
      | step route redirects left =>
        obtain ⟨redirected, located, -⟩ := redirects
        have reply := redirected.reply
        rw [replies, World.replyAt_singleton] at reply
        obtain rfl := Reply.response.inj reply
        cases final.symm.trans located
  · rintro ⟨reaches, pending, accepted⟩
    rw [fst_fetch_single reaches pending replies accepted.final, conclude_of_accepted accepted]

/-- A body that cannot be unpacked is a failure of transport. -/
theorem exists_conclude_of_broken {flaw : Deflate.Flaw} (c : Client) (room : Nat)
    (counts : r.status ≠ 0) (broken : r.intake.flaw = some flaw) :
    ∃ m, c.conclude room (.ofFinal r) = .failure ⟨.transport, m⟩ := by
  rw [Ending.ofFinal_of_broken counts broken]
  exact ⟨_, (Settles.requestFault rfl).conclude_eq⟩

/-- A body without any bytes is a failure of decoding. -/
theorem exists_conclude_of_empty (c : Client) (room : Nat) (empty : f.content = []) :
    ∃ m, c.conclude room (.response f) = .failure ⟨.decode, m⟩ := by
  rcases f.gives_or_withholds room with ⟨d, gives⟩ | ⟨m, withholds⟩
  · exact absurd gives (Response.not_gives_of_content_eq_nil empty)
  · exact ⟨_, (Settles.noDocument withholds).conclude_eq⟩

theorem canSend_standard : CanSend standard.documentUrl :=
  ⟨⟨standard.documentUrl.toList, [], false⟩, by decide +kernel, by decide +kernel⟩

end Client

end InstanceIdentity
