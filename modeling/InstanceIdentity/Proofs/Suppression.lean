import InstanceIdentity.Proofs.Attempt
import InstanceIdentity.Proofs.Independence
import Mathlib.Data.List.Forall2

/-!
# Suppression of tracing

The requests of a client are none of the traces' business. So tracing is suppressed while
they are sent, each of them, wherever redirects lead, and only then: when a step is over,
tracing is suppressed if and only if it was before, whatever the step has come to.

## Main definitions

* `Step.IsDiscreet` — a step whose requests are sent with tracing suppressed, and that
  leaves the suppression as it was

## Main results

* `Step.isDiscreet_respond` — every step is discreet
* `Session.play_isDiscreet` — every step of a row is, and finds the suppression that
  the row began with
-/

namespace InstanceIdentity

variable {c : Client} {limit : Seconds} {step : Step} {requests : List Request}

/-- A step that begins with or without suppression is discreet in what it shows. Each of its
requests is a GET with the time limit of the fetch in the step, and is sent with tracing suppressed.
Afterwards the suppression is what it was before. -/
structure Step.IsDiscreet (limit : Seconds) (before : Bool) (step : Step) (shown : Answer) :
    Prop where
  method : ∀ r ∈ shown.requests, r.method = "GET"
  timeout : ∀ r ∈ shown.requests, step.action.timeLimit limit = some r.timeout
  suppressed : ∀ r ∈ shown.requests, r.suppressed = true
  restored : shown.suppressed = before

/-- Every request of a step is one from a leg, within the time limit of the fetch and with tracing
suppressed. -/
theorem Step.Sends.exists_request (h : step.Sends c limit requests) {r : Request}
    (member : r ∈ requests) : ∃ timeout leg, step.action.timeLimit limit = some timeout ∧
      r = Exchange.Leg.request true timeout leg := by
  cases h with
  | idle => cases member
  | elapsed => cases member
  | @exchange timeout legs fetches pending sends =>
    obtain ⟨leg, -, rfl⟩ := List.mem_map.mp member
    exact ⟨timeout, leg, fetches, rfl⟩

theorem Step.isDiscreet_respond (c : Client) (limit : Seconds) (before : Bool) (step : Step) :
    step.IsDiscreet limit before (Session.respond c limit before step) := by
  have sends := step.sends_respond c limit before
  refine ⟨?_, ?_, ?_, Session.respond_suppressed c limit before step⟩
  · intro r member
    obtain ⟨timeout, leg, -, rfl⟩ := sends.exists_request member
    rfl
  · intro r member
    obtain ⟨timeout, leg, fetches, rfl⟩ := sends.exists_request member
    exact fetches
  · intro r member
    obtain ⟨timeout, leg, -, rfl⟩ := sends.exists_request member
    rfl

/-- Every step of a row is discreet. None changes the suppression, so each of them begins with that
of the first. -/
theorem Session.play_isDiscreet (c : Client) (limit : Seconds) (before : Bool)
    (steps : List Step) :
    List.Forall₂ (Step.IsDiscreet limit before) steps
      (play (Session.respond c limit) before steps) := by
  induction steps with
  | nil => exact .nil
  | cons step rest ih =>
    have discreet := step.isDiscreet_respond c limit before
    rw [play]
    refine .cons discreet ?_
    rw [discreet.restored]
    exact ih

-- A fault in the middle of an exchange that leaves the detection takes no suppression with it.
example :
    let found : Reply := .response ⟨302, some "Found", [("Location", "/elsewhere")], []⟩
    let step : Step := {
      action := .detect none
      replies := [found, .fault (.general "KeyboardInterrupt" none)] }
    ((Session.run .standard (.whole 5) [step]).map fun shown =>
      (shown.result, shown.requests.map Request.suppressed, shown.suppressed)) =
      [(.detected (.raised (.general "KeyboardInterrupt" none)), [true, true], false)] := by
  decide +kernel

end InstanceIdentity
