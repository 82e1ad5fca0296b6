import InstanceIdentity.Client
import InstanceIdentity.Proofs.Route
import Mathlib.Logic.Function.Iterate

/-!
# What an exchange sends

`Exchange.run` leaves a world behind. This file says which. The requests of an exchange go
to the legs that it visits, one to each, in order: the first leg is that of the address,
and each further one is where the answer before has redirected to. Requests are all that an
exchange leaves, apart from the place it has come to in the script. A fetch leaves the
requests of its exchange and one record.

## Main definitions

* `Exchange.Leg.request` — the request that is sent from a leg
* `World.sent` — a world after requests from legs
* `Exchange.Visits` — the legs from which requests are sent, from one leg on
* `Exchange.Sends` — the legs from which requests are sent for an address

## Main results

* `World.sent_requests` — requests from legs are the requests of the legs
* `Exchange.Sends.snd_run` — the world behind an exchange is the one after these requests
* `Exchange.Sends.length_le` — there are thirty-one of them at most
* `Client.snd_fetch` — the world behind a fetch
-/

namespace InstanceIdentity

open Exchange

/-- The request that is sent from a leg within a time limit. -/
def Exchange.Leg.request (suppressed : Bool) (timeout : Seconds) (leg : Leg) : Request :=
  ⟨"GET", String.ofList leg.url, timeout, suppressed⟩

/-! ## Worlds after requests -/

namespace World

/-- A world after requests from legs, one after another. -/
def sent (w : World) (timeout : Seconds) : List Leg → World
  | [] => w
  | leg :: legs => ((w.transmit (String.ofList leg.url) timeout).2).sent timeout legs

variable {w : World} {timeout : Seconds} {legs : List Leg}

@[simp] theorem sent_nil (w : World) (timeout : Seconds) : w.sent timeout [] = w := rfl

@[simp] theorem sent_cons (w : World) (timeout : Seconds) (leg : Leg) (legs : List Leg) :
    w.sent timeout (leg :: legs) =
      ((w.transmit (String.ofList leg.url) timeout).2).sent timeout legs := rfl

/-- Requests take their answers off the script and are noted, the latest first. Nothing else
changes. -/
theorem sent_eq (w : World) (timeout : Seconds) (legs : List Leg) :
    w.sent timeout legs =
      { w with
        replies := laterReplies^[legs.length] w.replies
        requests := (legs.map (Leg.request w.suppressed timeout)).reverse ++ w.requests } := by
  induction legs generalizing w with
  | nil => rfl
  | cons leg legs ih =>
    rw [sent_cons, ih]
    simp [transmit, Leg.request]

@[simp] theorem sent_records : (w.sent timeout legs).records = w.records := by
  rw [sent_eq]

/-- A single object has room in any case. -/
theorem room_pos (w : World) : 0 < w.room := Nat.succ_pos _

@[simp] theorem sent_room : (w.sent timeout legs).room = w.room := by
  rw [sent_eq, room, room]

@[simp] theorem sent_requests : (w.sent timeout legs).requests =
    (legs.map (Leg.request w.suppressed timeout)).reverse ++ w.requests := by
  rw [sent_eq]

end World

namespace Exchange

variable {replies : List Reply} {n left : Nat} {start leg next : Leg} {legs : List Leg}
  {e : Ending} {w : World} {timeout : Seconds} {address : String}

/-! ## One leg -/

theorem Redirects.isSendable (h : Redirects replies n leg next) :
    Url.isSendable leg.url = true := by
  obtain ⟨answered, -, -⟩ := h
  exact answered.sendable

/-- A request has one response only. -/
theorem Answered.unique {r r' : Response} (h : Answered replies n leg r)
    (h' : Answered replies n leg r') : r = r' :=
  Reply.response.inj (h.reply.symm.trans h'.reply)

/-- A response that redirects gives a location that leads to the next leg. -/
theorem Redirects.exists_location {r : Response} (h : Redirects replies n leg next)
    (answered : Answered replies n leg r) :
    ∃ location, locationOf r = .ok (some location) ∧
      leg.onward (0 < n) r location = .ok next := by
  obtain ⟨answered', located, leads⟩ := h
  obtain rfl := answered.unique answered'
  exact ⟨_, located, leads⟩

/-- A request is redirected to one leg only. -/
theorem Redirects.unique {next' : Leg} (h : Redirects replies n leg next)
    (h' : Redirects replies n leg next') : next = next' := by
  obtain ⟨answered, located, leads⟩ := h
  obtain ⟨location', located', leads'⟩ := h'.exists_location answered
  obtain rfl := Option.some.inj (Except.ok.inj (located.symm.trans located'))
  exact Except.ok.inj (leads.symm.trans leads')

/-- Where the answer is a redirect that is followed, the exchange does not stop. -/
theorem Redirects.not_stops (h : Redirects replies n leg next) (left : n < greatestRedirects) :
    ¬ Stops replies n leg e := by
  intro stops
  -- A leg that stops has another address, reply or location, or is at the last redirect.
  cases stops with
  | unsendable refused => exact absurd h.isSendable (by simp [refused])
  | failed sendable failure =>
    obtain ⟨answered, -, -⟩ := h
    cases answered.reply.symm.trans failure
  | conflict answered conflict =>
    obtain ⟨location, located, -⟩ := h.exists_location answered
    cases located.symm.trans conflict
  | final answered final =>
    obtain ⟨location, located, -⟩ := h.exists_location answered
    cases located.symm.trans final
  | astray answered located' astray =>
    obtain ⟨location, located, leads⟩ := h.exists_location answered
    obtain rfl := Option.some.inj (Except.ok.inj (located.symm.trans located'))
    cases leads.symm.trans astray
  | exhausted redirects spent => exact absurd left (Nat.not_lt.mpr spent)

/-! ## Visits -/

/-- From a leg on, where the request has a number, requests are sent from legs, in order. From a leg
that cannot be sent to there are none. Otherwise there is one from the leg itself, and if it is
redirected, those from the next leg on come after it. -/
inductive Visits (replies : List Reply) : Nat → Leg → List Leg → Prop
  | unsendable {n : Nat} {leg : Leg} (refused : Url.isSendable leg.url = false) :
      Visits replies n leg []
  | last {n : Nat} {leg : Leg} {e : Ending} (sendable : Url.isSendable leg.url = true)
      (stops : Stops replies n leg e) : Visits replies n leg [leg]
  | redirected {n : Nat} {leg next : Leg} {legs : List Leg}
      (redirects : Redirects replies n leg next) (left : n < greatestRedirects)
      (onward : Visits replies (n + 1) next legs) : Visits replies n leg (leg :: legs)

theorem exists_visits (replies : List Reply) (n : Nat) (leg : Leg) :
    ∃ legs, Visits replies n leg legs := by
  cases sendable : Url.isSendable leg.url with
  | false => exact ⟨_, .unsendable sendable⟩
  | true =>
    rcases stops_or_redirects replies n leg with ⟨e, stops⟩ | ⟨left, next, redirects⟩
    · exact ⟨_, .last sendable stops⟩
    · -- The redirect takes one of those that are left.
      obtain ⟨legs, onward⟩ := exists_visits replies (n + 1) next
      exact ⟨_, .redirected redirects left onward⟩
termination_by greatestRedirects - n

/-- One request more is sent than redirects are followed, so there are thirty-one at most. -/
theorem Visits.length_le (h : Visits replies n leg legs) (reached : n ≤ greatestRedirects) :
    n + legs.length ≤ greatestRedirects + 1 := by
  induction h with
  | unsendable refused => exact Nat.le_succ_of_le reached
  | last sendable stops => exact Nat.succ_le_succ reached
  | redirected redirects left onward ih =>
    have := ih left
    rw [List.length_cons]
    omega

/-- Only a leg that can be sent to is visited, and then it is the first. -/
theorem Visits.eq_cons (h : Visits replies n leg legs) (sendable : Url.isSendable leg.url = true) :
    ∃ rest, legs = leg :: rest := by
  cases h with
  | unsendable refused =>
    rw [refused] at sendable
    cases sendable
  | last sendable stops => exact ⟨_, rfl⟩
  | redirected redirects left onward => exact ⟨_, rfl⟩

/-- The legs that are visited from a leg on are settled. -/
theorem Visits.unique {legs' : List Leg} (h : Visits replies n leg legs)
    (h' : Visits replies n leg legs') : legs = legs' := by
  -- Each way of going on from a leg rules out the other two.
  induction h generalizing legs' with
  | unsendable refused =>
    cases h' with
    | unsendable => rfl
    | last sendable => exact absurd sendable (by simp [refused])
    | redirected redirects => exact absurd redirects.isSendable (by simp [refused])
  | last sendable stops =>
    cases h' with
    | unsendable refused => exact absurd sendable (by simp [refused])
    | last => rfl
    | redirected redirects left => exact absurd stops (redirects.not_stops left)
  | redirected redirects left onward ih =>
    cases h' with
    | unsendable refused => exact absurd redirects.isSendable (by simp [refused])
    | last sendable stops => exact absurd stops (redirects.not_stops left)
    | redirected redirects' left' onward' =>
      obtain rfl := redirects.unique redirects'
      rw [ih onward']

/-- Following leaves the world after the requests from the legs it visits. -/
theorem Visits.snd_follow (h : Visits replies n leg legs) (plays : w.Plays replies n)
    (count : n + left = greatestRedirects) :
    (follow timeout left leg w).2 = w.sent timeout legs := by
  induction h generalizing w left with
  | @unsendable n leg refused =>
    have stops : Stops replies n leg _ := .unsendable refused
    rw [stops.follow_eq plays count, if_neg (by simp [refused])]
    rfl
  | last sendable stops =>
    rw [stops.follow_eq plays count, if_pos sendable]
    rfl
  | redirected redirects hlt onward ih =>
    -- One redirect less is left for the legs behind the first.
    obtain ⟨left, rfl⟩ : ∃ k, left = k + 1 := ⟨left - 1, by omega⟩
    rw [redirects.follow_eq plays count, World.sent_cons]
    exact ih (plays.transmit _ _) (by omega)

/-! ## Exchanges -/

/-- For an address, requests are sent from legs, in order: none if the address is refused, and
otherwise those from its leg on. -/
inductive Sends (replies : List Reply) (address : String) : List Leg → Prop
  | refused {f : Fault} (refused : Leg.ofAddress address = .error f) : Sends replies address []
  | begun {start : Leg} {legs : List Leg} (begins : Leg.ofAddress address = .ok start)
      (visits : Visits replies 0 start legs) : Sends replies address legs

theorem exists_sends (replies : List Reply) (address : String) :
    ∃ legs, Sends replies address legs := by
  cases begins : Leg.ofAddress address with
  | error f => exact ⟨_, .refused begins⟩
  | ok start =>
    obtain ⟨legs, visits⟩ := exists_visits replies 0 start
    exact ⟨_, .begun begins visits⟩

theorem Sends.unique {legs' : List Leg} (h : Sends replies address legs)
    (h' : Sends replies address legs') : legs = legs' := by
  cases h with
  | refused refused =>
    cases h' with
    | refused => rfl
    | begun begins => cases refused.symm.trans begins
  | begun begins visits =>
    cases h' with
    | refused refused => cases refused.symm.trans begins
    | begun begins' visits' =>
      obtain rfl := Except.ok.inj (begins.symm.trans begins')
      exact visits.unique visits'

/-- No exchange sends more than thirty-one requests. -/
theorem Sends.length_le (h : Sends replies address legs) :
    legs.length ≤ greatestRedirects + 1 := by
  cases h with
  | refused refused => exact Nat.zero_le _
  | begun begins visits =>
    have := visits.length_le (Nat.zero_le _)
    omega

/-- An exchange leaves the world after its requests. -/
theorem Sends.snd_run (h : Sends w.replies address legs) (timeout : Seconds) :
    (run address timeout w).2 = w.sent timeout legs := by
  cases h with
  | refused refused =>
    rw [run, refused]
    rfl
  | begun begins visits =>
    rw [run, begins]
    exact visits.snd_follow w.plays_self (Nat.zero_add _)

end Exchange

/-! ## Fetches -/

namespace Client

variable {c : Client} {timeout : Seconds} {w : World} {legs : List Leg}

/-- A fetch whose time has elapsed already does nothing. -/
theorem snd_fetch_of_elapsed (elapsed : timeout.elapsed = true) : (c.fetch timeout w).2 = w := by
  rw [fetch, if_pos elapsed]

/-- A fetch that is begun leaves its announcement and the requests of its exchange, which are sent
with tracing suppressed. The suppression ends with the fetch. -/
theorem snd_fetch (pending : timeout.elapsed = false)
    (sends : Sends w.replies c.documentUrl legs) :
    (c.fetch timeout w).2 =
      { World.sent { w.log c.announcement with suppressed := true } timeout legs with
        suppressed := w.suppressed } := by
  -- Neither the announcement nor the suppression changes the script.
  have sends' : Sends ({ w.log c.announcement with suppressed := true } : World).replies
      c.documentUrl legs := sends
  rw [fetch, if_neg (by simp [pending]), ← sends'.snd_run timeout]
  rfl

end Client

end InstanceIdentity
