import InstanceIdentity.Client
import InstanceIdentity.Proofs.Outcome
import InstanceIdentity.Proofs.Traffic
import Mathlib.Data.List.Forall2

/-!
# Other responses in the same place

An exchange looks at a response for where it leads, and if it leads nowhere, for the ending
it makes. So one script can take the place of another where both have responses that lead to the
same places: the exchange visits the same legs, and comes to an ending that is alike. This carries
a relation of final responses over to exchanges along any redirects, and to fetches.

## Main definitions

* `Exchange.Ending.Alike` — endings that are the same, or related responses
* `Reply.Alike` — replies that lead to the same place, or to alike endings
* `Exchange.ScriptsAlike` — scripts whose answers are alike one by one

## Main results

* `Exchange.Ends.of_alike`, `Exchange.Sends.of_alike` — exchanges with scripts that are alike
* `Exchange.scriptsAlike_replace` — one reply in the place of another
* `Client.fst_fetch_of_alike`, `Client.snd_fetch_of_alike` — fetches with scripts that are alike
-/

namespace InstanceIdentity

open Exchange

variable {R : Response → Response → Prop}

/-! ## Endings and replies -/

/-- Two endings are alike under a relation of responses: they are the same, or related responses. -/
inductive Exchange.Ending.Alike (R : Response → Response → Prop) : Ending → Ending → Prop
  | same (e : Ending) : Alike R e e
  | response {f f' : Response} (related : R f f') : Alike R (.response f) (.response f')

/-- Two replies are alike under a relation of responses: they are the same, or responses that lead
to the same place. Their bodies are read with the same success if they redirect, and they lead to
endings that are alike if they are final. -/
inductive Reply.Alike (R : Response → Response → Prop) : Reply → Reply → Prop
  | same (reply : Reply) : Alike R reply reply
  | response {r r' : Response} (located : locationOf r' = locationOf r)
      (redirects : ∀ location, locationOf r = .ok (some location) →
        r'.release = r.release ∧ r'.reread = r.reread)
      (final : locationOf r = .ok none → Ending.Alike R (.ofFinal r) (.ofFinal r')) :
      Alike R (.response r) (.response r')

theorem Exchange.Ending.Alike.after {e e' : Ending} (h : Ending.Alike R e e') (passed : List Leg) :
    Ending.Alike R (e.after passed) (e'.after passed) := by
  cases h with
  | same e => exact .same _
  | response related =>
    -- A response is the same behind a redirect.
    cases passed with
    | nil => exact .response related
    | cons leg passed => exact .response related

namespace Exchange

/-- Two scripts are alike under a relation of responses: the answers to each request are. -/
def ScriptsAlike (R : Response → Response → Prop) (replies replies' : List Reply) : Prop :=
  ∀ n, Reply.Alike R (World.replyAt replies n) (World.replyAt replies' n)

variable {replies replies' : List Reply} {n : Nat} {start leg next : Leg} {e : Ending}
  {passed legs : List Leg} {r : Response} {address : String}

/-! ## Exchanges -/

theorem Answered.of_alike (h : Answered replies n leg r) (alike : ScriptsAlike R replies replies') :
    ∃ r', Answered replies' n leg r' ∧ locationOf r' = locationOf r ∧
      (∀ isLater location, locationOf r = .ok (some location) →
        leg.onward isLater r' location = leg.onward isLater r location) ∧
      (locationOf r = .ok none → Ending.Alike R (.ofFinal r) (.ofFinal r')) := by
  obtain ⟨sendable, reply⟩ := h
  have other := alike n
  rw [reply] at other
  generalize reply' : World.replyAt replies' n = other' at other
  cases other with
  | same => exact ⟨r, ⟨sendable, reply'⟩, rfl, fun _ _ _ => rfl, fun _ => .same _⟩
  | response located redirects final =>
    refine ⟨_, ⟨sendable, reply'⟩, located, fun isLater location redirected => ?_, final⟩
    obtain ⟨release, reread⟩ := redirects location redirected
    rw [Leg.onward, Leg.onward, release, reread]

theorem Redirects.of_alike (h : Redirects replies n leg next)
    (alike : ScriptsAlike R replies replies') : Redirects replies' n leg next := by
  obtain ⟨answered, located, leads⟩ := h
  obtain ⟨r', answered', same, onward, -⟩ := answered.of_alike alike
  exact ⟨answered', same.trans located, (onward _ _ located).trans leads⟩

theorem Stops.of_alike (h : Stops replies n leg e) (alike : ScriptsAlike R replies replies') :
    ∃ e', Stops replies' n leg e' ∧ Ending.Alike R e e' := by
  cases h with
  | unsendable refused => exact ⟨_, .unsendable refused, .same _⟩
  | @failed f sendable reply =>
    have other := alike n
    rw [reply] at other
    generalize reply' : World.replyAt replies' n = other' at other
    cases other with
    | same => exact ⟨_, .failed sendable reply', .same _⟩
  | conflict answered conflict =>
    obtain ⟨r', answered', same, -⟩ := answered.of_alike alike
    exact ⟨_, .conflict answered' (same.trans conflict), .same _⟩
  | final answered final =>
    obtain ⟨r', answered', same, -, endings⟩ := answered.of_alike alike
    exact ⟨_, .final answered' (same.trans final), endings final⟩
  | astray answered located leads =>
    obtain ⟨r', answered', same, onward, -⟩ := answered.of_alike alike
    exact ⟨_, .astray answered' (same.trans located) ((onward _ _ located).trans leads), .same _⟩
  | exhausted redirects spent => exact ⟨_, .exhausted (redirects.of_alike alike) spent, .same _⟩

theorem Route.of_alike (h : Route replies start passed leg)
    (alike : ScriptsAlike R replies replies') : Route replies' start passed leg := by
  induction h with
  | start => exact .start
  | step route redirects left ih => exact ih.step (redirects.of_alike alike) left

/-- With a script that is alike, an exchange comes to an ending that is alike. -/
theorem Ends.of_alike (h : Ends replies address e) (alike : ScriptsAlike R replies replies') :
    ∃ e', Ends replies' address e' ∧ Ending.Alike R e e' := by
  cases h with
  | refused refused => exact ⟨_, .refused refused, .same _⟩
  | stopped begins route stops =>
    obtain ⟨e', stops', same⟩ := stops.of_alike alike
    exact ⟨_, .stopped begins (route.of_alike alike) stops', same.after _⟩

theorem Visits.of_alike (h : Visits replies n leg legs) (alike : ScriptsAlike R replies replies') :
    Visits replies' n leg legs := by
  induction h with
  | unsendable refused => exact .unsendable refused
  | last sendable stops =>
    obtain ⟨e', stops', -⟩ := stops.of_alike alike
    exact .last sendable stops'
  | redirected redirects left onward ih =>
    exact .redirected (redirects.of_alike alike) left ih

/-- With a script that is alike, an exchange sends the same requests. -/
theorem Sends.of_alike (h : Sends replies address legs) (alike : ScriptsAlike R replies replies') :
    Sends replies' address legs := by
  cases h with
  | refused refused => exact .refused refused
  | begun begins visits => exact .begun begins (visits.of_alike alike)

/-! ## One reply for another -/

/-- Scripts are alike if their replies are, one by one. -/
theorem scriptsAlike_of_forall₂ (h : List.Forall₂ (Reply.Alike R) replies replies') :
    ScriptsAlike R replies replies' := by
  induction h with
  | nil => exact fun n => .same _
  | @cons reply reply' rest rest' first others ih =>
    intro n
    cases n with
    | zero => exact first
    | succ n =>
      -- Behind the last reply, it is given again.
      cases others with
      | nil => exact first
      | cons second others =>
        rw [← World.replyAt_laterReplies, ← World.replyAt_laterReplies]
        exact ih n

/-- A reply may take the place of another one that is alike. -/
theorem scriptsAlike_replace {reply reply' : Reply} (h : Reply.Alike R reply reply')
    (earlier later : List Reply) :
    ScriptsAlike R (earlier ++ reply :: later) (earlier ++ reply' :: later) := by
  have same (replies : List Reply) : List.Forall₂ (Reply.Alike R) replies replies :=
    List.forall₂_same.mpr fun reply _ => .same reply
  exact scriptsAlike_of_forall₂ (List.rel_append (same earlier) (.cons h (same later)))

end Exchange

/-! ## Fetches -/

namespace Client

variable {c : Client} {timeout : Seconds} {w w' : World}

/-- What is seen of an outcome is the same with a script that is alike, if related responses are
seen to be judged alike. -/
theorem fst_fetch_of_alike {α : Type} (seen : Outcome → α)
    (alike : ScriptsAlike R w.replies w'.replies) (room : w'.room = w.room)
    (judged : ∀ f f', R f f' → seen (c.judge w.room f) = seen (c.judge w.room f')) :
    seen (c.fetch timeout w).1 = seen (c.fetch timeout w').1 := by
  cases pending : timeout.elapsed with
  | true => rw [fetch, if_pos pending, fetch, if_pos pending]
  | false =>
    obtain ⟨ending, ends⟩ := exists_ends w.replies c.documentUrl
    obtain ⟨ending', ends', same⟩ := ends.of_alike alike
    rw [fst_fetch pending ends, fst_fetch pending ends', room]
    cases same with
    | same => rfl
    | response related => exact judged _ _ related

/-- A fetch logs, sends and asks the same with a script that is alike. -/
theorem snd_fetch_of_alike {replies replies' : List Reply} {spare : Nat}
    (alike : ScriptsAlike R replies replies') :
    let after := (c.fetch timeout (.begun replies spare)).2
    let after' := (c.fetch timeout (.begun replies' spare)).2
    after.records = after'.records ∧ after.requests = after'.requests ∧
      after.asked = after'.asked := by
  cases pending : timeout.elapsed with
  | true =>
    rw [snd_fetch_of_elapsed pending, snd_fetch_of_elapsed pending]
    exact ⟨rfl, rfl, rfl⟩
  | false =>
    obtain ⟨legs, sends⟩ := exists_sends replies c.documentUrl
    rw [snd_fetch pending (w := .begun replies spare) sends,
      snd_fetch pending (w := .begun replies' spare) (sends.of_alike alike), World.sent_eq,
      World.sent_eq]
    exact ⟨rfl, rfl, rfl⟩

end Client

end InstanceIdentity
