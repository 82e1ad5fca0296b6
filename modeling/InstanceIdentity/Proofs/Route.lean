import InstanceIdentity.Exchange
import Mathlib.Logic.ExistsUnique

/-!
# The route of an exchange

`Exchange.run` counts the redirects that are left and threads the state of the network
through its requests. This file gives an account of exchanges that does neither. The
answers of the network are numbered, a request that is answered with a redirect leads
from one leg to the next, and the legs behind an exchange are its route. An exchange
ends at the first leg from which no redirect leads on, or where the thirty-first one
would.

## Main definitions

* `World.replyAt` — the answer of a script to the request with a number
* `Exchange.Redirects` — the request from a leg is redirected to another leg
* `Exchange.Stops` — the exchange ends at a leg, and how
* `Exchange.Route` — the legs that an exchange has left behind, and where it stands
* `Exchange.Ends` — how an exchange from an address ends

## Main results

* `Exchange.stops_or_redirects` — from every leg there is a way on
* `Exchange.Route.length_le` — no more than thirty legs are left behind
* `Exchange.Route.fst_follow` — an exchange goes on from every leg of its route as if it
  began there
* `Exchange.ends_iff` — `Exchange.run` computes `Exchange.Ends`
* `Exchange.existsUnique_ends` — every exchange ends, in exactly one way
-/

namespace InstanceIdentity

namespace World

/-! ## Scripts by number -/

/-- The answer of a script to the request with a number, counted from zero. The last answer is
given to all requests behind it. -/
def replyAt (replies : List Reply) (n : Nat) : Reply :=
  (replies[n]?.or replies.getLast?).getD noReply

theorem nextReply_eq_replyAt (replies : List Reply) : nextReply replies = replyAt replies 0 := by
  cases replies with
  | nil => rfl
  | cons reply rest => rfl

theorem replyAt_laterReplies (replies : List Reply) (n : Nat) :
    replyAt (laterReplies replies) n = replyAt replies (n + 1) := by
  match replies with
  | [] => rfl
  | [reply] => cases n <;> rfl
  | reply :: other :: rest => simp [replyAt, laterReplies]

/-- What a world will answer is what a script answers from a number on. -/
def Plays (w : World) (replies : List Reply) (n : Nat) : Prop :=
  ∀ k, replyAt w.replies k = replyAt replies (n + k)

/-- A world in which nothing has happened yet, with a script and calls to spare. -/
def begun (replies : List Reply) (spare : Nat) : World :=
  { suppressed := false, replies := replies, spare := spare }

/-- A world in which nothing has happened yet, where a program begins. -/
def fresh (replies : List Reply) : World := begun replies spareCalls

theorem plays_self (w : World) : w.Plays w.replies 0 := fun k => by rw [Nat.zero_add]

variable {w : World} {replies : List Reply} {n : Nat}

theorem Plays.fst_transmit (h : w.Plays replies n) (url : String) (timeout : Seconds) :
    (w.transmit url timeout).1 = replyAt replies n := by
  show nextReply w.replies = replyAt replies n
  rw [nextReply_eq_replyAt, h 0, Nat.add_zero]

theorem Plays.transmit (h : w.Plays replies n) (url : String) (timeout : Seconds) :
    (w.transmit url timeout).2.Plays replies (n + 1) := by
  intro k
  show replyAt (laterReplies w.replies) k = replyAt replies (n + 1 + k)
  rw [replyAt_laterReplies, h (k + 1), Nat.add_assoc, Nat.add_comm 1 k]

end World

namespace Exchange

open World

variable {replies : List Reply} {n left : Nat} {start leg next next' : Leg} {e e' : Ending}
  {passed : List Leg} {r : Response} {w : World} {timeout : Seconds} {address : String}

/-! ## One leg -/

/-- The request with a number can be sent from a leg, and a response comes back. -/
structure Answered (replies : List Reply) (n : Nat) (leg : Leg) (r : Response) : Prop where
  sendable : Url.isSendable leg.url = true
  reply : replyAt replies n = .response r

/-- The request with a number, sent from a leg, is redirected to another leg. -/
inductive Redirects (replies : List Reply) (n : Nat) (leg next : Leg) : Prop
  | intro {r : Response} {location : List Char} (answered : Answered replies n leg r)
      (located : locationOf r = .ok (some location))
      (leads : leg.onward (0 < n) r location = .ok next)

/-- The exchange ends at a leg, where the request has a number. No request can be sent from the
leg; or the request fails; or the response declares two lengths, is final, or has a location that
leads nowhere or a body that keeps the exchange from going on; or too many redirects have been
followed. -/
inductive Stops (replies : List Reply) (n : Nat) (leg : Leg) : Ending → Prop
  | unsendable (refused : Url.isSendable leg.url = false) :
      Stops replies n leg (.fault (Url.AddressError.unsupportedScheme leg.url).fault)
  | failed {f : Fault} (sendable : Url.isSendable leg.url = true)
      (reply : replyAt replies n = .fault f) : Stops replies n leg (.fault f)
  | conflict {r : Response} {f : Fault} (answered : Answered replies n leg r)
      (conflict : locationOf r = .error f) : Stops replies n leg (.fault f)
  | final {r : Response} (answered : Answered replies n leg r)
      (final : locationOf r = .ok none) : Stops replies n leg (.ofFinal r)
  | astray {r : Response} {location : List Char} {f : Fault} (answered : Answered replies n leg r)
      (located : locationOf r = .ok (some location))
      (leads : leg.onward (0 < n) r location = .error f) : Stops replies n leg (.fault f)
  | exhausted {next : Leg} (redirects : Redirects replies n leg next)
      (spent : greatestRedirects ≤ n) : Stops replies n leg (.fault tooManyRedirects)

/-- From every leg the exchange ends or is redirected. -/
theorem stops_or_redirects (replies : List Reply) (n : Nat) (leg : Leg) :
    (∃ e, Stops replies n leg e) ∨
      (n < greatestRedirects ∧ ∃ next, Redirects replies n leg next) := by
  -- The address is looked at first, then the reply, its location, and the redirects that are left.
  cases hsend : Url.isSendable leg.url with
  | false => exact .inl ⟨_, .unsendable hsend⟩
  | true =>
    cases hreply : replyAt replies n with
    | fault f => exact .inl ⟨_, .failed hsend hreply⟩
    | response r =>
      have answered : Answered replies n leg r := ⟨hsend, hreply⟩
      cases hloc : locationOf r with
      | error f => exact .inl ⟨_, .conflict answered hloc⟩
      | ok location? =>
        cases location? with
        | none => exact .inl ⟨_, .final answered hloc⟩
        | some location =>
          cases hnext : leg.onward (0 < n) r location with
          | error f => exact .inl ⟨_, .astray answered hloc hnext⟩
          | ok next =>
            have redirects : Redirects replies n leg next := ⟨answered, hloc, hnext⟩
            rcases Nat.lt_or_ge n greatestRedirects with hlt | hge
            · exact .inr ⟨hlt, next, redirects⟩
            · exact .inl ⟨_, .exhausted redirects hge⟩

/-! ## One leg of the function -/

theorem sendable_of_isSendable {url : List Char} (h : Url.isSendable url = true) :
    Url.sendable url = .ok url := by
  rw [Url.sendable, if_pos h]

/-- From a leg where a response comes back, following looks at the response alone. The first request
is the one that has all redirects left. -/
theorem Answered.follow_eq (h : Answered replies n leg r) (plays : w.Plays replies n) :
    n + left = greatestRedirects → follow timeout left leg w =
      match locationOf r, (w.transmit (String.ofList leg.url) timeout).2 with
      | .error f, w => (.fault f, w)
      | .ok none, w => (.ofFinal r, w)
      | .ok (some location), w =>
        match leg.onward (0 < n) r location, left with
        | .error f, _ => (.fault f, w)
        | .ok _, 0 => (.fault tooManyRedirects, w)
        | .ok next, left + 1 =>
          ((follow timeout left next w).1.behindRedirect, (follow timeout left next w).2) := by
  intro count
  -- Only the reply is known of the request, so the world behind it keeps its name.
  have sent : w.transmit (String.ofList leg.url) timeout =
      (.response r, (w.transmit (String.ofList leg.url) timeout).2) :=
    Prod.ext ((plays.fst_transmit _ _).trans h.reply) rfl
  have later : decide (left < greatestRedirects) = decide (0 < n) :=
    decide_eq_decide.mpr (by omega)
  rw [follow, sendable_of_isSendable h.sendable]
  dsimp only
  rw [sent]
  dsimp only
  rw [later]
  cases locationOf r with
  | error f => rfl
  | ok location? =>
    cases location? with
    | none => rfl
    | some location => cases leg.onward (0 < n) r location <;> cases left <;> rfl

/-- Where the exchange stops, following comes to the same end. One request is sent, if the leg can
be sent to. -/
theorem Stops.follow_eq (h : Stops replies n leg e) (plays : w.Plays replies n)
    (count : n + left = greatestRedirects) :
    follow timeout left leg w =
      (e, if Url.isSendable leg.url = true then (w.transmit (String.ofList leg.url) timeout).2
        else w) := by
  cases h with
  | unsendable refused =>
    have hsend : Url.sendable leg.url = .error (.unsupportedScheme leg.url) := by
      rw [Url.sendable, if_neg (by simp [refused])]
    rw [follow, hsend, if_neg (by simp [refused])]
  | @failed f sendable failure =>
    have sent : w.transmit (String.ofList leg.url) timeout =
        (.fault f, (w.transmit (String.ofList leg.url) timeout).2) :=
      Prod.ext ((plays.fst_transmit _ _).trans failure) rfl
    rw [follow, sendable_of_isSendable sendable, if_pos sendable]
    dsimp only
    rw [sent]
  | conflict answered conflict =>
    rw [answered.follow_eq plays count, conflict, if_pos answered.sendable]
  | final answered final =>
    rw [answered.follow_eq plays count, final, if_pos answered.sendable]
  | astray answered located leads =>
    rw [answered.follow_eq plays count, located, if_pos answered.sendable]
    dsimp only
    rw [leads]
  | exhausted redirects spent =>
    obtain ⟨answered, located, leads⟩ := redirects
    -- No redirect is left, so the count is at its end.
    obtain rfl : left = 0 := by omega
    rw [answered.follow_eq plays count, located, if_pos answered.sendable]
    dsimp only
    rw [leads]

/-- Where the exchange is redirected, following goes on from the next leg after one request. -/
theorem Redirects.follow_eq (h : Redirects replies n leg next) (plays : w.Plays replies n)
    (count : n + (left + 1) = greatestRedirects) :
    follow timeout (left + 1) leg w =
      ((follow timeout left next (w.transmit (String.ofList leg.url) timeout).2).1.behindRedirect,
        (follow timeout left next (w.transmit (String.ofList leg.url) timeout).2).2) := by
  obtain ⟨answered, located, leads⟩ := h
  rw [answered.follow_eq plays count, located]
  dsimp only
  rw [leads]

/-! ## Routes -/

/-- The end of an exchange that has some legs behind it. -/
def Ending.after (e : Ending) : List Leg → Ending
  | [] => e
  | _ :: _ => e.behindRedirect

@[simp] theorem Ending.after_nil (e : Ending) : e.after [] = e := rfl

@[simp] theorem Ending.after_cons (e : Ending) (leg : Leg) (passed : List Leg) :
    e.after (leg :: passed) = e.behindRedirect := rfl

theorem Ending.behindRedirect_behindRedirect (e : Ending) :
    e.behindRedirect.behindRedirect = e.behindRedirect := by
  cases e with
  | response r => rfl
  | fault f =>
    by_cases h : f.name = "StopIteration" ∧ f.reach = .ordinary
    · simp only [behindRedirect, if_pos h]
      rfl
    · simp only [behindRedirect, if_neg h]

/-- What stands behind a redirect already stays as it is behind more of them. -/
theorem Ending.after_behindRedirect (e : Ending) (passed : List Leg) :
    e.behindRedirect.after passed = e.behindRedirect := by
  cases passed with
  | nil => rfl
  | cons leg passed => exact e.behindRedirect_behindRedirect

/-- An exchange from a first leg stands at a leg, with others behind it, latest first. Each has
been redirected to the one that comes after it. -/
inductive Route (replies : List Reply) (start : Leg) : List Leg → Leg → Prop
  | start : Route replies start [] start
  | step {passed : List Leg} {leg next : Leg} (route : Route replies start passed leg)
      (redirects : Redirects replies passed.length leg next)
      (left : passed.length < greatestRedirects) : Route replies start (leg :: passed) next

/-- No more redirects are followed than allowed. -/
theorem Route.length_le (h : Route replies start passed leg) :
    passed.length ≤ greatestRedirects := by
  cases h with
  | start => exact Nat.zero_le _
  | step route redirects left => exact left

/-- A route leads on to a leg where the exchange stops. -/
theorem Route.exists_stops (h : Route replies start passed leg) :
    ∃ passed' leg' e, Route replies start passed' leg' ∧ Stops replies passed'.length leg' e := by
  -- Each redirect takes one of those that are left.
  induction hleft : greatestRedirects - passed.length generalizing passed leg with
  | zero =>
    rcases stops_or_redirects replies passed.length leg with ⟨e, stops⟩ | ⟨hlt, -⟩
    · exact ⟨passed, leg, e, h, stops⟩
    · omega
  | succ left ih =>
    rcases stops_or_redirects replies passed.length leg with ⟨e, stops⟩ | ⟨hlt, next, redirects⟩
    · exact ⟨passed, leg, e, h, stops⟩
    · refine ih (h.step redirects hlt) ?_
      rw [List.length_cons]
      omega

/-- An exchange goes on from every leg of its route as if it began there, with fewer redirects
left. -/
theorem Route.fst_follow (h : Route replies start passed leg) (plays : w.Plays replies 0)
    (timeout : Seconds) :
    ∃ w' : World, w'.Plays replies passed.length ∧
      (follow timeout greatestRedirects start w).1 =
        (follow timeout (greatestRedirects - passed.length) leg w').1.after passed := by
  -- The redirect nearest to the end is the last to be added, so `behindRedirect` comes from the
  -- inside, where the endings behind further redirects have it already.
  induction h with
  | start => exact ⟨w, plays, rfl⟩
  | @step passed leg next route redirects left ih =>
    obtain ⟨w', plays', same⟩ := ih
    have count : greatestRedirects - passed.length =
        greatestRedirects - (passed.length + 1) + 1 := by omega
    refine ⟨(w'.transmit (String.ofList leg.url) timeout).2, plays'.transmit _ _, ?_⟩
    rw [same, count, redirects.follow_eq plays' (by omega), Ending.after_behindRedirect,
      Ending.after_cons, List.length_cons]

/-! ## Endings -/

/-- How an exchange from an address ends: the address is refused, or the exchange stops at the end
of its route. -/
inductive Ends (replies : List Reply) (address : String) : Ending → Prop
  | refused {f : Fault} (refused : Leg.ofAddress address = .error f) :
      Ends replies address (.fault f)
  | stopped {start leg : Leg} {passed : List Leg} {e : Ending}
      (begins : Leg.ofAddress address = .ok start) (route : Route replies start passed leg)
      (stops : Stops replies passed.length leg e) : Ends replies address (e.after passed)

/-- Every exchange comes to an end. -/
theorem exists_ends (replies : List Reply) (address : String) : ∃ e, Ends replies address e := by
  cases begins : Leg.ofAddress address with
  | error f => exact ⟨_, .refused begins⟩
  | ok start =>
    obtain ⟨passed, leg, e, route, stops⟩ := (@Route.start replies start).exists_stops
    exact ⟨_, .stopped begins route stops⟩

theorem Ends.fst_run (h : Ends replies address e) (plays : w.Plays replies 0)
    (timeout : Seconds) : (run address timeout w).1 = e := by
  cases h with
  | refused refused => rw [run, refused]
  | @stopped start leg passed e begins route stops =>
    obtain ⟨w', plays', same⟩ := route.fst_follow plays timeout
    -- What is behind and what is left are all the redirects there may be.
    have count := Nat.add_sub_of_le route.length_le
    rw [run, begins]
    dsimp only
    rw [same, stops.follow_eq plays' count]

/-- The function computes the way in which an exchange ends. -/
theorem ends_iff (w : World) (timeout : Seconds) :
    Ends w.replies address e ↔ (run address timeout w).1 = e := by
  constructor
  · intro h
    exact h.fst_run w.plays_self timeout
  · rintro rfl
    obtain ⟨e, ends⟩ := exists_ends w.replies address
    rw [ends.fst_run w.plays_self timeout]
    exact ends

/-- A response ends an exchange when it is final, its codings can be undone, and it is as long as it
declares. -/
theorem Ending.ofFinal_eq_response_iff {r' : Response} :
    ofFinal r' = .response r ↔ ∃ body, r'.decoded = .ok body ∧ r'.reading = none ∧
      r = ⟨r'.status, r'.reason, r'.headers, body⟩ := by
  rw [ofFinal]
  cases decoded : r'.decoded with
  | error f => simp
  | ok body => cases reading : r'.reading <;> simp [eq_comm]

theorem Ending.after_eq_response_iff : e.after passed = .response r ↔ e = .response r := by
  cases passed with
  | nil => rfl
  | cons leg passed =>
    rw [after_cons]
    cases e with
    | response r' => rfl
    | fault f =>
      rw [behindRedirect]
      split <;> simp

/-- Only a final response is a leg's ending with a response. -/
theorem Stops.exists_final (h : Stops replies n leg e) (response : e = .response r) :
    ∃ r', Answered replies n leg r' ∧ locationOf r' = .ok none ∧
      Ending.ofFinal r' = .response r := by
  cases h with
  | final answered final => exact ⟨_, answered, final, response⟩
  | _ => cases response

/-- The response that ends an exchange is one of the script's, with its body unpacked. -/
theorem Ends.exists_final (h : Ends replies address e) (response : e = .response r) :
    ∃ n r', replyAt replies n = .response r' ∧ locationOf r' = .ok none ∧
      Ending.ofFinal r' = .response r := by
  cases h with
  | refused => cases response
  | stopped begins route stops =>
    obtain ⟨r', answered, final, ending⟩ :=
      stops.exists_final (Ending.after_eq_response_iff.mp response)
    exact ⟨_, r', answered.reply, final, ending⟩

/-- An exchange ends in one way only. -/
theorem Ends.unique (h : Ends replies address e) (h' : Ends replies address e') : e = e' := by
  -- One run, within any time limit, computes them both.
  have plays : (World.fresh replies).Plays replies 0 := plays_self _
  exact (h.fst_run plays (.whole 1)).symm.trans (h'.fst_run plays (.whole 1))

theorem existsUnique_ends (replies : List Reply) (address : String) :
    ∃! e, Ends replies address e := by
  obtain ⟨e, ends⟩ := exists_ends replies address
  exact ⟨e, ends, fun _ other => other.unique ends⟩

end Exchange

end InstanceIdentity
