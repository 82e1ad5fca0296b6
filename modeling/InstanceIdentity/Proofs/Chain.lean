import InstanceIdentity.Proofs.Delivery
import InstanceIdentity.Proofs.Escape
import InstanceIdentity.Proofs.Targets
import Mathlib.Data.List.Forall2

/-!
# Chains of redirects

A chain is a row of responses each of which redirects to a clear location. Their bodies are
read on the way, though nothing is made of them, and they must let the exchange go on. Then
it follows the chain for thirty redirects. A chain that ends before that leaves no trace but
its requests: the outcome and the records are those of a fetch that is given the last
response at once. A longer chain is one failure, whatever comes behind it.

## Main definitions

* `Response.LeadsTo` — a response redirects to a clear location
* `Exchange.IsChain` — a row of such responses

## Main results

* `Exchange.exists_route` — a chain is a route for as long as redirects are followed
* `Client.respond_of_chain` — what a fetch shows that is led through a chain
-/

namespace InstanceIdentity

open Exchange World

/-- A response redirects to a clear location, does not declare two lengths, and has a body that can
be released. -/
structure Response.LeadsTo (r : Response) (location : List Char) : Prop where
  status : r.status ∈ redirectStatuses
  header : r.header? "location" = some (String.ofList location)
  target : Url.IsTarget location
  length : ∃ n, r.declaredLength = .ok n
  released : r.release = .ok ()

/-- Responses that redirect to clear locations, one after another. All bodies but the first can be
read once more. -/
structure Exchange.IsChain (chain : List Response) (locations : List (List Char)) : Prop where
  leads : List.Forall₂ Response.LeadsTo chain locations
  again : ∀ r ∈ chain.tail, r.reread = .ok ()

theorem Response.LeadsTo.locationOf_eq {r : Response} {location : List Char}
    (h : r.LeadsTo location) : locationOf r = .ok (some location) := by
  have nonempty : String.ofList location ≠ "" := by
    intro empty
    have none : location = [] := by simpa using congrArg String.toList empty
    exact absurd (none ▸ h.target) Url.not_isTarget_nil
  obtain ⟨n, declared⟩ := h.length
  rw [locationOf, declared]
  dsimp only
  rw [Response.location?, if_pos h.status, h.header, Option.bind_some, if_neg nonempty,
    String.toList_ofList]

/-! ## Scripts -/

namespace World

variable {replies rest : List Reply} {n : Nat}

theorem replyAt_append (h : n < replies.length) : replyAt (replies ++ rest) n = replies[n] := by
  rw [replyAt, List.getElem?_append_left h, List.getElem?_eq_getElem h]
  rfl

theorem replyAt_length (replies : List Reply) (reply : Reply) (rest : List Reply) :
    replyAt (replies ++ reply :: rest) replies.length = reply := by
  rw [replyAt, List.getElem?_append_right (Nat.le_refl _), Nat.sub_self]
  rfl

end World

namespace Exchange

variable {replies script : List Reply} {n : Nat} {start leg : Leg} {passed legs : List Leg}
  {r : Response} {e : Ending} {f : Fault} {address : String} {location : List Char}
  {chain : List Response} {locations : List (List Char)}

/-! ## Following a chain -/

/-- From a settled leg a redirect to a clear location is followed to it. -/
theorem Leg.IsSettled.exists_redirects (settled : leg.IsSettled)
    (reply : replyAt replies n = .response r) (leads : r.LeadsTo location)
    (again : 0 < n → r.reread = .ok ()) :
    ∃ next, Redirects replies n leg next ∧ next.url = location ∧ next.IsSettled := by
  obtain ⟨next, reached, url, settled'⟩ := settled.exists_next leads.target
  have onward : leg.onward (0 < n) r location = .ok next := by
    rw [Leg.onward, readLocation_of_forall_lt fun c member => (leads.target.isClear c member).ascii]
    refine bind_eq_ok_iff.mpr ⟨location, rfl, ?_⟩
    rw [leads.released]
    refine bind_eq_ok_iff.mpr ⟨(), rfl, ?_⟩
    rw [reached]
    refine bind_eq_ok_iff.mpr ⟨next, rfl, ?_⟩
    split
    · next later =>
      rw [again (of_decide_eq_true later)]
      rfl
    · rfl
  exact ⟨next, ⟨⟨settled.sendable, reply⟩, leads.locationOf_eq, onward⟩, url, settled'⟩

/-- A response of a chain behind the first can be read once more. -/
theorem IsChain.reread_getElem (h : IsChain chain locations) {n : Nat} (inside : n < chain.length)
    (later : 0 < n) : chain[n].reread = .ok () := by
  cases n with
  | zero => exact absurd later (Nat.lt_irrefl 0)
  | succ n =>
    have behind : chain.tail[n]? = some chain[n + 1] := by
      rw [List.getElem?_tail, List.getElem?_eq_getElem inside]
    exact h.again _ (List.mem_of_getElem? behind)

/-- The exchange gets as far along a chain as redirects are followed. -/
theorem exists_route (settled : start.IsSettled) (isChain : IsChain chain locations)
    (replies : ∀ n (h : n < chain.length), replyAt script n = .response chain[n]) {n : Nat}
    (reached : n ≤ chain.length) (left : n ≤ greatestRedirects) :
    ∃ passed leg, Route script start passed leg ∧ passed.length = n ∧ leg.IsSettled ∧
      (passed.reverse ++ [leg]).map Leg.url = start.url :: locations.take n := by
  -- One more redirect is followed from the leg that the redirects before it have reached.
  induction n with
  | zero => exact ⟨[], start, .start, rfl, settled, by simp⟩
  | succ n ih =>
    obtain ⟨passed, leg, route, rfl, settled', urls⟩ := ih (by omega) (by omega)
    have inside : passed.length < locations.length := isChain.leads.length_eq ▸ reached
    obtain ⟨next, redirects, url, settled''⟩ := settled'.exists_redirects (replies _ reached)
      (isChain.leads.get reached inside) (isChain.reread_getElem reached)
    refine ⟨leg :: passed, next, route.step redirects left, rfl, settled'', ?_⟩
    rw [List.reverse_cons, List.map_append, urls, List.map_singleton, url,
      List.take_succ_eq_append_getElem inside]
    rfl

/-- The requests of an exchange begin with those of its route. -/
theorem Route.visits (route : Route script start passed leg)
    (visits : Visits script passed.length leg legs) :
    Visits script 0 start (passed.reverse ++ legs) := by
  -- A route grows at its end, so its last step is taken off first and is a visit in front of the
  -- others.
  induction route generalizing legs with
  | start => exact visits
  | step route redirects left ih =>
    rw [List.reverse_cons, List.append_assoc]
    exact ih (.redirected redirects left visits)

/-- Where an exchange stops at a leg that it can send to, it has sent from all legs up to there. -/
theorem Route.sends (begins : Leg.ofAddress address = .ok start)
    (route : Route script start passed leg) (sendable : Url.isSendable leg.url = true)
    (stops : Stops script passed.length leg e) :
    Sends script address (passed.reverse ++ [leg]) :=
  .begun begins (route.visits (.last sendable stops))

/-! ## The end of a chain -/

/-- A fault of a request is the same behind redirects. -/
theorem after_of_reach (h : f.reach = .request) (passed : List Leg) :
    (Ending.fault f).after passed = .fault f := by
  cases passed with
  | nil => rfl
  | cons leg passed =>
    rw [Ending.after_cons, Ending.behindRedirect]
    refine if_neg fun stopped => ?_
    rw [h] at stopped
    exact absurd stopped.2 (by decide)

theorem Ending.after_ofFinal (r : Response) (passed : List Leg) :
    (Ending.ofFinal r).after passed = .ofFinal r := by
  cases final : Ending.ofFinal r with
  | response r' => exact Ending.after_eq_response_iff.mpr rfl
  | fault f => exact after_of_reach (reach_of_ofFinal final) passed

/-- A response that does not redirect ends an exchange in one way, wherever it comes. -/
theorem exists_stops (final : r.location? = none) :
    ∃ e : Ending, (∀ {script n leg}, Answered script n leg r → Stops script n leg e) ∧
      ∀ passed, e.after passed = e := by
  cases located : locationOf r with
  | error f =>
    obtain ⟨e, -, rfl⟩ := locationOf_eq_error_iff.mp located
    exact ⟨_, fun answered => .conflict answered located, after_of_isOrdinary e.isOrdinary_fault⟩
  | ok location =>
    have none : location = none := by
      rw [locationOf] at located
      split at located
      · cases located
      · exact (Except.ok.inj located).symm.trans final
    rw [none] at located
    exact ⟨_, fun answered => .final answered located, Ending.after_ofFinal r⟩

end Exchange

/-! ## Fetches -/

namespace Client

variable {c : Client} {limit timeout : Seconds} {suppressed : Bool} {script : List Reply}
  {start leg : Leg} {legs passed : List Leg} {e : Ending} {chain : List Response}
  {locations : List (List Char)} {spare : Nat}

/-- A request to an address, with tracing suppressed. -/
def requestTo (timeout : Seconds) (url : List Char) : Request :=
  ⟨"GET", String.ofList url, timeout, true⟩

/-- A fetch that is begun shows how its exchange ends and what it sends. -/
theorem respond_of_ends (pending : timeout.elapsed = false)
    (ends : Ends script c.documentUrl e) (sends : Sends script c.documentUrl legs) :
    Session.respond c limit suppressed ⟨.fetch timeout, script, spare⟩ =
      { result := .fetched (c.conclude (spare + 3) e)
        records := [c.announcement]
        requests := legs.map (Leg.request true timeout)
        asked := []
        suppressed := suppressed } := by
  have result : (c.fetch timeout (begun script spare)).1 = c.conclude (spare + 3) e :=
    fst_fetch pending ends
  have left := snd_fetch (w := begun script spare) pending sends
  rw [Session.respond_fetch, result, left]
  simp [World.log, begun, sent_eq]

/-- A fetch that has stopped at the end of a route shows the addresses of the route. -/
theorem respond_of_route (pending : timeout.elapsed = false)
    (begins : Leg.ofAddress c.documentUrl = .ok start) (route : Route script start passed leg)
    (sendable : Url.isSendable leg.url = true) (stops : Stops script passed.length leg e)
    (stays : e.after passed = e) {urls : List (List Char)}
    (visited : (passed.reverse ++ [leg]).map Leg.url = urls) :
    Session.respond c limit suppressed ⟨.fetch timeout, script, spare⟩ =
      { result := .fetched (c.conclude (spare + 3) e)
        records := [c.announcement]
        requests := urls.map (requestTo timeout)
        asked := []
        suppressed := suppressed } := by
  have ends : Ends script c.documentUrl e := stays ▸ .stopped begins route stops
  rw [respond_of_ends pending ends (route.sends begins sendable stops), ← visited, List.map_map]
  rfl

/-- A chain of more than thirty redirects is given up at the thirty-first. -/
theorem conclude_tooManyRedirects (c : Client) (room : Nat) :
    c.conclude room (.fault tooManyRedirects) =
      .failure ⟨.transport, Text.ofString ("GET " ++ c.documentUrl ++
        " failed: TooManyRedirects('Exceeded 30 redirects.')")⟩ := by
  have words : tooManyRedirects.quoted =
      Text.ofString "TooManyRedirects('Exceeded 30 redirects.')" := by decide +kernel
  have settles : c.Settles room .requestFault (.fault tooManyRedirects) _ := .requestFault rfl
  rw [settles.conclude_eq, words, ← Text.ofString_append, String.append_assoc]
  rfl

theorem replyAt_chain (chain : List Response) (rest : List Reply) (n : Nat) (h : n < chain.length) :
    replyAt (chain.map .response ++ rest) n = .response chain[n] := by
  rw [replyAt_append (by simpa using h), List.getElem_map]

section

variable (limit : Seconds) (suppressed : Bool) (spare : Nat) (pending : timeout.elapsed = false)
  (begins : Leg.ofAddress c.documentUrl = .ok start) (settled : start.IsSettled)
  (isChain : IsChain chain locations) (rest : List Reply)
include pending begins settled isChain

/-- A response that does not redirect shows the same behind a chain, apart from the requests. -/
theorem respond_of_short_chain {r : Response} (final : r.location? = none)
    (few : chain.length ≤ greatestRedirects) :
    Session.respond c limit suppressed
        ⟨.fetch timeout, chain.map .response ++ .response r :: rest, spare⟩ =
      { Session.respond c limit suppressed ⟨.fetch timeout, [.response r], spare⟩ with
        requests := (start.url :: locations).map (requestTo timeout) } := by
  obtain ⟨passed, leg, route, reached, settled', urls⟩ :=
    exists_route settled isChain (replyAt_chain chain (.response r :: rest)) (Nat.le_refl _) few
  obtain ⟨e, stops, stays⟩ := exists_stops final
  have reply : replyAt (chain.map .response ++ .response r :: rest) passed.length =
      .response r := by
    rw [reached, ← List.length_map Reply.response]
    exact replyAt_length _ _ _
  have alone : Stops [.response r] 0 start e := stops ⟨settled.sendable, rfl⟩
  rw [List.take_of_length_le (by rw [isChain.leads.length_eq])] at urls
  rw [respond_of_route pending begins route settled'.sendable (stops ⟨settled'.sendable, reply⟩)
      (stays passed) urls,
    respond_of_route pending begins .start settled.sendable alone (stays []) rfl]

/-- A chain of more redirects than are followed is one failure, whatever comes behind it. -/
theorem respond_of_long_chain (many : greatestRedirects < chain.length) :
    Session.respond c limit suppressed ⟨.fetch timeout, chain.map .response ++ rest, spare⟩ =
      { result := .fetched (.failure ⟨.transport, Text.ofString ("GET " ++ c.documentUrl ++
          " failed: TooManyRedirects('Exceeded 30 redirects.')")⟩)
        records := [c.announcement]
        requests := (start.url :: locations.take greatestRedirects).map (requestTo timeout)
        asked := []
        suppressed := suppressed } := by
  obtain ⟨passed, leg, route, reached, settled', urls⟩ :=
    exists_route settled isChain (replyAt_chain chain rest) (Nat.le_of_lt many) (Nat.le_refl _)
  -- The leg that is reached is redirected once more, and no redirect is left.
  have inside : passed.length < chain.length := reached ▸ many
  have inside' : passed.length < locations.length := isChain.leads.length_eq ▸ inside
  obtain ⟨next, redirects, -, -⟩ := settled'.exists_redirects (replyAt_chain chain rest _ inside)
    (isChain.leads.get inside inside') (isChain.reread_getElem inside)
  have stops := Stops.exhausted redirects (Nat.le_of_eq reached.symm)
  rw [respond_of_route pending begins route settled'.sendable stops (after_of_reach rfl _) urls,
    conclude_tooManyRedirects]

end

/-- What a fetch shows that is led through a chain of redirects to clear locations. After thirty of
them at most, a response that does not redirect shows what it shows alone, except that the locations
are requested in between. After more, the fetch fails with thirty-one requests. No fetch sends more
than that, whatever the script. -/
theorem respond_of_chain (limit : Seconds) (suppressed : Bool) (spare : Nat)
    (pending : timeout.elapsed = false) (begins : Leg.ofAddress c.documentUrl = .ok start)
    (sendable : Url.isSendable start.url = true) (unmarked : '#' ∉ c.documentUrl.toList)
    (isChain : IsChain chain locations) :
    (∀ r rest, r.location? = none → chain.length ≤ 30 →
        Session.respond c limit suppressed
            ⟨.fetch timeout, chain.map .response ++ .response r :: rest, spare⟩ =
          { Session.respond c limit suppressed ⟨.fetch timeout, [.response r], spare⟩ with
            requests := (start.url :: locations).map (requestTo timeout) }) ∧
      (∀ rest, 31 ≤ chain.length →
        Session.respond c limit suppressed ⟨.fetch timeout, chain.map .response ++ rest, spare⟩ =
          { result := .fetched (.failure ⟨.transport, Text.ofString ("GET " ++ c.documentUrl ++
              " failed: TooManyRedirects('Exceeded 30 redirects.')")⟩)
            records := [c.announcement]
            requests := (start.url :: locations.take 30).map (requestTo timeout)
            asked := []
            suppressed := suppressed }) ∧
      ∀ script,
        (Session.respond c limit suppressed ⟨.fetch timeout, script, spare⟩).requests.length ≤
          31 := by
  have settled := Leg.isSettled_of_ofAddress begins sendable unmarked
  refine ⟨fun r rest final few => ?_, fun rest many => ?_, fun script => ?_⟩
  · exact respond_of_short_chain limit suppressed spare pending begins settled isChain rest final
      few
  · exact respond_of_long_chain limit suppressed spare pending begins settled isChain rest many
  · obtain ⟨e, ends⟩ := exists_ends script c.documentUrl
    obtain ⟨legs, sends⟩ := exists_sends script c.documentUrl
    rw [respond_of_ends pending ends sends, List.length_map]
    exact sends.length_le

theorem ofAddress_standard :
    Leg.ofAddress standard.documentUrl = .ok ⟨standard.documentUrl.toList, [], false⟩ := by
  decide +kernel

theorem isTarget_elsewhere : Url.IsTarget "http://198.51.100.7/elsewhere".toList :=
  @Url.IsTarget.intro _ "198.51.100.7".toList "elsewhere".toList (.inl rfl) (by decide)
    (List.all_iff_forall_prop.mp (by decide)) (List.all_iff_forall_prop.mp (by decide))

/-- A redirect to another host shows in the requests only. -/
theorem respond_of_chain_found :
    let hop : Response :=
      ⟨302, some "Found", [("Location", "http://198.51.100.7/elsewhere")], [0x6F, 0x6B]⟩
    let last : Response := ⟨200, some "OK", [], "\x7b\"region\":\"eu-west-1\"\x7d".toUTF8.toList⟩
    Session.respond standard (.whole 5) false
        ⟨.fetch (.whole 5), [.response hop, .response last], spareCalls⟩ =
      { result := .fetched (.document { region := Text.ofString "eu-west-1" })
        records := [standard.announcement]
        requests := [⟨"GET", standard.documentUrl, .whole 5, true⟩,
          ⟨"GET", "http://198.51.100.7/elsewhere", .whole 5, true⟩]
        asked := []
        suppressed := false } := by
  intro hop last
  have leads : hop.LeadsTo "http://198.51.100.7/elsewhere".toList :=
    ⟨by decide, by decide +kernel, isTarget_elsewhere, ⟨none, by decide +kernel⟩,
      Response.release_of_uncoded (by decide +kernel)⟩
  have isChain : IsChain [hop] ["http://198.51.100.7/elsewhere".toList] :=
    ⟨.cons leads .nil, by simp⟩
  have pending : (Seconds.whole 5).elapsed = false := by decide
  have chain := respond_of_chain (.whole 5) false spareCalls pending ofAddress_standard
    (by decide +kernel) (by decide +kernel) isChain
  exact (chain.1 last [] (by decide +kernel) (by decide)).trans (by decide +kernel)

/-- A redirect whose body keeps the exchange from going on is the end of the fetch. -/
theorem respond_of_kept {r : Response} {f : Fault} (rest : List Reply)
    (located : locationOf r = .ok (some "http://198.51.100.7/elsewhere".toList))
    (kept : r.release = .error f) :
    Session.respond standard (.whole 5) false
        ⟨.fetch (.whole 5), .response r :: rest, spareCalls⟩ =
      { result := .fetched (standard.conclude (spareCalls + 3) (.fault f))
        records := [standard.announcement]
        requests := [⟨"GET", standard.documentUrl, .whole 5, true⟩]
        asked := []
        suppressed := false } := by
  have sendable : Url.isSendable standard.documentUrl.toList = true := by decide +kernel
  have read := readLocation_of_forall_lt fun c member => (isTarget_elsewhere.isClear c member).ascii
  have stops : Stops (.response r :: rest) 0 ⟨standard.documentUrl.toList, [], false⟩ (.fault f) :=
    .astray ⟨sendable, rfl⟩ located (onward_eq_error_iff.mpr (.inr ⟨_, read, .inl kept⟩))
  exact respond_of_route rfl ofAddress_standard .start sendable stops rfl rfl

/-- Three redirects that are not followed, though the response behind them holds a document. One
declares two lengths, and the fault leaves the fetch. One has a body that was unpacked in part and
is not as long as declared, and another fault leaves it. One that comes second has a body that is
not as long as declared, and the fetch fails. An address is requested in the form it is prepared to,
which may not be how it is written. -/
theorem respond_of_broken_redirects :
    let location := "http://198.51.100.7/elsewhere"
    let hop (headers : List (String × String)) (body : List UInt8) : Response :=
      ⟨302, some "Found", ("Location", location) :: headers, body⟩
    let plain := hop [] [0x6F, 0x6B]
    let measured := hop [("Content-Length", "5")] [0x6F, 0x6B]
    let conflicting := hop [("Content-Length", "2, 3")] [0x6F, 0x6B]
    let coded := hop [("Content-Encoding", "deflate"), ("Content-Length", "9")]
      [0x01, 0x02, 0x00, 0xFD, 0xFF, 0x6F, 0x6B]
    let last : Response := ⟨200, some "OK", [], "\x7b\"region\":\"eu-west-1\"\x7d".toUTF8.toList⟩
    let shown (chain : List Response) : Answer :=
      Session.respond standard (.whole 5) false
        ⟨.fetch (.whole 5), (chain ++ [last]).map .response, spareCalls⟩
    let ends (outcome : Outcome) (urls : List String) : Answer :=
      { result := .fetched outcome
        records := [standard.announcement]
        requests := urls.map fun url => ⟨"GET", url, .whole 5, true⟩
        asked := []
        suppressed := false }
    (∀ hop ∈ [plain, measured, conflicting, coded], hop.status ∈ Response.redirectStatuses ∧
        hop.header? "location" = some location ∧ Url.IsTarget location.toList) ∧
      last.location? = none ∧
      shown [] = ends (.document { region := Text.ofString "eu-west-1" }) [standard.documentUrl] ∧
      shown [conflicting] = ends (.raised (.general "InvalidHeader" (some (Text.ofString
        "Content-Length contained multiple unmatching values (2, 3)")))) [standard.documentUrl] ∧
      shown [coded] = ends (.raised Response.mixedReading) [standard.documentUrl] ∧
      shown [plain, measured] = ends (.failure ⟨.transport, Text.ofString
        ("GET " ++ standard.documentUrl ++ " failed: ChunkedEncodingError(ProtocolError(" ++
          "'Connection broken: IncompleteRead(2 bytes read, 3 more expected)', " ++
          "IncompleteRead(2 bytes read, 3 more expected)))")⟩) [standard.documentUrl, location] ∧
      (Session.respond (ofAddress "HTTP://169.254.169.254") (.whole 5) false
          ⟨.fetch (.whole 5), [.response last], spareCalls⟩).requests.map Request.url =
        ["http://169.254.169.254/latest/dynamic/instance-identity/document"] := by
  intro location hop plain measured conflicting coded last shown ends
  refine ⟨?_, ?_, ?_, ?_, ?_, ?_, ?_⟩
  · simp only [List.forall_mem_cons, List.not_mem_nil, false_implies, implies_true, and_true]
    refine ⟨⟨?_, ?_, isTarget_elsewhere⟩, ⟨?_, ?_, isTarget_elsewhere⟩,
      ⟨?_, ?_, isTarget_elsewhere⟩, ?_, ?_, isTarget_elsewhere⟩
    all_goals decide +kernel
  · decide +kernel
  · decide +kernel
  · decide +kernel
  · have named : coded.codings = [.deflate] := Response.codings_deflate (by decide +kernel)
    have kept : coded.release = .error Response.mixedReading := by
      rw [Response.release, Response.isBroken, Response.intake_of_codings named, named]
      decide +kernel
    exact respond_of_kept _ (by decide +kernel) kept
  · decide +kernel
  · decide +kernel

end Client

end InstanceIdentity
