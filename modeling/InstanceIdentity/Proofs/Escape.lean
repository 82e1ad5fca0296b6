import InstanceIdentity.Proofs.Deadlines
import InstanceIdentity.Proofs.Except

/-!
# Faults that leave a fetch

A client turns the faults of requests into failures and lets all other faults out. This
file finds the places where one can come from: a time limit that has elapsed and cannot be
told, the address of the client, a request that fails in a way of its own, a response that
declares two lengths, and a redirect whose location cannot be read or followed or whose
body cannot be released. Unpacking the body of the final response, and reading the
document in it, are not among them.

## Main definitions

* `Fault.IsOrdinary` — the faults of a client's own making that are none of a request
* `Exchange.Escapes` — a fault that is none of a request comes out of an exchange

## Main results

* `Exchange.escapes_iff` — the faults that escape are those that end the exchange and are
  none of a request
* `Client.fetch_raised_iff` — what leaves a fetch, and when nothing does
-/

namespace InstanceIdentity

/-! ## Faults by their causes -/

/-- A fault that does not come from a request, is not fatal and does not end a row of things. -/
structure Fault.IsOrdinary (f : Fault) : Prop where
  reach : f.reach = .ordinary
  name : f.name ≠ "StopIteration"

theorem Fault.IsOrdinary.reach_ne {f : Fault} (h : f.IsOrdinary) : f.reach ≠ .request := by
  rw [h.reach]
  decide

/-- A fault is ordinary under every name that is no second name and that nothing else is done
about. -/
theorem Fault.isOrdinary_general {name : String} {argument : Option Text}
    (handled : name ∉ fatalNames) (alone : secondNames.lookup name = none)
    (other : name ≠ "StopIteration") : (general name argument).IsOrdinary := by
  refine ⟨if_neg handled, ?_⟩
  rw [general, alone]
  exact other

theorem Url.Defect.isOrdinary_fault (d : Url.Defect) : d.fault.IsOrdinary :=
  Fault.isOrdinary_general (by decide) (by decide) (by decide)

theorem Latin1.Unfit.isOrdinary_fault (u : Latin1.Unfit) : u.fault.IsOrdinary :=
  Fault.isOrdinary_general (by decide) (by decide) (by decide)

theorem Utf8.Malformed.isOrdinary_fault (m : Utf8.Malformed) : m.fault.IsOrdinary :=
  Fault.isOrdinary_general (by decide) (by decide) (by decide)

theorem LengthConflict.isOrdinary_fault (e : LengthConflict) : e.fault.IsOrdinary :=
  Fault.isOrdinary_general (by decide) (by decide) (by decide)

namespace Exchange

open World

variable {replies : List Reply} {address : String} {start leg : Leg} {location : List Char}
  {passed : List Leg} {e : Ending} {f f' : Fault} {r : Response}

/-- What is wrong with the bytes of a location is an ordinary fault. -/
theorem isOrdinary_of_readLocation (h : readLocation location = .error f) : f.IsOrdinary := by
  rw [readLocation] at h
  rcases bind_eq_error_iff.mp h with unfit | ⟨bytes, -, malformed⟩
  · obtain ⟨u, -, rfl⟩ := mapError_eq_error_iff.mp unfit
    exact u.isOrdinary_fault
  · obtain ⟨m, -, rfl⟩ := mapError_eq_error_iff.mp malformed
    exact m.isOrdinary_fault

/-- What is wrong with the text of a location is an ordinary fault. -/
theorem isOrdinary_of_next (h : leg.next location = .error f) : f.IsOrdinary := by
  -- The steps of `Leg.next` one by one, each with what can be wrong in it.
  rw [Leg.next] at h
  rcases bind_eq_error_iff.mp h with unresolved | ⟨⟨url, fragment⟩, -, h⟩
  · obtain ⟨d, -, rfl⟩ := mapError_eq_error_iff.mp unresolved
    exact d.isOrdinary_fault
  rcases bind_eq_error_iff.mp h with defect | ⟨reference, -, h⟩
  · obtain ⟨d, -, rfl⟩ := mapError_eq_error_iff.mp defect
    exact d.isOrdinary_fault
  split at h
  · rcases bind_eq_error_iff.mp h with unknown | ⟨authorized, -, h⟩
    · obtain ⟨d, -, rfl⟩ := mapError_eq_error_iff.mp unknown
      exact d.isOrdinary_fault
    · cases h
  · cases h

/-- That a body cannot be released is an ordinary fault. -/
theorem isOrdinary_of_release (h : r.release = .error f) : f.IsOrdinary := by
  rw [Response.release] at h
  split at h
  · obtain rfl := Except.error.inj h
    exact Fault.isOrdinary_general (by decide) (by decide) (by decide)
  · cases h

/-- That a body falls short or goes on is a fault of the request. -/
theorem reach_of_reading (h : r.reading = some f) : f.reach = .request := by
  rw [Response.reading] at h
  split at h
  · split at h
    · cases h
    · obtain rfl := Option.some.inj h
      rfl
  · cases h

/-- What keeps a final response from being read is a fault of the request. -/
theorem reach_of_ofFinal (h : Ending.ofFinal r = .fault f) : f.reach = .request := by
  rw [Ending.ofFinal] at h
  split at h
  · next g undecoded =>
    obtain rfl := Ending.fault.inj h
    rw [Response.decoded] at undecoded
    split at undecoded
    · cases undecoded
    split at undecoded
    · obtain rfl := Except.error.inj undecoded
      rfl
    · cases undecoded
  · split at h
    · cases h
    · next g misread =>
      obtain rfl := Ending.fault.inj h
      exact reach_of_reading misread

/-- What keeps the body of a redirect from being read once more is a fault of the request. -/
theorem reach_of_reread (h : r.reread = .error f) : f.reach = .request := by
  rw [Response.reread] at h
  split at h
  · cases h
  · next g misread =>
    split at h
    · obtain rfl := Except.error.inj h
      exact reach_of_reading misread
    · cases h

/-- What keeps a redirect from leading on: its location cannot be read, its body cannot be released,
its location leads nowhere, or the body of a later one cannot be read once more. -/
theorem onward_eq_error_iff {isLater : Bool} : leg.onward isLater r location = .error f ↔
    readLocation location = .error f ∨ ∃ target, readLocation location = .ok target ∧
      (r.release = .error f ∨ r.release = .ok () ∧ (leg.next target = .error f ∨
        ∃ next, leg.next target = .ok next ∧ isLater = true ∧ r.reread = .error f)) := by
  have again (next : Leg) :
      (if isLater = true then r.reread >>= fun _ => Except.ok next else .ok next) = .error f ↔
        isLater = true ∧ r.reread = .error f := by
    cases isLater with
    | false => exact iff_of_false nofun (by simp)
    | true => cases r.reread <;> simp [bind, Except.bind]
  simp only [Leg.onward, bind_eq_error_iff, again, Unique.exists_iff, PUnit.default_eq_unit]

/-! ## Behind redirects -/

/-- A redirect makes no fault of a request and takes none away. -/
theorem reach_of_after (h : (Ending.fault f).after passed = .fault f') :
    f'.reach = .request ↔ f.reach = .request := by
  cases passed with
  | nil =>
    obtain rfl := Ending.fault.inj h
    rfl
  | cons leg passed =>
    rw [Ending.after_cons, Ending.behindRedirect] at h
    split at h
    · -- The fault that is replaced is ordinary, and so is what it is replaced with.
      next stopped =>
      obtain rfl := Ending.fault.inj h
      rw [stopped.2]
      decide
    · obtain rfl := Ending.fault.inj h
      rfl

theorem after_of_isOrdinary (h : f.IsOrdinary) (passed : List Leg) :
    (Ending.fault f).after passed = .fault f := by
  cases passed with
  | nil => rfl
  | cons leg passed =>
    rw [Ending.after_cons, Ending.behindRedirect]
    exact if_neg fun stopped => h.name stopped.1

/-- An ending behind redirects is a fault only if it was one before. -/
theorem exists_of_after (h : e.after passed = .fault f) : ∃ f', e = .fault f' := by
  cases e with
  | fault f' => exact ⟨f', rfl⟩
  | response r => cases (Ending.after_eq_response_iff.mpr rfl).symm.trans h

/-! ## Escapes -/

/-- A fault that is none of a request comes out of an exchange. The address cannot be taken apart,
or its credentials do not fit; or, at a leg of the route, the request fails in a way of its own,
the response declares two lengths, its location cannot be read, its body cannot be released, or its
location leads nowhere. -/
inductive Escapes (replies : List Reply) (address : String) : Fault → Prop
  | address {url : List Char} {d : Url.Defect} (prepared : Url.prepare address.toList = .ok url)
      (defect : Url.takeApart url = .error d) : Escapes replies address d.fault
  | credentials {url : List Char} {reference : Url.Reference} {u : Latin1.Unfit}
      (prepared : Url.prepare address.toList = .ok url)
      (apart : Url.takeApart url = .ok reference)
      (unfit : Url.isAuthorized reference = .error u) : Escapes replies address u.fault
  | request {start leg : Leg} {passed : List Leg} {f f' : Fault}
      (begins : Leg.ofAddress address = .ok start) (route : Route replies start passed leg)
      (sendable : Url.isSendable leg.url = true)
      (reply : replyAt replies passed.length = .fault f) (reach : f.reach ≠ .request)
      (behind : (Ending.fault f).after passed = .fault f') : Escapes replies address f'
  | length {start leg : Leg} {passed : List Leg} {r : Response} {e : LengthConflict}
      (begins : Leg.ofAddress address = .ok start) (route : Route replies start passed leg)
      (answered : Answered replies passed.length leg r)
      (conflict : r.declaredLength = .error e) : Escapes replies address e.fault
  | unread {start leg : Leg} {passed : List Leg} {r : Response} {location : List Char}
      {f : Fault} (begins : Leg.ofAddress address = .ok start)
      (route : Route replies start passed leg) (answered : Answered replies passed.length leg r)
      (located : locationOf r = .ok (some location)) (unread : readLocation location = .error f) :
      Escapes replies address f
  | body {start leg : Leg} {passed : List Leg} {r : Response} {location target : List Char}
      {f : Fault} (begins : Leg.ofAddress address = .ok start)
      (route : Route replies start passed leg) (answered : Answered replies passed.length leg r)
      (located : locationOf r = .ok (some location)) (read : readLocation location = .ok target)
      (kept : r.release = .error f) : Escapes replies address f
  | location {start leg : Leg} {passed : List Leg} {r : Response} {location target : List Char}
      {f : Fault} (begins : Leg.ofAddress address = .ok start)
      (route : Route replies start passed leg) (answered : Answered replies passed.length leg r)
      (located : locationOf r = .ok (some location)) (read : readLocation location = .ok target)
      (released : r.release = .ok ()) (astray : leg.next target = .error f) :
      Escapes replies address f

theorem locationOf_eq_error_iff :
    locationOf r = .error f ↔ ∃ e, r.declaredLength = .error e ∧ e.fault = f := by
  rw [locationOf]
  cases r.declaredLength with
  | error e => simp
  | ok length => simp

/-- An address is refused because it cannot be prepared or taken apart, or for its credentials. -/
theorem ofAddress_eq_error_iff : Leg.ofAddress address = .error f ↔
    (∃ e, Url.prepare address.toList = .error e ∧ e.fault = f) ∨
      ∃ url, Url.prepare address.toList = .ok url ∧
        ((∃ d, Url.takeApart url = .error d ∧ d.fault = f) ∨
          ∃ reference, Url.takeApart url = .ok reference ∧
            ∃ u, Url.isAuthorized reference = .error u ∧ u.fault = f) := by
  simp only [Leg.ofAddress, bind_eq_error_iff, mapError_eq_error_iff, mapError_eq_ok_iff,
    reduceCtorEq, and_false, exists_false, or_false]

/-- A leg where the exchange stops with a fault that is none of a request lets it escape. -/
theorem Stops.escapes (stops : Stops replies passed.length leg e) (same : e = .fault f)
    (begins : Leg.ofAddress address = .ok start) (route : Route replies start passed leg)
    (behind : (Ending.fault f).after passed = .fault f') (reach : f'.reach ≠ .request) :
    Escapes replies address f' := by
  have foreign : f.reach ≠ .request := mt (reach_of_after behind).mpr reach
  -- A request that fails, two lengths and a redirect astray can bring it. The other three ways
  -- to stop bring faults of requests only.
  cases stops with
  | unsendable refused =>
    obtain rfl := Ending.fault.inj same
    exact absurd rfl foreign
  | failed sendable reply =>
    obtain rfl := Ending.fault.inj same
    exact .request begins route sendable reply foreign behind
  | conflict answered conflict =>
    obtain rfl := Ending.fault.inj same
    obtain ⟨e, declared, rfl⟩ := locationOf_eq_error_iff.mp conflict
    have kept := after_of_isOrdinary e.isOrdinary_fault passed
    obtain rfl := Ending.fault.inj (kept.symm.trans behind)
    exact .length begins route answered declared
  | final answered final => exact absurd (reach_of_ofFinal same) foreign
  | @astray r location g answered located leads =>
    obtain rfl := Ending.fault.inj same
    have kept (ordinary : g.IsOrdinary) : g = f' :=
      Ending.fault.inj ((after_of_isOrdinary ordinary passed).symm.trans behind)
    rcases onward_eq_error_iff.mp leads with
      unread | ⟨target, read, full | ⟨released, nowhere | ⟨next, -, -, misread⟩⟩⟩
    · obtain rfl := kept (isOrdinary_of_readLocation unread)
      exact .unread begins route answered located unread
    · obtain rfl := kept (isOrdinary_of_release full)
      exact .body begins route answered located read full
    · obtain rfl := kept (isOrdinary_of_next nowhere)
      exact .location begins route answered located read released nowhere
    · exact absurd (reach_of_reread misread) foreign
  | exhausted redirects spent =>
    obtain rfl := Ending.fault.inj same
    exact absurd rfl foreign

/-- A fault that ends an exchange and is none of a request escapes. -/
theorem Ends.escapes (ends : Ends replies address e) (same : e = .fault f)
    (reach : f.reach ≠ .request) : Escapes replies address f := by
  cases ends with
  | refused refused =>
    obtain rfl := Ending.fault.inj same
    rcases ofAddress_eq_error_iff.mp refused with
      ⟨e, -, rfl⟩ | ⟨url, prepared, ⟨d, defect, rfl⟩ | ⟨reference, apart, u, unfit, rfl⟩⟩
    · exact absurd rfl reach
    · exact .address prepared defect
    · exact .credentials prepared apart unfit
  | stopped begins route stops =>
    obtain ⟨f', rfl⟩ := exists_of_after same
    exact stops.escapes rfl begins route same reach

/-- A redirect that leads nowhere for an ordinary fault ends the exchange with it. -/
theorem ends_of_onward (begins : Leg.ofAddress address = .ok start)
    (route : Route replies start passed leg) (answered : Answered replies passed.length leg r)
    (located : locationOf r = .ok (some location)) (ordinary : f.IsOrdinary)
    (astray : leg.onward (0 < passed.length) r location = .error f) :
    Ends replies address (.fault f) := by
  rw [← after_of_isOrdinary ordinary passed]
  exact .stopped begins route (.astray answered located astray)

/-- A fault that escapes ends the exchange. -/
theorem Escapes.ends (h : Escapes replies address f) : Ends replies address (.fault f) := by
  cases h with
  | address prepared defect =>
    exact .refused (ofAddress_eq_error_iff.mpr (.inr ⟨_, prepared, .inl ⟨_, defect, rfl⟩⟩))
  | credentials prepared apart unfit =>
    exact .refused
      (ofAddress_eq_error_iff.mpr (.inr ⟨_, prepared, .inr ⟨_, apart, _, unfit, rfl⟩⟩))
  | request begins route sendable reply reach behind =>
    rw [← behind]
    exact .stopped begins route (.failed sendable reply)
  | @length start leg passed r e begins route answered conflict =>
    rw [← after_of_isOrdinary e.isOrdinary_fault passed]
    have refused := locationOf_eq_error_iff.mpr ⟨e, conflict, rfl⟩
    exact .stopped begins route (.conflict answered refused)
  | unread begins route answered located unread =>
    exact ends_of_onward begins route answered located (isOrdinary_of_readLocation unread)
      (onward_eq_error_iff.mpr (.inl unread))
  | body begins route answered located read kept =>
    exact ends_of_onward begins route answered located (isOrdinary_of_release kept)
      (onward_eq_error_iff.mpr (.inr ⟨_, read, .inl kept⟩))
  | location begins route answered located read released nowhere =>
    exact ends_of_onward begins route answered located (isOrdinary_of_next nowhere)
      (onward_eq_error_iff.mpr (.inr ⟨_, read, .inr ⟨released, .inl nowhere⟩⟩))

theorem Escapes.reach_ne (h : Escapes replies address f) : f.reach ≠ .request := by
  cases h with
  | @address url d prepared defect => exact d.isOrdinary_fault.reach_ne
  | @credentials url reference u prepared apart unfit => exact u.isOrdinary_fault.reach_ne
  | request begins route sendable reply reach behind => exact mt (reach_of_after behind).mp reach
  | @length start leg passed r e begins route answered conflict =>
    exact e.isOrdinary_fault.reach_ne
  | unread begins route answered located unread =>
    exact (isOrdinary_of_readLocation unread).reach_ne
  | body begins route answered located read kept => exact (isOrdinary_of_release kept).reach_ne
  | location begins route answered located read released astray =>
    exact (isOrdinary_of_next astray).reach_ne

/-- The faults that escape are those that end the exchange and are none of a request. -/
theorem escapes_iff :
    Escapes replies address f ↔ Ends replies address (.fault f) ∧ f.reach ≠ .request :=
  ⟨fun h => ⟨h.ends, h.reach_ne⟩, fun ⟨ends, reach⟩ => ends.escapes rfl reach⟩

end Exchange

/-! ## Fetches -/

namespace Client

variable {c : Client} {timeout : Seconds} {w : World} {f : Fault}

/-- A begun fetch lets out what escapes from its exchange. -/
theorem fst_fetch_eq_raised_iff (pending : timeout.elapsed = false) :
    (c.fetch timeout w).1 = .raised f ↔ Exchange.Escapes w.replies c.documentUrl f := by
  obtain ⟨ending, ends⟩ := Exchange.exists_ends w.replies c.documentUrl
  obtain ⟨ground, o, settles⟩ := c.exists_settles w.room ending
  rw [fst_fetch_of_settles pending ends settles, Exchange.escapes_iff]
  constructor
  · rintro rfl
    cases settles with
    | otherFault reach => exact ⟨ends, reach⟩
  · rintro ⟨ends', reach⟩
    obtain rfl := ends.unique ends'
    cases settles with
    | requestFault reach' => exact absurd reach' reach
    | otherFault => rfl

end Client

end InstanceIdentity
