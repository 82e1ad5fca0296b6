import InstanceIdentity.Proofs.Deadlines
import InstanceIdentity.Proofs.NormalForm
import InstanceIdentity.Proofs.Slashes

/-!
# Base addresses in normal form

A client tells in its log records and failures from where it asks for the document. This file is
about base addresses for which that is the very text that the first request goes to: those in normal
form, with or without slashes behind them. The path of the document adds segments in normal form, so
that the preparation of the whole address changes nothing.

## Main results

* `Exchange.Leg.ofAddress_of_isCanonical` — the leg of an address in normal form
* `Session.respond_of_isCanonical` — a fetch sends its first request to the address of the document
-/

namespace InstanceIdentity

open Url

variable {segments : List (List Char)} {s : List Char}

namespace Client

/-- The segments of the path of the document. -/
def documentSegments : List (List Char) :=
  ["latest".toList, "dynamic".toList, "instance-identity".toList, "document".toList]

theorem toList_documentPath : documentPath.toList = writeSegments documentSegments := by decide

theorem isCanonicalSegment_of_mem_documentSegments :
    ∀ segment ∈ documentSegments, IsCanonicalSegment segment := by decide

variable {a : String}

/-- Of an address in normal form with slashes behind it, the slashes are dropped. -/
theorem ofAddress_of_isCanonical (h : IsCanonical segments a.toList) (n : Nat) :
    ofAddress (a ++ slashes n) = ⟨a⟩ := by
  rw [ofAddress_append_slashes, ofAddress, trimSlashes_eq_self h.getLast?_ne, String.ofList_toList]

/-- The address of the document is in normal form if the base address is. -/
theorem isCanonical_documentUrl (h : IsCanonical segments a.toList) :
    IsCanonical (segments ++ documentSegments) (documentUrl ⟨a⟩).toList := by
  rw [documentUrl, String.toList_append, toList_documentPath]
  exact h.append isCanonicalSegment_of_mem_documentSegments

end Client

namespace Exchange.Leg

/-- An exchange that is begun with an address in normal form begins there. -/
theorem ofAddress_of_isCanonical {address : String} (h : IsCanonical segments address.toList)
    (nonempty : segments ≠ []) : Leg.ofAddress address = .ok ⟨address.toList, [], false⟩ := by
  obtain ⟨r, apart, fragment, authorized⟩ := h.exists_takeApart nonempty
  rw [ofAddress, h.prepare_eq nonempty]
  refine bind_eq_ok_iff.mpr ⟨_, rfl, ?_⟩
  rw [apart]
  refine bind_eq_ok_iff.mpr ⟨r, rfl, ?_⟩
  rw [authorized, fragment]
  rfl

end Exchange.Leg

/-- Where a base address is in normal form, the address that a client tells is the one that is
requested: the given one without the slashes behind it, and the path of the document. A fetch with
time sends at least one request, and the first one goes there. -/
theorem Session.respond_of_isCanonical {a : String} (h : IsCanonical segments a.toList) (n : Nat)
    (limit : Seconds) (suppressed : Bool) {step : Step} {timeout : Seconds}
    (fetches : step.action.timeLimit limit = some timeout) (pending : ¬ timeout.IsSpent) :
    let c := Client.ofAddress (a ++ Client.slashes n)
    c.documentUrl = a ++ "/latest/dynamic/instance-identity/document" ∧
      ∃ later, (respond c limit suppressed step).requests =
        ⟨"GET", c.documentUrl, timeout, true⟩ :: later := by
  rw [Client.ofAddress_of_isCanonical h]
  refine ⟨rfl, ?_⟩
  have canonical := Client.isCanonical_documentUrl h
  have begins := Exchange.Leg.ofAddress_of_isCanonical canonical (by simp [Client.documentSegments])
  have sends := step.sends_respond ⟨a⟩ limit suppressed
  generalize (respond ⟨a⟩ limit suppressed step).requests = requests at sends
  cases sends with
  | idle idle => cases idle.symm.trans fetches
  | elapsed fetches' elapsed =>
    obtain rfl := Option.some.inj (fetches.symm.trans fetches')
    exact absurd (Seconds.elapsed_iff.mp elapsed) pending
  | exchange fetches' pending' sends =>
    obtain rfl := Option.some.inj (fetches.symm.trans fetches')
    cases sends with
    | refused refused => cases begins.symm.trans refused
    | begun begins' visits =>
      obtain rfl := Except.ok.inj (begins.symm.trans begins')
      obtain ⟨rest, rfl⟩ := visits.eq_cons canonical.isSendable
      refine ⟨rest.map (Exchange.Leg.request true timeout), ?_⟩
      rw [List.map_cons, Exchange.Leg.request, String.ofList_toList]

/-- Not-a-number is a limit with time, and a request is sent though nothing answers it. -/
theorem Session.respond_of_isCanonical_numbered :
    let a := "https://imds-1.example:8080/a.b/~c"
    let step : Step := ⟨.detect none, [], spareCalls⟩
    IsCanonical ["a.b".toList, "~c".toList] a.toList ∧
      ¬ (Seconds.floating .nan).IsSpent ∧
      step.action.timeLimit (.floating .nan) = some (.floating .nan) ∧
      ∃ later,
        (respond (.ofAddress (a ++ Client.slashes 2)) (.floating .nan) false step).requests =
          ⟨"GET", "https://imds-1.example:8080/a.b/~c/latest/dynamic/instance-identity/document",
            .floating .nan, true⟩ :: later := by
  intro a step
  have host : IsCanonicalHost "imds-1.example".toList :=
    ⟨by decide, List.all_iff_forall_prop.mp (by decide), by decide⟩
  have form : IsCanonicalAuthority ⟨[], "imds-1.example".toList, some 8080⟩
      ("imds-1.example".toList ++ ':' :: (toString 8080).toList) :=
    .numbered host (by decide) (by decide)
  have path : ∀ segment ∈ ["a.b".toList, "~c".toList], IsCanonicalSegment segment := by decide
  have written : a.toList = "https".toList ++ ':' :: '/' :: '/' ::
      ("imds-1.example".toList ++ ':' :: (toString 8080).toList ++
        writeSegments ["a.b".toList, "~c".toList]) := by decide
  have canonical : IsCanonical ["a.b".toList, "~c".toList] a.toList := by
    rw [written]
    exact .intro (.inr rfl) form path
  have pending : ¬ (Seconds.floating .nan).IsSpent := mt Seconds.elapsed_iff.mpr (by decide)
  obtain ⟨url, sent⟩ := respond_of_isCanonical canonical 2 (.floating .nan) false
    (show step.action.timeLimit (.floating .nan) = some (.floating .nan) from rfl) pending
  rw [url] at sent
  exact ⟨canonical, pending, rfl, sent⟩

end InstanceIdentity
