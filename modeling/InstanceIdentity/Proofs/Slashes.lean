import InstanceIdentity.Session
import Mathlib.Data.List.DropRight

/-!
# Slashes at the end of an address

A client drops the slashes at the end of the address that it is given, and puts a path with a
slash in front behind what is left. So its base address is the longest beginning of the given one
that does not end in a slash, even where the slashes belong to a scheme.

Slashes at the end are also all that a client forgets of its address. A fetch without time tells
where it would have gone, so clients that show the same in every session have been given addresses
that differ in such slashes only.

## Main definitions

* `Client.IsTrimmed` — the longest beginning of a text that does not end in a slash
* `Client.slashes` — a row of slashes

## Main results

* `Client.isTrimmed_iff` — `Client.trimSlashes` computes `Client.IsTrimmed`
* `Session.run_eq_run_iff` — clients that show the same have one base address
* `Client.ofAddress_slashes` — slashes at the end of an address make no difference
-/

namespace InstanceIdentity

theorem CodePoint.ofChar_injective : Function.Injective CodePoint.ofChar := fun c d h => by
  have same : c.toNat = d.toNat := by rw [← val_ofChar, h, val_ofChar]
  rw [← Char.ofNat_toNat c, same, Char.ofNat_toNat]

theorem Text.ofString_injective : Function.Injective Text.ofString := fun s t h => by
  have same : s.toList = t.toList := CodePoint.ofChar_injective.list_map h
  rw [← String.ofList_toList (s := s), same, String.ofList_toList]

namespace Client

variable {s t t' p : List Char} {a b : String} {n : Nat}

/-! ## What is left of a text -/

/-- A text is another one without the slashes at its end: a beginning of it that does not end in a
slash, and the longest one of this kind. -/
structure IsTrimmed (s t : List Char) : Prop where
  beginning : t <+: s
  ending : t.getLast? ≠ some '/'
  longest : ∀ p, p <+: s → p.getLast? ≠ some '/' → p <+: t

theorem IsTrimmed.unique (h : IsTrimmed s t) (h' : IsTrimmed s t') : t = t' := by
  have within := h'.longest t h.beginning h.ending
  have around := h.longest t' h'.beginning h'.ending
  exact within.eq_of_length_le around.length_le

/-- What is dropped is a row of slashes. -/
theorem exists_trimSlashes_append (s : List Char) :
    ∃ n, trimSlashes s ++ List.replicate n '/' = s := by
  have dropped : ∀ c ∈ s.rtakeWhile (· = '/'), c = '/' := fun c member =>
    of_decide_eq_true (List.mem_rtakeWhile_imp (p := fun c => decide (c = '/')) member)
  refine ⟨(s.rtakeWhile (· = '/')).length, ?_⟩
  rw [← List.eq_replicate_of_mem dropped]
  exact List.rdropWhile_append_rtakeWhile

theorem trimSlashes_append (s : List Char) (n : Nat) :
    trimSlashes (s ++ List.replicate n '/') = trimSlashes s := by
  -- The last of the slashes is dropped first.
  induction n with
  | zero => rw [List.replicate_zero, List.append_nil]
  | succ n ih =>
    rw [List.replicate_succ', ← List.append_assoc]
    exact (List.rdropWhile_concat_pos _ _ _ (by simp)).trans ih

theorem getLast?_trimSlashes (s : List Char) : (trimSlashes s).getLast? ≠ some '/' := by
  intro slash
  obtain ⟨front, whole⟩ := List.getLast?_eq_some_iff.mp slash
  have trimmed : trimSlashes (trimSlashes s) = trimSlashes s := List.rdropWhile_idempotent _ _
  -- Trimmed once more, the text would lose the slash.
  have lost : trimSlashes (front ++ ['/']) = trimSlashes front := trimSlashes_append front 1
  have shorter : (trimSlashes front).length ≤ front.length :=
    (List.rdropWhile_prefix _ _).length_le
  rw [whole, lost] at trimmed
  rw [trimmed, List.length_append] at shorter
  exact absurd shorter (by simp)

/-- A beginning that does not end in a slash ends before the slashes at the end. -/
theorem prefix_of_prefix_slashes (front : p <+: t ++ List.replicate n '/')
    (other : p.getLast? ≠ some '/') : p <+: t := by
  induction n with
  | zero => rwa [List.replicate_zero, List.append_nil] at front
  | succ n ih =>
    rw [List.replicate_succ', ← List.append_assoc, List.prefix_concat_iff] at front
    rcases front with rfl | shorter
    · exact absurd (by simp) other
    · exact ih shorter

/-- The function computes what is left of a text. -/
theorem isTrimmed_iff : IsTrimmed s t ↔ trimSlashes s = t := by
  have trimmed : IsTrimmed s (trimSlashes s) := by
    refine ⟨List.rdropWhile_prefix _ _, getLast?_trimSlashes s, fun p front other => ?_⟩
    obtain ⟨n, whole⟩ := exists_trimSlashes_append s
    exact prefix_of_prefix_slashes (whole ▸ front) other
  constructor
  · intro h
    exact trimmed.unique h
  · rintro rfl
    exact trimmed

/-- A text that does not end in a slash is left as it is. -/
theorem trimSlashes_eq_self (h : s.getLast? ≠ some '/') : trimSlashes s = s :=
  isTrimmed_iff.mp ⟨List.prefix_rfl, h, fun _ front _ => front⟩

/-! ## Addresses -/

/-- A row of slashes. -/
def slashes (n : Nat) : String := String.ofList (List.replicate n '/')

theorem toList_baseAddress (a : String) :
    (ofAddress a).baseAddress.toList = trimSlashes a.toList := String.toList_ofList

theorem ofAddress_append_slashes (a : String) (n : Nat) :
    ofAddress (a ++ slashes n) = ofAddress a := by
  rw [ofAddress, String.toList_append, slashes, String.toList_ofList, trimSlashes_append]
  rfl

/-- Two addresses have one client if and only if slashes at their ends make them the same. -/
theorem ofAddress_eq_iff :
    ofAddress a = ofAddress b ↔ ∃ m n, a ++ slashes m = b ++ slashes n := by
  constructor
  · intro same
    have trimmed : trimSlashes a.toList = trimSlashes b.toList := by
      rw [← toList_baseAddress, ← toList_baseAddress, same]
    obtain ⟨m, whole⟩ := exists_trimSlashes_append a.toList
    obtain ⟨n, whole'⟩ := exists_trimSlashes_append b.toList
    -- Each address is given the slashes of the other one.
    refine ⟨n, m, String.toList_inj.mp ?_⟩
    rw [String.toList_append, String.toList_append, slashes, slashes, String.toList_ofList,
      String.toList_ofList, ← whole, ← whole', trimmed, List.append_assoc, List.append_assoc,
      ← List.replicate_add, ← List.replicate_add, Nat.add_comm]
  · rintro ⟨m, n, same⟩
    rw [← ofAddress_append_slashes a m, same, ofAddress_append_slashes]

theorem documentUrl_injective : Function.Injective documentUrl := fun c c' h => by
  have same : c.baseAddress = c'.baseAddress := String.append_left_inj _ |>.mp h
  exact congrArg Client.mk same

theorem transportFailure_injective (rest : Text) :
    Function.Injective fun c : Client => c.transportFailure rest := fun c c' h => by
  have message := congrArg Failure.message (Outcome.failure.inj h)
  have words := Text.ofString_injective (List.append_cancel_right message)
  exact documentUrl_injective (by simpa using words)

end Client

/-- Clients that show the same in every session are the same client. -/
theorem Session.run_eq_run_iff {c c' : Client} :
    (∀ limit steps, run c limit steps = run c' limit steps) ↔ c = c' := by
  constructor
  · intro same
    -- A fetch without time shows where it would have gone.
    have shown := same (.whole 0) [⟨.fetch (.floating (.infinity true)), [], spareCalls⟩]
    have results := congrArg Answer.result (List.head_eq_of_cons_eq shown)
    exact Client.transportFailure_injective _ (Result.fetched.inj results)
  · rintro rfl limit steps
    rfl

namespace Client

/-- Slashes at the end of an address make no difference, neither to its client nor to anything that
a session with the client shows, and nothing else is forgotten of it. The base address is the
longest beginning of the address that does not end in a slash, and is its own base address. So there
is no slash in front of the path of the document. -/
theorem ofAddress_slashes (a : String) :
    IsTrimmed a.toList (ofAddress a).baseAddress.toList ∧
      ofAddress (ofAddress a).baseAddress = ofAddress a ∧
      ¬ '/' :: documentPath.toList <:+ (ofAddress a).documentUrl.toList ∧
      (∀ n, (ofAddress (a ++ slashes n)).baseAddress = (ofAddress a).baseAddress ∧
        (ofAddress (a ++ slashes n)).documentUrl = (ofAddress a).documentUrl ∧
        ∀ limit steps, Session.run (ofAddress (a ++ slashes n)) limit steps =
          Session.run (ofAddress a) limit steps) ∧
      ∀ b, (∀ limit steps,
          Session.run (ofAddress b) limit steps = Session.run (ofAddress a) limit steps) ↔
        ∃ m n, b ++ slashes m = a ++ slashes n := by
  have trimmed := isTrimmed_iff.mpr (toList_baseAddress a).symm
  refine ⟨trimmed, ?_, ?_, fun n => ?_, fun b => ?_⟩
  · rw [ofAddress, trimSlashes_eq_self trimmed.ending, String.ofList_toList]
  · rintro ⟨front, doubled⟩
    rw [documentUrl, String.toList_append, List.append_cons] at doubled
    have base := List.append_cancel_right doubled
    exact trimmed.ending (by rw [← base, List.getLast?_concat])
  · rw [ofAddress_append_slashes]
    exact ⟨rfl, rfl, fun _ _ => rfl⟩
  · rw [Session.run_eq_run_iff, ofAddress_eq_iff]

-- Of an address of slashes nothing is left, and of a scheme alone its colon.
example : ofAddress "//" = ofAddress "" ∧ (ofAddress "http://").baseAddress = "http:" := by decide

end Client

end InstanceIdentity
