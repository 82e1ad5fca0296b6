/-!
# Computations that may be refused

A computation in `Except` that goes through several steps has a result when every step
has one, and it is refused where the first step is. Rewording the refusals of a step
changes no result.
-/

namespace InstanceIdentity

variable {ε δ α β : Type} {x : Except ε α} {e : ε}

theorem bind_eq_ok_iff {f : α → Except ε β} {b : β} :
    x >>= f = .ok b ↔ ∃ a, x = .ok a ∧ f a = .ok b := by
  cases x with
  | error e' => simp [bind, Except.bind]
  | ok a => simp [bind, Except.bind]

theorem bind_eq_error_iff {f : α → Except ε β} :
    x >>= f = .error e ↔ x = .error e ∨ ∃ a, x = .ok a ∧ f a = .error e := by
  cases x with
  | error e' => simp [bind, Except.bind]
  | ok a => simp [bind, Except.bind]

theorem mapError_eq_ok_iff {g : ε → δ} {a : α} : x.mapError g = .ok a ↔ x = .ok a := by
  cases x with
  | error e' =>
    show Except.error (g e') = .ok a ↔ Except.error e' = .ok a
    simp
  | ok a' =>
    show Except.ok a' = .ok a ↔ Except.ok a' = .ok a
    simp

theorem mapError_eq_error_iff {g : ε → δ} {e : δ} :
    x.mapError g = .error e ↔ ∃ cause, x = .error cause ∧ g cause = e := by
  cases x with
  | error e' =>
    show Except.error (g e') = .error e ↔ _
    simp
  | ok a =>
    show Except.ok a = .error e ↔ _
    simp

theorem map_eq_ok_iff {f : α → β} {b : β} : x.map f = .ok b ↔ ∃ a, x = .ok a ∧ f a = b := by
  cases x with
  | error e' =>
    show Except.error e' = .ok b ↔ _
    simp
  | ok a =>
    show Except.ok (f a) = .ok b ↔ _
    simp

/-- The results of a row of computations are results of the single ones. -/
theorem exists_of_mapM_eq_ok {f : α → Except ε β} {as : List α} {bs : List β}
    (h : as.mapM f = .ok bs) : ∀ b ∈ bs, ∃ a ∈ as, f a = .ok b := by
  induction as generalizing bs with
  | nil =>
    obtain rfl := Except.ok.inj h
    simp
  | cons a as ih =>
    rw [List.mapM_cons] at h
    obtain ⟨b, first, h⟩ := bind_eq_ok_iff.mp h
    obtain ⟨bs', others, h⟩ := bind_eq_ok_iff.mp h
    obtain rfl := Except.ok.inj h
    rw [List.forall_mem_cons]
    refine ⟨⟨a, List.mem_cons_self, first⟩, fun b member => ?_⟩
    obtain ⟨a', among, result⟩ := ih others b member
    exact ⟨a', List.mem_cons_of_mem _ among, result⟩

/-- A computation that gives every element of a row back gives the row back. -/
theorem mapM_eq_ok_self {f : α → Except ε α} {as : List α} (h : ∀ a ∈ as, f a = .ok a) :
    as.mapM f = .ok as := by
  induction as with
  | nil => rfl
  | cons a as ih =>
    rw [List.forall_mem_cons] at h
    rw [List.mapM_cons, h.1, ih h.2]
    rfl

end InstanceIdentity
