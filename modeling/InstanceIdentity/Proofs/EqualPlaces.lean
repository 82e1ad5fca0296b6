import InstanceIdentity.Census
import InstanceIdentity.Failure
import InstanceIdentity.Proofs.Members
import Mathlib.Data.Finset.Card
import Mathlib.Data.List.Induction
import Mathlib.Data.Setoid.Basic
import Mathlib.SetTheory.Cardinal.Finite

/-!
# Places of equal values

The equal values in a list can be told in three ways: by comparing two of them, by listing the pairs
of places that hold equal ones, and by counting the different ones. The three agree. The listed
pairs are those that a comparison finds, from left to right. They put the places into classes, and
there are as many classes as different values. A further value is either a new one, or its place is
the right end of a pair. So the right ends are what the count leaves out, and the order of the
values does not matter to it.

## Main definitions

* `Census.Alike` — places that are the same or make up a listed pair
* `Census.rightEnds` — the places that are the right end of a listed pair
* `Census.Tallies` — comparison, listing and count agree

## Main results

* `Census.mem_equalPairs` — which pairs are listed
* `Census.distinct_concat`, `Census.rightEnds_concat` — what a further value adds
* `Census.documents_and_failures_tally` — the three agree for documents and for failures
-/

namespace InstanceIdentity

namespace Census

variable {α : Type} [DecidableEq α] {values values' : List α} {x : α} {i j : Nat}

/-! ## The listed pairs -/

/-- One place further on, all pairs are. -/
theorem equalPairsFrom_succ (first : Nat) (values : List α) :
    equalPairsFrom (first + 1) values =
      (equalPairsFrom first values).map fun pair => (pair.1 + 1, pair.2 + 1) := by
  induction values generalizing first with
  | nil => rfl
  | cons x rest ih =>
    rw [equalPairsFrom, equalPairsFrom, List.map_append, ih, List.zipIdx_succ, List.filter_map,
      List.map_map, List.map_map]
    rfl

/-- The pairs of the first value come first. -/
theorem equalPairs_cons (x : α) (rest : List α) :
    equalPairs (x :: rest) =
      (rest.zipIdx.filter (·.1 = x)).map (fun other => (0, other.2 + 1)) ++
        (equalPairs rest).map fun pair => (pair.1 + 1, pair.2 + 1) := by
  rw [equalPairs, equalPairsFrom, equalPairsFrom_succ, List.zipIdx_succ, List.filter_map,
    List.map_map]
  rfl

/-- The listed pairs are the ascending pairs of places that hold one value. -/
theorem mem_equalPairs : (i, j) ∈ equalPairs values ↔
    i < j ∧ ∃ x, values[i]? = some x ∧ values[j]? = some x := by
  induction values generalizing i j with
  | nil => simp [equalPairs, equalPairsFrom]
  | cons x rest ih =>
    rw [equalPairs_cons, List.mem_append]
    -- The two parts of the listing begin at the first place and behind it.
    cases i with
    | zero =>
      cases j with
      | zero => simp
      | succ j => simp [List.mk_mem_zipIdx_iff_getElem?]
    | succ i =>
      cases j with
      | zero => simp
      | succ j => simp [ih]

/-- The pairs are listed once each, from left to right. -/
theorem pairwise_equalPairs (values : List α) :
    (equalPairs values).Pairwise (Prod.Lex (· < ·) (· < ·)) := by
  induction values with
  | nil => exact .nil
  | cons x rest ih =>
    have ascending : rest.zipIdx.Pairwise fun one other => one.2 < other.2 := by
      rw [← List.pairwise_map, List.zipIdx_map_snd]
      exact List.pairwise_lt_range' 1
    rw [equalPairs_cons]
    -- The pairs of the first value differ in their right ends, and all others begin further on.
    refine List.pairwise_append.mpr ⟨?_, ?_, ?_⟩
    · refine List.pairwise_map.mpr ((ascending.filter _).imp fun less => ?_)
      exact .right 0 (Nat.succ_lt_succ less)
    · refine List.pairwise_map.mpr (ih.imp fun less => ?_)
      simpa [Prod.lex_def] using less
    · intro pair here pair' behind
      obtain ⟨other, -, rfl⟩ := List.mem_map.mp here
      obtain ⟨later, -, rfl⟩ := List.mem_map.mp behind
      exact .left _ _ (Nat.succ_pos later.1)

/-! ## Classes of places -/

/-- Two places are alike: they are the same, or one of the listed pairs is made up of them. -/
def Alike (values : List α) (i j : Fin values.length) : Prop :=
  i = j ∨ (i.val, j.val) ∈ equalPairs values ∨ (j.val, i.val) ∈ equalPairs values

theorem alike_iff {i j : Fin values.length} : Alike values i j ↔ values.get i = values.get j := by
  have pair {i j : Fin values.length} : (i.val, j.val) ∈ equalPairs values ↔
      i < j ∧ values.get i = values.get j := by
    rw [mem_equalPairs]
    simp [eq_comm]
  rw [Alike, pair, pair]
  constructor
  · rintro (rfl | ⟨-, same⟩ | ⟨-, same⟩)
    · rfl
    · exact same
    · exact same.symm
  · intro same
    rcases lt_trichotomy i j with less | equal | greater
    · exact .inr (.inl ⟨less, same⟩)
    · exact .inl equal
    · exact .inr (.inr ⟨greater, same.symm⟩)

theorem alike_eq_ker (values : List α) : Alike values = Setoid.ker values.get :=
  funext fun _ => funext fun _ => propext alike_iff

theorem equivalence_alike (values : List α) : Equivalence (Alike values) :=
  alike_eq_ker values ▸ (Setoid.ker values.get).iseqv

theorem card_quotient_alike (equivalence : Equivalence (Alike values)) :
    Nat.card (Quotient (Setoid.mk (Alike values) equivalence)) = values.toFinset.card := by
  have same : Setoid.mk (Alike values) equivalence = Setoid.ker values.get :=
    Setoid.ext fun _ _ => alike_iff
  have range : Set.range values.get = ↑values.toFinset := by
    rw [Set.range_list_get, List.coe_toFinset]
  -- A class is known by the value that its places hold.
  rw [same, Nat.card_congr (Setoid.quotientKerEquivRange values.get), range]
  exact Nat.card_eq_card_toFinset _ |>.trans (by simp)

/-! ## The count -/

/-- A further value counts if it is a new one. -/
theorem distinct_concat (values : List α) (x : α) :
    distinct (values ++ [x]) = distinct values + if x ∈ values then 0 else 1 := by
  rw [distinct, distinct, List.eraseDups_append, List.length_append]
  split
  · next old => simp [List.removeAll, old]
  · next new => simp [List.removeAll, new, List.eraseDups_cons]

theorem distinct_eq_card (values : List α) : distinct values = values.toFinset.card := by
  -- From the end, since a further value is compared with those in front of it.
  induction values using List.reverseRecOn with
  | nil => rfl
  | append_singleton values x ih =>
    rw [distinct_concat, ih]
    by_cases old : x ∈ values
    · simp [old]
    · simp [old]

/-- The places that are the right end of a listed pair. -/
def rightEnds (values : List α) : Finset Nat := ((equalPairs values).map Prod.snd).toFinset

theorem mem_rightEnds : j ∈ rightEnds values ↔ ∃ i, (i, j) ∈ equalPairs values := by
  simp [rightEnds]

/-- A further value makes pairs with the places of the same value only. -/
theorem mem_equalPairs_concat : (i, j) ∈ equalPairs (values ++ [x]) ↔
    (i, j) ∈ equalPairs values ∨ j = values.length ∧ values[i]? = some x := by
  rw [mem_equalPairs, mem_equalPairs]
  constructor
  · rintro ⟨less, y, left, right⟩
    -- The place of the further value is the last one, so that it is the right end if it occurs.
    rcases lt_trichotomy j values.length with inside | rfl | outside
    · rw [List.getElem?_append_left (less.trans inside)] at left
      rw [List.getElem?_append_left inside] at right
      exact .inl ⟨less, y, left, right⟩
    · rw [List.getElem?_append_left less] at left
      rw [List.getElem?_concat_length] at right
      exact .inr ⟨rfl, left.trans right.symm⟩
    · rw [List.getElem?_eq_none (by simpa using outside)] at right
      cases right
  · rintro (⟨less, y, left, right⟩ | ⟨rfl, left⟩)
    · refine ⟨less, y, ?_, ?_⟩
      · rw [List.getElem?_append_left (List.getElem?_eq_some_iff.mp left).1, left]
      · rw [List.getElem?_append_left (List.getElem?_eq_some_iff.mp right).1, right]
    · have inside := (List.getElem?_eq_some_iff.mp left).1
      exact ⟨inside, x, by rw [List.getElem?_append_left inside, left], List.getElem?_concat_length⟩

/-- The place of a further value is a right end if the value is not a new one. -/
theorem rightEnds_concat (values : List α) (x : α) :
    rightEnds (values ++ [x]) =
      if x ∈ values then insert values.length (rightEnds values) else rightEnds values := by
  ext j
  simp only [mem_rightEnds, mem_equalPairs_concat, exists_or, exists_and_left,
    ← List.mem_iff_getElem?]
  split
  · next old => simp [mem_rightEnds, old, or_comm]
  · next new => simp [mem_rightEnds, new]

theorem lt_of_mem_rightEnds (member : j ∈ rightEnds values) : j < values.length := by
  obtain ⟨i, pair⟩ := mem_rightEnds.mp member
  obtain ⟨-, x, -, right⟩ := mem_equalPairs.mp pair
  exact (List.getElem?_eq_some_iff.mp right).1

/-- Every place has a new value or is a right end. -/
theorem distinct_add_card_rightEnds (values : List α) :
    distinct values + (rightEnds values).card = values.length := by
  induction values using List.reverseRecOn with
  | nil => rfl
  | append_singleton values x ih =>
    rw [distinct_concat, rightEnds_concat, List.length_append, List.length_singleton]
    split
    · have further : values.length ∉ rightEnds values := fun member =>
        absurd (lt_of_mem_rightEnds member) (Nat.lt_irrefl _)
      rw [Finset.card_insert_of_notMem further]
      omega
    · omega

theorem distinct_of_perm (order : values.Perm values') : distinct values' = distinct values := by
  rw [distinct_eq_card, distinct_eq_card, List.toFinset_eq_of_perm _ _ order]

/-! ## Three views of one relation -/

/-- Listing and count agree with a way of comparing values. The listed pairs are the ascending pairs
of places whose values compare as the same, once each and from left to right. They put the places
into classes. There are as many classes as different values, which are all but those at right ends,
in whatever order the values stand. -/
structure Tallies (same : α → α → Prop) (values : List α) : Prop where
  ascending : (equalPairs values).Pairwise (Prod.Lex (· < ·) (· < ·))
  listed : ∀ i j, (i, j) ∈ equalPairs values ↔
    i < j ∧ ∃ x y, values[i]? = some x ∧ values[j]? = some y ∧ same x y
  equivalence : Equivalence (Alike values)
  classes : distinct values = Nat.card (Quotient (Setoid.mk (Alike values) equivalence))
  repeated : distinct values + (rightEnds values).card = values.length
  permuted : ∀ values', values.Perm values' → distinct values' = distinct values

theorem tallies {same : α → α → Prop} (faithful : ∀ x y, same x y ↔ x = y) (values : List α) :
    Tallies same values where
  ascending := pairwise_equalPairs values
  listed i j := by
    rw [mem_equalPairs]
    simp [faithful]
  equivalence := equivalence_alike values
  classes := by rw [distinct_eq_card, card_quotient_alike]
  repeated := distinct_add_card_rightEnds values
  permuted _ := distinct_of_perm

end Census

/-- Documents are compared field by field, and failures by kind and message. The listing of equal
ones and the count of different ones agree with that, for all lists. So failures of the three kinds
are different whatever their message, although the general kind includes the others. -/
theorem Census.documents_and_failures_tally :
    (∀ ds : List Document, Tallies (fun d d' => ∀ field, d.get field = d'.get field) ds) ∧
      (∀ fs : List Failure,
        Tallies (fun f f' => f.kind = f'.kind ∧ f.message = f'.message) fs) ∧
      ∀ message, equalPairs (Failure.Kind.all.map fun kind => Failure.mk kind message) = [] ∧
        ∀ kind : Failure.Kind, .general ∈ kind.including := by
  refine ⟨tallies fun d d' => ?_, tallies fun f f' => ?_, fun message => ⟨?_, fun kind => ?_⟩⟩
  · exact Document.eq_iff_get.symm
  · cases f
    cases f'
    rw [Failure.mk.injEq]
  · rfl
  · cases kind <;> decide

end InstanceIdentity
