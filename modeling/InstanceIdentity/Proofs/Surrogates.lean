import InstanceIdentity.Text.Basic
import Mathlib.Data.List.Chain
import Mathlib.Tactic.Common

/-!
# Surrogate pairs

A text that is put together from code points one by one joins the halves of a surrogate pair as soon
as they stand side by side. So a text without such halves stays as it is.

## Main definitions

* `Text.joined` — a text as it is read back
* `Text.IsJoined` — the texts that stay as they are

## Main results

* `Text.joined_of_isJoined` — a text without a split pair stays as it is
* `Text.joined_of_ascii` — a text that is read back as ASCII was that text
-/

namespace InstanceIdentity

namespace Text

/-- A text as it is read back: each low surrogate right behind a high one is joined to it. -/
def joined (t : Text) : Text := (t.foldl (fun written c => snoc c written) []).reverse

/-- A text in which no high surrogate stands right before a low one. -/
def IsJoined (t : Text) : Prop :=
  t.IsChain fun c d => ¬ (CodePoint.IsHigh c ∧ CodePoint.IsLow d)

instance (t : Text) : Decidable (IsJoined t) :=
  inferInstanceAs (Decidable (t.IsChain fun c d => ¬ (CodePoint.IsHigh c ∧ CodePoint.IsLow d)))

variable {t written : Text} {c : CodePoint}

theorem snoc_of_not_joins
    (apart : ∀ d ∈ written.head?, ¬ (CodePoint.IsHigh d ∧ CodePoint.IsLow c)) :
    snoc c written = c :: written := by
  cases written with
  | nil => rfl
  | cons d earlier => exact if_neg (apart d rfl)

theorem snoc_of_not_isLow (h : ¬ CodePoint.IsLow c) (written : Text) :
    snoc c written = c :: written :=
  snoc_of_not_joins fun _ _ pair => h pair.2

theorem foldl_snoc_of_isJoined (h : IsJoined t)
    (apart : ∀ d ∈ written.head?, ∀ c ∈ t.head?, ¬ (CodePoint.IsHigh d ∧ CodePoint.IsLow c)) :
    t.foldl (fun written c => snoc c written) written = t.reverse ++ written := by
  -- At each step the code point written last and the one that comes must not be the halves of a
  -- pair.
  induction t generalizing written with
  | nil => rfl
  | cons c t ih =>
    obtain ⟨next, rest⟩ := List.isChain_cons.mp h
    have apart' : ∀ d ∈ written.head?, ¬ (CodePoint.IsHigh d ∧ CodePoint.IsLow c) :=
      fun d first => apart d first c rfl
    rw [List.foldl_cons, snoc_of_not_joins apart', ih rest, List.reverse_cons, List.append_assoc,
      List.singleton_append]
    rintro d ⟨⟩ c' first
    exact next c' first

/-- A text in which no surrogate pair is split stays as it is. -/
theorem joined_of_isJoined (h : IsJoined t) : joined t = t := by
  rw [joined, foldl_snoc_of_isJoined h (by simp), List.append_nil, List.reverse_reverse]

/-- There are no surrogates in ASCII. -/
theorem isJoined_of_ascii (ascii : ∀ c ∈ t, c.val < 0x80) : IsJoined t := by
  induction t with
  | nil => exact .nil
  | cons c t ih =>
    obtain ⟨first, rest⟩ := List.forall_mem_cons.mp ascii
    refine List.isChain_cons.mpr ⟨fun d _ pair => ?_, ih rest⟩
    have high := pair.1.1
    omega

theorem foldl_snoc_of_ascii
    (ascii : ∀ c ∈ t.foldl (fun written c => snoc c written) written, c.val < 0x80) :
    t.foldl (fun written c => snoc c written) written = t.reverse ++ written := by
  induction t generalizing written with
  | nil => rfl
  | cons c t ih =>
    rw [List.foldl_cons] at ascii ⊢
    have rest := ih ascii
    rw [rest] at ascii ⊢
    -- A pair that was joined would still be there, and it lies outside ASCII.
    have single : snoc c written = c :: written := by
      refine snoc_of_not_joins fun d first pair => ?_
      obtain ⟨earlier, rfl⟩ := List.head?_eq_some_iff.mp first
      rw [snoc, if_pos pair] at ascii
      have := ascii (CodePoint.join d c) (by simp)
      rw [CodePoint.join] at this
      dsimp only at this
      omega
    rw [single, List.reverse_cons, List.append_assoc, List.singleton_append]

/-- A text that is read back as ASCII was that ASCII text. -/
theorem joined_of_ascii (ascii : ∀ c ∈ joined t, c.val < 0x80) : joined t = t := by
  rw [joined, foldl_snoc_of_ascii, List.append_nil, List.reverse_reverse]
  intro c member
  exact ascii c (List.mem_reverse.mpr member)

end Text

end InstanceIdentity
