import InstanceIdentity.Json.Reader
import InstanceIdentity.Proofs.Except
import Mathlib.Data.Bool.AllAny
import Mathlib.Tactic.Common

/-!
# How a text of JSON ends

The reader takes one character after another, so a text that goes on is read from where its
beginning has led. This file looks at texts that are read as an object. Their last character
is one of ASCII, since a character outside ASCII belongs to a string and no object ends with
one. And once the object is complete only white space may follow: a longer text that is read
at all is read as the same object.

## Main definitions

* `Json.Phase.SpellsAscii` — a phase that waits for no letter outside ASCII

## Main results

* `Json.State.run_append` — a text that goes on
* `Json.Phase.step_of_foreign` — outside ASCII there are only the characters of strings
* `Json.read_append_foreign` — no text of JSON ends outside ASCII
* `Json.read_append_of_object` — behind an object there is only white space
-/

namespace InstanceIdentity

theorem Text.toNat_lt_of_hexValue? {c : Char} {value : Fin 16} (h : hexValue? c = some value) :
    c.toNat < 0x80 := by
  have mono {a b : Char} (h : a ≤ b) : a.toNat ≤ b.toNat := h
  rw [hexValue?] at h
  split at h
  · exact Nat.lt_of_le_of_lt (mono (And.right ‹_›)) (by decide)
  split at h
  · exact Nat.lt_of_le_of_lt (mono (And.right ‹_›)) (by decide)
  split at h
  · exact Nat.lt_of_le_of_lt (mono (And.right ‹_›)) (by decide)
  · cases h

namespace Json

variable {room : Nat} {phase phase' : Phase} {stack stack' : List Frame} {place : Place}
  {c : Char} {v w : Json} {s s' : State} {text rest : List Char}

/-! ## Words -/

theorem toNat_lt_of_mem_words {word : List Char × Json} (h : word ∈ words) :
    ∀ c ∈ word.1, c.toNat < 0x80 := by
  simp only [words, List.mem_cons, List.not_mem_nil, or_false] at h
  rcases h with rfl | rfl | rfl | rfl | rfl
  all_goals exact List.all_iff_forall_prop.mp (by decide)

/-- A phase that waits for no letter outside ASCII. Only a word is waited for letter by letter. -/
def Phase.SpellsAscii : Phase → Prop
  | .word _ rest _ => ∀ c ∈ rest, c.toNat < 0x80
  | _ => True

theorem spellsAscii_of_stepValue (h : stepValue room place stack c = .ok (phase', stack')) :
    phase'.SpellsAscii := by
  unfold stepValue refuse openContainer at h
  grind [Phase.SpellsAscii, toNat_lt_of_mem_words, List.mem_of_mem_tail]

/-- No word is waited for behind a string. -/
theorem Role.spellsAscii_complete (role : Role) (written : Text) :
    (role.complete written).SpellsAscii := by
  induction role generalizing written with
  | value => trivial
  | key members => trivial
  | more before role ih => exact ih _

theorem spellsAscii_of_stepAfter (h : stepAfter place stack v c = .ok (phase', stack')) :
    phase'.SpellsAscii := by
  unfold stepAfter refuse at h
  grind [Phase.SpellsAscii]

/-- All words that a reading comes to are spelled in ASCII. -/
theorem Phase.SpellsAscii.step (spells : phase.SpellsAscii)
    (h : phase.step room place stack c = .ok (phase', stack')) : phase'.SpellsAscii := by
  cases phase with
  | value => exact spellsAscii_of_stepValue h
  | after v => exact spellsAscii_of_stepAfter h
  | name members =>
    simp only [Phase.step, stepName, refuse] at h
    grind [Phase.SpellsAscii]
  | colon members key =>
    simp only [Phase.step, stepColon, refuse] at h
    grind [Phase.SpellsAscii]
  | string role start written escape =>
    simp only [Phase.step, stepEscape, stepString, refuse] at h
    grind [Phase.SpellsAscii, Role.spellsAscii_complete]
  | word start rest v =>
    simp only [Phase.step, stepWord, completeWord, refuse] at h
    grind [Phase.SpellsAscii]
  | numeral n =>
    simp only [Phase.step, stepNumeral] at h
    split at h
    · obtain ⟨rfl, -⟩ := Prod.mk.inj (Except.ok.inj h)
      show ∀ c ∈ "nfinity".toList, c.toNat < 0x80
      exact List.all_iff_forall_prop.mp (by decide)
    · grind [Phase.SpellsAscii, spellsAscii_of_stepAfter]

/-! ## Characters outside ASCII -/

section Foreign

variable (foreign : 0x80 ≤ c.toNat)

include foreign

theorem ne_of_foreign {d : Char} (ascii : d.toNat < 0x80) : c ≠ d := by
  rintro rfl
  omega

theorem isSpace_of_foreign : isSpace c = false := by
  simp [isSpace, ne_of_foreign foreign]

theorem isDigit_of_foreign : c.isDigit = false := by
  have beyond : ¬ c.toNat ≤ 57 := by omega
  rw [Char.isDigit, Bool.and_eq_false_iff, decide_eq_false_iff_not, decide_eq_false_iff_not]
  exact .inr beyond

theorem Numeral.begin?_of_foreign (place : Place) : begin? place c = none := by
  simp [begin?, ne_of_foreign foreign, isDigit_of_foreign foreign]

theorem Numeral.extend?_of_foreign (n : Numeral) (place : Place) : n.extend? place c = none := by
  have other {d : Char} := @ne_of_foreign c foreign d
  cases part : n.part <;> simp [extend?, part, isDigit_of_foreign foreign, other]

theorem words_find?_of_foreign : (words.find? fun word => word.1.head? = some c) = none := by
  rw [List.find?_eq_none]
  intro word member first
  have ascii := toNat_lt_of_mem_words member c (List.mem_of_mem_head? (by simpa using first))
  omega

theorem hexValue?_of_foreign : Text.hexValue? c = none := by
  cases h : Text.hexValue? c with
  | none => rfl
  | some value => exact absurd (Text.toNat_lt_of_hexValue? h) (by omega)

theorem escaped?_of_foreign : escaped? c = none := by
  cases h : escaped? c with
  | none => rfl
  | some d =>
    unfold escaped? at h
    split at h <;> first | exact absurd foreign (by decide) | cases h

theorem stepValue_of_foreign : stepValue room place stack c = refuse .missingValue place := by
  have other {d : Char} := @ne_of_foreign c foreign d
  rw [stepValue.eq_def, words_find?_of_foreign foreign, Numeral.begin?_of_foreign foreign]
  simp only [isSpace_of_foreign foreign, other, Char.reduceToNat, Nat.reduceLT, Bool.false_eq_true,
    if_false]
  split <;> rfl

theorem stepAfter_of_foreign : stepAfter place stack v c = refuse (leftover stack) place := by
  have other {d : Char} := @ne_of_foreign c foreign d
  rw [stepAfter.eq_def]
  simp only [isSpace_of_foreign foreign, other, Char.reduceToNat, Nat.reduceLT, Bool.false_eq_true,
    if_false]
  split <;> rfl

theorem stepString_of_foreign {role : Role} {start : Place} {written : Text} :
    stepString place stack role start written c =
      .ok (.string role start (Text.snoc (.ofChar c) written) .none, stack) := by
  rw [stepString.eq_def, if_neg (ne_of_foreign foreign (by decide)),
    if_neg (ne_of_foreign foreign (by decide)), if_neg (by omega)]

/-- Outside ASCII there are only the characters of strings. -/
theorem Phase.step_of_foreign (spells : phase.SpellsAscii)
    (h : phase.step room place stack c = .ok (phase', stack')) :
    ∃ role start written, phase' = .string role start written .none := by
  have other {d : Char} := @ne_of_foreign c foreign d
  cases phase with
  | value =>
    rw [Phase.step, stepValue_of_foreign foreign] at h
    cases h
  | after v =>
    rw [Phase.step, stepAfter_of_foreign foreign] at h
    cases h
  | name members => simp [Phase.step, stepName, isSpace_of_foreign foreign, other, refuse] at h
  | colon members key =>
    simp [Phase.step, stepColon, isSpace_of_foreign foreign, other, refuse] at h
  | string role start written escape =>
    cases escape with
    | none =>
      rw [Phase.step, stepEscape, stepString_of_foreign foreign] at h
      obtain ⟨rfl, -⟩ := Prod.mk.inj (Except.ok.inj h)
      exact ⟨_, _, _, rfl⟩
    | begun backslash =>
      simp [Phase.step, stepEscape, other, escaped?_of_foreign foreign, refuse] at h
    | unicode letter digits number =>
      simp only [Phase.step, stepEscape, hexValue?_of_foreign foreign,
        stepString_of_foreign foreign] at h
      split at h
      · obtain ⟨rfl, -⟩ := Prod.mk.inj (Except.ok.inj h)
        exact ⟨_, _, _, rfl⟩
      · cases h
  | word start rest v =>
    cases rest with
    | nil => cases h
    | cons d rest =>
      have ascii : d.toNat < 0x80 := spells d List.mem_cons_self
      simp [Phase.step, stepWord, other ascii, refuse] at h
  | numeral n =>
    rw [Phase.step, stepNumeral, if_neg fun infinity => other (by decide) infinity.2,
      Numeral.extend?_of_foreign foreign] at h
    dsimp only at h
    split at h
    · rw [stepAfter_of_foreign foreign] at h
      cases h
    · cases h

end Foreign

/-! ## Texts of characters -/

namespace State

/-- The state after a run of characters. -/
def run (room : Nat) (s : State) : List Char → Except Error State
  | [] => .ok s
  | c :: rest =>
    match s.step room c with
    | .ok s => run room s rest
    | .error e => .error e

theorem stepPoint_ofChar (s : State) (c : Char) :
    s.stepPoint room (CodePoint.ofChar c) = s.step room c := by
  rw [stepPoint, CodePoint.toChar?_ofChar]

theorem runText_ofChars (s : State) (text : List Char) :
    s.runText room (Text.ofChars text) = s.run room text := by
  induction text generalizing s with
  | nil => rfl
  | cons c text ih =>
    rw [Text.ofChars_cons, runText, run, stepPoint_ofChar]
    cases s.step room c with
    | error e => rfl
    | ok s' => exact ih s'

end State

/-- The value that a text of characters stands for. -/
def read (room : Nat) (text : List Char) : Except Error Json := readText room (Text.ofChars text)

/-! ## Texts that go on -/

namespace State

theorem run_append (s : State) (text rest : List Char) :
    s.run room (text ++ rest) = s.run room text >>= fun s => s.run room rest := by
  induction text generalizing s with
  | nil => rfl
  | cons c text ih =>
    rw [List.cons_append, run, run]
    cases s.step room c with
    | ok s' => exact ih s'
    | error e => rfl

theorem step_eq_ok_iff : s.step room c = .ok s' ↔
    s.phase.step room s.place s.stack c = .ok (s'.phase, s'.stack) ∧ s'.place = s.place.next c := by
  rw [step]
  cases s.phase.step room s.place s.stack c with
  | error e => simp
  | ok position =>
    obtain ⟨phase, stack⟩ := position
    obtain ⟨phase', stack', place'⟩ := s'
    simp [eq_comm, and_assoc]

theorem run_cons_eq_ok_iff :
    s.run room (c :: text) = .ok s' ↔
      ∃ between, s.step room c = .ok between ∧ between.run room text = .ok s' := by
  rw [run]
  cases s.step room c with
  | error e => simp
  | ok between => simp

theorem spellsAscii_of_run (spells : s.phase.SpellsAscii) (h : s.run room text = .ok s') :
    s'.phase.SpellsAscii := by
  induction text generalizing s with
  | nil =>
    obtain rfl := Except.ok.inj h
    exact spells
  | cons c text ih =>
    obtain ⟨between, step, run⟩ := run_cons_eq_ok_iff.mp h
    exact ih (spells.step (step_eq_ok_iff.mp step).1) run

/-- Behind a complete value there is only white space. -/
theorem run_after (complete : s.phase = .after v ∧ s.stack = []) (h : s.run room text = .ok s') :
    (∀ c ∈ text, isSpace c = true) ∧ s'.phase = .after v ∧ s'.stack = [] := by
  -- Where nothing is open, anything but white space is refused behind a value.
  induction text generalizing s with
  | nil =>
    obtain rfl := Except.ok.inj h
    exact ⟨by simp, complete⟩
  | cons c text ih =>
    obtain ⟨between, step, run⟩ := run_cons_eq_ok_iff.mp h
    obtain ⟨step, -⟩ := step_eq_ok_iff.mp step
    rw [complete.1, complete.2, Phase.step, stepAfter.eq_def] at step
    split at step
    · obtain ⟨phase, stack⟩ := Prod.mk.inj (Except.ok.inj step)
      obtain ⟨spaces, complete'⟩ := ih ⟨phase.symm, stack.symm⟩ run
      exact ⟨List.forall_mem_cons.mpr ⟨‹_›, spaces⟩, complete'⟩
    · cases step

theorem finish_eq_ok_iff : s.finish room = .ok v ↔ s.phase.finish s.place s.stack = .ok v := by
  rw [finish]
  cases s.phase.finish s.place s.stack with
  | error e => simp
  | ok w => simp

/-- A text that ends with an object ends when the object is complete. -/
theorem complete_of_finish {members : List (Text × Json)}
    (h : s.finish room = .ok (.object members)) :
    s.phase = .after (.object members) ∧ s.stack = [] := by
  rw [finish_eq_ok_iff] at h
  obtain ⟨phase, stack, place⟩ := s
  have ends {v : Json} (h : endAfter place stack v = .ok (.object members)) :
      v = .object members ∧ stack = [] := by
    rw [endAfter] at h
    split at h
    · exact ⟨Except.ok.inj h, by simpa using ‹stack.isEmpty = true›⟩
    · cases h
  cases phase with
  | after v =>
    obtain ⟨rfl, rfl⟩ := ends h
    exact ⟨rfl, rfl⟩
  | numeral n =>
    -- A numeral is complete only at the end of the text, but its value is no object.
    rw [Phase.finish] at h
    split at h
    · obtain ⟨rfl, -⟩ := ends h
      rename_i complete
      unfold Numeral.complete at complete
      grind
    · cases h
  | string role start written escape => cases escape <;> cases h
  | _ => cases h

end State

/-! ## Whole texts -/

theorem head?_ofChars_eq_iff {d : Char} :
    (Text.ofChars text).head? = some (CodePoint.ofChar d) ↔ text.head? = some d := by
  cases text with
  | nil => simp
  | cons c rest =>
    rw [Text.ofChars_cons, List.head?_cons, List.head?_cons, Option.some_inj, Option.some_inj]
    constructor
    · intro same
      have found := congrArg CodePoint.toChar? same
      rwa [CodePoint.toChar?_ofChar, CodePoint.toChar?_ofChar, Option.some_inj] at found
    · rintro rfl
      rfl

theorem read_eq_ok_iff : read room text = .ok v ↔ text.head? ≠ some '\uFEFF' ∧
    ∃ s, State.initial.run room text = .ok s ∧ s.finish room = .ok v := by
  rw [read, readText, State.runText_ofChars]
  by_cases marked : text.head? = some '\uFEFF'
  · rw [if_pos (head?_ofChars_eq_iff.mpr marked)]
    simp [marked]
  · rw [if_neg fun same => marked (head?_ofChars_eq_iff.mp same)]
    cases State.initial.run room text with
    | error e => simp
    | ok s => simp [marked]

/-- No text of JSON ends outside ASCII. -/
theorem read_append_foreign (foreign : 0x80 ≤ c.toNat) : read room (text ++ [c]) ≠ .ok v := by
  intro h
  obtain ⟨-, s, run, finish⟩ := read_eq_ok_iff.mp h
  rw [State.run_append, bind_eq_ok_iff] at run
  obtain ⟨between, before, last⟩ := run
  obtain ⟨s', step, same⟩ := State.run_cons_eq_ok_iff.mp last
  obtain rfl := Except.ok.inj same
  -- The last character would be one of a string that is still open.
  have spells := State.spellsAscii_of_run (s := .initial) trivial before
  obtain ⟨role, start, written, string⟩ :=
    Phase.step_of_foreign foreign spells (State.step_eq_ok_iff.mp step).1
  rw [State.finish_eq_ok_iff, string] at finish
  cases finish

/-- Behind an object there is only white space: whatever a text goes on with, if it is read then as
the same object. -/
theorem read_append_of_object {members : List (Text × Json)}
    (h : read room text = .ok (.object members)) (h' : read room (text ++ rest) = .ok w) :
    (∀ c ∈ rest, isSpace c = true) ∧ w = .object members := by
  obtain ⟨-, s, run, finish⟩ := read_eq_ok_iff.mp h
  obtain ⟨-, s', run', finish'⟩ := read_eq_ok_iff.mp h'
  rw [State.run_append, run] at run'
  obtain ⟨spaces, phase, stack⟩ := State.run_after (State.complete_of_finish finish) run'
  refine ⟨spaces, ?_⟩
  rw [State.finish_eq_ok_iff, phase, stack] at finish'
  exact (Except.ok.inj finish').symm

end Json

end InstanceIdentity
