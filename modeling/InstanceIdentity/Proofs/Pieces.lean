import InstanceIdentity.Proofs.Reading
import InstanceIdentity.Proofs.Surrogates

/-!
# Pieces of a text of JSON

A piece of a text leads the reader from some states to others wherever it stands, and pieces that
fit together lead on. It may also take the reader beyond a limit, and then whatever follows makes
no difference. White space leads nowhere. A string is followed through its characters, however they
are written, to the text that it stands for.

## Main definitions

* `Json.Leads`, `Json.Halts` — what a piece of a text does to the reader
* `Json.Quoted` — the strings, with the text that each stands for

## Main results

* `Json.Leads.append`, `Json.Leads.halts` — pieces that fit together
* `Json.leads_value`, `Json.leads_name` — a string as a value and as the key of a member
-/

namespace InstanceIdentity

namespace Json

/-! ## Pieces of a text -/

/-- White space. -/
def IsBlank (s : List Char) : Prop := ∀ c ∈ s, isSpace c = true

theorem isBlank_nil : IsBlank [] := by simp [IsBlank]

/-- A piece of a text leads the reader from states of one kind to states of another. -/
def Leads (room : Nat) (P Q : State → Prop) (s : List Char) : Prop :=
  ∀ before, P before → ∃ after, before.run room s = .ok after ∧ Q after

/-- The states with a phase of some kind and a stack, wherever in the text the reader is. -/
def In (kind : Phase → Prop) (stack : List Frame) (s : State) : Prop :=
  kind s.phase ∧ s.stack = stack

/-- The states with a phase and a stack. -/
def At (phase : Phase) (stack : List Frame) : State → Prop := In (· = phase) stack

variable {room : Nat} {P Q R : State → Prop} {kind kind' : Phase → Prop} {s s' : List Char}
  {c : Char} {phase phase' : Phase} {stack stack' : List Frame} {role : Role} {written t key : Text}
  {n : Nat} {u : CodePoint} {done : List (Text × Json)} {v : Json}

/-- A refusal for going beyond a limit. -/
inductive Error.IsLimit : Error → Prop
  | tooManyDigits (digits : Nat) : IsLimit (.tooManyDigits digits)
  | tooDeep (container : Container) : IsLimit (.tooDeep container)
  | noCall (isObject : Bool) : IsLimit (.noCall isObject)

/-- A limit is reported however many calls are left. -/
theorem Error.IsLimit.withLeft {e : Error} (h : e.IsLimit) (left : Nat) : e.withLeft left = e := by
  cases h <;> rfl

/-- A piece of a text takes the reader beyond a limit from all states of one kind. -/
def Halts (room : Nat) (P : State → Prop) (s : List Char) : Prop :=
  ∀ before, P before → ∃ e, Error.IsLimit e ∧ before.run room s = .error e

theorem leads_nil (P : State → Prop) : Leads room P P [] := fun before h => ⟨before, rfl, h⟩

theorem Leads.append (h : Leads room P Q s) (h' : Leads room Q R s') :
    Leads room P R (s ++ s') := by
  intro before start
  obtain ⟨between, run, middle⟩ := h before start
  obtain ⟨after, run', stop⟩ := h' between middle
  exact ⟨after, by rw [State.run_append, run]; exact run', stop⟩

theorem Leads.cons (h : Leads room P Q [c]) (h' : Leads room Q R s) : Leads room P R (c :: s) :=
  h.append h'

theorem Leads.mono (h : Leads room P (In kind stack) s) (sub : ∀ phase, kind phase → kind' phase) :
    Leads room P (In kind' stack) s := by
  intro before start
  obtain ⟨after, run, phase, same⟩ := h before start
  exact ⟨after, run, sub _ phase, same⟩

/-- From phases of either kind. -/
theorem Leads.or (h : Leads room (In kind stack) Q s) (h' : Leads room (In kind' stack) Q s) :
    Leads room (In (fun phase => kind phase ∨ kind' phase) stack) Q s := by
  rintro before ⟨first | second, same⟩
  · exact h before ⟨first, same⟩
  · exact h' before ⟨second, same⟩

theorem Leads.halts (h : Leads room P Q s) (h' : Halts room Q s') : Halts room P (s ++ s') := by
  intro before start
  obtain ⟨between, run, middle⟩ := h before start
  obtain ⟨e, limit, run'⟩ := h' between middle
  exact ⟨e, limit, by rw [State.run_append, run]; exact run'⟩

theorem Halts.append (h : Halts room P s) (s' : List Char) : Halts room P (s ++ s') := by
  intro before start
  obtain ⟨e, limit, run⟩ := h before start
  exact ⟨e, limit, by rw [State.run_append, run]; rfl⟩

/-- What a character does in phases of some kind, wherever it stands. -/
theorem leads_of_step (h : ∀ phase, kind phase → ∀ place, ∃ phase',
    phase.step room place stack c = .ok (phase', stack') ∧ kind' phase') :
    Leads room (In kind stack) (In kind' stack') [c] := by
  rintro ⟨phase, _, place⟩ ⟨before, rfl⟩
  obtain ⟨phase', step, after⟩ := h phase before place
  refine ⟨⟨phase', stack', place.next c⟩, ?_, after, rfl⟩
  rw [State.run, State.step, step]
  rfl

theorem leads_of_step_eq (h : ∀ place, phase.step room place stack c = .ok (phase', stack')) :
    Leads room (At phase stack) (At phase' stack') [c] :=
  leads_of_step fun _ same place => ⟨phase', same ▸ h place, rfl⟩

theorem halts_of_step (h : ∀ phase, kind phase → ∀ place, ∃ e, Error.IsLimit e ∧
    phase.step room place stack c = .error e) : Halts room (In kind stack) [c] := by
  rintro ⟨phase, _, place⟩ ⟨before, rfl⟩
  obtain ⟨e, limit, step⟩ := h phase before place
  refine ⟨e, limit, ?_⟩
  rw [State.run, State.step, step]
  exact congrArg Except.error (limit.withLeft _)

/-- A phase that white space does nothing in. -/
def Phase.SkipsSpace (phase : Phase) : Prop :=
  ∀ room place stack c, isSpace c = true → phase.step room place stack c = .ok (phase, stack)

theorem skipsSpace_value : Phase.SkipsSpace .value := fun _ _ _ _ space => if_pos space

theorem skipsSpace_after : Phase.SkipsSpace (.after v) := fun _ _ _ _ space => if_pos space

theorem skipsSpace_name : Phase.SkipsSpace (.name done) := fun _ _ _ _ space => if_pos space

theorem skipsSpace_colon : Phase.SkipsSpace (.colon done key) := fun _ _ _ _ space => if_pos space

theorem Phase.SkipsSpace.leads (h : phase.SkipsSpace) (blank : IsBlank s) :
    Leads room (At phase stack) (At phase stack) s := by
  induction s with
  | nil => exact leads_nil _
  | cons c s ih =>
    obtain ⟨space, rest⟩ := List.forall_mem_cons.mp blank
    exact (leads_of_step_eq fun place => h room place stack c space).cons (ih rest)

/-! ## Strings -/

/-- An escape by number: four hexadecimal digits in either case. -/
inductive Escaped : Nat → List Char → Prop
  | intro {a b c d : Char} {p q r s : Fin 16} (first : Text.hexValue? a = some p)
      (second : Text.hexValue? b = some q) (third : Text.hexValue? c = some r)
      (fourth : Text.hexValue? d = some s) :
      Escaped (16 * (16 * (16 * p + q) + r) + s) ['\\', 'u', a, b, c, d]

/-- What code points stand between quotes for: a character that is no control character for itself,
a letter behind a backslash, and a number. -/
inductive Denotes : List Char → CodePoint → Prop
  | verbatim {c : Char} (visible : 0x20 ≤ c.toNat) (plain : c ≠ '"' ∧ c ≠ '\\') :
      Denotes [c] (.ofChar c)
  | letter {c d : Char} (escaped : escaped? c = some d) : Denotes ['\\', c] (.ofChar d)
  | number {n : Nat} {s : List Char} (escaped : Escaped n s) : Denotes s (.ofNat n)

/-- What stands between quotes, code point by code point. -/
inductive DenotesText : List Char → Text → Prop
  | nil : DenotesText [] []
  | cons {c : CodePoint} {t : Text} {s s' : List Char} (first : Denotes s c)
      (rest : DenotesText s' t) : DenotesText (s ++ s') (c :: t)

/-- The strings, with the text that each stands for. The halves of a surrogate pair are joined. -/
inductive Quoted : Text → List Char → Prop
  | intro {t : Text} {s : List Char} (denotes : DenotesText s t) :
      Quoted (Text.joined t) ('"' :: (s ++ ['"']))

/-- The phases inside a string in which so much of it has been written, the latest first. An escape
by number is complete only when one more character follows it. -/
inductive Inside (role : Role) (written : Text) : Phase → Prop
  | settled (start : Place) : Inside role written (.string role start written .none)
  | due (start letter : Place) {number : Nat} {earlier : Text}
      (pending : Text.snoc (.ofNat number) earlier = written) :
      Inside role written (.string role start earlier (.unicode letter 4 number))

/-- The phases inside a string behind a backslash. -/
def Begun (role : Role) (written : Text) (phase : Phase) : Prop :=
  ∃ start place, phase = .string role start written (.begun place)

/-- The phases inside a string behind some digits of an escape by number. -/
def Counting (role : Role) (written : Text) (digits number : Nat) (phase : Phase) : Prop :=
  ∃ start letter, phase = .string role start written (.unicode letter digits number)

/-- Inside a string, the next character comes behind what has been written. -/
theorem Inside.exists_step_eq (h : Inside role written phase) : ∃ start, ∀ room place c,
    phase.step room place stack c = stepString place stack role start written c := by
  cases h with
  | settled start => exact ⟨start, fun _ _ _ => rfl⟩
  | due start letter pending =>
    rw [← pending]
    exact ⟨start, fun _ _ _ => rfl⟩

/-- What a character does inside a string. -/
theorem leads_of_stepString (h : ∀ start place, ∃ phase',
    stepString place stack role start written c = .ok (phase', stack') ∧ kind phase') :
    Leads room (In (Inside role written) stack) (In kind stack') [c] := by
  refine leads_of_step fun phase inside place => ?_
  obtain ⟨start, step⟩ := inside.exists_step_eq
  rw [step]
  exact h start place

theorem leads_verbatim (printable : 0x20 ≤ c.toNat) (plain : c ≠ '"' ∧ c ≠ '\\') :
    Leads room (In (Inside role written) stack)
      (In (Inside role (Text.snoc (.ofChar c) written)) stack) [c] := by
  refine leads_of_stepString fun start place => ⟨_, ?_, .settled start⟩
  rw [stepString.eq_def, if_neg plain.1, if_neg plain.2, if_neg (by omega)]

theorem leads_backslash :
    Leads room (In (Inside role written) stack) (In (Begun role written) stack) ['\\'] :=
  leads_of_stepString fun start place => ⟨_, rfl, start, place, rfl⟩

/-- A character behind a backslash stands for another one. -/
theorem leads_escape {d : Char} (escaped : escaped? c = some d) (letter : c ≠ 'u') :
    Leads room (In (Begun role written) stack)
      (In (Inside role (Text.snoc (.ofChar d) written)) stack) [c] := by
  refine leads_of_step ?_
  rintro _ ⟨start, backslash, rfl⟩ place
  refine ⟨_, ?_, .settled start⟩
  rw [Phase.step, stepEscape.eq_def]
  dsimp only
  rw [if_neg letter, escaped]

theorem leads_letter :
    Leads room (In (Begun role written) stack) (In (Counting role written 0 0) stack) ['u'] := by
  refine leads_of_step ?_
  rintro _ ⟨start, backslash, rfl⟩ place
  exact ⟨_, rfl, start, place, rfl⟩

theorem leads_digit {digits number : Nat} {value : Fin 16} (digit : Text.hexValue? c = some value)
    (more : digits ≠ 4) :
    Leads room (In (Counting role written digits number) stack)
      (In (Counting role written (digits + 1) (16 * number + value)) stack) [c] := by
  refine leads_of_step ?_
  rintro _ ⟨start, letter, rfl⟩ place
  refine ⟨_, ?_, start, letter, rfl⟩
  rw [Phase.step, stepEscape.eq_def]
  dsimp only
  rw [if_neg more, digit]

/-- Four digits are complete, whatever follows them. -/
theorem leads_counted :
    Leads room (In (Counting role written 4 n) stack)
      (In (Inside role (Text.snoc (.ofNat n) written)) stack) [] := by
  rintro before ⟨⟨start, letter, phase⟩, rest⟩
  refine ⟨before, rfl, ?_, rest⟩
  rw [phase]
  exact .due start letter rfl

/-- An escape by number stands for the code point with that number. -/
theorem leads_escaped (h : Escaped n s) :
    Leads room (In (Inside role written) stack)
      (In (Inside role (Text.snoc (.ofNat n) written)) stack) s := by
  cases h with
  | @intro a b c d p q r s first second third fourth =>
    have one : Leads room (In (Counting role written 0 0) stack)
        (In (Counting role written 1 p) stack) [a] := by
      have counted := @leads_digit room a stack role written 0 0 p first (by decide)
      simpa only [Nat.mul_zero, Nat.zero_add] using counted
    exact leads_backslash.cons (leads_letter.cons (one.cons
      ((leads_digit second (by decide)).cons ((leads_digit third (by decide)).cons
        ((leads_digit fourth (by decide)).cons leads_counted)))))

/-- However a code point is written, it comes behind what has been written of a string. -/
theorem leads_denotes (h : Denotes s u) :
    Leads room (In (Inside role written) stack)
      (In (Inside role (Text.snoc u written)) stack) s := by
  cases h with
  | verbatim visible plain => exact leads_verbatim visible plain
  | letter escaped =>
    refine leads_backslash.cons (leads_escape escaped ?_)
    rintro rfl
    cases escaped
  | number escaped => exact leads_escaped escaped

/-- A string is read as its text, with the halves of pairs joined. -/
theorem leads_denotesText (h : DenotesText s t) :
    Leads room (In (Inside role written) stack)
      (In (Inside role (t.foldl (fun written c => Text.snoc c written) written)) stack) s := by
  -- The halves of a pair join in what has been written, which stands latest first.
  induction h generalizing written with
  | nil => exact leads_nil _
  | cons first rest ih => exact (leads_denotes first).append ih

theorem leads_value (h : Quoted t s) :
    Leads room (At .value stack) (At (.after (.string t)) stack) s := by
  obtain ⟨denotes⟩ := h
  have opens : Leads room (At .value stack) (In (Inside .value []) stack) ['"'] :=
    leads_of_step fun _ same place => ⟨_, same ▸ rfl, .settled place⟩
  have closes {written : Text} : Leads room (In (Inside .value written) stack)
      (At (.after (.string written.reverse)) stack) ['"'] :=
    leads_of_stepString fun _ _ => ⟨_, rfl, rfl⟩
  exact opens.cons ((leads_denotesText denotes).append closes)

theorem leads_name (h : Quoted t s) :
    Leads room (At (.name done) stack) (At (.colon done t) stack) s := by
  obtain ⟨denotes⟩ := h
  have opens : Leads room (At (.name done) stack) (In (Inside (.key done) []) stack) ['"'] :=
    leads_of_step fun _ same place => ⟨_, same ▸ rfl, .settled place⟩
  have closes {written : Text} : Leads room (In (Inside (.key done) written) stack)
      (At (.colon done written.reverse) stack) ['"'] :=
    leads_of_stepString fun _ _ => ⟨_, rfl, rfl⟩
  exact opens.cons ((leads_denotesText denotes).append closes)

end Json

end InstanceIdentity
