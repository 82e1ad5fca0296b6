import InstanceIdentity.Json.Reader
import Mathlib.Data.List.Induction

/-!
# Places in refusals

A text that is not JSON is refused for a flaw at a place, for a number of digits, or for nesting.
Where a text holds half of a surrogate pair, that counts as one character.
This file says where the numbers in a refusal come from. The place is the one behind a beginning of
the text, and no more digits are told than the text has characters. So a refusal tells how far the
text was read, and not what is written in it.

## Main definitions

* `Json.Place.behind`, `Json.IsPlaceOf` — the place behind a text, and the places of a text
* `Json.Phase.Recalls` — the places and digits that a phase remembers
* `Json.Error.Recalls` — the places and digits in a refusal

## Main results

* `Json.Place.behind_eq` — lines, columns and offsets as they are counted
* `Json.Phase.Recalls.step` — one character adds its place, and one digit at most
* `Json.recalls_of_readText` — what a text is refused for
-/

namespace InstanceIdentity

namespace Json

variable {text s before : Text} {n room : Nat} {c : Char} {p place : Place} {stack : List Frame}
  {v : Json} {role : Role} {start : Place} {written : Text} {phase : Phase} {numeral : Numeral}
  {flaw : Flaw} {e : Error}

/-! ## Places -/

/-- The place behind a code point. -/
def Place.nextPoint (p : Place) (c : CodePoint) : Place := p.next (c.toChar?.getD State.standIn)

/-- The place behind a text. -/
def Place.behind (s : Text) : Place := s.foldl Place.nextPoint .first

theorem Place.behind_concat (s : Text) (c : CodePoint) :
    behind (s ++ [c]) = (behind s).nextPoint c := by
  rw [behind, List.foldl_append]
  rfl

/-- The line feed. -/
def lineFeed : CodePoint := .ofChar '\n'

/-- Nothing but a line feed is read as one. -/
theorem getD_eq_lineFeed_iff {c : CodePoint} :
    c.toChar?.getD State.standIn = '\n' ↔ c = lineFeed := by
  constructor
  · intro feed
    rw [CodePoint.toChar?] at feed
    split at feed
    · exact absurd feed (by decide)
    · next whole =>
      have valid : c.val.isValidChar := by
        have small := c.isLt
        rw [CodePoint.IsHigh, CodePoint.IsLow] at whole
        rw [Nat.isValidChar]
        omega
      rw [Option.getD_some, Char.ofNat, dif_pos valid] at feed
      exact Fin.ext (congrArg Char.toNat feed)
  · rintro rfl
    rw [lineFeed, CodePoint.toChar?_ofChar, Option.getD_some]

/-- A line begins behind each line feed, and a column is counted from there. -/
theorem Place.behind_eq (s : Text) :
    behind s =
      ⟨s.count lineFeed + 1, (s.reverse.takeWhile (· ≠ lineFeed)).length + 1, s.length⟩ := by
  -- From the end, since the last code point decides whether a line begins.
  induction s using List.reverseRecOn with
  | nil => rfl
  | append_singleton s c ih =>
    rw [behind_concat, ih, nextPoint, next]
    split
    · next feed => simp [getD_eq_lineFeed_iff.mp feed]
    · next other => simp [mt getD_eq_lineFeed_iff.mpr other]

/-- A place of a text is the one behind a beginning of it. -/
def IsPlaceOf (text : Text) (p : Place) : Prop := ∃ before, before <+: text ∧ .behind before = p

/-! ## What is remembered -/

/-- The place that an escape remembers. -/
def Escape.place? : Escape → Option Place
  | .none => .none
  | .begun backslash => some backslash
  | .unicode letter _ _ => some letter

/-- A numeral remembers places of a text, and has so many digits at most. -/
structure Numeral.Recalls (text : Text) (n : Nat) (numeral : Numeral) : Prop where
  start : IsPlaceOf text numeral.start
  opened : IsPlaceOf text numeral.opened
  digits : numeral.wholeDigits ≤ n

/-- All that a phase remembers are places of a text, and so many digits at most. -/
inductive Phase.Recalls (text : Text) (n : Nat) : Phase → Prop
  | value : Recalls text n .value
  | after (v : Json) : Recalls text n (.after v)
  | name (members : List (Text × Json)) : Recalls text n (.name members)
  | colon (members : List (Text × Json)) (key : Text) : Recalls text n (.colon members key)
  | string (role : Role) {start : Place} (written : Text) {escape : Escape}
      (begun : IsPlaceOf text start) (escaped : ∀ p ∈ escape.place?, IsPlaceOf text p) :
      Recalls text n (.string role start written escape)
  | word {start : Place} (rest : List Char) (v : Json) (begun : IsPlaceOf text start) :
      Recalls text n (.word start rest v)
  | numeral {numeral : Numeral} (recalls : numeral.Recalls text n) :
      Recalls text n (.numeral numeral)

/-- A refusal is at a place of a text, or for too many digits, but so many at most, or for
nesting. -/
inductive Error.Recalls (text : Text) (n : Nat) : Error → Prop
  | malformed (flaw : Flaw) {place : Place} (here : IsPlaceOf text place) :
      Recalls text n (.malformed flaw place)
  | tooManyDigits {digits : Nat} (many : greatestDigits < digits) (few : digits ≤ n) :
      Recalls text n (.tooManyDigits digits)
  | tooDeep (container : Container) : Recalls text n (.tooDeep container)
  | noCall (isObject : Bool) : Recalls text n (.noCall isObject)

theorem Error.Recalls.mono {m : Nat} (h : e.Recalls text n) (more : n ≤ m) : e.Recalls text m := by
  cases h with
  | malformed flaw here => exact .malformed flaw here
  | tooManyDigits many few => exact .tooManyDigits many (Nat.le_trans few more)
  | tooDeep container => exact .tooDeep container
  | noCall isObject => exact .noCall isObject

/-- A refusal remembers no more when no calls are left to report it. -/
theorem Error.Recalls.withLeft (h : e.Recalls text n) (left : Nat) :
    (e.withLeft left).Recalls text n := by
  cases h with
  | malformed flaw here =>
    rw [Error.withLeft]
    split
    · exact .noCall _
    · exact .malformed flaw here
  | tooManyDigits many few => exact .tooManyDigits many few
  | tooDeep container => exact .tooDeep container
  | noCall isObject => exact .noCall isObject

/-- What a character leads to: a phase or a refusal that remembers no more. -/
def Recorded (text : Text) (n : Nat) : Except Error Position → Prop
  | .ok (phase, _) => phase.Recalls text n
  | .error e => e.Recalls text n

/-! ## Numerals -/

theorem Numeral.recalls_of_begin? (here : IsPlaceOf text place)
    (h : Numeral.begin? place c = some numeral) : numeral.Recalls text (n + 1) := by
  rw [begin?] at h
  split at h
  · obtain rfl := Option.some.inj h
    exact ⟨here, here, Nat.zero_le _⟩
  split at h
  · obtain rfl := Option.some.inj h
    exact ⟨here, here, Nat.le_add_left _ _⟩
  split at h
  · obtain rfl := Option.some.inj h
    exact ⟨here, here, Nat.le_add_left _ _⟩
  · cases h

/-- A character that extends a numeral leaves its start, and counts as one digit at most. -/
theorem Numeral.fields_of_extend? {extended : Numeral}
    (h : numeral.extend? place c = some extended) :
    extended.start = numeral.start ∧
      (extended.opened = numeral.opened ∨ extended.opened = place) ∧
      extended.wholeDigits ≤ numeral.wholeDigits + 1 := by
  -- Each part has a rule of its own, but none changes the start or counts two digits.
  obtain ⟨start, written, digits, part, integral, opened⟩ := numeral
  cases part <;> unfold extend? at h <;> simp only [Option.or_eq_some_iff] at h
  all_goals grind

theorem Numeral.Recalls.extend? {extended : Numeral} (h : numeral.Recalls text n)
    (here : IsPlaceOf text place) (extended_eq : numeral.extend? place c = some extended) :
    extended.Recalls text (n + 1) := by
  obtain ⟨start, opened, digits⟩ := fields_of_extend? extended_eq
  refine ⟨start ▸ h.start, ?_, Nat.le_trans digits (Nat.succ_le_succ h.digits)⟩
  rcases opened with same | new
  · exact same ▸ h.opened
  · exact new ▸ here

/-- What a numeral is refused for when nothing extends it. -/
theorem Numeral.Recalls.complete (h : numeral.Recalls text n)
    (refused : numeral.complete flaw = .error e) : e.Recalls text n := by
  rw [Numeral.complete] at refused
  split at refused
  · obtain rfl := Except.error.inj refused
    exact .malformed _ h.start
  split at refused
  · next many =>
    obtain rfl := Except.error.inj refused
    exact .tooManyDigits many.2 h.digits
  split at refused
  · obtain rfl := Except.error.inj refused
    exact .malformed _ h.opened
  split at refused
  · cases refused
  · cases refused

/-! ## One character -/

theorem recorded_openContainer (container : Container) (stack : List Frame) :
    Recorded text n (openContainer room container stack) := by
  rw [openContainer.eq_def]
  split
  · exact .tooDeep container
  · cases container with
    | array => exact .value
    | object => exact .name []

theorem recorded_stepValue (here : IsPlaceOf text place) (stack : List Frame) (c : Char) :
    Recorded text (n + 1) (stepValue room place stack c) := by
  have none (p) (h : p ∈ Escape.place? .none) : IsPlaceOf text p := by cases h
  rw [stepValue.eq_def]
  split
  · exact .value
  split
  · exact .string .value [] here none
  split
  · exact recorded_openContainer .object stack
  split
  · exact recorded_openContainer .array stack
  split
  · exact .word _ _ here
  split
  · next numeral begins => exact .numeral (Numeral.recalls_of_begin? here begins)
  split
  · split
    · exact .after _
    · exact .malformed _ here
  · exact .malformed _ here

theorem recorded_stepAfter (here : IsPlaceOf text place) (stack : List Frame) (v : Json)
    (c : Char) : Recorded text n (stepAfter place stack v c) := by
  rw [stepAfter.eq_def]
  split
  · exact .after v
  split
  · exact .malformed _ here
  · split
    · exact .value
    split
    · exact .after _
    · exact .malformed _ here
  · split
    · exact .name _
    split
    · exact .after _
    · exact .malformed _ here

theorem recorded_stepName (here : IsPlaceOf text place) (stack : List Frame)
    (members : List (Text × Json)) (c : Char) :
    Recorded text n (stepName place stack members c) := by
  have none (p) (h : p ∈ Escape.place? .none) : IsPlaceOf text p := by cases h
  rw [stepName]
  split
  · exact .name members
  split
  · exact .string _ [] here none
  split
  · exact .after _
  · exact .malformed _ here

theorem recorded_stepColon (here : IsPlaceOf text place) (stack : List Frame)
    (members : List (Text × Json)) (key : Text) (c : Char) :
    Recorded text n (stepColon place stack members key c) := by
  rw [stepColon]
  split
  · exact .colon members key
  split
  · exact .value
  · exact .malformed _ here

theorem recalls_complete (role : Role) (written : Text) :
    (role.complete written).Recalls text n := by
  induction role generalizing written with
  | value => exact .after _
  | key members => exact .colon _ _
  | more before role ih => exact ih _

theorem recorded_stepString (here : IsPlaceOf text place) (begun : IsPlaceOf text start)
    (stack : List Frame) (role : Role) (written : Text) (c : Char) :
    Recorded text n (stepString place stack role start written c) := by
  rw [stepString.eq_def]
  split
  · exact recalls_complete role written
  split
  · exact .string role written begun (by rintro p ⟨⟩; exact here)
  split
  · exact .malformed _ here
  · exact .string role _ begun (by rintro p ⟨⟩)

theorem recorded_stepEscape {escape : Escape} (here : IsPlaceOf text place)
    (begun : IsPlaceOf text start) (escaped : ∀ p ∈ escape.place?, IsPlaceOf text p)
    (stack : List Frame) (role : Role) (written : Text) (c : Char) :
    Recorded text n (stepEscape place stack role start written escape c) := by
  cases escape with
  | none => exact recorded_stepString here begun stack role written c
  | begun backslash =>
    rw [stepEscape.eq_def]
    dsimp only
    split
    · exact .string role written begun (by rintro p ⟨⟩; exact here)
    split
    · exact .string role _ begun (by rintro p ⟨⟩)
    · exact .malformed _ (escaped backslash rfl)
  | unicode letter digits number =>
    rw [stepEscape.eq_def]
    dsimp only
    split
    · exact recorded_stepString here begun stack role _ c
    split
    · exact .string role written begun (by rintro p ⟨⟩; exact escaped letter rfl)
    · exact .malformed _ (escaped letter rfl)

theorem recorded_completeWord (stack : List Frame) (v : Json) :
    Recorded text n (completeWord room stack v) := by
  rw [completeWord.eq_def]
  split
  · split
    · exact .noCall true
    · exact .after _
  · exact .after v

theorem recorded_stepWord (begun : IsPlaceOf text start) (stack : List Frame) (rest : List Char)
    (v : Json) (c : Char) : Recorded text n (stepWord room stack start rest v c) := by
  rw [stepWord.eq_def]
  split
  · split
    · split
      · exact recorded_completeWord stack v
      · exact .word _ v begun
    · exact .malformed _ begun
  · exact .malformed _ begun

theorem recorded_stepNumeral (here : IsPlaceOf text place) (h : numeral.Recalls text n)
    (stack : List Frame) (c : Char) :
    Recorded text (n + 1) (stepNumeral place stack numeral c) := by
  rw [stepNumeral.eq_def]
  split
  · exact .word _ _ h.start
  split
  · next extended extended_eq => exact .numeral (h.extend? here extended_eq)
  split
  · exact recorded_stepAfter here stack _ c
  · next e refused => exact (h.complete refused).mono (Nat.le_succ n)

/-- One character adds its place to what is remembered, and one digit at most. -/
theorem Phase.Recalls.step (h : phase.Recalls text n) (here : IsPlaceOf text place)
    (room : Nat) (stack : List Frame) (c : Char) :
    Recorded text (n + 1) (phase.step room place stack c) := by
  cases h with
  | value => exact recorded_stepValue here stack c
  | after v => exact recorded_stepAfter here stack v c
  | name members => exact recorded_stepName here stack members c
  | colon members key => exact recorded_stepColon here stack members key c
  | string role written begun escaped =>
    exact recorded_stepEscape here begun escaped stack role written c
  | word rest v begun => exact recorded_stepWord begun stack rest v c
  | numeral recalls => exact recorded_stepNumeral here recalls stack c

/-! ## Whole texts -/

/-- What a text is refused for when it ends in a phase. -/
theorem Phase.Recalls.finish (h : phase.Recalls text n) (here : IsPlaceOf text place)
    (refused : phase.finish place stack = .error e) : e.Recalls text n := by
  have behind {v : Json} (refused : endAfter place stack v = .error e) : e.Recalls text n := by
    rw [endAfter] at refused
    split at refused
    · cases refused
    · obtain rfl := Except.error.inj refused
      exact .malformed _ here
  cases h with
  | value =>
    obtain rfl := Except.error.inj refused
    exact .malformed _ here
  | after v => exact behind refused
  | name members =>
    obtain rfl := Except.error.inj refused
    exact .malformed _ here
  | colon members key =>
    obtain rfl := Except.error.inj refused
    exact .malformed _ here
  | @string role start written escape begun escaped =>
    cases escape with
    | none | begun =>
      obtain rfl := Except.error.inj refused
      exact .malformed _ begun
    | unicode letter digits number =>
      obtain rfl := Except.error.inj refused
      exact .malformed _ (escaped letter rfl)
  | word rest v begun =>
    obtain rfl := Except.error.inj refused
    exact .malformed _ begun
  | numeral recalls =>
    rw [Phase.finish] at refused
    split at refused
    · exact behind refused
    · next e' incomplete =>
      obtain rfl := Except.error.inj refused
      exact recalls.complete incomplete

/-- A state that has read the beginning of a text: it is behind the beginning, and remembers places
of the text. -/
structure State.Recalls (text before : Text) (s : State) : Prop where
  phase : s.phase.Recalls text before.length
  place : s.place = .behind before

/-- What stands last in a string makes no difference to what a state remembers. -/
theorem State.Recalls.withLast {state : State} (h : state.Recalls text before) (c : CodePoint) :
    (state.withLast c).Recalls text before := by
  obtain ⟨phase, place⟩ := h
  rw [State.withLast.eq_def]
  split
  · next role start last written escape string =>
    rw [string] at phase
    cases phase with
    | string _ _ begun escaped => exact ⟨.string _ _ begun escaped, place⟩
  · exact ⟨phase, place⟩

/-- One code point leads to a state behind it, or to a refusal for what has been read. -/
theorem State.Recalls.stepPoint {state : State} (h : state.Recalls text before) (room : Nat)
    {c : CodePoint} (begins : before ++ [c] <+: text) :
    (∀ after, state.stepPoint room c = .ok after → after.Recalls text (before ++ [c])) ∧
      ∀ e, state.stepPoint room c = .error e → e.Recalls text (before.length + 1) := by
  have here : IsPlaceOf text state.place :=
    ⟨before, (List.prefix_append before [c]).trans begins, h.place.symm⟩
  -- A surrogate does what its stand-in does, but for the last code point of the string.
  have read {d : Char} (same : c.toChar?.getD State.standIn = d) :
      (∀ after, state.step room d = .ok after → after.Recalls text (before ++ [c])) ∧
        ∀ e, state.step room d = .error e → e.Recalls text (before.length + 1) := by
    have stepped := h.phase.step here room state.stack d
    rw [State.step]
    cases result : state.phase.step room state.place state.stack d with
    | error e =>
      rw [result] at stepped
      exact ⟨nofun, fun e' refused => Except.error.inj refused ▸ Error.Recalls.withLeft stepped _⟩
    | ok position =>
      obtain ⟨phase, stack⟩ := position
      rw [result] at stepped
      refine ⟨fun after reached => ?_, nofun⟩
      obtain rfl := Except.ok.inj reached
      refine ⟨?_, ?_⟩
      · rw [List.length_append]
        exact stepped
      · rw [Place.behind_concat, ← h.place, Place.nextPoint, same]
  rw [State.stepPoint]
  cases found : c.toChar? with
  | some d => exact read (by rw [found, Option.getD_some])
  | none =>
    obtain ⟨reached, refused⟩ := read (d := State.standIn) (by rw [found, Option.getD_none])
    cases result : state.step room State.standIn with
    | error e => exact ⟨nofun, fun e' same => Except.error.inj same ▸ refused e result⟩
    | ok between =>
      refine ⟨fun after same => ?_, nofun⟩
      obtain rfl := Except.ok.inj same
      exact (reached between result).withLast c

/-- The rest of a text leads to a state behind the text, or to a refusal for what is in it. -/
theorem State.Recalls.runText {state : State} (h : state.Recalls text before) (room : Nat)
    (whole : before ++ s = text) :
    (∀ after, state.runText room s = .ok after → after.Recalls text text) ∧
      ∀ e, state.runText room s = .error e → e.Recalls text text.length := by
  induction s generalizing before state with
  | nil =>
    rw [List.append_nil] at whole
    subst whole
    refine ⟨fun after reached => ?_, fun e refused => ?_⟩
    · obtain rfl := Except.ok.inj reached
      exact h
    · cases refused
  | cons c s ih =>
    -- The state is behind one more beginning of the text, and that leaves room for one more digit.
    have whole' : before ++ [c] ++ s = text := List.append_cons before c s ▸ whole
    obtain ⟨reached, refused⟩ := h.stepPoint room ⟨s, whole'⟩
    rw [State.runText]
    cases result : state.stepPoint room c with
    | error e =>
      have longer : before.length + 1 ≤ text.length := by simp [← whole]
      exact ⟨nofun, fun e' same => Except.error.inj same ▸ (refused e result).mono longer⟩
    | ok between => exact ih (reached between result) whole'

/-- What a text is refused for. -/
theorem recalls_of_readText (h : readText room text = .error e) : e.Recalls text text.length := by
  rw [readText.eq_def] at h
  split at h
  · obtain rfl := Except.error.inj h
    exact .malformed _ ⟨[], List.nil_prefix, rfl⟩
  have begun : State.initial.Recalls text [] := ⟨.value, rfl⟩
  obtain ⟨reached, refused⟩ := begun.runText room (List.nil_append text)
  split at h
  · next state read_all =>
    have whole := reached state read_all
    rw [State.finish] at h
    split at h
    · cases h
    · next e' incomplete =>
      obtain rfl := Except.error.inj h
      have ended := whole.phase.finish ⟨text, List.prefix_rfl, whole.place.symm⟩ incomplete
      exact ended.withLeft _
  · next e' stopped =>
    obtain rfl := Except.error.inj h
    exact refused e' stopped

end Json

end InstanceIdentity
