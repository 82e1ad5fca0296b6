import InstanceIdentity.Proofs.Pieces
import Mathlib.Tactic.IntervalCases

/-!
# Written numbers

A whole number is a zero or digits that do not begin with one, perhaps behind a minus sign. With a
fraction, an exponent or both it is a real number, of any length. The reader completes a numeral
only when it meets a character behind it, and only then it counts the digits of a whole number. So
behind a numeral the reader may still be in it, and is as good as behind its value: any character
that may follow a value does there what it does behind the value.

## Main definitions

* `Json.WrittenInteger`, `Json.WrittenReal` — the numbers and their ways of writing
* `Json.EndsValue` — the characters that may follow a value
* `Json.Completes`, `Json.Exceeds` — the phases behind a value and behind too many digits

## Main results

* `Json.leads_of_completes`, `Json.halts_of_exceeds` — what follows a value
* `Json.WrittenInteger.completes`, `Json.WrittenInteger.exceeds` — whole numbers are read
* `Json.WrittenReal.completes` — real numbers are read
-/

namespace InstanceIdentity

namespace Json

/-! ## Ways of writing -/

/-- Decimal digits. -/
def IsDigits (s : List Char) : Prop := ∀ c ∈ s, c.isDigit = true

/-- The digits of a whole number: a zero alone, or digits of which the first is none. -/
inductive WholePart : List Char → Prop
  | zero : WholePart ['0']
  | digits {c : Char} {s : List Char} (first : c.isDigit = true) (nonzero : c ≠ '0')
      (rest : IsDigits s) : WholePart (c :: s)

/-- The whole numbers, with the number of their digits. -/
inductive WrittenInteger : Int → Nat → List Char → Prop
  | plain {s : List Char} (whole : WholePart s) : WrittenInteger (natOfDigits s) s.length s
  | minus {s : List Char} (whole : WholePart s) :
      WrittenInteger (-natOfDigits s) s.length ('-' :: s)

/-- A point and digits. -/
inductive Fraction : List Char → Prop
  | intro {c : Char} {s : List Char} (first : c.isDigit = true) (rest : IsDigits s) :
      Fraction ('.' :: c :: s)

/-- An exponent: its mark, perhaps a sign, and digits. -/
inductive Exponent : List Char → Prop
  | plain {mark c : Char} {s : List Char} (isMark : mark = 'e' ∨ mark = 'E')
      (first : c.isDigit = true) (rest : IsDigits s) : Exponent (mark :: c :: s)
  | signed {mark sign c : Char} {s : List Char} (isMark : mark = 'e' ∨ mark = 'E')
      (isSign : sign = '+' ∨ sign = '-') (first : c.isDigit = true) (rest : IsDigits s) :
      Exponent (mark :: sign :: c :: s)

/-- The numbers with a fraction, an exponent or both. -/
inductive WrittenReal : List Char → Prop
  | fraction {i : Int} {k : Nat} {s s' : List Char} (whole : WrittenInteger i k s)
      (fraction : Fraction s') : WrittenReal (s ++ s')
  | exponent {i : Int} {k : Nat} {s s' : List Char} (whole : WrittenInteger i k s)
      (exponent : Exponent s') : WrittenReal (s ++ s')
  | both {i : Int} {k : Nat} {s s' s'' : List Char} (whole : WrittenInteger i k s)
      (fraction : Fraction s') (exponent : Exponent s'') : WrittenReal (s ++ (s' ++ s''))

/-! ## Behind a value -/

/-- The characters that may follow a value. -/
def EndsValue (c : Char) : Prop := isSpace c = true ∨ c = ',' ∨ c = ']' ∨ c = '\x7d'

/-- The phases behind a value: it is complete, or it is a numeral that nothing extends that may
follow a value. -/
inductive Completes (v : Json) : Phase → Prop
  | after : Completes v (.after v)
  | numeral {n : Numeral} (value : ∀ flaw, n.complete flaw = .ok v)
      (closed : ∀ place c, EndsValue c → n.extend? place c = none) : Completes v (.numeral n)

/-- The phases behind a whole number of too many digits. -/
inductive Exceeds (digits : Nat) : Phase → Prop
  | intro {n : Numeral} (excess : ∀ flaw, n.complete flaw = .error (.tooManyDigits digits))
      (closed : ∀ place c, EndsValue c → n.extend? place c = none) : Exceeds digits (.numeral n)

variable {room : Nat} {stack stack' : List Frame} {phase phase' : Phase} {place : Place}
  {c : Char} {v : Json}
  {s s' written : List Char} {k digits : Nat} {i : Int} {part part' : Part} {integral : Bool}

theorem EndsValue.cases (h : EndsValue c) : c ∈ [' ', '\t', '\n', '\r', ',', ']', '\x7d'] := by
  simp only [EndsValue, isSpace, Bool.or_eq_true, decide_eq_true_eq] at h
  simp only [List.mem_cons, List.not_mem_nil, or_false]
  tauto

/-- A character that ends a numeral finds its value, or what is wrong with it. -/
theorem Numeral.step_of_closed {n : Numeral} (ends : EndsValue c)
    (closed : n.extend? place c = none) :
    Phase.step room (.numeral n) place stack c =
      n.complete (leftover stack) >>= fun v => stepAfter place stack v c := by
  have finite : ¬ (n.part = .minus ∧ c = 'I') := by
    rintro ⟨-, rfl⟩
    exact absurd ends.cases (by decide)
  rw [Phase.step, stepNumeral, if_neg finite, closed]
  cases n.complete (leftover stack) <;> rfl

theorem Completes.step_eq (h : Completes v phase) (ends : EndsValue c) :
    phase.step room place stack c = stepAfter place stack v c := by
  cases h with
  | after => rfl
  | numeral value closed =>
    rw [Numeral.step_of_closed ends (closed place c ends), value]
    rfl

/-- What a character does behind a value that it may follow. -/
theorem leads_of_completes (ends : EndsValue c)
    (h : ∀ place, stepAfter place stack v c = .ok (phase', stack')) :
    Leads room (In (Completes v) stack) (At phase' stack') [c] :=
  leads_of_step fun _ complete place => ⟨phase', (complete.step_eq ends).trans (h place), rfl⟩

theorem leads_blank (blank : IsBlank s) :
    Leads room (In (Completes v) stack) (In (Completes v) stack) s := by
  cases s with
  | nil => exact leads_nil _
  | cons c s =>
    obtain ⟨space, rest⟩ := List.forall_mem_cons.mp blank
    have first : Leads room (In (Completes v) stack) (At (.after v) stack) [c] :=
      leads_of_completes (.inl space) fun _ => if_pos space
    exact (first.cons (skipsSpace_after.leads rest)).mono fun _ same => same ▸ .after

/-- Whatever may follow a value finds too many digits. -/
theorem halts_of_exceeds (ends : EndsValue c) : Halts room (In (Exceeds digits) stack) [c] := by
  refine halts_of_step fun phase exceeds place => ?_
  cases exceeds with
  | intro excess closed =>
    refine ⟨_, .tooManyDigits digits, ?_⟩
    rw [Numeral.step_of_closed ends (closed place c ends), excess]
    rfl

/-! ## Numerals in progress -/

/-- The phases in a numeral of which so much has been read, the latest first. -/
def Numbering (written : List Char) (digits : Nat) (part : Part) (integral : Bool)
    (phase : Phase) : Prop :=
  ∃ start opened, phase = .numeral ⟨start, written, digits, part, integral, opened⟩

/-- A character that extends a numeral. -/
theorem leads_extend {digits' : Nat} {integral' : Bool} (finite : part ≠ .minus ∨ c ≠ 'I')
    (h : ∀ start opened place, ∃ opened',
      Numeral.extend? ⟨start, written, digits, part, integral, opened⟩ place c =
        some ⟨start, c :: written, digits', part', integral', opened'⟩) :
    Leads room (In (Numbering written digits part integral) stack)
      (In (Numbering (c :: written) digits' part' integral') stack) [c] := by
  refine leads_of_step ?_
  rintro _ ⟨start, opened, rfl⟩ place
  obtain ⟨opened', extended⟩ := h start opened place
  have finite' : ¬ (part = .minus ∧ c = 'I') := by
    rintro ⟨minus, letter⟩
    exact finite.elim (absurd minus) (absurd letter)
  refine ⟨_, ?_, start, opened', rfl⟩
  rw [Phase.step, stepNumeral, if_neg finite', extended]

theorem leads_wholeDigits (more : IsDigits s) :
    Leads room (In (Numbering written digits .whole true) stack)
      (In (Numbering (s.reverse ++ written) (digits + s.length) .whole true) stack) s := by
  -- The digits that have been written stand latest first, and each one more is counted.
  induction s generalizing written digits with
  | nil => exact leads_nil _
  | cons c s ih =>
    obtain ⟨digit, rest⟩ := List.forall_mem_cons.mp more
    have first : Leads room (In (Numbering written digits .whole true) stack)
        (In (Numbering (c :: written) (digits + 1) .whole true) stack) [c] :=
      leads_extend (.inl (by decide)) fun start opened place =>
        ⟨opened, by simp only [Numeral.extend?, digit, if_true]⟩
    have others := @ih (c :: written) (digits + 1) rest
    rw [List.reverse_cons, List.append_assoc, List.singleton_append, List.length_cons,
      Nat.add_comm s.length, ← Nat.add_assoc]
    exact first.cons others

theorem leads_laterDigits (later : part = .fraction ∨ part = .power) (more : IsDigits s) :
    Leads room (In (Numbering written digits part false) stack)
      (In (Numbering (s.reverse ++ written) digits part false) stack) s := by
  induction s generalizing written with
  | nil => exact leads_nil _
  | cons c s ih =>
    obtain ⟨digit, rest⟩ := List.forall_mem_cons.mp more
    have first : Leads room (In (Numbering written digits part false) stack)
        (In (Numbering (c :: written) digits part false) stack) [c] := by
      rcases later with rfl | rfl <;>
        exact leads_extend (.inl (by decide)) fun start opened place =>
          ⟨opened, by simp [Numeral.extend?, digit]⟩
    rw [List.reverse_cons, List.append_assoc, List.singleton_append]
    exact first.cons (ih rest)

/-! ## Whole numbers -/

/-- The phases behind the digits of a whole number. -/
def Whole (written : List Char) (digits : Nat) (phase : Phase) : Prop :=
  Numbering written digits .zero true phase ∨ Numbering written digits .whole true phase

theorem mem_of_isDigit (h : c.isDigit = true) :
    c ∈ ['0', '1', '2', '3', '4', '5', '6', '7', '8', '9'] := by
  have range : 48 ≤ c.toNat ∧ c.toNat ≤ 57 := by
    simpa [Char.isDigit, UInt32.le_iff_toNat_le] using h
  rw [← Char.ofNat_toNat c]
  generalize c.toNat = n at range
  obtain ⟨low, high⟩ := range
  interval_cases n <;> decide

/-- A minus sign or a digit begins a numeral. -/
theorem stepValue_of_begin? {n : Numeral} (h : Numeral.begin? place c = some n) :
    stepValue room place stack c = .ok (.numeral n, stack) := by
  have begins : c = '-' ∨ c.isDigit = true := by
    by_contra other
    rw [not_or] at other
    have zero : c ≠ '0' := by
      rintro rfl
      exact other.2 rfl
    rw [Numeral.begin?, if_neg other.1, if_neg zero, if_neg other.2] at h
    cases h
  have member : c ∈ ['-', '0', '1', '2', '3', '4', '5', '6', '7', '8', '9'] :=
    begins.elim (fun minus => minus ▸ List.mem_cons_self)
      fun digit => List.mem_cons_of_mem _ (mem_of_isDigit digit)
  simp only [List.mem_cons, List.not_mem_nil, or_false] at member
  rcases member with rfl | rfl | rfl | rfl | rfl | rfl | rfl | rfl | rfl | rfl | rfl <;>
    (obtain rfl := Option.some.inj h; rfl)

/-- Digits of a whole number from where they begin. -/
theorem leads_wholePart {P : State → Prop} (whole : WholePart s)
    (zero : Leads room P (In (Numbering ('0' :: written) 1 .zero true) stack) ['0'])
    (digit : ∀ c, c.isDigit = true → c ≠ '0' →
      Leads room P (In (Numbering (c :: written) 1 .whole true) stack) [c]) :
    Leads room P (In (Whole (s.reverse ++ written) s.length) stack) s := by
  cases whole with
  | zero => exact zero.mono fun _ => .inl
  | @digits c s first nonzero rest =>
    rw [List.reverse_cons, List.append_assoc, List.singleton_append, List.length_cons,
      Nat.add_comm]
    exact ((digit c first nonzero).cons (leads_wholeDigits rest)).mono fun _ => .inr

theorem leads_integer (h : WrittenInteger i k s) :
    Leads room (At .value stack) (In (Whole s.reverse k) stack) s := by
  cases h with
  | plain whole =>
    have zero : Leads room (At .value stack) (In (Numbering ['0'] 1 .zero true) stack) ['0'] :=
      leads_of_step fun _ same place => ⟨_, same ▸ stepValue_of_begin? rfl, place, place, rfl⟩
    have digit (c : Char) (digit : c.isDigit = true) (nonzero : c ≠ '0') :
        Leads room (At .value stack) (In (Numbering [c] 1 .whole true) stack) [c] := by
      have minus : c ≠ '-' := by
        rintro rfl
        cases digit
      refine leads_of_step fun _ same place =>
        ⟨_, same ▸ stepValue_of_begin? ?_, place, place, rfl⟩
      rw [Numeral.begin?, if_neg minus, if_neg nonzero, if_pos digit]
    have led := leads_wholePart whole zero digit
    rwa [List.append_nil] at led
  | minus whole =>
    have sign : Leads room (At .value stack) (In (Numbering ['-'] 0 .minus true) stack) ['-'] :=
      leads_of_step fun _ same place => ⟨_, same ▸ stepValue_of_begin? rfl, place, place, rfl⟩
    have zero : Leads room (In (Numbering ['-'] 0 .minus true) stack)
        (In (Numbering ['0', '-'] 1 .zero true) stack) ['0'] :=
      leads_extend (.inr (by decide)) fun _ opened _ => ⟨opened, rfl⟩
    have digit (c : Char) (digit : c.isDigit = true) (nonzero : c ≠ '0') :
        Leads room (In (Numbering ['-'] 0 .minus true) stack)
          (In (Numbering [c, '-'] 1 .whole true) stack) [c] := by
      refine leads_extend (.inr ?_) fun _ opened _ => ⟨opened, ?_⟩
      · rintro rfl
        cases digit
      · simp only [Numeral.extend?, nonzero, digit, if_true, if_false]
    rw [List.reverse_cons]
    exact sign.cons (leads_wholePart whole zero digit)

/-! ## Real numbers -/

theorem leads_fraction (h : Fraction s) :
    Leads room (In (Whole written digits) stack)
      (In (Numbering (s.reverse ++ written) digits .fraction false) stack) s := by
  obtain ⟨first, rest⟩ := h
  rename_i c s
  have point : Leads room (In (Whole written digits) stack)
      (In (Numbering ('.' :: written) digits .point true) stack) ['.'] :=
    .or (leads_extend (.inl (by decide)) fun _ _ place => ⟨place, rfl⟩)
      (leads_extend (.inl (by decide)) fun _ _ place => ⟨place, rfl⟩)
  have digit : Leads room (In (Numbering ('.' :: written) digits .point true) stack)
      (In (Numbering (c :: '.' :: written) digits .fraction false) stack) [c] :=
    leads_extend (.inl (by decide)) fun _ opened _ =>
      ⟨opened, by simp only [Numeral.extend?, first, if_true]⟩
  have others :=
    @leads_laterDigits room stack s (c :: '.' :: written) digits .fraction (.inl rfl) rest
  rw [List.reverse_cons, List.reverse_cons, List.append_assoc, List.append_assoc,
    List.singleton_append, List.singleton_append]
  exact point.cons (digit.cons others)

theorem leads_mark (isMark : c = 'e' ∨ c = 'E')
    (before : part = .zero ∨ part = .whole ∨ part = .fraction) :
    Leads room (In (Numbering written digits part integral) stack)
      (In (Numbering (c :: written) digits .mark integral) stack) [c] := by
  have finite : part ≠ .minus := by
    rcases before with rfl | rfl | rfl <;> decide
  refine leads_extend (.inl finite) fun _ _ place => ⟨place, ?_⟩
  rcases isMark with rfl | rfl <;> rcases before with rfl | rfl | rfl <;> rfl

theorem leads_exponent (h : Exponent s)
    (before : part = .zero ∨ part = .whole ∨ part = .fraction) :
    Leads room (In (Numbering written digits part integral) stack)
      (In (Numbering (s.reverse ++ written) digits .power false) stack) s := by
  have power {written : List Char} {part : Part} {integral : Bool} {c : Char}
      (due : part = .mark ∨ part = .sign) (digit : c.isDigit = true) :
      Leads room (In (Numbering written digits part integral) stack)
        (In (Numbering (c :: written) digits .power false) stack) [c] := by
    have unsigned : ¬ (c = '+' ∨ c = '-') := by
      rintro (rfl | rfl) <;> cases digit
    rcases due with rfl | rfl
    · exact leads_extend (.inl (by decide)) fun _ opened _ =>
        ⟨opened, by simp only [Numeral.extend?, unsigned, digit, if_true, if_false]⟩
    · exact leads_extend (.inl (by decide)) fun _ opened _ =>
        ⟨opened, by simp only [Numeral.extend?, digit, if_true]⟩
  cases h with
  | @plain mark c s isMark first rest =>
    have others :=
      @leads_laterDigits room stack s (c :: mark :: written) digits .power (.inr rfl) rest
    rw [List.reverse_cons, List.reverse_cons, List.append_assoc, List.append_assoc,
      List.singleton_append, List.singleton_append]
    exact (leads_mark isMark before).cons ((power (.inl rfl) first).cons others)
  | @signed mark sign c s isMark isSign first rest =>
    have signed : Leads room (In (Numbering (mark :: written) digits .mark integral) stack)
        (In (Numbering (sign :: mark :: written) digits .sign integral) stack) [sign] :=
      leads_extend (.inl (by decide)) fun _ opened _ => ⟨opened, if_pos isSign⟩
    have others :=
      @leads_laterDigits room stack s (c :: sign :: mark :: written) digits .power (.inr rfl) rest
    rw [List.reverse_cons, List.reverse_cons, List.reverse_cons, List.append_assoc,
      List.append_assoc, List.append_assoc, List.singleton_append, List.singleton_append,
      List.singleton_append]
    exact (leads_mark isMark before).cons (signed.cons ((power (.inr rfl) first).cons others))

theorem leads_exponent_of_whole (h : Exponent s) :
    Leads room (In (Whole written digits) stack)
      (In (Numbering (s.reverse ++ written) digits .power false) stack) s :=
  .or (leads_exponent h (.inl rfl)) (leads_exponent h (.inr (.inl rfl)))

/-! ## Values -/

/-- The parts that a numeral may end with. -/
def Part.Ends (p : Part) : Prop := p = .zero ∨ p = .whole ∨ p = .fraction ∨ p = .power

theorem Numeral.extend?_of_endsValue {n : Numeral} (part : n.part.Ends) (ends : EndsValue c) :
    n.extend? place c = none := by
  have member := ends.cases
  simp only [List.mem_cons, List.not_mem_nil, or_false] at member
  rcases part with part | part | part | part <;>
    rcases member with rfl | rfl | rfl | rfl | rfl | rfl | rfl <;>
    simp [extend?, part]

/-- What a whole number stands for is told by its characters. -/
theorem WrittenInteger.int_eq (h : WrittenInteger i k s) {n : Numeral}
    (read : n.written = s.reverse) : n.int = i := by
  rw [Numeral.int, read, List.reverse_reverse]
  cases h with
  | minus whole => rfl
  | plain whole =>
    cases whole with
    | zero => rfl
    | digits first nonzero rest =>
      split
      · rename_i minus
        obtain ⟨rfl, -⟩ := List.cons.inj minus
        cases first
      · rfl

/-- A whole number is complete unless it has too many digits. -/
theorem Numeral.complete_of_whole {n : Numeral} (part : n.part = .zero ∨ n.part = .whole)
    (integral : n.integral = true) (flaw : Flaw) :
    n.complete flaw =
      if greatestDigits < n.wholeDigits then .error (.tooManyDigits n.wholeDigits)
      else .ok (.int n.int) := by
  have ended : n.part ≠ .minus ∧ ¬ n.part.WantsDigit := by
    rcases part with part | part <;> rw [part] <;> decide
  rw [complete, if_neg ended.1, if_neg ended.2]
  simp only [integral, true_and, if_true]

/-- A real number is complete, however long it is. -/
theorem Numeral.complete_of_real {n : Numeral} (part : n.part = .fraction ∨ n.part = .power)
    (integral : n.integral = false) (flaw : Flaw) :
    n.complete flaw = .ok (.real (String.ofList n.written.reverse)) := by
  have ended : n.part ≠ .minus ∧ ¬ n.part.WantsDigit := by
    rcases part with part | part <;> rw [part] <;> decide
  have real : ¬ n.integral = true := by simp [integral]
  rw [complete, if_neg ended.1, if_neg fun excess => real excess.1, if_neg ended.2, if_neg real]

theorem Whole.exists_eq (h : Whole written digits phase) : ∃ n : Numeral, phase = .numeral n ∧
    n.written = written ∧ n.wholeDigits = digits ∧ (n.part = .zero ∨ n.part = .whole) ∧
      n.integral = true := by
  rcases h with ⟨start, opened, rfl⟩ | ⟨start, opened, rfl⟩
  · exact ⟨_, rfl, rfl, rfl, .inl rfl, rfl⟩
  · exact ⟨_, rfl, rfl, rfl, .inr rfl, rfl⟩

/-- A whole number is read as itself. -/
theorem WrittenInteger.completes (h : WrittenInteger i k s) (few : k ≤ greatestDigits) :
    Leads room (At .value stack) (In (Completes (.int i)) stack) s := by
  refine (leads_integer h).mono fun phase whole => ?_
  obtain ⟨n, rfl, read, count, part, integral⟩ := whole.exists_eq
  have ends : n.part.Ends := part.imp_right .inl
  refine .numeral (fun flaw => ?_) fun _ _ => Numeral.extend?_of_endsValue ends
  rw [Numeral.complete_of_whole part integral, if_neg (by omega), h.int_eq read]

/-- A whole number of too many digits is read as far as its end. -/
theorem WrittenInteger.exceeds (h : WrittenInteger i k s) (many : greatestDigits < k) :
    Leads room (At .value stack) (In (Exceeds k) stack) s := by
  refine (leads_integer h).mono fun phase whole => ?_
  obtain ⟨n, rfl, read, count, part, integral⟩ := whole.exists_eq
  have ends : n.part.Ends := part.imp_right .inl
  refine .intro (fun flaw => ?_) fun _ _ => Numeral.extend?_of_endsValue ends
  rw [Numeral.complete_of_whole part integral, count, if_pos many]

theorem completes_of_real (part_ends : part = .fraction ∨ part = .power)
    (h : Numbering s.reverse digits part false phase) :
    Completes (.real (String.ofList s)) phase := by
  obtain ⟨start, opened, rfl⟩ := h
  have ends : part.Ends := part_ends.elim (fun fraction => .inr (.inr (.inl fraction)))
    fun power => .inr (.inr (.inr power))
  refine .numeral (fun flaw => ?_) fun _ _ => Numeral.extend?_of_endsValue ends
  rw [Numeral.complete_of_real part_ends rfl, List.reverse_reverse]

/-- A real number is read as it was written. -/
theorem WrittenReal.completes (h : WrittenReal s) :
    Leads room (At .value stack) (In (Completes (.real (String.ofList s))) stack) s := by
  cases h with
  | fraction whole fraction =>
    have led := (@leads_integer room stack _ _ _ whole).append (leads_fraction fraction)
    rw [← List.reverse_append] at led
    exact led.mono fun _ => completes_of_real (.inl rfl)
  | exponent whole exponent =>
    have led := (@leads_integer room stack _ _ _ whole).append (leads_exponent_of_whole exponent)
    rw [← List.reverse_append] at led
    exact led.mono fun _ => completes_of_real (.inr rfl)
  | both whole fraction exponent =>
    have power {written : List Char} {digits : Nat} :=
      (@leads_fraction room stack _ written digits fraction).append
        (leads_exponent exponent (.inr (.inr rfl)))
    have led := (@leads_integer room stack _ _ _ whole).append power
    rw [← List.append_assoc, ← List.reverse_append, ← List.reverse_append] at led
    exact led.mono fun _ => completes_of_real (.inr rfl)

end Json

end InstanceIdentity
