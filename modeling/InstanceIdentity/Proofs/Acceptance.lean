import InstanceIdentity.Proofs.Grammar

/-!
# The texts that are read

The reader takes no other texts than those of the grammar. What it has read of a text is in its
phase and its stack, and what is left of the text has to make that whole: it goes on with the string
or the numeral that is begun, and closes the arrays and objects that are open, the innermost first.
This is seen of a text from its end, one character at a time.

So a text is read as a value if and only if the grammar writes that value so within the limits.

## Main definitions

* `Json.Closes` — what may be left of a text behind a value
* `Json.Phase.Left` — what may be left of a text in a phase

## Main results

* `Json.Phase.left_of_step` — what is left of a text before a character
* `Json.read_eq_ok_iff_written` — the texts that are read
-/

namespace InstanceIdentity

namespace Json

/-! ## Numerals -/

/-- The numbers that an exponent may follow, and whether they are whole. -/
inductive Mantissa : Bool → List Char → Prop
  | whole {i : Int} {k : Nat} {s : List Char} (whole : WrittenInteger i k s) : Mantissa true s
  | fraction {i : Int} {k : Nat} {s t : List Char} (whole : WrittenInteger i k s)
      (fraction : Fraction t) : Mantissa false (s ++ t)

/-- What has been written of a numeral, by the part that was read last and whether the number is
whole so far. -/
inductive Spelling : Part → Bool → List Char → Prop
  | minus : Spelling .minus true ['-']
  | zero {i : Int} {k : Nat} {s : List Char} (whole : WrittenInteger i k s) : Spelling .zero true s
  | whole {s : List Char} (whole : ∀ t, IsDigits t → ∃ i k, WrittenInteger i k (s ++ t)) :
      Spelling .whole true s
  | point {i : Int} {k : Nat} {s : List Char} (whole : WrittenInteger i k s) :
      Spelling .point true (s ++ ['.'])
  | fraction {i : Int} {k : Nat} {s t : List Char} (whole : WrittenInteger i k s)
      (fraction : Fraction t) : Spelling .fraction false (s ++ t)
  | mark {integral : Bool} {s : List Char} {c : Char} (mantissa : Mantissa integral s)
      (isMark : c = 'e' ∨ c = 'E') : Spelling .mark integral (s ++ [c])
  | sign {integral : Bool} {s : List Char} {c d : Char} (mantissa : Mantissa integral s)
      (isMark : c = 'e' ∨ c = 'E') (isSign : d = '+' ∨ d = '-') :
      Spelling .sign integral (s ++ [c, d])
  | power {integral : Bool} {s t : List Char} (mantissa : Mantissa integral s)
      (exponent : Exponent t) : Spelling .power false (s ++ t)

/-- What has been written of a numeral is as far as its part says. -/
def Numeral.IsSpelled (n : Numeral) : Prop := Spelling n.part n.integral n.written.reverse

/-- What a numeral goes on with up to where nothing extends it, and its value there. -/
inductive Numeral.Ends : Numeral → List Char → Json → Prop
  | here {n : Numeral} {flaw : Flaw} {v : Json} (complete : n.complete flaw = .ok v) : Ends n [] v
  | later {n n' : Numeral} {place : Place} {c : Char} {s : List Char} {v : Json}
      (extended : n.extend? place c = some n') (ends : Ends n' s v) : Ends n (c :: s) v
  | infinity {n : Numeral} (minus : n.part = .minus) :
      Ends n "Infinity".toList (.real "-Infinity")

variable {stack stack' outer : List Frame} {phase phase' : Phase} {place : Place} {c : Char}
  {v w : Json} {s t : List Char} {integral : Bool} {n n' : Numeral}
  {role : Role} {written key : Text} {done : List (Text × Json)} {items : List Json} {room : Nat}

theorem IsDigits.snoc (h : IsDigits s) (digit : c.isDigit = true) : IsDigits (s ++ [c]) :=
  List.forall_mem_append.mpr ⟨h, by simpa using digit⟩

theorem Fraction.snoc (h : Fraction s) (digit : c.isDigit = true) : Fraction (s ++ [c]) := by
  obtain ⟨first, rest⟩ := h
  exact .intro first (rest.snoc digit)

theorem Exponent.snoc (h : Exponent s) (digit : c.isDigit = true) : Exponent (s ++ [c]) := by
  cases h with
  | plain isMark first rest => exact .plain isMark first (rest.snoc digit)
  | signed isMark isSign first rest => exact .signed isMark isSign first (rest.snoc digit)

theorem Mantissa.real (h : Mantissa integral s) (exponent : Exponent t) :
    WrittenReal (s ++ t) := by
  cases h with
  | whole whole => exact .exponent whole exponent
  | fraction whole fraction =>
    rw [List.append_assoc]
    exact .both whole fraction exponent

theorem isDigits_nil : IsDigits [] := by simp [IsDigits]

namespace Numeral

theorem isSpelled_of_begin? (h : begin? place c = some n) : n.IsSpelled ∧ n.written = [c] := by
  rw [begin?] at h
  split at h
  · next minus =>
    obtain rfl := Option.some.inj h
    subst minus
    exact ⟨.minus, rfl⟩
  split at h
  · next zero =>
    obtain rfl := Option.some.inj h
    subst zero
    exact ⟨.zero (.plain .zero), rfl⟩
  split at h
  · next minus nonzero digit =>
    obtain rfl := Option.some.inj h
    exact ⟨.whole fun t more => ⟨_, _, .plain (.digits digit nonzero more)⟩, rfl⟩
  · cases h

/-- A character that extends a numeral, by the parts before and behind it. -/
inductive Grows (c : Char) (b : Bool) : Part → Part → Bool → Prop
  | zero (zero : c = '0') : Grows c b .minus .zero b
  | first (digit : c.isDigit = true) (nonzero : c ≠ '0') : Grows c b .minus .whole b
  | whole (digit : c.isDigit = true) : Grows c b .whole .whole b
  | point {p : Part} (point : c = '.') (before : p = .zero ∨ p = .whole) : Grows c b p .point b
  | fraction {p : Part} (digit : c.isDigit = true) (before : p = .point ∨ p = .fraction) :
      Grows c b p .fraction false
  | mark {p : Part} (isMark : c = 'e' ∨ c = 'E') (before : p = .zero ∨ p = .whole ∨ p = .fraction) :
      Grows c b p .mark b
  | sign (isSign : c = '+' ∨ c = '-') : Grows c b .mark .sign b
  | power {p : Part} (digit : c.isDigit = true) (before : p = .mark ∨ p = .sign ∨ p = .power) :
      Grows c b p .power false

theorem grows_of_extend? (h : n.extend? place c = some n') :
    n'.written = c :: n.written ∧ Grows c n.integral n.part n'.part n'.integral := by
  obtain ⟨start, written, digits, part, integral, opened⟩ := n
  cases part <;> unfold extend? at h <;> simp only [Option.or_eq_some_iff] at h
  all_goals grind [Grows]

/-- The next character of a numeral. -/
theorem spelling_snoc {part part' : Part} {integral' : Bool} (h : Spelling part integral s)
    (grows : Grows c integral part part' integral') : Spelling part' integral' (s ++ [c]) := by
  cases grows with
  | zero zero =>
    cases h
    subst zero
    exact .zero (.minus .zero)
  | first digit nonzero =>
    cases h
    exact .whole fun t more => ⟨_, _, .minus (.digits digit nonzero more)⟩
  | whole digit =>
    cases h with
    | whole whole =>
      refine .whole fun t more => ?_
      rw [List.append_assoc]
      exact whole (c :: t) (List.forall_mem_cons.mpr ⟨digit, more⟩)
  | point point before =>
    subst point
    rcases before with rfl | rfl
    · cases h with
      | zero whole => exact .point whole
    · cases h with
      | whole whole =>
        obtain ⟨i, k, written⟩ := whole [] isDigits_nil
        exact .point (List.append_nil s ▸ written)
  | fraction digit before =>
    rcases before with rfl | rfl
    · cases h with
      | point whole =>
        rw [List.append_assoc]
        exact .fraction whole (.intro digit isDigits_nil)
    · cases h with
      | fraction whole fraction =>
        rw [List.append_assoc]
        exact .fraction whole (fraction.snoc digit)
  | mark isMark before =>
    rcases before with rfl | rfl | rfl
    · cases h with
      | zero whole => exact .mark (.whole whole) isMark
    · cases h with
      | whole whole =>
        obtain ⟨i, k, written⟩ := whole [] isDigits_nil
        exact .mark (.whole (List.append_nil s ▸ written)) isMark
    · cases h with
      | fraction whole fraction => exact .mark (.fraction whole fraction) isMark
  | sign isSign =>
    cases h with
    | mark mantissa isMark =>
      rw [List.append_assoc]
      exact .sign mantissa isMark isSign
  | power digit before =>
    rcases before with rfl | rfl | rfl
    · cases h with
      | mark mantissa isMark =>
        rw [List.append_assoc]
        exact .power mantissa (.plain isMark digit isDigits_nil)
    · cases h with
      | sign mantissa isMark isSign =>
        rw [List.append_assoc]
        exact .power mantissa (.signed isMark isSign digit isDigits_nil)
    · cases h with
      | power mantissa exponent =>
        rw [List.append_assoc]
        exact .power mantissa (exponent.snoc digit)

/-- A character that extends a numeral is the next one of it. -/
theorem IsSpelled.extend? (h : n.IsSpelled) (extended : n.extend? place c = some n') :
    n'.IsSpelled := by
  obtain ⟨written, grows⟩ := grows_of_extend? extended
  rw [IsSpelled, written, List.reverse_cons]
  exact spelling_snoc h grows

theorem value_of_complete {flaw : Flaw} (h : n.complete flaw = .ok v) :
    (n.part ≠ .minus ∧ ¬ n.part.WantsDigit) ∧
      v = if n.integral then .int n.int else .real (String.ofList n.written.reverse) := by
  rw [complete] at h
  split at h
  · cases h
  split at h
  · cases h
  split at h
  · cases h
  refine ⟨⟨‹_›, ‹_›⟩, ?_⟩
  split at h <;> simp_all

/-- The value of a numeral is written as the numeral. -/
theorem IsSpelled.exists_written {flaw : Flaw} (h : n.IsSpelled)
    (complete : n.complete flaw = .ok v) : ∃ x, Written (.value v) x n.written.reverse := by
  obtain ⟨⟨signed, ended⟩, rfl⟩ := value_of_complete complete
  have int {i : Int} {k : Nat} (whole : WrittenInteger i k n.written.reverse) :
      ∃ x, Written (.value (.int n.int)) x n.written.reverse := by
    rw [whole.int_eq (List.reverse_reverse _).symm]
    exact ⟨_, .integer whole⟩
  rw [IsSpelled] at h
  generalize n.part = part, n.integral = integral, n.written.reverse = s at h int signed ended ⊢
  cases h with
  | minus => exact absurd rfl signed
  | zero whole => exact int whole
  | whole whole =>
    obtain ⟨i, k, written⟩ := whole [] isDigits_nil
    exact int (List.append_nil s ▸ written)
  | point => exact absurd (.inl rfl) ended
  | mark => exact absurd (.inr (.inl rfl)) ended
  | sign => exact absurd (.inr (.inr rfl)) ended
  | fraction whole fraction => exact ⟨_, .real (.fraction whole fraction)⟩
  | power mantissa exponent => exact ⟨_, .real (mantissa.real exponent)⟩

/-- A numeral and what it goes on with are a value. -/
theorem Ends.exists_written (h : n.Ends s v) (spelled : n.IsSpelled) :
    ∃ x, Written (.value v) x (n.written.reverse ++ s) := by
  -- What the numeral goes on with is read into it, one character at a time.
  induction h with
  | here complete =>
    rw [List.append_nil]
    exact spelled.exists_written complete
  | later extended ends ih =>
    obtain ⟨x, written⟩ := ih (spelled.extend? extended)
    rw [(grows_of_extend? extended).1, List.reverse_cons, List.append_assoc] at written
    exact ⟨x, written⟩
  | @infinity n minus =>
    rw [IsSpelled, minus] at spelled
    generalize n.integral = integral, n.written.reverse = s at spelled
    cases spelled
    exact ⟨_, .minusInfinity⟩

end Numeral

/-! ## What is left of a text -/

/-- What may be left of a text for a value behind a complete one, in the arrays and objects that are
open. Each of them goes on from the complete value to its end, and is then the complete value in
those around it. -/
inductive Closes (v : Json) : List Frame → Json → List Char → Prop
  | done {s : List Char} (blank : IsBlank s) : Closes v [] v s
  | lastItem {items : List Json} {outer : List Frame} {w : Json} {before s : List Char}
      (blank : IsBlank before) (closes : Closes v outer (.array (items.reverse ++ [w])) s) :
      Closes v (.array items :: outer) w (before ++ ']' :: s)
  | items {items ws : List Json} {outer : List Frame} {w : Json} {x : Extent}
      {before t s : List Char} (blank : IsBlank before) (others : Written (.items ws) x t)
      (closes : Closes v outer (.array (items.reverse ++ w :: ws)) s) :
      Closes v (.array items :: outer) w (before ++ ',' :: (t ++ ']' :: s))
  | lastMember {members : List (Text × Json)} {key : Text} {outer : List Frame} {w : Json}
      {before s : List Char} (blank : IsBlank before)
      (closes : Closes v outer (.object (members.reverse ++ [(key, w)])) s) :
      Closes v (.object members key :: outer) w (before ++ '\x7d' :: s)
  | members {members ms : List (Text × Json)} {key : Text} {outer : List Frame} {w : Json}
      {x : Extent} {before t s : List Char} (blank : IsBlank before)
      (others : Written (.members ms) x t)
      (closes : Closes v outer (.object (members.reverse ++ (key, w) :: ms)) s) :
      Closes v (.object members key :: outer) w (before ++ ',' :: (t ++ '\x7d' :: s))

/-- What may be left where a value is due: the value, or the end of an array that is empty. -/
inductive ValueLeft (v : Json) : List Frame → List Char → Prop
  | value {stack : List Frame} {w : Json} {x : Extent} {before t s : List Char}
      (blank : IsBlank before) (written : Written (.value w) x t) (closes : Closes v stack w s) :
      ValueLeft v stack (before ++ (t ++ s))
  | empty {outer : List Frame} {before s : List Char} (blank : IsBlank before)
      (closes : Closes v outer (.array []) s) :
      ValueLeft v (.array [] :: outer) (before ++ ']' :: s)

/-- What may be left of an array behind some items: more of them, or its end if there are none. -/
inductive ItemsLeft (v : Json) (outer : List Frame) : List Json → List Char → Prop
  | items {items ws : List Json} {x : Extent} {t s : List Char} (others : Written (.items ws) x t)
      (closes : Closes v outer (.array (items.reverse ++ ws)) s) :
      ItemsLeft v outer items (t ++ ']' :: s)
  | empty {before s : List Char} (blank : IsBlank before) (closes : Closes v outer (.array []) s) :
      ItemsLeft v outer [] (before ++ ']' :: s)

/-- What may be left of an object behind some members: more of them, or its end if there are
none. -/
inductive MembersLeft (v : Json) (outer : List Frame) : List (Text × Json) → List Char → Prop
  | members {members ms : List (Text × Json)} {x : Extent} {t s : List Char}
      (others : Written (.members ms) x t)
      (closes : Closes v outer (.object (members.reverse ++ ms)) s) :
      MembersLeft v outer members (t ++ '\x7d' :: s)
  | empty {before s : List Char} (blank : IsBlank before) (closes : Closes v outer (.object []) s) :
      MembersLeft v outer [] (before ++ '\x7d' :: s)

/-- What may be left between a key and its value. -/
inductive ColonLeft (v : Json) (outer : List Frame) (done : List (Text × Json)) (key : Text) :
    List Char → Prop
  | intro {between s : List Char} (blank : IsBlank between)
      (left : ValueLeft v (.object done key :: outer) s) :
      ColonLeft v outer done key (between ++ ':' :: s)

/-- What may be left behind a string, whose code points stand latest first. -/
def Role.Left (v : Json) (stack : List Frame) (written : Text) : Role → List Char → Prop
  | .value, s => Closes v stack (.string written.reverse) s
  | .key done, s => ColonLeft v stack done written.reverse s
  | .more before role, s => role.Left v stack (written ++ before) s

/-- What may be left inside a string in which so much has been written, the latest first. -/
inductive StringLeft (v : Json) (stack : List Frame) (role : Role) (written : Text) :
    List Char → Prop
  | intro {b s : List Char} {t : Text} (denotes : DenotesText b t)
      (left : role.Left v stack (t.foldl (fun text c => Text.snoc c text) written) s) :
      StringLeft v stack role written (b ++ '"' :: s)

/-- The hexadecimal digits that an escape by number goes on with behind some of its four, and the
code point with the number that they complete. -/
inductive Counted : Nat → Nat → List Char → CodePoint → Prop
  | all {number : Nat} : Counted 4 number [] (.ofNat number)
  | digit {digits number : Nat} {c : Char} {d : Fin 16} {s : List Char} {u : CodePoint}
      (few : digits ≠ 4) (value : Text.hexValue? c = some d)
      (rest : Counted (digits + 1) (16 * number + d) s u) : Counted digits number (c :: s) u

/-- What may be left of a text for a value in a phase. -/
def Phase.Left (v : Json) (stack : List Frame) : Phase → List Char → Prop
  | .value, s => ValueLeft v stack s
  | .after w, s => Closes v stack w s
  | .name done, s => MembersLeft v stack done s
  | .colon done key, s => ColonLeft v stack done key s
  | .string role _ written .none, s => StringLeft v stack role written s
  | .string role _ written (.begun _), s => ∃ e u t, s = e ++ t ∧ Denotes ('\\' :: e) u ∧
    StringLeft v stack role (Text.snoc u written) t
  | .string role _ written (.unicode _ digits number), s => ∃ e u t, s = e ++ t ∧
    Counted digits number e u ∧ StringLeft v stack role (Text.snoc u written) t
  | .word _ rest w, s => ∃ t, s = rest ++ t ∧ Closes v stack w t
  | .numeral n, s => ∃ e w t, s = e ++ t ∧ n.Ends e w ∧ Closes v stack w t

/-! ## White space -/

theorem IsBlank.cons (h : IsBlank s) (space : isSpace c = true) : IsBlank (c :: s) :=
  List.forall_mem_cons.mpr ⟨space, h⟩

theorem Written.cons_member {m : Text × Json} {x : Extent} (h : Written (.member m) x s)
    (space : isSpace c = true) : Written (.member m) x (c :: s) := by
  cases h with
  | member blank quoted blank' item => exact .member (blank.cons space) quoted blank' item

theorem Written.cons_members {ms : List (Text × Json)} {x : Extent} (h : Written (.members ms) x s)
    (space : isSpace c = true) : Written (.members ms) x (c :: s) := by
  cases h with
  | lastMember member => exact .lastMember (member.cons_member space)
  | members member others => exact .members (member.cons_member space) others

theorem Closes.cons (h : Closes v stack w s) (space : isSpace c = true) :
    Closes v stack w (c :: s) := by
  cases h with
  | done blank => exact .done (blank.cons space)
  | lastItem blank closes => exact .lastItem (blank.cons space) closes
  | items blank others closes => exact .items (blank.cons space) others closes
  | lastMember blank closes => exact .lastMember (blank.cons space) closes
  | members blank others closes => exact .members (blank.cons space) others closes

theorem ValueLeft.cons (h : ValueLeft v stack s) (space : isSpace c = true) :
    ValueLeft v stack (c :: s) := by
  cases h with
  | value blank written closes => exact .value (blank.cons space) written closes
  | empty blank closes => exact .empty (blank.cons space) closes

theorem MembersLeft.cons (h : MembersLeft v outer done s) (space : isSpace c = true) :
    MembersLeft v outer done (c :: s) := by
  cases h with
  | members others closes => exact .members (others.cons_members space) closes
  | empty blank closes => exact .empty (blank.cons space) closes

theorem ColonLeft.cons (h : ColonLeft v outer done key s) (space : isSpace c = true) :
    ColonLeft v outer done key (c :: s) := by
  obtain ⟨blank, left⟩ := h
  exact .intro (blank.cons space) left

/-! ## Arrays and objects -/

theorem ValueLeft.of_value {x : Extent} (written : Written (.value w) x t)
    (closes : Closes v stack w s) : ValueLeft v stack (t ++ s) :=
  .value isBlank_nil written closes

/-- Where a value is due in an array, items are left. -/
theorem ValueLeft.itemsLeft (h : ValueLeft v (.array items :: outer) s) :
    ItemsLeft v outer items s := by
  cases h with
  | value blank written closes =>
    cases closes with
    | lastItem behind closes =>
      have item := Written.lastItem (.item blank written behind)
      simpa only [List.append_assoc] using ItemsLeft.items item closes
    | items behind others closes =>
      have item := Written.items (.item blank written behind) others
      simpa only [List.append_assoc, List.cons_append] using ItemsLeft.items item closes
  | empty blank closes => exact .empty blank closes

/-- Between a key and its value, members are left from the key on. -/
theorem ColonLeft.membersLeft {name : List Char} (quoted : Quoted key name)
    (h : ColonLeft v outer done key s) : MembersLeft v outer done (name ++ s) := by
  obtain ⟨between, left⟩ := h
  cases left with
  | value blank written closes =>
    cases closes with
    | lastMember behind closes =>
      have member := Written.member isBlank_nil quoted between (.item blank written behind)
      simpa only [List.append_assoc, List.cons_append, List.nil_append] using
        MembersLeft.members (.lastMember member) closes
    | members behind others closes =>
      have member := Written.member isBlank_nil quoted between (.item blank written behind)
      simpa only [List.append_assoc, List.cons_append, List.nil_append] using
        MembersLeft.members (.members member others) closes

/-- An array from its bracket. -/
theorem ItemsLeft.bracket (h : ItemsLeft v stack [] s) : ValueLeft v stack ('[' :: s) := by
  cases h with
  | items others closes =>
    have left := ValueLeft.of_value (.array others) closes
    simpa only [List.append_assoc, List.cons_append, List.nil_append] using left
  | empty blank closes =>
    have left := ValueLeft.of_value (.emptyArray blank) closes
    simpa only [List.append_assoc, List.cons_append, List.nil_append] using left

/-- An object from its brace. -/
theorem MembersLeft.brace (h : MembersLeft v stack [] s) : ValueLeft v stack ('\x7b' :: s) := by
  cases h with
  | members others closes =>
    have left := ValueLeft.of_value (.object others) closes
    simpa only [List.append_assoc, List.cons_append, List.nil_append] using left
  | empty blank closes =>
    have left := ValueLeft.of_value (.emptyObject blank) closes
    simpa only [List.append_assoc, List.cons_append, List.nil_append] using left

/-! ## Strings -/

/-- A character for itself. -/
theorem StringLeft.denotes {u : CodePoint} (h : StringLeft v stack role (Text.snoc u written) s)
    (first : Denotes t u) : StringLeft v stack role written (t ++ s) := by
  obtain ⟨denotes, left⟩ := h
  rw [← List.append_assoc]
  exact .intro (.cons first denotes) left

/-- What is left behind the quote that begins a string, from there on. -/
theorem StringLeft.value (h : StringLeft v stack .value [] s) : ValueLeft v stack ('"' :: s) := by
  obtain ⟨denotes, closes⟩ := h
  have left := ValueLeft.of_value (.string (.intro denotes)) closes
  simpa only [List.append_assoc, List.cons_append, List.nil_append] using left

theorem StringLeft.membersLeft (h : StringLeft v stack (.key done) [] s) :
    MembersLeft v stack done ('"' :: s) := by
  obtain ⟨denotes, left⟩ := h
  have members := ColonLeft.membersLeft (.intro denotes) left
  simpa only [List.append_assoc, List.cons_append, List.nil_append] using members

/-- Four digits behind the letter are an escape by number. -/
theorem Counted.denotes {u : CodePoint} (h : Counted 0 0 s u) : Denotes ('\\' :: 'u' :: s) u := by
  obtain _ | ⟨-, first, h⟩ := h
  obtain _ | ⟨-, second, h⟩ := h
  obtain _ | ⟨-, third, h⟩ := h
  obtain _ | ⟨-, fourth, h⟩ := h
  cases h with
  | all =>
    have escaped := Denotes.number (.intro first second third fourth)
    simpa only [Nat.mul_zero, Nat.zero_add] using escaped
  | digit few => exact absurd rfl few

/-! ## One character -/

/-- What is left where a value is due, from its first character on. -/
theorem valueLeft_of_step (h : stepValue room place stack c = .ok (phase', stack'))
    (left : phase'.Left v stack' s) : ValueLeft v stack (c :: s) := by
  unfold stepValue at h
  split at h
  · next space =>
    obtain ⟨rfl, rfl⟩ := Prod.mk.inj (Except.ok.inj h)
    exact ValueLeft.cons left space
  split at h
  · next quote =>
    obtain ⟨rfl, rfl⟩ := Prod.mk.inj (Except.ok.inj h)
    exact quote ▸ StringLeft.value left
  split at h
  · next brace =>
    rw [openContainer] at h
    split at h
    · cases h
    · obtain ⟨rfl, rfl⟩ := Prod.mk.inj (Except.ok.inj h)
      exact brace ▸ MembersLeft.brace left
  split at h
  · next bracket =>
    rw [openContainer] at h
    split at h
    · cases h
    · obtain ⟨rfl, rfl⟩ := Prod.mk.inj (Except.ok.inj h)
      exact bracket ▸ (ValueLeft.itemsLeft left).bracket
  split at h
  · next spelling w found =>
    obtain ⟨rfl, rfl⟩ := Prod.mk.inj (Except.ok.inj h)
    obtain ⟨rest, rfl, closes⟩ := left
    have head : spelling.head? = some c := by simpa using List.find?_some found
    obtain ⟨letters, rfl⟩ := List.head?_eq_some_iff.mp head
    exact .of_value (.word (List.mem_of_find?_eq_some found)) closes
  split at h
  · next n begins =>
    obtain ⟨rfl, rfl⟩ := Prod.mk.inj (Except.ok.inj h)
    obtain ⟨rest, w, t, rfl, ends, closes⟩ := left
    obtain ⟨spelled, first⟩ := Numeral.isSpelled_of_begin? begins
    obtain ⟨x, written⟩ := ends.exists_written spelled
    rw [first] at written
    exact .of_value written closes
  -- Only an array without items may end where a value is due.
  split at h
  · next outer =>
    split at h
    · next bracket =>
      obtain ⟨rfl, rfl⟩ := Prod.mk.inj (Except.ok.inj h)
      exact bracket ▸ .empty isBlank_nil left
    · cases h
  · cases h

/-- What is left behind a complete value, with a character in front. -/
theorem closes_of_step (h : stepAfter place stack w c = .ok (phase', stack'))
    (left : phase'.Left v stack' s) : Closes v stack w (c :: s) := by
  unfold stepAfter at h
  split at h
  · next space =>
    obtain ⟨rfl, rfl⟩ := Prod.mk.inj (Except.ok.inj h)
    exact Closes.cons left space
  split at h
  · cases h
  · split at h
    · next comma =>
      obtain ⟨rfl, rfl⟩ := Prod.mk.inj (Except.ok.inj h)
      cases ValueLeft.itemsLeft left with
      | items others closes =>
        rw [List.reverse_cons, List.append_assoc] at closes
        exact comma ▸ .items isBlank_nil others closes
    split at h
    · next bracket =>
      obtain ⟨rfl, rfl⟩ := Prod.mk.inj (Except.ok.inj h)
      exact bracket ▸ .lastItem isBlank_nil (List.reverse_cons ▸ left)
    · cases h
  · split at h
    · next comma =>
      obtain ⟨rfl, rfl⟩ := Prod.mk.inj (Except.ok.inj h)
      cases left with
      | members others closes =>
        rw [List.reverse_cons, List.append_assoc] at closes
        exact comma ▸ .members isBlank_nil others closes
    split at h
    · next brace =>
      obtain ⟨rfl, rfl⟩ := Prod.mk.inj (Except.ok.inj h)
      exact brace ▸ .lastMember isBlank_nil (List.reverse_cons ▸ left)
    · cases h

theorem membersLeft_of_step (h : stepName place stack done c = .ok (phase', stack'))
    (left : phase'.Left v stack' s) : MembersLeft v stack done (c :: s) := by
  unfold stepName at h
  split at h
  · next space =>
    obtain ⟨rfl, rfl⟩ := Prod.mk.inj (Except.ok.inj h)
    exact MembersLeft.cons left space
  split at h
  · next quote =>
    obtain ⟨rfl, rfl⟩ := Prod.mk.inj (Except.ok.inj h)
    exact quote ▸ StringLeft.membersLeft left
  split at h
  · next brace =>
    obtain ⟨rfl, rfl⟩ := Prod.mk.inj (Except.ok.inj h)
    obtain ⟨rfl, none⟩ := brace
    obtain rfl := List.isEmpty_iff.mp none
    exact .empty isBlank_nil left
  · cases h

theorem colonLeft_of_step (h : stepColon place stack done key c = .ok (phase', stack'))
    (left : phase'.Left v stack' s) : ColonLeft v stack done key (c :: s) := by
  unfold stepColon at h
  split at h
  · next space =>
    obtain ⟨rfl, rfl⟩ := Prod.mk.inj (Except.ok.inj h)
    exact ColonLeft.cons left space
  split at h
  · next colon =>
    obtain ⟨rfl, rfl⟩ := Prod.mk.inj (Except.ok.inj h)
    exact colon ▸ .intro isBlank_nil left
  · cases h

/-- What is left behind a complete string. -/
theorem Role.left_of_complete (role : Role) {written : Text}
    (left : (role.complete written).Left v stack s) : role.Left v stack written s := by
  induction role generalizing written with
  | value => exact left
  | key done => exact left
  | more before role ih => exact ih left

theorem stringLeft_of_step {start : Place}
    (h : stepString place stack role start written c = .ok (phase', stack'))
    (left : phase'.Left v stack' s) : StringLeft v stack role written (c :: s) := by
  unfold stepString at h
  split at h
  · next quote =>
    obtain ⟨rfl, rfl⟩ := Prod.mk.inj (Except.ok.inj h)
    exact quote ▸ .intro .nil (role.left_of_complete left)
  split at h
  · next backslash =>
    obtain ⟨rfl, rfl⟩ := Prod.mk.inj (Except.ok.inj h)
    obtain ⟨e, u, t, rfl, first, left⟩ := left
    exact backslash ▸ left.denotes first
  split at h
  · cases h
  · next quote backslash visible =>
    obtain ⟨rfl, rfl⟩ := Prod.mk.inj (Except.ok.inj h)
    exact StringLeft.denotes left (.verbatim (Nat.le_of_not_lt visible) ⟨quote, backslash⟩)

/-- A complete word is followed by what follows a value. -/
theorem eq_of_completeWord (h : completeWord room stack w = .ok (phase', stack')) :
    phase' = .after w ∧ stack' = stack := by
  rw [completeWord.eq_def] at h
  split at h
  · split at h
    · cases h
    · obtain ⟨rfl, rfl⟩ := Prod.mk.inj (Except.ok.inj h)
      exact ⟨rfl, rfl⟩
  · obtain ⟨rfl, rfl⟩ := Prod.mk.inj (Except.ok.inj h)
    exact ⟨rfl, rfl⟩

/-- What is left in a phase, from a character on that leads to what is left in another. -/
theorem Phase.left_of_step (h : phase.step room place stack c = .ok (phase', stack'))
    (left : phase'.Left v stack' s) : phase.Left v stack (c :: s) := by
  cases phase with
  | value => exact valueLeft_of_step h left
  | after w => exact closes_of_step h left
  | name done => exact membersLeft_of_step h left
  | colon done key => exact colonLeft_of_step h left
  | string role start written escape =>
    cases escape with
    | none => exact stringLeft_of_step h left
    | begun backslash =>
      rw [step, stepEscape.eq_def] at h
      dsimp only at h
      split at h
      · next letter =>
        obtain ⟨rfl, rfl⟩ := Prod.mk.inj (Except.ok.inj h)
        obtain ⟨e, u, t, rfl, counted, left⟩ := left
        exact ⟨c :: e, u, t, rfl, letter ▸ counted.denotes, left⟩
      split at h
      · next d escaped =>
        obtain ⟨rfl, rfl⟩ := Prod.mk.inj (Except.ok.inj h)
        exact ⟨[c], _, s, rfl, .letter escaped, left⟩
      · cases h
    | unicode letter digits number =>
      -- Four digits are complete before the character, which is already one behind the escape.
      rw [step, stepEscape.eq_def] at h
      dsimp only at h
      by_cases four : digits = 4
      · rw [if_pos four] at h
        exact ⟨[], _, c :: s, rfl, four ▸ .all, stringLeft_of_step h left⟩
      rw [if_neg four] at h
      split at h
      · next d value =>
        obtain ⟨rfl, rfl⟩ := Prod.mk.inj (Except.ok.inj h)
        obtain ⟨e, u, t, rfl, rest, left⟩ := left
        exact ⟨c :: e, u, t, rfl, .digit four value rest, left⟩
      · cases h
  | word start rest w =>
    rw [step, stepWord.eq_def] at h
    split at h
    · next d rest =>
      split at h
      · next same =>
        subst same
        split at h
        · next last =>
          obtain ⟨rfl, rfl⟩ := eq_of_completeWord h
          obtain rfl := List.isEmpty_iff.mp last
          exact ⟨s, rfl, left⟩
        · obtain ⟨rfl, rfl⟩ := Prod.mk.inj (Except.ok.inj h)
          obtain ⟨t, rfl, closes⟩ := left
          exact ⟨t, rfl, closes⟩
      · cases h
    · cases h
  | numeral n =>
    rw [step, stepNumeral] at h
    split at h
    · next infinite =>
      obtain ⟨rfl, rfl⟩ := Prod.mk.inj (Except.ok.inj h)
      obtain ⟨t, rfl, closes⟩ := left
      exact ⟨"Infinity".toList, _, t, by rw [infinite.2]; rfl, .infinity infinite.1, closes⟩
    split at h
    · next n' extended =>
      obtain ⟨rfl, rfl⟩ := Prod.mk.inj (Except.ok.inj h)
      obtain ⟨e, w, t, rfl, ends, closes⟩ := left
      exact ⟨c :: e, w, t, rfl, .later extended ends, closes⟩
    -- What extends nothing belongs to what follows the numeral.
    split at h
    · next w complete =>
      exact ⟨[], w, c :: s, rfl, .here complete, closes_of_step h left⟩
    · cases h

/-- Nothing need be left in a phase that a text may end in. -/
theorem Phase.left_of_finish (h : phase.finish place stack = .ok v) : phase.Left v stack [] := by
  have closes {w : Json} (h : endAfter place stack w = .ok v) : Closes v stack w [] := by
    rw [endAfter] at h
    split at h
    · next closed =>
      obtain rfl := Except.ok.inj h
      exact List.isEmpty_iff.mp closed ▸ .done isBlank_nil
    · cases h
  cases phase with
  | after w => exact closes h
  | numeral n =>
    rw [finish] at h
    split at h
    · next w complete => exact ⟨[], w, [], rfl, .here complete, closes h⟩
    · cases h
  | string role start written escape => cases escape <;> cases h
  | _ => cases h

/-! ## Whole texts -/

theorem State.left_of_run {before after : State} (run : before.run room s = .ok after)
    (finish : after.finish room = .ok v) : before.phase.Left v before.stack s := by
  -- For all states before: the rest of the text begins in the phase that a character leads to.
  induction s generalizing before with
  | nil =>
    obtain rfl := Except.ok.inj run
    exact Phase.left_of_finish (finish_eq_ok_iff.mp finish)
  | cons c s ih =>
    obtain ⟨between, step, run⟩ := run_cons_eq_ok_iff.mp run
    exact Phase.left_of_step (step_eq_ok_iff.mp step).1 (ih run)

/-- A text that is read is one of the grammar. -/
theorem exists_written_of_read (h : read room s = .ok v) : ∃ x, Written (.item v) x s := by
  obtain ⟨-, after, run, finish⟩ := read_eq_ok_iff.mp h
  cases State.left_of_run run finish with
  | value blank written closes =>
    cases closes with
    | done behind => exact ⟨_, .item blank written behind⟩

/-- White space may follow where a text may end. -/
theorem Phase.step_of_finish (h : phase.finish place stack = .ok v) (space : isSpace c = true) :
    phase.step room place stack c = .ok (.after v, stack) := by
  have behind {w : Json} (h : endAfter place stack w = .ok v) :
      stepAfter place stack w c = .ok (.after v, stack) := by
    rw [endAfter] at h
    split at h
    · obtain rfl := Except.ok.inj h
      exact if_pos space
    · cases h
  cases phase with
  | after w => exact behind h
  | numeral n =>
    rw [finish] at h
    split at h
    · next w complete =>
      have ended : n.part.Ends := by
        obtain ⟨⟨signed, ended⟩, -⟩ := Numeral.value_of_complete complete
        generalize n.part = part at signed ended
        cases part <;> simp_all [Part.Ends, Part.WantsDigit]
      rw [Numeral.step_of_closed (.inl space) (Numeral.extend?_of_endsValue ended (.inl space)),
        complete]
      exact behind h
    · cases h
  | string role start written escape => cases escape <;> cases h
  | _ => cases h

/-- A text that is read is within the limits. -/
theorem Written.fits_of_read {x : Extent} (h : Written (.item v) x s)
    (accepted : read room s = .ok v) : x.Fits room 0 := by
  obtain ⟨-, after, run, finish⟩ := read_eq_ok_iff.mp accepted
  by_contra exceeds
  -- A space behind the text would be refused, but it may follow where the text may end.
  obtain ⟨e, -, refused⟩ :=
    h.isRefused [] ' ' (Nat.zero_le _) exceeds (.inl rfl) .initial ⟨rfl, rfl⟩
  rw [State.run_append, run] at refused
  have step : after.step room ' ' = .ok ⟨.after v, after.stack, after.place.next ' '⟩ :=
    State.step_eq_ok_iff.mpr ⟨Phase.step_of_finish (State.finish_eq_ok_iff.mp finish) rfl, rfl⟩
  have run' : after.run room [' '] = .ok _ := State.run_cons_eq_ok_iff.mpr ⟨_, step, rfl⟩
  cases run'.symm.trans refused

/-- The texts that are read as a value are those that the grammar writes for it within the
limits. -/
theorem read_eq_ok_iff_written :
    read room s = .ok v ↔ ∃ x, Written (.item v) x s ∧ x.Fits room 0 := by
  constructor
  · intro accepted
    obtain ⟨x, written⟩ := exists_written_of_read accepted
    exact ⟨x, written, written.fits_of_read accepted⟩
  · rintro ⟨x, written, fits⟩
    exact read_of_fits written fits

end Json

end InstanceIdentity
