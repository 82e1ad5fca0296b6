import InstanceIdentity.Text.Quoted
import InstanceIdentity.Proofs.Delimiters
import InstanceIdentity.Proofs.Writing
import Mathlib.Data.List.Chain

/-!
# Reading quoted text

What stands between two marks can be read again, one code point after the other. A backslash says
that what follows is not the code point itself, the letter behind it says how many digits follow,
and nothing else begins with a backslash. The mark in use is never met without a backslash in front,
so it ends the text. Two texts are therefore told apart by their written forms, even where more is
written behind them, and, where a bracket or the like stands in front of them, even if what is
written before that is not known.

Nothing that does not show gets into a written form.

## Main definitions

* `Text.IsMark` — the two marks
* `Text.unescape?` — reads one code point from between two marks
* `Text.Announces` — what stands behind a backslash for another code point

## Main results

* `Text.unescape?_escape` — what is escaped is read as it was
* `Text.quoted_append_inj` — where a written form begins, the text and the rest are known
* `Text.append_cons_quoted_inj` — where a written form ends, the text and the front are known
* `Text.isPrintable_of_mem_quoted` — every code point of a written form shows
-/

namespace InstanceIdentity

namespace Text

variable {mark c c' p q : CodePoint} {t t' front front' between rest rest' : Text} {width n : Nat}

/-- The marks that texts are quoted with. -/
inductive IsMark : CodePoint → Prop
  | single : IsMark (.ofChar '\x27')
  | double : IsMark (.ofChar '\x22')

theorem isMark_quoteMark (t : Text) : IsMark (quoteMark t) := by
  rw [quoteMark]
  split
  · exact .double
  · exact .single

/-! ## Escapes -/

/-- Reads digits in hexadecimal, so many as are asked for, behind those of a number. -/
def readDigits? : Nat → Nat → Text → Option (Nat × Text)
  | 0, n, rest => some (n, rest)
  | _ + 1, _, [] => none
  | width + 1, n, p :: rest =>
    match p.toChar?.bind hexValue? with
    | none => none
    | some digit => readDigits? width (16 * n + digit.val) rest

/-- Reads the number of a code point. -/
def readNumber? (width : Nat) (t : Text) : Option (CodePoint × Text) :=
  match readDigits? width 0 t with
  | none => none
  | some (n, rest) => if h : n < 0x110000 then some (⟨n, h⟩, rest) else none

/-- Reads what a letter behind a backslash announces. -/
def readAnnounced? (letter : CodePoint) (rest : Text) : Option (CodePoint × Text) :=
  match letter.toChar? with
  | some 't' => some (.ofChar '\t', rest)
  | some 'n' => some (.ofChar '\n', rest)
  | some 'r' => some (.ofChar '\r', rest)
  | some 'x' => readNumber? 2 rest
  | some 'u' => readNumber? 4 rest
  | some 'U' => readNumber? 8 rest
  | _ => some (letter, rest)

/-- Reads one code point from between two marks, and gives it with what is behind it. -/
def unescape? : Text → Option (CodePoint × Text)
  | [] => none
  | p :: rest =>
    if p = .ofChar '\\' then
      match rest with
      | [] => none
      | letter :: rest => readAnnounced? letter rest
    else some (p, rest)

theorem toChar?_hexDigit (h : n < 16) :
    (CodePoint.ofChar (hexDigit n)).toChar? = some (hexDigit n) := by
  have all : ∀ n < 16, (CodePoint.ofChar (hexDigit n)).toChar? = some (hexDigit n) := by decide
  exact all n h

theorem readDigits?_cons_hexDigit (h : n < 16) (before : Nat) :
    readDigits? (width + 1) before (CodePoint.ofChar (hexDigit n) :: rest) =
      readDigits? width (16 * before + n) rest := by
  rw [readDigits?, toChar?_hexDigit h, Option.bind_some, Json.hexValue?_hexDigit ⟨n, h⟩]

/-- The digits of a number are read from the first on, but written from the last on. So there may be
more to read behind them. -/
theorem readDigits?_hex (width further n before : Nat) (rest : Text) :
    readDigits? (width + further) before (ofChars (hex width n) ++ rest) =
      readDigits? further (before * Nat.pow 16 width + n % Nat.pow 16 width) rest := by
  induction width generalizing further n rest with
  | zero =>
    have number : before * 1 + n % 1 = before := by omega
    rw [Nat.zero_add]
    exact congrArg (fun m => readDigits? further m rest) number.symm
  | succ width ih =>
    have last : n % 16 < 16 := Nat.mod_lt n (by decide)
    have power : Nat.pow 16 (width + 1) = 16 * Nat.pow 16 width := Nat.pow_succ'
    have number : 16 * (before * Nat.pow 16 width + n / 16 % Nat.pow 16 width) + n % 16 =
        before * Nat.pow 16 (width + 1) + n % Nat.pow 16 (width + 1) := by
      rw [power, Nat.mod_mul, Nat.mul_left_comm]
      omega
    rw [hex, ofChars, List.map_append, List.append_assoc, Nat.add_assoc, Nat.add_comm 1 further]
    rw [← ofChars, ih, List.map_singleton, List.singleton_append, readDigits?_cons_hexDigit last,
      number]

theorem readNumber?_hex (width : Nat) (narrow : c.val < Nat.pow 16 width) :
    readNumber? width (ofChars (hex width c.val) ++ rest) = some (c, rest) := by
  have digits := readDigits?_hex width 0 c.val 0 rest
  rw [Nat.add_zero, Nat.zero_mul, Nat.zero_add, Nat.mod_eq_of_lt narrow, readDigits?] at digits
  rw [readNumber?, digits]
  exact dif_pos c.isLt

/-- What stands behind a backslash for a code point that neither shows nor is escaped by itself. -/
inductive Announces (c : CodePoint) : List Char → Prop
  | tab (same : c = .ofChar '\t') : Announces c ['t']
  | feed (same : c = .ofChar '\n') : Announces c ['n']
  | carriage (same : c = .ofChar '\r') : Announces c ['r']
  | narrow (bound : c.val < 0x100) : Announces c ('x' :: hex 2 c.val)
  | wide (bound : c.val < 0x10000) : Announces c ('u' :: hex 4 c.val)
  | widest : Announces c ('U' :: hex 8 c.val)

theorem announces_escapeByNumber (c : CodePoint) :
    ∃ s, Announces c s ∧ ofChars (escapeByNumber c) = CodePoint.ofChar '\\' :: ofChars s := by
  rw [escapeByNumber]
  split
  · next bound => exact ⟨_, .narrow bound, rfl⟩
  split
  · next bound => exact ⟨_, .wide bound, rfl⟩
  · exact ⟨_, .widest, rfl⟩

/-- A code point is escaped by itself, or it is shown, or it is announced. -/
theorem escape_cases (mark c : CodePoint) :
    (c = mark ∨ c = .ofChar '\\') ∧ escape mark c = [CodePoint.ofChar '\\', c] ∨
      ¬ (c = mark ∨ c = .ofChar '\\') ∧ c.isPrintable = true ∧ escape mark c = [c] ∨
      ∃ s, Announces c s ∧ escape mark c = CodePoint.ofChar '\\' :: ofChars s := by
  rw [escape]
  split
  · next special => exact .inl ⟨special, rfl⟩
  next special =>
  split
  · next same => exact .inr (.inr ⟨_, .tab same, rfl⟩)
  split
  · next same => exact .inr (.inr ⟨_, .feed same, rfl⟩)
  split
  · next same => exact .inr (.inr ⟨_, .carriage same, rfl⟩)
  split
  · next printable => exact .inr (.inl ⟨special, printable, rfl⟩)
  · exact .inr (.inr (announces_escapeByNumber c))

theorem Announces.isAlphanum {s : List Char} (h : Announces c s) :
    ∀ d ∈ s, d.isAlphanum = true := by
  have digits (width : Nat) : ∀ d ∈ hex width c.val, d.isAlphanum = true :=
    fun _ => Url.isAlphanum_of_mem_hex
  cases h with
  | tab | feed | carriage => exact List.forall_mem_singleton.mpr (by decide)
  | narrow | wide | widest => exact List.forall_mem_cons.mpr ⟨by decide, digits _⟩

/-- What is announced is read. -/
theorem Announces.unescape? {s : List Char} (h : Announces c s) (rest : Text) :
    Text.unescape? (CodePoint.ofChar '\\' :: ofChars s ++ rest) = some (c, rest) := by
  cases h with
  | tab same | feed same | carriage same => rw [same]; rfl
  | narrow bound => exact readNumber?_hex 2 bound
  | wide bound => exact readNumber?_hex 4 bound
  | widest => exact readNumber?_hex 8 (c.isLt.trans (by decide))

/-- What is escaped is read as it was. -/
theorem unescape?_escape (h : IsMark mark) (c : CodePoint) (rest : Text) :
    unescape? (escape mark c ++ rest) = some (c, rest) := by
  rcases escape_cases mark c with ⟨special, same⟩ | ⟨special, -, same⟩ | ⟨s, announced, same⟩
  · rw [same]
    -- None of the three characters that are escaped by themselves is a letter.
    rcases special with rfl | rfl
    · cases h <;> rfl
    · rfl
  · rw [same]
    exact if_neg (not_or.mp special).2
  · rw [same]
    exact announced.unescape? rest

theorem escape_append_inj (h : IsMark mark)
    (same : escape mark c ++ rest = escape mark c' ++ rest') : c = c' ∧ rest = rest' := by
  have read := congrArg unescape? same
  rw [unescape?_escape h, unescape?_escape h] at read
  exact Prod.mk.inj (Option.some.inj read)

/-! ## Quoted texts and what is behind them -/

theorem IsMark.ne_backslash (h : IsMark mark) : mark ≠ .ofChar '\\' := by
  cases h <;> decide

/-- Neither letters nor digits are marks. -/
theorem Announces.ne_mark {s : List Char} (announced : Announces c s) (h : IsMark mark)
    (member : p ∈ ofChars s) : p ≠ mark := by
  rintro rfl
  obtain ⟨d, inside, same⟩ := List.mem_map.mp member
  have range := Url.isAlphanum_iff.mp (announced.isAlphanum d inside)
  have number : d.toNat = p.val := by rw [← same, CodePoint.val_ofChar]
  cases h with
  | single =>
    have : d.toNat = 0x27 := number
    omega
  | double =>
    have : d.toNat = 0x22 := number
    omega

theorem exists_escape_eq_cons (h : IsMark mark) (c : CodePoint) :
    ∃ p rest, escape mark c = p :: rest ∧ p ≠ mark := by
  rcases escape_cases mark c with ⟨-, same⟩ | ⟨special, -, same⟩ | ⟨s, -, same⟩
  · exact ⟨_, _, same, h.ne_backslash.symm⟩
  · exact ⟨_, _, same, (not_or.mp special).1⟩
  · exact ⟨_, _, same, h.ne_backslash.symm⟩

theorem flatMap_escape_append_inj (h : IsMark mark)
    (same : t.flatMap (escape mark) ++ mark :: rest = t'.flatMap (escape mark) ++ mark :: rest') :
    t = t' ∧ rest = rest' := by
  -- A text that is longer goes on with an escape where the other one ends with the mark.
  have longer {c : CodePoint} {t rest rest' : Text} :
      mark :: rest ≠ (c :: t).flatMap (escape mark) ++ rest' := by
    intro same
    obtain ⟨p, s, begins, other⟩ := exists_escape_eq_cons h c
    rw [List.flatMap_cons, begins, List.cons_append, List.cons_append] at same
    exact other (List.cons.inj same).1.symm
  induction t generalizing t' with
  | nil =>
    cases t' with
    | nil => exact ⟨rfl, (List.cons.inj same).2⟩
    | cons c' t' => exact absurd same longer
  | cons c t ih =>
    cases t' with
    | nil => exact absurd same.symm longer
    | cons c' t' =>
      rw [List.flatMap_cons, List.flatMap_cons, List.append_assoc, List.append_assoc] at same
      obtain ⟨rfl, later⟩ := escape_append_inj h same
      obtain ⟨rfl, rfl⟩ := ih later
      exact ⟨rfl, rfl⟩

/-- Where a written form begins, the text and what is written behind it are known. -/
theorem quoted_append_inj : t.quoted ++ rest = t'.quoted ++ rest' ↔ t = t' ∧ rest = rest' := by
  constructor
  · intro same
    simp only [quoted, List.cons_append, List.append_assoc, List.nil_append] at same
    -- The mark comes first, so that both are escaped with the same one.
    obtain ⟨mark, inner⟩ := List.cons.inj same
    rw [← mark] at inner
    exact flatMap_escape_append_inj (isMark_quoteMark t) inner
  · rintro ⟨rfl, rfl⟩
    rfl

theorem quoted_inj : t.quoted = t'.quoted ↔ t = t' := by
  have alone : t.quoted ++ [] = t'.quoted ++ [] ↔ t = t' ∧ ([] : Text) = [] := quoted_append_inj
  simpa using alone

/-! ## Quoted texts and what is in front of them -/

/-- Between the marks, the mark stands behind a backslash only. -/
theorem isChain_escape (h : IsMark mark) (c : CodePoint) :
    (escape mark c).IsChain fun p q => q = mark → p = .ofChar '\\' := by
  rcases escape_cases mark c with ⟨-, same⟩ | ⟨-, -, same⟩ | ⟨s, announced, same⟩
  · rw [same]
    exact List.isChain_pair.mpr fun _ => rfl
  · rw [same]
    exact List.isChain_singleton c
  · rw [same]
    -- There is no mark at all.
    refine (List.pairwise_of_forall_mem_list fun _ _ q member marked => ?_).isChain
    rcases List.mem_cons.mp member with rfl | member
    · exact absurd marked h.ne_backslash.symm
    · exact absurd marked (announced.ne_mark h member)

theorem isChain_flatMap_escape (h : IsMark mark) (t : Text) :
    (t.flatMap (escape mark)).IsChain fun p q => q = mark → p = .ofChar '\\' := by
  induction t with
  | nil => exact .nil
  | cons c t ih =>
    rw [List.flatMap_cons]
    refine List.isChain_append.mpr ⟨isChain_escape h c, ih, fun p _ q begins marked => ?_⟩
    -- What follows an escape is another escape, and does not begin with the mark.
    cases t with
    | nil => cases begins
    | cons c' t =>
      obtain ⟨q', s, first, other⟩ := exists_escape_eq_cons h c'
      rw [List.flatMap_cons, first] at begins
      exact absurd ((Option.some.inj begins).trans marked) other

/-- A written form does not begin inside another one that ends where it ends, behind something that
is not a backslash. -/
theorem quoted_ne_append_cons_quoted (unmarked : ¬ IsMark p) (other : p ≠ .ofChar '\\') :
    t.quoted ≠ front ++ p :: t'.quoted := by
  intro same
  rw [quoted, quoted] at same
  cases front with
  | nil =>
    exact unmarked ((List.cons.inj same).1 ▸ isMark_quoteMark t)
  | cons q front =>
    rw [List.cons_append] at same
    have inside := (List.cons.inj same).2
    rw [← List.cons_append, ← List.cons_append, ← List.append_assoc] at inside
    -- Both end with their marks, so it is the same mark.
    obtain ⟨inner, ending⟩ := List.append_inj' inside rfl
    have chain := isChain_flatMap_escape (isMark_quoteMark t) t
    rw [inner, List.isChain_append_cons_cons] at chain
    exact other (chain.2.1 (List.cons.inj ending).1.symm)

theorem cons_quoted_eq_append (unmarked : ¬ IsMark p) (other : p ≠ .ofChar '\\')
    (same : p :: t.quoted = between ++ p :: t'.quoted) : between = [] ∧ t = t' := by
  cases between with
  | nil => exact ⟨rfl, quoted_inj.mp (List.cons.inj same).2⟩
  | cons q between =>
    exact absurd (List.cons.inj same).2 (quoted_ne_append_cons_quoted unmarked other)

/-- Where a written form ends, the text and what is written in front of it are known, if something
stands between that is no mark and no backslash. -/
theorem append_cons_quoted_inj (unmarked : ¬ IsMark p) (other : p ≠ .ofChar '\\') :
    front ++ p :: t.quoted = front' ++ p :: t'.quoted ↔ front = front' ∧ t = t' := by
  constructor
  · intro same
    -- One of the two fronts goes on where the other one ends.
    rcases List.append_eq_append_iff.mp same with ⟨between, rfl, ends⟩ | ⟨between, rfl, ends⟩
    · obtain ⟨rfl, rfl⟩ := cons_quoted_eq_append unmarked other ends
      exact ⟨(List.append_nil _).symm, rfl⟩
    · obtain ⟨rfl, rfl⟩ := cons_quoted_eq_append unmarked other ends
      exact ⟨List.append_nil _, rfl⟩
  · rintro ⟨rfl, rfl⟩
    rfl

/-- The same, with more behind the written forms. -/
theorem append_cons_quoted_append_inj (unmarked : ¬ IsMark p) (other : p ≠ .ofChar '\\') :
    front ++ p :: t.quoted ++ rest = front' ++ p :: t'.quoted ++ rest ↔
      front = front' ∧ t = t' := by
  rw [List.append_left_inj, append_cons_quoted_inj unmarked other]

/-! ## What shows -/

theorem isPrintable_of_isAlphanum {d : Char} (h : d.isAlphanum = true) :
    (CodePoint.ofChar d).isPrintable = true := by
  have range := Url.isAlphanum_iff.mp h
  rw [CodePoint.isPrintable, CodePoint.val_ofChar, if_pos (by omega), decide_eq_true_iff]
  omega

theorem IsMark.isPrintable (h : IsMark mark) : mark.isPrintable = true := by
  cases h <;> decide

theorem isPrintable_of_mem_escape (h : IsMark mark) (member : p ∈ escape mark c) :
    p.isPrintable = true := by
  have backslash : CodePoint.isPrintable (.ofChar '\\') = true := by decide
  rcases escape_cases mark c with ⟨special, same⟩ | ⟨-, printable, same⟩ | ⟨s, announced, same⟩
  · rw [same] at member
    rcases List.mem_pair.mp member with rfl | rfl
    · exact backslash
    · rcases special with rfl | rfl
      · exact h.isPrintable
      · exact backslash
  · rw [same] at member
    rwa [List.mem_singleton.mp member]
  · rw [same] at member
    rcases List.mem_cons.mp member with rfl | member
    · exact backslash
    · obtain ⟨d, inside, rfl⟩ := List.mem_map.mp member
      exact isPrintable_of_isAlphanum (announced.isAlphanum d inside)

/-- Every code point of a written form shows. -/
theorem isPrintable_of_mem_quoted (member : p ∈ t.quoted) : p.isPrintable = true := by
  rw [quoted] at member
  have mark := isMark_quoteMark t
  rcases List.mem_cons.mp member with rfl | member
  · exact mark.isPrintable
  rcases List.mem_append.mp member with member | member
  · obtain ⟨c, -, inside⟩ := List.mem_flatMap.mp member
    exact isPrintable_of_mem_escape mark inside
  · rw [List.mem_singleton.mp member]
    exact mark.isPrintable

end Text

end InstanceIdentity
