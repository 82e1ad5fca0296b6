import InstanceIdentity.Url.Address
import Mathlib.Data.Bool.AllAny
import Mathlib.Data.List.TakeWhile

/-!
# Delimiters

Seven reserved characters stand between the components of an address. This file says that
every way of encoding leaves them where they are: it makes no new one, and an address in
canonical encoding is encoded piece by piece between them.

## Main definitions

* `Url.IsDelimiter` — the seven characters
* `Url.Keeps` — a text whose delimiters are all those of another one
* `Url.Recodes` — the canonical encoding of a part of an address

## Main results

* `Url.exists_recodes` — `Url.requote` is the canonical encoding of the whole
* `Url.Recodes.split` — the canonical encoding around a delimiter
* `Url.Recodes.keeps` — the canonical encoding makes no delimiters
-/

namespace InstanceIdentity

/-! ## Around a separator -/

namespace Text

variable {separator : Char} {before after s : List Char}

/-- What is not the separator is gone through up to its first place. -/
theorem all_ne_of_notMem (absent : separator ∉ s) : ∀ c ∈ s, decide (c ≠ separator) = true :=
  fun _ member => decide_eq_true (ne_of_mem_of_not_mem member absent)

theorem splitFirst_append (absent : separator ∉ before) (after : List Char) :
    splitFirst separator (before ++ separator :: after) = (before, after) := by
  have other := all_ne_of_notMem absent
  rw [splitFirst, List.takeWhile_append_of_pos other, List.dropWhile_append_of_pos other]
  simp

theorem snd_splitFirst_append (absent : separator ∉ before) (after : List Char) :
    (splitFirst separator (before ++ after)).2 = (splitFirst separator after).2 := by
  rw [splitFirst, List.dropWhile_append_of_pos (all_ne_of_notMem absent)]
  rfl

theorem splitFirst_cons (separator : Char) (after : List Char) :
    splitFirst separator (separator :: after) = ([], after) :=
  splitFirst_append List.not_mem_nil after

theorem splitFirst_of_notMem (absent : separator ∉ s) : splitFirst separator s = (s, []) := by
  have other := all_ne_of_notMem absent
  rw [splitFirst, List.takeWhile_eq_self_iff.mpr other, List.dropWhile_eq_nil_iff.mpr other,
    List.tail_nil]

/-- The last place of a separator is the first one from the end. -/
theorem splitLast_eq (separator : Char) (s : List Char) :
    splitLast separator s =
      ((splitFirst separator s.reverse).2.reverse, (splitFirst separator s.reverse).1.reverse) :=
  rfl

theorem splitLast_append (absent : separator ∉ after) (before : List Char) :
    splitLast separator (before ++ separator :: after) = (before, after) := by
  have turned : (before ++ separator :: after).reverse =
      after.reverse ++ separator :: before.reverse := by simp
  have absent' : separator ∉ after.reverse := by simpa using absent
  rw [splitLast_eq, turned, splitFirst_append absent', List.reverse_reverse, List.reverse_reverse]

theorem splitLast_of_notMem (absent : separator ∉ s) : splitLast separator s = ([], s) := by
  have absent' : separator ∉ s.reverse := by simpa using absent
  rw [splitLast_eq, splitFirst_of_notMem absent', List.reverse_reverse, List.reverse_nil]

/-- What stands before the first place of a separator is a part of the text without it. -/
theorem splitFirst_mem (separator : Char) (s : List Char) :
    (∀ c ∈ (splitFirst separator s).1, c ∈ s ∧ c ≠ separator) ∧
      ∀ c ∈ (splitFirst separator s).2, c ∈ s :=
  ⟨fun _ member => ⟨(List.takeWhile_sublist _).mem member,
      by simpa using List.mem_takeWhile_imp member⟩,
    fun _ member => (List.dropWhile_sublist _).mem (List.mem_of_mem_tail member)⟩

/-- What stands behind the last place of a separator is the end of the text. -/
theorem splitLast_suffix (separator : Char) (s : List Char) : (splitLast separator s).2 <:+ s := by
  rw [← List.reverse_prefix, splitLast, List.reverse_reverse]
  exact List.takeWhile_prefix _

/-- What stands behind the last place of a separator is a part of the text without it. -/
theorem splitLast_mem (separator : Char) (s : List Char) :
    (∀ c ∈ (splitLast separator s).1, c ∈ s) ∧
      ∀ c ∈ (splitLast separator s).2, c ∈ s ∧ c ≠ separator := by
  have turned := splitFirst_mem separator s.reverse
  simp only [List.mem_reverse] at turned
  simp only [splitLast_eq, List.mem_reverse]
  exact turned.symm

/-- A character of a text is the separator or stands in one of the pieces. -/
theorem eq_or_mem_of_mem (separator : Char) {c : Char} (member : c ∈ s) :
    c = separator ∨ ∃ piece ∈ split separator s, c ∈ piece := by
  induction s with
  | nil => cases member
  | cons d rest ih =>
    rw [split]
    split
    · next same =>
      rcases List.mem_cons.mp member with rfl | member
      · exact .inl same
      · exact (ih member).imp id fun ⟨piece, among, within⟩ =>
          ⟨piece, List.mem_cons_of_mem _ among, within⟩
    · rcases List.mem_cons.mp member with rfl | member
      · cases split separator rest <;> exact .inr ⟨_, List.mem_cons_self, List.mem_cons_self⟩
      · refine (ih member).imp id fun ⟨piece, among, within⟩ => ?_
        -- Only the first piece has grown, by the character in front.
        cases hsplit : split separator rest with
        | nil =>
          rw [hsplit] at among
          cases among
        | cons first pieces =>
          rw [hsplit] at among
          rcases List.mem_cons.mp among with rfl | among
          · exact ⟨_, List.mem_cons_self, List.mem_cons_of_mem _ within⟩
          · exact ⟨piece, List.mem_cons_of_mem _ among, within⟩

/-- The characters of the pieces are characters of the text, without the separator. -/
theorem mem_of_mem_split {piece : List Char} {c : Char} (among : piece ∈ split separator s)
    (member : c ∈ piece) : c ∈ s ∧ c ≠ separator := by
  -- A character in front begins a piece or makes the first one longer.
  induction s generalizing piece with
  | nil =>
    obtain rfl := List.mem_singleton.mp among
    cases member
  | cons d rest ih =>
    rw [split] at among
    split at among
    · rcases List.mem_cons.mp among with rfl | among
      · cases member
      · exact (ih among member).imp (List.mem_cons_of_mem _) id
    · next other =>
      cases hsplit : split separator rest with
      | nil =>
        rw [hsplit] at among
        obtain rfl := List.mem_singleton.mp among
        obtain rfl := List.mem_singleton.mp member
        exact ⟨List.mem_cons_self, other⟩
      | cons first pieces =>
        rw [hsplit] at among ih
        rcases List.mem_cons.mp among with rfl | among
        · rcases List.mem_cons.mp member with rfl | member
          · exact ⟨List.mem_cons_self, other⟩
          · exact (ih List.mem_cons_self member).imp (List.mem_cons_of_mem _) id
        · exact (ih (List.mem_cons_of_mem _ among) member).imp (List.mem_cons_of_mem _) id

/-- What is in joined texts is in the separator or in one of the texts. -/
theorem mem_or_mem_of_mem_intercalate {α : Type} {x : α} {separator : List α}
    {texts : List (List α)} (member : x ∈ List.intercalate separator texts) :
    x ∈ separator ∨ ∃ text ∈ texts, x ∈ text := by
  induction texts with
  | nil => cases member
  | cons first texts ih =>
    cases texts with
    | nil => exact .inr ⟨first, List.mem_singleton_self _, by simpa using member⟩
    | cons second texts =>
      rw [List.intercalate_cons_cons, List.append_assoc] at member
      rcases List.mem_append.mp member with member | member
      · exact .inr ⟨first, List.mem_cons_self, member⟩
      rcases List.mem_append.mp member with member | member
      · exact .inl member
      · exact (ih member).imp id fun ⟨text, among, within⟩ =>
          ⟨text, List.mem_cons_of_mem _ among, within⟩

end Text

/-! ## Tables without a character -/

namespace Unicode

variable {numbers : List Nat} {line : List Char} {lines : List String}

/-- The ranges in a line of a table. -/
def rangesIn (line : List Char) : List (Nat × Nat) :=
  ((Text.split ' ' line).map fun row => (Text.split '-' row).map number).filterMap range?

/-- No range of a table holds one of some numbers. -/
def Spares (numbers : List Nat) (lines : List String) : Prop :=
  ∀ n ∈ numbers, isWithin (ranges lines) n = false

theorem spares_nil (numbers : List Nat) : Spares numbers [] := fun _ _ => rfl

/-- A table can be looked through line by line. -/
theorem Spares.cons (rest : Spares numbers lines)
    (first : (numbers.all fun n => !isWithin (rangesIn line) n) = true) :
    Spares numbers (String.ofList line :: lines) := by
  intro n member
  have unlisted : isWithin (rangesIn line) n = false := by
    simpa using List.all_eq_true.mp first n member
  have parted : ranges (String.ofList line :: lines) = rangesIn line ++ ranges lines := by
    simp [ranges, rows, rangesIn, String.toList_ofList]
  rw [parted, isWithin, List.any_append]
  exact Bool.or_eq_false_iff.mpr ⟨unlisted, rest n member⟩

end Unicode

namespace Url

variable {c d : Char} {m : Bool} {s t u a b : List Char} {keep : Char → Bool}

/-! ## Delimiters -/

/-- The characters between the components of an address. -/
def delimiters : List Char := ['#', '/', ':', '?', '@', '[', ']']

/-- Whether a character stands between the components of an address. -/
def IsDelimiter (c : Char) : Prop := c ∈ delimiters

instance (c : Char) : Decidable (IsDelimiter c) := inferInstanceAs (Decidable (c ∈ delimiters))

/-- What ends an authority is a delimiter. -/
theorem isDelimiter_of_mem (h : c ∈ ['#', '/', '?']) : IsDelimiter c := by
  have all : ∀ c ∈ ['#', '/', '?'], IsDelimiter c := List.all_iff_forall_prop.mp (by decide)
  exact all c h

theorem IsDelimiter.isReserved (h : IsDelimiter c) : isReserved c = true := by
  have all : ∀ c ∈ delimiters, Url.isReserved c = true := List.all_iff_forall_prop.mp (by decide)
  exact all c h

theorem IsDelimiter.isAlphanum_eq_false (h : IsDelimiter c) : c.isAlphanum = false := by
  have all : ∀ c ∈ delimiters, Char.isAlphanum c = false := List.all_iff_forall_prop.mp (by decide)
  exact all c h

theorem IsDelimiter.isUnreserved_eq_false (h : IsDelimiter c) : isUnreserved c = false := by
  have all : ∀ c ∈ delimiters, Url.isUnreserved c = false := List.all_iff_forall_prop.mp (by decide)
  exact all c h

theorem IsDelimiter.ne_percent (h : IsDelimiter c) : c ≠ '%' := by
  rintro rfl
  exact absurd h (by decide)

theorem not_isDelimiter_of_isUnreserved (h : isUnreserved c = true) : ¬ IsDelimiter c := by
  intro delimiter
  rw [delimiter.isUnreserved_eq_false] at h
  cases h

/-- No delimiter is a letter or stands for a number, in any script. -/
theorem IsDelimiter.isAlphanumeric_eq_false (h : IsDelimiter c) :
    Unicode.isAlphanumeric c = false := by
  have spared : ∀ n ∈ delimiters.map Char.toNat,
      Unicode.isWithin Unicode.alphanumericRanges n = false := by
    show Unicode.Spares _ _
    repeat' refine Unicode.Spares.cons ?_ ?_
    · exact Unicode.spares_nil _
    all_goals decide +kernel
  exact spared c.toNat (List.mem_map_of_mem h)

/-- No label of an international name may hold a delimiter. -/
theorem IsDelimiter.isAllowed_eq_false (h : IsDelimiter c) : Idna.isAllowed c = false := by
  have spared : ∀ n ∈ delimiters.map Char.toNat,
      Unicode.isWithin Idna.allowedRanges n = false := by
    show Unicode.Spares _ _
    repeat' refine Unicode.Spares.cons ?_ ?_
    · exact Unicode.spares_nil _
    all_goals decide +kernel
  exact spared c.toNat (List.mem_map_of_mem h)

theorem isUpper_iff : c.isUpper = true ↔ 0x41 ≤ c.toNat ∧ c.toNat ≤ 0x5A := by
  delta Char.isUpper
  simp only [ge_iff_le, decide_eq_true_eq, UInt32.le_iff_toNat_le, Char.reduceVal,
    UInt32.reduceToNat]
  exact Iff.rfl

theorem isLower_iff : c.isLower = true ↔ 0x61 ≤ c.toNat ∧ c.toNat ≤ 0x7A := by
  delta Char.isLower
  simp only [Bool.and_eq_true, ge_iff_le, decide_eq_true_eq, UInt32.le_iff_toNat_le,
    Char.reduceVal, UInt32.reduceToNat]
  exact Iff.rfl

/-- The letters and digits of ASCII, by their numbers. -/
theorem isAlphanum_iff : c.isAlphanum = true ↔
    (0x41 ≤ c.toNat ∧ c.toNat ≤ 0x5A ∨ 0x61 ≤ c.toNat ∧ c.toNat ≤ 0x7A) ∨
      0x30 ≤ c.toNat ∧ c.toNat ≤ 0x39 := by
  rw [← isUpper_iff, ← isLower_iff]
  delta Char.isAlphanum Char.isAlpha Char.isDigit
  simp only [Bool.or_eq_true, Bool.and_eq_true, ge_iff_le, decide_eq_true_eq,
    UInt32.le_iff_toNat_le, Char.reduceVal, UInt32.reduceToNat]
  exact Iff.rfl

theorem isAlphanum_of_isUpper (h : c.isUpper = true) : c.isAlphanum = true :=
  isAlphanum_iff.mpr (.inl (.inl (isUpper_iff.mp h)))

theorem isAlphanum_of_isLower (h : c.isLower = true) : c.isAlphanum = true :=
  isAlphanum_iff.mpr (.inl (.inr (isLower_iff.mp h)))

/-- Only letters change to capitals. -/
theorem toUpper_eq_or (c : Char) : c.toUpper = c ∨ c.toUpper.isUpper = true := by
  rw [isUpper_iff]
  delta Char.toUpper
  split
  · next lower =>
    right
    simp only [UInt32.le_iff_toNat_le, UInt32.toNat_add, Char.toNat, Char.reduceVal,
      UInt32.reduceToNat, UInt32.reduceSub] at lower ⊢
    omega
  · exact .inl rfl

/-- Only letters change to small ones. -/
theorem toLower_eq_or (c : Char) : c.toLower = c ∨ c.toLower.isLower = true := by
  rw [isLower_iff]
  delta Char.toLower
  split
  · next upper =>
    right
    simp only [UInt32.le_iff_toNat_le, UInt32.toNat_add, Char.toNat, Char.reduceVal,
      UInt32.reduceToNat, UInt32.reduceSub, ge_iff_le] at upper ⊢
    omega
  · exact .inl rfl

/-- A character whose capital is a delimiter is that delimiter. -/
theorem IsDelimiter.toUpper_eq (h : IsDelimiter c.toUpper) : c.toUpper = c :=
  (toUpper_eq_or c).resolve_right fun upper =>
    absurd (isAlphanum_of_isUpper upper) (by simp [h.isAlphanum_eq_false])

/-! ## Texts whose delimiters are kept -/

/-- Every delimiter in a text is one of another text. -/
def Keeps (s t : List Char) : Prop := ∀ c, IsDelimiter c → c ∈ t → c ∈ s

theorem Keeps.refl (s : List Char) : Keeps s s := fun _ _ member => member

theorem Keeps.trans (h : Keeps s t) (h' : Keeps t u) : Keeps s u :=
  fun c delimiter member => h c delimiter (h' c delimiter member)

/-- A character that is none of the delimiters may come in front. -/
theorem Keeps.cons (h : Keeps s t) (front : IsDelimiter c → c ∈ s) : Keeps s (c :: t) := by
  intro d delimiter member
  rcases List.mem_cons.mp member with rfl | member
  · exact front delimiter
  · exact h d delimiter member

theorem Keeps.of_cons (h : Keeps s t) (c : Char) : Keeps (c :: s) t :=
  fun d delimiter member => List.mem_cons_of_mem _ (h d delimiter member)

theorem Keeps.cons_cons (h : Keeps s t) (c : Char) : Keeps (c :: s) (c :: t) :=
  (h.of_cons c).cons fun _ => List.mem_cons_self

theorem Keeps.toUpper_cons (h : Keeps s t) (c : Char) : Keeps (c :: s) (c.toUpper :: t) := by
  refine (h.of_cons c).cons fun delimiter => ?_
  rw [delimiter.toUpper_eq]
  exact List.mem_cons_self

theorem isAlphanum_hexDigit {n : Nat} (h : n < 16) : (Text.hexDigit n).isAlphanum = true := by
  have all : ∀ n < 16, (Text.hexDigit n).isAlphanum = true := by decide
  exact all n h

theorem isAlphanum_of_mem_hex {width n : Nat} (member : c ∈ Text.hex width n) :
    c.isAlphanum = true := by
  induction width generalizing n with
  | zero => cases member
  | succ width ih =>
    rcases List.mem_append.mp member with member | member
    · exact ih member
    · obtain rfl := List.mem_singleton.mp member
      exact isAlphanum_hexDigit (Nat.mod_lt _ (by decide))

theorem isAlphanum_toUpper (h : c.isAlphanum = true) : c.toUpper.isAlphanum = true := by
  rcases toUpper_eq_or c with same | upper
  · rwa [same]
  · exact isAlphanum_of_isUpper upper

/-- An escape is a percent sign with digits and letters. -/
theorem eq_or_isAlphanum_of_mem_percentChar (member : d ∈ percentChar c) :
    d = '%' ∨ d.isAlphanum = true := by
  obtain ⟨byte, -, member⟩ := List.mem_flatMap.mp member
  rcases List.mem_cons.mp member with rfl | member
  · exact .inl rfl
  · obtain ⟨digit, among, rfl⟩ := List.mem_map.mp member
    exact .inr (isAlphanum_toUpper (isAlphanum_of_mem_hex among))

/-- A character of an encoded text is one that is kept, or belongs to an escape. -/
theorem mem_quote (member : d ∈ quote keep s) :
    (d ∈ s ∧ keep d = true) ∨ d = '%' ∨ d.isAlphanum = true := by
  obtain ⟨c, among, member⟩ := List.mem_flatMap.mp member
  split at member
  · next kept =>
    obtain rfl := List.mem_singleton.mp member
    exact .inl ⟨among, kept⟩
  · exact .inr (eq_or_isAlphanum_of_mem_percentChar member)

theorem keeps_quote (keep : Char → Bool) (s : List Char) : Keeps s (quote keep s) := by
  intro d delimiter member
  rcases mem_quote member with ⟨kept, -⟩ | rfl | letter
  · exact kept
  · exact absurd rfl delimiter.ne_percent
  · exact absurd letter (by simp [delimiter.isAlphanum_eq_false])

theorem keeps_upperEscapes (s : List Char) : Keeps s (upperEscapes s) := by
  fun_induction upperEscapes s with
  | case1 => exact .refl _
  | case2 a b rest escape ih => exact ((ih.toUpper_cons b).toUpper_cons a).cons_cons '%'
  | case3 a b rest plain ih => exact ih.cons_cons '%'
  | case4 c rest other ih => exact ih.cons_cons c

theorem keeps_encodeComponent (allowed : Char → Bool) (s : List Char) :
    Keeps s (encodeComponent allowed s) :=
  (keeps_upperEscapes s).trans (keeps_quote _ _)

theorem keeps_normalEscapes (s : List Char) : Keeps s (normalEscapes s) := by
  fun_induction normalEscapes s with
  | case1 => exact .refl _
  | case2 a b rest high low _ _ c unreserved ih =>
    refine (((ih.of_cons b).of_cons a).of_cons '%').cons fun delimiter => ?_
    exact absurd delimiter (not_isDelimiter_of_isUnreserved unreserved)
  | case3 a b rest high low _ _ c reserved ih =>
    exact ((ih.toUpper_cons b).toUpper_cons a).cons_cons '%'
  | case4 a b rest plain ih => exact ih.cons_cons '%'
  | case5 c rest other ih => exact ih.cons_cons c

/-! ## Canonical encoding between delimiters -/

/-- Whether a text begins with a percent sign before two letters or digits. -/
inductive BeginsEscape : List Char → Prop
  | intro {a b : Char} {rest : List Char} (first : Unicode.isAlphanumeric a = true)
      (second : Unicode.isAlphanumeric b = true) : BeginsEscape ('%' :: a :: b :: rest)

theorem decodeUnreserved?_cons (h : ¬ BeginsEscape (c :: s)) :
    decodeUnreserved? (c :: s) = (decodeUnreserved? s).map (c :: ·) := by
  by_cases percent : ∃ a b rest, c = '%' ∧ s = a :: b :: rest
  · obtain ⟨a, b, rest, rfl, rfl⟩ := percent
    rw [decodeUnreserved?, if_neg]
    intro both
    rw [Bool.and_eq_true] at both
    exact h ⟨both.1, both.2⟩
  · exact decodeUnreserved?.eq_3 c s fun a b rest sign shape => percent ⟨a, b, rest, sign, shape⟩

/-- A text before a delimiter begins with an escape only by itself. -/
theorem BeginsEscape.of_append (hd : IsDelimiter d)
    (h : BeginsEscape ((c :: s) ++ d :: b)) : BeginsEscape (c :: s) := by
  match s, h with
  | _ :: _ :: _, .intro first second => exact ⟨first, second⟩
  | [_], .intro _ second => exact absurd second (by simp [hd.isAlphanumeric_eq_false])
  | [], h =>
    cases b with
    | nil => cases h
    | cons => cases h with
      | intro first => exact absurd first (by simp [hd.isAlphanumeric_eq_false])

theorem not_beginsEscape (hd : IsDelimiter d) : ¬ BeginsEscape (d :: b) := by
  rintro ⟨⟩
  exact hd.ne_percent rfl

/-- A character that begins no escape is taken by itself, and the rest comes after it. -/
theorem decodeUnreserved?_cons_append (hd : IsDelimiter d) (single : ¬ BeginsEscape (c :: s))
    (rest : decodeUnreserved? (s ++ d :: b) =
      (decodeUnreserved? s).bind fun a' => (decodeUnreserved? b).map fun b' => a' ++ d :: b') :
    decodeUnreserved? (c :: (s ++ d :: b)) =
      ((decodeUnreserved? s).map (c :: ·)).bind fun a' =>
        (decodeUnreserved? b).map fun b' => a' ++ d :: b' := by
  have single' : ¬ BeginsEscape (c :: (s ++ d :: b)) := fun escape => single (escape.of_append hd)
  rw [decodeUnreserved?_cons single', rest]
  cases decodeUnreserved? s <;> cases decodeUnreserved? b <;> rfl

/-- Decoding goes on behind a delimiter as if it began there. -/
theorem decodeUnreserved?_append (hd : IsDelimiter d) (a b : List Char) :
    decodeUnreserved? (a ++ d :: b) =
      (decodeUnreserved? a).bind fun a' => (decodeUnreserved? b).map fun b' => a' ++ d :: b' := by
  -- The recursion takes an escape in one step and any other character by itself.
  fun_induction decodeUnreserved? a with
  | case1 => exact decodeUnreserved?_cons (not_beginsEscape hd)
  | case2 x y rest both high low first second c ih =>
    show decodeUnreserved? ('%' :: x :: y :: (rest ++ d :: b)) = _
    rw [decodeUnreserved?, if_pos both, first, second]
    dsimp only
    rw [ih]
    cases decodeUnreserved? rest <;> cases decodeUnreserved? b <;> simp
    split <;> rfl
  | case3 x y rest both none =>
    show decodeUnreserved? ('%' :: x :: y :: (rest ++ d :: b)) = _
    rw [decodeUnreserved?, if_pos both]
    cases first : anyHexValue? x with
    | none => rfl
    | some high =>
      cases second : anyHexValue? y with
      | none => rfl
      | some low => exact (none high low first second).elim
  | case4 x y rest plain ih =>
    have single : ¬ BeginsEscape ('%' :: x :: y :: rest) := by
      rintro ⟨first, second⟩
      exact plain (by rw [first, second, Bool.and_self])
    exact decodeUnreserved?_cons_append hd single ih
  | case5 c rest other ih =>
    have single : ¬ BeginsEscape (c :: rest) := by
      rintro ⟨first, second⟩
      exact other _ _ _ rfl rfl
    exact decodeUnreserved?_cons_append hd single ih

theorem keeps_decodeUnreserved? (s : List Char) : ∀ t ∈ decodeUnreserved? s, Keeps s t := by
  fun_induction decodeUnreserved? s with
  | case1 =>
    intro t h
    obtain rfl := Option.some.inj h
    exact .refl _
  | case2 x y rest both high low first second c ih =>
    intro t h
    obtain ⟨rest', decoded, rfl⟩ := Option.map_eq_some_iff.mp h
    have kept := ih rest' decoded
    split
    · next unreserved =>
      refine (((kept.of_cons y).of_cons x).of_cons '%').cons fun delimiter => ?_
      exact absurd delimiter (not_isDelimiter_of_isUnreserved unreserved)
    · exact ((kept.cons_cons y).cons_cons x).cons_cons '%'
  | case3 x y rest both none =>
    intro t h
    cases h
  | case4 x y rest plain ih =>
    intro t h
    obtain ⟨rest', decoded, rfl⟩ := Option.map_eq_some_iff.mp h
    exact (ih rest' decoded).cons_cons '%'
  | case5 c rest other ih =>
    intro t h
    obtain ⟨rest', decoded, rfl⟩ := Option.map_eq_some_iff.mp h
    exact (ih rest' decoded).cons_cons c

theorem decodeUnreserved?_eq_self (plain : '%' ∉ s) : decodeUnreserved? s = some s := by
  induction s with
  | nil => rfl
  | cons c rest ih =>
    have single : ¬ BeginsEscape (c :: rest) := by
      rintro ⟨⟩
      exact plain List.mem_cons_self
    rw [decodeUnreserved?_cons single, ih (mt (List.mem_cons_of_mem c) plain), Option.map_some]

theorem quote_append (keep : Char → Bool) (a b : List Char) :
    quote keep (a ++ b) = quote keep a ++ quote keep b := List.flatMap_append

theorem quote_cons_of_keep (kept : keep c = true) (s : List Char) :
    quote keep (c :: s) = c :: quote keep s := by
  rw [quote, List.flatMap_cons, if_pos kept]
  rfl

theorem quote_eq_self (kept : ∀ c ∈ s, keep c = true) : quote keep s = s := by
  induction s with
  | nil => rfl
  | cons c rest ih =>
    rw [quote_cons_of_keep (kept c List.mem_cons_self),
      ih fun d member => kept d (List.mem_cons_of_mem c member)]

/-- The canonical encoding of a part of an address. Either each percent sign of the address may
begin an escape, and escapes of unreserved characters are undone, or percent signs are encoded. -/
inductive Recodes : Bool → List Char → List Char → Prop
  | decoded {s t : List Char} (decoded : decodeUnreserved? s = some t) :
      Recodes true s (quote (fun c => isUnreserved c || isReserved c || c = '%') t)
  | plain (s : List Char) : Recodes false s (quote (fun c => isUnreserved c || isReserved c) s)

theorem exists_recodes (s : List Char) : ∃ m, Recodes m s (requote s) := by
  rw [requote]
  cases decoded : decodeUnreserved? s with
  | none => exact ⟨false, .plain s⟩
  | some t => exact ⟨true, .decoded decoded⟩

/-- The parts before and behind a delimiter are encoded by themselves. -/
theorem Recodes.split (h : Recodes m (a ++ d :: b) t) (hd : IsDelimiter d) :
    ∃ a' b', Recodes m a a' ∧ Recodes m b b' ∧ t = a' ++ d :: b' := by
  have reserved := hd.isReserved
  cases h with
  | decoded decoded =>
    rw [decodeUnreserved?_append hd] at decoded
    obtain ⟨a', first, decoded⟩ := Option.bind_eq_some_iff.mp decoded
    obtain ⟨b', second, rfl⟩ := Option.map_eq_some_iff.mp decoded
    refine ⟨_, _, .decoded first, .decoded second, ?_⟩
    rw [quote_append, quote_cons_of_keep (by simp [reserved])]
  | plain =>
    refine ⟨_, _, .plain a, .plain b, ?_⟩
    rw [quote_append, quote_cons_of_keep (by simp [reserved])]

/-- A delimiter in front stays there. -/
theorem Recodes.cons (h : Recodes m (d :: s) t) (hd : IsDelimiter d) :
    ∃ s', Recodes m s s' ∧ t = d :: s' := by
  obtain ⟨front, s', empty, behind, rfl⟩ := Recodes.split (a := []) h hd
  have none : front = [] := by
    cases empty with
    | decoded decoded =>
      obtain rfl := Option.some.inj decoded
      rfl
    | plain => rfl
  exact ⟨s', behind, by rw [none, List.nil_append]⟩

theorem Recodes.keeps (h : Recodes m s t) : Keeps s t := by
  cases h with
  | decoded decoded => exact (keeps_decodeUnreserved? _ _ decoded).trans (keeps_quote _ _)
  | plain => exact keeps_quote _ _

/-- What needs no encoding stays as it is. -/
theorem Recodes.eq_self (h : Recodes m s t)
    (settled : ∀ c ∈ s, isUnreserved c = true ∨ isReserved c = true) : t = s := by
  have unescaped : '%' ∉ s := fun member => absurd (settled _ member) (by decide)
  cases h with
  | decoded decoded =>
    obtain rfl := Option.some.inj ((decodeUnreserved?_eq_self unescaped).symm.trans decoded)
    exact quote_eq_self fun c member => by rcases settled c member with h | h <;> simp [h]
  | plain => exact quote_eq_self fun c member => by rcases settled c member with h | h <;> simp [h]

theorem requote_eq_self (settled : ∀ c ∈ s, isUnreserved c = true ∨ isReserved c = true) :
    requote s = s := by
  obtain ⟨m, recodes⟩ := exists_recodes s
  exact recodes.eq_self settled

theorem lt_of_isAlphanum (h : c.isAlphanum = true) : 0x20 < c.toNat := by
  rw [isAlphanum_iff] at h
  omega

theorem lt_of_isUnreserved (h : isUnreserved c = true) : 0x20 < c.toNat := by
  simp only [isUnreserved, Bool.or_eq_true, decide_eq_true_eq] at h
  rcases h with (((letter | rfl) | rfl) | rfl) | rfl
  · exact lt_of_isAlphanum letter
  all_goals decide

theorem lt_of_isReserved (h : isReserved c = true) : 0x20 < c.toNat := by
  have all : ∀ c ∈ "!$&'()*+,;=".toList ++ "#/:?@[]".toList, 0x20 < c.toNat :=
    List.all_iff_forall_prop.mp (by decide)
  refine all c (List.mem_append.mpr ?_)
  simpa only [isReserved, isSubDelimiter, Bool.or_eq_true, List.contains_iff_mem] using h

/-- An address in canonical encoding has no control characters and no spaces. -/
theorem lt_of_mem_requote (member : c ∈ requote s) : 0x20 < c.toNat := by
  have visible : ∀ {keep : Char → Bool} {t : List Char},
      (keep c = true → (isUnreserved c = true ∨ isReserved c = true) ∨ c = '%') →
        c ∈ quote keep t → 0x20 < c.toNat := by
    intro keep t settled member
    rcases mem_quote member with ⟨-, kept⟩ | rfl | letter
    · rcases settled kept with (unreserved | reserved) | rfl
      · exact lt_of_isUnreserved unreserved
      · exact lt_of_isReserved reserved
      · decide
    · decide
    · exact lt_of_isAlphanum letter
  rw [requote] at member
  split at member
  · exact visible (by simp) member
  · exact visible (fun kept => .inl (by simpa using kept)) member

end Url

end InstanceIdentity
