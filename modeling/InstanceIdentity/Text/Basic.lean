/-!
# Text as code points

What the metadata service sends is text, but not always text that a `String` can
hold: an escape in a document may name half of a surrogate pair and leave out the
other half. `Text` is therefore a list of code points, surrogates included, and a
`String` is the special case in which every code point is a character.

A surrogate pair that does come complete stands for one character. `Text.snoc`
keeps a text under construction in that joined form.

## Main definitions

* `CodePoint`, `Text` — the carrier
* `CodePoint.ofChar`, `CodePoint.ofNat` — the code points of characters and numbers
* `Text.ofChars`, `Text.ofString`, `Text.toString?` — the texts of characters
* `CodePoint.IsHigh`, `CodePoint.IsLow`, `CodePoint.join` — surrogates and their pairs
* `Text.snoc` — one more code point, joined to a high surrogate that waits for it
-/

namespace InstanceIdentity

/-- A Unicode code point, surrogates included. -/
abbrev CodePoint := Fin 0x110000

/-- A sequence of code points. -/
abbrev Text := List CodePoint

namespace CodePoint

theorem toNat_lt_of_char (c : Char) : c.toNat < 0x110000 := by
  have valid := c.valid
  have same : c.val.toNat = c.toNat := rfl
  simp only [UInt32.isValidChar, Nat.isValidChar, same] at valid
  omega

/-- The code point of a character. -/
def ofChar (c : Char) : CodePoint := ⟨c.toNat, toNat_lt_of_char c⟩

@[simp] theorem val_ofChar (c : Char) : (ofChar c).val = c.toNat := rfl

/-- The code point with a number, which goes around behind the last one. -/
def ofNat (n : Nat) : CodePoint := Fin.ofNat _ n

/-- The code point that takes the place of what cannot be decoded. -/
def replacement : CodePoint := ofChar '\uFFFD'

/-- The first half of a surrogate pair. -/
def IsHigh (c : CodePoint) : Prop := 0xD800 ≤ c.val ∧ c.val < 0xDC00

/-- The second half of a surrogate pair. -/
def IsLow (c : CodePoint) : Prop := 0xDC00 ≤ c.val ∧ c.val < 0xE000

instance (c : CodePoint) : Decidable (IsHigh c) :=
  inferInstanceAs (Decidable (0xD800 ≤ c.val ∧ c.val < 0xDC00))

instance (c : CodePoint) : Decidable (IsLow c) :=
  inferInstanceAs (Decidable (0xDC00 ≤ c.val ∧ c.val < 0xE000))

/-- The code point of a surrogate pair: ten bits from each half, above the first plane. -/
def join (high low : CodePoint) : CodePoint :=
  ⟨0x10000 + (high.val % 0x400) * 0x400 + low.val % 0x400, by omega⟩

/-- The character at a code point, unless it is a surrogate. -/
def toChar? (c : CodePoint) : Option Char :=
  if IsHigh c ∨ IsLow c then none else some (Char.ofNat c.val)

/-- A character is no surrogate. -/
theorem not_isSurrogate_ofChar (c : Char) : ¬ (IsHigh (ofChar c) ∨ IsLow (ofChar c)) := by
  have valid := c.valid
  have same : c.val.toNat = c.toNat := rfl
  simp only [UInt32.isValidChar, Nat.isValidChar, same] at valid
  rw [IsHigh, IsLow, val_ofChar]
  omega

@[simp] theorem toChar?_ofChar (c : Char) : toChar? (ofChar c) = some c := by
  rw [toChar?, if_neg (not_isSurrogate_ofChar c), val_ofChar, Char.ofNat_toNat]

end CodePoint

namespace Text

/-- The code points of a list of characters. -/
def ofChars (s : List Char) : Text := s.map CodePoint.ofChar

@[simp] theorem ofChars_nil : ofChars [] = [] := rfl

@[simp] theorem ofChars_cons (c : Char) (s : List Char) :
    ofChars (c :: s) = CodePoint.ofChar c :: ofChars s := rfl

/-- The code points of a string. -/
def ofString (s : String) : Text := ofChars s.toList

/-- The string with these code points, unless one of them is a surrogate. -/
def toString? (t : Text) : Option String :=
  (t.mapM CodePoint.toChar?).map String.ofList

/-- Adds a code point at the open end of a text kept latest first. A low surrogate that meets the
high one just before it completes a pair, and the two become one code point. -/
def snoc (c : CodePoint) : Text → Text
  | [] => [c]
  | d :: earlier =>
    if CodePoint.IsHigh d ∧ CodePoint.IsLow c then CodePoint.join d c :: earlier
    else c :: d :: earlier

@[simp] theorem ofString_append (s t : String) :
    ofString (s ++ t) = ofString s ++ ofString t := by
  simp [ofString, ofChars]

end Text

end InstanceIdentity
