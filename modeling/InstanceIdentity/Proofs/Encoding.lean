import InstanceIdentity.Charset.Detection
import InstanceIdentity.Proofs.Utf16
import InstanceIdentity.Proofs.Utf8

/-!
# The encodings of a body

A text can be sent in UTF-8, UTF-16 or UTF-32, in either byte order, and with or without a byte
order mark. Nothing need say which: the first four bytes show it if the text is recognizable,
that is, if it begins with two characters of ASCII, goes on for two more, and holds no null. Such
a text is read from its bytes as it was written, in all ten forms, and also when the bytes are
those of UTF-8 and the charset is named.

## Main definitions

* `Encoding`, `Encoding.write` — the encodings, and the bytes of a text with or without a mark
* `Encoding.charset` — the charset of these bytes
* `IsRecognizable` — the texts whose encoding shows

## Main results

* `Encoding.decode?_write` — every text is read with its charset
* `Encoding.detect?_write` — the charset of a recognizable text is detected
* `textDetected_write`, `bodyText_utf8`, `bodyText_latin1` — the text of a body
-/

namespace InstanceIdentity

/-- The encodings of Unicode. -/
inductive Encoding
  | utf8
  | utf16 (order : ByteOrder)
  | utf32 (order : ByteOrder)
  deriving DecidableEq, Repr

/-- A text whose encoding shows in its first four bytes. -/
structure IsRecognizable (t : List Char) : Prop where
  long : 4 ≤ t.length
  ascii : ∀ c ∈ t.take 2, c.toNat < 0x80
  nonzero : '\x00' ∉ t

/-- The byte order mark. -/
def byteOrderMark : Char := '\uFEFF'

namespace Encoding

/-- The bytes of a text. -/
def encode (t : List Char) : Encoding → List UInt8
  | .utf8 => Utf8.encode t
  | .utf16 order => Utf16.encode order t
  | .utf32 order => Utf32.encode order t

/-- The bytes of a text that is sent with or without a byte order mark. -/
def write (e : Encoding) (marked : Bool) (t : List Char) : List UInt8 :=
  e.encode (if marked then byteOrderMark :: t else t)

/-- The charset of texts with or without a byte order mark. The mark tells the byte order. -/
def charset (e : Encoding) (marked : Bool) : Charset :=
  match e with
  | .utf8 => .utf8 marked
  | .utf16 order => .utf16 (if marked then none else some order)
  | .utf32 order => .utf32 (if marked then none else some order)

variable {e : Encoding} {marked : Bool} {t : List Char} {c : Char} {order : ByteOrder} {b : UInt8}

/-! ## Texts in their charsets -/

/-- A text is decoded without its mark. -/
theorem units_write (e : Encoding) (marked : Bool) (t : List Char) :
    (e.charset marked).units (e.write marked t) = Charset.ofCharacters (t.map some) := by
  cases e with
  | utf8 =>
    cases marked with
    | false => exact congrArg Charset.ofCharacters (Utf8.decode_encode t)
    | true => exact congrArg Charset.ofCharacters (Utf8.decode_encode t)
  | utf16 order =>
    cases marked with
    | false => exact congrArg Charset.ofCharacters (Utf16.decode_encode order t)
    | true => cases order <;> exact congrArg Charset.ofCharacters (Utf16.decode_encode _ t)
  | utf32 order =>
    cases marked with
    | false => exact congrArg Charset.ofCharacters (Utf32.decode_encode order t)
    | true => cases order <;> exact congrArg Charset.ofCharacters (Utf32.decode_encode _ t)

theorem ofCharacters_map_some (t : List Char) :
    Charset.ofCharacters (t.map some) = (Text.ofChars t).map some := by
  rw [Charset.ofCharacters, Text.ofChars, List.map_map, List.map_map]
  rfl

theorem decode?_write (e : Encoding) (marked : Bool) (t : List Char) :
    (e.charset marked).decode? (e.write marked t) = some (Text.ofChars t) := by
  rw [Charset.decode?, units_write, ofCharacters_map_some]
  simp

theorem decodeReplacing_encode (t : List Char) :
    Charset.decodeReplacing (.utf8 false) (encode t .utf8) = Text.ofChars t := by
  have units : Charset.units (.utf8 false) (encode t .utf8) = (Text.ofChars t).map some :=
    (units_write .utf8 false t).trans (ofCharacters_map_some t)
  rw [Charset.decodeReplacing, units, List.map_map]
  exact List.map_id _

/-! ## First bytes -/

theorem ofNat_ne_of_toNat_lt (ascii : c.toNat < 0x80) (high : 0x80 ≤ b.toNat) :
    UInt8.ofNat c.toNat ≠ b := by
  rintro rfl
  rw [UInt8.toNat_ofNat'] at high
  omega

theorem ofNat_ne_zero (ascii : c.toNat < 0x80) (nonzero : c ≠ '\x00') :
    UInt8.ofNat c.toNat ≠ 0 := by
  intro zero
  have value := congrArg UInt8.toNat zero
  rw [UInt8.toNat_ofNat', Nat.mod_eq_of_lt (by omega)] at value
  exact nonzero (Char.toNat_inj.mp value)

theorem utf8EncodeChar_of_ascii (ascii : c.toNat < 0x80) :
    String.utf8EncodeChar c = [UInt8.ofNat c.toNat] := by
  rw [String.utf8EncodeChar.eq_1]
  exact if_pos (show c.toNat ≤ 0x7F by omega)

theorem utf16_bytesOf_of_ascii (ascii : c.toNat < 0x80) (order : ByteOrder) :
    (Utf16.unitsOf c).flatMap (Utf16.bytesOf order) =
      match order with
      | .little => [UInt8.ofNat c.toNat, 0]
      | .big => [0, UInt8.ofNat c.toNat] := by
  have high : c.toNat / 0x100 = 0 := by omega
  rw [Utf16.unitsOf, if_pos (by omega), List.flatMap_singleton]
  cases order <;> simp [Utf16.bytesOf, high]

theorem utf32_bytesOf_of_ascii (ascii : c.toNat < 0x80) (order : ByteOrder) :
    Utf32.bytesOf order c.toNat =
      match order with
      | .little => [UInt8.ofNat c.toNat, 0, 0, 0]
      | .big => [0, 0, 0, UInt8.ofNat c.toNat] := by
  have higher : c.toNat / 0x100 = 0 ∧ c.toNat / 0x10000 = 0 ∧ c.toNat / 0x1000000 = 0 := by omega
  cases order <;> simp [Utf32.bytesOf, higher]

theorem utf8_mark : String.utf8EncodeChar byteOrderMark = [0xEF, 0xBB, 0xBF] := rfl

theorem utf16_mark (order : ByteOrder) :
    (Utf16.unitsOf byteOrderMark).flatMap (Utf16.bytesOf order) =
      match order with
      | .little => [0xFF, 0xFE]
      | .big => [0xFE, 0xFF] := by
  cases order <;> rfl

theorem utf32_mark (order : ByteOrder) :
    Utf32.bytesOf order byteOrderMark.toNat =
      match order with
      | .little => [0xFF, 0xFE, 0, 0]
      | .big => [0, 0, 0xFE, 0xFF] := by
  cases order <;> rfl

/-- A byte of a character is the number of the character within ASCII, and lies outside of ASCII
with it. -/
theorem toNat_of_mem_utf8EncodeChar (h : b ∈ String.utf8EncodeChar c) :
    (b.toNat = c.toNat ∧ c.toNat < 0x80) ∨ (0x80 ≤ b.toNat ∧ b.toNat < 0xF5) := by
  have long {n : Nat} (low : 0x80 ≤ n) (high : n < 0xF5) :
      0x80 ≤ (UInt8.ofNat n).toNat ∧ (UInt8.ofNat n).toNat < 0xF5 := by
    rw [Utf8.toNat_ofNat_of_lt (by omega)]
    exact ⟨low, high⟩
  have valid := Utf16.toNat_lt c
  have value : c.val.toNat = c.toNat := rfl
  rw [String.utf8EncodeChar.eq_1, value] at h
  split at h
  · rw [List.mem_singleton] at h
    rw [h, Utf8.toNat_ofNat_of_lt (by omega)]
    omega
  split at h
  · simp only [List.mem_cons, List.not_mem_nil, or_false] at h
    rcases h with rfl | rfl <;> exact .inr (long (by omega) (by omega))
  split at h
  · simp only [List.mem_cons, List.not_mem_nil, or_false] at h
    rcases h with rfl | rfl | rfl <;> exact .inr (long (by omega) (by omega))
  · simp only [List.mem_cons, List.not_mem_nil, or_false] at h
    rcases h with rfl | rfl | rfl | rfl <;> exact .inr (long (by omega) (by omega))

/-- Only a null has a byte that is zero. -/
theorem ne_zero_of_mem_utf8EncodeChar (nonzero : c ≠ '\x00') (h : b ∈ String.utf8EncodeChar c) :
    b ≠ 0 := by
  rintro rfl
  rcases toNat_of_mem_utf8EncodeChar h with ⟨same, -⟩ | ⟨high, -⟩
  · exact nonzero (Char.toNat_inj.mp same.symm)
  · exact absurd high (by decide)

theorem length_le_length_encode (t : List Char) : t.length ≤ (Utf8.encode t).length := by
  -- Every character has a byte at least.
  induction t with
  | nil => exact Nat.zero_le _
  | cons c t ih =>
    have bytes : 0 < (String.utf8EncodeChar c).length :=
      List.length_pos_iff.mpr String.utf8EncodeChar_ne_nil
    rw [Utf8.encode_cons, List.length_cons, List.length_append]
    omega

/-- The bytes of a text of two characters or more begin with two that are not zero, if there is no
null. -/
theorem exists_encode_eq_cons (long : 2 ≤ t.length) (nonzero : '\x00' ∉ t) :
    ∃ x y rest, Utf8.encode t = x :: y :: rest ∧ x ≠ 0 ∧ y ≠ 0 := by
  have longer := length_le_length_encode t
  have bytes : ∀ b ∈ Utf8.encode t, b ≠ 0 := by
    intro b member
    obtain ⟨c, character, byte⟩ := List.mem_flatMap.mp member
    exact ne_zero_of_mem_utf8EncodeChar (fun null => nonzero (null ▸ character)) byte
  match encoded : Utf8.encode t with
  | [] =>
    rw [encoded, List.length_nil] at longer
    omega
  | [x] =>
    rw [encoded, List.length_singleton] at longer
    omega
  | x :: y :: rest =>
    rw [encoded] at bytes
    exact ⟨x, y, rest, rfl, bytes x (by simp), bytes y (by simp)⟩

/-! ## Detection -/

/-- A recognizable text begins with two characters of one byte each. -/
theorem exists_eq_cons (h : IsRecognizable t) :
    ∃ a b rest, t = a :: b :: rest ∧ (a.toNat < 0x80 ∧ a ≠ '\x00') ∧
      (b.toNat < 0x80 ∧ b ≠ '\x00') ∧ 2 ≤ rest.length ∧ '\x00' ∉ rest := by
  obtain ⟨long, ascii, nonzero⟩ := h
  match t with
  | [] => simp at long
  | [a] => simp at long
  | a :: b :: rest =>
    simp only [List.mem_cons, not_or] at nonzero
    exact ⟨a, b, rest, rfl, ⟨ascii a (by simp), Ne.symm nonzero.1⟩,
      ⟨ascii b (by simp), Ne.symm nonzero.2.1⟩, by simpa using long, nonzero.2.2⟩

/-- The first four bytes of a recognizable text show its encoding and its mark. -/
theorem detect?_write (h : IsRecognizable t) (e : Encoding) (marked : Bool) :
    Charset.detect? (e.write marked t) = some (e.charset marked) := by
  obtain ⟨a, b, rest, rfl, ⟨asciiA, nonzeroA⟩, ⟨asciiB, nonzeroB⟩, long, nonzero⟩ :=
    exists_eq_cons h
  have first := ofNat_ne_zero asciiA nonzeroA
  have second := ofNat_ne_zero asciiB nonzeroB
  -- The first byte of the text is none of a mark.
  have notFE : UInt8.ofNat a.toNat ≠ 0xFE := ofNat_ne_of_toNat_lt asciiA (by decide)
  have notFF : UInt8.ofNat a.toNat ≠ 0xFF := ofNat_ne_of_toNat_lt asciiA (by decide)
  have notEF : UInt8.ofNat a.toNat ≠ 0xEF := ofNat_ne_of_toNat_lt asciiA (by decide)
  cases e with
  | utf8 =>
    obtain ⟨x, y, more, encoded, third, fourth⟩ := exists_encode_eq_cons long nonzero
    cases marked with
    | false =>
      simp [write, encode, charset, Charset.detect?, utf8EncodeChar_of_ascii, *]
    | true => simp [write, encode, charset, Charset.detect?, utf8EncodeChar_of_ascii, utf8_mark, *]
  | utf16 order =>
    cases order <;> cases marked <;>
      simp [write, encode, charset, Charset.detect?, Utf16.encode, utf16_bytesOf_of_ascii,
        utf16_mark, *]
  | utf32 order =>
    cases order <;> cases marked <;>
      simp [write, encode, charset, Charset.detect?, Utf32.encode, utf32_bytesOf_of_ascii,
        utf32_mark, *]

end Encoding

/-! ## Texts of bodies -/

/-- A recognizable text is read from its bytes in every encoding, with or without a mark, where no
charset is named. -/
theorem textDetected_write {t : List Char} (h : IsRecognizable t) (e : Encoding) (marked : Bool) :
    textDetected (e.write marked t) = Text.ofChars t := by
  rw [textDetected, e.detect?_write h, Option.bind_some, e.decode?_write, Option.getD_some]

/-! ## Two names -/

section Splitting

variable {s : String} {b i : String.Pos.Raw} {found : List String}

/-! Splitting is by well-founded recursion, so it is followed from character to character. -/

theorem splitOnAux_letter (more : i.atEnd s = false) (letter : (i.get s == ' ') = false) :
    s.splitOnAux " " b i 0 found = s.splitOnAux " " b (i.next s) 0 found := by
  have differs : (i.get s == String.Pos.Raw.get " " 0) = false := letter
  rw [String.splitOnAux, if_neg (by simp [more]), if_neg (by simp [differs])]
  rfl

theorem splitOnAux_space (more : i.atEnd s = false) (space : (i.get s == ' ') = true) :
    s.splitOnAux " " b i 0 found =
      s.splitOnAux " " (i.next s) (i.next s) 0
        (String.Pos.Raw.extract s b ((i.next s).unoffsetBy ⟨1⟩) :: found) := by
  have same : (i.get s == String.Pos.Raw.get " " 0) = true := space
  rw [String.splitOnAux, if_neg (by simp [more]), if_pos same]
  dsimp only
  rw [if_pos (by decide)]
  rfl

theorem splitOnAux_end (done : i.atEnd s = true) :
    s.splitOnAux " " b i 0 found = (String.Pos.Raw.extract s b i :: found).reverse := by
  rw [String.splitOnAux, if_pos done]

end Splitting

theorem splitOn_utf8 : "utf 8".splitOn " " = ["utf", "8"] := by
  rw [String.splitOn, if_neg (by decide)]
  simp (disch := decide) only [splitOnAux_letter, splitOnAux_space, splitOnAux_end]
  decide

theorem splitOn_latin1 : "iso 8859 1".splitOn " " = ["iso", "8859", "1"] := by
  rw [String.splitOn, if_neg (by decide)]
  simp (disch := decide) only [splitOnAux_letter, splitOnAux_space, splitOnAux_end]
  decide

theorem find?_utf8 : Charset.find? "utf-8" = some (.charset (.utf8 false)) := by
  have normal : Charset.normalName "utf-8" = "utf_8" := by
    change "_".intercalate (("utf 8".splitOn " ").filter (· ≠ "")) = "utf_8"
    rw [splitOn_utf8]
    decide
  rw [Charset.find?, normal]
  decide +kernel

theorem find?_latin1 : Charset.find? "ISO-8859-1" = some (.charset .latin1) := by
  have normal : Charset.normalName "ISO-8859-1" = "iso_8859_1" := by
    change "_".intercalate (("iso 8859 1".splitOn " ").filter (· ≠ "")) = "iso_8859_1"
    rw [splitOn_latin1]
    decide
  rw [Charset.find?, normal]
  decide +kernel

/-- A body whose charset is named has a text, whatever its bytes are, if the name is that of an
encoding. -/
theorem bodyText_of_find? {name : String} {charset : Charset} (named : name ≠ "")
    (null : ¬ name.toList.contains '\x00') (found : Charset.find? name = some (.charset charset))
    (empty : charset.decodeReplacing [] = []) (body : List UInt8) :
    bodyText (some name) body = .ok (charset.decodeReplacing body) := by
  rw [bodyText, if_neg named]
  split
  · rename_i nothing
    rw [nothing, empty]
  · rw [textIn, if_neg null, found]

/-- A body that is named UTF-8 has a text, whatever its bytes are. -/
theorem bodyText_utf8 (body : List UInt8) :
    bodyText (some "utf-8") body = .ok (Charset.decodeReplacing (.utf8 false) body) :=
  bodyText_of_find? (by decide) (by simp) find?_utf8 rfl body

/-- A body that is named Latin-1 is read byte by byte. -/
theorem bodyText_latin1 (body : List UInt8) :
    bodyText (some "ISO-8859-1") body = .ok (Charset.decodeReplacing .latin1 body) :=
  bodyText_of_find? (by decide) (by simp) find?_latin1 rfl body

end InstanceIdentity
