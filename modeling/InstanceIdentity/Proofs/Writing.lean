import InstanceIdentity.Proofs.Grammar
import InstanceIdentity.Proofs.Utf8

/-!
# Writing JSON

An object of texts can be written in many ways. White space may stand around every token, and in
a string most characters of ASCII stand for themselves and every code point can be written by its
number, with two numbers for one beyond the first plane. However it is written, the reader gets
the members back, in order. Of a text only one thing is lost: two halves of a surrogate pair that
stand side by side are read as one character.

What is written so is a text of JSON whose only extent is that of one object.

## Main definitions

* `Json.Spelled`, `Json.WrittenString`, `Json.WrittenObject` — the ways of writing a code point, a
  string, and an object of texts
* `Json.write` — one way of writing an object of texts
* `Json.readBack` — a member as it is read back

## Main results

* `Json.writtenObject_write` — every object of texts can be written
* `Json.WrittenObject.isPlain` — what is written is ASCII
* `Json.read_of_written` — an object is read as it was written
-/

namespace InstanceIdentity

namespace Json

/-! ## Written objects -/

/-- The ways of writing a code point in a string. A quote and a backslash stand behind a backslash,
other printable characters of ASCII may stand for themselves, and everything may be written by
number, in two halves beyond the first plane. -/
inductive Spelled : CodePoint → List Char → Prop
  | quote : Spelled (.ofChar '"') ['\\', '"']
  | backslash : Spelled (.ofChar '\\') ['\\', '\\']
  | verbatim {c : Char} (printable : 0x20 ≤ c.toNat ∧ c.toNat < 0x7F)
      (plain : c ≠ '"' ∧ c ≠ '\\') : Spelled (.ofChar c) [c]
  | number {c : CodePoint} {s : List Char} (escaped : Escaped c.val s) : Spelled c s
  | halves {high low : CodePoint} {s s' : List Char} (isHigh : high.IsHigh) (isLow : low.IsLow)
      (escaped : Escaped high.val s) (escaped' : Escaped low.val s') :
      Spelled (.join high low) (s ++ s')

/-- The ways of writing a text between quotes. -/
inductive SpelledText : Text → List Char → Prop
  | nil : SpelledText [] []
  | cons {c : CodePoint} {t : Text} {s s' : List Char} (first : Spelled c s)
      (rest : SpelledText t s') : SpelledText (c :: t) (s ++ s')

/-- The ways of writing a text with its quotes. -/
inductive WrittenString : Text → List Char → Prop
  | intro {t : Text} {s : List Char} (spelled : SpelledText t s) :
      WrittenString t ('"' :: (s ++ ['"']))

/-- The ways of writing a key and its text, with white space around both. -/
inductive WrittenMember : Text × Text → List Char → Prop
  | intro {key t : Text} {before name between between' value after : List Char}
      (blank : IsBlank before) (written : WrittenString key name) (blank₁ : IsBlank between)
      (blank₂ : IsBlank between') (written' : WrittenString t value) (blank' : IsBlank after) :
      WrittenMember (key, t)
        (before ++ (name ++ (between ++ ':' :: (between' ++ (value ++ after)))))

/-- The ways of writing members, with commas between them. There is one at least. -/
inductive WrittenMembers : List (Text × Text) → List Char → Prop
  | last {member : Text × Text} {s : List Char} (written : WrittenMember member s) :
      WrittenMembers [member] s
  | cons {member : Text × Text} {members : List (Text × Text)} {s s' : List Char}
      (written : WrittenMember member s) (others : WrittenMembers members s') :
      WrittenMembers (member :: members) (s ++ ',' :: s')

/-- The ways of writing an object of texts, with white space around it. -/
inductive WrittenObject : List (Text × Text) → List Char → Prop
  | intro {members : List (Text × Text)} {before s after : List Char} (blank : IsBlank before)
      (written : WrittenMembers members s) (blank' : IsBlank after) :
      WrittenObject members (before ++ '\x7b' :: (s ++ '\x7d' :: after))

/-! ## A way of writing -/

/-- The first half of the surrogate pair of a code point. -/
def highHalf (c : CodePoint) : CodePoint := ⟨0xD800 + (c.val - 0x10000) / 0x400, by omega⟩

/-- The second half of the surrogate pair of a code point. -/
def lowHalf (c : CodePoint) : CodePoint := ⟨0xDC00 + (c.val - 0x10000) % 0x400, by omega⟩

/-- A code point by its number. -/
def writeNumber (c : CodePoint) : List Char := '\\' :: 'u' :: Text.hex 4 c.val

/-- A code point in a string: behind a backslash if it must be, for itself if it can be, and by
number otherwise. -/
def writeCodePoint (c : CodePoint) : List Char :=
  if c = .ofChar '"' then ['\\', '"']
  else if c = .ofChar '\\' then ['\\', '\\']
  else if 0x20 ≤ c.val ∧ c.val < 0x7F then [Char.ofNat c.val]
  else if c.val < 0x10000 then writeNumber c
  else writeNumber (highHalf c) ++ writeNumber (lowHalf c)

/-- A text with its quotes. -/
def writeText (t : Text) : List Char := '"' :: (t.flatMap writeCodePoint ++ ['"'])

/-- A key and its text. -/
def writeMember (member : Text × Text) : List Char :=
  writeText member.1 ++ ':' :: writeText member.2

/-- Members with commas between them. -/
def writeMembers : List (Text × Text) → List Char
  | [] => []
  | [member] => writeMember member
  | member :: members => writeMember member ++ ',' :: writeMembers members

/-- An object of texts, without white space. -/
def write (members : List (Text × Text)) : List Char :=
  '\x7b' :: (writeMembers members ++ ['\x7d'])

theorem hexValue?_hexDigit (n : Fin 16) : Text.hexValue? (Text.hexDigit n) = some n := by
  decide +revert

theorem escaped_writeNumber {c : CodePoint} (narrow : c.val < 0x10000) :
    Escaped c.val (writeNumber c) := by
  have digit (n : Nat) :
      Text.hexValue? (Text.hexDigit (n % 16)) = some ⟨n % 16, Nat.mod_lt n (by decide)⟩ :=
    hexValue?_hexDigit ⟨n % 16, Nat.mod_lt n (by decide)⟩
  have escaped := Escaped.intro (digit (c.val / 16 / 16 / 16)) (digit (c.val / 16 / 16))
    (digit (c.val / 16)) (digit c.val)
  have number : 16 * (16 * (16 * (c.val / 16 / 16 / 16 % 16) + c.val / 16 / 16 % 16) +
      c.val / 16 % 16) + c.val % 16 = c.val := by omega
  dsimp only at escaped
  rw [number] at escaped
  exact escaped

theorem isHigh_highHalf (c : CodePoint) : (highHalf c).IsHigh := by
  have := c.isLt
  rw [CodePoint.IsHigh, highHalf]
  dsimp only
  omega

theorem isLow_lowHalf (c : CodePoint) : (lowHalf c).IsLow := by
  rw [CodePoint.IsLow, lowHalf]
  dsimp only
  omega

theorem join_halves {c : CodePoint} (wide : 0x10000 ≤ c.val) :
    CodePoint.join (highHalf c) (lowHalf c) = c := by
  apply Fin.ext
  have := c.isLt
  simp only [CodePoint.join, highHalf, lowHalf]
  omega

/-- Beyond the first plane, the two halves are written. -/
theorem spelled_halves {c : CodePoint} (wide : 0x10000 ≤ c.val) :
    Spelled c (writeNumber (highHalf c) ++ writeNumber (lowHalf c)) := by
  have high := isHigh_highHalf c
  have low := isLow_lowHalf c
  have escaped : Escaped (highHalf c).val (writeNumber (highHalf c)) :=
    escaped_writeNumber (Nat.lt_trans high.2 (by decide))
  have escaped' : Escaped (lowHalf c).val (writeNumber (lowHalf c)) :=
    escaped_writeNumber (Nat.lt_trans low.2 (by decide))
  have spelled := Spelled.halves high low escaped escaped'
  rwa [join_halves wide] at spelled

theorem spelled_verbatim {c : CodePoint} (printable : 0x20 ≤ c.val ∧ c.val < 0x7F)
    (plain : c ≠ CodePoint.ofChar '"' ∧ c ≠ CodePoint.ofChar '\\') :
    Spelled c [Char.ofNat c.val] := by
  have number : (Char.ofNat c.val).toNat = c.val :=
    Utf8.toNat_ofNat_of_isValidChar (.inl (by omega))
  have same : CodePoint.ofChar (Char.ofNat c.val) = c := Fin.ext number
  have plain' : Char.ofNat c.val ≠ '"' ∧ Char.ofNat c.val ≠ '\\' := by
    constructor
    · intro quote
      exact plain.1 (by rw [← same, quote])
    · intro backslash
      exact plain.2 (by rw [← same, backslash])
  have spelled : Spelled (CodePoint.ofChar (Char.ofNat c.val)) [Char.ofNat c.val] :=
    .verbatim (by omega) plain'
  rwa [same] at spelled

theorem spelled_writeCodePoint (c : CodePoint) : Spelled c (writeCodePoint c) := by
  rw [writeCodePoint]
  split
  · rename_i same
    exact same ▸ .quote
  split
  · rename_i same
    exact same ▸ .backslash
  rename_i unquoted unescaped
  split
  · exact spelled_verbatim ‹_› ⟨unquoted, unescaped⟩
  split
  · exact .number (escaped_writeNumber ‹_›)
  · exact spelled_halves (by omega)

theorem writtenString_writeText (t : Text) : WrittenString t (writeText t) := by
  have spelled : SpelledText t (t.flatMap writeCodePoint) := by
    induction t with
    | nil => exact .nil
    | cons c t ih => exact .cons (spelled_writeCodePoint c) ih
  exact .intro spelled

theorem writtenMember_writeMember (member : Text × Text) :
    WrittenMember member (writeMember member) := by
  have written := WrittenMember.intro isBlank_nil (writtenString_writeText member.1) isBlank_nil
    isBlank_nil (writtenString_writeText member.2) isBlank_nil
  rwa [List.nil_append, List.nil_append, List.nil_append, List.append_nil] at written

theorem writtenMembers_writeMembers {members : List (Text × Text)} (some : members ≠ []) :
    WrittenMembers members (writeMembers members) := by
  induction members with
  | nil => exact absurd rfl some
  | cons member members ih =>
    cases members with
    | nil => exact .last (writtenMember_writeMember member)
    | cons next rest => exact .cons (writtenMember_writeMember member) (ih (by simp))

/-- An object of texts can be written, whatever the texts are. -/
theorem writtenObject_write {members : List (Text × Text)} (some : members ≠ []) :
    WrittenObject members (write members) := by
  have written := WrittenObject.intro isBlank_nil (writtenMembers_writeMembers some) isBlank_nil
  rwa [List.nil_append] at written

/-! ## As texts of JSON -/

variable {s s' : List Char} {c : Char} {t : Text} {n : Nat} {u : CodePoint} {member : Text × Text}
  {members : List (Text × Text)}

theorem DenotesText.single (h : Denotes s u) : DenotesText s [u] := by
  have denotes := DenotesText.cons h .nil
  rwa [List.append_nil] at denotes

/-- However a code point is written, what is written denotes it, perhaps in two halves that are
joined. -/
theorem Spelled.exists_denotesText (h : Spelled u s) : ∃ t, DenotesText s t ∧
    ∀ written, t.foldl (fun written c => Text.snoc c written) written = Text.snoc u written := by
  cases h with
  | quote => exact ⟨_, .single (.letter rfl), fun _ => rfl⟩
  | backslash => exact ⟨_, .single (.letter rfl), fun _ => rfl⟩
  | verbatim printable plain => exact ⟨_, .single (.verbatim printable.1 plain), fun _ => rfl⟩
  | number escaped =>
    have denotes := Denotes.number escaped
    rw [CodePoint.ofNat, Fin.ofNat_val_eq_self] at denotes
    exact ⟨_, .single denotes, fun _ => rfl⟩
  | @halves high low s s' isHigh isLow escaped escaped' =>
    have first := Denotes.number escaped
    have second := Denotes.number escaped'
    rw [CodePoint.ofNat, Fin.ofNat_val_eq_self] at first second
    refine ⟨_, .cons first (.single second), fun written => ?_⟩
    -- The first half waits for the second, and then they are one character.
    have waits : ¬ high.IsLow := by
      rw [CodePoint.IsLow]
      rw [CodePoint.IsHigh] at isHigh
      omega
    have pair : ¬ (CodePoint.join high low).IsLow := by
      rw [CodePoint.IsLow, CodePoint.join]
      dsimp only
      omega
    rw [List.foldl_cons, List.foldl_cons, List.foldl_nil, Text.snoc_of_not_isLow waits, Text.snoc,
      if_pos ⟨isHigh, isLow⟩, Text.snoc_of_not_isLow pair]

theorem DenotesText.append {t' : Text} (h : DenotesText s t) (h' : DenotesText s' t') :
    DenotesText (s ++ s') (t ++ t') := by
  induction h with
  | nil => exact h'
  | cons first rest ih =>
    rw [List.append_assoc]
    exact .cons first ih

theorem SpelledText.exists_denotesText (h : SpelledText t s) : ∃ t', DenotesText s t' ∧
    ∀ written, t'.foldl (fun written c => Text.snoc c written) written =
      t.foldl (fun written c => Text.snoc c written) written := by
  -- A code point may be written as two, and these join again before the next one is read.
  induction h with
  | nil => exact ⟨[], .nil, fun _ => rfl⟩
  | cons first rest ih =>
    obtain ⟨t, denotes, same⟩ := first.exists_denotesText
    obtain ⟨t', denotes', same'⟩ := ih
    refine ⟨t ++ t', denotes.append denotes', fun written => ?_⟩
    rw [List.foldl_append, same, same', List.foldl_cons]

theorem WrittenString.quoted (h : WrittenString t s) : Quoted (Text.joined t) s := by
  obtain ⟨spelled⟩ := h
  obtain ⟨t', denotes, same⟩ := spelled.exists_denotesText
  have quoted := Quoted.intro denotes
  rwa [Text.joined, same, ← Text.joined] at quoted

/-- A member as it is read back. -/
def readBack (member : Text × Text) : Text × Json :=
  (Text.joined member.1, .string (Text.joined member.2))

theorem WrittenMember.written (h : WrittenMember member s) :
    Written (.member (readBack member)) .flat s := by
  obtain ⟨blank, name, blank₁, blank₂, value, blank'⟩ := h
  exact .member blank name.quoted blank₁ (.item blank₂ (.string value.quoted) blank')

theorem WrittenMembers.written (h : WrittenMembers members s) :
    Written (.members (members.map readBack)) .flat s := by
  induction h with
  | last member => exact .lastMember member.written
  | cons member others ih => exact .members member.written ih

/-- However an object of texts is written, it is read back. -/
theorem read_of_written {room : Nat} (free : 0 < room) (h : WrittenObject members s) :
    read room s = .ok (.object (members.map readBack)) := by
  obtain ⟨blank, written, blank'⟩ := h
  exact read_of_members blank written.written blank' (Extent.fits_flat free)

/-! ## What is written -/

/-- The characters that JSON of texts is written with: ASCII without a null. -/
def IsPlain (c : Char) : Prop := c ≠ '\x00' ∧ c.toNat < 0x80

instance (c : Char) : Decidable (IsPlain c) :=
  inferInstanceAs (Decidable (c ≠ '\x00' ∧ c.toNat < 0x80))

theorem isPlain_of_isSpace (h : isSpace c = true) : IsPlain c := by
  simp only [isSpace, Bool.or_eq_true, decide_eq_true_eq] at h
  rcases h with ((rfl | rfl) | rfl) | rfl <;> decide

theorem isPlain_of_hexValue? {value : Fin 16} (h : Text.hexValue? c = some value) : IsPlain c := by
  refine ⟨?_, Text.toNat_lt_of_hexValue? h⟩
  rintro rfl
  cases h

theorem IsBlank.isPlain (h : IsBlank s) : ∀ c ∈ s, IsPlain c :=
  fun c member => isPlain_of_isSpace (h c member)

theorem Escaped.isPlain (h : Escaped n s) : ∀ c ∈ s, IsPlain c := by
  obtain ⟨first, second, third, fourth⟩ := h
  simp only [List.forall_mem_cons]
  exact ⟨by decide, by decide, isPlain_of_hexValue? first, isPlain_of_hexValue? second,
    isPlain_of_hexValue? third, isPlain_of_hexValue? fourth, by simp⟩

theorem Spelled.isPlain (h : Spelled u s) : ∀ c ∈ s, IsPlain c := by
  cases h with
  | quote => exact List.all_iff_forall_prop.mp (by decide)
  | backslash => exact List.all_iff_forall_prop.mp (by decide)
  | @verbatim c printable plain =>
    refine List.forall_mem_singleton.mpr ⟨?_, by omega⟩
    rintro rfl
    exact absurd printable.1 (by decide)
  | number escaped => exact escaped.isPlain
  | halves isHigh isLow escaped escaped' =>
    exact List.forall_mem_append.mpr ⟨escaped.isPlain, escaped'.isPlain⟩

theorem SpelledText.isPlain (h : SpelledText t s) : ∀ c ∈ s, IsPlain c := by
  induction h with
  | nil => simp
  | cons first rest ih => exact List.forall_mem_append.mpr ⟨first.isPlain, ih⟩

theorem WrittenString.isPlain (h : WrittenString t s) : ∀ c ∈ s, IsPlain c := by
  obtain ⟨spelled⟩ := h
  simp only [List.forall_mem_cons, List.forall_mem_append]
  exact ⟨by decide, spelled.isPlain, by decide, by simp⟩

theorem WrittenMember.isPlain (h : WrittenMember member s) : ∀ c ∈ s, IsPlain c := by
  obtain ⟨blank, name, blank₁, blank₂, value, blank'⟩ := h
  simp only [List.forall_mem_cons, List.forall_mem_append]
  exact ⟨blank.isPlain, name.isPlain, blank₁.isPlain, by decide, blank₂.isPlain, value.isPlain,
    blank'.isPlain⟩

theorem WrittenMembers.isPlain (h : WrittenMembers members s) : ∀ c ∈ s, IsPlain c := by
  induction h with
  | last written => exact written.isPlain
  | cons written others ih =>
    simp only [List.forall_mem_cons, List.forall_mem_append]
    exact ⟨written.isPlain, by decide, ih⟩

/-- An object of texts is written in ASCII, without a null. -/
theorem WrittenObject.isPlain (h : WrittenObject members s) : ∀ c ∈ s, IsPlain c := by
  obtain ⟨blank, written, blank'⟩ := h
  simp only [List.forall_mem_cons, List.forall_mem_append]
  exact ⟨blank.isPlain, by decide, written.isPlain, by decide, blank'.isPlain⟩

/-- Two quotes, a colon and two quotes more are the shortest member. -/
theorem WrittenMembers.length_ge (h : WrittenMembers members s) : 5 ≤ s.length := by
  have single {member : Text × Text} {s : List Char} (h : WrittenMember member s) :
      5 ≤ s.length := by
    obtain ⟨-, ⟨-⟩, -, -, ⟨-⟩, -⟩ := h
    simp only [List.length_append, List.length_cons]
    omega
  cases h with
  | last written => exact single written
  | cons written others =>
    have := single written
    rw [List.length_append]
    omega

theorem WrittenObject.length_ge (h : WrittenObject members s) : 4 ≤ s.length := by
  obtain ⟨-, written, -⟩ := h
  have := written.length_ge
  simp only [List.length_append, List.length_cons]
  omega

end Json

end InstanceIdentity
