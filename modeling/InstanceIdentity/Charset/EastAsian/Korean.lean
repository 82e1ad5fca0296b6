import InstanceIdentity.Charset.EastAsian.KoreanGrid
import InstanceIdentity.Charset.Sequence

/-!
# Korean charsets

A Korean syllable has an initial, a vowel, and maybe a final. EUC has the syllables of
the grid and spells out the other ones; the unified charset adds the missing ones in
order; and the combining charset writes each syllable as the numbers of its parts.

## Main definitions

* `EastAsian.syllable` — the syllable of three parts
* `EastAsian.eucKrFront` — the first character in EUC
* `EastAsian.unifiedKorean?` — the character of two bytes of the unified charset
* `EastAsian.combining?` — the character of two bytes of the combining charset
-/

namespace InstanceIdentity

namespace EastAsian

/-- The consonants that begin a syllable. -/
def initials : List Char := "ㄱㄲㄴㄷㄸㄹㅁㅂㅃㅅㅆㅇㅈㅉㅊㅋㅌㅍㅎ".toList

/-- The consonants that end a syllable. -/
def finals : List Char := "ㄱㄲㄳㄴㄵㄶㄷㄹㄺㄻㄼㄽㄾㄿㅀㅁㅂㅄㅅㅆㅇㅈㅊㅋㅌㅍㅎ".toList

/-- The syllable of an initial, a vowel and a final, given by their numbers. A syllable without a
final has the number zero in its place. -/
def syllable (initial vowel final : Nat) : Char :=
  Char.ofNat (0xAC00 + initial * 588 + vowel * 28 + final)

/-- The consonant or the vowel that a byte stands for in a syllable that is spelled out. -/
def letter (b : UInt8) : Char := Char.ofNat (0x3090 + b.toNat)

/-- The syllable that an initial, a vowel and a final spell out. A filler takes the place of a final
that is missing. -/
def spelled? (initial vowel final : UInt8) : Option Char :=
  let vowel := vowel.toNat
  let finalNumber? :=
    if final = 0xD4 then some 0 else (finals.idxOf? (letter final)).map (· + 1)
  match initials.idxOf? (letter initial), finalNumber? with
  | some i, some f =>
    if 0xBF ≤ vowel ∧ vowel ≤ 0xD3 then some (syllable i (vowel - 0xBF) f) else none
  | _, _ => none

/-- The character of two bytes of EUC. -/
def eucKr? (first second : Nat) : Option Char :=
  if second < 0x80 then none else hangul.character? (first - 0x80) (second - 0x80)

/-- The first character in EUC. A filler opens a syllable that is spelled out in eight bytes. -/
def eucKrFront (first : Nat) (rest : List UInt8) : Front Char :=
  if first = 0xA4 ∧ rest.head? = some 0xD4 then
    match rest with
    | _ :: a :: initial :: b :: vowel :: c :: final :: _ =>
      if a = 0xA4 ∧ b = 0xA4 ∧ c = 0xA4 then
        match spelled? initial vowel final with
        | some s => .characters [s] 7
        | none => .invalid 0
      else .invalid 0
    | _ => .unfinished
  else pairFront eucKr? first rest

/-- The numbers of a rising list that are not in another one. -/
def without : List Nat → List Nat → List Nat
  | [], _ => []
  | n :: ns, [] => n :: ns
  | n :: ns, k :: ks => if n = k then without ns ks else n :: without ns (k :: ks)

/-- The code points of the syllables that are not in the grid. -/
def missingSyllables : Array Nat :=
  let known := (hangul.characters.toList.map Char.toNat).filter fun n => 0xAC00 ≤ n ∧ n < 0xD7A4
  (without ((List.range 11172).map (· + 0xAC00)) known).toArray

/-- The column of a second byte of the unified charset among those of the missing syllables. -/
def unifiedColumn? (second : Nat) : Option Nat :=
  if 0x41 ≤ second ∧ second ≤ 0x5A then some (second - 0x41)
  else if 0x61 ≤ second ∧ second ≤ 0x7A then some (second - 0x47)
  else if 0x81 ≤ second ∧ second ≤ 0xFE then some (second - 0x4D)
  else none

/-- The missing syllable of two bytes. The first 32 rows have 178 columns, and the other ones
84. -/
def missingSyllable? (first second : Nat) : Option Char :=
  match unifiedColumn? second with
  | some column =>
    if 0x81 ≤ first ∧ first ≤ 0xA0 then
      (missingSyllables[(first - 0x81) * 178 + column]?).map Char.ofNat
    else if 0xA1 ≤ first ∧ first ≤ 0xC6 ∧ column < 84 then
      (missingSyllables[32 * 178 + (first - 0xA1) * 84 + column]?).map Char.ofNat
    else none
  | none => none

/-- The character of two bytes of the unified charset. -/
def unifiedKorean? (first second : Nat) : Option Char :=
  (eucKr? first second).or (missingSyllable? first second)

/-- A part of a syllable in the combining charset: its number, or nothing in its place. -/
inductive Part
  | filler
  | number (n : Nat)

/-- The initial that five bits stand for. -/
def initialPart? (bits : Nat) : Option Part :=
  if bits = 1 then some .filler
  else if 2 ≤ bits ∧ bits ≤ 20 then some (.number (bits - 2))
  else none

/-- The vowel that five bits stand for. The numbers go on in groups of six. -/
def vowelPart? (bits : Nat) : Option Part :=
  if bits = 2 then some .filler
  else if 3 ≤ bits ∧ bits ≤ 29 ∧ 2 ≤ bits % 8 then some (.number (bits / 8 * 6 + bits % 8 - 3))
  else none

/-- The final that five bits stand for. -/
def finalPart? (bits : Nat) : Option Part :=
  if bits = 1 then some .filler
  else if 2 ≤ bits ∧ bits ≤ 17 then some (.number (bits - 1))
  else if 19 ≤ bits ∧ bits ≤ 29 then some (.number (bits - 2))
  else none

/-- The character of three parts: a blank, a single letter, or a syllable. -/
def combined? : Part → Part → Part → Option Char
  | .filler, .filler, .filler => some '\u3000'
  | .filler, .filler, .number f => finals[f - 1]?
  | .filler, .number v, .filler => some (Char.ofNat (0x314F + v))
  | .filler, .number _, .number _ => none
  | .number i, .filler, .filler => initials[i]?
  | .number _, .filler, .number _ => none
  | .number i, .number v, .filler => some (syllable i v 0)
  | .number i, .number v, .number f => some (syllable i v f)

/-- The character of two bytes whose bits are three parts of a syllable. -/
def combinedBits? (first second : Nat) : Option Char :=
  match initialPart? (first / 4 % 32), vowelPart? ((first * 8 + second / 32) % 32),
      finalPart? (second % 32) with
  | some i, some v, some f => combined? i v f
  | _, _, _ => none

/-- The character of two bytes outside of the syllables. Two rows of the grid share a first byte,
and the single letters of the grid are left out. -/
def besideSyllables? (first second : Nat) : Option Char :=
  let column? :=
    if 0x31 ≤ second ∧ second ≤ 0x7E then some (second - 0x31)
    else if 0x91 ≤ second ∧ second ≤ 0xFE then some (second - 0x43)
    else none
  let row? :=
    if 0xD9 ≤ first ∧ first ≤ 0xDE then some (2 * (first - 0xD9))
    else if 0xE0 ≤ first ∧ first ≤ 0xF9 then some (2 * first - 0x197)
    else none
  match row?, column? with
  | some row, some column =>
    if first = 0xDA ∧ 0xA1 ≤ second ∧ second ≤ 0xD3 then none
    else hangul.character? (0x21 + row + column / 94) (0x21 + column % 94)
  | _, _ => none

/-- The character of two bytes of the combining charset. -/
def combining? (first second : Nat) : Option Char :=
  if first < 0xD8 then combinedBits? first second else besideSyllables? first second

end EastAsian

end InstanceIdentity
