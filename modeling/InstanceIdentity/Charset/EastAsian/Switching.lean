import InstanceIdentity.Charset.CodePage
import InstanceIdentity.Charset.EastAsian.Chinese
import InstanceIdentity.Charset.EastAsian.ExtendedJapanese
import InstanceIdentity.Charset.EastAsian.Korean

/-!
# Switching charsets

A switching charset writes several sets of characters with the same bytes below 0x80.
Escape sequences name the sets in force: the first one for plain bytes, the second one
between a shift out and a shift in, and a third one for single characters.

## Main definitions

* `EastAsian.CharacterSet` — the sets of characters
* `EastAsian.Switching`, `EastAsian.InForce` — what a charset knows, and what is in force
* `EastAsian.Switching.front` — the first characters, and what is in force behind them
-/

namespace InstanceIdentity

namespace EastAsian

/-- The sets of characters that escape sequences name. -/
inductive CharacterSet
  | ascii | roman | katakana | kanji | oldKanji | rareKanji | hanzi | hangul | latin | greek
  | extendedKanji (e : Edition) | furtherKanji
  deriving DecidableEq, Repr

namespace CharacterSet

/-- The number of bytes of a character. -/
def width : CharacterSet → Nat
  | .ascii | .roman | .katakana | .latin | .greek => 1
  | .kanji | .oldKanji | .rareKanji | .hanzi | .hangul => 2
  | .extendedKanji _ | .furtherKanji => 2

/-- The last byte of the escape sequence that names a set. -/
def lastByte : CharacterSet → Char
  | .ascii | .kanji => 'B'
  | .roman => 'J'
  | .katakana => 'I'
  | .oldKanji => '@'
  | .rareKanji => 'D'
  | .hanzi | .latin => 'A'
  | .hangul => 'C'
  | .greek => 'F'
  | .extendedKanji .first => 'O'
  | .furtherKanji => 'P'
  | .extendedKanji .second => 'Q'

/-- The character of a byte and, in a set of two bytes, the next one. Two sets have single
characters only, and at some places the extended set has several characters. -/
def character? (s : CharacterSet) (first second : Nat) : Option Char :=
  match s with
  | .ascii => some (Char.ofNat first)
  | .roman =>
    if first = 0x5C then some '¥' else if first = 0x7E then some '‾' else some (Char.ofNat first)
  | .katakana => katakana? (first + 0x80)
  | .kanji | .oldKanji => EastAsian.kanji.character? first second
  | .rareKanji => EastAsian.rareKanji.character? first second
  | .hanzi => gb2312? (first + 0x80) (second + 0x80)
  | .hangul => EastAsian.hangul.character? first second
  | .furtherKanji => secondPlane? .second first second
  | .latin | .greek | .extendedKanji _ => none

/-- The characters of a byte and, in a set of two bytes, the next one. -/
def characters? (s : CharacterSet) (first second : Nat) : Option (List Char) :=
  match s with
  | .extendedKanji e => firstPlane? e first second
  | s => (s.character? first second).map fun c => [c]

/-- The Greek character of a byte in the upper half of the page, which has three fewer than the
page of today. -/
def greek? (b : Nat) : Option Char :=
  if b = 0xA4 ∨ b = 0xA5 ∨ b = 0xAA then none
  else
    match CodePage.all.find? fun p => p.name = "iso8859_7" with
    | some p => CodePage.unit p.first p.characters.toList.toArray (UInt8.ofNat b)
    | none => none

/-- The single character of a byte, in a set that has any. -/
def single? (s : CharacterSet) (b : Nat) : Option Char :=
  match s with
  | .ascii => if b < 0x80 then some (Char.ofNat b) else none
  | .latin => if b < 0x80 then some (Char.ofNat (b + 0x80)) else none
  | .greek => if b < 0x80 then greek? (b + 0x80) else some (Char.ofNat (b - 0x80))
  | _ => none

end CharacterSet

/-- What a switching charset knows: its sets besides ASCII, and whether it has shifts, single
characters of a third set, and an announcement before the sequence for kanji. -/
structure Switching where
  sets : List CharacterSet
  shifts : Bool
  singles : Bool
  announcement : Bool
  deriving DecidableEq, Repr

/-- What is in force: the three sets, whether the second one is, and whether bytes stand for
themselves up to the end of an unknown escape sequence. -/
structure InForce where
  plain : CharacterSet
  shifted : CharacterSet
  single : CharacterSet
  isShifted : Bool
  isUnknown : Bool

/-- What is in force at the beginning. -/
def InForce.start : InForce := ⟨.ascii, .ascii, .ascii, false, false⟩

/-- Where an escape sequence ends: behind so many bytes, further on than sixteen of them, or not
within the bytes there are. -/
inductive EscapeEnd
  | behind (length : Nat)
  | tooFar
  | unfinished

namespace Switching

/-- Whether a byte ends an escape sequence. -/
def endsEscape (b : Nat) : Bool := 0x40 ≤ b && b ≤ 0x5A

/-- The end of an escape sequence, from one of its places on. An announcement and the byte behind it
are passed over. -/
def escapeEnd (k : Switching) (place : Nat) (bytes : List UInt8) : EscapeEnd :=
  if 16 ≤ place then .tooFar
  else
    match bytes with
    | [] => .unfinished
    | b :: rest =>
      if endsEscape b.toNat then .behind (place + 1)
      else if k.announcement ∧ b = 0x26 ∧ rest.head? = some 0x40 then
        escapeEnd k (place + 3) (rest.drop 2)
      else escapeEnd k (place + 1) rest
termination_by bytes.length
decreasing_by
  all_goals simp only [List.length_drop, List.length_cons]; omega

/-- The set with a width and a last byte. -/
def set? (k : Switching) (width : Nat) (last : Char) : Option CharacterSet :=
  (.ascii :: k.sets).find? fun s => s.width = width ∧ s.lastByte = last

/-- What is in force behind an escape sequence, given by its characters but the first one. -/
def escape? (k : Switching) (s : InForce) (sequence : List Char) : Option InForce :=
  match sequence with
  | ['$', last] => (k.set? 2 last).map fun c => ⟨c, s.shifted, s.single, s.isShifted, false⟩
  | ['(', last] => (k.set? 1 last).map fun c => ⟨c, s.shifted, s.single, s.isShifted, false⟩
  | [')', last] => (k.set? 1 last).map fun c => ⟨s.plain, c, s.single, s.isShifted, false⟩
  | ['.', last] =>
    if k.singles then
      (k.set? 1 last).map fun c => ⟨s.plain, s.shifted, c, s.isShifted, false⟩
    else none
  | ['$', '(', last] => (k.set? 2 last).map fun c => ⟨c, s.shifted, s.single, s.isShifted, false⟩
  | ['$', ')', last] => (k.set? 2 last).map fun c => ⟨s.plain, c, s.single, s.isShifted, false⟩
  | [_, _, '\x1b', '$', 'B'] =>
    if k.announcement then some ⟨.kanji, s.shifted, s.single, s.isShifted, false⟩ else none
  | _ => none

/-- What an escape character opens. -/
def escapeFront (k : Switching) (s : InForce) (rest : List UInt8) : Front Char × InForce :=
  match rest with
  | [] => (.unfinished, s)
  | second :: behind =>
    if ['(', ')', '$', '.', '&'].contains (Char.ofNat second.toNat) then
      match k.escapeEnd 1 rest with
      | .behind length =>
        let sequence := (rest.take (length - 1)).map fun b => Char.ofNat b.toNat
        match k.escape? s sequence with
        | some next => (.characters [] (length - 1), next)
        | none => (.invalid (length - 1), s)
      | .tooFar => (.invalid 0, s)
      | .unfinished => (.unfinished, s)
    else if k.singles ∧ second = 0x4E then
      match behind with
      | [] => (.unfinished, s)
      | third :: _ =>
        match s.single.single? third.toNat with
        | some c => (.characters [c] 2, s)
        | none => (.invalid 2, s)
    else (.characters ['\x1b'] 0, ⟨s.plain, s.shifted, s.single, s.isShifted, true⟩)

/-- A byte that belongs to a character of the set in force. -/
def setFront (s : InForce) (first : Nat) (rest : List UInt8) : Front Char :=
  let set := if s.isShifted then s.shifted else s.plain
  if set.width = 1 then
    match set.characters? first 0 with
    | some cs => .characters cs 0
    | none => .invalid 0
  else
    match rest with
    | [] => .unfinished
    | second :: _ =>
      match set.characters? first second.toNat with
      | some cs => .characters cs 1
      | none => .invalid 1

/-- The first characters of a byte sequence, and what is in force behind them. The end of a line
ends a shift. -/
def front (k : Switching) (s : InForce) (first : Nat) (rest : List UInt8) : Front Char × InForce :=
  if s.isUnknown then
    (.characters [Char.ofNat first] 0,
      ⟨s.plain, s.shifted, s.single, s.isShifted, !endsEscape first⟩)
  else if first = 0x1B then k.escapeFront s rest
  else if k.shifts ∧ first = 0x0F then
    (.characters [] 0, ⟨s.plain, s.shifted, s.single, false, false⟩)
  else if k.shifts ∧ first = 0x0E then
    (.characters [] 0, ⟨s.plain, s.shifted, s.single, true, false⟩)
  else if first = 0x0A then
    (.characters ['\n'] 0, ⟨s.plain, s.shifted, s.single, false, false⟩)
  else if first < 0x20 then (.characters [Char.ofNat first] 0, s)
  else if 0x80 ≤ first then (.invalid 0, s)
  else (setFront s first rest, s)

end Switching

end EastAsian

end InstanceIdentity
