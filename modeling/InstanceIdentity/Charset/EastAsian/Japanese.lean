import InstanceIdentity.Charset.EastAsian.JapaneseGrid
import InstanceIdentity.Charset.Sequence

/-!
# Japanese charsets

Shift-JIS folds two rows of the grid into the columns of one first byte, which leaves
room for the narrow katakana in one byte. EUC sets the upper bit of the row and of the
column, and two bytes of its own lead over to the narrow katakana and to the grid of
rarer characters.

## Main definitions

* `EastAsian.shiftJisFront` — the first character in Shift-JIS
* `EastAsian.makerShiftJisFront` — the same with the additions of the makers
* `EastAsian.eucJpFront` — the first character in EUC
-/

namespace InstanceIdentity

namespace EastAsian

/-- The narrow katakana of a byte. -/
def katakana? (b : Nat) : Option Char :=
  if 0xA1 ≤ b ∧ b ≤ 0xDF then some (Char.ofNat (b + 0xFEC0)) else none

/-- A second byte of Shift-JIS as a number from 0 to 187. -/
def shiftedColumn? (second : Nat) : Option Nat :=
  if 0x40 ≤ second ∧ second ≤ 0x7E then some (second - 0x40)
  else if 0x80 ≤ second ∧ second ≤ 0xFC then some (second - 0x41)
  else none

/-- A first byte of Shift-JIS as a number. -/
def shiftedRow? (first : Nat) : Option Nat :=
  if 0x81 ≤ first ∧ first ≤ 0x9F then some (first - 0x81)
  else if 0xE0 ≤ first ∧ first ≤ 0xFC then some (first - 0xC1)
  else none

/-- The character of two bytes of Shift-JIS. -/
def shiftJis? (first second : Nat) : Option Char :=
  match shiftedRow? first, shiftedColumn? second with
  | some row, some column => kanji.character? (0x21 + 2 * row + column / 94) (0x21 + column % 94)
  | _, _ => none

/-- The first character in Shift-JIS. -/
def shiftJisFront (first : Nat) (rest : List UInt8) : Front Char :=
  match katakana? first with
  | some c => .characters [c] 0
  | none => pairFront shiftJis? first rest

/-- The places where the makers have a character of another form. -/
def makerForms : List ((Nat × Nat) × Char) :=
  [((0x81, 0x60), '～'), ((0x81, 0x61), '∥'), ((0x81, 0x7C), '－'), ((0x81, 0x91), '￠'),
   ((0x81, 0x92), '￡'), ((0x81, 0xCA), '￢')]

/-- The row of a first byte in the additions of the makers. -/
def makerRow? (first : Nat) : Option Nat :=
  [0x87, 0xED, 0xEE, 0xFA, 0xFB, 0xFC].idxOf? first

/-- The character of two bytes of the makers. Ten first bytes are for private use. -/
def makerShiftJis? (first second : Nat) : Option Char :=
  let privateUse := if 0xF0 ≤ first ∧ first ≤ 0xF9 then
    (shiftedColumn? second).map fun column => Char.ofNat (0xE000 + 188 * (first - 0xF0) + column)
    else none
  (((makerForms.lookup (first, second)).or
    ((makerRow? first).bind fun row => makerKanji.character? row second)).or
    privateUse).or (shiftJis? first second)

/-- The first character in Shift-JIS with the additions of the makers. A few more bytes stand for
characters of private use. -/
def makerShiftJisFront (first : Nat) (rest : List UInt8) : Front Char :=
  if first = 0x80 then .characters ['\x80'] 0
  else if first = 0xA0 then .characters ['\uF8F0'] 0
  else if 0xFD ≤ first then .characters [Char.ofNat (0xF8F1 + (first - 0xFD))] 0
  else
    match katakana? first with
    | some c => .characters [c] 0
    | none => pairFront makerShiftJis? first rest

/-- The character of two bytes of EUC. -/
def eucJp? (first second : Nat) : Option Char :=
  if first = 0x8E then katakana? second
  else if second < 0x80 then none
  else kanji.character? (first - 0x80) (second - 0x80)

/-- The first character in EUC. -/
def eucJpFront (first : Nat) (rest : List UInt8) : Front Char :=
  if first = 0x8F then
    match rest with
    | second :: third :: _ =>
      if second < 0x80 ∨ third < 0x80 then .invalid 0
      else
        match rareKanji.character? (second.toNat - 0x80) (third.toNat - 0x80) with
        | some c => .characters [c] 2
        | none => .invalid 0
    | _ => .unfinished
  else pairFront eucJp? first rest

end EastAsian

end InstanceIdentity
