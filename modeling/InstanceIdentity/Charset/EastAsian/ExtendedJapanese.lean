import InstanceIdentity.Charset.EastAsian.ExtendedGrid
import InstanceIdentity.Charset.EastAsian.Japanese

/-!
# Extended Japanese charsets

The extended standard has two planes, and two editions: the second one adds some
characters to the first plane and exchanges one of the second plane. Shift-JIS puts the
second plane behind the first one. EUC leads over to it with a byte that leads to the
grid of rarer characters as well.

## Main definitions

* `EastAsian.Edition` — the editions
* `EastAsian.firstPlane?`, `EastAsian.secondPlane?` — the characters at a place of a plane
* `EastAsian.extendedShiftJisFront`, `EastAsian.extendedEucFront` — the first characters in
  Shift-JIS and EUC
-/

namespace InstanceIdentity

namespace EastAsian

/-- The editions of the extended standard. -/
inductive Edition | first | second
  deriving DecidableEq, Repr

/-- The places of the first plane that only the second edition fills. -/
def laterKanji : List (Nat × Nat) :=
  [(0x2E, 0x21), (0x2F, 0x7E), (0x4F, 0x54), (0x4F, 0x7E), (0x74, 0x27), (0x7E, 0x7A),
   (0x7E, 0x7B), (0x7E, 0x7C), (0x7E, 0x7D), (0x7E, 0x7E)]

/-- The characters at a place of the first plane, mostly one. -/
def firstPlane? (e : Edition) (row column : Nat) : Option (List Char) :=
  if e = .first ∧ (row, column) ∈ laterKanji then none
  else
    (extendedPairs.lookup (row, column)).or
      (((kanji.character? row column).or
        (extendedKanji.characterAmong? extendedRows row column)).map fun c => [c])

/-- The character at a place of the second plane. -/
def secondPlane? (e : Edition) (row column : Nat) : Option Char :=
  if e = .first ∧ row = 0x7D ∧ column = 0x3B then some '鬝'
  else furtherKanji.characterAmong? furtherRows row column

/-- Two bytes at a place of the first plane. A place that is left empty by the first edition only is
invalid with both of them. -/
def firstPlaneFront (e : Edition) (row column : Nat) : Front Char :=
  match firstPlane? e row column with
  | some cs => .characters cs 1
  | none => .invalid (if (row, column) ∈ laterKanji then 1 else 0)

/-- Two bytes of Shift-JIS, given by their numbers. Behind the rows of the first plane come those of
the second one. One place has a narrow character. -/
def shiftedPair (e : Edition) (row column : Nat) : Front Char :=
  let row := 2 * row + column / 94
  let column := 0x21 + column % 94
  if row < 94 then
    if row = 0 ∧ column = 0x40 then .characters ['\\'] 1 else firstPlaneFront e (0x21 + row) column
  else
    match secondPlane? e (furtherRows.getD (row - 94) 0) column with
    | some c => .characters [c] 1
    | none => .invalid 0

/-- The first characters in Shift-JIS. -/
def extendedShiftJisFront (e : Edition) (first : Nat) (rest : List UInt8) : Front Char :=
  if first = 0x5C then .characters ['¥'] 0
  else if first = 0x7E then .characters ['‾'] 0
  else if first < 0x80 then .characters [Char.ofNat first] 0
  else
    match katakana? first, shiftedRow? first, rest with
    | some c, _, _ => .characters [c] 0
    | none, none, _ => .invalid 0
    | none, some _, [] => .unfinished
    | none, some row, second :: _ =>
      match shiftedColumn? second.toNat with
      | some column => shiftedPair e row column
      | none => .invalid 0

/-- Two bytes of EUC. One place has a wide character. -/
def eucPair (e : Edition) (first second : Nat) : Front Char :=
  if first = 0x8E then
    match katakana? second with
    | some c => .characters [c] 1
    | none => .invalid 0
  else if first = 0xA2 ∧ second = 0xB2 then .characters ['～'] 1
  else firstPlaneFront e (first - 0x80) (second - 0x80)

/-- The first characters in EUC. -/
def extendedEucFront (e : Edition) (first : Nat) (rest : List UInt8) : Front Char :=
  if first < 0x80 then .characters [Char.ofNat first] 0
  else if first = 0x8F then
    match rest with
    | second :: third :: _ =>
      let row := second.toNat - 0x80
      let column := third.toNat - 0x80
      match (secondPlane? e row column).or (rareKanji.character? row column) with
      | some c => .characters [c] 2
      | none => .invalid 0
    | _ => .unfinished
  else
    match rest with
    | [] => .unfinished
    | second :: _ => eucPair e first second.toNat

end EastAsian

end InstanceIdentity
