import InstanceIdentity.Charset.EastAsian.HongKongGrid
import InstanceIdentity.Charset.EastAsian.TaiwaneseGrid
import InstanceIdentity.Charset.Sequence

/-!
# Charsets of Taiwan and Hong Kong

Big5 has the two halves of the rows. A maker has other forms at some places, and a few
characters behind the last one. Hong Kong has rows of its own.

## Main definitions

* `EastAsian.big5?` — the character of two bytes
* `EastAsian.makerBig5?` — the same with the forms and additions of a maker
* `EastAsian.hongKongFront` — the first characters in the charset of Hong Kong
-/

namespace InstanceIdentity

namespace EastAsian

/-- The character of two bytes. -/
def big5? (first second : Nat) : Option Char :=
  (traditionalLeft.character? first second).or (traditionalRight.character? first second)

/-- The places where the maker has a character of another form, or one more. -/
def makerBig5Forms : List ((Nat × Nat) × Char) :=
  [((0xA1, 0x45), '‧'), ((0xA1, 0x4E), '﹑'), ((0xA1, 0xC2), '¯'), ((0xA1, 0xE3), '～'),
   ((0xA1, 0xF2), '⊕'), ((0xA1, 0xF3), '⊙'), ((0xA2, 0x41), '∕'), ((0xA2, 0x42), '﹨'),
   ((0xA2, 0x44), '￥'), ((0xA2, 0x46), '￠'), ((0xA2, 0x47), '￡'), ((0xA3, 0xE1), '€')]

/-- The characters that the maker adds behind the last one. -/
def makerBig5Additions : Grid :=
  .ofLines 0xF9 0xD6 41 ["碁銹裏墻恒粧嫺╔╦╗╠╬╣╚╩╝╒╤╕╞╪╡╘╧╛╓╥╖╟╫╢╙╨╜║═╭╮╰╯▓"]

/-- The character of two bytes with the forms and additions of the maker. -/
def makerBig5? (first second : Nat) : Option Char :=
  ((makerBig5Forms.lookup (first, second)).or
    (makerBig5Additions.character? first second)).or (big5? first second)

/-- The characters of two bytes in the rows of Hong Kong. -/
def hongKongAddition? (first second : Nat) : Option (List Char) :=
  (hongKongPairs.lookup (first, second)).or
    (((hongKongLeft.characterAmong? hongKongRows first second).or
      (hongKongRight.characterAmong? hongKongRows first second)).map fun c => [c])

/-- The characters of two bytes in the charset of Hong Kong. In some rows the characters of Taiwan
do not count. -/
def hongKong? (first second : Nat) : Option (List Char) :=
  let isOwn := first = 0xC7 ∨ first = 0xC8 ∨ (first = 0xC6 ∧ 0xA1 ≤ second)
  let shared := if isOwn then none else big5? first second
  (shared.map fun c => [c]).or (hongKongAddition? first second)

/-- The first characters in the charset of Hong Kong. -/
def hongKongFront (first : Nat) (rest : List UInt8) : Front Char :=
  if first < 0x80 then .characters [Char.ofNat first] 0
  else
    match rest with
    | [] => .unfinished
    | second :: _ =>
      match hongKong? first second.toNat with
      | some cs => .characters cs 1
      | none => .invalid 0

end EastAsian

end InstanceIdentity
