import InstanceIdentity.Idna.Allowed
import InstanceIdentity.Idna.Context
import InstanceIdentity.Idna.Punycode
import InstanceIdentity.Unicode.Composition
import InstanceIdentity.Unicode.Direction

/-!
# Labels of international names

A label of a name may hold characters outside ASCII if it is in canonical
composition, begins with no mark, keeps to the rules for hyphens, holds only allowed
characters, and runs in a clear direction. It is then written in ASCII behind a mark
of its own.

## Main definitions

* `Idna.runsClearly` — the rule on directions
* `Idna.isLabel` — the labels of international names
* `Idna.toAscii?` — the ASCII form of a label
-/

namespace InstanceIdentity

namespace Idna

open Unicode (Direction)

/-- The direction that the end of a label shows: that of the last character that is no mark. -/
def finalDirection? (directions : List Direction) : Option Direction :=
  directions.reverse.find? fun d => d ≠ .mark

/-- The rule for a label that begins from right to left: no letter runs the other way, the end is a
letter or a number, and all numbers are of one kind. -/
def runsLeft (directions : List Direction) : Bool :=
  directions.all (fun d => d ≠ .leftToRight && d ≠ .layout) &&
    (finalDirection? directions).any (fun d => d ≠ .neutral) &&
    !(directions.contains .europeanNumber && directions.contains .arabicNumber)

/-- The rule for a label that begins from left to right: no letter runs the other way, and the end
is a letter or a number. -/
def runsRight (directions : List Direction) : Bool :=
  directions.all (fun d => d ≠ .rightToLeft && d ≠ .arabicNumber && d ≠ .layout) &&
    (finalDirection? directions).any (fun d => d ≠ .neutral)

/-- Whether a label runs in a clear direction: nothing in it runs from right to left, or it follows
the rule for its first letter. Every direction has to be known. -/
def runsClearly (label : List Char) : Bool :=
  match label.mapM Unicode.direction? with
  | none => false
  | some directions =>
    (directions.all fun d => d ≠ .rightToLeft && d ≠ .arabicNumber) ||
      match directions.head? with
      | some .rightToLeft => runsLeft directions
      | some .leftToRight => runsRight directions
      | _ => false

/-- Whether the hyphens of a label are none of a reserved form: not at an end, and not two in the
third and fourth place. -/
def hyphensStandWell (label : List Char) : Bool :=
  (label.drop 2).take 2 ≠ ['-', '-'] && label.head? ≠ some '-' && label.getLast? ≠ some '-'

/-- Whether every character is allowed where it stands, from those before it, the nearest first. -/
def allAllowed (before : List Char) : List Char → Bool
  | [] => true
  | c :: rest =>
    (isAllowed c || isJoinerPlace c before rest || isPunctuationPlace c before rest) &&
      allAllowed (c :: before) rest

/-- The most characters that a name may have, with a point at its end. -/
def greatestName : Nat := 254

/-- The most characters that a label may have in ASCII. -/
def greatestLabel : Nat := 63

/-- Whether a text is a label of an international name. -/
def isLabel (label : List Char) : Bool :=
  label ≠ [] && label.length ≤ greatestName && Unicode.composed label = label &&
    hyphensStandWell label && !label.head?.any Unicode.isMark && allAllowed [] label &&
    runsClearly label

/-- The ASCII form of a label. -/
def toAscii? (label : List Char) : Option (List Char) :=
  let written :=
    if label.all fun c => c.toNat < 0x80 then label
    else "xn--".toList ++ Punycode.encode label
  if isLabel label && written.length ≤ greatestLabel then some written else none

end Idna

end InstanceIdentity
