import InstanceIdentity.Unicode.Combining
import InstanceIdentity.Unicode.Joining
import InstanceIdentity.Unicode.Script

/-!
# Characters that depend on their neighbours

A few characters are allowed in a label only where they mean something: the joiners
in cursive scripts, some punctuation beside letters of its script, and digits of one
of two sets that look alike.

## Main definitions

* `Idna.isJoinerPlace` — where the joiners may stand
* `Idna.isPunctuationPlace` — where the other ones may
-/

namespace InstanceIdentity

namespace Idna

open Unicode (combiningClass joining)

/-- Whether the nearest character before is one that suppresses a vowel. -/
def followsVirama (before : List Char) : Bool :=
  before.head?.any fun c => combiningClass c.toNat = 9

/-- How the nearest character joins that is not transparent. -/
def nearestJoining? (s : List Char) : Option Unicode.Joining :=
  (s.map joining).find? fun j => j ≠ .transparent

/-- Whether a joiner may stand between the characters before it, the nearest first, and those after
it. The one that parts letters may also stand between two that join. -/
def isJoinerPlace (c : Char) (before after : List Char) : Bool :=
  if c = '\u200C' then
    followsVirama before ||
      ((nearestJoining? before).any (fun j => j = .after || j = .both) &&
        (nearestJoining? after).any (fun j => j = .before || j = .both))
  else if c = '\u200D' then followsVirama before
  else false

/-- Whether a text has a character in a closed range. -/
def hasWithin (first last : Nat) (s : List Char) : Bool :=
  s.any fun c => first ≤ c.toNat && c.toNat ≤ last

/-- Whether a text has a character of a script that the middle dot of Japanese belongs to. -/
def hasJapanese (s : List Char) : Bool :=
  s.any fun c =>
    c ≠ '\u30FB' &&
      (Unicode.Script.hiragana.holds c || Unicode.Script.katakana.holds c ||
        Unicode.Script.han.holds c)

/-- Whether punctuation, or a digit, may stand between the characters before it, the nearest first,
and those after it. -/
def isPunctuationPlace (c : Char) (before after : List Char) : Bool :=
  let n := c.toNat
  if n = 0xB7 then before.head? = some 'l' && after.head? = some 'l'
  else if n = 0x375 then after.head?.any Unicode.Script.greek.holds
  else if n = 0x5F3 ∨ n = 0x5F4 then before.head?.any Unicode.Script.hebrew.holds
  else if n = 0x30FB then hasJapanese before || hasJapanese after
  else if 0x660 ≤ n ∧ n ≤ 0x669 then
    !hasWithin 0x6F0 0x6F9 before && !hasWithin 0x6F0 0x6F9 after
  else if 0x6F0 ≤ n ∧ n ≤ 0x6F9 then
    !hasWithin 0x660 0x669 before && !hasWithin 0x660 0x669 after
  else false

end Idna

end InstanceIdentity
