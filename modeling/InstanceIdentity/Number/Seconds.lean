import InstanceIdentity.Fault
import InstanceIdentity.Number.Integer
import InstanceIdentity.Number.Shortest

/-!
# Time limits

A time limit is a number of seconds, whole or in floating point. The two kinds are
kept apart: a limit is passed on and written down in the kind it was given in.

## Main definitions

* `Seconds` — a limit
* `Seconds.elapsed` — whether a limit leaves no time at all
* `Seconds.text` — the written limit, or why it cannot be written
-/

namespace InstanceIdentity

/-- A number of seconds. -/
inductive Seconds
  | whole (n : Int)
  | floating (x : Binary64)
  deriving DecidableEq, Repr

namespace Seconds

/-- Whether a limit is zero or less. Not-a-number is neither. -/
def elapsed : Seconds → Bool
  | .whole n => n ≤ 0
  | .floating .nan => false
  | .floating (.infinity negative) => negative
  | .floating (.finite negative rank) => negative || rank.val = 0

/-- The fault of writing a whole number of too many digits. -/
def unwritable : Fault := .general "ValueError" (some (Text.ofString (excessMessage none)))

/-- A limit as text. -/
def text : Seconds → Except Fault String
  | .whole n => (writeInteger? n).elim (.error unwritable) .ok
  | .floating x => .ok x.text

end Seconds

end InstanceIdentity
