import InstanceIdentity.Text.Hexadecimal
import InstanceIdentity.Text.Split

/-!
# Tables of characters

A property of characters is a table of code points. The tables are long, and they are
written in short: a line holds rows with blanks between them, and a row holds
hexadecimal numbers with hyphens between them.

## Main definitions

* `Unicode.rows` — the rows of a table
* `Unicode.ranges` — a table whose rows are ranges
* `Unicode.isWithin` — whether a number lies in one of several ranges
-/

namespace InstanceIdentity

namespace Unicode

/-- The number that hexadecimal digits write. -/
def number (digits : List Char) : Nat :=
  digits.foldl (fun n c => 16 * n + ((Text.hexValue? c).map Fin.val).getD 0) 0

/-- The rows of a table. -/
def rows (lines : List String) : List (List Nat) :=
  lines.flatMap fun line =>
    (Text.split ' ' line.toList).map fun row => (Text.split '-' row).map number

/-- The closed range that a row stands for. One number is a range of its own. -/
def range? : List Nat → Option (Nat × Nat)
  | [n] => some (n, n)
  | [first, last] => some (first, last)
  | _ => none

/-- A table whose rows are closed ranges. -/
def ranges (lines : List String) : List (Nat × Nat) := (rows lines).filterMap range?

/-- Whether a number lies in one of several closed ranges. -/
def isWithin (ranges : List (Nat × Nat)) (n : Nat) : Bool :=
  ranges.any fun range => range.1 ≤ n && n ≤ range.2

end Unicode

end InstanceIdentity
