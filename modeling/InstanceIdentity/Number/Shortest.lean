import InstanceIdentity.Number.Binary64

/-!
# The shortest decimal form

A binary number is written with the fewest decimal digits that read back to it; of
several such decimals the nearest is taken, and of two equally near ones the even
one. The search goes through the powers of ten from the largest down. On each it
tests the two multiples next to the value, and the first power on which one reads
back gives the digits: a coarser power means fewer digits, and if any multiple
reads back, one of the two neighbours does.

The digits are written positionally while the first one stands between the
fourth place after the point and the sixteenth before it, otherwise with an
exponent. A number always shows a point or an exponent.

## Main definitions

* `Binary64.readsBack` — whether a multiple of a power of ten rounds to a rank
* `Binary64.shortest` — the digits and the power of ten
* `Binary64.text` — the written number
-/

namespace InstanceIdentity

namespace Binary64

/-- The power of ten and the unit `2 ^ (-1075)` scaled to whole numbers: the first component is
`10 ^ k` in scaled units, the second is one scaled unit. -/
def scale (k : Int) : Nat × Nat :=
  (tenTo k.toNat * twoTo 1075, tenTo (-k).toNat)

/-- Whether `n * 10 ^ k` rounds to the rank: it lies between the midpoints to the neighbouring
magnitudes, and a midpoint itself counts for the even rank. -/
def readsBack (rank n : Nat) (k : Int) : Bool :=
  let (grid, unit) := scale k
  let low := (units (rank - 1) + units rank) * unit
  let high := (units rank + units (rank + 1)) * unit
  if rank % 2 = 0 then low ≤ n * grid && n * grid ≤ high
  else low < n * grid && n * grid < high

/-- The multiple of `10 ^ k` that reads back to the rank and is nearest to it, if there is one. -/
def nearestMultiple? (rank : Nat) (k : Int) : Option Nat :=
  let (grid, unit) := scale k
  let value := 2 * units rank * unit
  let n := value / grid
  match readsBack rank n k, readsBack rank (n + 1) k with
  | true, false => some n
  | false, true => some (n + 1)
  | true, true =>
    match compare (2 * (value % grid)) grid with
    | .lt => some n
    | .gt => some (n + 1)
    | .eq => if n % 2 = 0 then some n else some (n + 1)
  | false, false => none

/-- Searches the powers of ten from `k` down, `steps` of them, and ends on the next one. -/
def search (rank : Nat) : Nat → Int → Nat × Int
  | 0, k => ((nearestMultiple? rank k).getD 0, k)
  | steps + 1, k =>
    match nearestMultiple? rank k with
    | some n => (n, k)
    | none => search rank steps (k - 1)

/-- The digits and the power of ten of the shortest decimal. The powers run from `10 ^ 308`, near
the greatest magnitude, to `10 ^ (-324)`, below the least one. -/
def shortest (rank : Nat) : Nat × Int := search rank 632 308

/-- A run of zeros. -/
def zeros (n : Nat) : String := String.ofList (List.replicate n '0')

/-- The exponent mark, a sign and at least two digits. -/
def exponentText (e : Int) : String :=
  let digits := toString e.natAbs
  let padded := if e.natAbs < 10 then "0" ++ digits else digits
  if e < 0 then "e-" ++ padded else "e+" ++ padded

/-- Lays out decimal digits whose first one has the place value `10 ^ e`. -/
def layout (digits : List Char) (e : Int) : String :=
  if -4 ≤ e ∧ e < 0 then "0." ++ zeros ((-e).toNat - 1) ++ String.ofList digits
  else if 0 ≤ e ∧ e < 16 then
    let whole := digits.take (e.toNat + 1)
    let fraction := digits.drop (e.toNat + 1)
    String.ofList whole ++ zeros (e.toNat + 1 - whole.length) ++ "." ++
      (if fraction = [] then "0" else String.ofList fraction)
  else
    let fraction := digits.drop 1
    String.ofList (digits.take 1) ++
      (if fraction = [] then "" else "." ++ String.ofList fraction) ++ exponentText e

/-- A magnitude as text. -/
def magnitudeText (rank : Nat) : String :=
  if rank = 0 then "0.0"
  else
    let (n, k) := shortest rank
    let digits := Nat.toDigits 10 n
    layout digits (k + digits.length - 1)

/-- A number as text. -/
def text : Binary64 → String
  | .nan => "nan"
  | .infinity negative => if negative then "-inf" else "inf"
  | .finite negative rank => (if negative then "-" else "") ++ magnitudeText rank.val

end Binary64

end InstanceIdentity
