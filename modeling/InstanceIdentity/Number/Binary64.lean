/-!
# Binary floating point

A finite number of the 64-bit binary format is given by its sign and by the rank of
its magnitude: the finite magnitudes, listed in ascending order from zero, are
numbered from 0. Every magnitude has one rank, neighbours differ by one, and a
magnitude is even in the sense of rounding exactly when its rank is even. All
arithmetic below is exact, in units of the least positive magnitude `2 ^ (-1074)`.

## Main definitions

* `Binary64` — numbers, infinities and not-a-number
* `twoTo`, `tenTo` — powers
* `Binary64.units` — the magnitude at a rank
* `Binary64.nearestRank` — rounding to nearest, ties to even
* `Binary64.nearest` — the number nearest to a quotient
-/

namespace InstanceIdentity

/-- A power of two. -/
abbrev twoTo (n : Nat) : Nat := Nat.pow 2 n

/-- A power of ten. -/
abbrev tenTo (n : Nat) : Nat := Nat.pow 10 n

/-- The number of finite magnitudes. -/
def finiteRanks : Nat := 2047 * twoTo 52

/-- A number of the 64-bit binary floating-point format. -/
inductive Binary64
  | nan
  | infinity (negative : Bool)
  | finite (negative : Bool) (rank : Fin finiteRanks)
  deriving DecidableEq, Repr

namespace Binary64

/-- The magnitude at a rank, in units of the least positive one. -/
def units (rank : Nat) : Nat :=
  if rank < twoTo 52 then rank
  else (twoTo 52 + rank % twoTo 52) * twoTo (rank / twoTo 52 - 1)

/-- The greatest rank whose magnitude is at most `n` units. -/
def rankBelow (n : Nat) : Nat :=
  let shift := n.log2 - 52
  shift * twoTo 52 + n / twoTo shift

/-- The rank whose magnitude is nearest to `num / den` units; a tie goes to the even rank. -/
def nearestRank (num den : Nat) : Nat :=
  let below := rankBelow (num / den)
  match compare (2 * num) ((units below + units (below + 1)) * den) with
  | .lt => below
  | .gt => below + 1
  | .eq => if below % 2 = 0 then below else below + 1

/-- The number nearest to `num / den` units with the given sign; beyond the finite ones it is an
infinity. -/
def nearest (negative : Bool) (num den : Nat) : Binary64 :=
  if h : nearestRank num den < finiteRanks then .finite negative ⟨nearestRank num den, h⟩
  else .infinity negative

/-- Zero with a sign. -/
def zero (negative : Bool) : Binary64 := .finite negative ⟨0, by decide⟩

end Binary64

end InstanceIdentity
