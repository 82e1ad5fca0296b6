/-!
# Counting equal values

## Main definitions

* `Census.equalPairs` — the pairs of places that hold equal values
* `Census.distinct` — how many different values there are
-/

namespace InstanceIdentity

namespace Census

/-- The pairs of places `i < j` that hold equal values, in lexical order, where places are counted
from a number on. -/
def equalPairsFrom {α : Type} [DecidableEq α] (i : Nat) : List α → List (Nat × Nat)
  | [] => []
  | x :: rest =>
    ((rest.zipIdx (i + 1)).filter (·.1 = x)).map (fun other => (i, other.2)) ++
      equalPairsFrom (i + 1) rest

/-- The pairs of places `i < j` that hold equal values, in lexical order. -/
def equalPairs {α : Type} [DecidableEq α] (values : List α) : List (Nat × Nat) :=
  equalPairsFrom 0 values

/-- How many different values there are. -/
def distinct {α : Type} [DecidableEq α] (values : List α) : Nat := values.eraseDups.length

end Census

end InstanceIdentity
