import InstanceIdentity.Deflate.Bits

/-!
# Prefix codes

A prefix code gives symbols code words of different lengths. The lengths determine the
words: shorter words come before longer ones, and among words of one length the order
is that of the symbols.

## Main definitions

* `Deflate.Code` — a prefix code
* `Deflate.Code.ofLengths?` — the code with given lengths
* `Deflate.Code.symbol` — the symbol whose word comes next
-/

namespace InstanceIdentity

namespace Deflate

/-- A prefix code: how many words there are of each length from one on, and the symbols in the order
of their words. -/
structure Code where
  counts : List Nat
  symbols : Array Nat

namespace Code

/-- How many words are free behind the words of some lengths. More words than that have no code. -/
def free? : Nat → List Nat → Option Nat
  | free, [] => some free
  | free, count :: counts => if 2 * free < count then none else free? (2 * free - count) counts

/-- The code whose symbols, from zero on, have words of given lengths. The length zero means that
there is no word. -/
def ofLengths (lengths : List Nat) : Code :=
  let widths := (List.range (lengths.foldl max 0)).map (· + 1)
  ⟨widths.map fun width => lengths.count width,
    (widths.flatMap fun width => lengths.zipIdx.filterMap fun (length, symbol) =>
      if length = width then some symbol else none).toArray⟩

/-- The same, if all words are taken. -/
def full? (lengths : List Nat) : Option Code :=
  let code := ofLengths lengths
  if free? 1 code.counts = some 0 then some code else none

/-- The same, if all words are taken, or there is one word of one bit, or none. Without a word there
is a bit to be read before the flaw is found. -/
def ofLengths? (lengths : List Nat) : Option Code :=
  let code := ofLengths lengths
  match code.counts with
  | [] => some ⟨[0], #[]⟩
  | [1] => some code
  | _ => full? lengths

/-- Reads on in a word, given the counts of the words from its length on, its value so far, the
first value that a word of its length could have, and how many words are shorter. -/
def walk (symbols : Array Nat) (flaw : Flaw) : List Nat → Nat → Nat → Nat → Reading Nat
  | [], _, _, _ => broken flaw
  | count :: counts, value, first, shorter => do
    let value := 2 * value + (← bit).toNat
    let first := 2 * first
    if value < first + count then
      return symbols.getD (shorter + (value - first)) 0
    else walk symbols flaw counts value (first + count) (shorter + count)

/-- The symbol whose word comes next. Bits that are no word are a flaw. -/
def symbol (code : Code) (flaw : Flaw) : Reading Nat :=
  walk code.symbols flaw code.counts 0 0 0

end Code

end Deflate

end InstanceIdentity
