/-!
# Grids of characters

A charset of two bytes lays its characters out in rows and columns: one byte names the
row and the other one the column. Some places are empty.

## Main definitions

* `Grid`, `Grid.ofLines` — a grid, and how it is written down
* `Grid.character?` — the character at a place
* `Grid.characterAmong?` — the character at a place, if the grid has only some rows
-/

namespace InstanceIdentity

/-- Characters in rows of a fixed length. A full stop stands at each empty place. -/
structure Grid where
  firstRow : Nat
  firstColumn : Nat
  columns : Nat
  characters : Array Char

namespace Grid

/-- A grid from its first row and column, the length of a row, and its characters row by row. How
they are broken into lines does not matter. -/
def ofLines (firstRow firstColumn columns : Nat) (lines : List String) : Grid :=
  ⟨firstRow, firstColumn, columns, (lines.flatMap String.toList).toArray⟩

/-- The character in a row and a column. -/
def character? (g : Grid) (row column : Nat) : Option Char :=
  if row < g.firstRow ∨ column < g.firstColumn ∨ g.firstColumn + g.columns ≤ column then none
  else
    match g.characters[(row - g.firstRow) * g.columns + (column - g.firstColumn)]? with
    | some c => if c = '.' then none else some c
    | none => none

/-- The character in a row and a column, if the grid has only some rows, which are listed. -/
def characterAmong? (g : Grid) (rows : List Nat) (row column : Nat) : Option Char :=
  (rows.idxOf? row).bind fun place => g.character? place column

end Grid

end InstanceIdentity
