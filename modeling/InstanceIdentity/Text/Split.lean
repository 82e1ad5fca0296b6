/-!
# Splitting text

## Main definitions

* `Text.split` — the pieces between the places of a separator
* `Text.splitFirst` — what stands before and after the first place of a separator
* `Text.splitLast` — what stands before and after the last one
-/

namespace InstanceIdentity

namespace Text

/-- The pieces between the places of a separator, one more than there are places. -/
def split (separator : Char) : List Char → List (List Char)
  | [] => [[]]
  | c :: rest =>
    if c = separator then [] :: split separator rest
    else
      match split separator rest with
      | [] => [[c]]
      | piece :: pieces => (c :: piece) :: pieces

/-- What stands before and after the first place of a separator. Without one, all stands before. -/
def splitFirst (separator : Char) (s : List Char) : List Char × List Char :=
  (s.takeWhile (· ≠ separator), (s.dropWhile (· ≠ separator)).tail)

/-- What stands before and after the last place of a separator. Without one, all stands after. -/
def splitLast (separator : Char) (s : List Char) : List Char × List Char :=
  ((s.reverse.dropWhile (· ≠ separator)).tail.reverse,
    (s.reverse.takeWhile (· ≠ separator)).reverse)

end Text

end InstanceIdentity
