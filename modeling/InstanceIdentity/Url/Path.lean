import InstanceIdentity.Text.Split

/-!
# Paths

A path is the list of its segments, written with slashes between them. The segment
`.` stands for the place itself and `..` for the one above.

## Main definitions

* `Url.resolveDots` — the segments after every `.` and `..` has been followed
* `Url.normalPath` — a path without `.` and `..`
* `Url.joinPath` — a path seen from another one
-/

namespace InstanceIdentity

namespace Url

/-- The segment that stands for the place itself. -/
def here : List Char := ['.']

/-- The segment that stands for the place above. -/
def above : List Char := ['.', '.']

/-- Segments with slashes between them. -/
def joinSegments (segments : List (List Char)) : List Char := List.intercalate ['/'] segments

/-- The segments that are left when every `.` and `..` has been followed, from those passed already,
latest first. There is nothing above the first segment. -/
def followDots (passed : List (List Char)) : List (List Char) → List (List Char)
  | [] => passed.reverse
  | segment :: rest =>
    if segment = here then followDots passed rest
    else if segment = above then followDots passed.tail rest
    else followDots (segment :: passed) rest

/-- The segments after every `.` and `..` has been followed. A last segment of either kind leaves an
empty one, so that the path still ends in a slash. -/
def resolveDots (segments : List (List Char)) : List (List Char) :=
  let followed := followDots [] segments
  if segments.getLast? = some here ∨ segments.getLast? = some above then followed ++ [[]]
  else followed

/-- A path without `.` and `..`. What begins with a slash still does. -/
def normalPath (path : List Char) : List Char :=
  let segments := Text.split '/' path
  let followed := followDots [] segments
  let rooted := path.head? = some '/' ∧ followed.head? ≠ some []
  let trailing := segments.length ≠ 1 ∧
    (segments.getLast? = some here ∨ segments.getLast? = some above)
  joinSegments ((if rooted then [[]] else []) ++ followed ++ (if trailing then [[]] else []))

/-- A non-empty path seen from the place of another one. A relative path takes the place of the last
segment there, and empty segments in between vanish. -/
def joinPath (base path : List Char) : List Char :=
  let segments :=
    if path.head? = some '/' then Text.split '/' path
    else
      let places := Text.split '/' base
      let places := if places.getLast? = some [] then places else places.dropLast
      match places ++ Text.split '/' path with
      | [] => []
      | first :: rest => first :: (rest.dropLast.filter (· ≠ []) ++ rest.getLast?.toList)
  match joinSegments (resolveDots segments) with
  | [] => ['/']
  | joined => joined

end Url

end InstanceIdentity
