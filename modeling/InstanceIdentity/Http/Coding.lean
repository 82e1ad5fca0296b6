import InstanceIdentity.Deflate.Container
import InstanceIdentity.Text.Blank
import InstanceIdentity.Text.Split

/-!
# Codings of a body

A body may be compressed, and a header tells how. Several codings in a list have been
applied one after the other. What is compressed is unpacked piece by piece: each piece
gives the bytes that come of all pieces so far and have not been given before.

Behind the first container of the one kind, whatever is no further container of it is
left out. The other kind may come without its container.

## Main definitions

* `ContentCoding`, `ContentCoding.list` — the codings that a header names
* `Unpacker`, `Unpacker.feed` — the unpacking of a coding, and one more piece
* `Unpacker.feedAll` — one more piece through several codings
-/

namespace InstanceIdentity

/-- A coding of a body. -/
inductive ContentCoding | gzip | deflate
  deriving DecidableEq, Repr

namespace ContentCoding

/-- The coding with a name. -/
def ofName? (name : List Char) : Option ContentCoding :=
  if name = "gzip".toList ∨ name = "x-gzip".toList then some .gzip
  else if name = "deflate".toList then some .deflate
  else none

/-- The codings that a header names in lower case. One that is not known counts for nothing, but in
a list with a known one it is taken for the second kind. -/
def list (header : List Char) : List ContentCoding :=
  match ofName? header with
  | some coding => [coding]
  | none =>
    let named := (Text.split ',' header).map fun name => ofName? (Text.strip Text.isBlank name)
    if named.length = 1 ∨ named.all Option.isNone then []
    else named.map fun coding => coding.getD .deflate

end ContentCoding

/-- How far the unpacking of a coding has come: within a container of the one kind, which may be the
first one, behind what is left out, within a container of the other kind, or within data without
one. It has the bytes that were fed since then, and how many bytes were given for them. -/
inductive Unpacker
  | member (isFirst : Bool) (fed : List UInt8) (given : Nat)
  | leavingOut
  | container (fed : List UInt8) (given : Nat)
  | bare (fed : List UInt8) (given : Nat)
  deriving DecidableEq, Repr

namespace Unpacker

/-- The unpacking of a coding before the first piece. -/
def start : ContentCoding → Unpacker
  | .gzip => .member true [] 0
  | .deflate => .container [] 0

/-- What a piece gives, with the unpacking behind it. -/
abbrev Fed := Except Deflate.Flaw (List UInt8 × Unpacker)

/-- The bytes that come of containers in a row, behind those before them. A container whose data
have not ended goes on with the next piece. -/
def feedMembers : Nat → Bool → List UInt8 → Nat → List UInt8 → Fed
  | 0, _, _, _, before => .ok (before, .leavingOut)
  | most + 1, isFirst, fed, given, before =>
    match Deflate.unpackMember fed with
    | (_, .error (.broken flaw)) => if isFirst then .error flaw else .ok (before, .leavingOut)
    | (output, .error .unfinished) =>
      .ok (before ++ output.toList.drop given, .member isFirst fed output.size)
    | (output, .ok rest) =>
      let before := before ++ output.toList.drop given
      if rest = [] then .ok (before, .member isFirst fed output.size)
      else feedMembers most false rest 0 before

/-- The bytes that come of data without a container. -/
def feedBare (fed : List UInt8) (given : Nat) : Fed :=
  match Deflate.inflate fed with
  | (_, .error (.broken flaw)) => .error flaw
  | (output, _) => .ok (output.toList.drop given, .bare fed output.size)

/-- The bytes that come of a container of the other kind. As long as it has given none, its data may
turn out to have no container. -/
def feedContainer (fed : List UInt8) (given : Nat) : Fed :=
  match Deflate.unpackShort fed with
  | (_, .error (.broken flaw)) => if given = 0 then feedBare fed 0 else .error flaw
  | (output, _) => .ok (output.toList.drop given, .container fed output.size)

/-- Feeds one more piece. A piece without bytes changes nothing. -/
def feed (u : Unpacker) (piece : List UInt8) : Fed :=
  if piece = [] then .ok ([], u)
  else
    match u with
    | .member isFirst fed given =>
      let fed := fed ++ piece
      feedMembers (fed.length + 1) isFirst fed given []
    | .leavingOut => .ok ([], .leavingOut)
    | .container fed given => feedContainer (fed ++ piece) given
    | .bare fed given => feedBare (fed ++ piece) given

/-- Feeds one more piece through several codings. The last one is undone first. -/
def feedAll : List Unpacker → List UInt8 → Except Deflate.Flaw (List UInt8 × List Unpacker)
  | [], piece => .ok (piece, [])
  | u :: others, piece => do
    let (piece, others) ← feedAll others piece
    let (piece, u) ← u.feed piece
    .ok (piece, u :: others)

end Unpacker

end InstanceIdentity
