import InstanceIdentity.Http.Coding
import InstanceIdentity.Http.Framing
import InstanceIdentity.Unicode.Case

/-!
# Reading a body

A body is read in pieces, and its codings are undone piece by piece. What cannot be
unpacked is a fault as soon as it is found, and a body of another length than declared
is one at its end.

The body of a response that redirects is read as well, so that its connection is free
for the next request, and there these faults do not count. But the rest of the body is
read without its codings then, which is a fault of its own if something was unpacked
before. The body of a later redirect is read once more. What was left over at the first
time makes up for the body, and the fault of its length counts after all.

## Main definitions

* `Response.Intake`, `Response.intake` — how far a body can be read
* `Response.decoded` — the body without its codings
* `Response.release`, `Response.reread` — the readings of the body of a redirect
-/

namespace InstanceIdentity

namespace Response

/-! ## Pieces -/

/-- How many bytes are read at once. -/
def pieceSize : Nat := 10240

/-- Cuts bytes into pieces, when so many bytes are missing from a piece that has been begun with
others, which stand latest first. -/
def cut (missing : Nat) (begun : List UInt8) : List UInt8 → List (List UInt8)
  | [] => if begun = [] then [] else [begun.reverse]
  | b :: rest =>
    match missing with
    | 0 => begun.reverse :: cut (pieceSize - 1) [b] rest
    | missing + 1 => cut missing (b :: begun) rest

/-- The pieces in which bytes are read. -/
def pieces (bytes : List UInt8) : List (List UInt8) := cut pieceSize [] bytes

/-! ## Undoing the codings -/

/-- The header about codings, in lower case. -/
def codingHeader (r : Response) : List Char :=
  Unicode.lower ((r.header? "content-encoding").getD "").toList

/-- The codings of the body that a response names. -/
def codings (r : Response) : List ContentCoding := ContentCoding.list r.codingHeader

/-- How far a body can be read: the bytes that were unpacked, those that were not read any more,
whether any piece was unpacked, and the flaw that was found. -/
structure Intake where
  output : List UInt8
  unread : List UInt8
  isBegun : Bool
  flaw : Option Deflate.Flaw
  deriving DecidableEq, Repr

/-- Reads pieces until one cannot be unpacked. -/
def Intake.read (i : Intake) (unpackers : List Unpacker) : List (List UInt8) → Intake
  | [] => i
  | piece :: rest =>
    match Unpacker.feedAll unpackers piece with
    | .error flaw => { i with unread := rest.flatten, flaw := some flaw }
    | .ok (output, unpackers) =>
      Intake.read { i with output := i.output ++ output, isBegun := true } unpackers rest

/-- How far the body can be read. -/
def intake (r : Response) : Intake :=
  Intake.read ⟨[], [], false, none⟩ (r.codings.map Unpacker.start) (pieces r.body)

/-- The fault of reading a body that cannot be unpacked, given the header about its codings. -/
def codingFault (header : List Char) (flaw : Deflate.Flaw) : Fault :=
  let phrase := Text.ofString
    ("Received response with content-encoding: " ++ String.ofList header ++
      ", but failed to decode it.")
  let reason := Text.ofString ("Error -3 while decompressing data: " ++ flaw.message)
  let cause := Text.ofString "error(" ++ reason.quoted ++ Text.ofString ")"
  .ofCause "ContentDecodingError" "DecodeError" [phrase.quoted, cause]

/-- The body without its codings. Of a response with the status zero no body is read. -/
def decoded (r : Response) : Except Fault (List UInt8) :=
  if r.status = 0 then .ok r.body
  else
    match r.intake.flaw with
    | some flaw => .error (codingFault r.codingHeader flaw)
    | none => .ok r.intake.output

/-! ## The body of a redirect -/

/-- Whether bytes are left over behind the whole pieces that were unpacked. -/
def Intake.hasRemainder (i : Intake) : Bool := i.output.length % pieceSize ≠ 0

/-- Whether the body cannot be read to its end. -/
def isBroken (r : Response) : Bool := r.intake.flaw.isSome || r.reading.isSome

/-- The fault of reading the rest of a body without its codings. -/
def mixedReading : Fault :=
  .general "RuntimeError" (some (Text.ofString
    ("Calling read(decode_content=False) is not supported after " ++
      "read(decode_content=True) was called.")))

/-- Reads the body of a redirect. If that fails, the rest is read without its codings. -/
def release (r : Response) : Except Fault Unit :=
  if r.codings ≠ [] ∧ r.isBroken ∧ r.intake.isBegun ∧
      (r.intake.unread ≠ [] ∨ r.intake.hasRemainder) then .error mixedReading
  else .ok ()

/-- Reads the body of a redirect once more. Nothing more comes by then, so if something is left
over, the end of the body is reached again. -/
def reread (r : Response) : Except Fault Unit :=
  match r.reading with
  | none => .ok ()
  | some f => if r.intake.hasRemainder then .error f else .ok ()

end Response

end InstanceIdentity
