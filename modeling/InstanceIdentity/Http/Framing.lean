import InstanceIdentity.Fault
import InstanceIdentity.Http.Message
import InstanceIdentity.Number.Integer

/-!
# The length of a body

A response may declare how long its body is, and some statuses say that there is
none. A body that ends too early or too late is a fault when it is read.

## Main definitions

* `Response.declaredLength` — the length that a response declares
* `Response.reading` — the fault of reading a body of another length
-/

namespace InstanceIdentity

/-- Declared lengths that differ, as the header has them. -/
structure LengthConflict where
  header : String
  deriving DecidableEq, Repr

/-- The conflict in words. -/
def LengthConflict.message (e : LengthConflict) : String :=
  "Content-Length contained multiple unmatching values (" ++ e.header ++ ")"

namespace Response

/-- Whether a body comes in chunks, which declare their own lengths. -/
def isChunked (r : Response) : Bool :=
  ((r.header? "transfer-encoding").getD "").toList.map Char.toLower |> Text.split ','
    |>.any fun coding => Text.strip Text.isBlank coding = "chunked".toList

/-- Whether a status says that there is no body. -/
def isBodiless (r : Response) : Bool :=
  r.status = 204 || r.status = 304 || (100 ≤ r.status && r.status < 200)

/-- The length in a header, which may list it several times. What is no length does not count. -/
def lengthIn (header : String) : Except LengthConflict (Option Nat) :=
  match (Text.split ',' header.toList).mapM readInteger? with
  | some (n :: others) =>
    if others.any (· ≠ n) then .error ⟨header⟩
    else .ok (if n < 0 then none else some n.toNat)
  | _ => .ok none

/-- The length that a response declares, if any. -/
def declaredLength (r : Response) : Except LengthConflict (Option Nat) := do
  let declared ←
    match r.header? "content-length" with
    | none => .ok none
    | some header => if r.isChunked then .ok none else lengthIn header
  .ok (if r.isBodiless then some 0 else declared)

/-- The fault of reading a body of another length than expected. -/
def lengthFault (expected found : Nat) : Fault :=
  let shortfall := Text.ofString
    ("IncompleteRead(" ++ toString found ++ " bytes read, " ++
      toString ((expected : Int) - found) ++ " more expected)")
  let phrase :=
    if expected = 0 then Text.ofString "Response may not contain content."
    else Text.ofString "Connection broken: " ++ shortfall
  .ofCause "ChunkedEncodingError" "ProtocolError" [phrase.quoted, shortfall]

/-- The fault of reading the body, if it is not as long as declared. Of a response with the status
zero no body is read. -/
def reading (r : Response) : Option Fault :=
  match r.declaredLength with
  | .ok (some expected) =>
    if r.status = 0 ∨ expected = r.body.length then none
    else some (lengthFault expected r.body.length)
  | _ => none

end Response

end InstanceIdentity
