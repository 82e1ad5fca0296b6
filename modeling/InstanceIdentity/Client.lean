import InstanceIdentity.Charset.Detection
import InstanceIdentity.Document
import InstanceIdentity.Exchange
import InstanceIdentity.Failure
import InstanceIdentity.Json.Reader

/-!
# The client of the metadata service

A client knows the address of a metadata service and fetches the identity document
from it: one exchange within a time limit. The result is a document or a failure.
Faults of requests become failures of transport; all other faults leave the fetch.

The body is judged before the status, so a body that is no document is a failure of
decoding whatever the status says.

## Main definitions

* `Outcome` — what a fetch comes to
* `BodyError`, `readDocument` — the document in a response
* `Client`, `Client.ofAddress`, `Client.standard` — clients
* `Client.fetch` — a fetch
-/

namespace InstanceIdentity

/-- What a fetch comes to. -/
inductive Outcome
  | document (d : Document)
  | failure (f : Failure)
  | raised (f : Fault)
  deriving DecidableEq, Repr

/-- Why a body is no document: its charset cannot be used, it is not JSON, or not the JSON of a
document. -/
inductive BodyError
  | charset (e : CharsetError)
  | json (e : Json.Error)
  | mismatch (m : Mismatch)
  deriving DecidableEq, Repr

/-- The reason in words. -/
def BodyError.message : BodyError → String
  | .charset e => e.message
  | .json e => e.message
  | .mismatch m => m.message

/-- The document that a text stands for, with room for so many arrays and objects within each
other. -/
def documentOfText (room : Nat) (text : Text) : Except BodyError Document :=
  match Json.readText room text with
  | .error e => .error (.json e)
  | .ok v =>
    match Document.ofJson v with
    | .error m => .error (.mismatch m)
    | .ok d => .ok d

/-- The document in a response. -/
def readDocument (room : Nat) (r : Response) : Except BodyError Document :=
  match bodyText r.charset? r.content with
  | .error e => .error (.charset e)
  | .ok text => documentOfText room text

/-- A client of the metadata service. -/
structure Client where
  baseAddress : String
  deriving DecidableEq, Repr

namespace Client

/-- The address of the metadata service of an instance. -/
def standardAddress : String := "http://169.254.169.254"

/-- The path of the identity document. -/
def documentPath : String := "/latest/dynamic/instance-identity/document"

/-- A text without the slashes at its end. -/
def trimSlashes (s : List Char) : List Char := (s.reverse.dropWhile (· = '/')).reverse

/-- The client for an address. Slashes at its end are dropped. -/
def ofAddress (address : String) : Client := ⟨String.ofList (trimSlashes address.toList)⟩

/-- The client for the standard address. -/
def standard : Client := ofAddress standardAddress

/-- The address of the identity document. -/
def documentUrl (c : Client) : String := c.baseAddress ++ documentPath

/-- A failure of transport whose message begins with what was asked for. -/
def transportFailure (c : Client) (rest : Text) : Outcome :=
  .failure ⟨.transport, Text.ofString ("GET " ++ c.documentUrl ++ " ") ++ rest⟩

/-- What the final response of an exchange comes to. -/
def judge (c : Client) (room : Nat) (r : Response) : Outcome :=
  match readDocument room r with
  | .error e =>
    .failure ⟨.decode, Text.ofString ("failed to decode identity document (HTTP " ++
      toString r.status ++ "): " ++ e.message)⟩
  | .ok d =>
    if r.isError then
      c.transportFailure
        (Text.ofString ("returned HTTP " ++ toString r.status ++ " " ++ r.reasonText))
    else .document d

/-- What the ending of an exchange comes to. -/
def conclude (c : Client) (room : Nat) : Exchange.Ending → Outcome
  | .response r => c.judge room r
  | .fault f =>
    if f.reach = .request then c.transportFailure (Text.ofString "failed: " ++ f.quoted)
    else .raised f

/-- The log record at the beginning of an exchange. -/
def announcement (c : Client) : Record :=
  ⟨.debug, .client, Text.ofString ("Fetching identity document from " ++ c.documentUrl)⟩

/-- What a time limit that has elapsed already comes to. The failure tells the limit, and a limit
that cannot be written is a fault. -/
def refuse (c : Client) (timeout : Seconds) : Outcome :=
  match timeout.text with
  | .ok written =>
    c.transportFailure
      (Text.ofString ("not attempted: timeout of " ++ written ++ "s already elapsed"))
  | .error f => .raised f

/-- Fetches the document. With a time limit that has elapsed already there is no exchange. -/
def fetch (c : Client) (timeout : Seconds) (w : World) : Outcome × World :=
  if timeout.elapsed then (c.refuse timeout, w)
  else
    let (ending, w) := (w.log c.announcement).suppressing (Exchange.run c.documentUrl timeout)
    (c.conclude w.room ending, w)

end Client

end InstanceIdentity
