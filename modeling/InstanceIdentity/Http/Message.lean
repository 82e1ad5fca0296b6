import InstanceIdentity.Http.MediaType
import InstanceIdentity.Number.Seconds

/-!
# Requests and responses

## Main definitions

* `Request` — what is sent, and whether tracing is suppressed meanwhile
* `Response` — what comes back
* `Response.charset?` — the charset of the body, as far as the headers tell
* `Response.location?` — where a response redirects to
* `Response.content` — the bytes of the body that count
* `Response.isError` — whether the status is one of an error
-/

namespace InstanceIdentity

/-- A request as it is sent. -/
structure Request where
  method : String
  url : String
  timeout : Seconds
  suppressed : Bool
  deriving DecidableEq, Repr

/-- A response. The reason phrase may be absent. -/
structure Response where
  status : Int := 200
  reason : Option String := some "OK"
  headers : List (String × String) := []
  body : List UInt8 := []
  deriving DecidableEq, Repr

namespace Response

/-- The value of a header, whose name counts in any case. The values of several headers of one name
are joined with commas. -/
def header? (r : Response) (name : String) : Option String :=
  match r.headers.filter fun header => header.1.toList.map Char.toLower = name.toList with
  | [] => none
  | found => some (", ".intercalate (found.map Prod.snd))

/-- The charset that the content type names or implies. An empty content type is none. -/
def charset? (r : Response) : Option String :=
  match r.header? "content-type" with
  | none => none
  | some "" => none
  | some contentType => (MediaType.parse contentType.toList).charset?

/-- The statuses of a redirect that names a location. -/
def redirectStatuses : List Int := [301, 302, 303, 307, 308]

/-- Where a response redirects to. An empty location leads nowhere. -/
def location? (r : Response) : Option (List Char) :=
  if r.status ∈ redirectStatuses then
    (r.header? "location").bind fun location =>
      if location = "" then none else some location.toList
  else none

/-- The bytes of the body that count. A response with the status zero has none. -/
def content (r : Response) : List UInt8 := if r.status = 0 then [] else r.body

/-- Whether the status is one of an error. -/
def isError (r : Response) : Bool := 400 ≤ r.status && r.status < 600

/-- The reason phrase in words. -/
def reasonText (r : Response) : String := r.reason.getD "None"

end Response

end InstanceIdentity
