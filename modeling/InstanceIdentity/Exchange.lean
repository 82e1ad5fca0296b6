import InstanceIdentity.Http.Intake
import InstanceIdentity.Url.Address
import InstanceIdentity.Url.Credentials
import InstanceIdentity.Url.Redirect
import InstanceIdentity.World

/-!
# Exchanges

An exchange begins with a request to an address and follows redirects, up to thirty
of them. It ends with the first response that does not redirect, or with a fault: an
address that no request can go to, a fault of a request, one redirect too many, or a
location that cannot be read. The bodies of redirects are read on the way, and this
can be a fault as well.

## Main definitions

* `Exchange.Leg`, `Exchange.Leg.ofAddress`, `Exchange.Leg.next` — where an exchange stands,
  where it begins, and where a location leads
* `Exchange.Leg.onward` — the next leg behind a redirect
* `Exchange.Ending` — a final response or a fault
* `Exchange.follow` — requests from a leg on, with a number of redirects left
* `Exchange.run` — a whole exchange
-/

namespace InstanceIdentity

/-! ## Faults by their causes -/

/-- The fault that refuses an address. -/
def Url.AddressError.fault (e : AddressError) : Fault :=
  let name :=
    match e with
    | .unsupportedScheme _ => "InvalidSchema"
    | .missingScheme _ => "MissingSchema"
    | .missingHost _ => "InvalidURL"
    | .invalidLabel => "InvalidURL"
    | .unreadable _ _ => "InvalidURL"
  .ofRequest name (some e.message)

/-- The fault of an address with a defect. -/
def Url.Defect.fault (d : Defect) : Fault := .general "ValueError" (some d.message)

/-- The fault of a text that does not fit into Latin-1. -/
def Latin1.Unfit.fault (u : Unfit) : Fault :=
  .general "UnicodeEncodeError" (some (Text.ofString u.message))

/-- The fault of bytes that are not UTF-8. -/
def Utf8.Malformed.fault (m : Malformed) : Fault :=
  .general "UnicodeDecodeError" (some (Text.ofString m.message))

/-- The fault of declared lengths that differ. -/
def LengthConflict.fault (e : LengthConflict) : Fault :=
  .general "InvalidHeader" (some (Text.ofString e.message))

namespace Exchange

/-! ## Legs -/

/-- Where an exchange stands: the address of the next request, the fragment that locations without
one keep, and whether credentials go along. -/
structure Leg where
  url : List Char
  fragment : List Char
  authorized : Bool
  deriving DecidableEq, Repr

/-- The leg that an exchange begins with. -/
def Leg.ofAddress (address : String) : Except Fault Leg := do
  let url ← (Url.prepare address.toList).mapError Url.AddressError.fault
  let r ← (Url.takeApart url).mapError Url.Defect.fault
  let authorized ← (Url.isAuthorized r).mapError Latin1.Unfit.fault
  .ok ⟨url, r.fragment, authorized⟩

/-- The text of a location. Its characters stand for bytes, and the bytes are UTF-8. -/
def readLocation (location : List Char) : Except Fault (List Char) := do
  let bytes ← (Latin1.encode location).mapError Latin1.Unfit.fault
  (Utf8.read bytes).mapError Utf8.Malformed.fault

/-- The leg that the text of a location leads to. -/
def Leg.next (leg : Leg) (location : List Char) : Except Fault Leg := do
  let (url, fragment) ← (Url.resolve leg.url leg.fragment location).mapError Url.Defect.fault
  let r ← (Url.takeApart url).mapError Url.Defect.fault
  let authorized ←
    if leg.authorized then
      (do Url.keepsCredentials (← Url.takeApart leg.url) r).mapError Url.Defect.fault
    else .ok false
  .ok ⟨url, fragment, authorized⟩

/-- The leg behind a response that redirects to a location. The body is read before it is found out
where the location leads, and the body of a later response is read again thereafter. -/
def Leg.onward (isLater : Bool) (leg : Leg) (r : Response) (location : List Char) :
    Except Fault Leg := do
  let location ← readLocation location
  r.release
  let next ← leg.next location
  if isLater then r.reread
  .ok next

/-! ## Following -/

/-- The most redirects that are followed. -/
def greatestRedirects : Nat := 30

/-- How an exchange ends. -/
inductive Ending
  | response (r : Response)
  | fault (f : Fault)
  deriving DecidableEq, Repr

/-- The fault of one redirect too many. -/
def tooManyRedirects : Fault :=
  .ofRequest "TooManyRedirects"
    (some (Text.ofString ("Exceeded " ++ toString greatestRedirects ++ " redirects.")))

/-- An ending behind a redirect. Redirects are gone through one by one, and there the fault that
ends a row of things is an error of its own. -/
def Ending.behindRedirect : Ending → Ending
  | .response r => .response r
  | .fault f =>
    if f.name = "StopIteration" ∧ f.reach = .ordinary then
      .fault (.general "RuntimeError" (some (Text.ofString "generator raised StopIteration")))
    else .fault f

/-- The ending with a response that does not redirect: its body is read, and its codings are
undone. What cannot be unpacked is found out before the end of the body. -/
def Ending.ofFinal (r : Response) : Ending :=
  match r.decoded with
  | .error f => .fault f
  | .ok body =>
    match r.reading with
    | none => .response ⟨r.status, r.reason, r.headers, body⟩
    | some f => .fault f

/-- What is done about a response: the exchange ends, or goes on with a location. -/
def locationOf (r : Response) : Except Fault (Option (List Char)) :=
  match r.declaredLength with
  | .error e => .error e.fault
  | .ok _ => .ok r.location?

/-- Sends a request and follows redirects while some are left. Where a location leads is found out
before the redirects are counted. -/
def follow (timeout : Seconds) : Nat → Leg → World → Ending × World
  | left, leg, w =>
    match Url.sendable leg.url with
    | .error e => (.fault e.fault, w)
    | .ok url =>
      match w.transmit (String.ofList url) timeout with
      | (.fault f, w) => (.fault f, w)
      | (.response r, w) =>
        match locationOf r with
        | .error f => (.fault f, w)
        | .ok none => (.ofFinal r, w)
        | .ok (some location) =>
          match leg.onward (left < greatestRedirects) r location, left with
          | .error f, _ => (.fault f, w)
          | .ok _, 0 => (.fault tooManyRedirects, w)
          | .ok leg, left + 1 =>
            let (ending, w) := follow timeout left leg w
            (ending.behindRedirect, w)

/-- A whole exchange from an address. -/
def run (address : String) (timeout : Seconds) (w : World) : Ending × World :=
  match Leg.ofAddress address with
  | .ok leg => follow timeout greatestRedirects leg w
  | .error f => (.fault f, w)

end Exchange

end InstanceIdentity
