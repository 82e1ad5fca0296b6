import InstanceIdentity.Idna.Mapping
import InstanceIdentity.Text.Blank
import InstanceIdentity.Text.Quoted
import InstanceIdentity.Url.Authority
import InstanceIdentity.Url.Path
import InstanceIdentity.Url.Reference

/-!
# Addresses

An address as it is typed in, or put together by a program, becomes the address of
a request: scheme and host in lower case, dot segments followed, and everything in
canonical encoding. What cannot become one is refused with the reason.

## Main definitions

* `Url.AddressError`, `Url.AddressError.message` — the reasons for a refusal
* `Url.prepare` — the address of a request
* `Url.sendable` — the check that a request can be sent to an address
-/

namespace InstanceIdentity

namespace Url

/-- An authority that cannot be taken apart, in words. -/
def AuthorityError.message (address : List Char) : AuthorityError → Text
  | .control location c =>
    Text.ofString "Host " ++ (Text.ofChars location).quoted ++
      Text.ofString " contains invalid character " ++ (Text.ofChars [c]).quoted
  | .encodedControl location escape =>
    Text.ofString "Host " ++ (Text.ofChars location).quoted ++
      Text.ofString " contains invalid percent-encoded control character " ++
      (Text.ofChars escape).quoted
  | .unknownForm location =>
    (Text.ofChars location).quoted ++ Text.ofString " is not a valid host or port"
  | .excessiveNumber => Text.ofChars address
  | .invalidLabel label =>
    Text.ofString "Name '" ++ Text.ofChars label ++
      Text.ofString "' is not a valid IDNA label"

/-- Why no request can go to an address. -/
inductive AddressError
  | unsupportedScheme (address : List Char)
  | missingScheme (address : List Char)
  | missingHost (address : List Char)
  | invalidLabel
  | unreadable (address : List Char) (e : AuthorityError)
  deriving DecidableEq, Repr

/-- A refusal in words. -/
def AddressError.message : AddressError → Text
  | .unsupportedScheme address =>
    Text.ofString "No connection adapters were found for " ++ (Text.ofChars address).quoted
  | .missingScheme address =>
    Text.ofString "Invalid URL " ++ (Text.ofChars address).quoted ++
      Text.ofString ": No scheme supplied. Perhaps you meant https://" ++ Text.ofChars address ++
      Text.ofString "?"
  | .missingHost address =>
    Text.ofString "Invalid URL " ++ (Text.ofChars address).quoted ++
      Text.ofString ": No host supplied"
  | .invalidLabel => Text.ofString "URL has an invalid label."
  | .unreadable address e => Text.ofString "Failed to parse: " ++ e.message address

/-- The characters that end the authority of an address. A backslash does, as if it were a slash. -/
def endsAddressAuthority (c : Char) : Bool := c = '/' || c = '?' || c = '#' || c = '\\'

/-- The schemes whose components have a normal form. Without a scheme there is one too. -/
def isNormalisable (scheme : List Char) : Bool :=
  scheme = [] || scheme = "http".toList || scheme = "https".toList

/-- Whether an address begins with a slash or with a scheme that has no point in it. -/
def startsAbsolute (s : List Char) : Bool :=
  match s with
  | '/' :: _ => true
  | c :: _ => c.isAlpha && (s.dropWhile fun c => isSchemeChar c && c ≠ '.').head? = some ':'
  | [] => false

/-- A path in normal form, which is never empty and begins with a slash. -/
def preparePath (normal : Bool) (path : List Char) : List Char :=
  let path := if normal then encodeComponent isPathChar (normalPath path) else path
  if path.head? = some '/' then path else '/' :: path

/-- The host of a request. Outside ASCII it is a name as it is typed; in ASCII it begins neither
with a point nor with an asterisk. -/
def prepareHost (host : List Char) : Except AddressError (List Char) :=
  if isAscii host then
    if host.head? = some '*' ∨ host.head? = some '.' then .error .invalidLabel else .ok host
  else
    match Idna.nameToAscii? host with
    | some ascii => .ok ascii
    | none => .error .invalidLabel

/-- The components of an address in the form in which they are requested. The address is given
twice: as it was typed in, and completed for taking it apart. -/
def prepareComponents (address complete : List Char) : Except AddressError Reference := do
  let r := Reference.parse endsAddressAuthority complete
  let normal := isNormalisable r.scheme
  let authority ← (Authority.parse normal r.authority).mapError (AddressError.unreadable complete)
  if r.scheme = [] then .error (.missingScheme address)
  else if authority.host = [] then .error (.missingHost address)
  else
    let host ← prepareHost authority.host
    let encode := if normal then encodeComponent isQueryChar else id
    .ok
      { r with
        authority := Authority.text { authority with host := host }
        path := preparePath normal r.path
        query := encode r.query
        fragment := encode r.fragment }

/-- The address of a request. Blanks in front are dropped. An address of another protocol stays as
it is. -/
def prepare (address : List Char) : Except AddressError (List Char) :=
  let address := address.dropWhile Text.isBlank
  if address.contains ':' ∧ (address.take 4).map Char.toLower ≠ "http".toList then .ok address
  else
    (prepareComponents address
      (if startsAbsolute address then address else '/' :: '/' :: address)).map fun r =>
        requote r.text

/-- Whether requests can be sent to an address: there are two protocols. -/
def isSendable (address : List Char) : Bool :=
  "http://".toList.isPrefixOf address || "https://".toList.isPrefixOf address

/-- The address itself, if requests can be sent to it. -/
def sendable (address : List Char) : Except AddressError (List Char) :=
  if isSendable address then .ok address else .error (.unsupportedScheme address)

end Url

end InstanceIdentity
