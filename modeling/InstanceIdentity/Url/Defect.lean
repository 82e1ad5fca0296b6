import InstanceIdentity.Number.Integer
import InstanceIdentity.Text.Quoted
import InstanceIdentity.Url.IpAddress
import InstanceIdentity.Url.Reference

/-!
# Defects of addresses

An address that is taken apart may show a defect that no part can be blamed for:
brackets around something that is no IPv6 address, or a character that turns into a
delimiter where it is replaced by its compatible form. The number behind the host is
only looked at where it matters.

## Main definitions

* `Url.Defect`, `Url.Defect.message` — what can be wrong
* `Url.defect?` — what is wrong with an address
* `Url.Reference.hostAndNumber` — the host and the text of the number behind it
* `Url.readNumber` — that number
-/

namespace InstanceIdentity

namespace Url

/-- What can be wrong with an address. -/
inductive Defect
  | unbalancedBrackets
  | unknownVersion
  | bracketedIpv4
  | noAddress (host : List Char)
  | hiddenDelimiter (authority : List Char)
  | noNumber (text : List Char)
  | longNumber (digits : Nat)
  | excessiveNumber
  deriving DecidableEq, Repr

/-- A defect in words. -/
def Defect.message : Defect → Text
  | .unbalancedBrackets => Text.ofString "Invalid IPv6 URL"
  | .unknownVersion => Text.ofString "IPvFuture address is invalid"
  | .bracketedIpv4 => Text.ofString "An IPv4 address cannot be in brackets"
  | .noAddress host =>
    (Text.ofChars host).quoted ++ Text.ofString " does not appear to be an IPv4 or IPv6 address"
  | .hiddenDelimiter authority =>
    Text.ofString "netloc '" ++ Text.ofChars authority ++
      Text.ofString "' contains invalid characters under NFKC normalization"
  | .noNumber text =>
    Text.ofString "Port could not be cast to integer value as " ++ (Text.ofChars text).quoted
  | .longNumber digits => Text.ofString (excessMessage (some digits))
  | .excessiveNumber => Text.ofString "Port out of range 0-65535"

/-! ## Brackets -/

/-- Whether a text is an address of a version to come: a letter, the version in hexadecimal, a point
and something behind it. -/
def isFutureAddress (s : List Char) : Bool :=
  let (version, rest) := Text.splitFirst '.' s
  version.head? = some 'v' && version.tail ≠ [] && version.tail.all isHexDigit && rest ≠ []

/-- What is wrong with a host that brackets belong to. -/
def bracketedDefect? (host : List Char) : Option Defect :=
  if host.head? = some 'v' then if isFutureAddress host then none else some .unknownVersion
  else if isIpv4 host then some .bracketedIpv4
  else if isZonedIpv6 host then none
  else some (.noAddress host)

/-- What is wrong with the brackets of an authority. In a location they enclose the whole host, and
only a number may follow. -/
def bracketDefect? (authority : List Char) : Option Defect :=
  let opened := authority.contains '['
  let closed := authority.contains ']'
  if opened ≠ closed then some .unbalancedBrackets
  else if !opened then none
  else
    let location := (Text.splitLast '@' authority).2
    if location.contains '[' then
      let (before, rest) := Text.splitFirst '[' location
      let (host, number) := Text.splitFirst ']' rest
      if before ≠ [] ∨ (number ≠ [] ∧ number.head? ≠ some ':') then some .unbalancedBrackets
      else bracketedDefect? host
    else bracketedDefect? (Text.splitFirst ':' location).1

/-! ## Hidden delimiters -/

/-- The characters that have a delimiter in their compatible form. -/
def hiddenDelimiters : List Char :=
  ['\u2047', '\u2048', '\u2049', '\u2100', '\u2101', '\u2105', '\u2106', '\u2A74', '\uFE13',
   '\uFE16', '\uFE55', '\uFE56', '\uFE5F', '\uFE6B', '\uFF03', '\uFF0F', '\uFF1A', '\uFF1F',
   '\uFF20']

/-- What is wrong with an authority. -/
def authorityDefect? (authority : List Char) : Option Defect :=
  match bracketDefect? authority with
  | some defect => some defect
  | none =>
    if authority.any hiddenDelimiters.contains then some (.hiddenDelimiter authority) else none

/-! ## Addresses -/

/-- The characters that end the authority of a reference. -/
def endsReferenceAuthority (c : Char) : Bool := c = '/' || c = '?' || c = '#'

/-- A text without line breaks and tabs anywhere, and without control characters and spaces in
front. -/
def tidy (s : List Char) : List Char :=
  (s.filter fun c => c ≠ '\t' && c ≠ '\r' && c ≠ '\n').dropWhile fun c => c.toNat ≤ 0x20

/-- An address taken apart, if it has no defect. -/
def takeApart (address : List Char) : Except Defect Reference :=
  let r := Reference.parse endsReferenceAuthority (tidy address)
  match authorityDefect? r.authority with
  | some defect => .error defect
  | none => .ok r

/-! ## Host and number -/

/-- The host of an address in lower case, and the text of the number behind it. The name of a zone
stays as it is. -/
def Reference.hostAndNumber (r : Reference) : List Char × List Char :=
  let location := (Text.splitLast '@' r.authority).2
  let (host, number) :=
    if location.contains '[' then
      let (host, rest) := Text.splitFirst ']' (Text.splitFirst '[' location).2
      (host, (Text.splitFirst ':' rest).2)
    else Text.splitFirst ':' location
  ((host.takeWhile (· ≠ '%')).map Char.toLower ++ host.dropWhile (· ≠ '%'), number)

/-- The number that the text behind a host stands for. An empty text stands for none. -/
def readNumber (s : List Char) : Except Defect (Option Nat) :=
  if s = [] then .ok none
  else if !s.all Char.isDigit then .error (.noNumber s)
  else if greatestDigits < s.length then .error (.longNumber s.length)
  else
    let number := natOfDigits s
    if number < 0x10000 then .ok (some number) else .error .excessiveNumber

end Url

end InstanceIdentity
