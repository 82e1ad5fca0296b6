import InstanceIdentity.Number.Decimal
import InstanceIdentity.Url.Host

/-!
# Authorities

The authority of an address names a host. User information may stand before it, and
a number behind it, which tells apart the services of one host. Host and number are
the location.

## Main definitions

* `Url.splitLocation?` — the host and the number of a location
* `Url.portNumber?` — the number that digits stand for
* `Url.Authority` — an authority taken apart
* `Url.AuthorityError`, `Url.Authority.parse` — taking it apart, or why that fails
* `Url.Authority.text` — putting it together
-/

namespace InstanceIdentity

namespace Url

/-- The digits of a number behind a host: zeros in front do not count, and then there are at most
five digits. -/
def numberDigits? (s : List Char) : Option (List Char) :=
  let digits := s.dropWhile (· = '0')
  if s.all Char.isDigit && digits.length ≤ 5 then some digits else none

/-- A text without the line feed at its very end. -/
def dropFinalLineFeed (s : List Char) : List Char :=
  if s.getLast? = some '\n' then s.dropLast else s

/-- A location taken apart: the host, and the digits of the number behind it. A line feed at the
very end does not count behind a bracket or a number; in a name it does. -/
def splitLocation? (s : List Char) : Option (List Char × List Char) :=
  let bracketed := s.head? = some '['
  let host := if bracketed then s.takeWhile (· ≠ ']') ++ [']'] else s.takeWhile (· ≠ ':')
  let rest := dropFinalLineFeed (s.drop host.length)
  let isHost :=
    if bracketed then s.contains ']' && isBracketed host
    else isEncoded (fun c => c ≠ '[' && c ≠ ']') host
  if !isHost then none
  else
    match rest with
    | [] => some (host, [])
    | ':' :: number => (numberDigits? number).map fun digits => (host, digits)
    | _ => none

/-- The number below 65536 that digits stand for. Zero is no number. -/
def portNumber? (digits : List Char) : Option (Option Nat) :=
  let number := natOfDigits digits
  if number = 0 then some none
  else if number < 0x10000 then some (some number)
  else none

/-- An authority taken apart. -/
structure Authority where
  userinfo : List Char
  host : List Char
  portNumber : Option Nat
  deriving DecidableEq, Repr

/-- Why a text is no authority: its location holds a control character or a blank, perhaps in an
escape, or is of no known form, its number is too great, or a label of its host is no label of an
international name. -/
inductive AuthorityError
  | control (location : List Char) (c : Char)
  | encodedControl (location : List Char) (escape : List Char)
  | unknownForm (location : List Char)
  | excessiveNumber
  | invalidLabel (label : List Char)
  deriving DecidableEq, Repr

/-- Whether a character is a control character or the space. -/
def isControlOrSpace (c : Char) : Bool := c.toNat ≤ 0x20 || c = '\x7F'

/-- The first escape of a control character. -/
def controlEscape? : List Char → Option (List Char)
  | [] => none
  | '%' :: a :: b :: rest =>
    match Text.hexValue? a, Text.hexValue? b with
    | some high, some low =>
      if high < 2 ∨ (high = 7 ∧ low = 15) then some ['%', a, b] else controlEscape? (a :: b :: rest)
    | _, _ => controlEscape? (a :: b :: rest)
  | _ :: rest => controlEscape? rest

/-- What is wrong with the characters of a location. -/
def controlError? (location : List Char) : Option AuthorityError :=
  match location.find? isControlOrSpace with
  | some c => some (.control location c)
  | none => (controlEscape? location).map (.encodedControl location)

/-- The host and the digits of a location without control characters. -/
def splitCleanLocation (location : List Char) : Except AuthorityError (List Char × List Char) :=
  match splitLocation? location with
  | none => .error ((controlError? location).getD (.unknownForm location))
  | some (host, digits) =>
    match controlError? host with
    | some e => .error e
    | none => .ok (host, digits)

namespace Authority

/-- The normal form of a host. -/
def normalHost (host : List Char) : Except AuthorityError (List Char) :=
  if host.head? = some '[' then .ok (normalBracketed host)
  else (normalName host).mapError AuthorityError.invalidLabel

/-- Takes an authority apart, in normal form if asked for. -/
def parse (normal : Bool) (s : List Char) : Except AuthorityError Authority := do
  let (userinfo, location) := Text.splitLast '@' s
  let (host, digits) ← splitCleanLocation location
  match portNumber? digits with
  | none => .error .excessiveNumber
  | some number =>
    let host ← if normal then normalHost host else .ok host
    .ok ⟨if normal then encodeComponent isUserinfoChar userinfo else userinfo, host, number⟩

/-- An authority put together. -/
def text (a : Authority) : List Char :=
  (if a.userinfo = [] then [] else a.userinfo ++ ['@']) ++ a.host ++
    (match a.portNumber with
     | none => []
     | some n => ':' :: (toString n).toList)

end Authority

end Url

end InstanceIdentity
