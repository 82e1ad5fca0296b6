import InstanceIdentity.Charset.Latin1
import InstanceIdentity.Charset.Utf8
import InstanceIdentity.Url.Defect

/-!
# Credentials

The user information of an address may hold a name and a password. They go along with
the request, in Latin-1, and on to where redirects lead as long as they stay with the
host.

## Main definitions

* `Url.unescape` — a text whose escapes are undone
* `Url.Reference.credentials?` — the name and the password
* `Url.isAuthorized` — whether credentials go along with a request
* `Url.keepsCredentials` — whether they go on to another address
-/

namespace InstanceIdentity

namespace Url

/-- The text of bytes in UTF-8, with the replacement character for what is invalid. -/
def textOfBytes (bytes : List UInt8) : List Char :=
  (Utf8.decode bytes).map fun unit => unit.getD '\uFFFD'

/-- A text whose escapes are undone, from the bytes of the ASCII characters and escapes just before
it, latest first. -/
def unescapeFrom (bytes : List UInt8) : List Char → List Char
  | [] => textOfBytes bytes.reverse
  | '%' :: a :: b :: rest =>
    match Text.hexValue? a, Text.hexValue? b with
    | some high, some low =>
      unescapeFrom (UInt8.ofNat (16 * high.val + low.val) :: bytes) rest
    | _, _ => unescapeFrom (0x25 :: bytes) (a :: b :: rest)
  | c :: rest =>
    if c.toNat < 0x80 then unescapeFrom (UInt8.ofNat c.toNat :: bytes) rest
    else textOfBytes bytes.reverse ++ c :: unescapeFrom [] rest

/-- A text whose escapes are undone. -/
def unescape (s : List Char) : List Char := unescapeFrom [] s

/-- The name and the password in an address. Without a password there are no credentials. -/
def Reference.credentials? (r : Reference) : Option (List Char × List Char) :=
  let (userinfo, _) := Text.splitLast '@' r.authority
  if userinfo.contains ':' then
    let (name, password) := Text.splitFirst ':' userinfo
    some (unescape name, unescape password)
  else none

/-- Whether credentials go along with a request to an address. They need to fit into Latin-1. -/
def isAuthorized (r : Reference) : Except Latin1.Unfit Bool := do
  match r.credentials? with
  | none => .ok false
  | some (name, password) =>
    let _ ← Latin1.encode name
    let _ ← Latin1.encode password
    .ok (name ≠ [] || password ≠ [])

/-- The number of the service that a scheme names where an address has none. -/
def standardNumber? (scheme : List Char) : Option Nat :=
  if scheme = "http".toList then some 80
  else if scheme = "https".toList then some 443
  else none

/-- Whether a number is the one that a scheme stands for, or left out. -/
def isStandardNumber (scheme : List Char) (number : Option Nat) : Bool :=
  number = none || number = standardNumber? scheme

/-- Whether credentials go on from one address to another: the host is the same, and the service is
the same or the secure one in place of the plain one. Only for one host do the numbers behind it
matter. -/
def keepsCredentials (old new : Reference) : Except Defect Bool := do
  let (oldHost, oldNumber) := old.hostAndNumber
  let (newHost, newNumber) := new.hostAndNumber
  if oldHost ≠ newHost then .ok false
  else
    let oldNumber ← readNumber oldNumber
    let newNumber ← readNumber newNumber
    let standard :=
      isStandardNumber old.scheme oldNumber && isStandardNumber new.scheme newNumber
    let secured := old.scheme = "http".toList && new.scheme = "https".toList
    .ok (((secured || old.scheme = new.scheme) && standard) ||
      (oldNumber = newNumber && old.scheme = new.scheme))

end Url

end InstanceIdentity
