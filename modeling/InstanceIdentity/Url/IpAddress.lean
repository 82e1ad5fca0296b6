import InstanceIdentity.Number.Decimal
import InstanceIdentity.Text.Split
import InstanceIdentity.Url.Percent

/-!
# IP addresses

An IPv4 address is four numbers with points between them. An IPv6 address is eight
groups of hexadecimal digits with colons between them; a double colon stands for a run
of groups that are zero, and the last two groups may be written as an IPv4 address. A
zone may follow an IPv6 address behind a percent sign.

## Main definitions

* `Url.isIpv4` — the texts that are IPv4 addresses
* `Url.isIpv6` — the texts that are IPv6 addresses, given the ones of IPv4
* `Url.isZonedIpv6` — IPv6 addresses with or without a zone
-/

namespace InstanceIdentity

namespace Url

/-- Whether a text is four decimal numbers of one to three digits with points between them. -/
def isDottedQuad (s : List Char) : Bool :=
  let numbers := Text.split '.' s
  numbers.length = 4 && numbers.all fun n => n ≠ [] && n.length ≤ 3 && n.all Char.isDigit

/-- Whether a number of an IPv4 address is below 256 and begins with no zero that could be left
out. -/
def isOctet (digits : List Char) : Bool :=
  natOfDigits digits < 0x100 && (digits.length = 1 || digits.head? ≠ some '0')

/-- Whether a text is an IPv4 address. -/
def isIpv4 (s : List Char) : Bool := isDottedQuad s && (Text.split '.' s).all isOctet

/-- Whether a text is a group of an IPv6 address: one to four hexadecimal digits. -/
def isGroup (s : List Char) : Bool := s ≠ [] && s.length ≤ 4 && s.all isHexDigit

/-- The number of 16-bit units in groups with colons between them. The last two units may be written
as an IPv4 address where there is a test for one. -/
def unitCount? (ipv4? : Option (List Char → Bool)) (s : List Char) : Option Nat :=
  if s = [] then some 0
  else
    let groups := Text.split ':' s
    if groups.all isGroup then some groups.length
    else if groups.dropLast.all isGroup &&
        ipv4?.any (fun isIpv4 => groups.getLast?.any isIpv4) then
      some (groups.length + 1)
    else none

/-- What stands before and after the first double colon. -/
def splitDoubleColon : List Char → Option (List Char × List Char)
  | ':' :: ':' :: rest => some ([], rest)
  | c :: rest => (splitDoubleColon rest).map fun (before, after) => (c :: before, after)
  | [] => none

/-- Whether a text is an IPv6 address: eight units, or fewer around one double colon. -/
def isIpv6 (isIpv4 : List Char → Bool) (s : List Char) : Bool :=
  match splitDoubleColon s with
  | none => unitCount? (some isIpv4) s = some 8
  | some (before, after) =>
    match unitCount? none before, unitCount? (some isIpv4) after with
    | some m, some n => m + n ≤ 7
    | _, _ => false

/-- Whether a text is an IPv6 address that may be followed by a percent sign and the name of a zone.
The name is not empty and holds no percent sign. -/
def isZonedIpv6 (s : List Char) : Bool :=
  let (address, zone) := Text.splitFirst '%' s
  isIpv6 isIpv4 address && (!s.contains '%' || (zone ≠ [] && !zone.contains '%'))

end Url

end InstanceIdentity
