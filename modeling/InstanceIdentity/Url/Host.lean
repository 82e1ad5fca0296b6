import InstanceIdentity.Idna.Label
import InstanceIdentity.Unicode.Case
import InstanceIdentity.Url.IpAddress

/-!
# Hosts

A host is a registered name, or an IPv6 address between brackets, which may carry the
name of a zone. A registered name consists of labels with points between them.

## Main definitions

* `Url.isBracketed` — the texts that are IPv6 addresses between brackets
* `Url.normalBracketed` — such an address in normal form
* `Url.normalName` — a registered name in normal form
-/

namespace InstanceIdentity

namespace Url

/-- Whether a text consists of characters of a class and escapes. -/
def isEncoded (allowed : Char → Bool) (s : List Char) : Bool :=
  percentsEscape s && s.all fun c => allowed c || c = '%'

/-! ## Addresses between brackets -/

/-- Whether a text is an IPv6 address between brackets. The zone consists of unreserved characters
and escapes. -/
def isBracketed (s : List Char) : Bool :=
  s.head? = some '[' && s.getLast? = some ']' &&
    let inner := s.tail.dropLast
    let (address, zone) := Text.splitFirst '%' inner
    isIpv6 isDottedQuad address &&
      (!inner.contains '%' || (zone ≠ [] && isEncoded isUnreserved zone))

/-- The normal form of a zone, from the text behind the percent sign. -/
def normalZone (zone : List Char) : List Char :=
  match zone with
  | '2' :: '5' :: c :: rest => encodeComponent isUnreserved (c :: rest)
  | zone => encodeComponent isUnreserved zone

/-- The normal form of an IPv6 address between brackets. Letters are in lower case, except in the
name of a zone. -/
def normalBracketed (s : List Char) : List Char :=
  let inner := s.tail.dropLast
  let (address, zone) := Text.splitFirst '%' inner
  '[' :: (address.map Char.toLower ++
    (if inner.contains '%' then '%' :: normalZone zone else []) ++ [']'])

/-! ## Registered names -/

/-- Whether all characters of a text are ASCII. -/
def isAscii (s : List Char) : Bool := s.all fun c => c.toNat < 0x80

/-- Whether a text is a number, in decimal or behind `0x` in hexadecimal. -/
def isNumber : List Char → Bool
  | '0' :: mark :: digits =>
    if mark = 'x' ∨ mark = 'X' then digits ≠ [] && digits.all isHexDigit
    else mark.isDigit && digits.all Char.isDigit
  | s => s ≠ [] && s.all Char.isDigit

/-- Whether a host is one to four numbers, which some resolvers take for an IPv4 address. -/
def isNumeric (s : List Char) : Bool :=
  let numbers := Text.split '.' s
  numbers.length ≤ 4 && numbers.all isNumber

/-- A text in lower case, except for its escapes. -/
def lowerBetweenEscapes : List Char → List Char
  | [] => []
  | '%' :: a :: b :: rest => '%' :: a :: b :: lowerBetweenEscapes rest
  | c :: rest => c.toLower :: lowerBetweenEscapes rest

/-- The normal form of a label. Outside ASCII it has to be a label of an international name. -/
def normalLabel (label : List Char) : Except (List Char) (List Char) :=
  if isAscii label then .ok (lowerBetweenEscapes label)
  else
    match Idna.toAscii? (Unicode.lower label) with
    | some ascii => .ok ascii
    | none => .error label

/-- The normal form of a registered name, or a label that has none. Numbers stay as they are. -/
def normalName (s : List Char) : Except (List Char) (List Char) :=
  if isNumeric s then .ok s
  else
    ((Text.split '.' (normalEscapes s)).mapM normalLabel).map (List.intercalate ['.'])

end Url

end InstanceIdentity
