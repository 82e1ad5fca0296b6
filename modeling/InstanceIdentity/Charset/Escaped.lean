import InstanceIdentity.Charset.Sequence
import InstanceIdentity.Text.Hexadecimal
import InstanceIdentity.Unicode.Name

/-!
# Escaped text

Bytes stand for the characters with their numbers, and a backslash opens an escape
sequence. The full form has short escapes, octal and hexadecimal numbers, and the names
of characters; the raw one has only hexadecimal numbers of four or eight digits. A number
may be that of a surrogate.

## Main definitions

* `Escaped.front` — the first characters in the full form
* `Escaped.rawFront` — the first characters in the raw form
-/

namespace InstanceIdentity

namespace Escaped

/-- The characters of the short escapes. -/
def shortEscapes : List (Char × List Char) :=
  [('\n', []), ('\\', ['\\']), ('\'', ['\'']), ('"', ['"']), ('a', ['\x07']), ('b', ['\x08']),
   ('f', ['\x0c']), ('n', ['\n']), ('r', ['\r']), ('t', ['\t']), ('v', ['\x0b'])]

/-- The code point with a number. A number beyond the last one counts as invalid. -/
def numbered (n more : Nat) : Front CodePoint :=
  if n < 0x110000 then .characters [.ofNat n] more else .invalid more

/-- The value of digits in a base. -/
def value (base : Nat) (digits : List Nat) : Nat := digits.foldl (fun n d => base * n + d) 0

/-- The longest run of digits at the front, up to a length. -/
def digits (digit? : Char → Option Nat) (most : Nat) (bytes : List UInt8) : List Nat :=
  let found := (bytes.take most).map fun b => digit? (Char.ofNat b.toNat)
  (found.takeWhile Option.isSome).filterMap id

/-- An octal digit. -/
def octal? (c : Char) : Option Nat := if '0' ≤ c ∧ c ≤ '7' then some (c.toNat - 48) else none

/-- A hexadecimal digit. -/
def hexadecimal? (c : Char) : Option Nat := (Text.hexValue? c).map Fin.val

/-- A number of hexadecimal digits, behind a backslash and a letter. Without its last digits it is
invalid as far as it goes. -/
def hexadecimal (count : Nat) (bytes : List UInt8) : Front CodePoint :=
  let found := digits hexadecimal? count bytes
  if found.length = count then numbered (value 16 found) (1 + count)
  else .invalid (1 + found.length)

/-- A character by its name, behind a backslash and a letter. -/
def named (bytes : List UInt8) : Front CodePoint :=
  match bytes with
  | 0x7B :: rest =>
    let name := rest.takeWhile (· ≠ 0x7D)
    if name.length = rest.length then .unfinished
    else if name = [] then .invalid 2
    else
      match Unicode.named? (name.map fun b => Char.ofNat b.toNat) with
      | some c => .characters [c] (name.length + 3)
      | none => .invalid (name.length + 3)
  | _ => .invalid 1

/-- A number that both forms have, behind a backslash and the letter that tells how
many digits it has. -/
def long? (c : Char) (bytes : List UInt8) : Option (Front CodePoint) :=
  if c = 'u' then some (hexadecimal 4 bytes)
  else if c = 'U' then some (hexadecimal 8 bytes)
  else none

/-- An escape sequence of the full form, behind its backslash. A backslash before any other
character stands for itself. -/
def escape (b : UInt8) (rest : List UInt8) : Front CodePoint :=
  let c := Char.ofNat b.toNat
  match shortEscapes.lookup c with
  | some cs => .characters (Text.ofChars cs) 1
  | none =>
    if (octal? c).isSome then
      let found := digits octal? 3 (b :: rest)
      numbered (value 8 found) found.length
    else if c = 'x' then hexadecimal 2 rest
    else if c = 'N' then named rest
    else (long? c rest).getD (.characters (Text.ofChars ['\\', c]) 1)

/-- The first characters in the full form. -/
def front (first : Nat) (rest : List UInt8) : Front CodePoint :=
  if first ≠ 0x5C then .characters [.ofNat first] 0
  else
    match rest with
    | [] => .unfinished
    | b :: rest => escape b rest

/-- The first characters in the raw form. A backslash before any character but two letters stands
for itself. -/
def rawFront (first : Nat) (rest : List UInt8) : Front CodePoint :=
  if first ≠ 0x5C then .characters [.ofNat first] 0
  else
    match rest with
    | [] => .characters [.ofChar '\\'] 0
    | b :: rest =>
      let c := Char.ofNat b.toNat
      (long? c rest).getD (.characters (Text.ofChars ['\\', c]) 1)

end Escaped

end InstanceIdentity
