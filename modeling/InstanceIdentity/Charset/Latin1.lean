import InstanceIdentity.Text.Hexadecimal

/-!
# Latin-1

A byte is the character of the same number, so the first 256 characters have one byte
each and all others have none.

## Main definitions

* `Latin1.Unfit` — a run of characters that have no byte
* `Latin1.encode` — the bytes of a text
-/

namespace InstanceIdentity

namespace Latin1

/-- The first run of characters in a text that have no byte: its first character, where it stands,
and how long the run is. -/
structure Unfit where
  character : Char
  position : Nat
  length : Nat
  deriving DecidableEq, Repr

/-- A character by its number, as wide as it needs. -/
def numbered (c : Char) : String :=
  if c.toNat < 0x100 then "\\x" ++ String.ofList (Text.hex 2 c.toNat)
  else if c.toNat < 0x10000 then "\\u" ++ String.ofList (Text.hex 4 c.toNat)
  else "\\U" ++ String.ofList (Text.hex 8 c.toNat)

/-- The run in words. -/
def Unfit.message (u : Unfit) : String :=
  "'latin-1' codec can't encode " ++
    (if u.length = 1 then
      "character '" ++ numbered u.character ++ "' in position " ++ toString u.position
    else
      "characters in position " ++ toString u.position ++ "-" ++
        toString (u.position + u.length - 1)) ++
    ": ordinal not in range(256)"

/-- Whether a character has a byte. -/
def fits (c : Char) : Bool := c.toNat < 0x100

/-- The bytes of a text. -/
def encode (s : List Char) : Except Unfit (List UInt8) :=
  match s.dropWhile fits with
  | [] => .ok (s.map fun c => UInt8.ofNat c.toNat)
  | c :: rest =>
    .error ⟨c, (s.takeWhile fits).length, ((c :: rest).takeWhile (!fits ·)).length⟩

end Latin1

end InstanceIdentity
