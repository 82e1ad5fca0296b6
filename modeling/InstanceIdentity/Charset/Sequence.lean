/-!
# Characters of several bytes

A charset whose characters have different lengths is read from the front: the first
bytes are a character, or they are none, or they begin a character that the sequence
does not finish. What the bytes mean may depend on those before.

## Main definitions

* `Front` — what the first bytes are
* `decodeSequence` — the characters of a byte sequence, `none` for each invalid part
-/

namespace InstanceIdentity

/-- What the first bytes of a sequence are: characters of some type or nothing valid, and how many
bytes besides the first one that takes, or a character that is not finished. -/
inductive Front (α : Type)
  | characters (cs : List α) (more : Nat)
  | invalid (more : Nat)
  | unfinished

/-- The characters of a byte sequence, from a state on, behind others, which stand latest first. -/
def decodeSequence {σ α : Type} (front : σ → Nat → List UInt8 → Front α × σ) (state : σ)
    (before : List (Option α)) : List UInt8 → List (Option α)
  | [] => before.reverse
  | b :: rest =>
    match front state b.toNat rest with
    | (.characters cs more, state) =>
      decodeSequence front state ((cs.map some).reverse ++ before) (rest.drop more)
    | (.invalid more, state) => decodeSequence front state (none :: before) (rest.drop more)
    | (.unfinished, _) => (none :: before).reverse
termination_by bytes => bytes.length
decreasing_by
  all_goals simp only [List.length_drop, List.length_cons]; omega

/-- The front of a charset whose characters below 0x80 are ASCII and whose other ones have two
bytes. -/
def pairFront (character? : Nat → Nat → Option Char) (first : Nat) (rest : List UInt8) :
    Front Char :=
  if first < 0x80 then .characters [Char.ofNat first] 0
  else
    match rest with
    | [] => .unfinished
    | second :: _ =>
      match character? first second.toNat with
      | some c => .characters [c] 1
      | none => .invalid 0

/-- The characters of a byte sequence where nothing depends on the bytes before. -/
def decodePlain {α : Type} (front : Nat → List UInt8 → Front α) (bytes : List UInt8) :
    List (Option α) :=
  decodeSequence (fun (_ : Unit) first rest => (front first rest, ())) () [] bytes

end InstanceIdentity
