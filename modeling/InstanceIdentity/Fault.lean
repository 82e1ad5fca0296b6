import InstanceIdentity.Text.Quoted

/-!
# Faults

A fault is raised, not returned: it ends what is going on unless somebody handles
it. The client handles the faults of requests, the detector all ordinary ones, and
nobody the fatal ones, which end a program on purpose.

What a fault shows, and how it is written, is its own affair. Most faults are raised
with nothing, with a text or with another fault, and their two texts follow from that.

## Main definitions

* `Fault` — a name, how far it reaches, and its two texts
* `Fault.ofRequest`, `Fault.general` — faults that are raised with a text or with nothing
* `Fault.ofCause` — faults of requests that are raised with another fault
-/

namespace InstanceIdentity

/-- How far a fault reaches: faults of requests are handled first, fatal ones never. -/
inductive Reach | request | ordinary | fatal
  deriving DecidableEq, Repr

/-- Something raised. It shows a text, and it has a written form. -/
structure Fault where
  name : String
  reach : Reach
  shown : Text
  quoted : Text
  deriving DecidableEq, Repr

namespace Fault

/-- The faults of syntax, which show a word where they are raised with nothing. -/
def syntaxNames : List String := ["SyntaxError", "IndentationError", "TabError"]

/-- The text that a fault shows which is raised with a text or with nothing. A missing key is a key,
and it is quoted. -/
def shownWith (name : String) : Option Text → Text
  | none => if name ∈ syntaxNames then Text.ofString "None" else []
  | some t => if name = "KeyError" then t.quoted else t

/-- The written form of a fault, given that of what it is raised with. -/
def written (name : String) (arguments : Text) : Text :=
  Text.ofString (name ++ "(") ++ arguments ++ Text.ofString ")"

/-- A fault that is raised with a text or with nothing. -/
def withText (name : String) (reach : Reach) (argument : Option Text) : Fault :=
  ⟨name, reach, shownWith name argument, written name ((argument.map Text.quoted).getD [])⟩

/-- A fault of a request. -/
def ofRequest (name : String) (argument : Option Text) : Fault := withText name .request argument

/-- Texts with commas between them. -/
def listed (texts : List Text) : Text :=
  Text.ofString "(" ++ List.intercalate (Text.ofString ", ") texts ++ Text.ofString ")"

/-- A fault of a request that is raised with another fault, which is given by its name and the
written forms of its own arguments. These are what both of them show. -/
def ofCause (name causeName : String) (arguments : List Text) : Fault :=
  ⟨name, .request, listed arguments, written name (Text.ofString causeName ++ listed arguments)⟩

/-- The names of the faults that nobody handles. -/
def fatalNames : List String :=
  ["KeyboardInterrupt", "SystemExit", "GeneratorExit", "BaseException"]

/-- The faults that have a second name, under it. -/
def secondNames : List (String × String) :=
  [("IOError", "OSError"), ("EnvironmentError", "OSError")]

/-- A fault that does not come from a request. -/
def general (name : String) (argument : Option Text) : Fault :=
  withText ((secondNames.lookup name).getD name)
    (if name ∈ fatalNames then .fatal else .ordinary) argument

/-! ## Faults of decoding -/

/-- The length of the part of a text before an offset. A negative offset counts from the end. -/
def lengthBefore (text : List Char) (offset : Int) : Nat :=
  if offset < 0 then (text.length + offset).toNat else offset.toNat

/-- The argument of a fault of decoding: what is wrong, and where in a text. The offset may lie
outside the text; the column counts from the last line feed that is before it in the text. -/
def decodeArgument (message : String) (text : List Char) (offset : Int) : Text :=
  let before := text.take (lengthBefore text offset)
  let line := before.count '\n' + 1
  let lineStart := (before.reverse.dropWhile (· ≠ '\n')).length
  Text.ofString (message ++ ": line " ++ toString line ++ " column " ++
    toString (offset + 1 - lineStart) ++ " (char " ++ toString offset ++ ")")

end Fault

end InstanceIdentity
