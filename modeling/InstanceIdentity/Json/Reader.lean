import InstanceIdentity.Json.Basic
import InstanceIdentity.Json.Numeral
import InstanceIdentity.Text.Hexadecimal

/-!
# Reading JSON

The reader takes a text one character at a time. Between two characters its state is
a phase, which says what may come next, a stack of the arrays and objects that are
still open, and the place it has reached. The first character that cannot continue
any JSON text ends the reading with an error, and so do a whole number of too many
digits, once it is complete, and an array or object that is opened where no more of them
have room.

A character that cannot extend a numeral belongs to what follows the numeral. Half of a
surrogate pair is no character. It can stand in a string, where any character can, and
there it does not join with another half.

## Main definitions

* `Json.Frame`, `Json.Phase`, `Json.State` — the state between two characters
* `Json.State.step`, `Json.State.stepPoint` — one character, and one code point
* `Json.State.runText` — a run of code points
* `Json.State.finish` — the end of the text
* `Json.readText` — a whole text
-/

namespace InstanceIdentity

namespace Json

/-- An array or object that is still open, with its complete items or members latest first. An open
object also has the key of the member whose value is being read. -/
inductive Frame
  | array (items : List Json)
  | object (members : List (Text × Json)) (key : Text)

/-- What a string is read for: a value, or the key of an object's next member. The string may have
begun with code points that nothing behind them joins with. -/
inductive Role
  | value
  | key (members : List (Text × Json))
  | more (before : Text) (role : Role)

/-- How far an escape inside a string has come. -/
inductive Escape
  | none
  | begun (backslash : Place)
  | unicode (letter : Place) (digits : Nat) (number : Nat)

/-- What may come next. -/
inductive Phase
  | value
  | after (v : Json)
  | name (members : List (Text × Json))
  | colon (members : List (Text × Json)) (key : Text)
  | string (role : Role) (start : Place) (written : Text) (escape : Escape)
  | word (start : Place) (rest : List Char) (v : Json)
  | numeral (n : Numeral)

/-- A phase and the open arrays and objects, innermost first. -/
abbrev Position := Phase × List Frame

/-- Whether a string is read for a key. -/
def Role.isKey : Role → Bool
  | .value => false
  | .key _ => true
  | .more _ role => role.isKey

/-- What follows a complete string, whose code points stand latest first. -/
def Role.complete (written : Text) : Role → Phase
  | .value => .after (.string written.reverse)
  | .key members => .colon members written.reverse
  | .more before role => role.complete (written ++ before)

/-- How many arrays and objects are open in a phase. An object whose key is due or being read is not
among the open ones on the stack. -/
def Phase.depth (stack : List Frame) : Phase → Nat
  | .name _ => stack.length + 1
  | .colon _ _ => stack.length + 1
  | .string role _ _ _ => if role.isKey then stack.length + 1 else stack.length
  | _ => stack.length

/-- The state between two characters. -/
structure State where
  phase : Phase
  stack : List Frame
  place : Place

/-- The characters that may stand between tokens. -/
def isSpace (c : Char) : Bool := c = ' ' || c = '\t' || c = '\n' || c = '\r'

/-- A refusal for a flaw. -/
def refuse (flaw : Flaw) (place : Place) : Except Error Position := .error (.malformed flaw place)

/-- The words, each with the value it stands for. -/
def words : List (List Char × Json) :=
  [("null".toList, .null), ("true".toList, .bool true), ("false".toList, .bool false),
   ("NaN".toList, .real "NaN"), ("Infinity".toList, .real "Infinity")]

/-- Opens an array or object if there is room. -/
def openContainer (room : Nat) (container : Container) (stack : List Frame) :
    Except Error Position :=
  if room ≤ stack.length then .error (.tooDeep container)
  else match container with
    | .array => .ok (.value, .array [] :: stack)
    | .object => .ok (.name [], stack)

/-- The first character of a value. -/
def stepValue (room : Nat) (place : Place) (stack : List Frame) (c : Char) :
    Except Error Position :=
  if isSpace c then .ok (.value, stack)
  else if c = '"' then .ok (.string .value place [] .none, stack)
  else if c = '\x7b' then openContainer room .object stack
  else if c = '[' then openContainer room .array stack
  else
    match words.find? fun word => word.1.head? = some c with
    | some (spelling, v) => .ok (.word place spelling.tail v, stack)
    | none =>
      match Numeral.begin? place c with
      | some n => .ok (.numeral n, stack)
      | none =>
        match stack with
        | .array [] :: outer =>
          if c = ']' then .ok (.after (.array []), outer) else refuse .missingValue place
        | _ => refuse .missingValue place

/-- The flaw of anything that follows a complete value and does not continue the text. -/
def leftover (stack : List Frame) : Flaw :=
  if stack.isEmpty then .extraData else .missingComma

/-- A character after a complete value. -/
def stepAfter (place : Place) (stack : List Frame) (v : Json) (c : Char) : Except Error Position :=
  if isSpace c then .ok (.after v, stack)
  else
    match stack with
    | [] => refuse .extraData place
    | .array items :: outer =>
      if c = ',' then .ok (.value, .array (v :: items) :: outer)
      else if c = ']' then .ok (.after (.array (v :: items).reverse), outer)
      else refuse .missingComma place
    | .object members key :: outer =>
      if c = ',' then .ok (.name ((key, v) :: members), outer)
      else if c = '\x7d' then .ok (.after (.object ((key, v) :: members).reverse), outer)
      else refuse .missingComma place

/-- A character where the key of a member is due. -/
def stepName (place : Place) (stack : List Frame) (members : List (Text × Json)) (c : Char) :
    Except Error Position :=
  if isSpace c then .ok (.name members, stack)
  else if c = '"' then .ok (.string (.key members) place [] .none, stack)
  else if c = '\x7d' ∧ members.isEmpty then .ok (.after (.object []), stack)
  else refuse .missingName place

/-- A character between a key and its value. -/
def stepColon (place : Place) (stack : List Frame) (members : List (Text × Json)) (key : Text)
    (c : Char) : Except Error Position :=
  if isSpace c then .ok (.colon members key, stack)
  else if c = ':' then .ok (.value, .object members key :: stack)
  else refuse .missingColon place

/-- A character of a string outside any escape. The string's characters stand latest first. -/
def stepString (place : Place) (stack : List Frame) (role : Role) (start : Place) (written : Text)
    (c : Char) : Except Error Position :=
  if c = '"' then .ok (role.complete written, stack)
  else if c = '\\' then .ok (.string role start written (.begun place), stack)
  else if c.toNat < 0x20 then refuse .controlCharacter place
  else .ok (.string role start (Text.snoc (.ofChar c) written) .none, stack)

/-- The character that a letter after a backslash stands for. -/
def escaped? (c : Char) : Option Char :=
  match c with
  | '"' => some '"'
  | '\\' => some '\\'
  | '/' => some '/'
  | 'b' => some '\x08'
  | 'f' => some '\x0c'
  | 'n' => some '\n'
  | 'r' => some '\r'
  | 't' => some '\t'
  | _ => none

/-- A character of a string. The four digits of an escape by number are complete only when one more
character follows them. -/
def stepEscape (place : Place) (stack : List Frame) (role : Role) (start : Place) (written : Text)
    (escape : Escape) (c : Char) : Except Error Position :=
  match escape with
  | .none => stepString place stack role start written c
  | .begun backslash =>
    if c = 'u' then .ok (.string role start written (.unicode place 0 0), stack)
    else
      match escaped? c with
      | some d => .ok (.string role start (Text.snoc (.ofChar d) written) .none, stack)
      | none => refuse .unknownEscape backslash
  | .unicode letter digits number =>
    if digits = 4 then
      stepString place stack role start (Text.snoc (.ofNat number) written) c
    else
      match Text.hexValue? c with
      | some d =>
        .ok (.string role start written (.unicode letter (digits + 1) (16 * number + d)), stack)
      | none => refuse .unicodeEscape letter

/-- What follows a complete word. The words that are numbers take a call. -/
def completeWord (room : Nat) (stack : List Frame) (v : Json) : Except Error Position :=
  match v with
  | .real _ => if room ≤ stack.length then .error (.noCall true) else .ok (.after v, stack)
  | _ => .ok (.after v, stack)

/-- A character of a word such as `null`. -/
def stepWord (room : Nat) (stack : List Frame) (start : Place) (rest : List Char) (v : Json)
    (c : Char) : Except Error Position :=
  match rest with
  | d :: rest =>
    if c = d then
      if rest.isEmpty then completeWord room stack v else .ok (.word start rest v, stack)
    else refuse .missingValue start
  | [] => refuse .missingValue start

/-- A character that may extend a numeral. The letters of minus infinity are read as a word. -/
def stepNumeral (place : Place) (stack : List Frame) (n : Numeral) (c : Char) :
    Except Error Position :=
  if n.part = .minus ∧ c = 'I' then
    .ok (.word n.start "nfinity".toList (.real "-Infinity"), stack)
  else
    match n.extend? place c with
    | some n => .ok (.numeral n, stack)
    | none =>
      match n.complete (leftover stack) with
      | .ok v => stepAfter place stack v c
      | .error e => .error e

/-- One character in a phase. -/
def Phase.step (room : Nat) (phase : Phase) (place : Place) (stack : List Frame) (c : Char) :
    Except Error Position :=
  match phase with
  | .value => stepValue room place stack c
  | .after v => stepAfter place stack v c
  | .name members => stepName place stack members c
  | .colon members key => stepColon place stack members key c
  | .string role start written escape => stepEscape place stack role start written escape c
  | .word start rest v => stepWord room stack start rest v c
  | .numeral n => stepNumeral place stack n c

/-- The value that a text amounts to when it ends after a complete value. -/
def endAfter (place : Place) (stack : List Frame) (v : Json) : Except Error Json :=
  if stack.isEmpty then .ok v else .error (.malformed .missingComma place)

/-- The value that a text amounts to when it ends in a phase. -/
def Phase.finish (phase : Phase) (place : Place) (stack : List Frame) : Except Error Json :=
  match phase with
  | .value => .error (.malformed .missingValue place)
  | .after v => endAfter place stack v
  | .name _ => .error (.malformed .missingName place)
  | .colon _ _ => .error (.malformed .missingColon place)
  | .string _ _ _ (.unicode letter _ _) => .error (.malformed .unicodeEscape letter)
  | .string _ start _ _ => .error (.malformed .unterminatedString start)
  | .word start _ _ => .error (.malformed .missingValue start)
  | .numeral n =>
    match n.complete (leftover stack) with
    | .ok v => endAfter place stack v
    | .error e => .error e

namespace State

/-- The state before the first character. -/
def initial : State := ⟨.value, [], .first⟩

/-- The calls that are left to report a flaw. -/
def left (room : Nat) (s : State) : Nat := room - s.phase.depth s.stack

/-- The state after one more character. -/
def step (room : Nat) (s : State) (c : Char) : Except Error State :=
  match s.phase.step room s.place s.stack c with
  | .ok (phase, stack) => .ok ⟨phase, stack, s.place.next c⟩
  | .error e => .error (e.withLeft (s.left room))

/-- The character that takes the place of a surrogate. It can stand where any character can, and
nowhere else. -/
def standIn : Char := '\uFFFD'

/-- Puts a code point that nothing joins with in the place of the last character of a string. -/
def withLast (c : CodePoint) (s : State) : State :=
  match s.phase with
  | .string role start (_ :: written) escape =>
    { s with phase := .string (.more (c :: written) role) start [] escape }
  | _ => s

/-- The state after one more code point. -/
def stepPoint (room : Nat) (s : State) (c : CodePoint) : Except Error State :=
  match c.toChar? with
  | some c => s.step room c
  | none => (s.step room standIn).map (withLast c)

/-- The state after a run of code points. -/
def runText (room : Nat) (s : State) : Text → Except Error State
  | [] => .ok s
  | c :: rest =>
    match s.stepPoint room c with
    | .ok s => runText room s rest
    | .error e => .error e

/-- The value of a text that ends in this state. -/
def finish (room : Nat) (s : State) : Except Error Json :=
  match s.phase.finish s.place s.stack with
  | .ok v => .ok v
  | .error e => .error (e.withLeft (s.left room))

end State

/-- The value that a text stands for, with room for so many arrays and objects within each other. A
byte order mark at its beginning is refused. -/
def readText (room : Nat) (text : Text) : Except Error Json :=
  if text.head? = some (CodePoint.ofChar '\uFEFF') then .error (.malformed .byteOrderMark .first)
  else
    match State.initial.runText room text with
    | .ok s => s.finish room
    | .error e => .error e

end Json

end InstanceIdentity
