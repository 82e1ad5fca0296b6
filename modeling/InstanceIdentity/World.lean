import InstanceIdentity.Fault
import InstanceIdentity.Http.Message

/-!
# The world of a fetch

What a fetch can see and change: whether tracing is suppressed, what the network will
answer, how many calls the program can still nest, and what has been sent and logged so
far.

The answers of the network are a script. Each request takes the next one, and the
last one answers all requests that follow. Without any answer, a request fails.

## Main definitions

* `Record` — a log record
* `Reply` — what a request brings
* `World` — the state
* `World.room` — how deep a body may be nested
* `World.transmit`, `World.log`, `World.ask` — what can happen to it
* `World.suppressing` — an action with tracing suppressed
-/

namespace InstanceIdentity

/-- The levels of log records. -/
inductive Level | debug | warning
  deriving DecidableEq, Repr

/-- The name of a level. -/
def Level.name : Level → String
  | .debug => "DEBUG"
  | .warning => "WARNING"

/-- The loggers. -/
inductive Logger | detector | client
  deriving DecidableEq, Repr

/-- The name of a logger. -/
def Logger.name : Logger → String
  | .detector => "opentelemetry.resource.detector.ec2"
  | .client => "opentelemetry.resource.detector.ec2._client"

/-- A log record. -/
structure Record where
  level : Level
  logger : Logger
  message : Text
  deriving DecidableEq, Repr

/-- What a request brings: a response or a fault. -/
inductive Reply
  | response (r : Response)
  | fault (f : Fault)
  deriving DecidableEq, Repr

/-- The calls to spare where nothing else is said: a program calls a function that asks for the
fetch. -/
def spareCalls : Nat := 989

/-- What a fetch can see and change. The calls to spare are those that can be nested besides the
calls of an exchange where the fetch begins, so they depend on what calls for it. Requests, records
and the time limits that a stand-in was asked with stand latest first. -/
structure World where
  suppressed : Bool
  replies : List Reply
  spare : Nat := spareCalls
  requests : List Request := []
  records : List Record := []
  asked : List Seconds := []
  deriving DecidableEq, Repr

namespace World

/-- What a request brings when the script has no answer at all. -/
def noReply : Reply :=
  .fault (.ofRequest "ConnectionError" (some (Text.ofString "no scripted response")))

/-- The next answer of a script. -/
def nextReply (replies : List Reply) : Reply := replies.head?.getD noReply

/-- The script after an answer: the last one stays. -/
def laterReplies : List Reply → List Reply
  | [] => []
  | [reply] => [reply]
  | _ :: rest => rest

/-- How many arrays and objects may be open at once in a body. Reading a body takes a call for each
of them. An exchange nests three calls more than it takes to begin with a body, and behind an
exchange these are left. -/
def room (w : World) : Nat := w.spare + 3

/-- Sends a request. -/
def transmit (w : World) (url : String) (timeout : Seconds) : Reply × World :=
  (nextReply w.replies,
    { w with
      replies := laterReplies w.replies
      requests := ⟨"GET", url, timeout, w.suppressed⟩ :: w.requests })

/-- Adds a log record. -/
def log (w : World) (record : Record) : World := { w with records := record :: w.records }

/-- Notes the time limit that a stand-in was asked with. -/
def ask (w : World) (timeout : Seconds) : World := { w with asked := timeout :: w.asked }

/-- Performs an action with tracing suppressed, and leaves suppression as it was. -/
def suppressing {α : Type} (w : World) (action : World → α × World) : α × World :=
  let (result, after) := action { w with suppressed := true }
  (result, { after with suppressed := w.suppressed })

end World

end InstanceIdentity
