import InstanceIdentity.Detector

/-!
# Sessions

A session is a row of steps with one client and one detector. Each step has a script
of its own for the network, or, where a stand-in takes the place of the client, an
outcome. What a step shows is its result and what it logged and sent; only the
suppression of tracing goes over from one step to the next. How many calls are to spare
depends on where the program takes the step.

## Main definitions

* `Action`, `Step`, `Rehearsal` — steps with a client, and with a stand-in
* `Result`, `Answer` — what a step shows
* `play` — steps one after another
* `Session.run`, `Session.rehearse` — whole sessions
-/

namespace InstanceIdentity

/-- What can be done with a client and a detector. A client can be used in a block, which it enters
and exits, and closed; it stays usable. -/
inductive Action
  | fetch (timeout : Seconds)
  | detect (timeout : Option Seconds)
  | enter
  | exit
  | close
  deriving DecidableEq, Repr

/-- A step with a client: an action, what the network answers meanwhile, and the calls to spare
where its fetch begins. -/
structure Step where
  action : Action
  replies : List Reply
  spare : Nat := spareCalls
  deriving DecidableEq, Repr

/-- A step with a stand-in: a detection, and what the stand-in comes to. -/
structure Rehearsal where
  timeout : Option Seconds
  outcome : Outcome
  deriving DecidableEq, Repr

/-- The result of a step. Entering gives the same client back, and exiting swallows no fault. -/
inductive Result
  | fetched (o : Outcome)
  | detected (d : Detection)
  | entered
  | exited
  | closed
  deriving DecidableEq, Repr

/-- What a step shows: its result, its log records, its requests, the time limits that a stand-in
was asked with, and whether tracing is suppressed afterwards. -/
structure Answer where
  result : Result
  records : List Record
  requests : List Request
  asked : List Seconds
  suppressed : Bool
  deriving DecidableEq, Repr

/-- Performs an action with a client and the detector that uses it. -/
def Action.perform (c : Client) (limit : Seconds) (action : Action) (w : World) :
    Result × World :=
  match action with
  | .fetch timeout =>
    let (outcome, w) := c.fetch timeout w
    (.fetched outcome, w)
  | .detect timeout =>
    let (detection, w) := Detector.detect ⟨c.fetch, limit⟩ timeout w
    (.detected detection, w)
  | .enter => (.entered, w)
  | .exit => (.exited, w)
  | .close => (.closed, w)

/-- Performs a detection with a stand-in. -/
def Rehearsal.perform (limit : Seconds) (r : Rehearsal) (w : World) : Result × World :=
  let (detection, w) := Detector.detect ⟨.standIn r.outcome, limit⟩ r.timeout w
  (.detected detection, w)

/-- What an action shows that begins with a suppression, a script and calls to spare. -/
def answer (suppressed : Bool) (replies : List Reply) (spare : Nat)
    (perform : World → Result × World) : Answer :=
  let (result, w) := perform { suppressed := suppressed, replies := replies, spare := spare }
  ⟨result, w.records.reverse, w.requests.reverse, w.asked.reverse, w.suppressed⟩

/-- Plays steps one after another. Each begins with the suppression that the one before has left. -/
def play {α : Type} (respond : Bool → α → Answer) (suppressed : Bool) : List α → List Answer
  | [] => []
  | step :: rest =>
    let shown := respond suppressed step
    shown :: play respond shown.suppressed rest

namespace Session

/-- What a step with a client shows. -/
def respond (c : Client) (limit : Seconds) (suppressed : Bool) (step : Step) : Answer :=
  answer suppressed step.replies step.spare (step.action.perform c limit)

/-- A session with a client, and a detector with a time limit. -/
def run (c : Client) (limit : Seconds) (steps : List Step) : List Answer :=
  play (respond c limit) false steps

/-- What a step with a stand-in shows. -/
def respondStandIn (limit : Seconds) (suppressed : Bool) (step : Rehearsal) : Answer :=
  answer suppressed [] spareCalls (step.perform limit)

/-- A session with a stand-in. -/
def rehearse (limit : Seconds) (steps : List Rehearsal) : List Answer :=
  play (respondStandIn limit) false steps

end Session

end InstanceIdentity
