import InstanceIdentity.Proofs.Detection
import InstanceIdentity.Proofs.Outcome
import InstanceIdentity.Proofs.Traffic
import InstanceIdentity.Session

/-!
# Independence of steps

A client and a detector live through many steps, and the world remembers all of them: what
was sent and logged, with what limits a stand-in was asked, and whether tracing is
suppressed. None of this makes a difference to a later step. An action looks at its script
and the calls to spare, and at nothing else, and what it does to a world that holds something
already is what it does to one in which nothing has happened.

## Main definitions

* `World.onto` — what is new on top of what was there
* `World.IsLocal` — an action that nothing but its script makes a difference to
* `Session.performAll` — steps one after another in one world
* `Session.Independent` — steps that show among others what they show alone

## Main results

* `Client.isLocal_fetch`, `Detector.isLocal_detect` — fetches are local, and so are
  detections with a source that is
* `Session.respond_suppressed` — a step leaves the suppression it finds
* `Session.independent` — the steps of every session are independent
-/

namespace InstanceIdentity

open Exchange

/-! ## Local actions -/

namespace World

/-- What a world holds on top of what an older one does. Whether tracing is suppressed is a matter
of the older one, and the script and the calls to spare are one of the newer. -/
def onto (new old : World) : World where
  suppressed := old.suppressed
  replies := new.replies
  spare := new.spare
  requests := new.requests ++ old.requests
  records := new.records ++ old.records
  asked := new.asked ++ old.asked

/-- An action is local: what it comes to depends on the script and the calls to spare alone, and so
does what it adds to a world. It leaves the suppression as it was. -/
def IsLocal {α : Type} (act : World → α × World) : Prop :=
  ∀ w, act w = ((act (begun w.replies w.spare)).1, (act (begun w.replies w.spare)).2.onto w)

theorem begun_onto (w : World) : (begun w.replies w.spare).onto w = w := rfl

/-- To do nothing is local. -/
theorem isLocal_idle {α : Type} (result : α) : IsLocal fun w => (result, w) := fun _ => rfl

theorem IsLocal.map {α β : Type} {act : World → α × World} (h : IsLocal act) (f : α → β) :
    IsLocal fun w => (f (act w).1, (act w).2) := by
  intro w
  show (f (act w).1, (act w).2) = _
  rw [h w]

/-- Requests add to a world what they add to a fresh one. -/
theorem sent_onto (w : World) (timeout : Seconds) (legs : List Leg) (record : Record) :
    { World.sent { w.log record with suppressed := true } timeout legs with
        suppressed := w.suppressed } =
      ({ World.sent { (begun w.replies w.spare).log record with suppressed := true } timeout legs
          with suppressed := false } : World).onto w := by
  rw [sent_eq, sent_eq]
  simp [onto, begun, log]

end World

open World

theorem Client.isLocal_fetch (c : Client) (timeout : Seconds) : IsLocal (c.fetch timeout) := by
  intro w
  cases pending : timeout.elapsed with
  | true =>
    have idle (w : World) : c.fetch timeout w = (c.refuse timeout, w) := by
      rw [fetch, if_pos pending]
    rw [idle w, idle (begun w.replies w.spare), begun_onto]
  | false =>
    -- The script decides how the exchange ends and what it sends, whatever else the world holds.
    obtain ⟨ending, ends⟩ := exists_ends w.replies c.documentUrl
    obtain ⟨legs, sends⟩ := exists_sends w.replies c.documentUrl
    have ends' : Ends (begun w.replies w.spare).replies c.documentUrl ending := ends
    have sends' : Exchange.Sends (begun w.replies w.spare).replies c.documentUrl legs := sends
    apply Prod.ext
    · rw [fst_fetch pending ends, fst_fetch pending ends']
      rfl
    · rw [snd_fetch pending sends, snd_fetch pending sends']
      exact sent_onto w timeout legs c.announcement

theorem Source.isLocal_standIn (outcome : Outcome) (timeout : Seconds) :
    IsLocal (Source.standIn outcome timeout) := fun _ => rfl

/-- A detection is local if its source is. -/
theorem Detector.isLocal_detect {d : Detector} (h : ∀ timeout, IsLocal (d.source timeout))
    (given : Option Seconds) : IsLocal (d.detect given) := by
  intro w
  have asked := h (given.getD d.timeout) w
  apply Prod.ext
  · show (conclude (d.source (given.getD d.timeout) w).1).1 =
      (conclude (d.source (given.getD d.timeout) (begun w.replies w.spare)).1).1
    rw [asked]
  · rw [snd_detect, snd_detect, asked]
    simp [onto]

theorem Action.isLocal_perform (c : Client) (limit : Seconds) (action : Action) :
    IsLocal (action.perform c limit) := by
  cases action with
  | fetch timeout => exact (c.isLocal_fetch timeout).map Result.fetched
  | detect given =>
    have detects := Detector.isLocal_detect (d := ⟨c.fetch, limit⟩) c.isLocal_fetch given
    exact detects.map Result.detected
  | enter => exact isLocal_idle _
  | exit => exact isLocal_idle _
  | close => exact isLocal_idle _

theorem Rehearsal.isLocal_perform (limit : Seconds) (r : Rehearsal) :
    IsLocal (r.perform limit) := by
  have detects := Detector.isLocal_detect (d := ⟨.standIn r.outcome, limit⟩)
    (Source.isLocal_standIn r.outcome) r.timeout
  exact detects.map Result.detected

/-! ## Answers -/

variable {α : Type} {perform : World → Result × World}

/-- A local action shows what it does to a world in which nothing has happened, under any
suppression, and leaves that as it was. -/
theorem answer_of_isLocal (h : IsLocal perform) (suppressed : Bool) (replies : List Reply)
    (spare : Nat) :
    answer suppressed replies spare perform =
      { result := (perform (begun replies spare)).1
        records := (perform (begun replies spare)).2.records.reverse
        requests := (perform (begun replies spare)).2.requests.reverse
        asked := (perform (begun replies spare)).2.asked.reverse
        suppressed := suppressed } := by
  have shown := h { suppressed := suppressed, replies := replies, spare := spare }
  rw [answer, shown]
  simp [onto]

/-- Where each step leaves the suppression it finds, steps show one after another what each of them
shows under the first suppression. -/
theorem play_eq_map {respond : Bool → α → Answer} {suppressed : Bool}
    (keeps : ∀ step, (respond suppressed step).suppressed = suppressed) (steps : List α) :
    play respond suppressed steps = steps.map (respond suppressed) := by
  induction steps with
  | nil => rfl
  | cons step rest ih =>
    rw [play, keeps, ih, List.map_cons]

/-! ## Sessions -/

namespace Session

/-- A step with a client leaves the suppression that it finds. -/
theorem respond_suppressed (c : Client) (limit : Seconds) (suppressed : Bool) (step : Step) :
    (respond c limit suppressed step).suppressed = suppressed := by
  rw [respond, answer_of_isLocal (step.action.isLocal_perform c limit)]

theorem respondStandIn_suppressed (limit : Seconds) (suppressed : Bool) (step : Rehearsal) :
    (respondStandIn limit suppressed step).suppressed = suppressed := by
  rw [respondStandIn, answer_of_isLocal (step.isLocal_perform limit)]

theorem run_eq_map (c : Client) (limit : Seconds) (steps : List Step) :
    run c limit steps = steps.map (respond c limit false) :=
  play_eq_map (respond_suppressed c limit false) steps

theorem rehearse_eq_map (limit : Seconds) (steps : List Rehearsal) :
    rehearse limit steps = steps.map (respondStandIn limit false) :=
  play_eq_map (respondStandIn_suppressed limit false) steps

/-- Performs steps one after another in one world, each with a script and calls to spare of its own.
Everything else in the world stays for the steps that follow. -/
def performAll (script : α → List Reply) (spare : α → Nat)
    (perform : α → World → Result × World) : List α → World → List Result × World
  | [], w => ([], w)
  | step :: rest, w =>
    let (result, w) := perform step { w with replies := script step, spare := spare step }
    let (results, w) := performAll script spare perform rest w
    (result :: results, w)

/-- A world that holds what an earlier one held, and then what some answers show. -/
structure Shows (w : World) (answers : List Answer) (w' : World) : Prop where
  suppressed : w'.suppressed = w.suppressed
  requests : w'.requests.reverse = w.requests.reverse ++ answers.flatMap Answer.requests
  records : w'.records.reverse = w.records.reverse ++ answers.flatMap Answer.records
  asked : w'.asked.reverse = w.asked.reverse ++ answers.flatMap Answer.asked

/-- The steps of a session are independent. What a step shows behind others is what it shows alone.
Steps that are picked from others, in any order and any number of times, show what they show
among the others. And in one world that keeps everything, steps come to what they show, and leave
it. -/
structure Independent (script : α → List Reply) (spare : α → Nat)
    (perform : α → World → Result × World) (run : List α → List Answer) : Prop where
  alone (earlier : List α) (step : α) : run (earlier ++ [step]) = run earlier ++ run [step]
  picked (steps : List α) (places : List Nat) :
    run (places.filterMap (steps[·]?)) = places.filterMap ((run steps)[·]?)
  together (steps : List α) (w : World) :
    (performAll script spare perform steps w).1 = (run steps).map Answer.result ∧
      Shows w (run steps) (performAll script spare perform steps w).2

/-- A local action leaves what it shows. -/
theorem shows_of_isLocal (h : IsLocal perform) (replies : List Reply) (spare : Nat) (w : World) :
    (perform { w with replies := replies, spare := spare }).1 =
        (answer false replies spare perform).result ∧
      Shows w [answer false replies spare perform]
        (perform { w with replies := replies, spare := spare }).2 := by
  rw [h { w with replies := replies, spare := spare }]
  refine ⟨rfl, rfl, ?_, ?_, ?_⟩
  · simp [onto, answer, begun]
  · simp [onto, answer, begun]
  · simp [onto, answer, begun]

theorem Shows.trans {w w' w'' : World} {answers answers' : List Answer}
    (h : Shows w answers w') (h' : Shows w' answers' w'') : Shows w (answers ++ answers') w'' where
  suppressed := h'.suppressed.trans h.suppressed
  requests := by rw [h'.requests, h.requests, List.flatMap_append, List.append_assoc]
  records := by rw [h'.records, h.records, List.flatMap_append, List.append_assoc]
  asked := by rw [h'.asked, h.asked, List.flatMap_append, List.append_assoc]

/-- Local steps in one world come to what they show alone, and leave it. -/
theorem performAll_shows {script : α → List Reply} {spare : α → Nat}
    {perform : α → World → Result × World} (h : ∀ step, IsLocal (perform step)) (steps : List α)
    (w : World) :
    let answers := steps.map fun step => answer false (script step) (spare step) (perform step)
    (performAll script spare perform steps w).1 = answers.map Answer.result ∧
      Shows w answers (performAll script spare perform steps w).2 := by
  -- The steps behind the first begin in the world that it leaves.
  induction steps generalizing w with
  | nil => exact ⟨rfl, rfl, by simp [performAll], by simp [performAll], by simp [performAll]⟩
  | cons step rest ih =>
    obtain ⟨first, left⟩ := shows_of_isLocal (h step) (script step) (spare step) w
    obtain ⟨results, shows'⟩ :=
      ih (perform step { w with replies := script step, spare := spare step }).2
    rw [performAll]
    dsimp only
    refine ⟨?_, left.trans shows'⟩
    rw [first, results, List.map_cons, List.map_cons]

/-- A session whose steps are local shows for each step what it shows alone, so its steps are
independent. -/
theorem independent_of_isLocal {script : α → List Reply} {spare : α → Nat}
    {perform : α → World → Result × World} {run : List α → List Answer}
    (h : ∀ step, IsLocal (perform step))
    (run_eq : ∀ steps, run steps =
      steps.map fun step => answer false (script step) (spare step) (perform step)) :
    Independent script spare perform run where
  alone earlier step := by simp [run_eq]
  picked steps places := by
    rw [run_eq, run_eq, List.map_filterMap]
    congr 1
    funext place
    rw [List.getElem?_map]
  together steps w := by
    rw [run_eq]
    exact performAll_shows h steps w

/-- The steps of every session are independent, with a client as well as with a stand-in. -/
theorem independent (limit : Seconds) :
    (∀ c : Client, Independent Step.replies Step.spare
        (fun step => step.action.perform c limit) (run c limit)) ∧
      Independent (fun _ => []) (fun _ => spareCalls) (Rehearsal.perform limit)
        (rehearse limit) := by
  constructor
  · intro c
    exact independent_of_isLocal (fun step => step.action.isLocal_perform c limit)
      (run_eq_map c limit)
  · exact independent_of_isLocal (fun step => step.isLocal_perform limit) (rehearse_eq_map limit)

end Session

end InstanceIdentity
