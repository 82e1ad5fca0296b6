import InstanceIdentity.Detector

/-!
# Rows of detections

A detector can be used again and again, and the source behind it may do something else
each time: bring a document, fail, or let any fault out. This file says what a row of
detections comes to, whatever the sources do. Each of them asks its source once, makes a
resource of the outcome, and leaves at most one log record. Only fatal faults get through.

## Main definitions

* `Fault.Shows` — the text of a fault that is raised with a text or with nothing
* `Detector.Concludes` — what a detection makes of an outcome, and what it logs
* `Detector.Detects` — one detection
* `Detector.Call`, `Detector.detectAll`, `Detector.Row` — detections one after another

## Main results

* `Detector.detects_iff` — `Detector.detect` computes `Detector.Detects`
* `Detector.asked_detectAll` — a row asks its sources once for each call, in order
* `Detector.detectAll_contract` — a row of detections is a row of single ones, and each call
  asks once
-/

namespace InstanceIdentity

/-- The text that a fault shows which is raised with a text or with nothing. It is that text, or
none, but a missing key is quoted and a fault of syntax shows a word. -/
inductive Fault.Shows (name : String) : Option Text → Text → Prop
  | nothing (other : name ∉ ["SyntaxError", "IndentationError", "TabError"]) : Shows name none []
  | word (syntactic : name ∈ ["SyntaxError", "IndentationError", "TabError"]) :
      Shows name none (Text.ofString "None")
  | key {argument : Text} (key : name = "KeyError") : Shows name (some argument) argument.quoted
  | plain {argument : Text} (other : name ≠ "KeyError") : Shows name (some argument) argument

theorem Fault.shows_iff {name : String} {argument : Option Text} {text : Text} :
    Shows name argument text ↔ shownWith name argument = text := by
  constructor
  · intro h
    cases h with
    | nothing other => exact if_neg other
    | word syntactic => exact if_pos syntactic
    | key key => exact if_pos key
    | plain other => exact if_neg other
  · rintro rfl
    cases argument with
    | none =>
      rw [shownWith]
      split
      · exact .word ‹_›
      · exact .nothing ‹_›
    | some argument =>
      rw [shownWith]
      split
      · exact .key ‹_›
      · exact .plain ‹_›

namespace Detector

/-! ## Single detections -/

/-- What a detection makes of an outcome, and the records that it logs. A document becomes a
resource, in silence. A failure of decoding is logged as a warning, any other failure is not worth
one. A fault is logged as a warning as well, unless it is fatal: then it leaves the detection. -/
inductive Concludes : Outcome → Detection → List Record → Prop
  | document (d : Document) :
      Concludes (.document d)
        (.resource
          { attributes :=
              [("cloud.provider", Text.ofString "aws"),
               ("cloud.platform", Text.ofString "aws_ec2"),
               ("cloud.account.id", d.accountId),
               ("cloud.region", d.region),
               ("cloud.availability_zone", d.availabilityZone),
               ("host.id", d.instanceId),
               ("host.type", d.instanceType),
               ("host.image.id", d.imageId)]
            schemaUrl := "" })
        []
  | decode (message : Text) :
      Concludes (.failure ⟨.decode, message⟩) (.resource ⟨[], ""⟩)
        [⟨.warning, .detector, Text.ofString "AwsEc2ResourceDetector failed: " ++ message⟩]
  | failure {kind : Failure.Kind} (other : kind ≠ .decode) (message : Text) :
      Concludes (.failure ⟨kind, message⟩) (.resource ⟨[], ""⟩)
        [⟨.debug, .detector, Text.ofString "AwsEc2ResourceDetector failed: " ++ message⟩]
  | fault {f : Fault} (reach : f.reach ≠ .fatal) :
      Concludes (.raised f) (.resource ⟨[], ""⟩)
        [⟨.warning, .detector, Text.ofString "AwsEc2ResourceDetector failed: " ++ f.shown⟩]
  | fatal {f : Fault} (reach : f.reach = .fatal) : Concludes (.raised f) (.raised f) []

/-- One detection: the source is asked once, with the given time limit, or with that of the detector
where none is given. Then the records of the conclusion are logged, and nothing else happens. -/
inductive Detects (d : Detector) (given : Option Seconds) (w : World) : Detection → World → Prop
  | intro {time : Seconds} {outcome : Outcome} {detection : Detection} {records : List Record}
      {after : World} (limit : given = some time ∨ (given = none ∧ time = d.timeout))
      (asks : d.source time w = (outcome, after))
      (concludes : Concludes outcome detection records) :
      Detects d given w detection { after with records := records ++ after.records }

variable {d : Detector} {limit time : Seconds} {given : Option Seconds} {w w' : World}
  {outcome : Outcome} {detection : Detection} {detections : List Detection}
  {records : List Record}

theorem failureLevel_of_ne {kind : Failure.Kind} (other : kind ≠ .decode) :
    failureLevel kind = .debug := by
  cases kind with
  | decode => exact absurd rfl other
  | transport => rfl
  | general => rfl

/-- The function computes the conclusion. -/
theorem concludes_iff : Concludes outcome detection records ↔
    (conclude outcome).1 = detection ∧ (conclude outcome).2.toList = records := by
  constructor
  · intro h
    cases h with
    | document d => exact ⟨rfl, rfl⟩
    | decode message => exact ⟨rfl, rfl⟩
    | failure other message =>
      rw [conclude, failureLevel_of_ne other]
      exact ⟨rfl, rfl⟩
    | fault reach =>
      rw [conclude, if_neg reach]
      exact ⟨rfl, rfl⟩
    | fatal reach =>
      rw [conclude, if_pos reach]
      exact ⟨rfl, rfl⟩
  · rintro ⟨rfl, rfl⟩
    cases outcome with
    | document d => exact .document d
    | failure f =>
      obtain ⟨kind, message⟩ := f
      by_cases decode : kind = .decode
      · rw [decode]
        exact .decode message
      · rw [conclude, failureLevel_of_ne decode]
        exact .failure decode message
    | raised f =>
      by_cases reach : f.reach = .fatal
      · rw [conclude, if_pos reach]
        exact .fatal reach
      · rw [conclude, if_neg reach]
        exact .fault reach

theorem elim_log (record : Option Record) (w : World) :
    record.elim w w.log = { w with records := record.toList ++ w.records } := by
  cases record with
  | none => rfl
  | some record => rfl

/-- A detection leaves what its source has left, and the record of the conclusion. -/
theorem snd_detect (d : Detector) (given : Option Seconds) (w : World) :
    (d.detect given w).2 =
      { (d.source (given.getD d.timeout) w).2 with
        records := (conclude (d.source (given.getD d.timeout) w).1).2.toList ++
          (d.source (given.getD d.timeout) w).2.records } := by
  rw [detect]
  dsimp only
  rw [elim_log]

theorem getD_eq_iff : given.getD limit = time ↔
    given = some time ∨ (given = none ∧ time = limit) := by
  cases given with
  | none => simp [eq_comm]
  | some t => simp

/-- The function computes the detection. -/
theorem detects_iff : Detects d given w detection w' ↔ d.detect given w = (detection, w') := by
  constructor
  · rintro ⟨limit, asks, concludes⟩
    obtain ⟨rfl, rfl⟩ := concludes_iff.mp concludes
    rw [detect, getD_eq_iff.mpr limit, asks]
    dsimp only
    rw [elim_log]
  · intro h
    -- Both components of `detect` are read off, the world with its record written as a list.
    have detection_eq : (conclude (d.source (given.getD d.timeout) w).1).1 = detection :=
      congrArg Prod.fst h
    have world_eq : (conclude (d.source (given.getD d.timeout) w).1).2.elim
        (d.source (given.getD d.timeout) w).2 (d.source (given.getD d.timeout) w).2.log = w' :=
      congrArg Prod.snd h
    rw [← world_eq, elim_log]
    exact .intro (getD_eq_iff.mp rfl) rfl (concludes_iff.mpr ⟨detection_eq, rfl⟩)

/-! ## Rows of detections -/

/-- A call of a detector: what the source does meanwhile, and the time limit, if one is given. -/
structure Call where
  source : Source
  given : Option Seconds

/-- Detects once for each call, one after another, with a time limit for the calls that are given
none. -/
def detectAll (limit : Seconds) : List Call → World → List Detection × World
  | [], w => ([], w)
  | call :: rest, w =>
    let (detection, w) := detect ⟨call.source, limit⟩ call.given w
    let (detections, w) := detectAll limit rest w
    (detection :: detections, w)

/-- A row of detections, each of which begins where the one before has left the world. -/
inductive Row (limit : Seconds) : List Call → World → List Detection → World → Prop
  | nil (w : World) : Row limit [] w [] w
  | cons {call : Call} {rest : List Call} {w between after : World} {detection : Detection}
      {detections : List Detection}
      (first : Detects ⟨call.source, limit⟩ call.given w detection between)
      (others : Row limit rest between detections after) :
      Row limit (call :: rest) w (detection :: detections) after

theorem row_iff {calls : List Call} :
    Row limit calls w detections w' ↔ detectAll limit calls w = (detections, w') := by
  constructor
  · intro h
    induction h with
    | nil w => rfl
    | cons first others ih =>
      rw [detectAll, detects_iff.mp first]
      dsimp only
      rw [ih]
  · intro h
    -- Each detection begins in the world that the one before has left.
    induction calls generalizing w detections with
    | nil =>
      obtain ⟨rfl, rfl⟩ := Prod.mk.inj h
      exact .nil w
    | cons call rest ih =>
      obtain ⟨rfl, rfl⟩ := Prod.mk.inj h
      exact .cons (detects_iff.mpr rfl) (ih rfl)

end Detector

/-! ## How often a source is asked -/

/-- A source that does the same and notes the time limits that it is asked with. -/
def Source.noting (s : Source) : Source := fun time w =>
  ((s time w).1, { (s time w).2 with asked := time :: w.asked })

namespace Detector

variable {limit : Seconds}

/-- The call with a source that notes what it is asked with. -/
def Call.noting (call : Call) : Call := { call with source := call.source.noting }

/-- A detection asks its source once. -/
theorem asked_detect (s : Source) (limit : Seconds) (given : Option Seconds) (w : World) :
    (detect ⟨s.noting, limit⟩ given w).2.asked = given.getD limit :: w.asked := by
  rw [snd_detect]
  rfl

/-- A row asks the sources once for each call, in order. -/
theorem asked_detectAll (limit : Seconds) (calls : List Call) (w : World) :
    (detectAll limit (calls.map Call.noting) w).2.asked =
      (calls.map fun call => call.given.getD limit).reverse ++ w.asked := by
  -- The latest call stands first, so the calls behind the first one go before it.
  induction calls generalizing w with
  | nil => rfl
  | cons call rest ih =>
    rw [List.map_cons, detectAll]
    dsimp only
    rw [ih, Call.noting, asked_detect, List.map_cons, List.reverse_cons, List.append_assoc]
    rfl

/-- Whatever the sources do, detections one after another are a row of single ones, and each asks
its source once, with the given time limit or else that of the detector. What they log of a fault
that is raised with a text or with nothing follows from its name. -/
theorem detectAll_contract (limit : Seconds) (calls : List Call) (w : World) :
    (∀ detections w', detectAll limit calls w = (detections, w') ↔
        Row limit calls w detections w') ∧
      (detectAll limit (calls.map Call.noting) w).2.asked =
        (calls.map fun call => call.given.getD limit).reverse ++ w.asked ∧
      ∀ name reach argument text, Fault.Shows name argument text ↔
        (Fault.withText name reach argument).shown = text :=
  ⟨fun _ _ => row_iff.symm, asked_detectAll limit calls w, fun _ _ _ _ => Fault.shows_iff⟩

-- A limit that is given counts, even one of zero seconds.
example :
    (detectAll (.whole 5)
      [⟨.standIn (.failure ⟨.transport, []⟩), none⟩, ⟨.standIn (.document {}), some (.whole 0)⟩]
      { suppressed := false, replies := [] }).2.asked = [.whole 0, .whole 5] := rfl

end Detector

end InstanceIdentity
