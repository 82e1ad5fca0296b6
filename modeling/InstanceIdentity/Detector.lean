import InstanceIdentity.Client

/-!
# The resource detector

A detector asks a source for the identity document, once, and turns the document
into the attributes of a resource. Everything else becomes the empty resource and
one log record, except a fatal fault, which leaves the detector.

## Main definitions

* `Source` — where documents come from: a client, or a stand-in for one
* `Resource`, `Resource.ofDocument` — resources and their attributes
* `Detector`, `Detector.clientFor`, `Detector.detect` — detection
-/

namespace InstanceIdentity

/-- Where documents come from. -/
abbrev Source := Seconds → World → Outcome × World

namespace Source

/-- A source that always comes to the same, and notes the time limit it was asked with. -/
def standIn (outcome : Outcome) : Source := fun timeout w => (outcome, w.ask timeout)

end Source

/-- What is known about the running program's surroundings. -/
structure Resource where
  attributes : List (String × Text)
  schemaUrl : String := ""
  deriving DecidableEq, Repr

namespace Resource

/-- The resource about which nothing is known. -/
def empty : Resource := ⟨[], ""⟩

/-- The resource of a document. -/
def ofDocument (d : Document) : Resource where
  attributes :=
    [("cloud.provider", Text.ofString "aws"),
     ("cloud.platform", Text.ofString "aws_ec2"),
     ("cloud.account.id", d.accountId),
     ("cloud.region", d.region),
     ("cloud.availability_zone", d.availabilityZone),
     ("host.id", d.instanceId),
     ("host.type", d.instanceType),
     ("host.image.id", d.imageId)]

end Resource

/-- What a detection comes to. -/
inductive Detection
  | resource (r : Resource)
  | raised (f : Fault)
  deriving DecidableEq, Repr

/-- A detector: a source, and the time limit for detections that are given none. -/
structure Detector where
  source : Source
  timeout : Seconds

namespace Detector

/-- The time limit of a detector that is given none. -/
def standardTimeout : Seconds := .whole 5

/-- The client that a detector asks: the one that it is given, or else the one for the standard
address. -/
def clientFor (given : Option Client) : Client := given.getD .standard

/-- The log record about a detection without a document. -/
def complaint (level : Level) (reason : Text) : Record :=
  ⟨level, .detector, Text.ofString "AwsEc2ResourceDetector failed: " ++ reason⟩

/-- The level at which a failure is logged: that a service cannot be reached is nothing unusual,
that it sends something else than a document is. -/
def failureLevel : Failure.Kind → Level
  | .decode => .warning
  | .transport => .debug
  | .general => .debug

/-- What an outcome of the source comes to, with the log record it leaves. -/
def conclude : Outcome → Detection × Option Record
  | .document d => (.resource (.ofDocument d), none)
  | .failure f => (.resource .empty, some (complaint (failureLevel f.kind) f.message))
  | .raised f =>
    if f.reach = .fatal then (.raised f, none)
    else (.resource .empty, some (complaint .warning f.shown))

/-- Detects the resource. -/
def detect (d : Detector) (timeout : Option Seconds) (w : World) : Detection × World :=
  let (outcome, w) := d.source (timeout.getD d.timeout) w
  let (detection, record) := conclude outcome
  (detection, record.elim w w.log)

end Detector

end InstanceIdentity
