import MachineActuator.Environment

/-! # Events over the API

An event is created under a name made of the object it is about and the time.  The same event about
the same object again becomes a series: the event of the first time is patched with a count and the
time it was last observed. -/

namespace MachineActuator.Api

/-- The controller that events are reported by. -/
def reporter : String := "kubevirt-machine-controller"

def severityText : Severity → String
  | .normal => "Normal"
  | .warning => "Warning"

/-- What makes two events the same. -/
structure EventKey where
  severity : Severity
  action : String
  reason : String
  name : Option String
  ns : Option String
  uid : Option String
deriving DecidableEq

/-- How often an event was observed, and when last. -/
structure EventSeries where
  count : Nat
  lastObserved : Instant
deriving DecidableEq

/-- An event as the API server has it. -/
structure RecordedEvent where
  key : EventKey
  note : String
  time : Instant
  series : Option EventSeries := none
deriving DecidableEq

/-- Nanoseconds of an instant in base sixteen. -/
def instantId (t : Instant) : String :=
  String.ofList (Nat.toDigits 16 (t.seconds * 1000000000 + t.nanos).toNat)

namespace RecordedEvent

def name (e : RecordedEvent) : String := e.key.name.getD reporter ++ "." ++ instantId e.time

/-- The object that the event is about. -/
def regarding (k : EventKey) : Json :=
  .ofFields
    [("apiVersion", some (.str "machine.openshift.io/v1beta1")),
     ("kind", some (.str "Machine")),
     ("name", k.name.map .str),
     ("namespace", k.ns.map .str),
     ("uid", k.uid.map .str)]

def seriesJson (s : EventSeries) : Json :=
  .ofFields
    [("count", some (.num (.int s.count))),
     ("lastObservedTime", some (.str (Rfc3339.writeMicros s.lastObserved)))]

def toJson (e : RecordedEvent) : Json :=
  .ofFields
    [("action", some (.str e.key.action)),
     ("apiVersion", some (.str "events.k8s.io/v1")),
     ("eventTime", some (.str (Rfc3339.writeMicros e.time))),
     ("kind", some (.str "Event")),
     ("metadata", some (ObjectMeta.toJson { name := some e.name, ns := e.key.ns })),
     ("note", some (.str e.note)),
     ("reason", some (.str e.key.reason)),
     ("regarding", some (regarding e.key)),
     ("reportingController", some (.str reporter)),
     ("reportingInstance", some (.str reporter)),
     ("series", e.series.map seriesJson),
     ("type", some (.str (severityText e.key.severity)))]

/-- The event observed once more. -/
def again (e : RecordedEvent) (now : Instant) : RecordedEvent :=
  { e with series := some ⟨(e.series.elim 1 (·.count)) + 1, now⟩ }

/-- The path of the events about objects of a namespace. -/
def path (e : RecordedEvent) : String :=
  "/apis/events.k8s.io/v1/namespaces/" ++ e.key.ns.getD "default" ++ "/events"

/-- The request that makes the event known. -/
def request (e : RecordedEvent) : Except RequestError Request :=
  if e.series.isSome then Request.merge e.path e.name e.toJson
  else Request.create e.path e.toJson

end RecordedEvent

/-! ### Reading

An event of the API server is checked but not kept. -/

/-- Reads texts that may be missing or null. -/
def texts? (fields : List (String × Json)) (keys : List String) : Option Unit := do
  let _ ← keys.mapM fun key => Json.optional fields key Json.str?

def objectReference? (v : Json) : Option Unit := do
  let fields ← v.object?
  texts? fields ["apiVersion", "fieldPath", "kind", "name", "namespace", "resourceVersion", "uid"]

/-- Reads where an event came from. -/
def eventSource? (v : Json) : Option Unit := do
  let fields ← v.object?
  texts? fields ["component", "host"]

/-- Reads a series, which needs a time. -/
def eventSeries? (v : Json) : Option Unit := do
  let fields ← v.object?
  let _ ← Json.optional fields "count" Json.int32?
  let _ ← Json.required fields "lastObservedTime" Json.time?

def event? (v : Json) : Option Unit := do
  let fields ← v.object?
  let version ← Json.orElse fields "apiVersion" Json.str? "events.k8s.io/v1"
  let kind ← Json.orElse fields "kind" Json.str? "Event"
  let _ ← Json.optional fields "metadata" ObjectMeta.ofJson?
  let _ ← Json.optional fields "deprecatedCount" Json.int32?
  let _ ← Json.optional fields "deprecatedFirstTimestamp" Json.time?
  let _ ← Json.optional fields "deprecatedLastTimestamp" Json.time?
  let _ ← Json.optional fields "deprecatedSource" eventSource?
  let _ ← Json.optional fields "eventTime" Json.time?
  let _ ← Json.optional fields "regarding" objectReference?
  let _ ← Json.optional fields "related" objectReference?
  let _ ← Json.optional fields "series" eventSeries?
  texts? fields ["action", "note", "reason", "reportingController", "reportingInstance", "type"]
  if version = "events.k8s.io/v1" ∧ kind = "Event" then some () else none

/-! ### Recording -/

/-- The events that were made known so far, the latest form of each. -/
abbrev Recorder := List RecordedEvent

namespace Recorder

def key (event : MachineEvent) : EventKey where
  severity := event.severity
  action := event.action.reason
  reason := event.reason
  name := event.machine.metadata.name
  ns := event.machine.metadata.ns
  uid := event.machine.metadata.uid

/-- The event to make known: a new one, or a known one observed once more. -/
def next (r : Recorder) (event : MachineEvent) (now : Instant) : RecordedEvent :=
  match r.find? (·.key = key event) with
  | some known => known.again now
  | none => { key := key event, note := event.note, time := now }

/-- The recorder once an event has been made known. -/
def keep (r : Recorder) (e : RecordedEvent) : Recorder := e :: r.filter (·.key ≠ e.key)

/-- The outcome of making an event known. -/
def send (e : RecordedEvent) (env : Environment) : Except ApiError Unit × Environment :=
  match e.request with
  | .error failure => (.error (.notSent failure), env)
  | .ok request => ((env.ask request).1.read event?, (env.ask request).2)

/-- Makes an event known; a failure is only logged. -/
def publish (r : Recorder) (event : MachineEvent) (env : Environment) : Recorder × Environment :=
  let e := r.next event env.now
  match send e env with
  | (.ok (), env) => (r.keep e, env)
  | (.error failure, env) =>
    (r, env.logLine ⟨.warn, "Failed to publish " ++ event.reason ++
      " event for machine " ++ Quoted.optional event.machine.metadata.name ++ ": " ++
      failure.message⟩)

end Recorder

end MachineActuator.Api
