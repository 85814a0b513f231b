import MachineActuator.Control.Reconcile
import MachineActuator.Environment

/-! # The controller over time

The controller lists the nodes and machines once.  An object is reconciled five seconds after it
was listed, and five seconds after the delay of each follow-up has passed; an object that awaits a
change is left alone.  Time is counted in whole seconds from the start. -/

namespace MachineActuator.Schedule

/-- Seconds between an object becoming due and its reconciliation. -/
def debounce : Nat := 5

/-- Whole seconds from one reconciliation to the next, if one follows. -/
def pause? : FollowUp → Option Nat
  | .requeue delay => some (delay.normalize.seconds + debounce)
  | .awaitChange => none

variable {σ : Type}

/-- The turns that begin at `time` and lie before `limit`, with the state after each.  A turn takes
at least one unit of fuel. -/
def turnsFrom (turn : σ → FollowUp × σ) (limit : Nat) :
    (fuel time : Nat) → σ → List (Nat × σ)
  | 0, _, _ => []
  | fuel + 1, time, s =>
    if limit ≤ time then []
    else
      let (followUp, s) := turn s
      match pause? followUp with
      | none => [(time, s)]
      | some pause => (time, s) :: turnsFrom turn limit fuel (time + pause) s

/-- The turns of an object before `limit`. -/
def turns (turn : σ → FollowUp × σ) (limit : Nat) (s : σ) : List (Nat × σ) :=
  turnsFrom turn limit limit debounce s

/-- An object that is looked after. -/
inductive Watched where
  | machine (m : Machine)
  | node (n : Node)

/-- The surroundings and the table of delays. -/
structure State where
  env : Environment
  backoff : BackoffTable

/-- Reconciles a machine and applies the error policy. -/
def machineTurn (settings : Settings) (route : Route) (m : Machine) (s : State) :
    Except ControllerError FollowUp × FollowUp × State :=
  match s.env.run route (m.reconcile settings) with
  | (.ok followUp, env) => (.ok followUp, followUp, ⟨env, s.backoff.reset m.key⟩)
  | (.error e, env) =>
    let (followUp, line, backoff) := m.errorPolicy s.backoff e
    (.error e, followUp, ⟨env.logLine line, backoff⟩)

/-- Reconciles a node and applies the error policy. -/
def nodeTurn (infraNs : String) (route : Route) (n : Node) (env : Environment) :
    Except ControllerError FollowUp × FollowUp × Environment :=
  match env.run route (n.reconcile infraNs) with
  | (.ok followUp, env) => (.ok followUp, followUp, env)
  | (.error e, env) =>
    let (followUp, line) := n.errorPolicy e
    (.error e, followUp, env.logLine line)

/-- Reconciles an object and applies the error policy. -/
def turn (settings : Settings) (route : Route) (object : Watched) (s : State) :
    FollowUp × State :=
  match object with
  | .machine m => (machineTurn settings route m s).2
  | .node n =>
    let (_, followUp, env) := nodeTurn settings.infra.ns route n s.env
    (followUp, { s with env })

/-- The request that lists the machines of one namespace or of all. -/
def listMachines (watchNamespace : Option String) : Except RequestError Api.Request :=
  Api.Request.list (watchNamespace.elim Api.allMachinesPath Api.machinesPath)

def listRequests (watchNamespace : Option String) : List Api.Request :=
  [Api.Request.list Api.nodesPath, listMachines watchNamespace].filterMap Except.toOption

/-- Whether an object is found when the objects are listed. -/
def isListed (watchNamespace : Option String) : Watched → Bool
  | .machine _ => (listMachines watchNamespace).toBool
  | .node _ => true

/-- Runs the controller on one object. -/
def run (settings : Settings) (route : Route) (watchNamespace : Option String)
    (object : Watched) (seconds : Nat) (env : Environment) : List (Nat × State) :=
  if isListed watchNamespace object then
    turns (turn settings route object) seconds ⟨env, .fresh⟩
  else []

end MachineActuator.Schedule
