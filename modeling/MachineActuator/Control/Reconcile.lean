import MachineActuator.Control.Backoff
import MachineActuator.Control.Finalizer
import MachineActuator.Machine.Operation
import MachineActuator.Node.Upkeep

/-! # Reconciliation

What is done when an object has changed or its time has come: a machine is created or updated while
it lives and deleted when it goes, under its finalizer; a node is kept in line with its virtual
machine.  The error policies decide when an object is looked at again after a failure. -/

namespace MachineActuator

namespace Machine

/-- The delay before a machine in line is looked at again. -/
def resyncPeriod : Duration := .ofSeconds 600

/-- The key of a machine in the table of delays. -/
def key (m : Machine) : String := m.metadata.ns.getD "" ++ "/" ++ m.metadata.displayName

/-- Brings the virtual machine of a machine in line, creating it if there is none. -/
def apply (settings : Settings) (m : Machine) : Program (Except ControllerError FollowUp) := do
  match ← Operation.exists? settings m with
  | .error e => pure (.error e)
  | .ok found =>
    match ← if found then Operation.update settings m else Operation.create settings m with
    | .error e => pure (.error e)
    | .ok () => pure (.ok (.requeue resyncPeriod))

/-- Deletes the virtual machine of a machine. -/
def cleanup (settings : Settings) (m : Machine) : Program (Except ControllerError FollowUp) := do
  match ← Operation.delete settings m with
  | .error e => pure (.error e)
  | .ok () => pure (.ok .awaitChange)

/-- Reconciles a machine under its finalizer. -/
def reconcile (settings : Settings) (m : Machine) : Program (Except ControllerError FollowUp) :=
  Finalizer.guard machineFinalizer m.metadata (apply settings m) (cleanup settings m)

/-- What follows a failed reconciliation: an error with a fixed delay counts for nothing else, any
other counts as a failure of the machine. -/
def errorPolicy (t : BackoffTable) (m : Machine) (e : ControllerError) :
    FollowUp × LogLine × BackoffTable :=
  match e.requeueDelay? with
  | some delay =>
    (.requeue delay,
      ⟨.info, m.key ++ ": requeue after " ++ Nat.repr delay.seconds ++ "s"⟩, t)
  | none =>
    let (delay, errors, t) := t.next m.key
    let retrying := "retrying in " ++ Nat.repr delay.seconds ++ "s: " ++ e.message
    let line :=
      if e.isInvalidConfig then m.key ++ ": invalid machine configuration, " ++ retrying
      else m.key ++ ": reconciliation failed (" ++ Nat.repr errors ++ " consecutive errors), " ++
        retrying
    (.requeue delay, ⟨.warn, line⟩, t)

/-- The policy where sums are checked for overflow.  The failure that does not fit its counter
panics: nothing follows it, and the table is left poisoned. -/
def errorPolicyChecked (t : BackoffTable) (m : Machine) (e : ControllerError) :
    Option (FollowUp × LogLine) × BackoffTable :=
  if e.requeueDelay?.isNone && t.panicsAt m.key then (none, t.poison)
  else
    let (followUp, line, t) := m.errorPolicy t e
    (some (followUp, line), t)

end Machine

namespace Node

/-- The delay before a node is looked at again after a failure. -/
def retryDelay : Duration := .ofSeconds 60

def reconcile (infraNs : String) (n : Node) : Program (Except ControllerError FollowUp) := do
  match ← upkeep infraNs n with
  | .error e => pure (.error e)
  | .ok (.requeueAfter delay) => pure (.ok (.requeue delay))
  | .ok _ => pure (.ok .awaitChange)

def errorPolicy (n : Node) (e : ControllerError) : FollowUp × LogLine :=
  (.requeue retryDelay,
    ⟨.warn, n.metadata.displayName ++ ": node reconciliation failed: " ++ e.message⟩)

end Node

end MachineActuator
