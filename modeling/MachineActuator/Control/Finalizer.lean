import MachineActuator.Program

/-! # Finalizers

An object with a finalizer cannot disappear before the finalizer is taken away.  A machine gets its
finalizer before anything is done for it, and keeps it until the clean-up has succeeded. -/

namespace MachineActuator

/-- What follows the reconciliation of an object. -/
inductive FollowUp where
  /-- Another one after a delay. -/
  | requeue (delay : Duration)
  /-- None before the object changes. -/
  | awaitChange
deriving DecidableEq

def machineFinalizer : String := "machine.openshift.io/kubevirt-actuator"

namespace ObjectMeta

def isDeleting (m : ObjectMeta) : Bool := m.deletionTimestamp.isSome

def finalizerList (m : ObjectMeta) : List String := m.finalizers.getD []

end ObjectMeta

namespace Finalizer

/-- Changes the finalizers of a machine, which needs a name. -/
def change (m : ObjectMeta) (change : FinalizerChange) (failed : ApiError → ControllerError) :
    Program (Except ControllerError Unit) := do
  match m.name with
  | none => pure (.error .unnamedObject)
  | some name =>
    match ← Program.effect (.changeFinalizers (m.ns.getD "") name change) with
    | .ok () => pure (.ok ())
    | .error e => pure (.error (failed e))

/-- Cleans up after an object, and takes the finalizer at this index away if that succeeds. -/
def release (finalizer : String) (m : ObjectMeta) (index : Nat)
    (cleanup : Program (Except ControllerError FollowUp)) :
    Program (Except ControllerError FollowUp) := do
  if m.name.isNone then pure (.error .unnamedObject)
  else
    match ← cleanup with
    | .error e => pure (.error (.cleanupFailed e))
    | .ok followUp =>
      match ← change m (.removeAt index finalizer) .finalizerNotRemoved with
      | .ok () => pure (.ok followUp)
      | .error e => pure (.error e)

/-- Gives an object its finalizer. -/
def acquire (finalizer : String) (m : ObjectMeta) : Program (Except ControllerError FollowUp) := do
  let addition :=
    if m.finalizerList.isEmpty then .addFirst finalizer else .addTo m.finalizerList finalizer
  match ← change m addition .finalizerNotAdded with
  | .ok () => pure (.ok .awaitChange)
  | .error e => pure (.error e)

/-- Reconciles an object under a finalizer. -/
def guard (finalizer : String) (m : ObjectMeta)
    (apply cleanup : Program (Except ControllerError FollowUp)) :
    Program (Except ControllerError FollowUp) := do
  match m.finalizerList.findIdx? (· = finalizer), m.isDeleting with
  | some _, false =>
    match ← apply with
    | .ok followUp => pure (.ok followUp)
    | .error e => pure (.error (.applyFailed e))
  | some index, true => release finalizer m index cleanup
  | none, false => acquire finalizer m
  | none, true => pure (.ok .awaitChange)

end Finalizer

end MachineActuator
