import MachineActuator.Client.Error
import MachineActuator.Time.Instant

/-! # Errors of the controller

An error of a machine or node operation carries the chain of what went wrong: the step of an
operation that failed, the finalizer handling around it, and the error at the root.  The chain
passes on whether the object is to be looked at again after a fixed time, and whether the root is a
mistake in the configuration. -/

namespace MachineActuator

/-- An operation on a machine. -/
inductive MachineAction where
  | create
  | update
  | delete
  | check
deriving DecidableEq

namespace MachineAction

/-- The reason of the event when the operation succeeds. -/
def reason : MachineAction → String
  | create => "Create"
  | update => "Update"
  | delete => "Delete"
  | check => "Exists"

/-- The reason of the event when the operation fails. -/
def failedReason (a : MachineAction) : String := "Failed" ++ a.reason

/-- The operation in words. -/
def describe : MachineAction → String
  | create => "create machine"
  | update => "update machine"
  | delete => "delete machine"
  | check => "check machine exists"

end MachineAction

/-- Why an object could not be brought in line. -/
inductive ControllerError where
  | kubernetes (error : ApiError)
  | client (error : ClientError)
  | invalidConfig (text : String)
  /-- A step of an operation on a machine failed. -/
  | step (machine : String) (action : MachineAction) (what : String) (source : ControllerError)
  /-- A step of a node update failed. -/
  | nodeUpdate (node what : String) (source : ClientError)
  /-- The machine is to be looked at again after a fixed time. -/
  | requeueAfter (machine : String) (delay : Duration)
  | watch (text : String)
  /-- Bringing an object under the finalizer in line failed. -/
  | applyFailed (source : ControllerError)
  /-- Cleaning up after an object under the finalizer failed. -/
  | cleanupFailed (source : ControllerError)
  | finalizerNotAdded (error : ApiError)
  | finalizerNotRemoved (error : ApiError)
  | unnamedObject
  | invalidFinalizer
deriving DecidableEq

namespace ControllerError

def message : ControllerError → String
  | kubernetes error => "Kubernetes error: " ++ error.message
  | client error => "Cluster client error: " ++ error.message
  | invalidConfig text => "Invalid configuration: " ++ text
  | step machine action what source =>
    machine ++ ": Error during " ++ action.reason ++ ": " ++ what ++ ", with error: " ++
      source.message
  | nodeUpdate node what source => node ++ ": " ++ what ++ ", with error: " ++ source.message
  | requeueAfter machine delay =>
    machine ++ ": requeue after " ++ Nat.repr delay.seconds ++ "s"
  | watch text => "Watch error: " ++ text
  | applyFailed source => "Finalizer error: failed to apply object: " ++ source.message
  | cleanupFailed source => "Finalizer error: failed to clean up object: " ++ source.message
  | finalizerNotAdded error => "Finalizer error: failed to add finalizer: " ++ error.message
  | finalizerNotRemoved error => "Finalizer error: failed to remove finalizer: " ++ error.message
  | unnamedObject => "Finalizer error: object has no name"
  | invalidFinalizer => "Finalizer error: invalid finalizer"

/-- The fixed time after which the object is to be looked at again, if the chain carries one. -/
def requeueDelay? : ControllerError → Option Duration
  | requeueAfter _ delay => some delay
  | step _ _ _ source => source.requeueDelay?
  | applyFailed source => source.requeueDelay?
  | cleanupFailed source => source.requeueDelay?
  | _ => none

/-- Whether the root of the chain is a mistake in the configuration. -/
def isInvalidConfig : ControllerError → Bool
  | invalidConfig _ => true
  | client (.invalidConfig _) => true
  | step _ _ _ source => source.isInvalidConfig
  | applyFailed source => source.isInvalidConfig
  | cleanupFailed source => source.isInvalidConfig
  | _ => false

end ControllerError

end MachineActuator
