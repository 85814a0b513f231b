import MachineActuator.Machine.Settings
import MachineActuator.Resource.Provider

/-! # Scopes

A scope is one machine for the time of one operation: a copy of the machine, which the operation
changes, with its provider specification read.  A machine needs the label with the id of its
cluster and a readable provider specification to have a scope. -/

namespace MachineActuator

/-! ### Names -/

/-- Labels that mark an object of the infrastructure cluster as owned by a tenant cluster. -/
def ownershipLabels (infraId : String) : StringMap String :=
  .singleton ("tenantcluster-" ++ infraId ++ "-machine.openshift.io") "owned"

def bootVolumeName (machine : String) : String := machine ++ "-bootvolume"

def ignitionSecretName (machine : String) : String := machine ++ "-ignition"

def providerIdOf (ns name : String) : String := "kubevirt://" ++ ns ++ "/" ++ name

/-! ### Scopes -/

/-- A machine for the time of one operation. -/
structure Scope where
  machine : Machine
  providerSpec : ProviderSpec
  settings : Settings
deriving DecidableEq

namespace Scope

def name (s : Scope) : String := s.machine.metadata.name.getD ""

def ns (s : Scope) : String := s.machine.metadata.ns.getD ""

/-- The namespace of the virtual machine and its secret. -/
def infraNs (s : Scope) : String := s.settings.infra.ns

/-- The id of the cluster that a machine is labelled with, empty when there is none. -/
def clusterId (machine : Machine) : String :=
  (machine.metadata.labels >>= (·.get? clusterIdLabel)).getD ""

def ofMachine (settings : Settings) (machine : Machine) : Except ControllerError Scope :=
  let name := machine.metadata.name.getD ""
  if clusterId machine = "" then
    .error (.invalidConfig (name ++ ": missing \"" ++ clusterIdLabel ++ "\" label"))
  else
    match ProviderSpec.ofDocument? machine.spec.providerSpec with
    | none =>
      .error (.invalidConfig (name ++ ": failed to get machine config: the document is malformed"))
    | some providerSpec => .ok { machine, providerSpec, settings }

/-- Whether a missing virtual machine is to be expected at a time: the machine has no provider id
yet, has never been updated, or was updated longer than `interval` ago. -/
def updateAllowedAt (s : Scope) (interval : Duration) (now : Instant) : Bool :=
  if s.machine.spec.providerId.getD "" = "" then true
  else
    match s.machine.status >>= (·.lastUpdated) with
    | none => true
    | some updated => (interval.inNanos : Int) < now.since updated

end Scope

end MachineActuator
