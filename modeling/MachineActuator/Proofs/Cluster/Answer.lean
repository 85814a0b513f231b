import Mathlib
import MachineActuator.Cluster.Infra

/-! # What an infrastructure cluster answers

A call comes out in one of five ways (`InfraCluster.Outcome`), and leaves the cluster as it is or
stores, replaces or removes one object (`InfraCluster.Changes`); `InfraCluster.Turn` tells which
answer goes with which change.  What is known of the answers, and what all calls preserve, is read
off these cases. -/

namespace MachineActuator

/-! ### Objects in stores -/

namespace Store

variable {α : Type} {s : Store α} {ns name n m : String} {a b : α}

/-- What is there when an object was put is this object, or was there before. -/
theorem cases_of_put (h : s.put ns name a n m = some b) :
    (n = ns ∧ m = name ∧ a = b) ∨ (¬ (n = ns ∧ m = name) ∧ s n m = some b) := by
  by_cases hkey : n = ns ∧ m = name
  · obtain ⟨rfl, rfl⟩ := hkey
    rw [put_same] at h
    exact .inl ⟨rfl, rfl, Option.some.inj h⟩
  · rw [put_of_ne _ _ hkey] at h
    exact .inr ⟨hkey, h⟩

/-- What is there when an object was removed was there before, in another place. -/
theorem of_remove (h : s.remove ns name n m = some b) :
    ¬ (n = ns ∧ m = name) ∧ s n m = some b := by
  by_cases hkey : n = ns ∧ m = name
  · obtain ⟨rfl, rfl⟩ := hkey
    rw [remove_same] at h
    cases h
  · rw [remove_of_ne _ hkey] at h
    exact ⟨hkey, h⟩

end Store

/-! ### Answers -/

namespace InfraCall

def IsLookUp : InfraCall → Prop
  | getVirtualMachine .. | getInstance .. => True
  | _ => False

end InfraCall

namespace InfraCluster

/-- What a call that succeeds comes to. -/
def Gives (c : InfraCluster) : (call : InfraCall) → call.Result → Prop
  | .createVirtualMachine ns vm, created => created = c.admitted ns vm
  | .getVirtualMachine ns name, vm => c.virtualMachines ns name = some vm
  | .updateVirtualMachine ns vm, updated =>
    ∃ stored, c.virtualMachines ns (vm.metadata.name.getD "") = some stored ∧
      (updated = replaced vm stored ∨ updated = stored)
  | .deleteVirtualMachine .., _ => True
  | .getInstance ns name, vmi => c.instances ns name = some vmi
  | .createSecret _ secret, created => created = secret

/-- The ways a call may come out. -/
inductive Outcome (c : InfraCluster) (call : InfraCall) : Except ClientError call.Result → Prop
  | ok {value : call.Result} (h : c.Gives call value) : Outcome c call (.ok value)
  | absent (path : String) : Outcome c call (.error (.notFound path))
  | duplicate (path : String) : Outcome c call (.error (.alreadyExists path))
  | stale {text : String} (hworks : c.failures call.operation = none) (h : ¬ call.IsLookUp) :
      Outcome c call (.error (.api text))
  | failing {text : String} (hfails : c.failures call.operation = some text) :
      Outcome c call (.error (.api text))

/-! ### Changes -/

/-- How a call may change the cluster. -/
inductive Changes (c : InfraCluster) : InfraCall → InfraCluster → Prop
  | unchanged (call : InfraCall) : Changes c call c
  | created {ns : String} {vm : VirtualMachine}
      (hnew : c.virtualMachines ns (vm.metadata.name.getD "") = none) :
      Changes c (.createVirtualMachine ns vm)
        { c with
          virtualMachines :=
            c.virtualMachines.put ns (vm.metadata.name.getD "") (c.admitted ns vm)
          instances :=
            if c.spawnsInstances then
              c.instances.put ns (vm.metadata.name.getD "")
                (spawned ns (vm.metadata.name.getD "") (c.admitted ns vm))
            else c.instances
          nextUid := c.nextUid + 1 }
  | updated {ns : String} {vm stored : VirtualMachine}
      (hstored : c.virtualMachines ns (vm.metadata.name.getD "") = some stored)
      (hversion : vm.metadata.resourceVersion = stored.metadata.resourceVersion)
      (hdiffers : differs vm stored = true) :
      Changes c (.updateVirtualMachine ns vm)
        { c with
          virtualMachines :=
            c.virtualMachines.put ns (vm.metadata.name.getD "") (replaced vm stored) }
  | deleted {ns name : String} {grace : Nat} {stored : VirtualMachine}
      (hstored : c.virtualMachines ns name = some stored) :
      Changes c (.deleteVirtualMachine ns name grace)
        { c with
          virtualMachines := c.virtualMachines.remove ns name
          instances := c.instances.remove ns name
          deletions := c.deletions ++ [⟨ns, name, grace⟩] }
  | provided {ns : String} {secret : Secret}
      (hnew : c.secrets ns (secret.metadata.name.getD "") = none) :
      Changes c (.createSecret ns secret)
        { c with secrets := c.secrets.put ns (secret.metadata.name.getD "") secret }

/-- How a call comes out: what it answers, and the cluster that it leaves. -/
inductive Turn (c : InfraCluster) :
    (call : InfraCall) → Except ClientError call.Result → InfraCluster → Prop
  | refused {call : InfraCall} {error : ClientError} (houtcome : c.Outcome call (.error error)) :
      Turn c call (.error error) c
  | created {ns : String} {vm : VirtualMachine}
      (hnew : c.virtualMachines ns (vm.metadata.name.getD "") = none) :
      Turn c (.createVirtualMachine ns vm) (.ok (c.admitted ns vm))
        { c with
          virtualMachines :=
            c.virtualMachines.put ns (vm.metadata.name.getD "") (c.admitted ns vm)
          instances :=
            if c.spawnsInstances then
              c.instances.put ns (vm.metadata.name.getD "")
                (spawned ns (vm.metadata.name.getD "") (c.admitted ns vm))
            else c.instances
          nextUid := c.nextUid + 1 }
  | found {ns name : String} {vm : VirtualMachine}
      (hstored : c.virtualMachines ns name = some vm) :
      Turn c (.getVirtualMachine ns name) (.ok vm) c
  | updated {ns : String} {vm stored : VirtualMachine}
      (hstored : c.virtualMachines ns (vm.metadata.name.getD "") = some stored)
      (hversion : vm.metadata.resourceVersion = stored.metadata.resourceVersion)
      (hdiffers : differs vm stored = true) :
      Turn c (.updateVirtualMachine ns vm) (.ok (replaced vm stored))
        { c with
          virtualMachines :=
            c.virtualMachines.put ns (vm.metadata.name.getD "") (replaced vm stored) }
  | unaltered {ns : String} {vm stored : VirtualMachine}
      (hstored : c.virtualMachines ns (vm.metadata.name.getD "") = some stored)
      (hversion : vm.metadata.resourceVersion = stored.metadata.resourceVersion)
      (hdiffers : differs vm stored = false) :
      Turn c (.updateVirtualMachine ns vm) (.ok stored) c
  | deleted {ns name : String} {grace : Nat} {stored : VirtualMachine}
      (hstored : c.virtualMachines ns name = some stored) :
      Turn c (.deleteVirtualMachine ns name grace) (.ok ())
        { c with
          virtualMachines := c.virtualMachines.remove ns name
          instances := c.instances.remove ns name
          deletions := c.deletions ++ [⟨ns, name, grace⟩] }
  | shown {ns name : String} {vmi : VirtualMachineInstance}
      (hstored : c.instances ns name = some vmi) : Turn c (.getInstance ns name) (.ok vmi) c
  | provided {ns : String} {secret : Secret}
      (hnew : c.secrets ns (secret.metadata.name.getD "") = none) :
      Turn c (.createSecret ns secret) (.ok secret)
        { c with secrets := c.secrets.put ns (secret.metadata.name.getD "") secret }

theorem turn_answer (c : InfraCluster) (call : InfraCall) :
    c.Turn call (c.answer call).1 (c.answer call).2 := by
  unfold answer
  cases hfails : c.failures call.operation with
  | some text => exact .refused (.failing hfails)
  | none =>
    cases call with
    | createVirtualMachine ns vm =>
      simp only [perform, createVirtualMachine]
      cases hnew : c.virtualMachines ns (vm.metadata.name.getD "") with
      | some stored => exact .refused (.duplicate _)
      | none => exact .created hnew
    | getVirtualMachine ns name =>
      simp only [perform]
      cases hstored : c.virtualMachines ns name with
      | none => exact .refused (.absent _)
      | some vm => exact .found hstored
    | updateVirtualMachine ns vm =>
      simp only [perform, updateVirtualMachine]
      cases hstored : c.virtualMachines ns (vm.metadata.name.getD "") with
      | none => exact .refused (.absent _)
      | some stored =>
        dsimp only
        split_ifs with hversion hdiffers
        · exact .refused (.stale hfails id)
        · exact .updated hstored (not_not.mp hversion) hdiffers
        · exact .unaltered hstored (not_not.mp hversion) (Bool.eq_false_iff.mpr hdiffers)
    | deleteVirtualMachine ns name grace =>
      simp only [perform, deleteVirtualMachine]
      cases hstored : c.virtualMachines ns name with
      | none => exact .refused (.absent _)
      | some stored => exact .deleted hstored
    | getInstance ns name =>
      simp only [perform]
      cases hstored : c.instances ns name with
      | none => exact .refused (.absent _)
      | some vmi => exact .shown hstored
    | createSecret ns secret =>
      simp only [perform, createSecret]
      cases hnew : c.secrets ns (secret.metadata.name.getD "") with
      | some kept => exact .refused (.duplicate _)
      | none => exact .provided hnew

theorem outcome_answer (c : InfraCluster) (call : InfraCall) :
    c.Outcome call (c.answer call).1 := by
  have hturn := c.turn_answer call
  generalize (c.answer call).1 = answer, (c.answer call).2 = after at hturn ⊢
  cases hturn with
  | refused houtcome => exact houtcome
  | created => exact .ok rfl
  | found hstored => exact .ok hstored
  | updated hstored => exact .ok ⟨_, hstored, .inl rfl⟩
  | unaltered hstored => exact .ok ⟨_, hstored, .inr rfl⟩
  | deleted => exact .ok trivial
  | shown hstored => exact .ok hstored
  | provided => exact .ok rfl

theorem gives_of_answer {c : InfraCluster} {call : InfraCall} {value : call.Result}
    (h : (c.answer call).1 = .ok value) : c.Gives call value := by
  have houtcome := c.outcome_answer call
  rw [h] at houtcome
  cases houtcome with
  | ok hgives => exact hgives

theorem changes_answer (c : InfraCluster) (call : InfraCall) :
    c.Changes call (c.answer call).2 := by
  have hturn := c.turn_answer call
  generalize (c.answer call).1 = answer, (c.answer call).2 = after at hturn ⊢
  cases hturn with
  | created hnew => exact .created hnew
  | updated hstored hversion hdiffers => exact .updated hstored hversion hdiffers
  | deleted hstored => exact .deleted hstored
  | provided hnew => exact .provided hnew
  | refused => exact .unchanged _
  | found => exact .unchanged _
  | unaltered => exact .unchanged _
  | shown => exact .unchanged _

theorem eq_of_answer_error {c : InfraCluster} {call : InfraCall} {error : ClientError}
    (h : (c.answer call).1 = .error error) : (c.answer call).2 = c := by
  have hturn := c.turn_answer call
  rw [h] at hturn
  generalize (c.answer call).2 = after at hturn ⊢
  cases hturn with
  | refused => rfl

/-! ### Creating and replacing -/

variable {c : InfraCluster} {ns name : String} {vm : VirtualMachine}

/-- Creating a virtual machine that succeeds stores it where there was none. -/
theorem answer_createVirtualMachine_ok {created : VirtualMachine}
    (hname : vm.metadata.name = some name)
    (h : (c.answer (.createVirtualMachine ns vm)).1 = .ok created) :
    c.virtualMachines ns name = none ∧ created = c.admitted ns vm ∧
      (c.answer (.createVirtualMachine ns vm)).2.virtualMachines ns name = some created ∧
      (c.answer (.createVirtualMachine ns vm)).2.secrets = c.secrets := by
  have hplace : vm.metadata.name.getD "" = name := congrArg (Option.getD · "") hname
  have hturn := c.turn_answer (.createVirtualMachine ns vm)
  rw [h] at hturn
  generalize (c.answer (.createVirtualMachine ns vm)).2 = after at hturn ⊢
  cases hturn with
  | created hnew =>
    rw [hplace] at hnew ⊢
    exact ⟨hnew, rfl, Store.put_same _ _ _ _, rfl⟩

/-- A replacement that fails changes nothing.  One that succeeds has the version of the stored
machine, and there is nothing to replace if nothing differs. -/
theorem answer_updateVirtualMachine_cases (c : InfraCluster) (ns : String) (vm : VirtualMachine) :
    (∃ e, c.answer (.updateVirtualMachine ns vm) = (.error e, c)) ∨
      ∃ stored updated, c.virtualMachines ns (vm.metadata.name.getD "") = some stored ∧
        vm.metadata.resourceVersion = stored.metadata.resourceVersion ∧
        (c.answer (.updateVirtualMachine ns vm)).1 = .ok updated ∧
        (c.answer (.updateVirtualMachine ns vm)).2.virtualMachines ns (vm.metadata.name.getD "") =
          some updated ∧
        (differs vm stored = false ∧ updated = stored ∨
          differs vm stored = true ∧ updated = replaced vm stored) := by
  have hturn := c.turn_answer (.updateVirtualMachine ns vm)
  generalize c.answer (.updateVirtualMachine ns vm) = result at hturn ⊢
  obtain ⟨answer, after⟩ := result
  cases hturn with
  | refused => exact .inl ⟨_, rfl⟩
  | updated hstored hversion hdiffers =>
    exact .inr ⟨_, _, hstored, hversion, rfl, Store.put_same _ _ _ _, .inr ⟨hdiffers, rfl⟩⟩
  | unaltered hstored hversion hdiffers =>
    exact .inr ⟨_, _, hstored, hversion, rfl, hstored, .inl ⟨hdiffers, rfl⟩⟩

/-! ### Looking up -/

theorem answer_getVirtualMachine_absent (hup : c.failures .getVirtualMachine = none)
    (hnone : c.virtualMachines ns name = none) :
    c.answer (.getVirtualMachine ns name) =
      (.error (.notFound (objectPath "VirtualMachine" ns name)), c) := by
  unfold answer
  rw [show InfraCall.operation (.getVirtualMachine ns name) = .getVirtualMachine from rfl, hup]
  simp only [perform, hnone, orNotFound]

/-- A look-up that finds no virtual machine worked, and there is none. -/
theorem missing_of_isNotFound {e : ClientError}
    (h : (c.answer (.getVirtualMachine ns name)).1 = .error e) (he : e.isNotFound = true) :
    c.failures .getVirtualMachine = none ∧ c.virtualMachines ns name = none := by
  unfold answer at h
  cases hfails : c.failures (InfraCall.getVirtualMachine ns name).operation with
  | some text =>
    rw [hfails] at h
    obtain rfl := Except.error.inj h
    simp [ClientError.isNotFound] at he
  | none =>
    refine ⟨hfails, ?_⟩
    rw [hfails] at h
    cases hstored : c.virtualMachines ns name with
    | none => rfl
    | some vm => simp [perform, hstored, orNotFound] at h

end InfraCluster

end MachineActuator
