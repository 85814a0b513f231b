import Mathlib
import MachineActuator.Proofs.Machine.Update
import MachineActuator.Proofs.OwnSecret

/-! # Where virtual machines are filed

A virtual machine is stored under its own namespace and name, and no call can change that
(`InfraCluster.Filed.answer`); neither can what others do to the cluster.  So its provider id is
that of the place where it is filed, although it is built from what the virtual machine says of
itself (`InfraCluster.Filed.providerIdOf_eq`). -/

namespace MachineActuator

namespace InfraCluster

variable {c : InfraCluster} {ns name : String} {vm : VirtualMachine}

/-- Every virtual machine is filed under its own namespace and name. -/
def Filed (c : InfraCluster) : Prop :=
  ∀ ns name vm, c.virtualMachines ns name = some vm →
    vm.metadata.ns.getD "" = ns ∧ vm.metadata.name.getD "" = name

theorem filed_empty : ({} : InfraCluster).Filed := fun _ _ _ h => by simp [Store.empty] at h

theorem Filed.put (h : c.Filed) {vm' : VirtualMachine} (hns : vm'.metadata.ns.getD "" = ns)
    (hname : vm'.metadata.name.getD "" = name) :
    ({ c with virtualMachines := c.virtualMachines.put ns name vm' } : InfraCluster).Filed := by
  intro n m vm hvm
  obtain ⟨rfl, rfl, rfl⟩ | ⟨-, hold⟩ := Store.cases_of_put hvm
  · exact ⟨hns, hname⟩
  · exact h n m vm hold

theorem Filed.addVirtualMachine (h : c.Filed) (vm : VirtualMachine) :
    (c.addVirtualMachine vm).Filed := h.put rfl rfl

theorem Filed.addInstance (h : c.Filed) (vmi : VirtualMachineInstance) :
    (c.addInstance vmi).Filed := h

theorem Filed.setStatus (h : c.Filed) (ns name : String) (status : VirtualMachineStatus) :
    (c.setStatus ns name status).Filed := by
  unfold InfraCluster.setStatus
  split
  · next vm hvm => exact h.put (h _ _ _ hvm).1 (h _ _ _ hvm).2
  · exact h

theorem Filed.answer (h : c.Filed) (call : InfraCall) : (c.answer call).2.Filed := by
  intro ns name vm hvm
  obtain hold | ⟨asked, -, hkey, hname, hns, -⟩ | ⟨asked, stored, -, -, hstored, hname, hns, -⟩ :=
    virtualMachines_answer_cases call hvm
  · exact h ns name vm hold
  · exact ⟨by rw [hns]; rfl, by rw [hname, hkey]⟩
  · rw [hns, hname]
    exact h ns name stored hstored

theorem Filed.place_eq (h : c.Filed) (hvm : c.virtualMachines ns name = some vm)
    (hne : name ≠ "") : vm.metadata.ns.getD ns = ns ∧ vm.metadata.displayName = name := by
  obtain ⟨hns, hname⟩ := h ns name vm hvm
  constructor
  · cases hstored : vm.metadata.ns with
    | none => rfl
    | some stored =>
      rw [hstored] at hns
      exact hns
  · cases hstored : vm.metadata.name with
    | none =>
      rw [hstored] at hname
      exact absurd hname.symm hne
    | some stored =>
      rw [hstored] at hname
      rw [ObjectMeta.displayName_of_name hstored]
      exact hname

/-- The provider id of a virtual machine, by its own name and the namespace where it was looked
for, is that of the place where it is filed. -/
theorem Filed.providerIdOf_eq (h : c.Filed) (hvm : c.virtualMachines ns name = some vm)
    (hne : name ≠ "") :
    providerIdOf (vm.metadata.ns.getD ns) vm.metadata.displayName = providerIdOf ns name := by
  obtain ⟨hns, hname⟩ := h.place_eq hvm hne
  rw [hns, hname]

end InfraCluster

theorem Step.filed_after (step : Step) (h : step.before.infra.Filed) : step.after.infra.Filed := by
  obtain ⟨call, -, hafter⟩ | hafter := step.infra_after
  · rw [hafter]
    exact h.answer call
  · rw [hafter]
    exact h

end MachineActuator
