import Mathlib
import MachineActuator.Proofs.Cluster.Version
import MachineActuator.Proofs.Machine.Update

/-! # An update tells whether it changed anything

An update sends the derived machine with the version and the status that it has read, and judges by
the version alone whether something was changed.  The cluster takes over what clients own and
nothing else (`Lifecycle.renewed_eq_aligned`), and counts the version up if that differs from what
is stored.  A derived specification records no managed fields, so that it is compared by equality.
No version comes after itself, so the version is as before exactly if nothing differed
(`Lifecycle.version_renewed_iff`), whether it was a number, another text or absent. -/

namespace MachineActuator.Lifecycle

open InfraCluster (differs replaced)

variable {env : Environment} {s : Scope} {vm desired : VirtualMachine}
  {vmi : VirtualMachineInstance}

/-- A stored machine with what clients own taken from another one, under a version. -/
def aligned (desired vm : VirtualMachine) (version : Option String) : VirtualMachine :=
  { vm with
    spec := desired.spec
    metadata :=
      { vm.metadata with
        labels := desired.metadata.labels
        annotations := desired.metadata.annotations
        resourceVersion := version } }

/-- What clients own of the machines is not the same. -/
def Differ (desired vm : VirtualMachine) : Prop :=
  desired.spec ≠ vm.spec ∨ desired.metadata.labels ≠ vm.metadata.labels ∨
    desired.metadata.annotations ≠ vm.metadata.annotations

theorem differs_eq_true_iff (hplain : desired.spec.Plain) :
    differs desired vm = true ↔ Differ desired vm := by
  rw [← not_iff_not, Bool.not_eq_true, differs_eq_false_iff hplain]
  simp only [Differ, not_or, not_not]

/-- A machine from which nothing differs is aligned as it is. -/
theorem aligned_of_differs_eq_false (hplain : desired.spec.Plain)
    (h : differs desired vm = false) : aligned desired vm vm.metadata.resourceVersion = vm := by
  obtain ⟨hspec, hlabels, hannotations⟩ := (differs_eq_false_iff hplain).mp h
  unfold aligned
  rw [hspec, hlabels, hannotations]

theorem renewed_eq_aligned (hplain : desired.spec.Plain) (vm : VirtualMachine) :
    renewed desired vm = aligned desired vm (renewed desired vm).metadata.resourceVersion := by
  unfold renewed
  split_ifs with h
  · rfl
  · exact (aligned_of_differs_eq_false hplain (Bool.eq_false_iff.mpr h)).symm

theorem version_renewed_iff (hplain : desired.spec.Plain) :
    (renewed desired vm).metadata.resourceVersion = vm.metadata.resourceVersion ↔
      ¬ Differ desired vm := by
  rw [← differs_eq_true_iff hplain]
  unfold renewed
  split_ifs with h
  · simp only [h, not_true_eq_false, iff_false]
    exact fun hsame => InfraCluster.nextVersion_ne _ hsame.symm
  · simp only [h, Bool.false_eq_true, not_false_eq_true]

/-- An update tells whether the derived machine differs from the stored one.  Afterwards what
clients own of the stored machine is as derived, its version is another one exactly if something
differed, and everything else is as before. -/
theorem update_tells_difference (hup : env.Healthy) (hderived : s.virtualMachine = .ok desired)
    (hstored : env.infra.virtualMachines s.infraNs s.name = some vm)
    (hrunning : env.infra.instances (vm.metadata.ns.getD s.infraNs) vm.metadata.displayName =
      some vmi) :
    ∃ changed version log,
      env.run .memory (update Scope.sync s) =
        (.ok (changed, s.synced (aligned desired vm version) vmi
          (providerIdOf (vm.metadata.ns.getD s.infraNs) vm.metadata.displayName)
          (env.hosts (vmi.metadata.name.getD ""))),
          { env with
            infra := { env.infra with
              virtualMachines :=
                env.infra.virtualMachines.put s.infraNs s.name (aligned desired vm version) }
            log }) ∧
      (changed = true ↔ Differ desired vm) ∧
      (version = vm.metadata.resourceVersion ↔ changed = false) := by
  have hplain := Scope.plain_of_virtualMachine hderived
  obtain ⟨log, hrun⟩ := Environment.exists_log_of_outcome
    (outcome_update_of_instance hup hderived hstored hrunning)
  have hchanged : decide (vm.metadata.resourceVersion ≠
      (renewed desired vm).metadata.resourceVersion) = true ↔ Differ desired vm := by
    rw [decide_eq_true_eq, ne_comm, ne_eq, version_renewed_iff hplain, not_not]
  refine ⟨_, (renewed desired vm).metadata.resourceVersion, log, ?_, hchanged, ?_⟩
  · rw [← renewed_eq_aligned hplain]
    exact hrun
  · rw [version_renewed_iff hplain, ← hchanged, Bool.not_eq_true]

/-! A machine that was annotated after its virtual machine was created. -/

/-- The scope of the small machine once it bears a note. -/
def noted : Scope where
  machine :=
    { Machine.worker with
      metadata := { Machine.worker.metadata with annotations := some (.singleton "note" "n") } }
  providerSpec :=
    { ignitionSecretName := "payload", networkName := "net", sourcePvcName := "disk" }
  settings := ⟨⟨"infra", "c"⟩, {}⟩

/-- The virtual machine from before the note, with a version that is no number. -/
def unnoted : VirtualMachine :=
  { noted.virtualMachineWith "ReadWriteMany" with
    metadata :=
      { (noted.virtualMachineWith "ReadWriteMany").metadata with
        annotations := none
        uid := some "u"
        resourceVersion := some "first" } }

/-- The virtual machine from before the note is running. -/
def notedStart : Environment where
  infra :=
    { virtualMachines := Store.empty.put "infra" "worker" unnoted
      instances := Store.empty.put "infra" "worker" { metadata := { name := some "worker" } } }
  now := ⟨0, 0⟩

theorem update_tells_difference_noted :
    ∃ version synced env', version ≠ some "first" ∧
      notedStart.run .memory (update Scope.sync noted) = (.ok (true, synced), env') ∧
      env'.infra.virtualMachines "infra" "worker" =
        some (aligned (noted.virtualMachineWith "ReadWriteMany") unnoted version) := by
  have hdiffer : Differ (noted.virtualMachineWith "ReadWriteMany") unnoted :=
    .inr (.inr (by decide +kernel))
  obtain ⟨changed, version, log, hrun, hchanged, hversion⟩ :=
    @update_tells_difference notedStart noted unnoted
      (noted.virtualMachineWith "ReadWriteMany") { metadata := { name := some "worker" } }
      ⟨fun _ => rfl, fun _ => rfl⟩ rfl rfl rfl
  obtain rfl := hchanged.mpr hdiffer
  refine ⟨version, _, _, fun hsame => ?_, hrun,
    Store.put_same notedStart.infra.virtualMachines "infra" "worker" _⟩
  simpa using hversion.mp hsame

end MachineActuator.Lifecycle
