import Mathlib
import MachineActuator.Proofs.Machine.Scope

/-! # Derived virtual machines hold together

The parts of a virtual machine refer to each other by name: disks to volumes, interfaces to
networks, the boot volume to a data volume that is made along with the machine, and the cloud-init
volume to the secret with the payload.  They are built one by one, and what they refer to is there
whatever the fixed values and names are (`VirtualMachine.HoldsTogether`).  A virtual machine is
derived when every mandatory field is set and the access mode is known; otherwise the first mistake
is told, and those of fields come before that of the access mode
(`Scope.virtualMachine_holds_together`). -/

namespace MachineActuator

/-! ### References -/

/-- Every disk has its volume, in the same order, and every interface has its one network. -/
structure InstanceSpec.Connected (s : InstanceSpec) : Prop where
  disks : s.domain.devices.disks.map (·.name) = s.volumes.map (·.name)
  interfaces : ∀ i ∈ s.domain.devices.interfaces, s.networks.countP (·.name = i.name) = 1
  networks : ∀ n ∈ s.networks, s.domain.devices.interfaces.countP (·.name = n.name) = 1

namespace VirtualMachine

/-- The volume is the only data volume that is made along with the machine, in its namespace and
cloned from a claim of that namespace. -/
def BootsFrom (vm : VirtualMachine) (volume : Volume) : Prop :=
  ∃ (ref : DataVolumeRef) (made : DataVolumeTemplate) (claim : SourceClaim),
    volume.dataVolume = some ref ∧ vm.spec.dataVolumeTemplates = [made] ∧
      made.metadata.name = some ref.name ∧ made.metadata.ns = vm.metadata.ns ∧
      made.spec.source.pvc = some claim ∧ vm.metadata.ns = some claim.ns

/-- The volume hands the guest the payload in the secret, which is in the namespace of the
machine. -/
def StartsWith (vm : VirtualMachine) (volume : Volume) (secret : Secret) : Prop :=
  ∃ ref : SecretRef, volume.cloudInit = some { userDataSecretRef := some ref } ∧
    secret.metadata.name = some ref.name ∧ secret.metadata.ns = vm.metadata.ns

/-- Whatever the machine refers to is part of it, or is the secret; and nothing in it is up to the
infrastructure cluster. -/
structure HoldsTogether (vm : VirtualMachine) (secret : Secret) : Prop where
  guest : ∃ t boot payload, vm.spec.template = some t ∧ t.spec.Connected ∧
    t.spec.volumes = [boot, payload] ∧ vm.BootsFrom boot ∧ vm.StartsWith payload secret
  unobserved : vm.metadata.resourceVersion = none ∧ vm.metadata.uid = none ∧ vm.status = none

end VirtualMachine

namespace Scope

variable (s : Scope)

theorem connected_instanceTemplate : s.instanceTemplate.spec.Connected where
  disks := rfl
  interfaces i hi := by
    obtain rfl := List.mem_singleton.mp hi
    exact List.countP_eq_length.mpr fun n hn => by
      obtain rfl := List.mem_singleton.mp hn
      exact decide_eq_true rfl
  networks n hn := by
    obtain rfl := List.mem_singleton.mp hn
    exact List.countP_eq_length.mpr fun i hi => by
      obtain rfl := List.mem_singleton.mp hi
      exact decide_eq_true rfl

theorem holdsTogether_virtualMachineWith (mode : String) (payload : ByteArray) :
    (s.virtualMachineWith mode).HoldsTogether (s.ignitionSecret payload) where
  guest := by
    refine ⟨s.instanceTemplate, _, _, rfl, s.connected_instanceTemplate, rfl, ?_, ?_⟩
    · exact ⟨_, s.bootVolumeTemplate mode, _, rfl, rfl, rfl, rfl, rfl, rfl⟩
    · exact ⟨_, rfl, rfl, rfl⟩
  unobserved := ⟨rfl, rfl, rfl⟩

end Scope

/-! ### Mistakes -/

namespace ProviderSpec

/-- The fields that have to be set, in the order in which they are asked for. -/
def mandatory (spec : ProviderSpec) : List (String × String) :=
  [("SourcePvcName", spec.sourcePvcName), ("IgnitionSecretName", spec.ignitionSecretName),
    ("NetworkName", spec.networkName)]

/-- No field that has to be set is empty. -/
def Complete (spec : ProviderSpec) : Prop := ∀ field ∈ spec.mandatory, field.2 ≠ ""

instance (spec : ProviderSpec) : Decidable spec.Complete :=
  inferInstanceAs (Decidable (∀ field ∈ spec.mandatory, field.2 ≠ ""))

/-- The access mode of the boot volume is left open or is one that a volume may have. -/
def AccessModeKnown (spec : ProviderSpec) : Prop :=
  spec.persistentVolumeAccessMode ∈ ["", "ReadWriteMany", "ReadOnlyMany", "ReadWriteOnce"]

instance (spec : ProviderSpec) : Decidable spec.AccessModeKnown :=
  inferInstanceAs (Decidable (spec.persistentVolumeAccessMode ∈ _))

/-- The first field that has to be set and is empty. -/
def FirstMissing (spec : ProviderSpec) (name : String) : Prop :=
  ∃ earlier later, spec.mandatory = earlier ++ (name, "") :: later ∧
    ∀ field ∈ earlier, field.2 ≠ ""

end ProviderSpec

namespace Scope

variable {s : Scope} {spec : ProviderSpec}

theorem missingField?_eq (spec : ProviderSpec) :
    missingField? spec = (spec.mandatory.find? (·.2.isEmpty)).map (·.1) := by
  unfold missingField? ProviderSpec.mandatory
  simp only [List.find?_cons, List.find?_nil]
  cases spec.sourcePvcName.isEmpty with
  | true => rfl
  | false =>
    cases spec.ignitionSecretName.isEmpty with
    | true => rfl
    | false => cases spec.networkName.isEmpty <;> rfl

theorem missingField?_eq_none_iff : missingField? spec = none ↔ spec.Complete := by
  rw [missingField?_eq, Option.map_eq_none_iff, List.find?_eq_none]
  simp only [ProviderSpec.Complete, String.isEmpty_iff]

theorem missingField?_of_firstMissing {name : String} (h : spec.FirstMissing name) :
    missingField? spec = some name := by
  obtain ⟨earlier, later, hmandatory, hearlier⟩ := h
  have hfind : spec.mandatory.find? (·.2.isEmpty) = some (name, "") := by
    refine List.find?_eq_some_iff_append.mpr ⟨rfl, earlier, later, hmandatory, fun f hf => ?_⟩
    simpa using hearlier f hf
  rw [missingField?_eq, hfind]
  rfl

theorem accessModeKnown_iff : s.providerSpec.AccessModeKnown ↔
    s.providerSpec.persistentVolumeAccessMode.isEmpty = true ∨
      s.providerSpec.persistentVolumeAccessMode ∈ accessModes := by
  unfold ProviderSpec.AccessModeKnown accessModes
  rw [List.mem_cons, String.isEmpty_iff]

theorem exists_accessMode_iff :
    (∃ mode, s.accessMode = .ok mode) ↔ s.providerSpec.AccessModeKnown := by
  rw [accessModeKnown_iff]
  unfold accessMode
  dsimp only
  split_ifs with hopen hknown
  · simp [hopen]
  · simp [hknown]
  · simp [hopen, hknown]

theorem accessMode_of_not_known (h : ¬ s.providerSpec.AccessModeKnown) :
    s.accessMode = .error (.invalidConfig (s.name ++
      ": Value of PersistentVolumeAccessMode, can be only one of: " ++
      "ReadWriteMany, ReadOnlyMany, ReadWriteOnce")) := by
  rw [accessModeKnown_iff, not_or] at h
  unfold accessMode
  dsimp only
  rw [if_neg h.1, if_neg h.2]
  rfl

/-- What a machine asks for refers to what is there, under any settings.  It can be told when every
mandatory field is set and the access mode is known; otherwise the first missing field is named,
and the access mode only when no field is missing. -/
theorem virtualMachine_holds_together (s : Scope) :
    (∀ vm payload, s.virtualMachine = .ok vm →
      vm.metadata.ns = some s.infraNs ∧ vm.HoldsTogether (s.ignitionSecret payload)) ∧
    ((∃ vm, s.virtualMachine = .ok vm) ↔
      s.providerSpec.Complete ∧ s.providerSpec.AccessModeKnown) ∧
    (∀ field, s.providerSpec.FirstMissing field →
      s.virtualMachine =
        .error (.invalidConfig (s.name ++ ": missing value for " ++ field))) ∧
    (s.providerSpec.Complete → ¬ s.providerSpec.AccessModeKnown →
      s.virtualMachine = .error (.invalidConfig (s.name ++
        ": Value of PersistentVolumeAccessMode, can be only one of: " ++
        "ReadWriteMany, ReadOnlyMany, ReadWriteOnce"))) := by
  refine ⟨fun vm payload h => ?_, ?_, fun field h => ?_, fun hfields hmode => ?_⟩
  · obtain ⟨-, mode, -, rfl⟩ := virtualMachine_eq_ok_iff.mp h
    exact ⟨rfl, s.holdsTogether_virtualMachineWith mode payload⟩
  · rw [← missingField?_eq_none_iff, ← exists_accessMode_iff]
    constructor
    · rintro ⟨vm, h⟩
      obtain ⟨hfields, mode, hmode, -⟩ := virtualMachine_eq_ok_iff.mp h
      exact ⟨hfields, mode, hmode⟩
    · rintro ⟨hfields, mode, hmode⟩
      exact ⟨_, virtualMachine_eq_ok_iff.mpr ⟨hfields, mode, hmode, rfl⟩⟩
  · unfold virtualMachine
    rw [missingField?_of_firstMissing h]
  · unfold virtualMachine
    rw [missingField?_eq_none_iff.mpr hfields, accessMode_of_not_known hmode]

/-- A machine with all that is needed has a virtual machine that holds together; of one with two
empty fields and an unknown access mode the first of the fields is named. -/
theorem virtualMachine_holds_together_worker :
    let complete : Scope :=
      { machine := .worker
        providerSpec :=
          { sourcePvcName := "disk", ignitionSecretName := "payload", networkName := "net" }
        settings := ⟨⟨"infra", "c"⟩, {}⟩ }
    let incomplete : Scope :=
      { complete with
        providerSpec := { sourcePvcName := "disk", persistentVolumeAccessMode := "Often" } }
    (∃ vm, complete.virtualMachine = .ok vm ∧
      vm.HoldsTogether (complete.ignitionSecret .empty)) ∧
    incomplete.virtualMachine =
      .error (.invalidConfig "worker: missing value for IgnitionSecretName") := by
  intro complete incomplete
  obtain ⟨hholds, hderived, -⟩ := virtualMachine_holds_together complete
  obtain ⟨-, -, hnamed, -⟩ := virtualMachine_holds_together incomplete
  constructor
  · obtain ⟨vm, hvm⟩ := hderived.mpr ⟨by decide, by decide⟩
    exact ⟨vm, hvm, (hholds vm .empty hvm).2⟩
  · exact hnamed _ ⟨[("SourcePvcName", "disk")], [("NetworkName", "")], rfl, by decide⟩

end Scope

end MachineActuator
