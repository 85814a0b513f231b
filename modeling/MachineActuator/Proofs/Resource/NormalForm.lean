import Mathlib
import MachineActuator.Proofs.Resource.Machine
import MachineActuator.Proofs.Resource.VirtualMachine
import MachineActuator.Resource.Provider

/-! # Normal forms

A value may be written in many ways: fields that are null or at their default, records as lists,
times with offsets and fractions, fields that nobody declared.  Reading it and writing what was
read gives one form, which reads as the same value up to the times of metadata and which later
reading and writing keeps (`Json.Normalizes`).  So it is for all that is kept in the two clusters
(`resources_normalize`): what is left out when it is written is what its absence is read as. -/

namespace MachineActuator

/-! ### Guests -/

theorem InstanceSpec.fits_of_ofJson? {v : Json} {s : InstanceSpec} (h : ofJson? v = some s) :
    s.Fits := by
  unfold ofJson? at h
  obtain ⟨fields, -, h⟩ := Option.bind_eq_some_iff.mp h
  obtain ⟨domain, -, h⟩ := Option.bind_eq_some_iff.mp h
  obtain ⟨grace, hgrace, h⟩ := Option.bind_eq_some_iff.mp h
  obtain ⟨volumes, -, h⟩ := Option.bind_eq_some_iff.mp h
  obtain ⟨networks, -, h⟩ := Option.bind_eq_some_iff.mp h
  obtain rfl := Option.some.inj h
  exact Json.of_optional (fun _ _ => Json.int64?_ofInt) hgrace

theorem InstanceSpec.fits_empty : Fits {} := nofun

namespace InstanceTemplate

/-- A template that can be read. -/
structure WellFormed (t : InstanceTemplate) : Prop where
  metadata : ∀ m, t.metadata = some m → m.WellFormed
  fits : t.spec.Fits

/-- The template with the times of its metadata cut to the second. -/
def wholeSeconds (t : InstanceTemplate) : InstanceTemplate :=
  { t with metadata := t.metadata.map ObjectMeta.wholeSeconds }

theorem wellFormed_of_ofJson? {v : Json} {t : InstanceTemplate} (h : ofJson? v = some t) :
    t.WellFormed := by
  unfold ofJson? at h
  obtain ⟨fields, -, h⟩ := Option.bind_eq_some_iff.mp h
  obtain ⟨metadata, hmetadata, h⟩ := Option.bind_eq_some_iff.mp h
  obtain ⟨spec, hspec, h⟩ := Option.bind_eq_some_iff.mp h
  obtain rfl := Option.some.inj h
  exact ⟨Json.of_optional (fun _ _ => ObjectMeta.wellFormed_of_ofJson?) hmetadata,
    Json.of_orElse (fun _ _ => InstanceSpec.fits_of_ofJson?) InstanceSpec.fits_empty hspec⟩

theorem ofJson?_toJson {t : InstanceTemplate} (h : t.WellFormed) :
    ofJson? t.toJson = some t.wholeSeconds := by
  unfold toJson
  rw [Json.ofFields_eq_present]
  unfold ofJson?
  refine (bind_of_eq_some rfl).trans ?_
  refine (bind_of_eq_some (Json.optional_of_find? ObjectMeta.toJson (x := t.metadata)
    (by simp) (fun _ _ => by simp [ObjectMeta.toJson, Json.ofFields])
    fun m hm => ObjectMeta.ofJson?_toJson (h.metadata m hm))).trans ?_
  refine (bind_of_eq_some ((InstanceSpec.comesThrough h.fits).orElse (by simp))).trans ?_
  rfl

theorem toJson_wholeSeconds (t : InstanceTemplate) : t.wholeSeconds.toJson = t.toJson := by
  unfold toJson wholeSeconds
  dsimp only
  rw [Json.map_written ObjectMeta.toJson_wholeSeconds]

theorem toJson_ne_null (t : InstanceTemplate) : t.toJson ≠ .null := by
  simp [toJson, Json.ofFields]

end InstanceTemplate

namespace VirtualMachineInstance

/-- An instance that can be read. -/
structure WellFormed (vmi : VirtualMachineInstance) : Prop where
  metadata : vmi.metadata.WellFormed
  fits : vmi.spec.Fits

/-- The instance with the times of its metadata cut to the second. -/
def wholeSeconds (vmi : VirtualMachineInstance) : VirtualMachineInstance :=
  { vmi with metadata := vmi.metadata.wholeSeconds }

theorem wellFormed_of_ofJson? {v : Json} {vmi : VirtualMachineInstance}
    (h : ofJson? v = some vmi) : vmi.WellFormed := by
  unfold ofJson? at h
  obtain ⟨fields, -, h⟩ := Option.bind_eq_some_iff.mp h
  obtain ⟨metadata, hmetadata, h⟩ := Option.bind_eq_some_iff.mp h
  obtain ⟨spec, hspec, h⟩ := Option.bind_eq_some_iff.mp h
  obtain rfl := Option.some.inj h
  exact ⟨Json.of_required (fun _ _ => ObjectMeta.wellFormed_of_ofJson?) hmetadata,
    Json.of_required (fun _ _ => InstanceSpec.fits_of_ofJson?) hspec⟩

theorem ofJson?_toJson {vmi : VirtualMachineInstance} (h : vmi.WellFormed) :
    ofJson? vmi.toJson = some vmi.wholeSeconds := by
  unfold toJson
  rw [Json.ofFields_eq_present]
  unfold ofJson?
  refine (bind_of_eq_some rfl).trans ?_
  refine (bind_of_eq_some ((Json.required_of_find? (v := vmi.metadata.toJson) (by simp)).trans
    (ObjectMeta.ofJson?_toJson h.metadata))).trans ?_
  refine (bind_of_eq_some ((InstanceSpec.comesThrough h.fits).required (by simp))).trans ?_
  rfl

theorem toJson_wholeSeconds (vmi : VirtualMachineInstance) :
    vmi.wholeSeconds.toJson = vmi.toJson := by
  unfold toJson wholeSeconds
  dsimp only
  rw [ObjectMeta.toJson_wholeSeconds]

end VirtualMachineInstance

/-! ### Virtual machines -/

namespace DataVolumeTemplate

/-- The template with the times of its metadata cut to the second. -/
def wholeSeconds (t : DataVolumeTemplate) : DataVolumeTemplate :=
  { t with metadata := t.metadata.wholeSeconds }

theorem wellFormed_of_ofJson? {v : Json} {t : DataVolumeTemplate} (h : ofJson? v = some t) :
    t.metadata.WellFormed := by
  unfold ofJson? at h
  obtain ⟨fields, -, h⟩ := Option.bind_eq_some_iff.mp h
  obtain ⟨apiVersion, -, h⟩ := Option.bind_eq_some_iff.mp h
  obtain ⟨metadata, hmetadata, h⟩ := Option.bind_eq_some_iff.mp h
  obtain ⟨spec, -, h⟩ := Option.bind_eq_some_iff.mp h
  obtain rfl := Option.some.inj h
  exact Json.of_orElse (fun _ _ => ObjectMeta.wellFormed_of_ofJson?) ObjectMeta.wellFormed_empty
    hmetadata

theorem ofJson?_toJson {t : DataVolumeTemplate} (h : t.metadata.WellFormed) :
    ofJson? t.toJson = some t.wholeSeconds := by
  unfold toJson
  rw [Json.ofFields_eq_present]
  unfold ofJson?
  refine (bind_of_eq_some rfl).trans ?_
  refine (bind_of_eq_some (Json.optional_str (x := t.apiVersion) (by simp))).trans ?_
  refine (bind_of_eq_some ((Json.orElse_of_some (v := t.metadata.toJson) (by simp)).trans
    (ObjectMeta.ofJson?_toJson h))).trans ?_
  refine (bind_of_eq_some (t.spec.comesThrough.required (by simp))).trans ?_
  rfl

theorem toJson_wholeSeconds (t : DataVolumeTemplate) : t.wholeSeconds.toJson = t.toJson := by
  unfold toJson wholeSeconds
  dsimp only
  rw [ObjectMeta.toJson_wholeSeconds]

end DataVolumeTemplate

namespace VirtualMachineSpec

/-- A description that can be read. -/
structure WellFormed (s : VirtualMachineSpec) : Prop where
  volumes : ∀ t ∈ s.dataVolumeTemplates, t.metadata.WellFormed
  template : ∀ t, s.template = some t → t.WellFormed

/-- The description with the times of its templates cut to the second. -/
def wholeSeconds (s : VirtualMachineSpec) : VirtualMachineSpec :=
  { s with
    dataVolumeTemplates := s.dataVolumeTemplates.map DataVolumeTemplate.wholeSeconds
    template := s.template.map InstanceTemplate.wholeSeconds }

theorem wellFormed_of_ofJson? {v : Json} {s : VirtualMachineSpec} (h : ofJson? v = some s) :
    s.WellFormed := by
  unfold ofJson? at h
  obtain ⟨fields, -, h⟩ := Option.bind_eq_some_iff.mp h
  obtain ⟨runStrategy, -, h⟩ := Option.bind_eq_some_iff.mp h
  obtain ⟨volumes, hvolumes, h⟩ := Option.bind_eq_some_iff.mp h
  obtain ⟨template, htemplate, h⟩ := Option.bind_eq_some_iff.mp h
  obtain rfl := Option.some.inj h
  have hlist : ∀ v ts, Json.list? DataVolumeTemplate.ofJson? v = some ts →
      ∀ t ∈ ts, t.metadata.WellFormed := fun _ _ =>
    Json.forall_of_list? fun _ _ => DataVolumeTemplate.wellFormed_of_ofJson?
  exact ⟨Json.of_orElse hlist (List.forall_mem_nil _) hvolumes,
    Json.of_optional (fun _ _ => InstanceTemplate.wellFormed_of_ofJson?) htemplate⟩

theorem ofJson?_toJson {s : VirtualMachineSpec} (h : s.WellFormed) :
    ofJson? s.toJson = some s.wholeSeconds := by
  unfold toJson
  rw [Json.ofFields_eq_present]
  unfold ofJson?
  refine (bind_of_eq_some rfl).trans ?_
  refine (bind_of_eq_some (Json.optional_str (x := s.runStrategy) (by simp))).trans ?_
  refine (bind_of_eq_some (Json.orElse_ofNonempty s.dataVolumeTemplates
    (fun t ht => DataVolumeTemplate.ofJson?_toJson (h.volumes t ht)) (by simp))).trans ?_
  refine (bind_of_eq_some (Json.optional_of_find? InstanceTemplate.toJson (x := s.template)
    (by simp) (fun t _ => t.toJson_ne_null)
    fun t ht => InstanceTemplate.ofJson?_toJson (h.template t ht))).trans ?_
  rfl

theorem toJson_wholeSeconds (s : VirtualMachineSpec) : s.wholeSeconds.toJson = s.toJson := by
  unfold toJson wholeSeconds
  dsimp only
  rw [Json.ofNonempty_written DataVolumeTemplate.toJson_wholeSeconds,
    Json.map_written InstanceTemplate.toJson_wholeSeconds]

end VirtualMachineSpec

namespace VirtualMachine

/-- A virtual machine that can be read. -/
structure WellFormed (vm : VirtualMachine) : Prop where
  metadata : vm.metadata.WellFormed
  spec : vm.spec.WellFormed

/-- The virtual machine with the times of all its metadata cut to the second. -/
def wholeSeconds (vm : VirtualMachine) : VirtualMachine :=
  { vm with metadata := vm.metadata.wholeSeconds, spec := vm.spec.wholeSeconds }

theorem wellFormed_of_ofJson? {v : Json} {vm : VirtualMachine} (h : ofJson? v = some vm) :
    vm.WellFormed := by
  unfold ofJson? at h
  obtain ⟨fields, -, h⟩ := Option.bind_eq_some_iff.mp h
  obtain ⟨metadata, hmetadata, h⟩ := Option.bind_eq_some_iff.mp h
  obtain ⟨spec, hspec, h⟩ := Option.bind_eq_some_iff.mp h
  obtain ⟨status, -, h⟩ := Option.bind_eq_some_iff.mp h
  obtain rfl := Option.some.inj h
  exact ⟨Json.of_required (fun _ _ => ObjectMeta.wellFormed_of_ofJson?) hmetadata,
    Json.of_required (fun _ _ => VirtualMachineSpec.wellFormed_of_ofJson?) hspec⟩

theorem ofJson?_toJson {vm : VirtualMachine} (h : vm.WellFormed) :
    ofJson? vm.toJson = some vm.wholeSeconds := by
  unfold toJson
  rw [Json.ofFields_eq_present]
  unfold ofJson?
  refine (bind_of_eq_some rfl).trans ?_
  refine (bind_of_eq_some ((Json.required_of_find? (v := vm.metadata.toJson) (by simp)).trans
    (ObjectMeta.ofJson?_toJson h.metadata))).trans ?_
  refine (bind_of_eq_some ((Json.required_of_find? (v := vm.spec.toJson) (by simp)).trans
    (VirtualMachineSpec.ofJson?_toJson h.spec))).trans ?_
  refine (bind_of_eq_some (Json.ComesThrough.optional (x := vm.status)
    (fun status _ => status.comesThrough) (by simp))).trans ?_
  rfl

theorem toJson_wholeSeconds (vm : VirtualMachine) : vm.wholeSeconds.toJson = vm.toJson := by
  unfold toJson wholeSeconds
  dsimp only
  rw [ObjectMeta.toJson_wholeSeconds, VirtualMachineSpec.toJson_wholeSeconds]

end VirtualMachine

/-! ### Provider documents -/

namespace ProviderSpec

theorem requestedCpu_lt_of_ofJson? {v : Json} {s : ProviderSpec} (h : ofJson? v = some s) :
    s.requestedCpu < 2 ^ 32 := by
  unfold ofJson? at h
  obtain ⟨fields, -, h⟩ := Option.bind_eq_some_iff.mp h
  obtain ⟨pvc, -, h⟩ := Option.bind_eq_some_iff.mp h
  obtain ⟨ignition, -, h⟩ := Option.bind_eq_some_iff.mp h
  obtain ⟨credentials, -, h⟩ := Option.bind_eq_some_iff.mp h
  obtain ⟨network, -, h⟩ := Option.bind_eq_some_iff.mp h
  obtain ⟨memory, -, h⟩ := Option.bind_eq_some_iff.mp h
  obtain ⟨cpu, hcpu, h⟩ := Option.bind_eq_some_iff.mp h
  obtain ⟨storage, -, h⟩ := Option.bind_eq_some_iff.mp h
  obtain ⟨storageClass, -, h⟩ := Option.bind_eq_some_iff.mp h
  obtain ⟨accessMode, -, h⟩ := Option.bind_eq_some_iff.mp h
  obtain rfl := Option.some.inj h
  exact Json.of_orElse (fun _ _ => Json.lt_of_nat?) (Nat.two_pow_pos 32) hcpu

theorem ofJson?_toJson {s : ProviderSpec} (h : s.requestedCpu < 2 ^ 32) :
    ofJson? s.toJson = some s := by
  unfold toJson
  rw [Json.ofFields_eq_present]
  unfold ofJson?
  refine (bind_of_eq_some rfl).trans ?_
  refine (bind_of_eq_some (Json.orElse_str (s := s.sourcePvcName) (by simp))).trans ?_
  refine (bind_of_eq_some (Json.orElse_str (s := s.ignitionSecretName) (by simp))).trans ?_
  refine (bind_of_eq_some (Json.orElse_ofText (s := s.credentialsSecretName) (by simp))).trans ?_
  refine (bind_of_eq_some (Json.orElse_str (s := s.networkName) (by simp))).trans ?_
  refine (bind_of_eq_some (Json.orElse_ofText (s := s.requestedMemory) (by simp))).trans ?_
  refine (bind_of_eq_some ((Json.orElse_of_some (v := .num (.int s.requestedCpu))
    (by simp)).trans (Json.nat?_of_lt h))).trans ?_
  refine (bind_of_eq_some (Json.orElse_ofText (s := s.requestedStorage) (by simp))).trans ?_
  refine (bind_of_eq_some (Json.orElse_ofText (s := s.storageClassName) (by simp))).trans ?_
  refine (bind_of_eq_some (Json.orElse_ofText (s := s.persistentVolumeAccessMode)
    (by simp))).trans ?_
  rfl

end ProviderSpec

theorem ProviderStatus.ofJson?_toJson (s : ProviderStatus) : ofJson? s.toJson = some s := rfl

/-! ### Normal forms -/

namespace Json

variable {α : Type} {dec : Json → Option α} {enc : α → Json} {g : α → α}

/-- A value read and written so many times. -/
def rewritten (dec : Json → Option α) (enc : α → Json) : ℕ → Json → Option Json
  | 0, v => some v
  | n + 1, v => dec v >>= fun a => rewritten dec enc n (enc a)

/-- What is read is written in a form that can be read, as `g` of what it was, and that further
reading and writing keeps. -/
structure Normalizes (dec : Json → Option α) (enc : α → Json) (g : α → α) : Prop where
  read : ∀ v a, dec v = some a → dec (enc a) = some (g a)
  written : ∀ v a, dec v = some a → enc (g a) = enc a
  kept : ∀ v a, dec v = some a → ∀ n, rewritten dec enc (n + 1) v = some (enc a)

theorem Normalizes.of_written (hread : ∀ v a, dec v = some a → dec (enc a) = some (g a))
    (hwritten : ∀ a, enc (g a) = enc a) : Normalizes dec enc g := by
  refine ⟨hread, fun _ a _ => hwritten a, fun v a h n => ?_⟩
  induction n generalizing v a with
  | zero => exact bind_of_eq_some h
  | succ n ih =>
    refine (bind_of_eq_some h).trans ((ih _ _ (hread v a h)).trans ?_)
    rw [hwritten]

end Json

/-- Whatever is read of the objects of the clusters, and of the documents in them, is written in a
normal form.  The times of metadata are cut to the second; all else is read back as it was. -/
theorem resources_normalize :
    Json.Normalizes Machine.ofJson? Machine.toJson Machine.wholeSeconds ∧
    Json.Normalizes MachineStatus.ofJson? MachineStatus.toJson id ∧
    Json.Normalizes VirtualMachine.ofJson? VirtualMachine.toJson VirtualMachine.wholeSeconds ∧
    Json.Normalizes VirtualMachineInstance.ofJson? VirtualMachineInstance.toJson
      VirtualMachineInstance.wholeSeconds ∧
    Json.Normalizes VirtualMachineStatus.ofJson? VirtualMachineStatus.toJson id ∧
    Json.Normalizes ProviderSpec.ofJson? ProviderSpec.toJson id ∧
    Json.Normalizes ProviderStatus.ofJson? ProviderStatus.toJson id := by
  refine ⟨?_, ?_, ?_, ?_, ?_, ?_, ?_⟩
  · exact .of_written (fun _ _ h => Machine.ofJson?_toJson (Machine.wellFormed_of_ofJson? h))
      Machine.toJson_wholeSeconds
  · exact .of_written (fun _ _ h =>
      MachineStatus.ofJson?_toJson (MachineStatus.wellFormed_of_ofJson? h)) fun _ => rfl
  · exact .of_written (fun _ _ h =>
      VirtualMachine.ofJson?_toJson (VirtualMachine.wellFormed_of_ofJson? h))
      VirtualMachine.toJson_wholeSeconds
  · exact .of_written (fun _ _ h =>
      VirtualMachineInstance.ofJson?_toJson (VirtualMachineInstance.wellFormed_of_ofJson? h))
      VirtualMachineInstance.toJson_wholeSeconds
  · exact .of_written (fun _ s _ => s.comesThrough.read) fun _ => rfl
  · exact .of_written (fun _ _ h =>
      ProviderSpec.ofJson?_toJson (ProviderSpec.requestedCpu_lt_of_ofJson? h)) fun _ => rfl
  · exact .of_written (fun _ s _ => s.ofJson?_toJson) fun _ => rfl

/-- A machine with a time elsewhere on the globe, a list for an object, a null and a field of no
meaning is rewritten once. -/
theorem resources_normalize_worker :
    let v : Json := .obj
      [("metadata", .obj
        [("creationTimestamp", .str "2020-01-01T02:00:00.5+02:00"), ("labels", .null),
         ("name", .str "worker")]),
       ("spec", .arr []), ("status", .null), ("then", .str "what")]
    let w : Json := .obj
      [("apiVersion", .str "machine.openshift.io/v1beta1"), ("kind", .str "Machine"),
       ("metadata", .obj
        [("creationTimestamp", .str "2020-01-01T00:00:00Z"), ("name", .str "worker")]),
       ("spec", .obj [("providerSpec", .obj [])])]
    v ≠ w ∧ ∀ n, Json.rewritten Machine.ofJson? Machine.toJson (n + 1) v = some w := by
  intro v w
  let m : Machine :=
    { metadata := { name := some "worker", creationTimestamp := some ⟨1577836800, 500000000⟩ } }
  have hread : Machine.ofJson? v = some m := by decide +kernel
  have hwritten : m.toJson = w := by decide +kernel
  refine ⟨by decide, fun n => ?_⟩
  rw [resources_normalize.1.kept v m hread n, hwritten]

end MachineActuator
