import Mathlib
import MachineActuator.Proofs.Json.Sent
import MachineActuator.Proofs.Resource.ObjectMeta
import MachineActuator.Resource.VirtualMachine

/-! # Virtual machines read back

A virtual machine comes through when its numbers fit and its metadata is such as a client sets
(`VirtualMachine.SetByClient.comesThrough`): what the API server keeps track of is not sent.  Small
records come through as they stand; the others are put together from their fields. -/

namespace MachineActuator

open Json (ComesThrough Unchanged sent_ofFields unchanged_none unchanged_some unchanged_map
  unchanged_str unchanged_strings unchanged_nonempty)

/-! ### Metadata -/

namespace Json

theorem sent_ofInt (n : Int) : (ofInt n).sent = ofInt n := by
  simp only [ofInt, sent, Number.sent]

theorem ComesThrough.int {n : Int} (h : int64? (ofInt n) = some n) :
    ComesThrough int64? ofInt n := ⟨sent_ofInt n, h, by simp [ofInt]⟩

end Json

theorem OwnerReference.comesThrough (r : OwnerReference) : ComesThrough ofJson? toJson r where
  sent := by
    unfold toJson
    refine sent_ofFields ?_
    simp only [List.forall_mem_cons]
    refine ⟨?_, ?_, ?_, ?_, ?_, ?_, by simp⟩
    · exact unchanged_some rfl
    · exact Json.unchanged_bool _
    · exact Json.unchanged_bool _
    · exact unchanged_some rfl
    · exact unchanged_some rfl
    · exact unchanged_some rfl
  read := r.ofJson?_toJson
  ne_null := by simp [toJson, Json.ofFields]

/-- Metadata as a client sets it: without what the API server keeps track of. -/
structure ObjectMeta.SetByClient (m : ObjectMeta) : Prop where
  generation : m.generation = none
  creation : m.creationTimestamp = none
  deletion : m.deletionTimestamp = none
  grace : m.deletionGracePeriodSeconds = none
  managers : m.managedFields = none

theorem ObjectMeta.SetByClient.comesThrough {m : ObjectMeta} (h : m.SetByClient) :
    ComesThrough ofJson? toJson m where
  sent := by
    unfold toJson
    rw [h.generation, h.creation, h.deletion, h.grace, h.managers]
    refine sent_ofFields ?_
    simp only [List.forall_mem_cons]
    refine ⟨?_, ?_, ?_, ?_, ?_, ?_, ?_, ?_, ?_, ?_, ?_, ?_, ?_, ?_, ?_, by simp⟩
    · exact unchanged_strings _
    · exact unchanged_none
    · exact unchanged_none
    · exact unchanged_none
    · exact unchanged_map fun items _ => Json.sent_ofList fun _ _ => rfl
    · exact unchanged_str _
    · exact unchanged_none
    · exact unchanged_strings _
    · exact unchanged_none
    · exact unchanged_str _
    · exact unchanged_str _
    · exact unchanged_map fun items _ => Json.sent_ofList fun r _ => r.comesThrough.sent
    · exact unchanged_str _
    · exact unchanged_str _
    · exact unchanged_str _
  read := by
    have hformed : m.WellFormed := by
      constructor
      · intro n hn
        simp [h.generation] at hn
      · intro t ht
        simp [h.creation] at ht
      · intro t ht
        simp [h.deletion] at ht
      · intro n hn
        simp [h.grace] at hn
      · intro ms hms
        simp [h.managers] at hms
    have hwhole : m.wholeSeconds = m := by
      obtain ⟨-, hcreation, hdeletion, -, hmanagers⟩ := h
      cases m
      dsimp only at hcreation hdeletion hmanagers
      subst hcreation hdeletion hmanagers
      rfl
    obtain ⟨fields, hfields, hread, -, -⟩ := readFrom_toJson hformed
    rw [hwhole] at hread
    rw [hfields]
    exact ofJson?_of_readFrom hread
  ne_null := by simp [toJson, Json.ofFields]

/-! ### The guest -/

theorem Disk.comesThrough (d : Disk) : ComesThrough ofJson? toJson d := by
  obtain ⟨name, _ | ⟨bus⟩⟩ := d
  · exact ⟨rfl, rfl, by simp [toJson, Json.ofFields]⟩
  · exact ⟨rfl, rfl, by simp [toJson, Json.ofFields]⟩

theorem Interface.comesThrough (i : Interface) : ComesThrough ofJson? toJson i := by
  obtain ⟨name, _ | _⟩ := i
  · exact ⟨rfl, rfl, by simp [toJson, Json.ofFields]⟩
  · exact ⟨rfl, rfl, by simp [toJson, Json.ofFields]⟩

theorem MachineType.comesThrough (m : MachineType) : ComesThrough ofJson? toJson m :=
  ⟨rfl, rfl, by simp [toJson, Json.field]⟩

theorem Volume.comesThrough (v : Volume) : ComesThrough ofJson? toJson v := by
  obtain ⟨name, _ | ⟨dataVolume⟩, _ | ⟨_ | ⟨secret⟩⟩⟩ := v
  all_goals exact ⟨rfl, rfl, by simp [toJson, Json.ofFields]⟩

theorem Network.comesThrough (n : Network) : ComesThrough ofJson? toJson n := by
  obtain ⟨name, _ | ⟨network⟩⟩ := n
  · exact ⟨rfl, rfl, by simp [toJson, Json.ofFields]⟩
  · exact ⟨rfl, rfl, by simp [toJson, Json.ofFields]⟩

theorem Json.comesThrough_amounts (m : StringMap String) :
    ComesThrough (Json.map? Json.quantity?) Json.ofStrings m := by
  have hamount (text : String) : ComesThrough Json.quantity? Json.str text :=
    ⟨rfl, rfl, by simp⟩
  exact .map hamount m

theorem StringMap.eq_empty_of_isEmpty {α : Type} {m : StringMap α} (h : m.isEmpty = true) :
    m = .empty := by
  refine StringMap.ext_get? fun key => ?_
  unfold isEmpty at h
  unfold get?
  rw [List.isEmpty_iff.mp h]
  rfl

theorem GuestResources.comesThrough (r : GuestResources) : ComesThrough ofJson? toJson r := by
  refine .of_fields rfl ?_ ?_
  · rw [List.forall_mem_singleton]
    split
    · exact unchanged_none
    · exact unchanged_some (Json.comesThrough_amounts _).sent
  · have hrequests : Json.orElse (Json.present [("requests",
        if r.requests.isEmpty then none else some (Json.ofStrings r.requests))]) "requests"
        (Json.map? Json.quantity?) .empty = some r.requests := by
      split
      · next hempty =>
        rw [Json.orElse_of_none (by simp), StringMap.eq_empty_of_isEmpty hempty]
      · exact (Json.comesThrough_amounts r.requests).orElse (by simp)
    unfold ofJson?
    refine (bind_of_eq_some rfl).trans ?_
    exact (bind_of_eq_some hrequests).trans rfl

theorem Devices.comesThrough (d : Devices) : ComesThrough ofJson? toJson d := by
  refine .of_fields rfl ?_ ?_
  · simp only [List.forall_mem_cons]
    refine ⟨?_, ?_, by simp⟩
    · exact unchanged_nonempty fun disk _ => disk.comesThrough.sent
    · exact unchanged_nonempty fun interface _ => interface.comesThrough.sent
  · unfold ofJson?
    refine (bind_of_eq_some rfl).trans ?_
    refine (bind_of_eq_some (Json.orElse_nonempty d.disks
      (fun disk _ => disk.comesThrough) (by simp))).trans ?_
    refine (bind_of_eq_some (Json.orElse_nonempty d.interfaces
      (fun interface _ => interface.comesThrough) (by simp))).trans ?_
    rfl

theorem DomainSpec.comesThrough (d : DomainSpec) : ComesThrough ofJson? toJson d := by
  refine .of_fields rfl ?_ ?_
  · simp only [List.forall_mem_cons]
    refine ⟨?_, ?_, ?_, by simp⟩
    · exact unchanged_some d.devices.comesThrough.sent
    · exact unchanged_map fun machine _ => machine.comesThrough.sent
    · exact unchanged_some d.resources.comesThrough.sent
  · unfold ofJson?
    refine (bind_of_eq_some rfl).trans ?_
    refine (bind_of_eq_some (d.resources.comesThrough.orElse (by simp))).trans ?_
    refine (bind_of_eq_some (d.devices.comesThrough.orElse (by simp))).trans ?_
    refine (bind_of_eq_some (ComesThrough.optional (x := d.machine)
      (fun machine _ => machine.comesThrough) (by simp))).trans ?_
    rfl

/-- The grace period of a guest is a number of 64 bits. -/
def InstanceSpec.Fits (s : InstanceSpec) : Prop :=
  ∀ n, s.terminationGracePeriodSeconds = some n → Json.int64? (.ofInt n) = some n

theorem InstanceSpec.comesThrough {s : InstanceSpec} (h : s.Fits) :
    ComesThrough ofJson? toJson s := by
  refine .of_fields rfl ?_ ?_
  · simp only [List.forall_mem_cons]
    refine ⟨?_, ?_, ?_, ?_, by simp⟩
    · exact unchanged_some s.domain.comesThrough.sent
    · exact unchanged_nonempty fun network _ => network.comesThrough.sent
    · exact unchanged_map fun n _ => Json.sent_ofInt n
    · exact unchanged_nonempty fun volume _ => volume.comesThrough.sent
  · unfold ofJson?
    refine (bind_of_eq_some rfl).trans ?_
    refine (bind_of_eq_some (s.domain.comesThrough.orElse (by simp))).trans ?_
    refine (bind_of_eq_some (ComesThrough.optional (x := s.terminationGracePeriodSeconds)
      (fun n hn => ComesThrough.int (h n hn)) (by simp; rfl))).trans ?_
    refine (bind_of_eq_some (Json.orElse_nonempty s.volumes
      (fun volume _ => volume.comesThrough) (by simp))).trans ?_
    refine (bind_of_eq_some (Json.orElse_nonempty s.networks
      (fun network _ => network.comesThrough) (by simp))).trans ?_
    rfl

/-- The template of an instance as a client sets it. -/
structure InstanceTemplate.SetByClient (t : InstanceTemplate) : Prop where
  metadata : ∀ m, t.metadata = some m → m.SetByClient
  fits : t.spec.Fits

theorem InstanceTemplate.SetByClient.comesThrough {t : InstanceTemplate} (h : t.SetByClient) :
    ComesThrough ofJson? toJson t := by
  refine .of_fields rfl ?_ ?_
  · simp only [List.forall_mem_cons]
    refine ⟨?_, ?_, by simp⟩
    · exact unchanged_map fun m hm => (h.metadata m hm).comesThrough.sent
    · exact unchanged_some (InstanceSpec.comesThrough h.fits).sent
  · unfold ofJson?
    refine (bind_of_eq_some rfl).trans ?_
    refine (bind_of_eq_some (ComesThrough.optional (x := t.metadata)
      (fun m hm => (h.metadata m hm).comesThrough) (by simp))).trans ?_
    refine (bind_of_eq_some ((InstanceSpec.comesThrough h.fits).orElse (by simp))).trans ?_
    rfl

/-! ### The boot volume -/

theorem LocalSource.comesThrough (l : LocalSource) : ComesThrough ofJson? toJson l := by
  obtain ⟨_ | group, kind, name⟩ := l
  · exact ⟨rfl, rfl, by simp [toJson, Json.ofFields]⟩
  · exact ⟨rfl, rfl, by simp [toJson, Json.ofFields]⟩

theorem SourceRef.comesThrough (r : SourceRef) : ComesThrough ofJson? toJson r := by
  obtain ⟨_ | group, kind, name, _ | ns⟩ := r
  all_goals exact ⟨rfl, rfl, by simp [toJson, Json.ofFields]⟩

theorem Json.comesThrough_texts (items : List String) :
    ComesThrough (Json.list? Json.str?) (Json.ofList .str) items :=
  .list fun text _ => .str text

theorem LabelRequirement.comesThrough (r : LabelRequirement) : ComesThrough ofJson? toJson r := by
  refine .of_fields rfl ?_ ?_
  · simp only [List.forall_mem_cons]
    refine ⟨?_, ?_, ?_, by simp⟩
    · exact unchanged_some rfl
    · exact unchanged_some rfl
    · exact unchanged_map fun items _ => (Json.comesThrough_texts items).sent
  · unfold ofJson?
    refine (bind_of_eq_some rfl).trans ?_
    refine (bind_of_eq_some (Json.textOrEmpty_of_find? (s := r.key) (by simp))).trans ?_
    refine (bind_of_eq_some (Json.textOrEmpty_of_find? (s := r.operator) (by simp))).trans ?_
    refine (bind_of_eq_some (ComesThrough.optional (x := r.values)
      (fun items _ => Json.comesThrough_texts items) (by simp))).trans ?_
    rfl

theorem LabelSelector.comesThrough (l : LabelSelector) : ComesThrough ofJson? toJson l := by
  refine .of_fields rfl ?_ ?_
  · simp only [List.forall_mem_cons]
    refine ⟨?_, ?_, by simp⟩
    · exact unchanged_map fun items _ => Json.sent_ofList fun r _ => r.comesThrough.sent
    · exact unchanged_strings _
  · unfold ofJson?
    refine (bind_of_eq_some rfl).trans ?_
    refine (bind_of_eq_some (ComesThrough.optional (x := l.matchExpressions)
      (fun items _ => .list fun r _ => r.comesThrough) (by simp))).trans ?_
    refine (bind_of_eq_some (Json.optional_strings (x := l.matchLabels) (by simp))).trans ?_
    rfl

theorem VolumeResources.comesThrough (r : VolumeResources) : ComesThrough ofJson? toJson r := by
  refine .of_fields rfl ?_ ?_
  · simp only [List.forall_mem_cons]
    exact ⟨unchanged_strings _, unchanged_strings _, by simp⟩
  · unfold ofJson?
    refine (bind_of_eq_some rfl).trans ?_
    refine (bind_of_eq_some (ComesThrough.optional (x := r.limits)
      (fun m _ => Json.comesThrough_amounts m) (by simp))).trans ?_
    refine (bind_of_eq_some (ComesThrough.optional (x := r.requests)
      (fun m _ => Json.comesThrough_amounts m) (by simp))).trans ?_
    rfl

theorem VolumeClaim.comesThrough (c : VolumeClaim) : ComesThrough ofJson? toJson c := by
  refine .of_fields rfl ?_ ?_
  · simp only [List.forall_mem_cons]
    refine ⟨?_, ?_, ?_, ?_, ?_, ?_, ?_, ?_, ?_, by simp⟩
    · exact unchanged_map fun items _ => (Json.comesThrough_texts items).sent
    · exact unchanged_map fun source _ => source.comesThrough.sent
    · exact unchanged_map fun ref _ => ref.comesThrough.sent
    · exact unchanged_map fun resources _ => resources.comesThrough.sent
    · exact unchanged_map fun selector _ => selector.comesThrough.sent
    · exact unchanged_str _
    · exact unchanged_str _
    · exact unchanged_str _
    · exact unchanged_str _
  · unfold ofJson?
    refine (bind_of_eq_some rfl).trans ?_
    refine (bind_of_eq_some (ComesThrough.optional (x := c.accessModes)
      (fun items _ => Json.comesThrough_texts items) (by simp))).trans ?_
    refine (bind_of_eq_some (ComesThrough.optional (x := c.dataSource)
      (fun source _ => source.comesThrough) (by simp))).trans ?_
    refine (bind_of_eq_some (ComesThrough.optional (x := c.dataSourceRef)
      (fun ref _ => ref.comesThrough) (by simp))).trans ?_
    refine (bind_of_eq_some (ComesThrough.optional (x := c.resources)
      (fun resources _ => resources.comesThrough) (by simp))).trans ?_
    refine (bind_of_eq_some (ComesThrough.optional (x := c.selector)
      (fun selector _ => selector.comesThrough) (by simp))).trans ?_
    refine (bind_of_eq_some (Json.optional_str (x := c.storageClassName) (by simp))).trans ?_
    refine (bind_of_eq_some
      (Json.optional_str (x := c.volumeAttributesClassName) (by simp))).trans ?_
    refine (bind_of_eq_some (Json.optional_str (x := c.volumeMode) (by simp))).trans ?_
    refine (bind_of_eq_some (Json.optional_str (x := c.volumeName) (by simp))).trans ?_
    rfl

theorem DataVolumeSource.comesThrough (s : DataVolumeSource) : ComesThrough ofJson? toJson s := by
  obtain ⟨_ | ⟨name, ns⟩⟩ := s
  · exact ⟨rfl, rfl, by simp [toJson, Json.ofFields]⟩
  · exact ⟨rfl, rfl, by simp [toJson, Json.ofFields]⟩

theorem DataVolumeSpec.comesThrough (s : DataVolumeSpec) : ComesThrough ofJson? toJson s := by
  refine .of_fields rfl ?_ ?_
  · simp only [List.forall_mem_cons]
    refine ⟨?_, ?_, by simp⟩
    · exact unchanged_map fun claim _ => claim.comesThrough.sent
    · exact unchanged_some s.source.comesThrough.sent
  · unfold ofJson?
    refine (bind_of_eq_some rfl).trans ?_
    refine (bind_of_eq_some (s.source.comesThrough.required (by simp))).trans ?_
    refine (bind_of_eq_some (ComesThrough.optional (x := s.pvc)
      (fun claim _ => claim.comesThrough) (by simp))).trans ?_
    rfl

theorem DataVolumeTemplate.comesThrough {t : DataVolumeTemplate} (h : t.metadata.SetByClient) :
    ComesThrough ofJson? toJson t := by
  refine .of_fields rfl ?_ ?_
  · simp only [List.forall_mem_cons]
    refine ⟨?_, ?_, ?_, by simp⟩
    · exact unchanged_str _
    · exact unchanged_some h.comesThrough.sent
    · exact unchanged_some t.spec.comesThrough.sent
  · unfold ofJson?
    refine (bind_of_eq_some rfl).trans ?_
    refine (bind_of_eq_some (Json.optional_str (x := t.apiVersion) (by simp))).trans ?_
    refine (bind_of_eq_some (h.comesThrough.orElse (by simp))).trans ?_
    refine (bind_of_eq_some (t.spec.comesThrough.required (by simp))).trans ?_
    rfl

/-! ### Virtual machines -/

theorem VirtualMachineStatus.comesThrough (s : VirtualMachineStatus) :
    ComesThrough ofJson? toJson s := ⟨rfl, rfl, by simp [toJson, Json.ofFields]⟩

/-- The description of a virtual machine as a client sets it. -/
structure VirtualMachineSpec.SetByClient (s : VirtualMachineSpec) : Prop where
  volumes : ∀ t ∈ s.dataVolumeTemplates, t.metadata.SetByClient
  template : ∀ t, s.template = some t → t.SetByClient

theorem VirtualMachineSpec.SetByClient.comesThrough {s : VirtualMachineSpec} (h : s.SetByClient) :
    ComesThrough ofJson? toJson s := by
  refine .of_fields rfl ?_ ?_
  · simp only [List.forall_mem_cons]
    refine ⟨?_, ?_, ?_, by simp⟩
    · exact unchanged_nonempty fun t ht => (DataVolumeTemplate.comesThrough (h.volumes t ht)).sent
    · exact unchanged_str _
    · exact unchanged_map fun t ht => (h.template t ht).comesThrough.sent
  · unfold ofJson?
    refine (bind_of_eq_some rfl).trans ?_
    refine (bind_of_eq_some (Json.optional_str (x := s.runStrategy) (by simp))).trans ?_
    refine (bind_of_eq_some (Json.orElse_nonempty s.dataVolumeTemplates
      (fun t ht => DataVolumeTemplate.comesThrough (h.volumes t ht)) (by simp))).trans ?_
    refine (bind_of_eq_some (ComesThrough.optional (x := s.template)
      (fun t ht => (h.template t ht).comesThrough) (by simp))).trans ?_
    rfl

/-- A virtual machine as a client sets it. -/
structure VirtualMachine.SetByClient (vm : VirtualMachine) : Prop where
  metadata : vm.metadata.SetByClient
  spec : vm.spec.SetByClient

theorem VirtualMachine.SetByClient.comesThrough {vm : VirtualMachine} (h : vm.SetByClient) :
    ComesThrough ofJson? toJson vm := by
  refine .of_fields rfl ?_ ?_
  · simp only [List.forall_mem_cons]
    refine ⟨?_, ?_, ?_, ?_, ?_, by simp⟩
    · exact unchanged_some rfl
    · exact unchanged_some rfl
    · exact unchanged_some h.metadata.comesThrough.sent
    · exact unchanged_some h.spec.comesThrough.sent
    · exact unchanged_map fun status _ => status.comesThrough.sent
  · unfold ofJson?
    refine (bind_of_eq_some rfl).trans ?_
    refine (bind_of_eq_some (h.metadata.comesThrough.required (by simp))).trans ?_
    refine (bind_of_eq_some (h.spec.comesThrough.required (by simp))).trans ?_
    refine (bind_of_eq_some (ComesThrough.optional (x := vm.status)
      (fun status _ => status.comesThrough) (by simp))).trans ?_
    rfl

/-- An instance as a client sets it. -/
structure VirtualMachineInstance.SetByClient (vmi : VirtualMachineInstance) : Prop where
  metadata : vmi.metadata.SetByClient
  fits : vmi.spec.Fits

theorem VirtualMachineInstance.SetByClient.comesThrough {vmi : VirtualMachineInstance}
    (h : vmi.SetByClient) : ComesThrough ofJson? toJson vmi := by
  refine .of_fields rfl ?_ ?_
  · simp only [List.forall_mem_cons]
    refine ⟨?_, ?_, ?_, ?_, by simp⟩
    · exact unchanged_some rfl
    · exact unchanged_some rfl
    · exact unchanged_some h.metadata.comesThrough.sent
    · exact unchanged_some (InstanceSpec.comesThrough h.fits).sent
  · unfold ofJson?
    refine (bind_of_eq_some rfl).trans ?_
    refine (bind_of_eq_some (h.metadata.comesThrough.required (by simp))).trans ?_
    refine (bind_of_eq_some ((InstanceSpec.comesThrough h.fits).required (by simp))).trans ?_
    rfl

end MachineActuator
