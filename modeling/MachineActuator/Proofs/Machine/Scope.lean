import Mathlib
import MachineActuator.Machine.Derivation

/-! # Scopes of machines

When a machine has a scope and what virtual machine it asks for, with a small machine that has both
(`Machine.worker`). -/

namespace MachineActuator

theorem ObjectMeta.displayName_of_name {m : ObjectMeta} {name : String} (h : m.name = some name) :
    m.displayName = name := by
  unfold displayName
  rw [h]
  rfl

namespace Scope

variable {settings : Settings} {m : Machine} {s : Scope} {desired : VirtualMachine}

theorem eq_of_ofMachine (h : ofMachine settings m = .ok s) :
    s.machine = m ∧ s.settings = settings := by
  unfold ofMachine at h
  dsimp only at h
  split_ifs at h
  split at h
  · simp at h
  · obtain rfl := Except.ok.inj h
    exact ⟨rfl, rfl⟩

/-- A virtual machine can be derived when no field is missing and the access mode is one. -/
theorem virtualMachine_eq_ok_iff :
    s.virtualMachine = .ok desired ↔
      missingField? s.providerSpec = none ∧
        ∃ mode, s.accessMode = .ok mode ∧ desired = s.virtualMachineWith mode := by
  unfold virtualMachine
  constructor
  · intro h
    split at h
    · simp at h
    · next hfields =>
      split at h
      · simp at h
      · next mode hmode => exact ⟨hfields, mode, hmode, (Except.ok.inj h).symm⟩
  · rintro ⟨hfields, mode, hmode, rfl⟩
    rw [hfields]
    dsimp only
    rw [hmode]

theorem name_of_virtualMachine (h : s.virtualMachine = .ok desired) :
    desired.metadata.name = some s.name := by
  obtain ⟨-, mode, -, rfl⟩ := virtualMachine_eq_ok_iff.mp h
  rfl

theorem displayName_of_virtualMachine (h : s.virtualMachine = .ok desired) :
    desired.metadata.displayName = s.name :=
  ObjectMeta.displayName_of_name (name_of_virtualMachine h)

/-- Machines with one provider specification and one cluster id have scopes alike. -/
theorem ofMachine_congr {r : Machine} (h : ofMachine settings m = .ok s)
    (hspec : r.spec.providerSpec = m.spec.providerSpec) (hid : clusterId r = clusterId m) :
    ofMachine settings r = .ok { s with machine := r } := by
  unfold ofMachine at h ⊢
  dsimp only at h ⊢
  rw [hid, hspec]
  split_ifs at h ⊢ with hempty
  split at h
  · simp at h
  · obtain rfl := Except.ok.inj h
    rfl

theorem accessMode_congr {r : Machine} (hname : r.metadata.name = s.machine.metadata.name) :
    ({ s with machine := r } : Scope).accessMode = s.accessMode := by
  unfold accessMode name
  dsimp only
  rw [hname]

end Scope

/-- A small machine with everything that a virtual machine is derived from. -/
def Machine.worker : Machine where
  metadata :=
    { name := some "worker"
      ns := some "ns"
      labels := some (.singleton clusterIdLabel "c") }
  spec :=
    { providerSpec := some (.obj
        [("ignitionSecretName", .str "payload"),
         ("networkName", .str "net"),
         ("sourcePvcName", .str "disk")]) }

theorem Machine.ofJson?_worker :
    ofJson? (.obj
      [("metadata", .obj
        [("labels", .obj [(clusterIdLabel, .str "c")]),
         ("name", .str "worker"),
         ("namespace", .str "ns")]),
       ("spec", .obj [("providerSpec", .obj [("value", .obj
        [("ignitionSecretName", .str "payload"),
         ("networkName", .str "net"),
         ("sourcePvcName", .str "disk")])])])]) = some worker := rfl

end MachineActuator
