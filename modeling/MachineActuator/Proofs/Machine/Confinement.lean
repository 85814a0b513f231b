import Mathlib
import MachineActuator.Proofs.Machine.TakingOver

/-! # What is observed does not change what is asked for

A sync writes into the same labels and annotations that a virtual machine is derived from.  Two
machines ask alike when they have one name, one provider specification and, outside the keys that a
sync writes, the same labels and annotations (`Machine.AsksAlike`).  Their derivations fail with the
same error, or give virtual machines that differ in nothing but these keys
(`Scope.AsksAlike.virtualMachine`).  A machine asks like itself after every sync
(`Scope.SyncedTo.asksAlike`), so that deriving once more after any number of them gives the same
description (`observed_state_confined`). -/

namespace MachineActuator

open StringMap (entry)

variable {settings : Settings}

/-! ### Maps that agree outside some keys -/

namespace StringMap

theorem get?_override {α : Type} (m other : StringMap α) (key : String) :
    (m.override other).get? key = (other.get? key).or (m.get? key) := by
  have hentries : (m.override other).entries =
      other.entries.foldl (fun fields e => Entries.insert e.1 e.2 fields) m.entries :=
    (List.foldl_hom entries fun _ _ => rfl).symm
  unfold get?
  rw [hentries]
  exact Entries.find?_foldl_insert other.sorted m.entries key

/-- The maps have the same entries, except under some keys.  One that is absent has none. -/
def AgreeOutside (keys : List String) (a b : Option (StringMap String)) : Prop :=
  ∀ key, key ∉ keys → entry a key = entry b key

variable {keys : List String} {a b c : Option (StringMap String)}

theorem AgreeOutside.refl (keys : List String) (a : Option (StringMap String)) :
    AgreeOutside keys a a := by
  intro key hkey
  rfl

theorem AgreeOutside.symm (h : AgreeOutside keys a b) : AgreeOutside keys b a := by
  intro key hkey
  exact (h key hkey).symm

theorem AgreeOutside.trans (hab : AgreeOutside keys a b) (hbc : AgreeOutside keys b c) :
    AgreeOutside keys a c := by
  intro key hkey
  exact (hab key hkey).trans (hbc key hkey)

/-- What one map is overridden by shows under the same keys. -/
theorem AgreeOutside.override (h : AgreeOutside keys a b) (m : StringMap String) :
    AgreeOutside keys (some (m.override (a.getD .empty))) (some (m.override (b.getD .empty))) := by
  intro key hkey
  have hentry : (a.getD .empty).get? key = (b.getD .empty).get? key := h key hkey
  change (m.override (a.getD .empty)).get? key = (m.override (b.getD .empty)).get? key
  rw [get?_override, get?_override, hentry]

end StringMap

open StringMap (AgreeOutside)

/-! ### Machines that ask alike -/

/-- The labels that a machine takes over. -/
def observedLabels : List String := [instanceTypeLabel]

/-- The annotations that a machine takes over. -/
def observedAnnotations : List String :=
  vmIdAnnotation :: instanceStateAnnotation :: []

/-- The objects have the same labels and annotations, except for those that are taken over. -/
structure ObjectMeta.MarkedAlike (a b : ObjectMeta) : Prop where
  labels : AgreeOutside observedLabels a.labels b.labels
  annotations : AgreeOutside observedAnnotations a.annotations b.annotations

namespace ObjectMeta.MarkedAlike

variable {a b c : ObjectMeta}

theorem symm (h : a.MarkedAlike b) : b.MarkedAlike a := ⟨h.labels.symm, h.annotations.symm⟩

theorem trans (hab : a.MarkedAlike b) (hbc : b.MarkedAlike c) : a.MarkedAlike c :=
  ⟨hab.labels.trans hbc.labels, hab.annotations.trans hbc.annotations⟩

end ObjectMeta.MarkedAlike

/-- The machines have the same name and provider specification, and the same labels and annotations
except for those that are taken over.  Their namespace, uid, version, provider id and status may be
any. -/
structure Machine.AsksAlike (m r : Machine) : Prop where
  name : m.metadata.name.getD "" = r.metadata.name.getD ""
  providerSpec : m.spec.providerSpec = r.spec.providerSpec
  metadata : m.metadata.MarkedAlike r.metadata

/-- The virtual machines are the same, except for labels and annotations that machines take
over. -/
structure VirtualMachine.DerivedAlike (a b : VirtualMachine) : Prop where
  spec : a.spec = b.spec
  metadata : a.metadata.MarkedAlike b.metadata
  others : { a.metadata with labels := b.metadata.labels, annotations := b.metadata.annotations } =
    b.metadata
  status : a.status = b.status

/-- Both fail with the same error, or both give something and the two are related. -/
inductive ResultsRelated {α : Type} (R : α → α → Prop) :
    Except ControllerError α → Except ControllerError α → Prop
  | failed (e : ControllerError) : ResultsRelated R (.error e) (.error e)
  | given {a b : α} (h : R a b) : ResultsRelated R (.ok a) (.ok b)

theorem ResultsRelated.bind {α β : Type} {R : α → α → Prop} {Q : β → β → Prop}
    {x y : Except ControllerError α} {f : α → Except ControllerError β} (h : ResultsRelated R x y)
    (hf : ∀ a b, R a b → ResultsRelated Q (f a) (f b)) :
    ResultsRelated Q (x.bind f) (y.bind f) := by
  cases h with
  | failed e => exact .failed e
  | given hab => exact hf _ _ hab

theorem ResultsRelated.of_ok {α : Type} {R : α → α → Prop} {a : α} {y : Except ControllerError α}
    (h : ResultsRelated R (.ok a) y) : ∃ b, y = .ok b ∧ R a b := by
  cases h with
  | given hab => exact ⟨_, rfl, hab⟩

namespace Machine.AsksAlike

variable {m r q : Machine}

theorem symm (h : m.AsksAlike r) : r.AsksAlike m :=
  ⟨h.name.symm, h.providerSpec.symm, h.metadata.symm⟩

theorem trans (hmr : m.AsksAlike r) (hrq : r.AsksAlike q) : m.AsksAlike q :=
  ⟨hmr.name.trans hrq.name, hmr.providerSpec.trans hrq.providerSpec,
    hmr.metadata.trans hrq.metadata⟩

/-- The label with the id of the cluster is not one that is taken over. -/
theorem clusterId (h : m.AsksAlike r) : Scope.clusterId m = Scope.clusterId r := by
  have hkey : clusterIdLabel ∉ observedLabels := by decide
  rw [Scope.clusterId_eq_entry, Scope.clusterId_eq_entry, h.metadata.labels _ hkey]

end Machine.AsksAlike

/-! ### Scopes that ask alike -/

namespace Scope

/-- The scopes are of machines that ask alike under the same settings. -/
structure AsksAlike (s t : Scope) : Prop where
  machine : s.machine.AsksAlike t.machine
  providerSpec : s.providerSpec = t.providerSpec
  settings : s.settings = t.settings

variable {s t u : Scope} {m r : Machine}

namespace AsksAlike

theorem trans (hst : s.AsksAlike t) (htu : t.AsksAlike u) : s.AsksAlike u :=
  ⟨hst.machine.trans htu.machine, hst.providerSpec.trans htu.providerSpec,
    hst.settings.trans htu.settings⟩

theorem name (h : s.AsksAlike t) : s.name = t.name := h.machine.name

theorem accessMode (h : s.AsksAlike t) : s.accessMode = t.accessMode := by
  unfold Scope.accessMode
  rw [h.name, h.providerSpec, h.settings]

theorem bootVolumeTemplate (h : s.AsksAlike t) (mode : String) :
    s.bootVolumeTemplate mode = t.bootVolumeTemplate mode := by
  unfold Scope.bootVolumeTemplate storageRequest infraNs
  rw [h.name, h.providerSpec, h.settings]

theorem instanceTemplate (h : s.AsksAlike t) : s.instanceTemplate = t.instanceTemplate := by
  unfold Scope.instanceTemplate guestRequests
  rw [h.name, h.providerSpec, h.settings]

/-- The labels of the machine go over the mark of ownership, each under its own key. -/
theorem vmLabels (h : s.AsksAlike t) :
    AgreeOutside observedLabels (some s.vmLabels) (some t.vmLabels) := by
  unfold Scope.vmLabels
  rw [h.settings]
  exact h.machine.metadata.labels.override _

theorem virtualMachineWith (h : s.AsksAlike t) (mode : String) :
    (s.virtualMachineWith mode).DerivedAlike (t.virtualMachineWith mode) where
  spec := by
    unfold Scope.virtualMachineWith
    rw [h.bootVolumeTemplate, h.instanceTemplate]
  metadata := ⟨h.vmLabels, h.machine.metadata.annotations⟩
  others := by
    unfold Scope.virtualMachineWith infraNs
    rw [h.name, h.settings]
  status := rfl

theorem virtualMachine (h : s.AsksAlike t) :
    ResultsRelated VirtualMachine.DerivedAlike s.virtualMachine t.virtualMachine := by
  unfold Scope.virtualMachine
  rw [h.name, h.providerSpec, h.accessMode]
  cases missingField? t.providerSpec with
  | some field => exact .failed _
  | none =>
    cases t.accessMode with
    | error e => exact .failed e
    | ok mode => exact .given (h.virtualMachineWith mode)

end AsksAlike

theorem resultsRelated_ofMachine (h : m.AsksAlike r) :
    ResultsRelated AsksAlike (ofMachine settings m) (ofMachine settings r) := by
  unfold ofMachine
  dsimp only
  rw [h.clusterId, h.name, h.providerSpec]
  split_ifs with hempty
  · exact .failed _
  · cases ProviderSpec.ofDocument? r.spec.providerSpec with
    | none => exact .failed _
    | some providerSpec => exact .given ⟨h, rfl, rfl⟩

/-! ### Syncs -/

/-- The scope `t` comes out of `s` by syncs, each with whatever was observed then and whatever
addresses the host was found to have. -/
inductive SyncedTo (s : Scope) : Scope → Prop
  | refl : SyncedTo s s
  | sync {t u : Scope} (earlier : SyncedTo s t) (env : Environment) (route : Route)
      (vm : VirtualMachine) (vmi : VirtualMachineInstance) (providerId : String)
      (hrun : (env.run route (t.sync vm vmi providerId)).1 = .ok u) : SyncedTo s u

/-- A sync writes under the keys that are taken over and no other. -/
theorem asksAlike_observed (hosts : String → List Ipv4) (s : Scope) (o : Observation) :
    s.AsksAlike (s.observed hosts o) := by
  have htaken := takenOver_observed hosts s o
  refine ⟨⟨rfl, rfl, ?_, ?_⟩, rfl, rfl⟩
  · intro key hkey
    have htype : key ≠ instanceTypeLabel := List.ne_of_not_mem_cons hkey
    exact (htaken.labels key fun h => absurd h htype).symm
  · intro key hkey
    have hvmId : key ≠ vmIdAnnotation := List.ne_of_not_mem_cons hkey
    have hstate : key ≠ instanceStateAnnotation :=
      List.ne_of_not_mem_cons (List.not_mem_of_not_mem_cons hkey)
    exact (htaken.annotations key hvmId hstate).symm

namespace SyncedTo

theorem asksAlike (h : s.SyncedTo t) : s.AsksAlike t := by
  induction h with
  | refl => exact ⟨⟨rfl, rfl, .refl _ _, .refl _ _⟩, rfl, rfl⟩
  | @sync t u earlier env route vm vmi providerId hrun ih =>
    -- a sync never fails, so what came out is the scope with the observation taken over
    obtain ⟨log, hsync⟩ := run_sync env route t ⟨vm, vmi, providerId⟩
    rw [hsync] at hrun
    obtain rfl : t.observed env.hosts ⟨vm, vmi, providerId⟩ = u := Except.ok.inj hrun
    exact ih.trans (asksAlike_observed _ _ _)

/-- The machine after the syncs has the scope after the syncs. -/
theorem ofMachine (h : s.SyncedTo t) (hs : Scope.ofMachine settings m = .ok s) :
    Scope.ofMachine settings t.machine = .ok t := by
  obtain ⟨rfl, -⟩ := eq_of_ofMachine hs
  have halike := h.asksAlike
  rw [ofMachine_congr hs halike.machine.providerSpec.symm halike.machine.clusterId.symm,
    halike.providerSpec, halike.settings]

end SyncedTo

end Scope

/-! ### Confinement -/

/-- The virtual machine that a machine asks for, if it has a scope. -/
def Machine.derived (settings : Settings) (m : Machine) : Except ControllerError VirtualMachine :=
  (Scope.ofMachine settings m).bind Scope.virtualMachine

theorem Machine.AsksAlike.derived {m r : Machine} (h : m.AsksAlike r) :
    ResultsRelated VirtualMachine.DerivedAlike (m.derived settings) (r.derived settings) :=
  (Scope.resultsRelated_ofMachine h).bind fun _ _ hscopes => hscopes.virtualMachine

/-- Machines that ask alike derive alike.  So does one of them after any number of syncs, be it from
the scope that was synced or from the machine read anew. -/
theorem observed_state_confined (settings : Settings) {m r : Machine} (h : m.AsksAlike r) :
    ResultsRelated VirtualMachine.DerivedAlike (m.derived settings) (r.derived settings) ∧
    ∀ s t, Scope.ofMachine settings m = .ok s → s.SyncedTo t →
      ResultsRelated VirtualMachine.DerivedAlike s.virtualMachine t.virtualMachine ∧
      ResultsRelated VirtualMachine.DerivedAlike t.virtualMachine (r.derived settings) ∧
      t.machine.derived settings = t.virtualMachine := by
  refine ⟨h.derived, ?_⟩
  intro s t hs hsynced
  have halike : s.AsksAlike t := hsynced.asksAlike
  have hagain : t.machine.derived settings = t.virtualMachine := by
    unfold Machine.derived
    rw [hsynced.ofMachine hs]
    rfl
  obtain ⟨rfl, -⟩ := Scope.eq_of_ofMachine hs
  have hother : t.machine.AsksAlike r := halike.machine.symm.trans h
  refine ⟨halike.virtualMachine, ?_, hagain⟩
  rw [← hagain]
  exact hother.derived

/-- A worker, and the same worker as it was written back after a sync, ask for virtual machines with
other labels and one description.  The first, synced with that guest and then with another one whose
host has no address any more, still asks for this description. -/
theorem observed_state_confined_worker :
    let settings : Settings := ⟨⟨"infra", "c"⟩, {}⟩
    let s : Scope :=
      { machine := .worker
        providerSpec :=
          { sourcePvcName := "disk", ignitionSecretName := "payload", networkName := "net" }
        settings }
    let written : Machine :=
      { metadata :=
          { Machine.worker.metadata with
            uid := some "m-1"
            resourceVersion := some "8"
            labels := withEntry Machine.worker.metadata.labels instanceTypeLabel "q35"
            annotations := withEntry none vmIdAnnotation "7" }
        spec := { Machine.worker.spec with providerId := some "kubevirt://infra/worker" }
        status := some { providerStatus := some (.obj []) } }
    let env : Environment := { hosts := fun _ => [⟨10, 0, 0, 1⟩], now := ⟨0, 0⟩ }
    let moved : Environment := { hosts := fun _ => [], now := ⟨60, 0⟩ }
    let guest : VirtualMachine :=
      { metadata := { uid := some "7" }, spec := { template := some {} } }
    let other : VirtualMachine := { metadata := { uid := some "9" } }
    ∃ (vm vm' vm'' : VirtualMachine) (t u : Scope),
      Machine.worker.derived settings = .ok vm ∧ written.derived settings = .ok vm' ∧
      (env.run .memory (s.sync guest {} "kubevirt://infra/worker")).1 = .ok t ∧
      (moved.run .memory (t.sync other {} "kubevirt://infra/worker")).1 = .ok u ∧
      u.machine.derived settings = .ok vm'' ∧
      vm.metadata.labels ≠ vm'.metadata.labels ∧ vm'.spec = vm.spec ∧ vm''.spec = vm.spec := by
  intro settings s written env moved guest other
  have hmarked : Machine.worker.metadata.MarkedAlike written.metadata := by
    constructor
    · intro key hkey
      have hne : key ≠ instanceTypeLabel := List.ne_of_not_mem_cons hkey
      exact ((entry_withEntry _ _ _ _).trans (if_neg hne)).symm
    · intro key hkey
      have hne : key ≠ vmIdAnnotation := List.ne_of_not_mem_cons hkey
      exact ((entry_withEntry _ _ _ _).trans (if_neg hne)).symm
  have hlike : Machine.worker.AsksAlike written := ⟨rfl, rfl, hmarked⟩
  obtain ⟨hderived, hsyncs⟩ := observed_state_confined settings hlike
  have hs : Scope.ofMachine settings .worker = .ok s := rfl
  have hvm : s.virtualMachine = .ok (s.virtualMachineWith "ReadWriteMany") := rfl
  have hworker : Machine.worker.derived settings = s.virtualMachine := rfl
  obtain ⟨log, hfirst⟩ := Scope.run_sync env .memory s ⟨guest, {}, "kubevirt://infra/worker"⟩
  have htaken := congrArg Prod.fst hfirst
  obtain ⟨log', hlast⟩ := Scope.run_sync moved .memory
    (s.observed env.hosts ⟨guest, {}, "kubevirt://infra/worker"⟩)
    ⟨other, {}, "kubevirt://infra/worker"⟩
  have hagain := congrArg Prod.fst hlast
  obtain ⟨hsame, -, hanew⟩ :=
    hsyncs s _ hs (.sync (.sync .refl env .memory _ _ _ htaken) moved .memory _ _ _ hagain)
  rw [hworker, hvm] at hderived
  rw [hvm] at hsame
  obtain ⟨vm', hvm', hwritten⟩ := hderived.of_ok
  obtain ⟨vm'', hvm'', hsynced⟩ := hsame.of_ok
  refine ⟨_, vm', vm'', _, _, hworker.trans hvm, hvm', htaken, hagain, hanew.trans hvm'', ?_,
    hwritten.spec.symm, hsynced.spec.symm⟩
  obtain rfl : ({ s with machine := written } : Scope).virtualMachineWith "ReadWriteMany" = vm' :=
    Except.ok.inj hvm'
  decide

end MachineActuator
