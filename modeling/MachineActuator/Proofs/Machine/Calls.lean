import Mathlib
import MachineActuator.Proofs.Machine.Likeness

/-! # Applying and cleaning up in two surroundings

A machine is applied, or cleaned up after, in two environments that are alike for it, each time
among others.  The results are the same; so is what the calls leave behind, but for the uid that a
new virtual machine gets and for the times of the clock (`Machine.alike_apply`,
`Machine.alike_cleanup`). -/

namespace MachineActuator

open InfraCluster (uid)
open Program (Only Ensures only_effect only_pure alike_pure)

/-! ### What calls begin and end with -/

/-- A machine that was read, with a name and no uid from `first` on, and its virtual machine, filed
under that name, if there is one. -/
structure Given (settings : Settings) (first : Nat) (m : Machine) (v₀ : Option VirtualMachine) :
    Prop where
  wellFormed : m.WellFormed
  name : m.metadata.displayName = m.metadata.name.getD ""
  below : m.NumberedBelow first
  filed : ∀ vm, v₀ = some vm → vm.metadata.ns.getD settings.infra.ns = settings.infra.ns ∧
    vm.metadata.displayName = m.metadata.name.getD ""

/-- The renumberings that take one new uid to another. -/
def Takes (first n₁ n₂ : Nat) (ρ : Equiv.Perm String) : Prop :=
  Renumbers first ρ ∧ ρ (uid n₁) = uid n₂

/-- What becomes of a machine and its virtual machine `v₀` on both sides: a virtual machine that was
there is the same on both sides, and where there was none, there is none or a new one. -/
inductive Outcome (first : Nat) (m : Machine) : Option VirtualMachine → Option VirtualMachine →
    Option VirtualMachine → Machine → Machine → Prop
  | there {vm : VirtualMachine} {v : Option VirtualMachine} {r₁ r₂ : Machine}
      (stored : StoredAlike (· = 1) r₁ r₂) : Outcome first m (some vm) v v r₁ r₂
  | absent : Outcome first m none none none m m
  | created {vm : VirtualMachine} {n₁ n₂ : Nat} {r₁ r₂ : Machine} (first₁ : first ≤ n₁)
      (first₂ : first ≤ n₂) (stored : StoredAlike (Takes first n₁ n₂) r₁ r₂) :
      Outcome first m none (some (vm.withUid (uid n₁))) (some (vm.withUid (uid n₂))) r₁ r₂

/-- Where nothing was written the machine has an outcome too. -/
theorem Outcome.unwritten (first : Nat) (m : Machine) {v₀ v : Option VirtualMachine}
    (hnone : v₀ = none → v = none) : Outcome first m v₀ v v m m := by
  cases v₀ with
  | none =>
    obtain rfl := hnone rfl
    exact .absent
  | some vm =>
    refine .there ?_
    rintro ρ rfl
    rw [Machine.renumbered_one]

/-- Calls with the same result, and environments in which the machine has an outcome. -/
def EndsAlike {α : Type} (settings : Settings) (m : Machine) (first : Nat)
    (v₀ : Option VirtualMachine) (a b : α) (env₁ env₂ : Environment) : Prop :=
  ∃ v₁ v₂ r₁ r₂, (a = b ∧ Outcome first m v₀ v₁ v₂ r₁ r₂) ∧
    Like settings m first v₁ v₂ r₁ r₂ env₁ env₂

variable {settings : Settings} {m : Machine} {first : Nat} {v₀ v₁ v₂ : Option VirtualMachine}
  {r₁ r₂ : Machine}

theorem kept_endsAlike {α : Type} (a b : α) :
    Kept (Undisturbed settings m) (EndsAlike settings m first v₀ a b) :=
  .exists fun _ => .exists fun _ => .exists fun _ => .exists fun _ => Like.kept.and _

theorem endsAlike_self {α : Type} (a : α) {v : Option VirtualMachine}
    (hnone : v₀ = none → v = none) {env₁ env₂ : Environment}
    (hlike : Like settings m first v v m m env₁ env₂) :
    EndsAlike settings m first v₀ a a env₁ env₂ :=
  ⟨v, v, m, m, ⟨rfl, .unwritten first m hnone⟩, hlike⟩

theorem alike_of_quiet {α : Type} {p : Program α} (hp : p.Only (Effect.Quiet settings m))
    (houtcome : Outcome first m v₀ v₁ v₂ r₁ r₂) :
    p.Alike (Undisturbed settings m) (Like settings m first v₁ v₂ r₁ r₂) p
      (EndsAlike settings m first v₀) := by
  refine (Ensures.alike Like.answers hp).imp ?_
  rintro a b env₁ env₂ ⟨rfl, -, hlike⟩
  exact ⟨v₁, v₂, r₁, r₂, ⟨rfl, houtcome⟩, hlike⟩

/-- Nor does what is quiet and goes on with the result of a call. -/
theorem alike_bind_quiet {α β : Type} {p : Program α} {f : α → Program β}
    {S : Environment → Environment → Prop}
    (hp : p.Alike (Undisturbed settings m) S p (EndsAlike settings m first v₀))
    (hf : ∀ a, (f a).Only (Effect.Quiet settings m)) :
    (p >>= f).Alike (Undisturbed settings m) S (p >>= f) (EndsAlike settings m first v₀) := by
  refine hp.bind fun a b => .of_exists fun v₁ => .of_exists fun v₂ => .of_exists fun r₁ =>
    .of_exists fun r₂ => .of_and ?_
  rintro ⟨rfl, houtcome⟩
  exact alike_of_quiet (hf a) houtcome

/-! ### Creating and updating -/

namespace Operation

theorem clusterId_ne_of_ofMachine {s : Scope} (h : Scope.ofMachine settings m = .ok s) :
    Scope.clusterId m ≠ "" := by
  intro hempty
  unfold Scope.ofMachine at h
  dsimp only at h
  rw [if_pos hempty] at h
  simp at h

theorem alike_tryCreate (hgiven : Given settings first m none) :
    (tryCreate settings m).Alike (Undisturbed settings m) (Like settings m first none none m m)
      (tryCreate settings m) (EndsAlike settings m first none) := by
  have hget (ns name : String) : Effect.Quiet settings m (.tenant (.getSecret ns name)) := trivial
  have hfailed (e : ControllerError) :
      (pure (.error e) : Program (Except ControllerError Unit)).Alike (Undisturbed settings m)
        (Like settings m first none none m m)
        (pure (.error e) : Program (Except ControllerError Unit))
        (EndsAlike settings m first none) :=
    alike_pure (kept_endsAlike _ _) fun _ _ hlike => endsAlike_self _ id hlike
  unfold tryCreate
  cases hscope : Scope.ofMachine settings m with
  | error e => exact hfailed e
  | ok s =>
    have hlabel := clusterId_ne_of_ofMachine hscope
    obtain ⟨rfl, rfl⟩ := Scope.eq_of_ofMachine hscope
    refine Only.alike_bind Like.answers (only_log (fun _ => trivial) _ _) fun _ => ?_
    refine (only_payload s (hget _ _)).alike_bind Like.answers fun result => ?_
    cases result with
    | error e => exact hfailed e
    | ok bytes =>
      refine (Lifecycle.alike_create bytes).bind fun a b => .of_exists fun v₁ =>
        .of_exists fun v₂ => .of_and ?_
      rintro (⟨e⟩ | @⟨vm, n₁, n₂, _, _, first₁, first₂, observed⟩)
      · exact (alike_persist_self _).bind fun _ _ => hfailed e
      · have hnew {n : Nat} (hn : first ≤ n) :
            StringMap.entry s.machine.metadata.annotations vmIdAnnotation ≠ some (uid n) :=
          fun hid => hgiven.below _ hid n hn rfl
        have hrenumbered (ρ : Equiv.Perm String) (hρ : Takes first n₁ n₂ ρ) :
            s.machine.renumbered ρ = s.machine := hgiven.below.renumbered hρ.1
        obtain ⟨e, rfl, rfl⟩ | ⟨vmi, providerId, ips, rfl, rfl⟩ := observed
        · refine (alike_persist_self _).bind fun _ _ =>
            alike_pure (kept_endsAlike _ _) fun _ _ hlike => ?_
          refine ⟨_, _, _, _, ⟨rfl, .created first₁ first₂ fun ρ hρ => ?_⟩, hlike⟩
          rw [hrenumbered ρ hρ]
        · have htwins : Twins (Takes first n₁ n₂) s.machine
              (s.synced (vm.withUid (uid n₁)) vmi providerId ips).machine
              (s.synced (vm.withUid (uid n₂)) vmi providerId ips).machine :=
            .of_synced hgiven.wellFormed (hnew first₁) (hnew first₂) hlabel
              fun ρ hρ => ⟨hrenumbered ρ hρ, hρ.2⟩
          refine (alike_persist hgiven.name _ htwins).imp ?_
          rintro a b env₁ env₂ ⟨r₁, r₂, ⟨rfl, hstored⟩, hlike⟩
          exact ⟨_, _, r₁, r₂, ⟨rfl, .created first₁ first₂ hstored⟩, hlike⟩

theorem alike_tryUpdate {vm : VirtualMachine} (hgiven : Given settings first m (some vm)) :
    (tryUpdate settings m).Alike (Undisturbed settings m)
      (Like settings m first (some vm) (some vm) m m) (tryUpdate settings m)
      (EndsAlike settings m first (some vm)) := by
  have hfailed (v : VirtualMachine) (e : ControllerError) :
      (pure (.error e) : Program (Except ControllerError Bool)).Alike (Undisturbed settings m)
        (Like settings m first (some v) (some v) m m)
        (pure (.error e) : Program (Except ControllerError Bool))
        (EndsAlike settings m first (some vm)) :=
    alike_pure (kept_endsAlike _ _) fun _ _ hlike => endsAlike_self _ (fun h => by simp at h) hlike
  unfold tryUpdate
  cases hscope : Scope.ofMachine settings m with
  | error e => exact hfailed vm e
  | ok s =>
    obtain ⟨rfl, rfl⟩ := Scope.eq_of_ofMachine hscope
    obtain ⟨hns, hname⟩ := hgiven.filed vm rfl
    refine Only.alike_bind Like.answers (only_log (fun _ => trivial) _ _) fun _ => ?_
    refine (Lifecycle.alike_update hns hname).bind fun a b => .of_exists fun after => .of_and ?_
    rintro ⟨rfl, hresult⟩
    cases a with
    | error e => exact (alike_persist_self _).bind fun _ _ => hfailed after e
    | ok pair =>
      obtain ⟨vm', vmi, providerId, ips, hsynced⟩ := hresult pair.1 pair.2 rfl
      have htwins : Twins (· = 1) s.machine pair.2.machine pair.2.machine := by
        rw [hsynced]
        exact .self hgiven.wellFormed
      refine (alike_persist hgiven.name _ htwins).bind fun a b => .of_exists fun r₁ =>
        .of_exists fun r₂ => .of_and ?_
      rintro ⟨rfl, hstored⟩
      cases a with
      | error e => exact alike_of_quiet (only_pure _) (.there hstored)
      | ok _ => exact alike_of_quiet (only_pure _) (.there hstored)

theorem only_quiet_reportFailure {α : Type} (action : MachineAction) (e : ControllerError) :
    (reportFailure m action e : Program (Except ControllerError α)).Only
      (Effect.Quiet settings m) :=
  only_reportFailure (fun _ => trivial) (fun _ => trivial) m action e

theorem alike_create (hgiven : Given settings first m none) :
    (create settings m).Alike (Undisturbed settings m) (Like settings m first none none m m)
      (create settings m) (EndsAlike settings m first none) := by
  have hpublish (event : MachineEvent) : Effect.Quiet settings m (.publish event) := trivial
  unfold create
  refine alike_bind_quiet (alike_tryCreate hgiven) fun a => ?_
  cases a with
  | ok _ => exact (only_effect (hpublish _)).bind fun _ => only_pure _
  | error e => exact only_quiet_reportFailure _ e

theorem alike_update {vm : VirtualMachine} (hgiven : Given settings first m (some vm)) :
    (update settings m).Alike (Undisturbed settings m)
      (Like settings m first (some vm) (some vm) m m) (update settings m)
      (EndsAlike settings m first (some vm)) := by
  have hpublish (event : MachineEvent) : Effect.Quiet settings m (.publish event) := trivial
  unfold update
  refine alike_bind_quiet (alike_tryUpdate hgiven) fun a => ?_
  cases a with
  | ok changed =>
    cases changed with
    | true => exact (only_effect (hpublish _)).bind fun _ => only_pure _
    | false => exact only_pure _
  | error e => exact only_quiet_reportFailure _ e

theorem alike_exists? (hname : m.metadata.displayName = m.metadata.name.getD "") :
    (exists? settings m).Alike (Undisturbed settings m) (Like settings m first v₀ v₀ r₁ r₂)
      (exists? settings m) fun a b env₁ env₂ =>
        (a = b ∧ ∀ found, a = .ok found → found = v₀.isSome) ∧
          Like settings m first v₀ v₀ r₁ r₂ env₁ env₂ := by
  unfold exists?
  dsimp only
  rw [hname]
  refine Only.alike_bind Like.answers (only_log (fun _ => trivial) _ _) fun _ => ?_
  refine Lifecycle.alike_exists?.bind fun a b => .of_and ?_
  rintro ⟨rfl, hfound⟩
  cases a with
  | ok found => exact alike_pure (Like.kept.and _) fun _ _ hlike => ⟨⟨rfl, hfound⟩, hlike⟩
  | error e =>
    have hreport : (reportFailure m .check e : Program (Except ControllerError Bool)).Ensures
        (Effect.Quiet settings m) fun result => result = .error e := by
      unfold reportFailure
      refine (only_log (fun _ => trivial) _ _).bind fun _ => ?_
      exact Only.bind (only_effect trivial) fun _ => Program.ensures_pure rfl
    refine (hreport.alike Like.answers).imp ?_
    rintro a b env₁ env₂ ⟨rfl, rfl, hlike⟩
    exact ⟨⟨rfl, fun found hfound => by simp at hfound⟩, hlike⟩

end Operation

/-! ### Applying and cleaning up -/

namespace Machine

/-- Applying a machine among others gives the same result on both sides, and leaves the machine with
an outcome. -/
theorem alike_apply (hgiven : Given settings first m v₀) :
    (apply settings m).Alike (Undisturbed settings m) (Like settings m first v₀ v₀ m m)
      (apply settings m) (EndsAlike settings m first v₀) := by
  unfold apply
  refine (Operation.alike_exists? hgiven.name).bind fun a b => .of_and ?_
  rintro ⟨rfl, hfound⟩
  cases a with
  | error e => exact alike_of_quiet (only_pure _) (.unwritten first m id)
  | ok found =>
    obtain rfl := hfound found rfl
    cases v₀ with
    | none =>
      refine alike_bind_quiet (Operation.alike_create hgiven) fun a => ?_
      cases a with
      | error e => exact only_pure _
      | ok _ => exact only_pure _
    | some vm =>
      refine alike_bind_quiet (Operation.alike_update hgiven) fun a => ?_
      cases a with
      | error e => exact only_pure _
      | ok _ => exact only_pure _

theorem alike_cleanup :
    (cleanup settings m).Alike (Undisturbed settings m) (Like settings m first v₀ v₀ m m)
      (cleanup settings m) (EndsAlike settings m first v₀) := by
  refine ((Ensures.alike (Like.answers_cleansUp v₀) (only_cleanup settings m)).of_imp
    fun env₁ env₂ hlike => ⟨v₀, id, hlike⟩).imp ?_
  rintro a b env₁ env₂ ⟨rfl, -, v, hnone, hlike⟩
  exact endsAlike_self a hnone hlike

end Machine

end MachineActuator
