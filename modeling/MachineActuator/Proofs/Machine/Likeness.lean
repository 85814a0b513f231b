import Mathlib
import MachineActuator.Proofs.Cluster.Likeness
import MachineActuator.Proofs.Machine.Persist

/-! # One machine in two surroundings

The parts of an operation on a machine are run in two environments that are alike for it, each time
among others.  Most of what they ask for is answered alike.  A new virtual machine has one uid in
the one environment and another in the other (`Lifecycle.alike_create`), the machine takes over
each, and the patches that write it back differ in the copy of the uid and in the time
(`Operation.alike_persist`). -/

namespace MachineActuator

open Program (Only Ensures only_effect alike_pure alike_effect)

/-! ### The life of a virtual machine -/

namespace Lifecycle

open InfraCluster (uid)

section

variable {settings : Settings} {m : Machine} {first : Nat} {v v₁ v₂ : Option VirtualMachine}
  {r₁ r₂ : Machine}

theorem alike_stepFailed {α : Type}
    {Q : Except ControllerError α → Except ControllerError α → Environment → Environment → Prop}
    (hfailed : ∀ e env₁ env₂, Like settings m first v₁ v₂ r₁ r₂ env₁ env₂ →
      Q (.error e) (.error e) env₁ env₂)
    (machine : String) (action : MachineAction) (what : String) (source : ControllerError) :
    (stepFailed machine action what source).Alike (Undisturbed settings m)
      (Like settings m first v₁ v₂ r₁ r₂) (stepFailed machine action what source) Q := by
  have hlog (line : LogLine) : Effect.Quiet settings m (.log line) := trivial
  refine ((ensures_stepFailed (Q := fun r => ∃ e, r = .error e) hlog (fun e => ⟨e, rfl⟩) machine
    action what source).alike Like.answers).imp ?_
  rintro a b env₁ env₂ ⟨rfl, ⟨e, rfl⟩, hlike⟩
  exact hfailed e env₁ env₂ hlike

/-- Looking up a virtual machine that is the same in both. -/
theorem alike_getVirtualMachine :
    (Program.infra (.getVirtualMachine settings.infra.ns (m.metadata.name.getD ""))).Alike
      (Undisturbed settings m) (Like settings m first v v r₁ r₂)
      (Program.infra (.getVirtualMachine settings.infra.ns (m.metadata.name.getD "")))
      fun a b env₁ env₂ =>
        (a = b ∧ (a = orNotFound "VirtualMachine" settings.infra.ns (m.metadata.name.getD "") v ∨
          ∃ text, a = .error (.api text))) ∧ Like settings m first v v r₁ r₂ env₁ env₂ := by
  refine alike_effect Like.kept (fun a b => Like.kept.and _) fun env₁ env₂ hlike => ?_
  obtain ⟨hanswer, hresult, hinfra⟩ := hlike.infra.answer_getVirtualMachine
  exact ⟨⟨hanswer, hresult⟩, { hlike with infra := hinfra }⟩

/-- Whether a virtual machine that is the same in both exists is found out alike, unless the call is
made to fail. -/
theorem alike_exists? :
    (exists? (m.metadata.name.getD "") settings.infra.ns).Alike (Undisturbed settings m)
      (Like settings m first v v r₁ r₂) (exists? (m.metadata.name.getD "") settings.infra.ns)
      fun a b env₁ env₂ => (a = b ∧ ∀ found, a = .ok found → found = v.isSome) ∧
        Like settings m first v v r₁ r₂ env₁ env₂ := by
  have hlog (level : LogLevel) (text : String) :
      (Program.log level text).Only (Effect.Quiet settings m) :=
    only_log (fun _ => trivial) level text
  have hkept (a b : Except ControllerError Bool) : Kept (Undisturbed settings m) fun env₁ env₂ =>
      (a = b ∧ ∀ found, a = .ok found → found = v.isSome) ∧
        Like settings m first v v r₁ r₂ env₁ env₂ := Like.kept.and _
  unfold exists?
  refine (hlog _ _).alike_bind Like.answers fun _ => ?_
  refine alike_getVirtualMachine.bind fun a b => .of_and ?_
  rintro ⟨rfl, rfl | ⟨text, rfl⟩⟩
  · cases v with
    | some vm =>
      refine alike_pure (hkept _ _) fun _ _ hlike => ⟨⟨rfl, fun found hfound => ?_⟩, hlike⟩
      exact (Except.ok.inj hfound).symm
    | none =>
      refine (hlog _ _).alike_bind Like.answers fun _ => ?_
      refine alike_pure (hkept _ _) fun _ _ hlike => ⟨⟨rfl, fun found hfound => ?_⟩, hlike⟩
      exact (Except.ok.inj hfound).symm
  · refine alike_stepFailed (fun e _ _ hlike => ⟨⟨rfl, fun found hfound => ?_⟩, hlike⟩) _ _ _ _
    simp at hfound

end

variable {s : Scope} {first : Nat} {v₁ v₂ : Option VirtualMachine} {r₁ r₂ : Machine}

/-- Both results are the same error, or the scope has taken over the one virtual machine and the
other, each with the same instance and addresses. -/
def TookOverEach (s : Scope) (vm₁ vm₂ : VirtualMachine) (a b : Except ControllerError Scope) :
    Prop :=
  (∃ e, a = .error e ∧ b = .error e) ∨
    ∃ vmi providerId ips, a = .ok (s.synced vm₁ vmi providerId ips) ∧
      b = .ok (s.synced vm₂ vmi providerId ips)

variable {vm₁ vm₂ : VirtualMachine}

theorem alike_sync (hstatus : vm₁.observedStatus = vm₂.observedStatus)
    (vmi : VirtualMachineInstance) (providerId : String) :
    (s.sync vm₁ vmi providerId).Alike (Undisturbed s.settings s.machine)
      (Like s.settings s.machine first v₁ v₂ r₁ r₂) (s.sync vm₂ vmi providerId)
      fun a b env₁ env₂ =>
        (∃ ips, a = .ok (s.synced vm₁ vmi providerId ips) ∧
          b = .ok (s.synced vm₂ vmi providerId ips)) ∧
          Like s.settings s.machine first v₁ v₂ r₁ r₂ env₁ env₂ := by
  have hlog (level : LogLevel) (text : String) :
      (Program.log level text).Only (Effect.Quiet s.settings s.machine) :=
    only_log (fun _ => trivial) level text
  have hid : (s.logProviderId providerId).Only (Effect.Quiet s.settings s.machine) := by
    unfold Scope.logProviderId
    split_ifs
    · exact hlog _ _
    · exact hlog _ _
  have hresolve (host : String) : Effect.Quiet s.settings s.machine (.resolve host) := trivial
  unfold Scope.sync
  rw [hstatus]
  refine hid.alike_bind Like.answers fun _ => ?_
  refine (hlog _ _).alike_bind Like.answers fun _ => ?_
  refine Only.alike_bind Like.answers (only_effect (hresolve _)) fun ips => ?_
  refine (hlog _ _).alike_bind Like.answers fun _ => ?_
  exact alike_pure (Like.kept.and _) fun _ _ hlike => ⟨⟨ips, rfl, rfl⟩, hlike⟩

theorem alike_observe (hns₁ : vm₁.metadata.ns.getD s.infraNs = s.infraNs)
    (hns₂ : vm₂.metadata.ns.getD s.infraNs = s.infraNs)
    (hname₁ : vm₁.metadata.displayName = s.name) (hname₂ : vm₂.metadata.displayName = s.name)
    (hstatus : vm₁.observedStatus = vm₂.observedStatus) (action : MachineAction) :
    (observe Scope.sync s vm₁ action).Alike (Undisturbed s.settings s.machine)
      (Like s.settings s.machine first v₁ v₂ r₁ r₂) (observe Scope.sync s vm₂ action)
      fun a b env₁ env₂ => TookOverEach s vm₁ vm₂ a b ∧
        Like s.settings s.machine first v₁ v₂ r₁ r₂ env₁ env₂ := by
  have hinstance : Effect.Quiet s.settings s.machine (.infra (.getInstance s.infraNs s.name)) :=
    ⟨rfl, rfl⟩
  unfold observe
  dsimp only
  rw [hns₁, hns₂, hname₁, hname₂]
  refine Only.alike_bind Like.answers (only_effect hinstance) fun answer => ?_
  cases answer with
  | error e => exact alike_stepFailed (fun e _ _ hlike => ⟨.inl ⟨e, rfl, rfl⟩, hlike⟩) _ _ _ _
  | ok vmi =>
    refine (alike_sync hstatus vmi _).bind fun a b => .of_and ?_
    rintro ⟨ips, rfl, rfl⟩
    exact alike_pure (Like.kept.and _) fun _ _ hlike => ⟨.inr ⟨vmi, _, ips, rfl, rfl⟩, hlike⟩

/-- Creating a virtual machine fails on both sides, or gives virtual machines alike but for uids
from `first` on. -/
def CreatedEach {ε : Type} (s : Scope) (first : Nat) (r₁ r₂ : Machine)
    (a b : Except ε VirtualMachine) (env₁ env₂ : Environment) : Prop :=
  (∃ e, (a = .error e ∧ b = .error e) ∧
    Like s.settings s.machine first none none r₁ r₂ env₁ env₂) ∨
  ∃ (vm : VirtualMachine) (n₁ n₂ : Nat),
    ((first ≤ n₁ ∧ first ≤ n₂ ∧ vm.metadata.ns = some s.infraNs ∧ vm.metadata.name = some s.name) ∧
      a = .ok (vm.withUid (uid n₁)) ∧ b = .ok (vm.withUid (uid n₂))) ∧
    Like s.settings s.machine first (some (vm.withUid (uid n₁))) (some (vm.withUid (uid n₂))) r₁ r₂
      env₁ env₂

theorem kept_createdEach {ε : Type} (a b : Except ε VirtualMachine) :
    Kept (Undisturbed s.settings s.machine) (CreatedEach s first r₁ r₂ a b) :=
  (Kept.exists fun _ => Like.kept.and _).or
    (.exists fun _ => .exists fun _ => .exists fun _ => Like.kept.and _)

theorem alike_createVm {vm : VirtualMachine} (hvm : vm.metadata.name = some s.name) :
    (createVm s vm).Alike (Undisturbed s.settings s.machine)
      (Like s.settings s.machine first none none r₁ r₂) (createVm s vm)
      (CreatedEach s first r₁ r₂) := by
  have hcreate : (Program.infra (.createVirtualMachine s.infraNs vm)).Alike
      (Undisturbed s.settings s.machine) (Like s.settings s.machine first none none r₁ r₂)
      (Program.infra (.createVirtualMachine s.infraNs vm)) (CreatedEach s first r₁ r₂) := by
    refine alike_effect Like.kept kept_createdEach fun env₁ env₂ hlike => ?_
    obtain ⟨e, ha, hb, hinfra⟩ | ⟨new, n₁, n₂, hnew, ha, hb, hinfra⟩ :=
      hlike.infra.answer_createVirtualMachine hvm
    · exact .inl ⟨e, ⟨ha, hb⟩, { hlike with infra := hinfra }⟩
    · exact .inr ⟨new, n₁, n₂, ⟨hnew, ha, hb⟩,
        ⟨hinfra, hlike.tenant, hlike.hosts, hlike.now₁, hlike.now₂⟩⟩
  unfold createVm
  refine hcreate.bind fun a b => .of_or (.of_exists fun e => .of_and ?_)
    (.of_exists fun new => .of_exists fun n₁ => .of_exists fun n₂ => .of_and ?_)
  · rintro ⟨rfl, rfl⟩
    exact alike_stepFailed (fun e _ _ hlike => .inl ⟨e, ⟨rfl, rfl⟩, hlike⟩) _ _ _ _
  · rintro ⟨hnew, rfl, rfl⟩
    refine Only.alike_bind Like.answers (only_log (fun _ => trivial) _ _) fun _ => ?_
    exact alike_pure (kept_createdEach _ _) fun _ _ hlike =>
      .inr ⟨new, n₁, n₂, ⟨hnew, rfl, rfl⟩, hlike⟩

/-- What creating the virtual machine of a machine comes to on both sides: there is none, or there
are two alike but for uids from `first` on, and the scope has taken over each, or the same error
came up. -/
inductive Begun (first : Nat) (s : Scope) : Option VirtualMachine → Option VirtualMachine →
    Except ControllerError Scope → Except ControllerError Scope → Prop
  | failed (e : ControllerError) : Begun first s none none (.error e) (.error e)
  | created {vm : VirtualMachine} {n₁ n₂ : Nat} {a b : Except ControllerError Scope}
      (first₁ : first ≤ n₁) (first₂ : first ≤ n₂)
      (observed : TookOverEach s (vm.withUid (uid n₁)) (vm.withUid (uid n₂)) a b) :
      Begun first s (some (vm.withUid (uid n₁))) (some (vm.withUid (uid n₂))) a b

/-- Creating comes to something on both sides, and the environments stay alike. -/
def BegunAlike (first : Nat) (s : Scope) (r₁ r₂ : Machine) (a b : Except ControllerError Scope)
    (env₁ env₂ : Environment) : Prop :=
  ∃ v₁ v₂, Begun first s v₁ v₂ a b ∧ Like s.settings s.machine first v₁ v₂ r₁ r₂ env₁ env₂

theorem kept_begunAlike (a b : Except ControllerError Scope) :
    Kept (Undisturbed s.settings s.machine) (BegunAlike first s r₁ r₂ a b) :=
  .exists fun _ => .exists fun _ => Like.kept.and _

theorem begunAlike_error (e : ControllerError) (env₁ env₂ : Environment)
    (hlike : Like s.settings s.machine first none none r₁ r₂ env₁ env₂) :
    BegunAlike first s r₁ r₂ (.error e) (.error e) env₁ env₂ :=
  ⟨none, none, .failed e, hlike⟩

theorem alike_create (bytes : ByteArray) :
    (create Scope.sync s bytes).Alike (Undisturbed s.settings s.machine)
      (Like s.settings s.machine first none none r₁ r₂) (create Scope.sync s bytes)
      (BegunAlike first s r₁ r₂) := by
  unfold create
  cases Payload.addHostname bytes s.name with
  | error e => exact alike_stepFailed begunAlike_error _ _ _ _
  | ok payload =>
    have hsecret : Effect.Quiet s.settings s.machine
        (.infra (.createSecret s.infraNs (s.ignitionSecret payload))) := ⟨rfl, rfl⟩
    refine (only_ensureSecret (fun _ => trivial) s hsecret).alike_bind Like.answers fun result => ?_
    cases result with
    | error e => exact alike_pure (kept_begunAlike _ _) (begunAlike_error e)
    | ok _ =>
      dsimp only
      cases hvm : s.virtualMachine with
      | error e => exact alike_stepFailed begunAlike_error _ _ _ _
      | ok vm =>
        obtain ⟨-, mode, -, rfl⟩ := Scope.virtualMachine_eq_ok_iff.mp hvm
        refine (alike_createVm rfl).bind fun a b => .of_or (.of_exists fun e => .of_and ?_)
          (.of_exists fun new => .of_exists fun n₁ => .of_exists fun n₂ => .of_and ?_)
        · rintro ⟨rfl, rfl⟩
          exact alike_pure (kept_begunAlike _ _) (begunAlike_error e)
        · rintro ⟨⟨first₁, first₂, hns, hname⟩, rfl, rfl⟩
          have hns (n : Nat) :
              (new.withUid (uid n)).metadata.ns.getD s.infraNs = s.infraNs := by
            rw [show (new.withUid (uid n)).metadata.ns = some s.infraNs from hns, Option.getD_some]
          have hname (n : Nat) : (new.withUid (uid n)).metadata.displayName = s.name :=
            ObjectMeta.displayName_of_name hname
          refine (alike_observe (hns n₁) (hns n₂) (hname n₁) (hname n₂) rfl _).imp ?_
          rintro a b env₁ env₂ ⟨hobserved, hlike⟩
          exact ⟨_, _, .created first₁ first₂ hobserved, hlike⟩

/-! Updating: the virtual machine is there from the beginning, so it is looked up and replaced
alike, and the clock is not asked. -/

/-- Updating has the same result on both sides, and the virtual machine is the same afterwards. -/
def UpdatedAlike (first : Nat) (s : Scope) (r₁ r₂ : Machine)
    (a b : Except ControllerError (Bool × Scope)) (env₁ env₂ : Environment) : Prop :=
  ∃ after, (a = b ∧ TookOverAfter s a) ∧
    Like s.settings s.machine first (some after) (some after) r₁ r₂ env₁ env₂

theorem kept_updatedAlike (a b : Except ControllerError (Bool × Scope)) :
    Kept (Undisturbed s.settings s.machine) (UpdatedAlike first s r₁ r₂ a b) :=
  .exists fun _ => Like.kept.and _

theorem updatedAlike_error {after : VirtualMachine} (e : ControllerError) (env₁ env₂ : Environment)
    (hlike : Like s.settings s.machine first (some after) (some after) r₁ r₂ env₁ env₂) :
    UpdatedAlike first s r₁ r₂ (.error e) (.error e) env₁ env₂ :=
  ⟨after, ⟨rfl, fun _ _ h => by simp at h⟩, hlike⟩

theorem alike_replace {stored desired : VirtualMachine}
    (hdesired : desired.metadata.name = some s.name)
    (hns : stored.metadata.ns.getD s.infraNs = s.infraNs)
    (hname : stored.metadata.displayName = s.name) :
    (replace Scope.sync s desired stored).Alike (Undisturbed s.settings s.machine)
      (Like s.settings s.machine first (some stored) (some stored) r₁ r₂)
      (replace Scope.sync s desired stored) (UpdatedAlike first s r₁ r₂) := by
  have hupdate :
      (Program.infra (.updateVirtualMachine s.infraNs (replacement desired stored))).Alike
      (Undisturbed s.settings s.machine)
      (Like s.settings s.machine first (some stored) (some stored) r₁ r₂)
      (Program.infra (.updateVirtualMachine s.infraNs (replacement desired stored)))
      fun a b env₁ env₂ => ∃ after, (a = b ∧ ∀ updated, a = .ok updated →
          updated.metadata.ns = stored.metadata.ns ∧
            updated.metadata.displayName = stored.metadata.displayName) ∧
        Like s.settings s.machine first (some after) (some after) r₁ r₂ env₁ env₂ := by
    refine alike_effect Like.kept (fun _ _ => .exists fun _ => Like.kept.and _)
      fun env₁ env₂ hlike => ?_
    have hreplacement : (replacement desired stored).metadata.name = some s.name := hdesired
    obtain ⟨hanswer, hupdated, after, hinfra⟩ :=
      hlike.infra.answer_updateVirtualMachine hreplacement
    exact ⟨after, ⟨hanswer, hupdated⟩,
      ⟨hinfra, hlike.tenant, hlike.hosts, hlike.now₁, hlike.now₂⟩⟩
  unfold replace
  refine hupdate.bind fun a b => .of_exists fun after => .of_and ?_
  rintro ⟨rfl, hupdated⟩
  cases a with
  | error e => exact alike_stepFailed updatedAlike_error _ _ _ _
  | ok updated =>
    obtain ⟨hns', hname'⟩ := hupdated updated rfl
    refine Only.alike_bind Like.answers (only_log (fun _ => trivial) _ _) fun _ => ?_
    refine (alike_observe (hns' ▸ hns) (hns' ▸ hns) (hname'.trans hname) (hname'.trans hname) rfl
      _).bind fun a b => .of_and ?_
    rintro (⟨e, rfl, rfl⟩ | ⟨vmi, providerId, ips, rfl, rfl⟩)
    · exact alike_pure (kept_updatedAlike _ _) (updatedAlike_error e)
    · refine alike_pure (kept_updatedAlike _ _) fun _ _ hlike => ⟨after, ⟨rfl, ?_⟩, hlike⟩
      intro changed s' hs'
      exact ⟨updated, vmi, providerId, ips, (Prod.mk.inj (Except.ok.inj hs')).2.symm⟩

theorem alike_update {stored : VirtualMachine}
    (hns : stored.metadata.ns.getD s.infraNs = s.infraNs)
    (hname : stored.metadata.displayName = s.name) :
    (update Scope.sync s).Alike (Undisturbed s.settings s.machine)
      (Like s.settings s.machine first (some stored) (some stored) r₁ r₂)
      (update Scope.sync s) (UpdatedAlike first s r₁ r₂) := by
  unfold update
  cases hvm : s.virtualMachine with
  | error e => exact alike_stepFailed updatedAlike_error _ _ _ _
  | ok desired =>
    obtain ⟨-, mode, -, rfl⟩ := Scope.virtualMachine_eq_ok_iff.mp hvm
    have hdesired := Scope.displayName_of_virtualMachine hvm
    dsimp only
    rw [hdesired]
    refine alike_getVirtualMachine.bind fun a b => .of_and ?_
    rintro ⟨rfl, rfl | ⟨text, rfl⟩⟩
    · exact alike_replace rfl hns hname
    · exact alike_stepFailed updatedAlike_error _ _ _ _

end Lifecycle

/-! ### Writing back -/

namespace Operation

variable {settings : Settings} {m after₁ after₂ r₁ r₁' r₂ r₂' : Machine} {first : Nat}
  {v₁ v₂ : Option VirtualMachine} {P : Equiv.Perm String → Prop} {patch₁ patch₂ : Json}

/-- Sending a patch fails on both sides, or the stored machines `r₁` and `r₂` become `r₁'` and
`r₂'`. -/
def SentEach (settings : Settings) (m : Machine) (first : Nat) (v₁ v₂ : Option VirtualMachine)
    (r₁ r₂ r₁' r₂' : Machine) (a b : Except ClientError Machine) (env₁ env₂ : Environment) : Prop :=
  (∃ e, (a = .error e ∧ b = .error e) ∧ Like settings m first v₁ v₂ r₁ r₂ env₁ env₂) ∨
    (a = .ok r₁' ∧ b = .ok r₂') ∧ Like settings m first v₁ v₂ r₁' r₂' env₁ env₂

theorem kept_sentEach (a b : Except ClientError Machine) :
    Kept (Undisturbed settings m) (SentEach settings m first v₁ v₂ r₁ r₂ r₁' r₂' a b) :=
  (Kept.exists fun _ => Like.kept.and _).or (Like.kept.and _)

theorem alike_sendPatch (h₁ : Machine.ofJson? (r₁.toJson.mergePatch patch₁) = some r₁')
    (h₂ : Machine.ofJson? (r₂.toJson.mergePatch patch₂) = some r₂') :
    (Program.tenant (.patchMachine (m.metadata.ns.getD "") (m.metadata.name.getD "") patch₁)).Alike
      (Undisturbed settings m) (Like settings m first v₁ v₂ r₁ r₂)
      (Program.tenant (.patchMachine (m.metadata.ns.getD "") (m.metadata.name.getD "") patch₂))
      (SentEach settings m first v₁ v₂ r₁ r₂ r₁' r₂') := by
  refine alike_effect Like.kept kept_sentEach fun env₁ env₂ hlike => ?_
  obtain ⟨e, ha, hb, htenant⟩ | ⟨ha, hb, htenant⟩ := hlike.tenant.answer_patchMachine h₁ h₂
  · exact .inl ⟨e, ⟨ha, hb⟩, { hlike with tenant := htenant }⟩
  · exact .inr ⟨⟨ha, hb⟩, ⟨hlike.infra, htenant, hlike.hosts, hlike.now₁, hlike.now₂⟩⟩

theorem alike_sendStatusPatch (h₁ : Machine.ofJson? (r₁.toJson.mergePatch patch₁) = some r₁')
    (h₂ : Machine.ofJson? (r₂.toJson.mergePatch patch₂) = some r₂') :
    (Program.tenant
      (.patchMachineStatus (m.metadata.ns.getD "") (m.metadata.name.getD "") patch₁)).Alike
      (Undisturbed settings m) (Like settings m first v₁ v₂ r₁ r₂)
      (Program.tenant
        (.patchMachineStatus (m.metadata.ns.getD "") (m.metadata.name.getD "") patch₂))
      (SentEach settings m first v₁ v₂ r₁ r₂ r₁' r₂') := by
  refine alike_effect Like.kept kept_sentEach fun env₁ env₂ hlike => ?_
  obtain ⟨e, ha, hb, htenant⟩ | ⟨ha, hb, htenant⟩ := hlike.tenant.answer_patchMachineStatus h₁ h₂
  · exact .inl ⟨e, ⟨ha, hb⟩, { hlike with tenant := htenant }⟩
  · exact .inr ⟨⟨ha, hb⟩, ⟨hlike.infra, htenant, hlike.hosts, hlike.now₁, hlike.now₂⟩⟩

/-- Writing back a machine has the same result on both sides, and what is stored is alike. -/
def PersistedAlike (settings : Settings) (m : Machine) (first : Nat) (v₁ v₂ : Option VirtualMachine)
    (P : Equiv.Perm String → Prop) (a b : Except ControllerError Unit) (env₁ env₂ : Environment) :
    Prop :=
  ∃ r₁ r₂, (a = b ∧ StoredAlike P r₁ r₂) ∧ Like settings m first v₁ v₂ r₁ r₂ env₁ env₂

theorem kept_persistedAlike (a b : Except ControllerError Unit) :
    Kept (Undisturbed settings m) (PersistedAlike settings m first v₁ v₂ P a b) :=
  .exists fun _ => .exists fun _ => Like.kept.and _

variable (hname : m.metadata.displayName = m.metadata.name.getD "") (action : MachineAction)

include hname

theorem alike_patchMachine (htwins : Twins P m after₁ after₂) :
    (patchMachine m after₁ action).Alike (Undisturbed settings m)
      (Like settings m first v₁ v₂ m m) (patchMachine m after₂ action) fun a b env₁ env₂ =>
        (∃ e, (a = .error e ∧ b = .error e) ∧ Like settings m first v₁ v₂ m m env₁ env₂) ∨
        ∃ r₁ r₂, (a = .ok () ∧ b = .ok () ∧ WrittenAlike P m r₁ r₂) ∧
          Like settings m first v₁ v₂ r₁ r₂ env₁ env₂ := by
  have hkept (a b : Except ControllerError Unit) : Kept (Undisturbed settings m) fun env₁ env₂ =>
      (∃ e, (a = .error e ∧ b = .error e) ∧ Like settings m first v₁ v₂ m m env₁ env₂) ∨
      ∃ r₁ r₂, (a = .ok () ∧ b = .ok () ∧ WrittenAlike P m r₁ r₂) ∧
        Like settings m first v₁ v₂ r₁ r₂ env₁ env₂ :=
    (Kept.exists fun _ => Like.kept.and _).or (.exists fun _ => .exists fun _ => Like.kept.and _)
  obtain ⟨r₁, r₂, hr₁, hr₂, hwritten⟩ := htwins.written
  have hsent := htwins.sent
  unfold patchMachine
  cases hpatch₁ : Machine.patch? m after₁ with
  | none =>
    rw [hpatch₁] at hsent
    have hpatch₂ := Option.isNone_iff_eq_none.mp (Option.isSome_eq_false_iff.mp hsent.symm)
    rw [hpatch₂]
    obtain rfl := hr₁.of_none hpatch₁
    obtain rfl := hr₂.of_none hpatch₂
    exact alike_pure (hkept _ _) fun _ _ hlike => .inr ⟨_, _, ⟨rfl, rfl, hwritten⟩, hlike⟩
  | some patch₁ =>
    rw [hpatch₁] at hsent
    obtain ⟨patch₂, hpatch₂⟩ := Option.isSome_iff_exists.mp hsent.symm
    rw [hpatch₂]
    dsimp only
    rw [htwins.key₁.1, htwins.key₁.2, htwins.key₂.1, htwins.key₂.2, hname]
    refine (alike_sendPatch (hr₁.of_some hpatch₁) (hr₂.of_some hpatch₂)).bind fun a b =>
      .of_or (.of_exists fun e => .of_and ?_) (.of_and ?_)
    · rintro ⟨rfl, rfl⟩
      exact alike_pure (hkept _ _) fun _ _ hlike => .inl ⟨_, ⟨rfl, rfl⟩, hlike⟩
    · rintro ⟨rfl, rfl⟩
      exact alike_pure (hkept _ _) fun _ _ hlike => .inr ⟨r₁, r₂, ⟨rfl, rfl, hwritten⟩, hlike⟩

/-- The two times at which the status is written go into the stamps. -/
theorem alike_patchStatus (htwins : Twins P m after₁ after₂) (hwritten : WrittenAlike P m r₁ r₂)
    {now₁ now₂ : Instant} (hnow₁ : now₁.Valid) (hnow₂ : now₂.Valid) :
    (patchStatus m after₁ action now₁).Alike (Undisturbed settings m)
      (Like settings m first v₁ v₂ r₁ r₂) (patchStatus m after₂ action now₂)
      (PersistedAlike settings m first v₁ v₂ P) := by
  obtain ⟨status, hs₁⟩ := htwins.document
  have hs₂ : (after₂.status.getD {}).providerStatus = some status.toJson := by
    rw [htwins.status, hs₁]
  have hsent : Machine.statusPatch? m after₁ now₁ = none ↔
      Machine.statusPatch? m after₂ now₂ = none := by
    rw [Machine.statusPatch?_eq_none_iff hs₁, Machine.statusPatch?_eq_none_iff hs₂, htwins.status]
  unfold patchStatus
  cases hpatch₁ : Machine.statusPatch? m after₁ now₁ with
  | none =>
    rw [hsent.mp hpatch₁]
    exact alike_pure (kept_persistedAlike _ _) fun _ _ hlike =>
      ⟨r₁, r₂, ⟨rfl, hwritten.stored⟩, hlike⟩
  | some patch₁ =>
    obtain ⟨patch₂, hpatch₂⟩ := Option.ne_none_iff_exists'.mp
      fun h => absurd (hsent.mpr h) (by rw [hpatch₁]; simp)
    have hr₁ := Machine.ofJson?_statusPatch hwritten.wellFormed₁.metadata
      hwritten.wellFormed₁.providerSpec_ne_null hwritten.status₁ hs₁ hnow₁ hpatch₁
    have hr₂ := Machine.ofJson?_statusPatch hwritten.wellFormed₂.metadata
      hwritten.wellFormed₂.providerSpec_ne_null hwritten.status₂ hs₂ hnow₂ hpatch₂
    rw [hpatch₂]
    dsimp only
    rw [htwins.key₁.1, htwins.key₁.2, htwins.key₂.1, htwins.key₂.2, hname]
    refine (alike_sendStatusPatch hr₁ hr₂).bind fun a b =>
      .of_or (.of_exists fun e => .of_and ?_) (.of_and ?_)
    · rintro ⟨rfl, rfl⟩
      exact alike_pure (kept_persistedAlike _ _) fun _ _ hlike =>
        ⟨r₁, r₂, ⟨rfl, hwritten.stored⟩, hlike⟩
    · rintro ⟨rfl, rfl⟩
      refine alike_pure (kept_persistedAlike _ _) fun _ _ hlike => ⟨_, _, ⟨rfl, ?_⟩, hlike⟩
      intro ρ hρ
      rw [hwritten.renumbered ρ hρ, htwins.status]
      rfl

theorem alike_persist (htwins : Twins P m after₁ after₂) :
    (persist m after₁ action).Alike (Undisturbed settings m)
      (Like settings m first v₁ v₂ m m) (persist m after₂ action)
      (PersistedAlike settings m first v₁ v₂ P) := by
  have hnow {r₁ r₂ : Machine} : Program.now.Alike (Undisturbed settings m)
      (Like settings m first v₁ v₂ r₁ r₂) Program.now fun a b env₁ env₂ =>
        (a.Valid ∧ b.Valid) ∧ Like settings m first v₁ v₂ r₁ r₂ env₁ env₂ :=
    alike_effect Like.kept (fun _ _ => Like.kept.and _) fun _ _ hlike =>
      ⟨⟨hlike.now₁, hlike.now₂⟩, hlike⟩
  unfold persist
  rw [htwins.key₁.2, htwins.key₂.2]
  refine Only.alike_bind Like.answers (only_log (fun _ => trivial) _ _) fun _ => ?_
  refine (alike_patchMachine hname action htwins).bind fun a b =>
    .of_or (.of_exists fun e => .of_and ?_) (.of_exists fun r₁ => .of_exists fun r₂ => .of_and ?_)
  · rintro ⟨rfl, rfl⟩
    refine alike_pure (kept_persistedAlike _ _) fun _ _ hlike => ⟨m, m, ⟨rfl, ?_⟩, hlike⟩
    exact fun ρ hρ => congrArg Machine.unstamped (htwins.unwritten ρ hρ).symm
  · rintro ⟨rfl, rfl, hwritten⟩
    refine hnow.bind fun now₁ now₂ => .of_and ?_
    rintro ⟨hnow₁, hnow₂⟩
    exact alike_patchStatus hname action htwins hwritten hnow₁ hnow₂

omit hname

theorem alike_persist_self :
    (persist m m action).Alike (Undisturbed settings m) (Like settings m first v₁ v₂ m m)
      (persist m m action) fun _ _ => Like settings m first v₁ v₂ m m := by
  have hmachine : patchMachine m m action = pure (.ok ()) := by
    unfold patchMachine
    rw [Machine.patch?_eq_none_iff.mpr ⟨⟨rfl, rfl⟩, rfl⟩]
  have hstatus (now : Instant) : patchStatus m m action now = pure (.ok ()) := by
    unfold patchStatus
    rw [Machine.statusPatch?_self]
  have hnow : Program.now.Alike (Undisturbed settings m) (Like settings m first v₁ v₂ m m)
      Program.now fun _ _ => Like settings m first v₁ v₂ m m :=
    alike_effect Like.kept (fun _ _ => Like.kept) fun _ _ hlike => hlike
  unfold persist
  rw [hmachine]
  refine Only.alike_bind Like.answers (only_log (fun _ => trivial) _ _) fun _ => ?_
  refine hnow.bind fun now₁ now₂ => ?_
  rw [hstatus, hstatus]
  exact alike_pure Like.kept fun _ _ hlike => hlike

end Operation

end MachineActuator
