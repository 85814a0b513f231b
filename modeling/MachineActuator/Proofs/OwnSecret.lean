import Mathlib
import MachineActuator.Proofs.Machine.Payload
import MachineActuator.Proofs.Machine.Secret
import MachineActuator.Proofs.Namesakes

/-! # A secret for every virtual machine

Whatever operations run side by side, and whichever of their calls fail, every virtual machine in
the infrastructure cluster refers to a secret of its own that exists and names it
(`vm_has_secret`).  That holds at every moment, since a virtual machine is only created when its
secret is in place (`Step.Orderly`), a replacement refers to the same secret, and no secret is ever
changed or removed.  The invariant is `InfraCluster.Provided`; each orderly step preserves it
(`Step.Orderly.provided`). -/

namespace MachineActuator

open Payload (NamesHost)

/-! ### Steps -/

/-- The secret for a virtual machine of this name is in place. -/
def SecretInPlace (ns name : String) (env : Environment) : Prop :=
  ∃ secret, env.infra.secrets ns (ignitionSecretName name) = some secret

/-- A virtual machine that refers to the secret of its own name and no other. -/
def VirtualMachine.RefersToOwn (vm : VirtualMachine) : Prop :=
  ∃ name, vm.metadata.name = some name ∧ vm.secretRefs = [ignitionSecretName name]

/-- A secret with nothing but a payload for the host that it is named after. -/
def Secret.Boots (secret : Secret) : Prop :=
  ∃ name bytes, secret.metadata.name = some (ignitionSecretName name) ∧
    secret.data = some (.singleton "userdata" bytes) ∧ NamesHost bytes name

/-- A step creates a virtual machine only when its secret is in place, replaces it by one that
refers to the same secret, and stores only secrets that a host can boot from. -/
def Step.Orderly (step : Step) : Prop :=
  match step.effect with
  | .infra (.createVirtualMachine ns vm) =>
    vm.RefersToOwn ∧ SecretInPlace ns (vm.metadata.name.getD "") step.before
  | .infra (.updateVirtualMachine _ vm) => vm.RefersToOwn
  | .infra (.createSecret _ secret) => secret.Boots
  | _ => True

/-! ### One step -/

namespace InfraCluster

/-- Every secret is for a host that it names, and every virtual machine has such a secret. -/
structure Provided (c : InfraCluster) : Prop where
  secrets : ∀ ns name secret, c.secrets ns (ignitionSecretName name) = some secret →
    ∃ bytes, secret.data = some (.singleton "userdata" bytes) ∧ NamesHost bytes name
  machines : ∀ ns name vm, c.virtualMachines ns name = some vm →
    (vm.metadata.name = some name ∧ vm.metadata.ns = some ns ∧
      vm.secretRefs = [ignitionSecretName name]) ∧
    ∃ secret, c.secrets ns (ignitionSecretName name) = some secret

variable {c : InfraCluster} {ns key : String}

/-- A secret that is there afterwards was there before or is the one that was asked for. -/
theorem secrets_answer_cases (call : InfraCall) {secret : Secret}
    (h : (c.answer call).2.secrets ns key = some secret) :
    c.secrets ns key = some secret ∨
      call = .createSecret ns secret ∧ secret.metadata.name.getD "" = key := by
  have hchanges := c.changes_answer call
  generalize (c.answer call).2 = after at h hchanges
  cases hchanges with
  | provided hnew =>
    obtain ⟨rfl, rfl, rfl⟩ | ⟨-, hold⟩ := Store.cases_of_put h
    · exact .inr ⟨rfl, rfl⟩
    · exact .inl hold
  | _ => exact .inl h

/-- A virtual machine that is there afterwards was there before, or it was created, or it replaces
one that was there before and takes only its specification from what was asked for. -/
theorem virtualMachines_answer_cases (call : InfraCall) {vm : VirtualMachine}
    (h : (c.answer call).2.virtualMachines ns key = some vm) :
    c.virtualMachines ns key = some vm ∨
      (∃ asked, call = .createVirtualMachine ns asked ∧ asked.metadata.name.getD "" = key ∧
        vm.metadata.name = asked.metadata.name ∧ vm.metadata.ns = some ns ∧
        vm.spec = asked.spec) ∨
      ∃ asked stored, call = .updateVirtualMachine ns asked ∧ asked.metadata.name.getD "" = key ∧
        c.virtualMachines ns key = some stored ∧ vm.metadata.name = stored.metadata.name ∧
        vm.metadata.ns = stored.metadata.ns ∧ vm.spec = asked.spec := by
  have hchanges := c.changes_answer call
  generalize (c.answer call).2 = after at h hchanges
  cases hchanges with
  | unchanged => exact .inl h
  | @created n asked hnew =>
    obtain ⟨rfl, rfl, rfl⟩ | ⟨-, hold⟩ := Store.cases_of_put h
    · exact .inr (.inl ⟨asked, rfl, rfl, rfl, rfl, rfl⟩)
    · exact .inl hold
  | @updated n asked stored hstored =>
    obtain ⟨rfl, rfl, rfl⟩ | ⟨-, hold⟩ := Store.cases_of_put h
    · exact .inr (.inr ⟨asked, stored, rfl, rfl, hstored, rfl, rfl, rfl⟩)
    · exact .inl hold
  | deleted hstored => exact .inl (Store.of_remove h).2
  | provided hnew => exact .inl h

end InfraCluster

theorem VirtualMachine.RefersToOwn.secretRefs {vm : VirtualMachine} (h : vm.RefersToOwn) :
    vm.metadata.name = some (vm.metadata.name.getD "") ∧
      vm.secretRefs = [ignitionSecretName (vm.metadata.name.getD "")] := by
  obtain ⟨name, hname, hrefs⟩ := h
  rw [hname]
  exact ⟨rfl, hrefs⟩

theorem Step.Orderly.provided {step : Step} (h : step.Orderly)
    (hbefore : step.before.infra.Provided) : step.after.infra.Provided := by
  have hkept {ns name : String}
      (h : ∃ secret, step.before.infra.secrets ns (ignitionSecretName name) = some secret) :
      ∃ secret, step.after.infra.secrets ns (ignitionSecretName name) = some secret :=
    h.imp fun _ hsecret => step.secret_after hsecret
  obtain ⟨call, hcall, hafter⟩ | hafter := step.infra_after
  · unfold Orderly at h
    rw [hcall] at h
    constructor
    · intro ns name secret hsecret
      rw [hafter] at hsecret
      obtain hold | ⟨rfl, hname⟩ := InfraCluster.secrets_answer_cases call hsecret
      · exact hbefore.secrets ns name secret hold
      · obtain ⟨own, bytes, hown, hdata, hnames⟩ := h
        rw [hown, Option.getD_some] at hname
        exact ⟨bytes, hdata, ignitionSecretName_injective hname ▸ hnames⟩
    · intro ns name vm hvm
      rw [hafter] at hvm
      obtain hold | ⟨asked, rfl, hkey, hname, hns, hspec⟩ |
        ⟨asked, stored, rfl, hkey, hstored, hname, hns, hspec⟩ :=
          InfraCluster.virtualMachines_answer_cases call hvm
      · obtain ⟨hvm, hsecret⟩ := hbefore.machines ns name vm hold
        exact ⟨hvm, hkept hsecret⟩
      · obtain ⟨hown, hsecret⟩ := h
        obtain ⟨hasked, hrefs⟩ := hown.secretRefs
        rw [hkey] at hasked hrefs hsecret
        exact ⟨⟨hname.trans hasked, hns, (VirtualMachine.secretRefs_congr hspec).trans hrefs⟩,
          hkept hsecret⟩
      · obtain ⟨⟨hstoredName, hstoredNs, -⟩, hsecret⟩ := hbefore.machines ns name stored hstored
        obtain ⟨-, hrefs⟩ := VirtualMachine.RefersToOwn.secretRefs h
        rw [hkey] at hrefs
        exact ⟨⟨hname.trans hstoredName, hns.trans hstoredNs,
          (VirtualMachine.secretRefs_congr hspec).trans hrefs⟩, hkept hsecret⟩
  · rw [hafter]
    exact hbefore

/-! ### What an operation shows -/

/-- An effect that is orderly whatever the surroundings are. -/
def Effect.IsOrderly (e : Effect) : Prop := ∀ env, (Step.mk e env).Orderly

theorem Effect.isOrderly_of_applies (settings : Settings) (m : Machine) (e : Effect)
    (_ : e.Applies settings m) (h : ¬ e.Stores) : e.IsOrderly := by
  intro env
  cases e with
  | infra call =>
    cases call with
    | createVirtualMachine ns vm => exact absurd trivial h
    | updateVirtualMachine ns vm => exact absurd trivial h
    | createSecret ns secret => exact absurd trivial h
    | _ => trivial
  | _ => trivial

theorem Effect.isOrderly_of_cleansUp {settings : Settings} {m : Machine} {e : Effect}
    (h : e.CleansUp settings m) : e.IsOrderly := by
  intro env
  cases e with
  | infra call =>
    cases call with
    | createVirtualMachine ns vm => exact False.elim h
    | updateVirtualMachine ns vm => exact False.elim h
    | createSecret ns secret => exact False.elim h
    | _ => trivial
  | _ => trivial

theorem Scope.refersToOwn_virtualMachineWith (s : Scope) (mode : String) :
    (s.virtualMachineWith mode).RefersToOwn :=
  ⟨s.name, rfl, s.secretRefs_virtualMachineWith mode⟩

open Program (Only shows_pure shows_effect only_effect only_pure)

section Shows

variable {α : Type} {Drift : Environment → Environment → Prop} {P : Environment → Prop}

theorem shows_of_only {p : Program α} (h : p.Only Effect.IsOrderly) :
    p.Shows Drift P Step.Orderly :=
  h.shows fun step hstep => hstep step.before

variable (hstable : ∀ ns name, Stable Drift (SecretInPlace ns name))

namespace Lifecycle

include hstable

theorem leads_secretInPlace (s : Scope) (payload : ByteArray) :
    (ensureSecret s payload).Leads Drift (fun _ => True)
      (IfOk fun _ => SecretInPlace s.infraNs s.name) := by
  refine leads_ensureSecret_of (fun _ _ _ _ => trivial) (hstable _ _) (fun _ _ h => h)
    fun env _ => ?_
  obtain ⟨-, hfailed | hkept⟩ := InfraCluster.answer_createSecret_cases (c := env.infra)
    s.infraNs (show (s.ignitionSecret payload).metadata.name = _ from rfl)
  · exact .inl hfailed
  · exact .inr ⟨_, hkept⟩

theorem shows_createVm {s : Scope} {vm : VirtualMachine} (hown : vm.RefersToOwn)
    (hname : vm.metadata.name = some s.name) :
    (createVm s vm).Shows Drift (SecretInPlace s.infraNs s.name) Step.Orderly := by
  have hcall : (Program.infra (.createVirtualMachine s.infraNs vm)).Shows Drift
      (SecretInPlace s.infraNs s.name) Step.Orderly := by
    refine shows_effect (hstable _ _) fun env hsecret => ⟨hown, ?_⟩
    rw [hname]
    exact hsecret
  unfold createVm
  refine hcall.bind_of_forall fun answer => shows_of_only ?_
  cases answer with
  | error e => exact only_stepFailed (fun _ _ => trivial) _ _ _ _
  | ok created => exact (only_log (fun _ _ => trivial) _ _).bind fun _ => only_pure _

theorem shows_create (s : Scope) (bytes : ByteArray) :
    (create Scope.sync s bytes).Shows Drift (fun _ => True) Step.Orderly := by
  have hlog (line : LogLine) : (Effect.log line).IsOrderly := fun _ => trivial
  unfold create
  cases hpayload : Payload.addHostname bytes s.name with
  | error e => exact shows_of_only (only_stepFailed hlog _ _ _ _)
  | ok payload =>
    have hsecret : (Effect.infra (.createSecret s.infraNs (s.ignitionSecret payload))).IsOrderly :=
      fun _ => ⟨s.name, payload, rfl, rfl, Payload.namesHost_of_addHostname hpayload⟩
    refine (shows_of_only (only_ensureSecret hlog s hsecret)).bind
      (leads_secretInPlace hstable s payload) fun result => ?_
    cases result with
    | error e => exact shows_pure _
    | ok _ =>
      dsimp only
      cases hvm : s.virtualMachine with
      | error e => exact shows_of_only (only_stepFailed hlog _ _ _ _)
      | ok vm =>
        obtain ⟨-, mode, -, rfl⟩ := Scope.virtualMachine_eq_ok_iff.mp hvm
        refine ((shows_createVm hstable (s.refersToOwn_virtualMachineWith mode)
          rfl).bind_of_forall fun result => ?_).of_imp fun env h => h () rfl
        cases result with
        | error e => exact shows_pure _
        | ok created =>
          exact shows_of_only (ensures_observe hlog s (fun _ _ => trivial) created
            (fun _ => trivial) _).only

end Lifecycle

namespace Operation

section Create

include hstable

theorem shows_tryCreate (settings : Settings) (m : Machine) :
    (tryCreate settings m).Shows Drift (fun _ => True) Step.Orderly := by
  unfold tryCreate
  cases hscope : Scope.ofMachine settings m with
  | error e => exact shows_pure _
  | ok s =>
    obtain ⟨rfl, rfl⟩ := Scope.eq_of_ofMachine hscope
    refine (shows_of_only (only_log (fun _ _ => trivial) _ _)).bind_of_forall fun _ => ?_
    refine (shows_of_only (only_payload s fun _ => trivial)).bind_of_forall fun result => ?_
    cases result with
    | error e => exact shows_pure _
    | ok bytes =>
      have htook : (Lifecycle.create Scope.sync s bytes).Leads Drift (fun _ => True)
          fun result _ => Lifecycle.TookOver s result :=
        ((Lifecycle.ensures_create s bytes).mono (fun _ h => h) fun _ h _ => h).leads
      refine (Lifecycle.shows_create hstable s bytes).bind htook fun result => ?_
      cases result with
      | error e =>
        have hpersist := only_persist (Effect.isOrderly_of_applies s.settings s.machine) s.machine
          .create ⟨rfl, rfl⟩
        exact (shows_of_only hpersist).bind_of_forall fun _ => shows_pure _
      | ok synced =>
        intro env steps q env' htook
        obtain ⟨vm, vmi, providerId, ips, rfl⟩ := htook synced rfl
        have hpersist := only_persist (Effect.isOrderly_of_applies s.settings s.machine)
          (s.synced vm vmi providerId ips).machine .create ⟨rfl, rfl⟩
        exact shows_of_only (P := fun _ => True) hpersist env steps q env' trivial

theorem shows_create (settings : Settings) (m : Machine) :
    (create settings m).Shows Drift (fun _ => True) Step.Orderly := by
  unfold create
  refine (shows_tryCreate hstable settings m).bind_of_forall fun result => shows_of_only ?_
  cases result with
  | ok _ => exact (only_effect fun _ => trivial).bind fun _ => only_pure _
  | error e => exact only_reportFailure (fun _ _ => trivial) (fun _ _ => trivial) m _ e

end Create

/-- What an operation tells: whether the virtual machine exists, or nothing. -/
abbrev Answer : MachineAction → Type
  | .check => Bool
  | _ => Unit

/-- The operation of this kind on a machine. -/
def perform (settings : Settings) (m : Machine) :
    (action : MachineAction) → Program (Except ControllerError (Answer action))
  | .create => create settings m
  | .update => update settings m
  | .delete => delete settings m
  | .check => exists? settings m

include hstable in
/-- Every operation takes orderly steps, as long as no secret is lost. -/
theorem shows_perform (settings : Settings) (m : Machine) (action : MachineAction) :
    (perform settings m action).Shows Drift (fun _ => True) Step.Orderly := by
  cases action with
  | create => exact shows_create hstable settings m
  | update =>
    refine shows_of_only (only_update_of (Effect.isOrderly_of_applies settings m)
      fun s _ mode existing _ => ?_)
    exact s.refersToOwn_virtualMachineWith mode
  | delete =>
    exact shows_of_only ((only_delete settings m).mono fun _ => Effect.isOrderly_of_cleansUp)
  | check =>
    exact shows_of_only (only_exists? (fun _ _ => trivial) (fun _ _ => trivial) settings m
      fun _ => trivial)

end Operation

end Shows

/-! ### Runs -/

/-- What else may happen at any moment.  Virtual machines may go away and change their status, but
neither their names nor what they are made of, and the secrets are left alone; calls may begin to
fail and to succeed again, and everything beside virtual machines and secrets may change. -/
structure Outside (env env' : Environment) : Prop where
  secrets : env'.infra.secrets = env.infra.secrets
  machines : ∀ ns name vm, env'.infra.virtualMachines ns name = some vm →
    ∃ old, env.infra.virtualMachines ns name = some old ∧ vm.metadata.name = old.metadata.name ∧
      vm.metadata.ns = old.metadata.ns ∧ vm.spec = old.spec

theorem Outside.provided {env env' : Environment} (h : Outside env env')
    (hbefore : env.infra.Provided) : env'.infra.Provided := by
  constructor
  · rw [h.secrets]
    exact hbefore.secrets
  · intro ns name vm hvm
    obtain ⟨old, hold, hname, hns, hspec⟩ := h.machines ns name vm hvm
    obtain ⟨⟨holdName, holdNs, hrefs⟩, hsecret⟩ := hbefore.machines ns name old hold
    rw [h.secrets]
    exact ⟨⟨hname.trans holdName, hns.trans holdNs,
      (VirtualMachine.secretRefs_congr hspec).trans hrefs⟩, hsecret⟩

theorem stable_secretInPlace {ι : Type} (P : ι → Effect → Prop) (i : ι) (ns name : String) :
    Stable (AmongOthers Outside P i) (SecretInPlace ns name) := by
  rintro env mid (h | ⟨j, e, -, -, rfl⟩) ⟨secret, hsecret⟩
  · exact ⟨secret, h.secrets ▸ hsecret⟩
  · exact ⟨secret, Step.secret_after ⟨e, env⟩ hsecret⟩

theorem InfraCluster.provided_of_empty {c : InfraCluster} (hmachines : c.virtualMachines = .empty)
    (hsecrets : c.secrets = .empty) : c.Provided := by
  constructor
  · intro ns name secret h
    rw [hsecrets] at h
    exact nomatch h
  · intro ns name vm h
    rw [hmachines] at h
    exact nomatch h

/-- From an infrastructure without virtual machines and secrets, any number of operations run side
by side, each on some machine and with its own settings.  At every moment every virtual machine
refers to one secret in its namespace, which exists and holds one entry: a document whose last file
names the virtual machine. -/
theorem vm_has_secret {ι : Type} [DecidableEq ι] {settings : ι → Settings} {machines : ι → Machine}
    {actions : ι → MachineAction} {start env : Environment} {steps : List (ι × Step)}
    {pool : ∀ i, Program (Except ControllerError (Operation.Answer (actions i)))}
    (hmachines : start.infra.virtualMachines = .empty) (hsecrets : start.infra.secrets = .empty)
    (h : Interleaved Outside (fun i => Operation.perform (settings i) (machines i) (actions i))
      start steps pool env) {ns name : String} {vm : VirtualMachine}
    (hvm : env.infra.virtualMachines ns name = some vm) :
    vm.metadata.name = some name ∧ vm.metadata.ns = some ns ∧
      ∃ ref secret bytes, vm.secretRefs = [ref] ∧ env.infra.secrets ns ref = some secret ∧
        secret.data = some (.singleton "userdata" bytes) ∧ NamesHost bytes name := by
  have horderly := h.forall_steps fun i => Operation.shows_perform (stable_secretInPlace _ i)
    (settings i) (machines i) (actions i)
  have hprovided : env.infra.Provided :=
    h.keeps_of_steps (fun _ _ hdrift => hdrift.provided) (fun _ hstep => hstep.provided) horderly
      (InfraCluster.provided_of_empty hmachines hsecrets)
  obtain ⟨⟨hname, hns, hrefs⟩, secret, hsecret⟩ := hprovided.machines ns name vm hvm
  obtain ⟨bytes, hdata, hnames⟩ := hprovided.secrets ns name secret hsecret
  exact ⟨hname, hns, _, secret, bytes, hrefs, hsecret, hdata, hnames⟩

open Independence (workersSettings workersStart) in
theorem vm_has_secret_worker :
    ∃ steps pool env vm,
      Interleaved Outside
        (fun _ : Unit => Operation.perform workersSettings Machine.worker .create) workersStart
        steps pool env ∧
      env.infra.virtualMachines "infra" "worker" = some vm ∧
      ∃ ref secret bytes, vm.secretRefs = [ref] ∧ env.infra.secrets "infra" ref = some secret ∧
        secret.data = some (.singleton "userdata" bytes) ∧ NamesHost bytes "worker" := by
  obtain ⟨steps, hcourse⟩ := Course.of_run Outside
    (Operation.perform workersSettings Machine.worker .create) workersStart
  have hrun : Interleaved Outside
      (fun _ : Unit => Operation.perform workersSettings Machine.worker .create)
      workersStart _ _ _ :=
    Interleaved.of_course (i := ()) hcourse rfl
  have hvm : ∃ vm, (workersStart.run .memory
      (Operation.perform workersSettings Machine.worker .create)).2.infra.virtualMachines "infra"
        "worker" = some vm := ⟨_, rfl⟩
  obtain ⟨vm, hvm⟩ := hvm
  obtain ⟨-, -, hsecret⟩ := vm_has_secret rfl rfl hrun hvm
  exact ⟨_, _, _, vm, hrun, hvm, hsecret⟩

end MachineActuator
