import Mathlib
import MachineActuator.Proofs.Cluster.Answer
import MachineActuator.Proofs.Machine.Secret
import MachineActuator.Proofs.Outage

/-! # Mistakes in the configuration

A virtual machine is created from a machine whose configuration is checked on the way: its scope,
its payload, and at last what the virtual machine is derived from.  No cluster blames the
configuration (`AnswersPlainly`), so a mistake in it is found by one of these checks.  All but the
last are made before anything is asked of the infrastructure cluster.  The last one is made when the
secret is in place, so that a mistake which only it finds may leave the secret behind, and nothing
else (`Operation.create_misconfigured`). -/

namespace MachineActuator

open Program (EnsuresIf ensuresIf_pure ensuresIf_effect Only only_pure only_effect leads_pure
  leads_effect)
open Lifecycle (Alone stable_alone)

/-! ### Errors of clusters -/

/-- What fails does not fail for a mistake in the configuration. -/
def BlamesNoConfig {α : Type} (r : Except ControllerError α) : Prop :=
  ∀ e, r = .error e → e.isInvalidConfig = false

/-- No call fails for a mistake in the configuration. -/
def AnswersPlainly : (e : Effect) → e.Answer → Prop
  | .infra _, answer => ∀ e, answer = .error e → (ControllerError.client e).isInvalidConfig = false
  | .tenant _, answer => ∀ e, answer = .error e → (ControllerError.client e).isInvalidConfig = false
  | _, _ => True

/-- The effect does not look for settings. -/
def Effect.AsksNoSettings : Effect → Prop
  | .tenant (.getConfigMapValue ..) => False
  | _ => True

theorem isInvalidConfig_of_orNotFound {α : Type} {kind ns name : String} {found : Option α}
    {e : ClientError} (h : orNotFound kind ns name found = .error e) :
    (ControllerError.client e).isInvalidConfig = false := by
  cases found with
  | some value => cases h
  | none =>
    obtain rfl := Except.error.inj h
    rfl

theorem InfraCluster.isInvalidConfig_of_answer {c : InfraCluster} {call : InfraCall}
    {e : ClientError} (h : (c.answer call).1 = .error e) :
    (ControllerError.client e).isInvalidConfig = false := by
  have houtcome := c.outcome_answer call
  rw [h] at houtcome
  cases houtcome with
  | _ => rfl

theorem TenantCluster.isInvalidConfig_of_applyPatch {c : TenantCluster} {ns name : String}
    {patch : Json} {e : ClientError} (h : (c.applyPatch ns name patch).1 = .error e) :
    (ControllerError.client e).isInvalidConfig = false := by
  unfold applyPatch at h
  split at h
  · obtain rfl := Except.error.inj h
    rfl
  · split at h
    · obtain rfl := Except.error.inj h
      rfl
    · cases h

theorem TenantCluster.isInvalidConfig_of_answer {c : TenantCluster} {call : TenantCall}
    (hcall : (Effect.tenant call).AsksNoSettings) {e : ClientError}
    (h : (c.answer call).1 = .error e) : (ControllerError.client e).isInvalidConfig = false := by
  unfold answer at h
  split at h
  · obtain rfl := Except.error.inj h
    rfl
  · cases call with
    | patchMachine ns name patch => exact isInvalidConfig_of_applyPatch h
    | patchMachineStatus ns name patch => exact isInvalidConfig_of_applyPatch h
    | getSecret ns name => exact isInvalidConfig_of_orNotFound h
    | getConfigMapValue ns name key => exact hcall.elim
    | deleteNode name =>
      simp only [perform, deleteNode] at h
      split at h
      · obtain rfl := Except.error.inj h
        rfl
      · cases h
    | patchNodeProviderId name providerId =>
      simp only [perform, patchNodeProviderId] at h
      split at h
      · obtain rfl := Except.error.inj h
        rfl
      · cases h

theorem Step.answersPlainly (step : Step) (h : step.effect.AsksNoSettings) :
    AnswersPlainly step.effect step.answer := by
  obtain ⟨effect, before⟩ := step
  cases effect with
  | infra call => exact fun e he => InfraCluster.isInvalidConfig_of_answer he
  | tenant call => exact fun e he => TenantCluster.isInvalidConfig_of_answer h he
  | _ => trivial

/-! ### Programs that blame no configuration -/

/-- Where no call blames the configuration, neither does the program. -/
abbrev Program.Plain {α : Type} (p : Program (Except ControllerError α)) : Prop :=
  p.EnsuresIf AnswersPlainly Effect.AsksNoSettings BlamesNoConfig

/-- What holds if all answers are as expected holds at the end of a course in memory. -/
theorem Program.EnsuresIf.leads {α : Type} {A : (e : Effect) → e.Answer → Prop} {P : Effect → Prop}
    {Q : α → Prop} {p : Program α} (hp : p.EnsuresIf A P Q)
    (hanswer : ∀ step : Step, P step.effect → A step.effect step.answer)
    {Drift : Environment → Environment → Prop} {R : Environment → Prop} :
    p.Leads Drift R fun a _ => Q a := by
  intro env steps a env' hR h
  clear hR
  generalize hq : Program.done a = q at h
  induction h with
  | stopped =>
    subst hq
    exact hp
  | drifted _ _ ih => exact ih hp hq
  | @performed env _ e _ _ _ _ ih => exact ih (hp.2 _ (hanswer ⟨e, env⟩ hp.1)) hq

section Plain

variable {α : Type} {P : Effect → Prop} {Q : α → Prop}

theorem blamesNoConfig_ok (a : α) : BlamesNoConfig (.ok a) := fun _ h => by cases h

theorem blamesNoConfig_error {e : ControllerError} (he : e.isInvalidConfig = false) :
    BlamesNoConfig (.error e : Except ControllerError α) := fun _ h => by
  obtain rfl := Except.error.inj h
  exact he

theorem Program.Ensures.ensuresIf {A : (e : Effect) → e.Answer → Prop} {p : Program α}
    (hp : p.Ensures P Q) : p.EnsuresIf A P Q := by
  induction p with
  | done a => exact hp
  | perform e next ih => exact ⟨hp.1, fun answer _ => ih answer (hp.2 answer)⟩

theorem plain_stepFailed (machine : String) (action : MachineAction) (what : String)
    {source : ControllerError} (hsource : source.isInvalidConfig = false) :
    (Lifecycle.stepFailed machine action what source :
      Program (Except ControllerError α)).Plain := by
  unfold Lifecycle.stepFailed
  refine EnsuresIf.bind (ensuresIf_effect trivial fun _ _ => trivial) fun _ (_ : True) => ?_
  exact ensuresIf_pure (blamesNoConfig_error hsource)

/-- What follows a call is not blamed on the configuration if it is not without the call. -/
theorem plain_infra {call : InfraCall}
    {f : Except ClientError call.Result → Program (Except ControllerError α)}
    (herror : ∀ e, (ControllerError.client e).isInvalidConfig = false → (f (.error e)).Plain)
    (hok : ∀ a, (f (.ok a)).Plain) : (Program.infra call >>= f).Plain := by
  refine EnsuresIf.bind (ensuresIf_effect trivial fun _ hanswer => hanswer) fun answer hanswer => ?_
  cases answer with
  | error e => exact herror e (hanswer e rfl)
  | ok a => exact hok a

theorem plain_tenant {call : TenantCall} (hcall : (Effect.tenant call).AsksNoSettings)
    {f : Except ClientError call.Result → Program (Except ControllerError α)}
    (herror : ∀ e, (ControllerError.client e).isInvalidConfig = false → (f (.error e)).Plain)
    (hok : ∀ a, (f (.ok a)).Plain) : (Program.tenant call >>= f).Plain := by
  refine EnsuresIf.bind (ensuresIf_effect hcall fun _ hanswer => hanswer) fun answer hanswer => ?_
  cases answer with
  | error e => exact herror e (hanswer e rfl)
  | ok a => exact hok a

end Plain

namespace Lifecycle

variable (s : Scope)

theorem plain_sync (vm : VirtualMachine) (vmi : VirtualMachineInstance) (providerId : String) :
    (s.sync vm vmi providerId).Plain := by
  have hsync : (s.sync vm vmi providerId).Ensures Effect.AsksNoSettings BlamesNoConfig := by
    unfold Scope.sync Scope.logProviderId
    split_ifs
    · exact ⟨trivial, fun _ => ⟨trivial, fun _ => ⟨trivial, fun _ => ⟨trivial, fun _ =>
        blamesNoConfig_ok _⟩⟩⟩⟩
    · exact ⟨trivial, fun _ => ⟨trivial, fun _ => ⟨trivial, fun _ => ⟨trivial, fun _ =>
        blamesNoConfig_ok _⟩⟩⟩⟩
  exact hsync.ensuresIf

theorem plain_observe (vm : VirtualMachine) (action : MachineAction) :
    (observe Scope.sync s vm action).Plain := by
  unfold observe
  refine plain_infra (fun e he => plain_stepFailed _ _ _ he) fun vmi => ?_
  refine EnsuresIf.bind (plain_sync s vm vmi _) fun result hresult => ?_
  cases result with
  | error e => exact plain_stepFailed _ _ _ (hresult e rfl)
  | ok synced => exact ensuresIf_pure (blamesNoConfig_ok _)

theorem plain_ensureSecret (payload : ByteArray) : (ensureSecret s payload).Plain := by
  have hdone : (pure (.ok ()) : Program (Except ControllerError Unit)).Plain :=
    ensuresIf_pure (blamesNoConfig_ok _)
  unfold ensureSecret
  refine plain_infra (fun e he => ?_) fun _ => hdone
  dsimp only
  split_ifs
  · exact EnsuresIf.bind (ensuresIf_effect trivial fun _ _ => trivial) fun _ (_ : True) => hdone
  · exact plain_stepFailed _ _ _ he

theorem plain_createVm (vm : VirtualMachine) : (createVm s vm).Plain := by
  unfold createVm
  refine plain_infra (fun e he => plain_stepFailed _ _ _ he) fun created => ?_
  exact EnsuresIf.bind (ensuresIf_effect trivial fun _ _ => trivial) fun _ (_ : True) =>
    ensuresIf_pure (blamesNoConfig_ok _)

end Lifecycle

namespace Operation

variable {before after : Machine} {action : MachineAction}

theorem plain_patchMachine : (patchMachine before after action).Plain := by
  unfold patchMachine
  cases Machine.patch? before after with
  | none => exact ensuresIf_pure (blamesNoConfig_ok _)
  | some patch =>
    refine plain_tenant ?_ (fun e he => ensuresIf_pure (blamesNoConfig_error he))
      fun _ => ensuresIf_pure (blamesNoConfig_ok _)
    trivial

theorem plain_patchStatus (now : Instant) : (patchStatus before after action now).Plain := by
  unfold patchStatus
  cases Machine.statusPatch? before after now with
  | none => exact ensuresIf_pure (blamesNoConfig_ok _)
  | some patch =>
    refine plain_tenant ?_ (fun e he => ensuresIf_pure (blamesNoConfig_error he))
      fun _ => ensuresIf_pure (blamesNoConfig_ok _)
    trivial

theorem plain_persist : (persist before after action).Plain := by
  unfold persist
  refine EnsuresIf.bind (ensuresIf_effect trivial fun _ _ => trivial) fun _ (_ : True) => ?_
  refine EnsuresIf.bind plain_patchMachine fun result hresult => ?_
  cases result with
  | error e => exact ensuresIf_pure hresult
  | ok _ =>
    exact EnsuresIf.bind (ensuresIf_effect trivial fun _ _ => trivial) fun now (_ : True) =>
      plain_patchStatus now

end Operation

/-! ### What is left of an attempt -/

/-- The secret of a scope is left over from an attempt to create a virtual machine that could not be
derived: it was put where there was none, with the payload of the attempt. -/
def LeftSecret (s : Scope) (bytes : ByteArray) (e : ControllerError) (c c' : InfraCluster) : Prop :=
  ∃ payload cause, Payload.addHostname bytes s.name = .ok payload ∧
    s.virtualMachine = .error cause ∧
    e = .step s.name .create "failed to build Virtual Machine struct" cause ∧
    c.secrets s.infraNs (ignitionSecretName s.name) = none ∧
    c' = { c with
      secrets := c.secrets.put s.infraNs (ignitionSecretName s.name) (s.ignitionSecret payload) }

/-- Creating a secret leaves the cluster as it is, or puts the secret where there was none. -/
theorem InfraCluster.answer_createSecret_snd (c : InfraCluster) (ns : String) {key : String}
    {secret : Secret} (hname : secret.metadata.name = some key) :
    (c.answer (.createSecret ns secret)).2 = c ∨
      (c.secrets ns key = none ∧ (c.answer (.createSecret ns secret)).2 =
        { c with secrets := c.secrets.put ns key secret }) := by
  have hplace : secret.metadata.name.getD "" = key := congrArg (Option.getD · "") hname
  have hchanges := c.changes_answer (.createSecret ns secret)
  generalize (c.answer (.createSecret ns secret)).2 = after at hchanges ⊢
  cases hchanges with
  | unchanged => exact .inl rfl
  | provided hnew =>
    rw [hplace] at hnew ⊢
    exact .inr ⟨hnew, rfl⟩

theorem TenantCluster.secrets_of_getSecret {c : TenantCluster} {ns name : String} {secret : Secret}
    (h : (c.answer (.getSecret ns name)).1 = .ok secret) : c.secrets ns name = some secret := by
  unfold answer at h
  split at h
  · cases h
  · simp only [perform] at h
    cases hstored : c.secrets ns name with
    | none =>
      rw [hstored] at h
      cases h
    | some stored =>
      rw [hstored] at h
      rw [Except.ok.inj h]

/-- A program all of whose effects leave the infrastructure cluster alone leaves it alone. -/
theorem leads_infra {α : Type} {p : Program α} (hp : p.Only Effect.SparesInfra)
    (I : InfraCluster → Prop) :
    p.Leads Alone (fun env => I env.infra) fun _ env => I env.infra :=
  hp.leads (stable_alone _) fun step hspares hI => by
    rw [show step.after.infra = step.before.infra from hspares step.before]
    exact hI

/-- Where an attempt failed for a mistake in the configuration, the infrastructure cluster is as it
was, or the condition holds of the error and of what has become of the cluster. -/
def SparedBut {α : Type} (c : InfraCluster) (Left : ControllerError → InfraCluster → Prop)
    (r : Except ControllerError α) (env : Environment) : Prop :=
  ∀ e, r = .error e → e.isInvalidConfig = true → env.infra = c ∨ Left e env.infra

section Leads

variable {α : Type} {c : InfraCluster} {Left : ControllerError → InfraCluster → Prop}

theorem SparedBut.of_blamesNoConfig {r : Except ControllerError α} {env : Environment}
    (h : BlamesNoConfig r) : SparedBut c Left r env := fun e he hinvalid => by
  rw [h e he] at hinvalid
  cases hinvalid

theorem Program.Plain.leads {p : Program (Except ControllerError α)} (hp : p.Plain)
    {P : Environment → Prop} : p.Leads Alone P (SparedBut c Left) :=
  (EnsuresIf.leads hp Step.answersPlainly).mono fun _ _ h => .of_blamesNoConfig h

end Leads

namespace Lifecycle

variable {c : InfraCluster} {s : Scope}

/-- The secret, if it was put in place. -/
def Prepared (c : InfraCluster) (s : Scope) (payload : ByteArray) (c' : InfraCluster) : Prop :=
  c' = c ∨ (c.secrets s.infraNs (ignitionSecretName s.name) = none ∧
    c' = { c with
      secrets := c.secrets.put s.infraNs (ignitionSecretName s.name) (s.ignitionSecret payload) })

theorem leads_prepared (payload : ByteArray) :
    (ensureSecret s payload).Leads Alone (fun env => env.infra = c)
      (IfOk fun _ env => Prepared c s payload env.infra) := by
  refine leads_ensureSecret_of (stable_alone _) (stable_alone _) (fun _ _ h => h) ?_
  rintro env rfl
  exact .inr (InfraCluster.answer_createSecret_snd env.infra s.infraNs rfl)

theorem leads_stepFailed_infra {α : Type} (machine : String) (action : MachineAction)
    (what : String) (source : ControllerError) (I : InfraCluster → Prop) :
    (stepFailed machine action what source : Program (Except ControllerError α)).Leads Alone
      (fun env => I env.infra)
      fun r env => I env.infra ∧ r = .error (.step machine action what source) := by
  have hfails : (stepFailed machine action what source :
      Program (Except ControllerError α)).Ensures Effect.SparesInfra
        fun r => ∀ _ : Environment, r = .error (.step machine action what source) :=
    ⟨fun _ => rfl, fun _ _ => rfl⟩
  exact (leads_infra hfails.only I).and hfails.leads

theorem leads_create_spared (bytes : ByteArray) :
    (create Scope.sync s bytes).Leads Alone (fun env => env.infra = c)
      (SparedBut c fun e => LeftSecret s bytes e c) := by
  unfold create
  cases hpayload : Payload.addHostname bytes s.name with
  | error cause =>
    refine (leads_stepFailed_infra _ _ _ _ (· = c)).mono ?_
    rintro r env ⟨hsame, -⟩ e - -
    exact .inl hsame
  | ok payload =>
    refine ((leads_prepared payload).and
      (EnsuresIf.leads (plain_ensureSecret s payload) Step.answersPlainly)).bind fun result => ?_
    cases result with
    | error e =>
      refine leads_pure (stable_alone _) fun env h => ?_
      exact .of_blamesNoConfig (blamesNoConfig_error (h.2 e rfl))
    | ok _ =>
      refine Program.Leads.of_imp (P := fun env => Prepared c s payload env.infra) ?_
        fun env h => h.1 () rfl
      dsimp only
      cases hvm : s.virtualMachine with
      | error cause =>
        refine (leads_stepFailed_infra _ _ _ _ (Prepared c s payload)).mono ?_
        rintro r env ⟨hsame | ⟨habsent, hput⟩, rfl⟩ e he -
        · exact .inl hsame
        · obtain rfl := Except.error.inj he
          exact .inr ⟨payload, cause, hpayload, hvm, rfl, habsent, hput⟩
      | ok vm =>
        refine Program.Plain.leads (EnsuresIf.bind (plain_createVm s vm) fun result hresult => ?_)
        cases result with
        | error e => exact ensuresIf_pure (blamesNoConfig_error (hresult e rfl))
        | ok created => exact plain_observe s created .create

end Lifecycle

namespace Operation

variable {settings : Settings} {m : Machine} {start : Environment}

/-- The payload of a scope is in a secret of the tenant cluster. -/
def HasPayload (c : TenantCluster) (s : Scope) (bytes : ByteArray) : Prop :=
  ∃ secret, c.secrets s.ns s.providerSpec.ignitionSecretName = some secret ∧
    secret.get? userDataKey = some bytes

theorem leads_payload (s : Scope) :
    (payload s).Leads Alone (fun env => env.infra = start.infra ∧ env.tenant = start.tenant)
      fun r env =>
        env.infra = start.infra ∧ ∀ bytes, r = .ok bytes → HasPayload start.tenant s bytes := by
  have hlookUp : (Program.tenant (.getSecret s.ns s.providerSpec.ignitionSecretName)).Leads Alone
      (fun env => env.infra = start.infra ∧ env.tenant = start.tenant) fun answer env =>
        env.infra = start.infra ∧ ∀ secret, answer = .ok secret →
          start.tenant.secrets s.ns s.providerSpec.ignitionSecretName = some secret := by
    refine leads_effect (stable_alone _) (fun _ => stable_alone _) ?_
    rintro env ⟨hinfra, htenant⟩
    refine ⟨hinfra, fun secret hsecret => ?_⟩
    rw [← htenant]
    exact TenantCluster.secrets_of_getSecret hsecret
  unfold payload
  refine hlookUp.bind fun answer => ?_
  cases answer with
  | error e =>
    dsimp only
    split_ifs
    · exact leads_pure (stable_alone _) fun env h => ⟨h.1, fun _ h => by cases h⟩
    · exact leads_pure (stable_alone _) fun env h => ⟨h.1, fun _ h => by cases h⟩
  | ok secret =>
    dsimp only
    cases hbytes : secret.get? userDataKey with
    | none => exact leads_pure (stable_alone _) fun env h => ⟨h.1, fun _ h => by cases h⟩
    | some bytes =>
      refine leads_pure (stable_alone _) fun env h => ⟨h.1, fun bytes' heq => ?_⟩
      obtain rfl := Except.ok.inj heq
      exact ⟨secret, h.2 secret rfl, hbytes⟩

/-- What may be left of an attempt to create the virtual machine of a machine. -/
def LeftBehind (settings : Settings) (m : Machine) (start : Environment) (e : ControllerError)
    (c : InfraCluster) : Prop :=
  ∃ s bytes, Scope.ofMachine settings m = .ok s ∧ HasPayload start.tenant s bytes ∧
    LeftSecret s bytes e start.infra c

theorem LeftBehind.exists_secrets {e : ControllerError} {c : InfraCluster}
    (h : LeftBehind settings m start e c) : ∃ secrets, c = { start.infra with secrets } := by
  obtain ⟨s, bytes, -, -, payload, cause, -, -, -, -, hput⟩ := h
  exact ⟨_, hput⟩

section Persist

variable {before after : Machine} {action : MachineAction}

theorem only_patchMachine_of {P : Effect → Prop}
    (hpatch : ∀ ns name patch, P (.tenant (.patchMachine ns name patch))) :
    (patchMachine before after action).Only P := by
  unfold patchMachine
  cases Machine.patch? before after with
  | none => exact only_pure _
  | some patch =>
    refine Only.bind (only_effect (hpatch _ _ _)) fun answer => ?_
    cases answer with
    | ok _ => exact only_pure _
    | error cause => exact only_pure _

theorem only_patchStatus_of {P : Effect → Prop}
    (hpatch : ∀ ns name patch, P (.tenant (.patchMachineStatus ns name patch))) (now : Instant) :
    (patchStatus before after action now).Only P := by
  unfold patchStatus
  cases Machine.statusPatch? before after now with
  | none => exact only_pure _
  | some patch =>
    refine Only.bind (only_effect (hpatch _ _ _)) fun answer => ?_
    cases answer with
    | ok _ => exact only_pure _
    | error cause => exact only_pure _

theorem only_persist_of {P : Effect → Prop} (hlog : ∀ line, P (.log line)) (hnow : P .now)
    (hpatch : ∀ ns name patch, P (.tenant (.patchMachine ns name patch)))
    (hstatus : ∀ ns name patch, P (.tenant (.patchMachineStatus ns name patch))) :
    (persist before after action).Only P := by
  unfold persist
  refine (only_log hlog _ _).bind fun _ => ?_
  refine (only_patchMachine_of hpatch).bind fun result => ?_
  cases result with
  | error e => exact only_pure _
  | ok _ => exact Only.bind (only_effect hnow) fun now => only_patchStatus_of hstatus now

/-- Writing back leaves the infrastructure cluster alone. -/
theorem sparesInfra_persist : (persist before after action).Only Effect.SparesInfra :=
  only_persist_of (fun _ _ => rfl) (fun _ => rfl) (fun _ _ _ _ => rfl) fun _ _ _ _ => rfl

end Persist

theorem leads_tryCreate :
    (tryCreate settings m).Leads Alone
      (fun env => env.infra = start.infra ∧ env.tenant = start.tenant)
      (SparedBut start.infra (LeftBehind settings m start)) := by
  unfold tryCreate
  cases hscope : Scope.ofMachine settings m with
  | error e => exact leads_pure (stable_alone _) fun env h _ _ _ => .inl h.1
  | ok s =>
    obtain ⟨rfl, -⟩ := Scope.eq_of_ofMachine hscope
    refine (Lifecycle.leads_log (stable_alone _) (fun _ _ h => h) _ _).bind fun _ => ?_
    refine (leads_payload s).bind fun result => ?_
    cases result with
    | error e => exact leads_pure (stable_alone _) fun env h _ _ _ => .inl h.1
    | ok bytes =>
      rintro env steps result env' ⟨hinfra, hpayload⟩ hcourse
      refine Program.Leads.bind (Lifecycle.leads_create_spared bytes) (fun result => ?_) env steps
        result env' hinfra hcourse
      cases result with
      | ok synced => exact Program.Plain.leads plain_persist
      | error e =>
        -- The error decides what may be left; writing back does not touch the infrastructure.
        refine Program.Leads.bind (Program.Leads.of_imp (leads_infra sparesInfra_persist fun c =>
          e.isInvalidConfig = true → c = start.infra ∨ LeftSecret s bytes e start.infra c)
            fun env h => h e rfl) fun _ => ?_
        refine leads_pure (stable_alone _) fun env h e' he' hinvalid => ?_
        obtain rfl := Except.error.inj he'
        exact (h hinvalid).imp_right fun hleft => ⟨s, bytes, hscope, hpayload bytes rfl, hleft⟩

theorem leads_create_misconfigured (settings : Settings) (m : Machine) (start : Environment) :
    (create settings m).Leads Alone
      (fun env => env.infra = start.infra ∧ env.tenant = start.tenant)
      (SparedBut start.infra (LeftBehind settings m start)) := by
  unfold create
  refine leads_tryCreate.bind fun result => ?_
  cases result with
  | ok _ =>
    refine Program.Plain.leads ?_
    exact EnsuresIf.bind (ensuresIf_effect trivial fun _ _ => trivial) fun _ (_ : True) =>
      ensuresIf_pure (blamesNoConfig_ok _)
  | error e =>
    have hreport : (reportFailure m .create e : Program (Except ControllerError Unit)).Ensures
        Effect.SparesInfra fun r => ∀ _ : Environment, r = .error e :=
      ⟨fun _ => rfl, fun _ => ⟨fun _ => rfl, fun _ _ => rfl⟩⟩
    refine Program.Leads.mono (((leads_infra hreport.only fun c => e.isInvalidConfig = true →
      c = start.infra ∨ LeftBehind settings m start e c).and hreport.leads).of_imp
        fun env h => h e rfl) ?_
    rintro r env ⟨hleft, rfl⟩ e' he'
    obtain rfl := Except.error.inj he'
    exact hleft

/-- An attempt to create a virtual machine that fails for a mistake in the configuration changes no
virtual machine and no instance.  It leaves the infrastructure cluster as it was altogether, unless
everything else is in order and only the virtual machine could not be derived: then the secret of
the machine may be there that was not there before. -/
theorem create_misconfigured {env env' : Environment} {e : ControllerError}
    (h : env.run .memory (create settings m) = (.error e, env')) (he : e.isInvalidConfig = true) :
    env'.infra.virtualMachines = env.infra.virtualMachines ∧
      env'.infra.instances = env.infra.instances ∧
      (env'.infra = env.infra ∨ LeftBehind settings m env e env'.infra) := by
  have hspared := (leads_create_misconfigured settings m env).run env ⟨rfl, rfl⟩
  rw [h] at hspared
  obtain hsame | hleft := hspared e rfl he
  · rw [hsame]
    exact ⟨rfl, rfl, .inl rfl⟩
  · obtain ⟨secrets, hsecrets⟩ := hleft.exists_secrets
    refine ⟨?_, ?_, .inr hleft⟩
    · rw [hsecrets]
    · rw [hsecrets]

/-- A small machine without a network. -/
def unconnected : Machine :=
  { Machine.worker with
    spec :=
      { providerSpec := some (.obj
          [("ignitionSecretName", .str "payload"), ("sourcePvcName", .str "disk")]) } }

/-- Clusters with nothing in them but this payload. -/
def withPayload (bytes : ByteArray) : Environment where
  tenant := TenantCluster.addSecret {} "ns" "payload" (.singleton userDataKey bytes)
  now := ⟨0, 0⟩

/-- The small machine with a payload that is no document. -/
theorem create_misconfigured_worker :
    ∃ e env',
      (withPayload "?".toUTF8).run .memory (create ⟨⟨"infra", "c"⟩, {}⟩ Machine.worker) =
        (.error e, env') ∧
      e.isInvalidConfig = true ∧
      env'.infra.virtualMachines = Store.empty ∧ env'.infra.instances = Store.empty := by
  have hrun : ∃ e env', (withPayload "?".toUTF8).run .memory
      (create ⟨⟨"infra", "c"⟩, {}⟩ Machine.worker) = (.error e, env') ∧
      e.isInvalidConfig = true := ⟨_, _, rfl, rfl⟩
  obtain ⟨e, env', hrun, he⟩ := hrun
  obtain ⟨hmachines, hinstances, -⟩ := create_misconfigured hrun he
  exact ⟨e, env', hrun, he, hmachines, hinstances⟩

/-- A machine without a network leaves its secret behind. -/
theorem create_leaves_secret :
    ∃ e env', (withPayload "\x7b\x7d".toUTF8).run .memory
        (create ⟨⟨"infra", "c"⟩, {}⟩ unconnected) = (.error e, env') ∧
      e.isInvalidConfig = true ∧
      (withPayload "\x7b\x7d".toUTF8).infra.secrets "infra" "worker-ignition" = none ∧
      env'.infra.secrets "infra" "worker-ignition" ≠ none := by
  refine ⟨_, _, rfl, rfl, rfl, ?_⟩
  exact Option.some_ne_none _

end Operation

end MachineActuator
