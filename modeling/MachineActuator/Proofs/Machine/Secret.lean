import Mathlib
import MachineActuator.Proofs.Course
import MachineActuator.Proofs.Cluster.Answer
import MachineActuator.Proofs.Cluster.Frame
import MachineActuator.Proofs.Machine.Create

/-! # The secret behind a virtual machine

A virtual machine boots with the payload in the secret that its cloud-init volume refers to.  The
secret is put in place before the virtual machine; one that is there already is kept, and no call
ever changes or removes a secret (`Step.secret_after`).  So a new virtual machine boots with the
payload that it was created with, unless a secret of its name was left over, which then stays as it
is (`Lifecycle.create_boots_from_secret`). -/

namespace MachineActuator

/-- The names of the secrets that the cloud-init volumes of a virtual machine refer to. -/
def VirtualMachine.secretRefs (vm : VirtualMachine) : List String :=
  match vm.spec.template with
  | none => []
  | some t =>
    t.spec.volumes.filterMap fun v =>
      v.cloudInit >>= fun source => source.userDataSecretRef.map (·.name)

theorem VirtualMachine.secretRefs_congr {vm vm' : VirtualMachine} (h : vm'.spec = vm.spec) :
    vm'.secretRefs = vm.secretRefs := by
  unfold secretRefs
  rw [h]

theorem Scope.secretRefs_virtualMachineWith (s : Scope) (mode : String) :
    (s.virtualMachineWith mode).secretRefs = [ignitionSecretName s.name] := rfl

/-! ### Calls -/

namespace InfraCluster

variable {c : InfraCluster} {ns key : String}

theorem secrets_answer (call : InfraCall) {secret : Secret} (h : c.secrets ns key = some secret) :
    (c.answer call).2.secrets ns key = some secret := by
  have hchanges := c.changes_answer call
  generalize (c.answer call).2 = after at hchanges ⊢
  cases hchanges with
  | @provided n new hnew =>
    have hkey : ¬ (ns = n ∧ key = new.metadata.name.getD "") := by
      rintro ⟨rfl, rfl⟩
      simp [hnew] at h
    exact (Store.put_of_ne _ _ hkey).trans h
  | _ => exact h

/-- Creating a secret fails, and not because there is one; or afterwards there is the one that was
there before, else the new one. -/
theorem answer_createSecret_cases (ns : String) {new : Secret}
    (hname : new.metadata.name = some key) :
    (c.answer (.createSecret ns new)).2.virtualMachines = c.virtualMachines ∧
      ((∃ e, (c.answer (.createSecret ns new)).1 = .error e ∧ e.isAlreadyExists = false) ∨
        (c.answer (.createSecret ns new)).2.secrets ns key =
          some ((c.secrets ns key).getD new)) := by
  unfold answer
  cases c.failures (InfraCall.createSecret ns new).operation with
  | some text => exact ⟨rfl, .inl ⟨.api text, rfl, rfl⟩⟩
  | none =>
    simp only [perform, createSecret, hname, Option.getD_some]
    cases hkept : c.secrets ns key with
    | some kept => exact ⟨rfl, .inr hkept⟩
    | none => exact ⟨rfl, .inr (Store.put_same _ _ _ _)⟩

end InfraCluster

theorem Step.secret_after (step : Step) {ns key : String} {secret : Secret}
    (h : step.before.infra.secrets ns key = some secret) :
    step.after.infra.secrets ns key = some secret := by
  obtain ⟨call, -, hafter⟩ | hafter := step.infra_after
  · rw [hafter]
    exact InfraCluster.secrets_answer call h
  · rw [hafter]
    exact h

/-! ### Creating a virtual machine -/

namespace Lifecycle

open Program (leads_effect leads_pure)

/-- What is filed for a scope in the infrastructure cluster. -/
def Filed (s : Scope) (vm : Option VirtualMachine) (secret : Option Secret)
    (env : Environment) : Prop :=
  env.infra.virtualMachines s.infraNs s.name = vm ∧
    env.infra.secrets s.infraNs (ignitionSecretName s.name) = secret

/-- The condition holds if there is no error. -/
def IfOk {α : Type} (Q : α → Environment → Prop) (r : Except ControllerError α)
    (env : Environment) : Prop :=
  ∀ a, r = .ok a → Q a env

theorem leads_stepFailed {α : Type} {Drift : Environment → Environment → Prop}
    {P : Environment → Prop} {Q : α → Environment → Prop} (machine : String)
    (action : MachineAction) (what : String) (source : ControllerError) :
    (stepFailed machine action what source : Program (Except ControllerError α)).Leads Drift P
      (IfOk Q) := by
  have hfailed : (stepFailed machine action what source :
      Program (Except ControllerError α)).Ensures (fun _ => True) fun r => ∀ env, IfOk Q r env :=
    ensures_stepFailed (fun _ => trivial) (fun _ _ _ h => by simp at h) _ _ _ _
  exact hfailed.leads

theorem leads_log {Drift : Environment → Environment → Prop} {P : Environment → Prop}
    (hP : Stable Drift P) (hlog : ∀ env line, P env → P (env.logLine line)) (level : LogLevel)
    (text : String) : (Program.log level text).Leads Drift P fun _ => P :=
  leads_effect hP (fun _ => hP) fun env h => hlog env _ h

/-- If asking for the secret leads to a condition unless it fails, then so does seeing to it. -/
theorem leads_ensureSecret_of {Drift : Environment → Environment → Prop} {P Q : Environment → Prop}
    {s : Scope} {payload : ByteArray} (hP : Stable Drift P) (hQ : Stable Drift Q)
    (hlog : ∀ env line, Q env → Q (env.logLine line))
    (h : ∀ env, P env →
      (∃ e, (env.infra.answer (.createSecret s.infraNs (s.ignitionSecret payload))).1 = .error e ∧
        e.isAlreadyExists = false) ∨
      Q (Step.mk (.infra (.createSecret s.infraNs (s.ignitionSecret payload))) env).after) :
    (ensureSecret s payload).Leads Drift P (IfOk fun _ => Q) := by
  have hstable (answer : Except ClientError Secret) :
      Stable Drift fun env => (∃ e, answer = .error e ∧ e.isAlreadyExists = false) ∨ Q env :=
    fun env mid hdrift => Or.imp_right (hQ env mid hdrift)
  have hreturns : (pure (.ok ()) : Program (Except ControllerError Unit)).Leads Drift Q
      (IfOk fun _ => Q) :=
    leads_pure (fun env mid hdrift h a ha => hQ env mid hdrift (h a ha)) fun _ hQ _ _ => hQ
  have hcall : (Program.infra (.createSecret s.infraNs (s.ignitionSecret payload))).Leads Drift P
      fun answer env => (∃ e, answer = .error e ∧ e.isAlreadyExists = false) ∨ Q env :=
    leads_effect hP hstable h
  unfold ensureSecret
  refine hcall.bind fun answer => ?_
  cases answer with
  | ok created =>
    refine hreturns.of_imp ?_
    rintro env (⟨e, he, -⟩ | hQ)
    · simp at he
    · exact hQ
  | error e =>
    dsimp only
    split_ifs with hexists
    · refine ((leads_log hQ hlog _ _).bind fun _ => hreturns).of_imp ?_
      rintro env (⟨e, he, hother⟩ | hQ)
      · obtain rfl := Except.error.inj he
        simp [hexists] at hother
      · exact hQ
    · exact leads_stepFailed _ _ _ _

section Alone

/-- Nobody interferes. -/
abbrev Alone (_ _ : Environment) : Prop := False

theorem stable_alone (P : Environment → Prop) : Stable Alone P := fun _ _ h => h.elim

variable {s : Scope} {vm : Option VirtualMachine} {secret : Option Secret}

theorem leads_ensureSecret (payload : ByteArray) :
    (ensureSecret s payload).Leads Alone (Filed s vm secret)
      (IfOk fun _ => Filed s vm (some (secret.getD (s.ignitionSecret payload)))) := by
  refine leads_ensureSecret_of (stable_alone _) (stable_alone _) (fun _ _ h => h) ?_
  rintro env ⟨hvm, rfl⟩
  obtain ⟨hvms, hfailed | hkept⟩ := InfraCluster.answer_createSecret_cases (c := env.infra)
    s.infraNs (show (s.ignitionSecret payload).metadata.name = _ from rfl)
  · exact .inl hfailed
  · exact .inr ⟨(congrFun₂ hvms _ _).trans hvm, hkept⟩

theorem leads_createVm {desired : VirtualMachine} (hname : desired.metadata.name = some s.name) :
    (createVm s desired).Leads Alone (Filed s vm secret) (IfOk fun created env =>
      vm = none ∧ created.spec = desired.spec ∧ Filed s (some created) secret env) := by
  have hcall : (Program.infra (.createVirtualMachine s.infraNs desired)).Leads Alone
      (Filed s vm secret) fun answer env => ∀ created, answer = .ok created →
        vm = none ∧ created.spec = desired.spec ∧ Filed s (some created) secret env := by
    refine leads_effect (stable_alone _) (fun _ => stable_alone _) ?_
    rintro env ⟨hvm, hsecret⟩ created hcreated
    obtain ⟨hnone, rfl, hstored, hsecrets⟩ :=
      InfraCluster.answer_createVirtualMachine_ok hname hcreated
    exact ⟨hvm.symm.trans hnone, rfl, hstored, (congrFun₂ hsecrets _ _).trans hsecret⟩
  unfold createVm
  refine hcall.bind fun answer => ?_
  cases answer with
  | error e => exact leads_stepFailed _ _ _ _
  | ok created =>
    refine (leads_log (stable_alone _) (fun _ _ h => h) _ _).bind fun _ =>
      leads_pure (stable_alone _) ?_
    rintro env hcreated made hmade
    obtain rfl := Except.ok.inj hmade
    exact hcreated _ rfl

/-- Looking up the instance and taking over what was observed leave the infrastructure alone. -/
theorem leads_observe (observed : VirtualMachine) (action : MachineAction) :
    (observe Scope.sync s observed action).Leads Alone (Filed s vm secret)
      fun _ => Filed s vm secret := by
  have honly : (observe Scope.sync s observed action).Only fun e =>
      ∀ env, (Step.mk e env).after.infra = env.infra :=
    (ensures_observe (fun _ _ => rfl) s (fun _ _ => rfl) observed
      (fun env => InfraCluster.answer_getInstance_snd) action).only
  refine honly.leads (stable_alone _) fun step hsame hfiled => ?_
  unfold Filed
  rw [show step.after.infra = step.before.infra from hsame step.before]
  exact hfiled

theorem leads_create (bytes : ByteArray) :
    (create Scope.sync s bytes).Leads Alone (Filed s vm secret) (IfOk fun _ env =>
      vm = none ∧ ∃ payload created, Payload.addHostname bytes s.name = .ok payload ∧
        created.secretRefs = [ignitionSecretName s.name] ∧
        Filed s (some created) (some (secret.getD (s.ignitionSecret payload))) env) := by
  unfold create
  cases hpayload : Payload.addHostname bytes s.name with
  | error e => exact leads_stepFailed _ _ _ _
  | ok payload =>
    refine (leads_ensureSecret payload).bind fun result => ?_
    cases result with
    | error e => exact leads_pure (stable_alone _) fun _ _ _ h => by simp at h
    | ok _ =>
      dsimp only
      cases hvm : s.virtualMachine with
      | error e => exact leads_stepFailed _ _ _ _
      | ok desired =>
        obtain ⟨-, mode, -, rfl⟩ := Scope.virtualMachine_eq_ok_iff.mp hvm
        refine Program.Leads.of_imp ((leads_createVm rfl).bind fun result => ?_)
          fun env h => h () rfl
        cases result with
        | error e => exact leads_pure (stable_alone _) fun _ _ _ h => by simp at h
        | ok created =>
          intro env steps r env' h hcourse _ _
          obtain ⟨hnone, hspec, hfiled⟩ := h created rfl
          exact ⟨hnone, payload, created, rfl, VirtualMachine.secretRefs_congr hspec,
            leads_observe created .create env steps r env' hfiled hcourse⟩

end Alone

/-- A virtual machine that was created refers to one secret, which then is in place.  Where there
was none of its name, it holds the payload that the virtual machine was created with, as its only
entry; one that was there already is kept as it was. -/
theorem create_boots_from_secret {env env' : Environment} {s s' : Scope} {bytes : ByteArray}
    (h : env.run .memory (create Scope.sync s bytes) = (.ok s', env')) :
    env.infra.virtualMachines s.infraNs s.name = none ∧
    (∃ vm, env'.infra.virtualMachines s.infraNs s.name = some vm ∧
      vm.secretRefs = [ignitionSecretName s.name]) ∧
    (env.infra.secrets s.infraNs (ignitionSecretName s.name) = none →
      ∃ secret payload, Payload.addHostname bytes s.name = .ok payload ∧
        env'.infra.secrets s.infraNs (ignitionSecretName s.name) = some secret ∧
        secret.data = some (.singleton "userdata" payload)) ∧
    ∀ kept, env.infra.secrets s.infraNs (ignitionSecretName s.name) = some kept →
      env'.infra.secrets s.infraNs (ignitionSecretName s.name) = some kept := by
  have hleads := (leads_create (s := s) bytes).run env ⟨rfl, rfl⟩
  rw [h] at hleads
  obtain ⟨hnone, payload, created, hpayload, hrefs, hvm, hsecret⟩ := hleads s' rfl
  refine ⟨hnone, ⟨created, hvm, hrefs⟩, fun habsent => ?_, fun kept hkept => ?_⟩
  · rw [habsent] at hsecret
    exact ⟨_, payload, hpayload, hsecret, rfl⟩
  · rw [hkept] at hsecret
    exact hsecret

/-- The scope of a small machine. -/
def workerScope : Scope where
  machine := Machine.worker
  providerSpec := { ignitionSecretName := "payload", networkName := "net", sourcePvcName := "disk" }
  settings := ⟨⟨"infra", "c"⟩, {}⟩

def nothing : Environment := { now := ⟨0, 0⟩ }

theorem create_boots_from_secret_worker :
    ∃ s' env',
      nothing.run .memory (create Scope.sync workerScope "\x7b\x7d".toUTF8) = (.ok s', env') ∧
      ∃ secret payload, Payload.addHostname "\x7b\x7d".toUTF8 "worker" = .ok payload ∧
        env'.infra.secrets "infra" "worker-ignition" = some secret ∧
        secret.data = some (.singleton "userdata" payload) := by
  have hrun : ∃ s' env', nothing.run .memory (create Scope.sync workerScope "\x7b\x7d".toUTF8) =
      (.ok s', env') := ⟨_, _, rfl⟩
  obtain ⟨s', env', hrun⟩ := hrun
  obtain ⟨-, -, hpayload, -⟩ := create_boots_from_secret hrun
  exact ⟨s', env', hrun, hpayload rfl⟩

/-- A machine is created, deleted and created anew with another payload: the secret still holds the
first one. -/
theorem create_keeps_old_payload :
    ∃ s' env' secret payload,
      ((nothing.run .memory (create Scope.sync workerScope "\x7b\x7d".toUTF8)).2.run .memory
        (delete workerScope)).2.run .memory
          (create Scope.sync workerScope "\x7b\"a\":1\x7d".toUTF8) = (.ok s', env') ∧
      Payload.addHostname "\x7b\"a\":1\x7d".toUTF8 "worker" = .ok payload ∧
      env'.infra.secrets "infra" "worker-ignition" = some secret ∧
      secret.data ≠ some (.singleton "userdata" payload) := by
  refine ⟨_, _, _, _, rfl, rfl, rfl, ?_⟩
  decide +kernel

end Lifecycle

end MachineActuator
