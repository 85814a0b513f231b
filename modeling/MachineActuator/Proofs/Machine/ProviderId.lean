import Mathlib
import MachineActuator.Proofs.Cluster.Filing
import MachineActuator.Proofs.Machine.ProviderPatch

/-! # Provider ids of machines

What a machine takes over is the provider id that its virtual machine gives, after a creation as
after an update (`Lifecycle.Identified`).  So an operation on a machine writes no other provider id
(`Operation.shows_perform_provider`), and where it succeeds the machine that is stored has it
(`Operation.leads_create_ends`, `Operation.leads_update_ends`). -/

namespace MachineActuator

/-! ### What a scope takes over -/

open Program (Only leads_effect leads_pure only_effect only_pure ensures_pure shows_pure)

namespace Lifecycle

variable {Drift : Environment → Environment → Prop} {s : Scope}

/-- The virtual machine has the provider id of the place where that of the scope is filed. -/
def InPlace (s : Scope) (vm : VirtualMachine) : Prop :=
  providerIdOf (vm.metadata.ns.getD s.infraNs) vm.metadata.displayName =
    providerIdOf s.infraNs s.name

/-- The scope has taken over this provider id. -/
structure Identified (s synced : Scope) : Prop where
  providerId : synced.machine.spec.providerId = some (providerIdOf s.infraNs s.name)
  ns : synced.machine.metadata.ns = s.machine.metadata.ns
  displayName : synced.machine.metadata.displayName = s.machine.metadata.displayName

theorem leads_awaitVm {P : Environment → Prop} {Q : Bool × Scope → Environment → Prop}
    {vmNs vmName : String} : (awaitVm s vmNs vmName).Leads Drift P (IfOk Q) := by
  have hfails : (awaitVm s vmNs vmName).Ensures (fun _ => True) fun r => ∀ env, IfOk Q r env := by
    unfold awaitVm
    refine Only.bind (only_effect trivial) fun now => ?_
    exact (only_log (fun _ => trivial) _ _).bind fun _ => ensures_pure fun _ _ h => by cases h
  exact hfails.leads

theorem ensures_observe_identified {vm : VirtualMachine} (h : InPlace s vm)
    (action : MachineAction) : (observe Scope.sync s vm action).Ensures (fun _ => True) fun r =>
      ∀ synced, r = .ok synced → Identified s synced := by
  have hfailed (e : ControllerError) : ∀ synced, Except.error e = .ok synced →
      Identified s synced := fun _ he => by cases he
  unfold observe
  refine Only.bind (only_effect trivial) fun answer => ?_
  cases answer with
  | error e => exact ensures_stepFailed (fun _ => trivial) hfailed _ _ _ _
  | ok vmi =>
    dsimp only
    rw [h]
    have hsync : (s.sync vm vmi (providerIdOf s.infraNs s.name)).Ensures (fun _ => True) fun r =>
        ∃ ips, r = .ok (s.synced vm vmi (providerIdOf s.infraNs s.name) ips) := by
      unfold Scope.sync
      refine (s.logProviderId _).only_true.bind fun _ => ?_
      refine (only_log (fun _ => trivial) _ _).bind fun _ => ?_
      refine Only.bind (only_effect trivial) fun ips => ?_
      exact (only_log (fun _ => trivial) _ _).bind fun _ => ensures_pure ⟨ips, rfl⟩
    refine hsync.bind ?_
    rintro result ⟨ips, rfl⟩
    refine ensures_pure fun synced hsynced => ?_
    obtain rfl := Except.ok.inj hsynced
    exact ⟨rfl, rfl, rfl⟩

variable (hfiled : Stable Drift fun env => env.infra.Filed)

include hfiled

theorem leads_filed {α : Type} (p : Program α) :
    p.Leads Drift (fun env => env.infra.Filed) fun _ env => env.infra.Filed :=
  p.only_true.leads hfiled fun step _ => step.filed_after

variable (hne : s.name ≠ "")

include hne

theorem leads_createVm_inPlace (mode : String) :
    (createVm s (s.virtualMachineWith mode)).Leads Drift (fun env => env.infra.Filed)
      (IfOk fun created _ => InPlace s created) := by
  have hcall : (Program.infra (.createVirtualMachine s.infraNs (s.virtualMachineWith mode))).Leads
      Drift (fun env => env.infra.Filed) fun answer _ => ∀ created, answer = .ok created →
        InPlace s created := by
    refine leads_effect hfiled (fun _ _ _ _ h => h) fun env h created hcreated => ?_
    obtain ⟨-, -, hstored, -⟩ := InfraCluster.answer_createVirtualMachine_ok
      (show (s.virtualMachineWith mode).metadata.name = some s.name from rfl) hcreated
    exact (h.answer _).providerIdOf_eq hstored hne
  unfold createVm
  refine hcall.bind fun answer => ?_
  cases answer with
  | error e => exact leads_stepFailed _ _ _ _
  | ok created =>
    refine (leads_log (fun _ _ _ h => h) (fun _ _ h => h) _ _).bind fun _ =>
      leads_pure (fun _ _ _ h => h) ?_
    intro env h made hmade
    obtain rfl := Except.ok.inj hmade
    exact h _ rfl

theorem leads_create_identified (bytes : ByteArray) :
    (create Scope.sync s bytes).Leads Drift (fun env => env.infra.Filed)
      (IfOk fun synced _ => Identified s synced) := by
  unfold create
  cases Payload.addHostname bytes s.name with
  | error e => exact leads_stepFailed _ _ _ _
  | ok payload =>
    refine (leads_filed hfiled _).bind fun result => ?_
    cases result with
    | error e => exact leads_pure (fun _ _ _ h => h) fun _ _ _ h => by cases h
    | ok _ =>
      dsimp only
      cases hvm : s.virtualMachine with
      | error e => exact leads_stepFailed _ _ _ _
      | ok desired =>
        obtain ⟨-, mode, -, rfl⟩ := Scope.virtualMachine_eq_ok_iff.mp hvm
        refine (leads_createVm_inPlace hfiled hne mode).bind fun result => ?_
        cases result with
        | error e => exact leads_pure (fun _ _ _ h => h) fun _ _ _ h => by cases h
        | ok created =>
          intro env steps result env' h hcourse synced hsynced
          have hplace := h created rfl
          exact (hcourse.ensures (ensures_observe_identified hplace .create)).2 synced hsynced

theorem leads_replace_identified (mode : String) (existing : VirtualMachine) :
    (replace Scope.sync s (s.virtualMachineWith mode) existing).Leads Drift
      (fun env => env.infra.Filed) (IfOk fun pair _ => Identified s pair.2) := by
  have hcall : (Program.infra (.updateVirtualMachine s.infraNs
      (replacement (s.virtualMachineWith mode) existing))).Leads Drift
        (fun env => env.infra.Filed) fun answer _ => ∀ updated, answer = .ok updated →
          InPlace s updated := by
    refine leads_effect hfiled (fun _ _ _ _ h => h) fun env h updated hupdated => ?_
    have hstored := InfraCluster.stored_of_update (show (replacement (s.virtualMachineWith mode)
      existing).metadata.name = some s.name from rfl) hupdated
    exact (h.answer _).providerIdOf_eq hstored hne
  unfold replace
  refine hcall.bind fun answer => ?_
  cases answer with
  | error e => exact leads_stepFailed _ _ _ _
  | ok updated =>
    refine (leads_log (fun _ _ _ h => h) (fun _ _ h => h) _ _).bind fun _ => ?_
    intro env steps result env' h hcourse pair hpair
    have hplace := h updated rfl
    obtain ⟨observed, mid, early, late, -, hobserved, hrest⟩ := hcourse.bind_done
    have hidentified := (hobserved.ensures (ensures_observe_identified hplace .update)).2
    cases observed with
    | error e =>
      obtain ⟨-, hresult, -⟩ := hrest.of_done
      obtain rfl := Program.done.inj hresult
      cases hpair
    | ok synced =>
      obtain ⟨-, hresult, -⟩ := hrest.of_done
      obtain rfl := Program.done.inj hresult
      obtain rfl := Except.ok.inj hpair
      exact hidentified synced rfl

theorem leads_update_identified :
    (update Scope.sync s).Leads Drift (fun env => env.infra.Filed)
      (IfOk fun pair _ => Identified s pair.2) := by
  unfold update
  cases hvm : s.virtualMachine with
  | error e => exact leads_stepFailed _ _ _ _
  | ok desired =>
    obtain ⟨-, mode, -, rfl⟩ := Scope.virtualMachine_eq_ok_iff.mp hvm
    refine (leads_filed hfiled _).bind fun answer => ?_
    cases answer with
    | ok existing => exact leads_replace_identified hfiled hne mode existing
    | error e =>
      dsimp only
      split_ifs
      · exact leads_awaitVm
      · exact leads_stepFailed _ _ _ _

omit hfiled hne

/-- After a replacement that succeeds the virtual machine is there. -/
theorem leads_replace_stored (mode : String) (existing : VirtualMachine) :
    (replace Scope.sync s (s.virtualMachineWith mode) existing).Leads Alone (fun _ => True)
      (IfOk fun _ env => ∃ vm, env.infra.virtualMachines s.infraNs s.name = some vm) := by
  have hcall : (Program.infra (.updateVirtualMachine s.infraNs
      (replacement (s.virtualMachineWith mode) existing))).Leads Alone (fun _ => True)
        fun answer env => ∀ updated, answer = .ok updated →
          ∃ vm, env.infra.virtualMachines s.infraNs s.name = some vm := by
    refine leads_effect (stable_alone _) (fun _ => stable_alone _) fun env _ updated hupdated => ?_
    exact ⟨updated, InfraCluster.stored_of_update (show (replacement (s.virtualMachineWith mode)
      existing).metadata.name = some s.name from rfl) hupdated⟩
  unfold replace
  refine hcall.bind fun answer => ?_
  cases answer with
  | error e => exact leads_stepFailed _ _ _ _
  | ok updated =>
    refine Program.Leads.mono (Program.Leads.of_imp (leads_infra ?_ fun c =>
      ∃ vm, c.virtualMachines s.infraNs s.name = some vm) fun env h => h updated rfl)
      fun _ _ h _ _ => h
    refine Only.bind (only_effect fun _ => rfl) fun _ => ?_
    refine (sparesInfra_observe updated .update).bind fun result => ?_
    cases result with
    | error e => exact only_pure _
    | ok synced => exact only_pure _

/-- After an update that succeeds the virtual machine is there. -/
theorem leads_update_stored :
    (update Scope.sync s).Leads Alone (fun _ => True) (IfOk fun _ env =>
      ∃ vm, env.infra.virtualMachines s.infraNs s.name = some vm) := by
  unfold update
  cases hvm : s.virtualMachine with
  | error e => exact leads_stepFailed _ _ _ _
  | ok desired =>
    obtain ⟨-, mode, -, rfl⟩ := Scope.virtualMachine_eq_ok_iff.mp hvm
    have hget : (Program.infra (.getVirtualMachine s.infraNs
        (s.virtualMachineWith mode).metadata.displayName)).Leads Alone (fun _ => True)
          fun _ _ => True := fun _ _ _ _ _ _ => trivial
    refine hget.bind fun answer => ?_
    cases answer with
    | ok existing => exact leads_replace_stored mode existing
    | error e =>
      dsimp only
      split_ifs
      · exact leads_awaitVm
      · exact leads_stepFailed _ _ _ _

end Lifecycle
namespace Operation

open Lifecycle (Alone IfOk stable_alone leads_log)

/-! ### What operations carry -/

section Shows

variable {Drift : Environment → Environment → Prop}
  (hfiled : Stable Drift fun env => env.infra.Filed) (settings : Settings) {m : Machine}
  (hne : m.metadata.name.getD "" ≠ "")

/-- The step carries no provider id but that of the place where the virtual machine of the machine
is filed. -/
abbrev Carries (settings : Settings) (m : Machine) (step : Step) : Prop :=
  step.effect.CarriesOnly (providerIdOf settings.infra.ns (m.metadata.name.getD ""))

theorem shows_of_quiet {α : Type} {p : Program α} {P : Environment → Prop} {providerId : String}
    (hp : p.Only fun e => e.providerId? = none) :
    p.Shows Drift P fun step => step.effect.CarriesOnly providerId :=
  hp.shows fun _ h => Effect.carriesOnly_of_none h providerId

/-- Writing back what a scope has taken over carries its provider id. -/
theorem shows_persist_identified {s synced : Scope} {action : MachineAction}
    {P : Environment → Prop} (h : Lifecycle.Identified s synced) :
    (persist s.machine synced.machine action).Shows Drift P fun step =>
      step.effect.CarriesOnly (providerIdOf s.infraNs s.name) := by
  refine only_persist_writesBack.shows fun step hstep providerId hid => ?_
  obtain ⟨-, hafter⟩ := hstep providerId hid
  rw [h.providerId] at hafter
  exact (Option.some.inj hafter).symm

theorem shows_persist_same {P : Environment → Prop} {action : MachineAction} {providerId : String} :
    (persist m m action).Shows Drift P fun step => step.effect.CarriesOnly providerId :=
  only_persist_writesBack.shows fun _ hstep other hother => absurd rfl (hstep other hother).1

include hfiled hne

theorem shows_tryCreate_provider :
    (tryCreate settings m).Shows Drift (fun env => env.infra.Filed) (Carries settings m) := by
  unfold tryCreate
  cases hscope : Scope.ofMachine settings m with
  | error e => exact shows_pure _
  | ok s =>
    obtain ⟨rfl, rfl⟩ := Scope.eq_of_ofMachine hscope
    refine Program.Shows.bind (shows_of_quiet (only_log (fun _ => rfl) _ _))
      (Lifecycle.leads_filed hfiled _) fun _ => ?_
    refine Program.Shows.bind (shows_of_quiet (only_payload s rfl))
      (Lifecycle.leads_filed hfiled _) fun result => ?_
    cases result with
    | error e => exact shows_pure _
    | ok bytes =>
      refine Program.Shows.bind (shows_of_quiet (Lifecycle.only_create_of s (fun _ => rfl)
        (fun _ => rfl) (fun _ => rfl) bytes))
        (Lifecycle.leads_create_identified hfiled hne bytes) fun result => ?_
      cases result with
      | error e => exact shows_persist_same.bind_of_forall fun _ => shows_pure _
      | ok synced =>
        intro env steps q env' h
        have hpersist : (persist s.machine synced.machine .create).Shows Drift (fun _ => True) _ :=
          shows_persist_identified (h synced rfl)
        exact hpersist env steps q env' trivial

theorem shows_tryUpdate_provider :
    (tryUpdate settings m).Shows Drift (fun env => env.infra.Filed) (Carries settings m) := by
  unfold tryUpdate
  cases hscope : Scope.ofMachine settings m with
  | error e => exact shows_pure _
  | ok s =>
    obtain ⟨rfl, rfl⟩ := Scope.eq_of_ofMachine hscope
    refine Program.Shows.bind (shows_of_quiet (only_log (fun _ => rfl) _ _))
      (Lifecycle.leads_filed hfiled _) fun _ => ?_
    refine Program.Shows.bind (shows_of_quiet (Lifecycle.only_update_of s (fun _ => rfl)
      (fun _ => rfl) (fun _ => rfl) rfl)) (Lifecycle.leads_update_identified hfiled hne)
      fun result => ?_
    cases result with
    | error e => exact shows_persist_same.bind_of_forall fun _ => shows_pure _
    | ok pair =>
      intro env steps q env' h
      have hpersist : (persist s.machine pair.2.machine .update).Shows Drift (fun _ => True) _ :=
        shows_persist_identified (h pair rfl)
      refine hpersist.bind_of_forall (fun result => ?_) env steps q env' trivial
      cases result with
      | error e => exact shows_pure _
      | ok _ => exact shows_pure _

/-- Whatever an operation on a machine writes, it writes no provider id but that of the place where
its virtual machine is filed. -/
theorem shows_perform_provider (action : MachineAction) :
    (perform settings m action).Shows Drift (fun env => env.infra.Filed) (Carries settings m) := by
  have hfailure {α : Type} (action : MachineAction) (e : ControllerError) :
      (reportFailure m action e : Program (Except ControllerError α)).Only
        fun e => e.providerId? = none := only_reportFailure (fun _ => rfl) (fun _ => rfl) m action e
  have hsuccess (action : MachineAction) (done : String) :
      (reportSuccess m action done).Only fun e => e.providerId? = none := only_effect rfl
  cases action with
  | create =>
    refine (shows_tryCreate_provider hfiled settings hne).bind_of_forall fun result => ?_
    cases result with
    | ok _ => exact shows_of_quiet ((hsuccess _ _).bind fun _ => only_pure _)
    | error e => exact shows_of_quiet (hfailure .create e)
  | update =>
    refine (shows_tryUpdate_provider hfiled settings hne).bind_of_forall fun result => ?_
    cases result with
    | ok changed =>
      cases changed with
      | true => exact shows_of_quiet ((hsuccess _ _).bind fun _ => only_pure _)
      | false => exact shows_pure _
    | error e => exact shows_of_quiet (hfailure .update e)
  | delete =>
    refine shows_of_quiet ((only_delete settings m).mono fun e he => ?_)
    cases e with
    | tenant call => exact he.elim
    | _ => rfl
  | check => exact shows_of_quiet (only_exists? (fun _ => rfl) (fun _ => rfl) settings m rfl)

end Shows
/-! ### What is stored afterwards -/

section Leads

variable {action : MachineAction}

/-- The machine is stored as it was read, in clusters without misfiled virtual machines. -/
structure Begins (m : Machine) (env : Environment) : Prop where
  filed : env.infra.Filed
  stored : env.tenant.machines (m.metadata.ns.getD "") m.metadata.displayName = some m

/-- The virtual machine is there, and the machine that is stored has its provider id. -/
structure Ends (infraNs name : String) (m : Machine) (env : Environment) : Prop where
  vm : ∃ vm, env.infra.virtualMachines infraNs name = some vm
  machine : StoredWith (m.metadata.ns.getD "") m.metadata.displayName
    (some (providerIdOf infraNs name)) env

variable {s : Scope}

/-- Only writing to the tenant cluster could make a difference. -/
theorem leads_begins {α : Type} {p : Program α} (hp : p.Only fun e => ¬ e.Writes) (m : Machine) :
    p.Leads Alone (Begins m) fun _ => Begins m := by
  refine hp.leads (stable_alone _) fun step hstep hbegins => ⟨step.filed_after hbegins.filed, ?_⟩
  rw [Step.tenant_after hstep]
  exact hbegins.stored

theorem leads_persist_ends {synced : Scope} (h : Lifecycle.Identified s synced) :
    (persist s.machine synced.machine action).Leads Alone
      (fun env => (∃ vm, env.infra.virtualMachines s.infraNs s.name = some vm) ∧
        Begins s.machine env)
      (IfOk fun _ => Ends s.infraNs s.name s.machine) := by
  have hstored : (persist s.machine synced.machine action).Leads Alone _ _ :=
    leads_persist_stored
  rw [h.ns, h.displayName, h.providerId] at hstored
  have hinfra := leads_infra (@sparesInfra_persist s.machine synced.machine action) fun c =>
    ∃ vm, c.virtualMachines s.infraNs s.name = some vm
  intro env steps result env' ⟨hvm, hbegins⟩ hcourse a ha
  exact ⟨hinfra env steps result env' hvm hcourse,
    hstored env steps result env' hbegins.stored hcourse a ha⟩

theorem leads_failed {α β : Type} {p : Program α} {P : Environment → Prop}
    {Q : β → Environment → Prop} (e : ControllerError) :
    (p >>= fun _ => pure (.error e) : Program (Except ControllerError β)).Leads Alone P
      (IfOk Q) := by
  have hfails : (p >>= fun _ => pure (.error e) : Program (Except ControllerError β)).Ensures
      (fun _ => True) fun r => ∀ env, IfOk Q r env :=
    p.only_true.bind fun _ => ensures_pure fun _ _ h => by cases h
  exact hfails.leads

theorem leads_reportFailure {α : Type} {m : Machine} {P : Environment → Prop}
    {Q : α → Environment → Prop} (e : ControllerError) :
    (reportFailure m action e : Program (Except ControllerError α)).Leads Alone P (IfOk Q) := by
  have hfails : (reportFailure m action e : Program (Except ControllerError α)).Ensures
      (fun _ => True) fun r => ∀ env, IfOk Q r env := by
    unfold reportFailure
    refine (only_log (fun _ => trivial) _ _).bind fun _ => ?_
    exact Only.bind (only_effect trivial) fun _ => ensures_pure fun _ _ h => by cases h
  exact hfails.leads

theorem leads_reported {α : Type} {m : Machine} {infraNs name : String} (a : α) (done : String) :
    (reportSuccess m action done >>= fun _ => pure (.ok ()) :
      Program (Except ControllerError Unit)).Leads Alone
        (IfOk (fun _ => Ends infraNs name m) (.ok a)) (IfOk fun _ => Ends infraNs name m) := by
  have hpublish : (reportSuccess m action done).Leads Alone
      (IfOk (fun _ => Ends infraNs name m) (.ok a)) fun _ => Ends infraNs name m := by
    refine leads_effect (stable_alone _) (fun _ => stable_alone _) fun env h => ?_
    obtain ⟨hvm, hmachine⟩ := h a rfl
    exact ⟨hvm, hmachine⟩
  exact hpublish.bind fun _ => leads_pure (stable_alone _) fun _ h _ _ => h

variable (settings : Settings) {m : Machine} (hne : m.metadata.name.getD "" ≠ "")

include hne

theorem leads_tryCreate_ends :
    (tryCreate settings m).Leads Alone (Begins m)
      (IfOk fun _ => Ends settings.infra.ns (m.metadata.name.getD "") m) := by
  unfold tryCreate
  cases hscope : Scope.ofMachine settings m with
  | error e => exact leads_pure (stable_alone _) fun _ _ _ h => by cases h
  | ok s =>
    obtain ⟨rfl, rfl⟩ := Scope.eq_of_ofMachine hscope
    refine (leads_begins (only_log (fun _ => id) _ _) s.machine).bind fun _ => ?_
    refine (leads_begins (only_payload s id) s.machine).bind fun result => ?_
    cases result with
    | error e => exact leads_pure (stable_alone _) fun _ _ _ h => by cases h
    | ok bytes =>
      have hcreate : (Lifecycle.create Scope.sync s bytes).Leads Alone (Begins s.machine)
          (IfOk fun synced env => Lifecycle.Identified s synced ∧
            (∃ vm, env.infra.virtualMachines s.infraNs s.name = some vm) ∧
              Begins s.machine env) := by
        intro env steps result env' hbegins hcourse synced hsynced
        obtain ⟨-, payload, created, -, -, hvm, -⟩ :=
          Lifecycle.leads_create bytes env steps result env' ⟨rfl, rfl⟩ hcourse synced hsynced
        exact ⟨Lifecycle.leads_create_identified (stable_alone _) hne bytes env steps result env'
            hbegins.filed hcourse synced hsynced, ⟨created, hvm⟩,
          leads_begins (Lifecycle.only_create_of s (fun _ => id) (fun _ => id) (fun _ => id) bytes)
            s.machine env steps result env' hbegins hcourse⟩
      refine hcreate.bind fun result => ?_
      cases result with
      | error e => exact leads_failed e
      | ok synced =>
        intro env steps result env' h
        obtain ⟨hidentified, hvm, hbegins⟩ := h synced rfl
        exact leads_persist_ends hidentified env steps result env' ⟨hvm, hbegins⟩

theorem leads_tryUpdate_ends :
    (tryUpdate settings m).Leads Alone (Begins m)
      (IfOk fun _ => Ends settings.infra.ns (m.metadata.name.getD "") m) := by
  unfold tryUpdate
  cases hscope : Scope.ofMachine settings m with
  | error e => exact leads_pure (stable_alone _) fun _ _ _ h => by cases h
  | ok s =>
    obtain ⟨rfl, rfl⟩ := Scope.eq_of_ofMachine hscope
    refine (leads_begins (only_log (fun _ => id) _ _) s.machine).bind fun _ => ?_
    have hupdate : (Lifecycle.update Scope.sync s).Leads Alone (Begins s.machine)
        (IfOk fun pair env => Lifecycle.Identified s pair.2 ∧
          (∃ vm, env.infra.virtualMachines s.infraNs s.name = some vm) ∧ Begins s.machine env) := by
      intro env steps result env' hbegins hcourse pair hpair
      exact ⟨Lifecycle.leads_update_identified (stable_alone _) hne env steps result env'
          hbegins.filed hcourse pair hpair,
        Lifecycle.leads_update_stored env steps result env' trivial hcourse pair hpair,
        leads_begins (Lifecycle.only_update_of s (fun _ => id) (fun _ => id) (fun _ => id) id)
          s.machine env steps result env' hbegins hcourse⟩
    refine hupdate.bind fun result => ?_
    cases result with
    | error e => exact leads_failed e
    | ok pair =>
      intro env steps result env' h
      obtain ⟨hidentified, hvm, hbegins⟩ := h pair rfl
      refine (leads_persist_ends hidentified).bind (fun result => ?_) env steps result env'
        ⟨hvm, hbegins⟩
      cases result with
      | error e => exact leads_pure (stable_alone _) fun _ _ _ h => by cases h
      | ok _ => exact leads_pure (stable_alone _) fun _ h _ _ => h () rfl

/-- After a creation that succeeds the machine that is stored has the provider id of its virtual
machine. -/
theorem leads_create_ends :
    (create settings m).Leads Alone (Begins m)
      (IfOk fun _ => Ends settings.infra.ns (m.metadata.name.getD "") m) := by
  unfold create
  refine (leads_tryCreate_ends settings hne).bind fun result => ?_
  cases result with
  | ok _ => exact leads_reported _ _
  | error e => exact leads_reportFailure e

/-- After an update that succeeds the machine that is stored has the provider id of its virtual
machine. -/
theorem leads_update_ends :
    (update settings m).Leads Alone (Begins m)
      (IfOk fun _ => Ends settings.infra.ns (m.metadata.name.getD "") m) := by
  unfold update
  refine (leads_tryUpdate_ends settings hne).bind fun result => ?_
  cases result with
  | ok changed =>
    cases changed with
    | true => exact leads_reported _ _
    | false => exact leads_pure (stable_alone _) fun _ h _ _ => h false rfl
  | error e => exact leads_reportFailure e

end Leads

end Operation

end MachineActuator
