import Mathlib
import MachineActuator.Proofs.FinalizerGuard
import MachineActuator.Proofs.Machine.ProviderId
import MachineActuator.Proofs.NodeUpkeep

/-! # Provider ids

A machine and a node belong together when they have one provider id.  The machine gets its from what
is observed of its virtual machine, the node from its own name, and the two agree because a virtual
machine is filed under its own namespace and name, which no call can change (`InfraCluster.Filed`).
So whatever writes a provider id writes that of the virtual machine that it is about
(`ProviderId.Job.Writes.eq`), a machine and the node of its name get the same one, and as there is
no slash in namespace and name, it tells which virtual machine that is (`providerIdOf_inj`). -/

namespace MachineActuator

/-- The text of a provider id gives namespace and name away when there is no slash in them. -/
theorem providerIdOf_inj {ns ns' name name' : String} (hns : '/' ∉ ns.toList)
    (hname : '/' ∉ name.toList) :
    providerIdOf ns name = providerIdOf ns' name' ↔ ns = ns' ∧ name = name' := by
  constructor
  · intro heq
    have hlist : ns.toList ++ '/' :: name.toList = ns'.toList ++ '/' :: name'.toList := by
      have htext := congrArg String.toList heq
      simpa [providerIdOf, String.toList_append] using htext
    obtain ⟨hns, -, hname⟩ := (List.append_cons_inj_of_notMem hns hname).mp hlist
    exact ⟨String.toList_inj.mp hns, String.toList_inj.mp hname⟩
  · rintro ⟨rfl, rfl⟩
    rfl

open Program (Only only_effect only_pure shows_pure)

namespace ProviderId

/-! ### Wherever they come from -/

/-- What the program does that has to do with provider ids: an operation on a machine, the
reconciliation of a machine under its finalizer, and that of a node. -/
inductive Job where
  | operation (settings : Settings) (machine : Machine) (action : MachineAction)
  | machine (settings : Settings) (machine : Machine)
  | node (infraNs : String) (node : Node)

namespace Job

/-- What a job answers when it succeeds. -/
abbrev Answer : Job → Type
  | operation _ _ action => Operation.Answer action
  | machine .. | node .. => FollowUp

/-- What a job does. -/
def program : (job : Job) → Program (Except ControllerError job.Answer)
  | operation settings m action => Operation.perform settings m action
  | machine settings m => m.reconcile settings
  | node infraNs n => n.reconcile infraNs

/-- The namespace of the virtual machine that a job is about. -/
def ns : Job → String
  | operation settings _ _ | machine settings _ => settings.infra.ns
  | node infraNs _ => infraNs

/-- The name of the virtual machine that a job is about. -/
def name : Job → String
  | operation _ m _ | machine _ m => m.metadata.name.getD ""
  | node _ n => n.metadata.displayName

/-- The provider id is written in some course of the job, in surroundings that misfile no virtual
machine. -/
def Writes (job : Job) (providerId : String) : Prop :=
  ∃ (Drift : Environment → Environment → Prop) (env env' : Environment)
    (steps : List Step) (q : Program (Except ControllerError job.Answer)),
    Stable Drift (fun env => env.infra.Filed) ∧ env.infra.Filed ∧
      Course Drift env job.program steps q env' ∧
      ∃ step ∈ steps, step.effect.providerId? = some providerId

end Job

open Operation (shows_of_quiet)

section Machine

variable {Drift : Environment → Environment → Prop}
  (hfiled : Stable Drift fun env => env.infra.Filed) (settings : Settings) {m : Machine}
  (hne : m.metadata.name.getD "" ≠ "")

include hfiled hne

theorem shows_apply : (m.apply settings).Shows Drift (fun env => env.infra.Filed)
    (Operation.Carries settings m) := by
  unfold Machine.apply
  refine Program.Shows.bind (Operation.shows_perform_provider hfiled settings hne .check)
    (Lifecycle.leads_filed hfiled _) fun result => ?_
  cases result with
  | error e => exact shows_pure _
  | ok found =>
    cases found with
    | true =>
      refine (Operation.shows_perform_provider hfiled settings hne .update).bind_of_forall
        fun result => ?_
      cases result with
      | error e => exact shows_pure _
      | ok _ => exact shows_pure _
    | false =>
      refine (Operation.shows_perform_provider hfiled settings hne .create).bind_of_forall
        fun result => ?_
      cases result with
      | error e => exact shows_pure _
      | ok _ => exact shows_pure _

omit hfiled hne in
/-- Neither cleaning up nor changing finalizers writes a provider id. -/
theorem only_release (index : Nat) :
    (Finalizer.release machineFinalizer m.metadata index (m.cleanup settings)).Only
      fun e => e.providerId? = none := by
  have hcleanup : (m.cleanup settings).Only fun e => e.providerId? = none := by
    refine (m.only_cleanup settings).mono fun e he => ?_
    cases e with
    | tenant call => exact he.elim
    | _ => rfl
  unfold Finalizer.release
  split_ifs
  · exact only_pure _
  · refine hcleanup.bind fun result => ?_
    cases result with
    | error e => exact only_pure _
    | ok followUp => exact FinalizerGuard.only_change _ _ _ (fun _ _ => rfl) fun r =>
        FinalizerGuard.only_relay followUp r

theorem shows_reconcile : (m.reconcile settings).Shows Drift (fun env => env.infra.Filed)
    (Operation.Carries settings m) := by
  unfold Machine.reconcile Finalizer.guard
  split
  · refine (shows_apply hfiled settings hne).bind_of_forall fun result => ?_
    cases result with
    | ok followUp => exact shows_pure _
    | error e => exact shows_pure _
  · exact shows_of_quiet (only_release settings _)
  · refine shows_of_quiet ?_
    unfold Finalizer.acquire
    exact FinalizerGuard.only_change _ _ _ (fun _ _ => rfl) fun r =>
      FinalizerGuard.only_relay _ r
  · exact shows_pure _

end Machine

section Upkeep

variable (infraNs : String) (n : Node)

/-- Carrying out what is planned for a node writes no provider id but that of its virtual
machine. -/
theorem only_carryOut (vm? : Option VirtualMachine) :
    (Node.carryOut n.metadata.displayName (n.plan vm? infraNs)).Only
      (Effect.CarriesOnly (providerIdOf infraNs n.metadata.displayName)) := by
  have hquiet {e : Effect} (he : e.providerId? = none) :
      e.CarriesOnly (providerIdOf infraNs n.metadata.displayName) := Effect.carriesOnly_of_none he _
  have hlog (line : LogLine) := hquiet (show (Effect.log line).providerId? = none from rfl)
  cases hplan : n.plan vm? infraNs with
  | delete =>
    refine (only_log hlog _ _).bind fun _ => Only.bind (only_effect (hquiet rfl)) fun answer => ?_
    cases answer with
    | ok _ => exact only_pure _
    | error e =>
      dsimp only
      split_ifs
      · exact (only_log hlog _ _).bind fun _ => only_pure _
      · exact only_pure _
  | requeueAfter delay => exact (only_log hlog _ _).bind fun _ => only_pure _
  | setProviderId providerId =>
    -- the only action that writes one: it is planned with that of the node's own machine
    obtain ⟨vm, -, -, -, rfl⟩ := Upkeep.plan_eq_setProviderId hplan
    have hwrites : (Effect.tenant (.patchNodeProviderId n.metadata.displayName
        (providerIdOf infraNs n.metadata.displayName))).CarriesOnly
          (providerIdOf infraNs n.metadata.displayName) :=
      fun other hother => (Option.some.inj hother).symm
    refine (only_log hlog _ _).bind fun _ => Only.bind (only_effect hwrites) fun answer => ?_
    cases answer with
    | ok _ => exact only_pure _
    | error e => exact only_pure _
  | nothing => exact (only_log hlog _ _).bind fun _ => only_pure _

/-- The upkeep of a node writes no provider id but that of its virtual machine. -/
theorem only_node : (n.reconcile infraNs).Only
    (Effect.CarriesOnly (providerIdOf infraNs n.metadata.displayName)) := by
  have hquiet {e : Effect} (he : e.providerId? = none) :
      e.CarriesOnly (providerIdOf infraNs n.metadata.displayName) := Effect.carriesOnly_of_none he _
  have hlog (line : LogLine) := hquiet (show (Effect.log line).providerId? = none from rfl)
  have hupkeep : (n.upkeep infraNs).Only
      (Effect.CarriesOnly (providerIdOf infraNs n.metadata.displayName)) := by
    unfold Node.upkeep
    refine (only_log hlog _ _).bind fun _ => Only.bind (only_effect (hquiet rfl)) fun answer => ?_
    cases answer with
    | ok vm => exact only_carryOut infraNs n (some vm)
    | error e =>
      dsimp only
      split_ifs
      · exact only_carryOut infraNs n none
      · exact only_pure _
  unfold Node.reconcile
  refine hupkeep.bind fun result => ?_
  split
  · exact only_pure _
  · exact only_pure _
  · exact only_pure _

end Upkeep

/-- A job writes no provider id but that of the virtual machine that it is about. -/
theorem Job.Writes.eq {job : Job} {providerId : String} (h : job.Writes providerId)
    (hne : job.name ≠ "") : providerId = providerIdOf job.ns job.name := by
  obtain ⟨Drift, env, env', steps, q, hfiled, henv, hcourse, step, hstep, hid⟩ := h
  cases job with
  | operation settings m action =>
    exact Operation.shows_perform_provider hfiled settings hne action env steps q env' henv hcourse
      step hstep providerId hid
  | machine settings m =>
    exact shows_reconcile hfiled settings hne env steps q env' henv hcourse step hstep providerId
      hid
  | node infraNs n => exact (hcourse.ensures (only_node infraNs n)).1 step hstep providerId hid

/-! ### Machines and nodes -/

/-- A node of this name that gets a provider id gets this one, and with a virtual machine that is
ready it does get it when it has none. -/
structure GivenToNode (infraNs name providerId : String) : Prop where
  planned : ∀ (node : Node) (vm : VirtualMachine), node.metadata.name = some name →
    node.providerId = "" → vm.observedStatus.ready = true →
      node.plan (some vm) infraNs = .setProviderId providerId
  given : ∀ call : Upkeep.Call, call.Ran infraNs → call.name = name → ∀ other,
    call.result = .ok (.setProviderId other) → other = providerId ∧
      ∃ node, call.after.tenant.nodes name = some node ∧ node.providerId = providerId

theorem givenToNode (infraNs name : String) :
    GivenToNode infraNs name (providerIdOf infraNs name) := by
  refine ⟨fun node vm hname hunset hready => ?_, fun call hran hname other hother => ?_⟩
  · unfold Node.plan
    dsimp only
    rw [hready, hunset, ObjectMeta.displayName_of_name hname]
    rfl
  · subst hname
    obtain ⟨vm?, -, hplan, hafter⟩ := hran.safe.planned _ hother
    obtain ⟨vm, -, -, -, rfl⟩ := Upkeep.plan_eq_setProviderId hplan.symm
    rw [ObjectMeta.displayName_of_name hran.named] at hafter ⊢
    refine ⟨rfl, TenantCluster.withProviderId call.node (providerIdOf infraNs call.name), ?_, rfl⟩
    rw [hafter]
    exact TenantCluster.setNode_same _ _ _

theorem leads_filed_alone {α : Type} (p : Program α) :
    p.Leads Lifecycle.Alone (fun env => env.infra.Filed) fun _ env => env.infra.Filed :=
  Lifecycle.leads_filed (Lifecycle.stable_alone _) p

/-- When a machine that is given as it is stored has been created or updated with success, its
virtual machine is there, and the machine that is stored has the provider id of that virtual
machine, which is the one that a node of its name gets.  And wherever provider ids are written, if
there is no slash in the names, then two of them are equal only if they are of one virtual
machine. -/
theorem provider_ids_agree :
    (∀ (settings : Settings) (m : Machine) (name : String) (env env' : Environment),
      m.metadata.name = some name → name ≠ "" → env.infra.Filed →
      env.tenant.machines (m.metadata.ns.getD "") name = some m →
      env.run .memory (Operation.create settings m) = (.ok (), env') ∨
        env.run .memory (Operation.update settings m) = (.ok (), env') →
      ∃ vm r, env'.infra.virtualMachines settings.infra.ns name = some vm ∧
        env'.tenant.machines (m.metadata.ns.getD "") name = some r ∧
        r.spec.providerId = some (providerIdOf settings.infra.ns name) ∧
        providerIdOf (vm.metadata.ns.getD settings.infra.ns) vm.metadata.displayName =
          providerIdOf settings.infra.ns name ∧
        GivenToNode settings.infra.ns name (providerIdOf settings.infra.ns name)) ∧
    ∀ (job job' : Job) (providerId providerId' : String), job.name ≠ "" → job'.name ≠ "" →
      '/' ∉ job.ns.toList → '/' ∉ job.name.toList → job.Writes providerId →
      job'.Writes providerId' →
      (providerId = providerId' ↔ job.ns = job'.ns ∧ job.name = job'.name) := by
  refine ⟨fun settings m name env env' hname hne hfiled hstored hrun => ?_,
    fun job job' id id' hne hne' hns hslash hwrites hwrites' => ?_⟩
  · have hkey : m.metadata.name.getD "" = name := by rw [hname]; rfl
    have hne' : m.metadata.name.getD "" ≠ "" := hkey ▸ hne
    have hdisplay := ObjectMeta.displayName_of_name hname
    have hbegins : Operation.Begins m env := ⟨hfiled, hdisplay ▸ hstored⟩
    have hends : Operation.Ends settings.infra.ns name m env' ∧ env'.infra.Filed := by
      rw [← hkey]
      obtain hrun | hrun := hrun
      · have hleads := (Operation.leads_create_ends settings hne').run env hbegins
        have hkept := (leads_filed_alone (Operation.create settings m)).run env hfiled
        rw [hrun] at hleads hkept
        exact ⟨hleads () rfl, hkept⟩
      · have hleads := (Operation.leads_update_ends settings hne').run env hbegins
        have hkept := (leads_filed_alone (Operation.update settings m)).run env hfiled
        rw [hrun] at hleads hkept
        exact ⟨hleads () rfl, hkept⟩
    obtain ⟨⟨⟨vm, hvm⟩, r, hr, hid⟩, hfiled'⟩ := hends
    rw [hdisplay] at hr
    exact ⟨vm, r, hvm, hr, hid, hfiled'.providerIdOf_eq hvm hne, givenToNode _ _⟩
  · rw [hwrites.eq hne, hwrites'.eq hne']
    exact providerIdOf_inj hns hslash

/-- A virtual machine that is ready. -/
def readyIn (infraNs : String) : VirtualMachine :=
  { metadata := { name := some "worker", ns := some infraNs }, status := some ⟨true, true⟩ }

/-- A machine and a node of one name, and their virtual machine in one of two infrastructure
namespaces. -/
def workerIn (infraNs : String) : Environment where
  infra := (InfraCluster.addVirtualMachine {} (readyIn infraNs)).addInstance
    { metadata := { name := some "worker", ns := some infraNs } }
  tenant := (TenantCluster.addMachine {} Machine.worker).addNode Upkeep.joined
  now := ⟨0, 0⟩

theorem provider_ids_agree_worker :
    (∃ env' r, (workerIn "infra").run .memory
        (Operation.update ⟨⟨"infra", "c"⟩, {}⟩ Machine.worker) = (.ok (), env') ∧
      env'.tenant.machines "ns" "worker" = some r ∧
      r.spec.providerId = some "kubevirt://infra/worker" ∧
      GivenToNode "infra" "worker" "kubevirt://infra/worker") ∧
    (Job.operation ⟨⟨"infra", "c"⟩, {}⟩ Machine.worker .update).Writes "kubevirt://infra/worker" ∧
    (Job.node "other" Upkeep.joined).Writes "kubevirt://other/worker" ∧
    ("kubevirt://infra/worker" = "kubevirt://other/worker" ↔
      "infra" = "other" ∧ "worker" = "worker") := by
  obtain ⟨hagree, hunique⟩ := provider_ids_agree
  have hfiled (infraNs : String) : (workerIn infraNs).infra.Filed :=
    (InfraCluster.filed_empty.addVirtualMachine _).addInstance _
  have halone : Stable (fun _ _ => False) fun env => env.infra.Filed := fun _ _ h => h.elim
  have hmachine : (Job.operation ⟨⟨"infra", "c"⟩, {}⟩ Machine.worker .update).Writes
      "kubevirt://infra/worker" :=
    ⟨_, workerIn "infra", _, _, _, halone, hfiled _, Course.of_steps _ _ _, by
      simp only [Job.program]
      decide +kernel⟩
  have hnode : (Job.node "other" Upkeep.joined).Writes "kubevirt://other/worker" :=
    ⟨_, workerIn "other", _, _, _, halone, hfiled _, Course.of_steps _ _ _, by
      simp only [Job.program]
      decide +kernel⟩
  have hrun : ∃ env', (workerIn "infra").run .memory
      (Operation.update ⟨⟨"infra", "c"⟩, {}⟩ Machine.worker) = (.ok (), env') := ⟨_, rfl⟩
  obtain ⟨env', hrun⟩ := hrun
  obtain ⟨vm, r, hvm, hr, hid, -, hgiven⟩ := hagree ⟨⟨"infra", "c"⟩, {}⟩ Machine.worker
    "worker" (workerIn "infra") env' rfl (by decide) (hfiled _) rfl (.inr hrun)
  exact ⟨⟨env', r, hrun, hr, hid, hgiven⟩, hmachine, hnode, hunique _ _ _ _ (by decide) (by decide)
    (by decide) (by decide) hmachine hnode⟩

end ProviderId

end MachineActuator
