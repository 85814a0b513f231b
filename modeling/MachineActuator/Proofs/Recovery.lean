import Mathlib
import MachineActuator.Proofs.Cluster.Soundness
import MachineActuator.Proofs.Machine.Create
import MachineActuator.Proofs.Machine.Sync

/-! # Recovery

Machines are applied and cleaned up while any call of the clusters may fail, so an operation can
stop anywhere (`Faulty`).  Both clusters stay sound all the same, as no call of an operation makes
them otherwise (`sound_of_faulty`, `sound_of_reachable`).  In a sound environment an application in
which nothing fails brings the machine in line, whether it has to create the virtual machine
(`exists_created`) or to update what was left behind (`exists_updated`), so no failure has to be
mended by hand (`apply_recovers`). -/

namespace MachineActuator.Recovery

open InfraCluster (differs spawned)
open Lifecycle (Observed createdEnv renewed renewedEnv)
open Operation (Persisted)
open StringMap (entry)

/-! ### Runs with failures -/

/-- A run in which every call of a cluster may fail with any error, which leaves the cluster as it
was, and in which the infrastructure may report on its virtual machines at any time. -/
inductive Faulty {α : Type} : Environment → Program α → α → Environment → Prop
  | done {env : Environment} {a : α} : Faulty env (.done a) a env
  | answered {env env' : Environment} {e : Effect} {next : e.Answer → Program α} {a : α}
      (rest : Faulty (Environment.answer .memory e env).2
        (next (Environment.answer .memory e env).1) a env') :
      Faulty env (.perform e next) a env'
  | infraFailed {env env' : Environment} {call : InfraCall}
      {next : Except ClientError call.Result → Program α} {a : α} (error : ClientError)
      (rest : Faulty env (next (.error error)) a env') :
      Faulty env (.perform (.infra call) next) a env'
  | tenantFailed {env env' : Environment} {call : TenantCall}
      {next : Except ClientError call.Result → Program α} {a : α} (error : ClientError)
      (rest : Faulty env (next (.error error)) a env') :
      Faulty env (.perform (.tenant call) next) a env'
  | reported {env env' : Environment} {p : Program α} {a : α} (ns name : String)
      (status : VirtualMachineStatus)
      (rest : Faulty { env with infra := env.infra.setStatus ns name status } p a env') :
      Faulty env p a env'

theorem Faulty.of_run {α : Type} (env : Environment) (p : Program α) :
    Faulty env p (env.run .memory p).1 (env.run .memory p).2 := by
  induction p generalizing env with
  | done a => exact .done
  | perform e next ih => exact .answered (ih _ _)

/-- What can be reached from an empty infrastructure cluster by applying and cleaning up machines
as they are stored, with failures anywhere.  In between virtual machines change their status, time
passes, host names move, and kinds of calls start and cease to fail. -/
inductive Reachable (settings : Settings) : Environment → Prop
  | start {env : Environment} (empty : env.infra = {}) (tenant : env.tenant.Sound) :
      Reachable settings env
  | applied {env env' : Environment} {ns name : String} {m : Machine}
      {result : Except ControllerError FollowUp} (before : Reachable settings env)
      (stored : env.tenant.machines ns name = some m)
      (run : Faulty env (Machine.apply settings m) result env') : Reachable settings env'
  | cleanedUp {env env' : Environment} {ns name : String} {m : Machine}
      {result : Except ControllerError FollowUp} (before : Reachable settings env)
      (stored : env.tenant.machines ns name = some m)
      (run : Faulty env (Machine.cleanup settings m) result env') : Reachable settings env'
  | reported {env : Environment} (before : Reachable settings env) (ns name : String)
      (status : VirtualMachineStatus) :
      Reachable settings { env with infra := env.infra.setStatus ns name status }
  | elsewhere {env : Environment} (before : Reachable settings env) (now : Instant)
      (hosts : String → List Ipv4) (infraFailures : InfraOperation → Option String)
      (tenantFailures : TenantOperation → Option String) :
      Reachable settings
        { env with
          infra := { env.infra with failures := infraFailures }
          tenant := { env.tenant with failures := tenantFailures }
          hosts, now }

/-! ### The invariant -/

/-- Both clusters are sound. -/
structure Sound (env : Environment) : Prop where
  infra : env.infra.Sound
  tenant : env.tenant.Sound

variable {settings : Settings} {env env' : Environment}

theorem Sound.answer (h : Sound env) {e : Effect} (htame : e.Tame) :
    Sound (Environment.answer .memory e env).2 := by
  cases e with
  | infra call => exact ⟨h.infra.answer htame, h.tenant⟩
  | tenant call => exact ⟨h.infra, h.tenant.answer htame⟩
  | changeFinalizers ns name change =>
    simp only [Environment.answer, Environment.changeFinalizers]
    split
    · exact h
    · exact ⟨h.infra, h.tenant⟩
  | resolve host => exact h
  | now => exact h
  | publish event => exact ⟨h.infra, h.tenant⟩
  | log line => exact ⟨h.infra, h.tenant⟩

theorem sound_of_faulty {α : Type} {p : Program α} {a : α} (h : Faulty env p a env')
    (htame : p.Only Effect.Tame) (hsound : Sound env) : Sound env' := by
  induction h with
  | done => exact hsound
  | answered _ ih => exact ih (htame.2 _) (hsound.answer htame.1)
  | infraFailed error _ ih => exact ih (htame.2 _) hsound
  | tenantFailed error _ ih => exact ih (htame.2 _) hsound
  | reported ns name status _ ih =>
    exact ih htame ⟨hsound.infra.setStatus ns name status, hsound.tenant⟩

theorem sound_of_reachable (h : Reachable settings env) : Sound env := by
  induction h with
  | start empty tenant =>
    refine ⟨?_, tenant⟩
    rw [empty]
    exact InfraCluster.sound_empty
  | applied _ _ run ih =>
    exact sound_of_faulty run ((Machine.only_apply _ _).mono fun _ h => h.tame) ih
  | cleanedUp _ _ run ih =>
    exact sound_of_faulty run ((Machine.only_cleanup _ _).mono fun _ h => h.tame) ih
  | reported _ ns name status ih => exact ⟨ih.infra.setStatus ns name status, ih.tenant⟩
  | elsewhere _ now hosts infraFailures tenantFailures ih =>
    refine ⟨⟨ih.infra.spawns, ?_⟩, ih.tenant⟩
    intro ns name vm hvm
    exact (ih.infra.backed ns name vm hvm).of_instances rfl

/-! ### Machines in line -/

/-- The virtual machine is the one that was asked for, and the machine has taken over what there is
to know of it. -/
structure InLine (infraNs name : String) (desired vm : VirtualMachine) (m : Machine) : Prop where
  spec : vm.spec = desired.spec
  labels : vm.metadata.labels = desired.metadata.labels
  annotations : vm.metadata.annotations = desired.metadata.annotations
  providerId : m.spec.providerId = some ("kubevirt://" ++ infraNs ++ "/" ++ name)
  vmId : ∃ uid, vm.metadata.uid = some uid ∧ entry m.metadata.annotations vmIdAnnotation = some uid
  state : entry m.metadata.annotations instanceStateAnnotation =
    some (VmState.ofStatus vm.observedStatus).text
  addresses : ∃ others, (m.status.getD {}).addresses =
    { type := "InternalDNS", address := name } :: others
  providerStatus : ∃ document status, (m.status.getD {}).providerStatus = some document ∧
    document.get? "virtualMachineStatus" = some status ∧
    status.get? "created" = some (.bool vm.observedStatus.created) ∧
    status.get? "ready" = some (.bool vm.observedStatus.ready)

theorem InLine.of_persisted {infraNs name : String} {desired vm : VirtualMachine}
    {vmi : VirtualMachineInstance} {ips : List Ipv4} {m r : Machine} {c c' : TenantCluster}
    (h : Persisted m (Scope.syncedMachine m vm vmi (providerIdOf infraNs name) ips)
      ⟨vm.observedStatus⟩ c c' r)
    (hplain : desired.spec.Plain) (hvm : differs desired vm = false)
    (huid : ∃ uid, vm.metadata.uid = some uid) (hvmi : vmi.metadata.name = some name) :
    InLine infraNs name desired vm r := by
  obtain ⟨hspec, hlabels, hannotations⟩ := (Lifecycle.differs_eq_false_iff hplain).mp hvm
  refine ⟨hspec.symm, hlabels.symm, hannotations.symm, h.providerId, ?_, ?_, ?_, ?_⟩
  · obtain ⟨uid, huid⟩ := huid
    refine ⟨uid, huid, (entry_congr h.annotations _).trans ?_⟩
    exact (Scope.entry_syncedAnnotations_vmId _ _).trans (congrArg (fun u => some (u.getD "")) huid)
  · exact (entry_congr h.annotations _).trans (Scope.entry_syncedAnnotations_state _ _)
  · have haddresses : (r.status.getD {}).addresses = addressesOf (vmi.metadata.name.getD "") ips :=
      h.addresses
    rw [hvmi] at haddresses
    exact ⟨_, haddresses⟩
  · obtain ⟨status, hstatus, hcreated, hready⟩ := ProviderStatus.get?_mergePatch_toJson
      ((m.status.getD {}).providerStatus.getD .null) ⟨vm.observedStatus⟩
    exact ⟨_, status, h.providerStatus, hstatus, hcreated, hready⟩

/-- The machine of this name and its virtual machine are stored and in line. -/
def Settled (infraNs ns name : String) (desired : VirtualMachine) (env : Environment) : Prop :=
  ∃ vm m, env.infra.virtualMachines infraNs name = some vm ∧ env.tenant.machines ns name = some m ∧
    InLine infraNs name desired vm m

/-! ### Applying without failures -/

variable {name : String} {s : Scope} {desired : VirtualMachine}

theorem exists_created {ns : String} {secret : Secret} {bytes payload : ByteArray}
    (hsound : Sound env) (hup : env.Healthy) (hnow : env.now.Valid)
    (hstored : env.tenant.machines ns s.name = some s.machine)
    (hname : s.machine.metadata.name = some s.name)
    (hscope : Scope.ofMachine s.settings s.machine = .ok s)
    (hdesired : s.virtualMachine = .ok desired)
    (hsecret : env.tenant.secrets s.ns s.providerSpec.ignitionSecretName = some secret)
    (hbytes : secret.get? Operation.userDataKey = some bytes)
    (hpayload : Payload.addHostname bytes s.name = .ok payload)
    (hnone : env.infra.virtualMachines s.infraNs s.name = none) :
    ∃ env' : Environment,
      env.outcome (Operation.create s.settings s.machine) = (.ok (), env'.unlogged) ∧
      Settled s.infraNs ns s.name desired env' := by
  have hfiled := hsound.tenant ns s.name s.machine hstored
  have hup' : (createdEnv env s payload (env.infra.admitted s.infraNs desired)).Healthy :=
    ⟨hup.infra, hup.tenant⟩
  obtain ⟨v, hv⟩ := hfiled.read
  obtain ⟨c, r, hpersist, hr, hc⟩ := Operation.outcome_persist_synced .create
    (env.infra.admitted s.infraNs desired)
    (spawned s.infraNs s.name (env.infra.admitted s.infraNs desired))
    (providerIdOf s.infraNs s.name) (env.hosts s.name) hup' hnow
    (Machine.wellFormed_of_ofJson? hv) hname hfiled.ns hstored
  have hcreate := Operation.outcome_create hup hsound.infra.spawns hscope hsecret hbytes hpayload
    hdesired hnone hpersist
  refine ⟨_, hcreate, env.infra.admitted s.infraNs desired, r, Store.put_same _ _ _ _, ?_, ?_⟩
  · rw [hc]
    exact Store.put_same _ _ _ _
  · exact InLine.of_persisted hr (Scope.plain_of_virtualMachine hdesired)
      (Lifecycle.differs_of_eq rfl rfl rfl) ⟨_, rfl⟩ rfl

theorem exists_updated {ns : String} {vm : VirtualMachine}
    (hsound : Sound env) (hup : env.Healthy) (hnow : env.now.Valid)
    (hstored : env.tenant.machines ns s.name = some s.machine)
    (hname : s.machine.metadata.name = some s.name)
    (hscope : Scope.ofMachine s.settings s.machine = .ok s)
    (hdesired : s.virtualMachine = .ok desired)
    (hvm : env.infra.virtualMachines s.infraNs s.name = some vm) :
    ∃ env' : Environment,
      env.outcome (Operation.update s.settings s.machine) = (.ok (), env'.unlogged) ∧
      Settled s.infraNs ns s.name desired env' := by
  have hfiled := hsound.tenant ns s.name s.machine hstored
  obtain ⟨⟨vmi, hvmi, hvmiName⟩, ⟨uid, huid⟩, hvmName, hvmNs⟩ := hsound.infra.backed _ _ _ hvm
  have hobserved : Observed env s vm vmi :=
    ⟨hvm, ObjectMeta.displayName_of_name hvmName, by rw [hvmNs, Option.getD_some], hvmi⟩
  have hup' : (renewedEnv env s (renewed desired vm)).Healthy := ⟨hup.infra, hup.tenant⟩
  obtain ⟨v, hv⟩ := hfiled.read
  obtain ⟨c, r, hpersist, hr, hc⟩ := Operation.outcome_persist_synced .update
    (renewed desired vm) vmi (providerIdOf s.infraNs s.name)
    (env.hosts (vmi.metadata.name.getD "")) hup' hnow (Machine.wellFormed_of_ofJson? hv) hname
    hfiled.ns hstored
  obtain ⟨reported, hupdate, -⟩ :=
    Operation.outcome_update hup hscope hdesired hobserved hpersist
  refine ⟨_, hupdate, renewed desired vm, r, Store.put_same _ _ _ _, ?_, ?_⟩
  · rw [hc]
    exact Store.put_same _ _ _ _
  · exact InLine.of_persisted hr (Scope.plain_of_virtualMachine hdesired)
      (Lifecycle.differs_renewed desired vm)
      ⟨uid, (Lifecycle.renewed_uid desired vm).trans huid⟩ hvmiName

/-- **An application without failures mends whatever failures have left behind.** In every state
that can be reached with failures at any calls, take a stored machine with a name, a valid
configuration, and a payload that takes the host name.  Applying it when no call fails succeeds and
asks to be called again after ten minutes; then the virtual machine is the one that the machine asks
for, and the stored machine has taken over what there is to know of it. -/
theorem apply_recovers {ns : String} {m : Machine} {secret : Secret} {bytes payload : ByteArray}
    (hreachable : Reachable settings env) (hup : env.Healthy) (hnow : env.now.Valid)
    (hstored : env.tenant.machines ns name = some m) (hname : m.metadata.name = some name)
    (hscope : Scope.ofMachine settings m = .ok s) (hdesired : s.virtualMachine = .ok desired)
    (hsecret : env.tenant.secrets s.ns s.providerSpec.ignitionSecretName = some secret)
    (hbytes : secret.get? Operation.userDataKey = some bytes)
    (hpayload : Payload.addHostname bytes s.name = .ok payload) :
    ∃ env', env.run .memory (Machine.apply settings m) = (.ok (.requeue (.ofSeconds 600)), env') ∧
      Settled settings.infra.ns ns name desired env' := by
  obtain ⟨rfl, rfl⟩ := Scope.eq_of_ofMachine hscope
  have hsound := sound_of_reachable hreachable
  obtain rfl : s.name = name := by
    unfold Scope.name
    rw [hname]
    rfl
  have hdisplay := ObjectMeta.displayName_of_name hname
  have happly : ∃ env' : Environment, env.outcome (Machine.apply s.settings s.machine) =
        (.ok (.requeue Machine.resyncPeriod), env'.unlogged) ∧
      Settled s.infraNs ns s.name desired env' := by
    cases hvm : env.infra.virtualMachines s.infraNs s.name with
    | none =>
      obtain ⟨env', hcreate, hsettled⟩ := exists_created hsound hup hnow hstored hname hscope
        hdesired hsecret hbytes hpayload hvm
      rw [← hdisplay] at hvm
      exact ⟨env', Machine.outcome_apply_create hup hvm hcreate, hsettled⟩
    | some vm =>
      obtain ⟨env', hupdate, hsettled⟩ := exists_updated hsound hup hnow hstored hname hscope
        hdesired hvm
      rw [← hdisplay] at hvm
      exact ⟨env', Machine.outcome_apply_update hup hvm hupdate, hsettled⟩
  obtain ⟨env', houtcome, hsettled⟩ := happly
  obtain ⟨log, hrun⟩ := Environment.exists_log_of_outcome houtcome
  exact ⟨_, hrun, hsettled⟩

/-- A worker with its payload, and instances that cannot be looked up. -/
def workerStart : Environment where
  infra := { failures := fun o => if o = .getInstance then some "unavailable" else none }
  tenant := (TenantCluster.addMachine {} Machine.worker).addSecret "ns" "payload"
    (.singleton Operation.userDataKey "\x7b\x7d".toUTF8)
  now := ⟨0, 0⟩

/-- The first application of the worker stops once the virtual machine is created, and the machine
stays without a provider id; the next one takes the virtual machine over. -/
theorem apply_recovers_worker :
    ∃ env env' desired, Reachable ⟨⟨"infra", "c"⟩, {}⟩ env ∧
      (∃ vm, env.infra.virtualMachines "infra" "worker" = some vm) ∧
      env.tenant.machines "ns" "worker" = some Machine.worker ∧
      env.run .memory (Machine.apply ⟨⟨"infra", "c"⟩, {}⟩ Machine.worker) =
        (.ok (.requeue (.ofSeconds 600)), env') ∧
      Settled "infra" "ns" "worker" desired env' := by
  have hepoch : (⟨0, 0⟩ : Instant).Valid := by constructor <;> decide
  have hsound : workerStart.tenant.Sound := by
    intro ns name m hm
    by_cases hkey : ns = "ns" ∧ name = "worker"
    · obtain ⟨rfl, rfl⟩ := hkey
      obtain rfl := Option.some.inj hm
      exact ⟨⟨_, Machine.ofJson?_worker⟩, rfl, rfl⟩
    · exact absurd ((Store.put_of_ne _ _ hkey).symm.trans hm) (by simp [Store.empty])
  have hstart : Reachable ⟨⟨"infra", "c"⟩, {}⟩ { workerStart with infra := {} } :=
    .start rfl hsound
  have hfailing : Reachable ⟨⟨"infra", "c"⟩, {}⟩ workerStart :=
    hstart.elsewhere workerStart.now workerStart.hosts workerStart.infra.failures
      workerStart.tenant.failures
  have hstored : workerStart.tenant.machines "ns" "worker" = some Machine.worker := rfl
  have hstopped := hfailing.applied hstored (.of_run _ _)
  have hmended := hstopped.elsewhere ⟨0, 0⟩ (fun _ => []) (fun _ => none) (fun _ => none)
  have hkept : (workerStart.run .memory
      (Machine.apply ⟨⟨"infra", "c"⟩, {}⟩ Machine.worker)).2.tenant.machines "ns" "worker" =
      some Machine.worker := rfl
  obtain ⟨env', hrun, hsettled⟩ := apply_recovers hmended ⟨fun _ => rfl, fun _ => rfl⟩ hepoch
    hkept rfl rfl rfl rfl rfl rfl
  exact ⟨_, env', _, hmended, ⟨_, rfl⟩, rfl, hrun, hsettled⟩

end MachineActuator.Recovery
