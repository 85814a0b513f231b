import Mathlib
import MachineActuator.Proofs.Machine.Sync

/-! # The update loop settles

A machine is updated again and again, each time as it is stored by then.  What a sync writes to
the machine is copied to its virtual machine by the next update, so it takes two calls until
nothing changes any more: the first brings the machine in sync, the second brings the virtual
machine in line with the labels and annotations that the first has set, and from the third on
nothing is changed, sent or published (`update_settles`).

`Ready` is what every call needs and leaves, and `Stage` adds what is known after a number of
calls. -/

namespace MachineActuator.UpdateLoop

open InfraCluster (differs)
open Lifecycle (Observed renewed renewedEnv)
open Operation (wanted)
open Scope (InSync)

/-- Calls of update on the machine of this name, each given the machine as it is stored by then,
at times that may be anything. -/
inductive Calls (settings : Settings) (ns name : String) (start : Environment) :
    Nat → Environment → Prop
  | none : Calls settings ns name start 0 start
  | next {n : Nat} {env : Environment} {m : Machine} {now : Instant}
      (before : Calls settings ns name start n env)
      (stored : env.tenant.machines ns name = some m) (valid : now.Valid) :
      Calls settings ns name start (n + 1)
        ({ env with now : Environment }.run .memory (Operation.update settings m)).2

/-- What a call needs: a machine with a valid configuration, and its virtual machine with the
instance, all of them stored under their own names. -/
structure Ready (settings : Settings) (ns name : String) (env : Environment) (s : Scope)
    (mode : String) (vm : VirtualMachine) (vmi : VirtualMachineInstance) : Prop where
  healthy : env.Healthy
  stored : env.tenant.machines ns name = some s.machine
  wellFormed : s.machine.WellFormed
  name : s.machine.metadata.name = some name
  ns : s.machine.metadata.ns.getD "" = ns
  scope : Scope.ofMachine settings s.machine = .ok s
  complete : Scope.missingField? s.providerSpec = none
  accessMode : s.accessMode = .ok mode
  observed : Observed env s vm vmi
  sorted : ((s.machine.status.getD {}).providerStatus.getD .null).Sorted
  closed : ProviderStatus.Closed ((s.machine.status.getD {}).providerStatus.getD .null)

/-- What the machine of a scope is in sync with. -/
abbrev Synced (env : Environment) (s : Scope) (vm : VirtualMachine)
    (vmi : VirtualMachineInstance) : Prop :=
  InSync vm vmi (providerIdOf s.infraNs s.name) (env.hosts (vmi.metadata.name.getD "")) s.machine

/-- The environment after a call that has stored this virtual machine. -/
def after (env : Environment) (now : Instant) (s : Scope) (vm : VirtualMachine)
    (tenant : TenantCluster) (events : List MachineEvent) : Environment :=
  { env with
    infra := { env.infra with
      virtualMachines := env.infra.virtualMachines.put s.infraNs s.name vm }
    tenant, events, now }

variable {settings : Settings} {ns name : String} {env : Environment} {s : Scope} {mode : String}
  {vm : VirtualMachine} {vmi : VirtualMachineInstance} {now : Instant}

/-! ### One call -/

namespace Ready

theorem desired (h : Ready settings ns name env s mode vm vmi) :
    s.virtualMachine = .ok (s.virtualMachineWith mode) :=
  Scope.virtualMachine_eq_ok_iff.mpr ⟨h.complete, mode, h.accessMode, rfl⟩

/-- What a call comes to, given what writing back comes to. -/
theorem outcome_call (h : Ready settings ns name env s mode vm vmi) {c : TenantCluster}
    (hpersist : (after env now s (renewed (s.virtualMachineWith mode) vm) env.tenant
      env.events).outcome (Operation.persist s.machine
        (wanted env s (renewed (s.virtualMachineWith mode) vm) vmi) .update) =
      (.ok (), (after env now s (renewed (s.virtualMachineWith mode) vm) c
        env.events).unlogged)) :
    ∃ reported,
      { env with now : Environment }.outcome (Operation.update settings s.machine) =
        (.ok (), (after env now s (renewed (s.virtualMachineWith mode) vm) c
          (env.events ++ reported)).unlogged) ∧
      (vm.metadata.resourceVersion =
          (renewed (s.virtualMachineWith mode) vm).metadata.resourceVersion →
        reported = []) := by
  have hup : Environment.Healthy { env with now } := ⟨h.healthy.infra, h.healthy.tenant⟩
  have hobserved : Observed { env with now } s vm vmi :=
    ⟨h.observed.machine, h.observed.name, h.observed.ns, h.observed.running⟩
  exact Operation.outcome_update hup h.scope h.desired hobserved hpersist

/-- The first call: the machine comes in sync with its virtual machine. -/
theorem first_call (h : Ready settings ns name env s mode vm vmi) (hnow : now.Valid) :
    ∃ c r events,
      { env with now : Environment }.outcome (Operation.update settings s.machine) =
        (.ok (), (after env now s (renewed (s.virtualMachineWith mode) vm) c events).unlogged) ∧
      Ready settings ns name
        (after env now s (renewed (s.virtualMachineWith mode) vm) c events)
        { s with machine := r } mode (renewed (s.virtualMachineWith mode) vm) vmi ∧
      Synced env { s with machine := r } (renewed (s.virtualMachineWith mode) vm) vmi := by
  have hup : (after env now s (renewed (s.virtualMachineWith mode) vm) env.tenant
      env.events).Healthy := ⟨h.healthy.infra, h.healthy.tenant⟩
  obtain ⟨c, r, hpersist, hr, hc⟩ := Operation.outcome_persist_synced .update
    (renewed (s.virtualMachineWith mode) vm) vmi (providerIdOf s.infraNs s.name)
    (env.hosts (vmi.metadata.name.getD "")) hup hnow h.wellFormed h.name h.ns h.stored
  obtain ⟨reported, houtcome, -⟩ := h.outcome_call hpersist
  have hsync := InSync.of_persisted hr h.sorted h.closed
  have hlabels : Scope.clusterId r = Scope.clusterId s.machine := by
    rw [Scope.clusterId_eq_entry, Scope.clusterId_eq_entry, entry_congr hr.labels]
    exact congrArg (·.getD "") (Scope.entry_syncedLabels_clusterId _ _)
  have hname : ({ s with machine := r } : Scope).name = s.name := by
    unfold Scope.name
    rw [hr.name]
  refine ⟨c, r, env.events ++ reported, houtcome, ?_, by unfold Synced; rw [hname]; exact hsync⟩
  constructor
  case healthy =>
    refine ⟨h.healthy.infra, ?_⟩
    intro o
    rw [after, hc]
    exact h.healthy.tenant o
  case stored =>
    rw [after, hc]
    exact Store.put_same _ _ _ _
  case wellFormed => exact hr.wellFormed
  case name => exact hr.name.trans h.name
  case ns => exact (congrArg (·.getD "") hr.ns).trans h.ns
  case scope => exact Scope.ofMachine_congr h.scope hr.providerSpec hlabels
  case complete => exact h.complete
  case accessMode => exact (Scope.accessMode_congr hr.name).trans h.accessMode
  case observed =>
    obtain ⟨hvm, hvmName, hvmNs, hrunning⟩ := h.observed.renewed (s.virtualMachineWith mode)
    rw [← hname] at hvm hvmName hrunning
    exact ⟨hvm, hvmName, hvmNs, hrunning⟩
  case sorted =>
    dsimp only
    rw [hsync.providerStatus]
    exact ProviderStatus.sorted_toJson _
  case closed =>
    dsimp only
    rw [hsync.providerStatus]
    exact ProviderStatus.closed_toJson _

/-- A later call: nothing is left to write back, and the virtual machine comes in line with the
machine. -/
theorem later_call (now : Instant) (h : Ready settings ns name env s mode vm vmi)
    (hsync : Synced env s (renewed (s.virtualMachineWith mode) vm) vmi) :
    ∃ reported,
      { env with now : Environment }.outcome (Operation.update settings s.machine) =
        (.ok (), (after env now s (renewed (s.virtualMachineWith mode) vm) env.tenant
          (env.events ++ reported)).unlogged) ∧
      (vm.metadata.resourceVersion =
          (renewed (s.virtualMachineWith mode) vm).metadata.resourceVersion →
        reported = []) :=
  h.outcome_call (Operation.outcome_persist_same _ hsync.patch?_eq_none
    (hsync.statusPatch?_eq_none _))

/-- Another virtual machine in place of the one of the machine leaves what a call needs. -/
theorem renew (h : Ready settings ns name env s mode vm vmi) (events : List MachineEvent) :
    Ready settings ns name
      (after env now s (renewed (s.virtualMachineWith mode) vm) env.tenant events) s mode
      (renewed (s.virtualMachineWith mode) vm) vmi where
  healthy := ⟨h.healthy.infra, h.healthy.tenant⟩
  stored := h.stored
  wellFormed := h.wellFormed
  name := h.name
  ns := h.ns
  scope := h.scope
  complete := h.complete
  accessMode := h.accessMode
  observed :=
    have hrenewed := h.observed.renewed (s.virtualMachineWith mode)
    ⟨hrenewed.machine, hrenewed.name, hrenewed.ns, hrenewed.running⟩
  sorted := h.sorted
  closed := h.closed

theorem log (h : Ready settings ns name env s mode vm vmi) (log : List LogLine) :
    Ready settings ns name { env with log } s mode vm vmi where
  healthy := ⟨h.healthy.infra, h.healthy.tenant⟩
  stored := h.stored
  wellFormed := h.wellFormed
  name := h.name
  ns := h.ns
  scope := h.scope
  complete := h.complete
  accessMode := h.accessMode
  observed := ⟨h.observed.machine, h.observed.name, h.observed.ns, h.observed.running⟩
  sorted := h.sorted
  closed := h.closed

end Ready

/-! ### All calls -/

/-- Where the loop stands after `n` calls: from the first on the machine is in sync, from the second
on the virtual machine is what the machine asks for. -/
def Stage (settings : Settings) (ns name : String) (n : Nat) (env : Environment) : Prop :=
  ∃ s mode vm vmi, Ready settings ns name env s mode vm vmi ∧
    (1 ≤ n → Synced env s (renewed (s.virtualMachineWith mode) vm) vmi) ∧
    (2 ≤ n → differs (s.virtualMachineWith mode) vm = false)

/-- One more call succeeds and leads to the next stage; from the third call on it changes
nothing. -/
theorem Stage.next {n : Nat} (h : Stage settings ns name n env) (hnow : now.Valid) :
    ∃ m env', env.tenant.machines ns name = some m ∧
      { env with now : Environment }.outcome (Operation.update settings m) =
        (.ok (), env'.unlogged) ∧
      Stage settings ns name (n + 1) env' ∧
      (2 ≤ n → env'.infra = env.infra ∧ env'.tenant = env.tenant ∧ env'.events = env.events) := by
  obtain ⟨s, mode, vm, vmi, hready, hsync, hsettled⟩ := h
  cases n with
  | zero =>
    obtain ⟨c, r, events, houtcome, hnext, hr⟩ := hready.first_call hnow
    refine ⟨s.machine, _, hready.stored, houtcome, ⟨_, mode, _, vmi, hnext, fun _ => ?_, by omega⟩,
      by omega⟩
    exact hr.renewed (Scope.instanceType?_renewed _ _ _) _ _
  | succ n =>
    obtain ⟨reported, houtcome, hversion⟩ := hready.later_call now (hsync (by omega))
    refine ⟨s.machine, _, hready.stored, houtcome, ⟨s, mode, _, vmi, hready.renew _, fun _ => ?_,
      fun _ => Lifecycle.differs_renewed _ _⟩, fun hn => ?_⟩
    · exact (hsync (by omega)).renewed (Scope.instanceType?_renewed _ _ _) _ _
    · have hsame : renewed (s.virtualMachineWith mode) vm = vm :=
        if_neg (by rw [hsettled hn]; decide)
      have hnone : reported = [] := hversion (by rw [hsame])
      rw [hsame, hnone, List.append_nil]
      refine ⟨?_, rfl, rfl⟩
      unfold after
      rw [Store.put_of_eq_some hready.observed.machine]

theorem stage_of_calls {start : Environment} (h : Stage settings ns name 0 start) {n : Nat}
    (hcalls : Calls settings ns name start n env) : Stage settings ns name n env := by
  induction hcalls with
  | none => exact h
  | next before stored valid ih =>
    obtain ⟨m, env', hm, houtcome, hnext, -⟩ := ih.next valid
    obtain rfl := Option.some.inj (hm.symm.trans stored)
    obtain ⟨log, hrun⟩ := Environment.exists_log_of_outcome houtcome
    obtain ⟨s, mode, vm, vmi, hready, hsync, hsettled⟩ := hnext
    rw [hrun]
    exact ⟨s, mode, vm, vmi, hready.log log, hsync, hsettled⟩

/-- **The update loop settles after two calls.** Take a machine with a valid configuration whose
provider status is absent or one that was written for it, a virtual machine and an instance stored
for it, and no call that fails.  After any number of calls of update, each on the machine as it is
stored by then and at any time, the machine is stored and the next call succeeds; from the third
call on it leaves the infrastructure cluster, the tenant cluster with the patches that were sent,
and the events as they are. -/
theorem update_settles {start : Environment} {m : Machine} {desired : VirtualMachine}
    (hup : start.Healthy)
    (hstored : start.tenant.machines ns name = some m) (hread : ∃ v, Machine.ofJson? v = some m)
    (hname : m.metadata.name = some name) (hns : m.metadata.ns.getD "" = ns)
    (hscope : Scope.ofMachine settings m = .ok s) (hdesired : s.virtualMachine = .ok desired)
    (hstatus : ∀ d, (m.status.getD {}).providerStatus = some d →
      ∃ status : ProviderStatus, d = status.toJson)
    (hvm : start.infra.virtualMachines settings.infra.ns name = some vm)
    (hvmName : vm.metadata.displayName = name)
    (hvmNs : vm.metadata.ns.getD settings.infra.ns = settings.infra.ns)
    (hvmi : start.infra.instances settings.infra.ns name = some vmi)
    {n : Nat} (hcalls : Calls settings ns name start n env) :
    ∃ m', env.tenant.machines ns name = some m' ∧
      ∀ now : Instant, now.Valid →
        ∃ env', { env with now : Environment }.run .memory (Operation.update settings m') =
            (.ok (), env') ∧
          (2 ≤ n →
            env'.infra = env.infra ∧ env'.tenant = env.tenant ∧ env'.events = env.events) := by
  obtain ⟨v, hv⟩ := hread
  obtain ⟨rfl, rfl⟩ := Scope.eq_of_ofMachine hscope
  obtain ⟨hcomplete, mode, hmode, -⟩ := Scope.virtualMachine_eq_ok_iff.mp hdesired
  have hsname : s.name = name := by
    unfold Scope.name
    rw [hname]
    rfl
  have hready : Ready s.settings ns name start s mode vm vmi := by
    constructor
    case observed =>
      rw [← hsname] at hvm hvmName hvmi
      exact ⟨hvm, hvmName, hvmNs, hvmi⟩
    case sorted =>
      cases hd : (s.machine.status.getD {}).providerStatus with
      | none => trivial
      | some d =>
        obtain ⟨status, rfl⟩ := hstatus d hd
        exact status.sorted_toJson
    case closed =>
      cases hd : (s.machine.status.getD {}).providerStatus with
      | none => exact ⟨fun _ _ => rfl, fun _ h => absurd h (by simp [Json.get?])⟩
      | some d =>
        obtain ⟨status, rfl⟩ := hstatus d hd
        exact status.closed_toJson
    all_goals first | assumption | exact Machine.wellFormed_of_ofJson? hv
  have hstage := stage_of_calls ⟨s, mode, vm, vmi, hready, by omega, by omega⟩ hcalls
  have hepoch : (⟨0, 0⟩ : Instant).Valid := by constructor <;> decide
  obtain ⟨r, -, hr, -⟩ := hstage.next hepoch
  refine ⟨r, hr, ?_⟩
  intro now hnow
  obtain ⟨m', env', hm', houtcome, -, hsettled⟩ := hstage.next hnow
  obtain rfl := Option.some.inj (hm'.symm.trans hr)
  obtain ⟨log, hrun⟩ := Environment.exists_log_of_outcome houtcome
  exact ⟨_, hrun, hsettled⟩

/-- A machine, and a virtual machine stored for it that has nothing of it yet. -/
def workerStart : Environment where
  infra :=
    { virtualMachines := Store.empty.put "infra" "worker"
        { metadata := { name := some "worker", ns := some "infra" } }
      instances := Store.empty.put "infra" "worker"
        { metadata := { name := some "worker", ns := some "infra" } } }
  tenant := TenantCluster.addMachine {} Machine.worker
  now := ⟨0, 0⟩

theorem update_settles_worker :
    ∃ env env' m, Calls ⟨⟨"infra", "c"⟩, {}⟩ "ns" "worker" workerStart 2 env ∧
      env.tenant.machines "ns" "worker" = some m ∧
      { env with now := ⟨0, 0⟩ : Environment }.run .memory
        (Operation.update ⟨⟨"infra", "c"⟩, {}⟩ m) = (.ok (), env') ∧
      env'.infra = env.infra ∧ env'.tenant = env.tenant ∧ env'.events = env.events := by
  have hepoch : (⟨0, 0⟩ : Instant).Valid := by constructor <;> decide
  have hup : workerStart.Healthy := ⟨fun _ => rfl, fun _ => rfl⟩
  have hstored : workerStart.tenant.machines "ns" "worker" = some Machine.worker := rfl
  have hscope : Scope.ofMachine ⟨⟨"infra", "c"⟩, {}⟩ Machine.worker = .ok _ := rfl
  have hsettles {n : Nat} {env : Environment}
      (hcalls : Calls ⟨⟨"infra", "c"⟩, {}⟩ "ns" "worker" workerStart n env) :=
    update_settles hup hstored ⟨_, Machine.ofJson?_worker⟩ rfl rfl hscope rfl
      (by simp [Machine.worker]) rfl rfl rfl rfl hcalls
  have hnone : Calls ⟨⟨"infra", "c"⟩, {}⟩ "ns" "worker" workerStart 0 workerStart := Calls.none
  obtain ⟨m, hm, -⟩ := hsettles hnone
  have hone := hnone.next hm hepoch
  obtain ⟨m', hm', -⟩ := hsettles hone
  have htwo := hone.next hm' hepoch
  obtain ⟨m'', hm'', hlast⟩ := hsettles htwo
  obtain ⟨env', hrun, hsame⟩ := hlast ⟨0, 0⟩ hepoch
  exact ⟨_, env', m'', htwo, hm'', hrun, hsame (by decide)⟩

end MachineActuator.UpdateLoop
