import Mathlib
import MachineActuator.Proofs.Cluster.Numbering
import MachineActuator.Proofs.Interleaving
import MachineActuator.Proofs.Machine.Calls

/-! # Machines with different names

Calls for machines with different names run at once against the same clusters, and all of them take
uids from one counter.  Every call has the result that it has when the calls are run one after
another in whatever order, and its machine ends up the same, up to one renumbering of the new uids
and the times of the clock (`calls_independent`).  Of each run a call sees a course among others
that leave its machine alone; two such courses are compared by `Machine.alike_apply` and
`Machine.alike_cleanup`, and the renumberings of all machines are put together from the uids that
the two runs have given out (`InfraCluster.NumberedSince.exists_renumbering`). -/

namespace MachineActuator.Independence

/-! ### Calls -/

/-- A call for a machine as it is stored. -/
inductive Call where
  | apply (m : Machine)
  | cleanup (m : Machine)

namespace Call

def machine : Call → Machine
  | apply m | cleanup m => m

def name (call : Call) : String := call.machine.metadata.name.getD ""

theorem name_of_some {call : Call} {name : String} (h : call.machine.metadata.name = some name) :
    call.name = name :=
  congrArg (Option.getD · "") h

def program (settings : Settings) : Call → Program (Except ControllerError FollowUp)
  | apply m => m.apply settings
  | cleanup m => m.cleanup settings

/-- What the call may ask for. -/
def Allows (settings : Settings) : Call → Effect → Prop
  | apply m => Effect.Applies settings m
  | cleanup m => Effect.CleansUp settings m

theorem only_program (settings : Settings) (call : Call) :
    (call.program settings).Only (call.Allows settings) := by
  cases call with
  | apply m => exact m.only_apply settings
  | cleanup m => exact m.only_cleanup settings

/-- What the call leaves alone of a machine with another name. -/
theorem undisturbed {settings : Settings} {call : Call} {m : Machine} {name : String}
    (hname : call.machine.metadata.name = some name) (hne : m.metadata.name.getD "" ≠ name)
    {e : Effect} (h : call.Allows settings e) (env : Environment) :
    Undisturbed settings m env (Step.mk e env).after := by
  cases call with
  | apply other => exact .of_applies hname hne h
  | cleanup other => exact .of_cleansUp hname hne h

theorem alike_program {settings : Settings} {first : Nat} {call : Call}
    {v₀ : Option VirtualMachine} (hgiven : Given settings first call.machine v₀) :
    (call.program settings).Alike (Undisturbed settings call.machine)
      (Like settings call.machine first v₀ v₀ call.machine call.machine)
      (call.program settings) (EndsAlike settings call.machine first v₀) := by
  cases call with
  | apply m => exact Machine.alike_apply hgiven
  | cleanup m => exact Machine.alike_cleanup

end Call

/-! ### Beginning -/

/-- The clock may be set to any time that can be written. -/
def ClockSet (env env' : Environment) : Prop := ∃ now : Instant, now.Valid ∧ env' = { env with now }

/-- What calls begin with.  Their machines were read from documents and are stored under their
names, which are not empty and all different; a virtual machine of one of these names is filed under
it; and no machine carries a uid that is not yet handed out. -/
structure Begins {ι : Type} (settings : Settings) (calls : ι → Call) (start : Environment) :
    Prop where
  read : ∀ i, ∃ v, Machine.ofJson? v = some (calls i).machine
  named : ∀ i, ∃ name, name ≠ "" ∧ (calls i).machine.metadata.name = some name
  distinct : Function.Injective fun i => (calls i).name
  stored : ∀ i, start.tenant.machines ((calls i).machine.metadata.ns.getD "") (calls i).name =
    some (calls i).machine
  filed : ∀ i vm, start.infra.virtualMachines settings.infra.ns (calls i).name = some vm →
    vm.metadata.ns.getD "" = settings.infra.ns ∧ vm.metadata.name.getD "" = (calls i).name
  below : ∀ i, (calls i).machine.NumberedBelow start.infra.nextUid
  now : start.now.Valid

theorem displayName_of_filed {metadata : ObjectMeta} {name : String}
    (hname : metadata.name.getD "" = name) (hne : name ≠ "") : metadata.displayName = name := by
  cases h : metadata.name with
  | none =>
    rw [h] at hname
    exact absurd hname.symm hne
  | some own =>
    rw [h] at hname
    exact (ObjectMeta.displayName_of_name h).trans hname

namespace Begins

variable {ι : Type} {settings : Settings} {calls : ι → Call} {start : Environment}

theorem given (h : Begins settings calls start) (i : ι) :
    Given settings start.infra.nextUid (calls i).machine
      (start.infra.virtualMachines settings.infra.ns (calls i).name) := by
  obtain ⟨v, hv⟩ := h.read i
  obtain ⟨name, hne, hname⟩ := h.named i
  refine ⟨Machine.wellFormed_of_ofJson? hv, ?_, h.below i, fun vm hvm => ?_⟩
  · rw [ObjectMeta.displayName_of_name hname, hname, Option.getD_some]
  · obtain ⟨hvmNs, hvmName⟩ := h.filed i vm hvm
    rw [← Call.name_of_some hname] at hne
    refine ⟨?_, displayName_of_filed hvmName hne⟩
    cases hns : vm.metadata.ns with
    | none => rfl
    | some ns =>
      rw [hns] at hvmNs
      exact hvmNs

theorem like (h : Begins settings calls start) (i : ι) :
    Like settings (calls i).machine start.infra.nextUid
      (start.infra.virtualMachines settings.infra.ns (calls i).name)
      (start.infra.virtualMachines settings.infra.ns (calls i).name)
      (calls i).machine (calls i).machine start start :=
  ⟨⟨rfl, rfl, rfl, rfl, rfl, rfl, le_rfl, le_rfl⟩, ⟨h.stored i, h.stored i, rfl, rfl⟩, rfl, h.now,
    h.now⟩

/-- Whatever the others ask for and whenever the clock is set, a machine is left alone. -/
theorem undisturbed (h : Begins settings calls start) (i : ι) {env env' : Environment}
    (hdrift : AmongOthers ClockSet (fun j => (calls j).Allows settings) i env env') :
    Undisturbed settings (calls i).machine env env' := by
  obtain ⟨now, hnow, rfl⟩ | ⟨j, e, hj, he, rfl⟩ := hdrift
  · exact ⟨.refl _ _ _, .refl _ _ _, rfl, fun _ => hnow⟩
  · obtain ⟨name, -, hname⟩ := h.named j
    refine Call.undisturbed hname (fun heq => hj ?_) he env
    exact h.distinct ((Call.name_of_some hname).trans heq.symm)

end Begins

/-! ### Ending -/

/-- What two environments have of a machine is the same up to a renumbering of uids and the time of
the last update. -/
structure Agree (settings : Settings) (m : Machine) (ρ : Equiv.Perm String)
    (env₁ env₂ : Environment) : Prop where
  vm : env₂.infra.virtualMachines settings.infra.ns (m.metadata.name.getD "") =
    (env₁.infra.virtualMachines settings.infra.ns (m.metadata.name.getD "")).map
      (VirtualMachine.renumbered ρ)
  vmi : env₂.infra.instances settings.infra.ns (m.metadata.name.getD "") =
    env₁.infra.instances settings.infra.ns (m.metadata.name.getD "")
  secret : env₂.infra.secrets settings.infra.ns (ignitionSecretName (m.metadata.name.getD "")) =
    env₁.infra.secrets settings.infra.ns (ignitionSecretName (m.metadata.name.getD ""))
  machine : (env₂.tenant.machines (m.metadata.ns.getD "") (m.metadata.name.getD "")).map
      Machine.unstamped =
    (env₁.tenant.machines (m.metadata.ns.getD "") (m.metadata.name.getD "")).map
      fun r => (r.renumbered ρ).unstamped

theorem agree_of_like {settings : Settings} {m r₁ r₂ : Machine} {first : Nat}
    {v₁ v₂ : Option VirtualMachine} {env₁ env₂ : Environment} {ρ : Equiv.Perm String}
    (h : Like settings m first v₁ v₂ r₁ r₂ env₁ env₂)
    (hvm : v₂ = v₁.map (VirtualMachine.renumbered ρ))
    (hmachine : r₂.unstamped = (r₁.renumbered ρ).unstamped) : Agree settings m ρ env₁ env₂ := by
  refine ⟨?_, h.infra.vmi.symm, h.infra.secret.symm, ?_⟩
  · rw [h.infra.vm₁, h.infra.vm₂, hvm]
  · rw [h.tenant.machine₁, h.tenant.machine₂]
    exact congrArg some hmachine

variable {ι : Type} [DecidableEq ι] {settings : Settings} {calls : ι → Call} {start : Environment}

/-- In the end the virtual machines that are new have uids that were handed out meanwhile. -/
theorem numberedSince_of_interleaved {pool pool' : ι → Program (Except ControllerError FollowUp)}
    {steps : List (ι × Step)} {env : Environment}
    (h : Interleaved ClockSet pool start steps pool' env) :
    start.infra.NumberedSince env.infra := by
  refine h.keeps (I := fun env => start.infra.NumberedSince env.infra) ?_ ?_ (.refl _)
  · rintro env mid ⟨now, -, rfl⟩ hsince
    exact hsince
  · intro step hsince
    obtain ⟨call, -, hafter⟩ | hafter := step.infra_after
    · rw [hafter]
      exact hsince.answer call
    · rw [hafter]
      exact hsince

/-- Two interleaved runs give every call the same result, and its machine an outcome. -/
theorem endsAlike_of_interleaved (hbegins : Begins settings calls start)
    {steps₁ steps₂ : List (ι × Step)} {a b : ι → Except ControllerError FollowUp}
    {env₁ env₂ : Environment}
    (h₁ : Interleaved ClockSet (fun i => (calls i).program settings) start steps₁
      (fun i => .done (a i)) env₁)
    (h₂ : Interleaved ClockSet (fun i => (calls i).program settings) start steps₂
      (fun i => .done (b i)) env₂) (i : ι) :
    EndsAlike settings (calls i).machine start.infra.nextUid
      (start.infra.virtualMachines settings.infra.ns (calls i).name) (a i) (b i) env₁ env₂ := by
  have hpool (j : ι) := (calls j).only_program settings
  have hcourse₁ := (h₁.course hpool i).mono fun _ _ => hbegins.undisturbed i
  have hcourse₂ := (h₂.course hpool i).mono fun _ _ => hbegins.undisturbed i
  exact (Call.alike_program (hbegins.given i)).of_courses (hbegins.like i) hcourse₁ hcourse₂

/-- An outcome shows what agrees on both sides: a virtual machine that was there, and its machine,
as they are; a new one, and its machine, up to every renumbering that takes the uid of the one to
that of the other. -/
theorem agree_of_outcome {first : Nat} {m r₁ r₂ : Machine} {v₀ v₁ v₂ : Option VirtualMachine}
    {env₁ env₂ : Environment} {ρ : Equiv.Perm String} (hbelow : m.NumberedBelow first)
    (hρ : Renumbers first ρ) (h : Outcome first m v₀ v₁ v₂ r₁ r₂)
    (hlike : Like settings m first v₁ v₂ r₁ r₂ env₁ env₂)
    (huid : ∀ vm₁ vm₂, v₀ = none → v₁ = some vm₁ → v₂ = some vm₂ →
      vm₂.metadata.uid = vm₁.metadata.uid.map ρ) :
    Agree settings m (if v₀.isSome then 1 else ρ) env₁ env₂ := by
  cases h with
  | @there vm v _ _ stored =>
    have hone : VirtualMachine.renumbered 1 = id := funext VirtualMachine.renumbered_one
    rw [Option.isSome_some, if_pos rfl]
    exact agree_of_like hlike (by rw [hone, Option.map_id]; rfl) (stored 1 rfl)
  | absent =>
    rw [Option.isSome_none, if_neg Bool.false_ne_true]
    exact agree_of_like hlike rfl (congrArg _ (hbelow.renumbered hρ).symm)
  | @created vm n₁ n₂ _ _ first₁ first₂ stored =>
    rw [Option.isSome_none, if_neg Bool.false_ne_true]
    have htakes : ρ (InfraCluster.uid n₁) = InfraCluster.uid n₂ :=
      (Option.some.inj (huid _ _ rfl rfl rfl)).symm
    refine agree_of_like hlike ?_ (stored ρ ⟨hρ, htakes⟩)
    rw [Option.map_some, VirtualMachine.renumbered_withUid, htakes]

/-- Machines with different names reconcile independently.  Calls for them, each with its machine as
it is stored, begin in any state of the clusters in which no machine carries a uid that is not yet
handed out, and any kinds of calls may fail.  However they are interleaved, every call has the same
result as when the calls are run one after another in whatever order, and every machine has the
same virtual machine, instance and secret, and is stored the same, up to one renumbering of the new
uids and the times of the last updates. -/
theorem calls_independent [Finite ι] (hbegins : Begins settings calls start)
    {steps : List (ι × Step)} {a : ι → Except ControllerError FollowUp} {env₁ : Environment}
    (hinterleaved : Interleaved ClockSet (fun i => (calls i).program settings) start steps
      (fun i => .done (a i)) env₁)
    {order : List ι} (hnodup : order.Nodup) (hall : ∀ i, i ∈ order) :
    (∃ b env₂, InTurn ClockSet (fun i => (calls i).program settings) b start order env₂) ∧
    ∀ b env₂, InTurn ClockSet (fun i => (calls i).program settings) b start order env₂ →
      a = b ∧ ∃ ρ, Renumbers start.infra.nextUid ρ ∧ ∀ i,
        Agree settings (calls i).machine
          (if (start.infra.virtualMachines settings.infra.ns (calls i).name).isSome then 1 else ρ)
          env₁ env₂ := by
  refine ⟨InTurn.exists_of_order _ _ _ hnodup, fun b env₂ hturns => ?_⟩
  obtain ⟨steps₂, hturns⟩ := hturns.interleaved_of_forall_mem hnodup hall
  have hends := endsAlike_of_interleaved hbegins hinterleaved hturns
  obtain ⟨ρ, hρ, huids⟩ := (numberedSince_of_interleaved hinterleaved).exists_renumbering
    (numberedSince_of_interleaved hturns) settings.infra.ns hbegins.distinct
  refine ⟨funext fun i => ?_, ρ, hρ, fun i => ?_⟩
  · obtain ⟨-, -, -, -, ⟨hresult, -⟩, -⟩ := hends i
    exact hresult
  · obtain ⟨v₁, v₂, r₁, r₂, ⟨-, houtcome⟩, hlike⟩ := hends i
    refine agree_of_outcome (hbegins.below i) hρ houtcome hlike fun vm₁ vm₂ hnone hvm₁ hvm₂ => ?_
    exact huids i vm₁ vm₂ hnone (hlike.infra.vm₁.trans hvm₁) (hlike.infra.vm₂.trans hvm₂)

/-- Two workers that are to be applied. -/
def workers : Bool → Call
  | false => .apply Machine.worker
  | true =>
    .apply
      { Machine.worker with metadata := { Machine.worker.metadata with name := some "second" } }

def workersSettings : Settings := ⟨⟨"infra", "c"⟩, {}⟩

/-- Both workers are stored, with their payload, and neither has a virtual machine. -/
def workersStart : Environment where
  tenant := ((TenantCluster.addMachine {} (workers false).machine).addMachine
    (workers true).machine).addSecret "ns" "payload"
      (.singleton Operation.userDataKey "\x7b\x7d".toUTF8)
  now := ⟨0, 0⟩

theorem begins_workers : Begins workersSettings workers workersStart where
  read
    | false => ⟨_, Machine.ofJson?_worker⟩
    | true =>
      ⟨.obj
        [("metadata", .obj
          [("labels", .obj [(clusterIdLabel, .str "c")]),
           ("name", .str "second"),
           ("namespace", .str "ns")]),
         ("spec", .obj [("providerSpec", .obj [("value", .obj
          [("ignitionSecretName", .str "payload"),
           ("networkName", .str "net"),
           ("sourcePvcName", .str "disk")])])])], rfl⟩
  named
    | false => ⟨"worker", by decide, rfl⟩
    | true => ⟨"second", by decide, rfl⟩
  distinct := by decide
  stored
    | false => rfl
    | true => rfl
  filed i vm hvm := by simp [workersStart, Store.empty] at hvm
  below
    | false, id, hid =>
      absurd hid (by simp [workers, Call.machine, Machine.worker, StringMap.entry])
    | true, id, hid =>
      absurd hid (by simp [workers, Call.machine, Machine.worker, StringMap.entry])
  now := by constructor <;> decide

/-- Where the second worker comes first to its virtual machine, it has the uid that the first worker
has where that one comes first. -/
theorem calls_independent_workers :
    ∃ steps a env₁ env₂,
      Interleaved ClockSet (fun i => (workers i).program workersSettings) workersStart steps
        (fun i => .done (a i)) env₁ ∧
      InTurn ClockSet (fun i => (workers i).program workersSettings) a workersStart [false, true]
        env₂ ∧
      (env₁.infra.virtualMachines "infra" "worker").map (·.metadata.uid) =
        some (some (InfraCluster.uid 2)) ∧
      (env₂.infra.virtualMachines "infra" "worker").map (·.metadata.uid) =
        some (some (InfraCluster.uid 1)) ∧
      ∃ ρ, Agree workersSettings Machine.worker ρ env₁ env₂ := by
  have hrun (env : Environment) (i : Bool) :=
    Course.of_run ClockSet ((workers i).program workersSettings) env
  obtain ⟨_, hsecond⟩ := hrun workersStart true
  obtain ⟨_, hfirst⟩ :=
    hrun (workersStart.run .memory ((workers true).program workersSettings)).2 false
  obtain ⟨_, hfirst'⟩ := hrun workersStart false
  obtain ⟨_, hsecond'⟩ :=
    hrun (workersStart.run .memory ((workers false).program workersSettings)).2 true
  have hswapped : InTurn ClockSet (fun i => (workers i).program workersSettings)
      (fun _ => .ok (.requeue Machine.resyncPeriod)) workersStart [true, false] _ :=
    .cons hsecond (.cons hfirst .nil)
  have hturns : InTurn ClockSet (fun i => (workers i).program workersSettings)
      (fun _ => .ok (.requeue Machine.resyncPeriod)) workersStart [false, true] _ :=
    .cons hfirst' (.cons hsecond' .nil)
  -- taking turns the other way round is one way of interleaving
  obtain ⟨steps, hinterleaved⟩ :=
    hswapped.interleaved_of_forall_mem (by decide) (by rintro (_ | _) <;> decide)
  obtain ⟨-, hsame⟩ := calls_independent begins_workers hinterleaved
    (show [false, true].Nodup by decide) (by rintro (_ | _) <;> decide)
  obtain ⟨-, ρ, -, hagree⟩ := hsame _ _ hturns
  exact ⟨steps, _, _, _, hinterleaved, hturns, rfl, rfl, ρ, hagree false⟩

end MachineActuator.Independence
