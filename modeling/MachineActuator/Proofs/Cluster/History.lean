import Mathlib
import MachineActuator.Proofs.Cluster.Numbering
import MachineActuator.Proofs.Cluster.Version

/-! # What a cluster holds was answered

Calls, reports on virtual machines and failures that come and go (`InfraCluster.Event`) take an
empty cluster to another one.  What it then holds follows from the calls and their answers alone
(`InfraCluster.Accounted`): every virtual machine was created in its place, uids are numbered in the
order of creation, and the deletions are those that were answered.  Each event keeps this
(`InfraCluster.Accounted.after`), and so does any number of them
(`InfraCluster.holds_what_was_answered`). -/

namespace MachineActuator.InfraCluster

/-! ### Events and answers -/

/-- What may happen to a cluster. -/
inductive Event where
  | call (call : InfraCall)
  | report (ns name : String) (status : VirtualMachineStatus)
  | fail (operation : InfraOperation) (text : String)
  | recover (operation : InfraOperation)

/-- The cluster after an event. -/
def after (c : InfraCluster) : Event → InfraCluster
  | .call call => (c.answer call).2
  | .report ns name status => c.setStatus ns name status
  | .fail operation text => c.failOn operation text
  | .recover operation => c.clearFailure operation

/-- A call and its answer. -/
structure Answered where
  call : InfraCall
  answer : Except ClientError call.Result

namespace Answered

/-- The virtual machine that was created. -/
def created? : Answered → Option VirtualMachine
  | ⟨.createVirtualMachine .., .ok created⟩ => some created
  | _ => none

/-- The deletion that was carried out. -/
def deletion? : Answered → Option Deletion
  | ⟨.deleteVirtualMachine ns name graceSeconds, .ok _⟩ => some ⟨ns, name, graceSeconds⟩
  | _ => none

theorem created?_error (call : InfraCall) (error : ClientError) :
    created? ⟨call, .error error⟩ = none := by
  cases call <;> rfl

theorem deletion?_error (call : InfraCall) (error : ClientError) :
    deletion? ⟨call, .error error⟩ = none := by
  cases call <;> rfl

end Answered

/-- The answer to an event, if it is a call. -/
def answered (c : InfraCluster) : Event → List Answered
  | .call call => [⟨call, (c.answer call).1⟩]
  | _ => []

/-- The answers to the calls among some events, the first one first. -/
def answers (c : InfraCluster) : List Event → List Answered
  | [] => []
  | event :: rest => c.answered event ++ (c.after event).answers rest

/-- The virtual machines that were created, as they were then. -/
def creations (past : List Answered) : List VirtualMachine := past.filterMap Answered.created?

/-- The deletions that were carried out. -/
def carriedOut (past : List Answered) : List Deletion := past.filterMap Answered.deletion?

variable {past more : List Answered} {c : InfraCluster} {spawns : Bool} {ns name : String}
  {vm stored : VirtualMachine}

@[simp] theorem creations_append (past more : List Answered) :
    creations (past ++ more) = creations past ++ creations more := List.filterMap_append

@[simp] theorem carriedOut_append (past more : List Answered) :
    carriedOut (past ++ more) = carriedOut past ++ carriedOut more := List.filterMap_append

/-! ### Virtual machines in their places -/

/-- The virtual machine says of itself where it is stored and has a status.  Its version is a
positive number, of which there were calls enough, and it was created in this place under this
uid. -/
structure WellKept (past : List Answered) (ns name : String) (vm : VirtualMachine) : Prop where
  ns : vm.metadata.ns = some ns
  name : vm.metadata.name.getD "" = name
  status : ∃ status, vm.status = some status
  version : ∃ n, 0 < n ∧ n ≤ past.length ∧ vm.metadata.resourceVersion = some (Nat.repr n)
  origin : ∃ created ∈ creations past, created.metadata.ns = vm.metadata.ns ∧
    created.metadata.name = vm.metadata.name ∧ created.metadata.uid = vm.metadata.uid

namespace WellKept

theorem append (h : WellKept past ns name vm) (more : List Answered) :
    WellKept (past ++ more) ns name vm := by
  obtain ⟨n, hpos, hle, hversion⟩ := h.version
  obtain ⟨created, hmem, horigin⟩ := h.origin
  refine ⟨h.ns, h.name, h.status, ⟨n, hpos, ?_, hversion⟩, created, ?_, horigin⟩
  · rw [List.length_append]
    omega
  · rw [creations_append]
    exact List.mem_append_left _ hmem

theorem admitted (past : List Answered) (c : InfraCluster) (ns : String) (vm : VirtualMachine) :
    WellKept (past ++ [⟨.createVirtualMachine ns vm, .ok (c.admitted ns vm)⟩]) ns
      (vm.metadata.name.getD "") (c.admitted ns vm) := by
  refine ⟨rfl, rfl, ⟨{}, rfl⟩, ⟨1, Nat.one_pos, ?_, rfl⟩, c.admitted ns vm, ?_, rfl, rfl, rfl⟩
  · rw [List.length_append]
    exact Nat.le_add_left _ _
  · rw [creations_append]
    exact List.mem_append_right _ List.mem_cons_self

/-- A replacement has the next version and keeps the rest. -/
theorem replaced (h : WellKept past ns name stored) (vm : VirtualMachine) (last : Answered) :
    WellKept (past ++ [last]) ns name (replaced vm stored) := by
  have hkept := h.append [last]
  obtain ⟨n, -, hle, hversion⟩ := h.version
  have hnext : nextVersion stored.metadata.resourceVersion =
      Nat.repr (Decimal.counter (Nat.repr n) + 1) := by
    rw [hversion]
    rfl
  have hcounter := Decimal.counter_repr_le n
  refine ⟨hkept.ns, hkept.name, hkept.status, ⟨_, Nat.succ_pos _, ?_, congrArg some hnext⟩,
    hkept.origin⟩
  rw [List.length_append, List.length_singleton]
  omega

theorem report (h : WellKept past ns name vm) (status : VirtualMachineStatus) :
    WellKept past ns name { vm with status := some status } :=
  ⟨h.ns, h.name, ⟨status, rfl⟩, h.version, h.origin⟩

end WellKept

/-! ### Clusters that answers account for -/

/-- What the cluster holds follows from the calls and their answers. -/
structure Accounted (spawns : Bool) (past : List Answered) (c : InfraCluster) : Prop where
  stored : ∀ ns name vm, c.virtualMachines ns name = some vm → WellKept past ns name vm
  uids : (creations past).map (·.metadata.uid) =
    (List.range' 1 (creations past).length).map fun n => some (uid n)
  next : c.nextUid = (creations past).length + 1
  instances : ∀ ns name,
    (c.instances ns name).isSome = (spawns && (c.virtualMachines ns name).isSome)
  deletions : c.deletions = carriedOut past
  spawns : c.spawnsInstances = spawns

namespace Accounted

theorem empty (spawns : Bool) : Accounted spawns [] { spawnsInstances := spawns } where
  stored ns name vm h := by cases h
  uids := rfl
  next := rfl
  instances ns name := (Bool.and_false spawns).symm
  deletions := rfl
  spawns := rfl

/-- Answers that tell neither of a creation nor of a deletion need nothing of the cluster. -/
theorem append (h : Accounted spawns past c) (hcreations : creations more = [])
    (hdeletions : carriedOut more = []) : Accounted spawns (past ++ more) c := by
  have hcreated : creations (past ++ more) = creations past := by
    rw [creations_append, hcreations, List.append_nil]
  refine ⟨?_, ?_, ?_, h.instances, ?_, h.spawns⟩
  · intro ns name vm hvm
    exact (h.stored ns name vm hvm).append more
  · rw [hcreated]
    exact h.uids
  · rw [hcreated]
    exact h.next
  · rw [carriedOut_append, hdeletions, List.append_nil]
    exact h.deletions

theorem withOthers (h : Accounted spawns past c) (secrets : Store Secret)
    (failures : InfraOperation → Option String) :
    Accounted spawns past { c with secrets, failures } :=
  ⟨h.stored, h.uids, h.next, h.instances, h.deletions, h.spawns⟩

theorem put (h : Accounted spawns past c) (hstored : c.virtualMachines ns name = some stored)
    (hvm : WellKept past ns name vm) :
    Accounted spawns past { c with virtualMachines := c.virtualMachines.put ns name vm } := by
  refine ⟨?_, h.uids, h.next, ?_, h.deletions, h.spawns⟩
  · intro n m vm' hvm'
    obtain ⟨rfl, rfl, rfl⟩ | ⟨-, hold⟩ := Store.cases_of_put hvm'
    · exact hvm
    · exact h.stored n m vm' hold
  · intro n m
    by_cases hkey : n = ns ∧ m = name
    · obtain ⟨rfl, rfl⟩ := hkey
      have hsome := h.instances n m
      rw [hstored] at hsome
      dsimp only
      rw [hsome, Store.put_same]
      rfl
    · dsimp only
      rw [Store.put_of_ne _ _ hkey]
      exact h.instances n m

/-- A new virtual machine gets the next uid, and an instance if the cluster spawns them. -/
theorem create (h : Accounted spawns past c) (ns : String) (vm : VirtualMachine) :
    Accounted spawns (past ++ [⟨.createVirtualMachine ns vm, .ok (c.admitted ns vm)⟩])
      { c with
        virtualMachines := c.virtualMachines.put ns (vm.metadata.name.getD "") (c.admitted ns vm)
        instances :=
          if c.spawnsInstances then
            c.instances.put ns (vm.metadata.name.getD "")
              (spawned ns (vm.metadata.name.getD "") (c.admitted ns vm))
          else c.instances
        nextUid := c.nextUid + 1 } := by
  have hcreations : creations (past ++ [⟨.createVirtualMachine ns vm, .ok (c.admitted ns vm)⟩]) =
      creations past ++ [c.admitted ns vm] := creations_append _ _
  have huid : (c.admitted ns vm).metadata.uid = some (uid (1 + (creations past).length)) := by
    rw [Nat.add_comm, ← h.next]
    rfl
  refine ⟨?_, ?_, ?_, ?_, ?_, h.spawns⟩
  · intro n m vm' hvm'
    obtain ⟨rfl, rfl, rfl⟩ | ⟨-, hold⟩ := Store.cases_of_put hvm'
    · exact .admitted past c n vm
    · exact (h.stored n m vm' hold).append _
  · rw [hcreations, List.map_append, List.length_append, List.length_singleton,
      List.range'_1_concat, List.map_append, h.uids, List.map_singleton, List.map_singleton, huid]
  · rw [hcreations, List.length_append, List.length_singleton, ← h.next]
  · intro n m
    dsimp only
    rw [h.spawns]
    have hinstances := h.instances n m
    cases spawns with
    | false => exact hinstances
    | true =>
      rw [if_pos rfl]
      by_cases hkey : n = ns ∧ m = vm.metadata.name.getD ""
      · obtain ⟨rfl, rfl⟩ := hkey
        rw [Store.put_same, Store.put_same]
        rfl
      · rw [Store.put_of_ne _ _ hkey, Store.put_of_ne _ _ hkey]
        exact hinstances
  · rw [carriedOut_append]
    exact h.deletions.trans (List.append_nil _).symm

/-- A virtual machine that is deleted goes together with its instance, and into the log. -/
theorem delete (h : Accounted spawns past c) (ns name : String) (graceSeconds : Nat) :
    Accounted spawns (past ++ [⟨.deleteVirtualMachine ns name graceSeconds, .ok ()⟩])
      { c with
        virtualMachines := c.virtualMachines.remove ns name
        instances := c.instances.remove ns name
        deletions := c.deletions ++ [⟨ns, name, graceSeconds⟩] } := by
  have hcreations :
      creations (past ++ [⟨.deleteVirtualMachine ns name graceSeconds, .ok ()⟩]) =
        creations past := (creations_append _ _).trans (List.append_nil _)
  refine ⟨?_, ?_, ?_, ?_, ?_, h.spawns⟩
  · intro n m vm hvm
    obtain ⟨-, hold⟩ := Store.of_remove hvm
    exact (h.stored n m vm hold).append _
  · rw [hcreations]
    exact h.uids
  · rw [hcreations]
    exact h.next
  · intro n m
    dsimp only
    by_cases hkey : n = ns ∧ m = name
    · obtain ⟨rfl, rfl⟩ := hkey
      rw [Store.remove_same, Store.remove_same]
      exact (Bool.and_false spawns).symm
    · rw [Store.remove_of_ne _ hkey, Store.remove_of_ne _ hkey]
      exact h.instances n m
  · rw [carriedOut_append, ← h.deletions]
    rfl

theorem answer (h : Accounted spawns past c) (call : InfraCall) :
    Accounted spawns (past ++ [⟨call, (c.answer call).1⟩]) (c.answer call).2 := by
  have hturn := c.turn_answer call
  generalize (c.answer call).1 = answer, (c.answer call).2 = after at hturn ⊢
  cases hturn with
  | @refused call error =>
    refine h.append ?_ ?_
    · exact List.filterMap_cons_none (Answered.created?_error call error)
    · exact List.filterMap_cons_none (Answered.deletion?_error call error)
  | @created ns vm hnew => exact h.create ns vm
  | found => exact h.append rfl rfl
  | updated hstored =>
    have hkept := h.stored _ _ _ hstored
    exact (h.append rfl rfl).put hstored (hkept.replaced _ _)
  | unaltered => exact h.append rfl rfl
  | @deleted ns name grace stored hstored => exact h.delete ns name grace
  | shown => exact h.append rfl rfl
  | provided => exact (h.append rfl rfl).withOthers _ _

theorem setStatus (h : Accounted spawns past c) (ns name : String)
    (status : VirtualMachineStatus) : Accounted spawns past (c.setStatus ns name status) := by
  unfold InfraCluster.setStatus
  split
  · next vm hvm => exact h.put hvm ((h.stored ns name vm hvm).report status)
  · exact h

theorem after (h : Accounted spawns past c) (event : Event) :
    Accounted spawns (past ++ c.answered event) (c.after event) := by
  cases event with
  | call call => exact h.answer call
  | report ns name status => exact (h.setStatus ns name status).append rfl rfl
  | fail operation text => exact (h.withOthers _ _).append rfl rfl
  | recover operation => exact (h.withOthers _ _).append rfl rfl

theorem foldl_after (h : Accounted spawns past c) (events : List Event) :
    Accounted spawns (past ++ c.answers events) (events.foldl InfraCluster.after c) := by
  induction events generalizing past c with
  | nil =>
    rw [answers, List.append_nil]
    exact h
  | cons event rest ih =>
    rw [answers, ← List.append_assoc]
    exact ih (h.after event)

theorem nodup_uids (h : Accounted spawns past c) :
    ((creations past).map (·.metadata.uid)).Nodup := by
  have hinjective : Function.Injective fun n => some (uid n) :=
    (Option.some_injective _).comp uid_injective
  rw [h.uids]
  exact List.Nodup.map hinjective List.nodup_range'

theorem place_eq (h : Accounted spawns past c) {ns' name' : String} {vm' : VirtualMachine}
    (hvm : c.virtualMachines ns name = some vm) (hvm' : c.virtualMachines ns' name' = some vm')
    (huid : vm.metadata.uid = vm'.metadata.uid) : ns = ns' ∧ name = name' := by
  have hkept := h.stored ns name vm hvm
  have hkept' := h.stored ns' name' vm' hvm'
  obtain ⟨created, hmem, hns, hname, hcreated⟩ := hkept.origin
  obtain ⟨created', hmem', hns', hname', hcreated'⟩ := hkept'.origin
  -- uids are given once, so that both go back to one creation
  obtain rfl : created = created' :=
    List.inj_on_of_nodup_map h.nodup_uids hmem hmem' (hcreated.trans (huid.trans hcreated'.symm))
  constructor
  · rw [hkept.ns] at hns
    rw [hkept'.ns] at hns'
    exact Option.some.inj (hns.symm.trans hns')
  · rw [← hkept.name, ← hkept'.name, ← hname, ← hname']

end Accounted

/-- Whatever has happened to a cluster that began empty, every virtual machine is well kept, uids
were given once and in order, instances are there exactly with virtual machines if the cluster
spawns them, the log has the deletions that were carried out, and calls that fail change nothing. -/
theorem holds_what_was_answered (spawns : Bool) (events : List Event) :
    let start : InfraCluster := { spawnsInstances := spawns }
    let past := start.answers events
    let c := events.foldl after start
    (∀ ns name vm, c.virtualMachines ns name = some vm → WellKept past ns name vm) ∧
    ((creations past).map (·.metadata.uid)).Nodup ∧
    (creations past).map (·.metadata.uid) =
      (List.range' 1 (creations past).length).map (fun n => some (uid n)) ∧
    c.nextUid = (creations past).length + 1 ∧
    (∀ ns name ns' name' vm vm', c.virtualMachines ns name = some vm →
      c.virtualMachines ns' name' = some vm' → vm.metadata.uid = vm'.metadata.uid →
      ns = ns' ∧ name = name') ∧
    (∀ ns name, (∃ vmi, c.instances ns name = some vmi) ↔
      spawns = true ∧ ∃ vm, c.virtualMachines ns name = some vm) ∧
    c.deletions = carriedOut past ∧
    ∀ call error, (c.answer call).1 = .error error → (c.answer call).2 = c := by
  intro start past c
  have h : Accounted spawns past c := (Accounted.empty spawns).foldl_after events
  refine ⟨h.stored, h.nodup_uids, h.uids, h.next, ?_, ?_, h.deletions, ?_⟩
  · intro ns name ns' name' vm vm' hvm hvm' huid
    exact h.place_eq hvm hvm' huid
  · intro ns name
    rw [← Option.isSome_iff_exists, ← Option.isSome_iff_exists, h.instances, Bool.and_eq_true]
  · intro call error herror
    exact eq_of_answer_error herror

/-- A virtual machine that is created again after it was deleted has another uid. -/
example :
    let worker : VirtualMachine := { metadata := { name := some "worker" } }
    let past := ({} : InfraCluster).answers
      [.call (.createVirtualMachine "infra" worker),
       .fail .deleteVirtualMachine "no access",
       .call (.deleteVirtualMachine "infra" "worker" 5),
       .recover .deleteVirtualMachine,
       .call (.deleteVirtualMachine "infra" "worker" 10),
       .call (.createVirtualMachine "infra" worker)]
    (creations past).map (·.metadata.uid) = [some (uid 1), some (uid 2)] ∧
      carriedOut past = [⟨"infra", "worker", 10⟩] := by
  decide

end MachineActuator.InfraCluster
