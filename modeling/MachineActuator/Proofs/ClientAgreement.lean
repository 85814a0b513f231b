import Mathlib
import MachineActuator.Proofs.Api.Tracking
import MachineActuator.Proofs.Machine.Secret

/-! # Memory and API agree

The operations on a virtual machine are the same over a cluster in memory and over an API server
with the same contents: they succeed alike, fail at the same step, ask to be looked at again after
the same time, and leave the same contents (`Lifecycle.clients_agree`).  What a client makes of an
error is only whether an object is absent and whether there is one already, and both clients tell
these apart in their own way.  The name and the namespace of the virtual machine have to be such
that they can stand in an address: with another name there is no request at all
(`Lifecycle.clients_disagree`). -/

namespace MachineActuator

open Api (Addressable Response)
open Program (Tracks tracks_pure tracks_infra tracks_log)

/-! ### Outcomes -/

/-- The same error, but for what a client said in the step that failed. -/
inductive ControllerError.SameStep : ControllerError → ControllerError → Prop
  | refl (e : ControllerError) : SameStep e e
  | client {e e' : ClientError} (machine : String) (action : MachineAction) (what : String)
      (h : e.SameKind e') :
      SameStep (.step machine action what (.client e)) (.step machine action what (.client e'))

/-- The same value, or errors of the same step. -/
inductive SameOutcome {α : Type} :
    Except ControllerError α → Except ControllerError α → Prop
  | ok (a : α) : SameOutcome (.ok a) (.ok a)
  | error {e e' : ControllerError} (h : e.SameStep e') : SameOutcome (.error e) (.error e')

theorem ControllerError.SameStep.requeueDelay?_eq {e e' : ControllerError} (h : e.SameStep e') :
    e.requeueDelay? = e'.requeueDelay? := by
  cases h with
  | refl e => rfl
  | client machine action what h => rfl

theorem SameOutcome.ok_iff {α : Type} {r r' : Except ControllerError α} (h : SameOutcome r r')
    (a : α) : r = .ok a ↔ r' = .ok a := by
  cases h with
  | ok b => exact Iff.rfl
  | error h => simp

theorem SameOutcome.refl {α : Type} (r : Except ControllerError α) : SameOutcome r r := by
  cases r with
  | ok a => exact .ok a
  | error e => exact .error (.refl e)

/-! ### The life of a virtual machine -/

namespace Lifecycle

variable {α : Type} {ns name : String} {s : Scope}

theorem tracks_stepFailed {machine : String} {action : MachineAction} {what : String}
    {source source' : ControllerError}
    (h : (ControllerError.step machine action what source).SameStep
      (.step machine action what source')) :
    (stepFailed machine action what source : Program (Except ControllerError α)).Tracks ns name
      SameOutcome (stepFailed machine action what source') := by
  unfold stepFailed
  exact (tracks_log _ _ _ _).bind fun _ _ _ => tracks_pure (.error h)

theorem tracks_getVirtualMachine (ns name : String) :
    (Program.infra (.getVirtualMachine ns name)).Tracks ns name
      ((InfraCall.getVirtualMachine ns name).Matches ns name)
      (Program.infra (.getVirtualMachine ns name)) := by
  have hcall : (InfraCall.getVirtualMachine ns name).Sendable ns name := ⟨rfl, rfl⟩
  exact tracks_infra hcall

theorem tracks_sync (s : Scope) (vm : VirtualMachine) (vmi : VirtualMachineInstance)
    (providerId : String) :
    (s.sync vm vmi providerId).Tracks ns name Eq (s.sync vm vmi providerId) := by
  have hsync : (s.sync vm vmi providerId).Ensures Effect.IsLocal (TookOver s) :=
    ensures_sync (fun _ => trivial) s (fun _ => trivial) vm vmi providerId
  exact hsync.only.tracks

/-- The virtual machine says of itself that it is the one of the scope. -/
def IsOwn (s : Scope) (vm : VirtualMachine) : Prop :=
  vm.metadata.ns.getD s.infraNs = s.infraNs ∧ vm.metadata.displayName = s.name

theorem tracks_observe {vm : VirtualMachine} (hown : IsOwn s vm) (action : MachineAction) :
    (observe Scope.sync s vm action).Tracks s.infraNs s.name SameOutcome
      (observe Scope.sync s vm action) := by
  obtain ⟨hns, hname⟩ := hown
  unfold observe
  dsimp only
  rw [hns, hname]
  have hcall : (InfraCall.getInstance s.infraNs s.name).Sendable s.infraNs s.name := ⟨rfl, rfl⟩
  refine (tracks_infra hcall).bind fun a b hmatches => ?_
  cases hmatches.same with
  | error h => exact tracks_stepFailed (.client _ _ _ h)
  | ok vmi =>
    refine (tracks_sync s vm vmi _).bind ?_
    rintro result _ rfl
    cases result with
    | error e => exact tracks_stepFailed (.refl _)
    | ok synced => exact tracks_pure (.ok synced)

theorem tracks_ensureSecret (s : Scope) (payload : ByteArray) :
    (ensureSecret s payload).Tracks s.infraNs s.name SameOutcome (ensureSecret s payload) := by
  have hcall : (InfraCall.createSecret s.infraNs (s.ignitionSecret payload)).Sendable s.infraNs
      s.name := ⟨rfl, s.setByClient_ignitionSecret payload⟩
  unfold ensureSecret
  refine (tracks_infra hcall).bind fun a b hmatches => ?_
  cases hmatches.same with
  | ok secret => exact tracks_pure (.ok ())
  | error h =>
    dsimp only
    rw [h.alreadyExists]
    split_ifs
    · exact (tracks_log _ _ _ _).bind fun _ _ _ => tracks_pure (.ok ())
    · exact tracks_stepFailed (.client _ _ _ h)

/-- A virtual machine that was created is the one of the scope. -/
theorem tracks_createVm {vm : VirtualMachine} (hname : vm.metadata.name = some s.name)
    (hvm : vm.SetByClient) :
    (createVm s vm).Tracks s.infraNs s.name
      (fun a b => SameOutcome a b ∧ ∀ created, a = .ok created → IsOwn s created)
      (createVm s vm) := by
  unfold createVm
  have hcall : (InfraCall.createVirtualMachine s.infraNs vm).Sendable s.infraNs s.name :=
    ⟨rfl, hname, hvm⟩
  refine (tracks_infra hcall).bind fun a b hmatches => ?_
  obtain ⟨hsame, hnamed⟩ := hmatches
  cases hsame with
  | error h =>
    unfold stepFailed
    refine (tracks_log _ _ _ _).bind fun _ _ _ => tracks_pure ⟨.error (.client _ _ _ h), ?_⟩
    intro created hcreated
    simp at hcreated
  | ok created =>
    refine (tracks_log _ _ _ _).bind fun _ _ _ => tracks_pure ⟨.ok created, ?_⟩
    intro vm' hvm'
    obtain rfl := Except.ok.inj hvm'
    exact hnamed _ rfl

theorem tracks_create (hfits : s.Fits) (payload : ByteArray) :
    (create Scope.sync s payload).Tracks s.infraNs s.name SameOutcome
      (create Scope.sync s payload) := by
  unfold create
  cases Payload.addHostname payload s.name with
  | error e => exact tracks_stepFailed (.refl _)
  | ok payload =>
    refine (tracks_ensureSecret s payload).bind fun a b hsecret => ?_
    cases hsecret with
    | error h => exact tracks_pure (.error h)
    | ok done =>
      dsimp only
      cases hvm : s.virtualMachine with
      | error e => exact tracks_stepFailed (.refl _)
      | ok vm =>
        obtain ⟨-, mode, -, rfl⟩ := Scope.virtualMachine_eq_ok_iff.mp hvm
        refine (tracks_createVm rfl (hfits.setByClient mode)).bind fun a b hcreated => ?_
        obtain ⟨hsame, hown⟩ := hcreated
        cases hsame with
        | error h => exact tracks_pure (.error h)
        | ok created => exact tracks_observe (hown created rfl) .create

theorem tracks_replace (hfits : s.Fits) (mode : String) (existing : VirtualMachine) :
    (replace Scope.sync s (s.virtualMachineWith mode) existing).Tracks s.infraNs s.name SameOutcome
      (replace Scope.sync s (s.virtualMachineWith mode) existing) := by
  have hcall : (InfraCall.updateVirtualMachine s.infraNs
      (replacement (s.virtualMachineWith mode) existing)).Sendable s.infraNs s.name :=
    ⟨rfl, rfl, (hfits.setByClient mode).replacement existing⟩
  unfold replace
  refine (tracks_infra hcall).bind fun a b hmatches => ?_
  obtain ⟨hsame, hnamed⟩ := hmatches
  cases hsame with
  | error h => exact tracks_stepFailed (.client _ _ _ h)
  | ok updated =>
    unfold logReplaced
    refine (tracks_log _ _ _ _).bind fun _ _ _ => ?_
    refine (tracks_observe (hnamed updated rfl) .update).bind fun a b hobserved => ?_
    cases hobserved with
    | error h => exact tracks_pure (.error h)
    | ok synced => exact tracks_pure (.ok _)

theorem tracks_awaitVm (s : Scope) (vmNs vmName : String) :
    (awaitVm s vmNs vmName).Tracks ns name SameOutcome (awaitVm s vmNs vmName) := by
  have hnow : (Program.now).Only Effect.IsLocal := Program.only_effect trivial
  unfold awaitVm
  refine hnow.tracks.bind ?_
  rintro now _ rfl
  exact (tracks_log _ _ _ _).bind fun _ _ _ => tracks_pure (.refl _)

theorem tracks_update (hfits : s.Fits) :
    (update Scope.sync s).Tracks s.infraNs s.name SameOutcome (update Scope.sync s) := by
  unfold update
  cases hvm : s.virtualMachine with
  | error e => exact tracks_stepFailed (.refl _)
  | ok desired =>
    obtain ⟨-, mode, -, rfl⟩ := Scope.virtualMachine_eq_ok_iff.mp hvm
    have hname := Scope.displayName_of_virtualMachine hvm
    dsimp only
    rw [hname]
    refine (tracks_getVirtualMachine _ _).bind fun a b hmatches => ?_
    cases hmatches.same with
    | ok existing => exact tracks_replace hfits mode existing
    | error h =>
      dsimp only
      rw [h.notFound]
      split_ifs
      · exact tracks_awaitVm s s.infraNs s.name
      · exact tracks_stepFailed (.client _ _ _ h)

theorem tracks_delete (s : Scope) :
    (delete s).Tracks s.infraNs s.name SameOutcome (delete s) := by
  unfold delete
  refine (tracks_getVirtualMachine _ _).bind fun a b hmatches => ?_
  cases hmatches.same with
  | error h =>
    dsimp only
    rw [h.notFound]
    split_ifs
    · exact (tracks_log _ _ _ _).bind fun _ _ _ => tracks_pure (.ok ())
    · exact tracks_stepFailed (.client _ _ _ h)
  | ok existing =>
    have hcall : (InfraCall.deleteVirtualMachine s.infraNs s.name deleteGraceSeconds).Sendable
        s.infraNs s.name := ⟨rfl, rfl, by decide⟩
    refine (tracks_infra hcall).bind fun a b hmatches => ?_
    cases hmatches.same with
    | error h => exact tracks_stepFailed (.client _ _ _ h)
    | ok done => exact (tracks_log _ _ _ _).bind fun _ _ _ => tracks_pure (.ok ())

theorem tracks_exists? (machine infraNs : String) :
    (exists? machine infraNs).Tracks infraNs machine SameOutcome (exists? machine infraNs) := by
  unfold exists?
  refine (tracks_log _ _ _ _).bind fun _ _ _ => ?_
  refine (tracks_getVirtualMachine _ _).bind fun a b hmatches => ?_
  cases hmatches.same with
  | ok existing => exact tracks_pure (.ok true)
  | error h =>
    dsimp only
    rw [h.notFound]
    split_ifs
    · exact (tracks_log _ _ _ _).bind fun _ _ _ => tracks_pure (.ok false)
    · exact tracks_stepFailed (.client _ _ _ h)

/-! ### Both clients -/

/-- An operation on the virtual machine of a scope. -/
inductive Task where
  | create (payload : ByteArray)
  | update
  | delete
  | exists?

namespace Task

/-- What an operation gives when it succeeds. -/
abbrev Result : Task → Type
  | create _ => Scope
  | update => Bool × Scope
  | delete => Unit
  | exists? => Bool

/-- The operation as a program. -/
def program (s : Scope) : (task : Task) → Program (Except ControllerError task.Result)
  | create payload => Lifecycle.create Scope.sync s payload
  | update => Lifecycle.update Scope.sync s
  | delete => Lifecycle.delete s
  | exists? => Lifecycle.exists? s.name s.infraNs

theorem tracks_program (hfits : s.Fits) (task : Task) :
    (task.program s).Tracks s.infraNs s.name SameOutcome (task.program s) := by
  cases task with
  | create payload => exact tracks_create hfits payload
  | update => exact tracks_update hfits
  | delete => exact tracks_delete s
  | exists? => exact tracks_exists? s.name s.infraNs

end Task

/-- Any operation can be run over an API server with the contents of a cluster, if these can be
sent. -/
theorem exists_exchange (task : Task) {env : Environment} (haddress : Addressable s.infraNs s.name)
    (hfits : s.Fits) (hfiled : env.infra.Filed) (hexpressible : env.infra.Expressible) :
    ∃ responses c', Exchange env.infra
      ({ env with api := { responses } }.run .api (task.program s)).2.api.requests
      responses c' := by
  have hhosts : ({ env with api := {} } : Environment).hosts = env.hosts := rfl
  obtain ⟨responses, asked, c', hasked, hexchange⟩ :=
    (task.tracks_program hfits).exists_exchange haddress hfiled hexpressible hhosts rfl
  rw [List.nil_append] at hasked
  refine ⟨responses, c', ?_⟩
  rw [← hasked] at hexchange
  exact hexchange

/-- An operation comes to the same over a cluster in memory and over an API server with the same
contents. -/
theorem clients_agree (s : Scope) (task : Task) (env : Environment) (responses : List Response)
    (c' : InfraCluster) (haddress : Addressable s.infraNs s.name) (hfits : s.Fits)
    (hfiled : env.infra.Filed)
    (hexchange : Exchange env.infra
      ({ env with api := { responses } }.run .api (task.program s)).2.api.requests responses c') :
    SameOutcome (env.run .memory (task.program s)).1
        ({ env with api := { responses } }.run .api (task.program s)).1 ∧
      (env.run .memory (task.program s)).2.infra = c' := by
  have hhosts : ({ env with api := { responses } } : Environment).hosts = env.hosts := rfl
  exact (task.tracks_program hfits).run haddress hfiled hhosts rfl (List.nil_append _).symm
    hexchange

/-- The worker is created over an API server that holds nothing so far. -/
theorem clients_agree_worker :
    ∃ responses c' s', Exchange nothing.infra
        ({ nothing with api := { responses } }.run .api
          ((Task.create "\x7b\x7d".toUTF8).program workerScope)).2.api.requests responses c' ∧
      ({ nothing with api := { responses } }.run .api
        ((Task.create "\x7b\x7d".toUTF8).program workerScope)).1 = .ok s' ∧
      (c'.virtualMachines "infra" "worker").isSome = true := by
  have haddress : Addressable workerScope.infraNs workerScope.name :=
    ⟨by decide +kernel, by decide +kernel, by decide, by decide +kernel⟩
  have hfits : workerScope.Fits := rfl
  have hfiled : nothing.infra.Filed := InfraCluster.filed_empty
  have hexpressible : nothing.infra.Expressible := by
    refine ⟨?_, ?_⟩
    all_goals
      intro ns name a h
      simp [nothing, Store.empty] at h
  have hrun : ∃ s', (nothing.run .memory
      ((Task.create "\x7b\x7d".toUTF8).program workerScope)).1 = .ok s' := ⟨_, rfl⟩
  obtain ⟨s', hrun⟩ := hrun
  obtain ⟨responses, c', hexchange⟩ :=
    exists_exchange (Task.create "\x7b\x7d".toUTF8) haddress hfits hfiled hexpressible
  obtain ⟨hsame, hstored⟩ :=
    clients_agree workerScope _ nothing responses c' haddress hfits hfiled hexchange
  refine ⟨responses, c', s', hexchange, (hsame.ok_iff s').mp hrun, ?_⟩
  rw [← hstored]
  rfl

/-- A scope whose name has a blank in it. -/
def spacedScope : Scope :=
  { workerScope with
    machine :=
      { Machine.worker with metadata := { Machine.worker.metadata with name := some "worker 0" } } }

/-- In a cluster in memory there is no virtual machine of this name; of an API server that holds
nothing either it cannot be asked. -/
theorem clients_disagree :
    spacedScope.name ≠ "" ∧ spacedScope.Fits ∧ nothing.infra.Filed ∧
      Exchange nothing.infra ({ nothing with api := {} }.run .api
        (Task.exists?.program spacedScope)).2.api.requests [] nothing.infra ∧
      (nothing.run .memory (Task.exists?.program spacedScope)).1 = .ok false ∧
      ¬ SameOutcome (nothing.run .memory (Task.exists?.program spacedScope)).1
        ({ nothing with api := {} }.run .api (Task.exists?.program spacedScope)).1 := by
  have hmemory : (nothing.run .memory (Task.exists?.program spacedScope)).1 = .ok false := rfl
  have hasked : ({ nothing with api := {} }.run .api
      (Task.exists?.program spacedScope)).2.api.requests = [] := rfl
  have hfailed : ∃ e, ({ nothing with api := {} }.run .api
      (Task.exists?.program spacedScope)).1 = .error e := ⟨_, rfl⟩
  obtain ⟨e, hfailed⟩ := hfailed
  refine ⟨by decide, rfl, InfraCluster.filed_empty, ?_, hmemory, fun hsame => ?_⟩
  · rw [hasked]
    exact .nil _
  · have hok := (hsame.ok_iff false).mp hmemory
    rw [hfailed] at hok
    simp at hok

end Lifecycle

end MachineActuator
