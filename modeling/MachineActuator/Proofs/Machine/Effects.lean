import Mathlib
import MachineActuator.Control.Reconcile
import MachineActuator.Proofs.Machine.Scope

/-! # What the operations ask for

A program keeps to a property of effects when every effect that it may perform has it, whatever the
answers are (`Program.Only`); with it a property of the results may be known (`Program.Ensures`).
The parts of an operation are taken one by one, each with the effects that it performs; together
they show that applying a machine asks for nothing but what `Effect.Applies` allows, and cleaning up
after it for nothing but what `Effect.CleansUp` allows. -/

namespace MachineActuator

/-! ### Properties of all effects -/

namespace Program

variable {α β : Type} {P P' : Effect → Prop} {Q Q' : α → Prop} {R : β → Prop} {p : Program α}

/-- Every effect that the program may perform has the property `P`, and every result has `Q`. -/
def Ensures (P : Effect → Prop) (Q : α → Prop) : Program α → Prop
  | done a => Q a
  | perform e next => P e ∧ ∀ answer, (next answer).Ensures P Q

/-- Every effect that the program may perform has the property. -/
abbrev Only (P : Effect → Prop) (p : Program α) : Prop := p.Ensures P fun _ => True

theorem ensures_pure {a : α} (h : Q a) : (pure a : Program α).Ensures P Q := h

theorem only_pure (a : α) : (pure a : Program α).Only P := trivial

theorem only_effect {e : Effect} (h : P e) : (effect e).Only P := ⟨h, fun _ => trivial⟩

theorem only_true (p : Program α) : p.Only fun _ => True := by
  induction p with
  | done a => trivial
  | perform e next ih => exact ⟨trivial, ih⟩

theorem Ensures.bind (hp : p.Ensures P Q) {f : α → Program β}
    (hf : ∀ a, Q a → (f a).Ensures P R) : (p >>= f).Ensures P R := by
  induction p with
  | done value => exact hf value hp
  | perform e next ih =>
    obtain ⟨he, hnext⟩ := hp
    exact ⟨he, fun answer => ih answer (hnext answer)⟩

theorem Only.bind (hp : p.Only P) {f : α → Program β} (hf : ∀ a, (f a).Ensures P R) :
    (p >>= f).Ensures P R := Ensures.bind hp fun a _ => hf a

theorem Ensures.mono (hp : p.Ensures P Q) (hP : ∀ e, P e → P' e) (hQ : ∀ a, Q a → Q' a) :
    p.Ensures P' Q' := by
  induction p with
  | done value => exact hQ value hp
  | perform e next ih => exact ⟨hP e hp.1, fun answer => ih answer (hp.2 answer)⟩

theorem Only.mono (hp : p.Only P) (hP : ∀ e, P e → P' e) : p.Only P' :=
  Ensures.mono hp hP fun _ h => h

theorem Ensures.only (hp : p.Ensures P Q) : p.Only P := hp.mono (fun _ h => h) fun _ _ => trivial

end Program

open Program (Only ensures_pure only_pure only_effect)

/-! ### What machines are allowed -/

/-- What may be asked for to apply a machine: to create and to replace its virtual machine, to
create its secret, and to patch the machine by what differs from it. -/
def Effect.Applies (settings : Settings) (m : Machine) : Effect → Prop
  | .infra (.createVirtualMachine ns vm) =>
    ns = settings.infra.ns ∧ vm.metadata.name = some (m.metadata.name.getD "")
  | .infra (.updateVirtualMachine ns vm) =>
    ns = settings.infra.ns ∧ vm.metadata.name = some (m.metadata.name.getD "")
  | .infra (.createSecret ns secret) =>
    ns = settings.infra.ns ∧
      secret.metadata.name = some (ignitionSecretName (m.metadata.name.getD ""))
  | .infra (.deleteVirtualMachine ..) => False
  | .infra (.getVirtualMachine ..) | .infra (.getInstance ..) => True
  | .tenant (.patchMachine ns name patch) =>
    (ns = m.metadata.ns.getD "" ∧ name = m.metadata.displayName) ∧
      ∃ after, Machine.patch? m after = some patch
  | .tenant (.patchMachineStatus ns name patch) =>
    (ns = m.metadata.ns.getD "" ∧ name = m.metadata.displayName) ∧
      ∃ after now, Machine.statusPatch? m after now = some patch
  | .tenant (.getSecret ..) => True
  | .tenant _ => False
  | .changeFinalizers .. => False
  | .resolve _ | .now | .publish _ | .log _ => True

/-- Effects that are to store a virtual machine or a secret. -/
def Effect.Stores : Effect → Prop
  | .infra (.createVirtualMachine ..) | .infra (.updateVirtualMachine ..)
  | .infra (.createSecret ..) => True
  | _ => False

/-- What may be asked for to clean up after a machine: to look its virtual machine up and to delete
it. -/
def Effect.CleansUp (settings : Settings) (m : Machine) : Effect → Prop
  | .infra (.getVirtualMachine ns name) | .infra (.deleteVirtualMachine ns name _) =>
    ns = settings.infra.ns ∧ name = m.metadata.name.getD ""
  | .publish _ | .log _ => True
  | _ => False

/-! ### The life of a virtual machine -/

theorem only_log {P : Effect → Prop} (hlog : ∀ line, P (.log line)) (level : LogLevel)
    (text : String) : (Program.log level text).Only P := only_effect (hlog _)

namespace Lifecycle

variable {α : Type} {P : Effect → Prop} (hlog : ∀ line, P (.log line)) (s : Scope)

/-- The scope has taken over what was observed of some virtual machine, if there is a scope. -/
def TookOver (s : Scope) (r : Except ControllerError Scope) : Prop :=
  ∀ s', r = .ok s' → ∃ vm vmi providerId ips, s' = s.synced vm vmi providerId ips

include hlog

theorem ensures_stepFailed {Q : Except ControllerError α → Prop} (hQ : ∀ e, Q (.error e))
    (machine : String) (action : MachineAction) (what : String) (source : ControllerError) :
    (stepFailed machine action what source : Program (Except ControllerError α)).Ensures P Q := by
  unfold stepFailed
  exact (only_log hlog _ _).bind fun _ => ensures_pure (hQ _)

theorem only_stepFailed (machine : String) (action : MachineAction) (what : String)
    (source : ControllerError) :
    (stepFailed machine action what source : Program (Except ControllerError α)).Only P :=
  ensures_stepFailed hlog (fun _ => trivial) machine action what source

theorem ensures_sync (hresolve : ∀ host, P (.resolve host)) (vm : VirtualMachine)
    (vmi : VirtualMachineInstance) (providerId : String) :
    (s.sync vm vmi providerId).Ensures P (TookOver s) := by
  have hid : (s.logProviderId providerId).Only P := by
    unfold Scope.logProviderId
    split_ifs
    · exact only_log hlog _ _
    · exact only_log hlog _ _
  unfold Scope.sync
  apply hid.bind
  intro _
  apply (only_log hlog _ _).bind
  intro _
  apply (only_effect (hresolve _)).bind
  intro ips
  apply (only_log hlog _ _).bind
  intro _
  exact ensures_pure fun s' hs => ⟨vm, vmi, providerId, ips, (Except.ok.inj hs).symm⟩

theorem ensures_observe (hresolve : ∀ host, P (.resolve host)) (vm : VirtualMachine)
    (hinstance : P (.infra (.getInstance (vm.metadata.ns.getD s.infraNs) vm.metadata.displayName)))
    (action : MachineAction) : (observe Scope.sync s vm action).Ensures P (TookOver s) := by
  have hfailed (e : ControllerError) : TookOver s (.error e) := fun _ h => by simp at h
  unfold observe
  apply (only_effect hinstance).bind
  intro answer
  cases answer with
  | error e => exact ensures_stepFailed hlog hfailed _ _ _ _
  | ok vmi =>
    apply (ensures_sync hlog s hresolve vm vmi _).bind
    intro result hresult
    cases result with
    | error e => exact ensures_stepFailed hlog hfailed _ _ _ _
    | ok synced => exact ensures_pure hresult

theorem only_ensureSecret {payload : ByteArray}
    (hsecret : P (.infra (.createSecret s.infraNs (s.ignitionSecret payload)))) :
    (ensureSecret s payload).Only P := by
  unfold ensureSecret
  apply (only_effect hsecret).bind
  intro answer
  cases answer with
  | ok secret => exact only_pure _
  | error e =>
    dsimp only
    split_ifs
    · exact (only_log hlog _ _).bind fun _ => only_pure _
    · exact only_stepFailed hlog _ _ _ _

theorem only_createVm {vm : VirtualMachine}
    (hcreate : P (.infra (.createVirtualMachine s.infraNs vm))) : (createVm s vm).Only P := by
  unfold createVm
  apply (only_effect hcreate).bind
  intro answer
  cases answer with
  | error e => exact only_stepFailed hlog _ _ _ _
  | ok created => exact (only_log hlog _ _).bind fun _ => only_pure _

theorem only_delete
    (hget : P (.infra (.getVirtualMachine s.infraNs s.name)))
    (hdelete : P (.infra (.deleteVirtualMachine s.infraNs s.name deleteGraceSeconds))) :
    (delete s).Only P := by
  unfold delete
  apply (only_effect hget).bind
  intro answer
  cases answer with
  | error e =>
    dsimp only
    split_ifs
    · exact (only_log hlog _ _).bind fun _ => only_pure _
    · exact only_stepFailed hlog _ _ _ _
  | ok vm =>
    apply (only_effect hdelete).bind
    intro answer
    cases answer with
    | error e => exact only_stepFailed hlog _ _ _ _
    | ok _ => exact (only_log hlog _ _).bind fun _ => only_pure _

theorem only_exists? {machine infraNs : String}
    (hget : P (.infra (.getVirtualMachine infraNs machine))) :
    (exists? machine infraNs).Only P := by
  unfold exists?
  apply (only_log hlog _ _).bind
  intro _
  apply (only_effect hget).bind
  intro answer
  cases answer with
  | ok vm => exact only_pure _
  | error e =>
    dsimp only
    split_ifs
    · exact (only_log hlog _ _).bind fun _ => only_pure _
    · exact only_stepFailed hlog _ _ _ _

omit hlog

/-! Creating and updating as a whole. -/

theorem ensures_create (payload : ByteArray) :
    (create Scope.sync s payload).Ensures (Effect.Applies s.settings s.machine) (TookOver s) := by
  have hfailed (e : ControllerError) : TookOver s (.error e) := fun _ h => by simp at h
  have hlog (line : LogLine) : Effect.Applies s.settings s.machine (.log line) := trivial
  unfold create
  cases Payload.addHostname payload s.name with
  | error e => exact ensures_stepFailed hlog hfailed _ _ _ _
  | ok payload =>
    have hsecret : Effect.Applies s.settings s.machine
        (.infra (.createSecret s.infraNs (s.ignitionSecret payload))) := ⟨rfl, rfl⟩
    apply (only_ensureSecret hlog s hsecret).bind
    intro result
    cases result with
    | error e => exact ensures_pure (hfailed e)
    | ok _ =>
      dsimp only
      cases hvm : s.virtualMachine with
      | error e => exact ensures_stepFailed hlog hfailed _ _ _ _
      | ok vm =>
        obtain ⟨-, mode, -, rfl⟩ := Scope.virtualMachine_eq_ok_iff.mp hvm
        have hcreate : Effect.Applies s.settings s.machine
            (.infra (.createVirtualMachine s.infraNs (s.virtualMachineWith mode))) := ⟨rfl, rfl⟩
        apply (only_createVm hlog s hcreate).bind
        intro result
        cases result with
        | error e => exact ensures_pure (hfailed e)
        | ok created =>
          exact ensures_observe hlog s (fun _ => trivial) created trivial _

/-- The same for an update, which tells besides whether the virtual machine was changed. -/
def TookOverAfter (s : Scope) (r : Except ControllerError (Bool × Scope)) : Prop :=
  ∀ changed s', r = .ok (changed, s') → ∃ vm vmi providerId ips, s' = s.synced vm vmi providerId ips

section Update

/-! An update asks for what any machine may be applied with, and for one replacement. -/

variable {P : Effect → Prop} (hP : ∀ e, Effect.Applies s.settings s.machine e → ¬ e.Stores → P e)
  (hupdate : ∀ mode existing, P (.infra (.updateVirtualMachine s.infraNs
    (replacement (s.virtualMachineWith mode) existing))))

include hP hupdate

theorem ensures_replace_of (mode : String) (existing : VirtualMachine) :
    (replace Scope.sync s (s.virtualMachineWith mode) existing).Ensures P (TookOverAfter s) := by
  have hfailed (e : ControllerError) : TookOverAfter s (.error e) := fun _ _ h => by simp at h
  have hlog (line : LogLine) : P (.log line) := hP _ trivial id
  unfold replace
  apply (only_effect (hupdate mode existing)).bind
  intro answer
  cases answer with
  | error e => exact ensures_stepFailed hlog hfailed _ _ _ _
  | ok updated =>
    apply (only_log hlog _ _).bind
    intro _
    apply (ensures_observe hlog s (fun _ => hP _ trivial id) updated (hP _ trivial id) _).bind
    intro result hresult
    cases result with
    | error e => exact ensures_pure (hfailed e)
    | ok synced =>
      refine ensures_pure fun changed s' hs => hresult s' ?_
      exact congrArg Except.ok (Prod.mk.inj (Except.ok.inj hs)).2

theorem ensures_update_of : (update Scope.sync s).Ensures P (TookOverAfter s) := by
  have hfailed (e : ControllerError) : TookOverAfter s (.error e) := fun _ _ h => by simp at h
  have hlog (line : LogLine) : P (.log line) := hP _ trivial id
  have hget (ns name : String) : P (.infra (.getVirtualMachine ns name)) := hP _ trivial id
  have hnow : P .now := hP _ trivial id
  unfold update
  cases hvm : s.virtualMachine with
  | error e => exact ensures_stepFailed hlog hfailed _ _ _ _
  | ok desired =>
    obtain ⟨-, mode, -, rfl⟩ := Scope.virtualMachine_eq_ok_iff.mp hvm
    apply (only_effect (hget _ _)).bind
    intro answer
    cases answer with
    | ok existing => exact ensures_replace_of s hP hupdate mode existing
    | error e =>
      dsimp only
      split_ifs
      · unfold awaitVm
        apply (only_effect hnow).bind
        intro _
        exact (only_log hlog _ _).bind fun _ => ensures_pure (hfailed _)
      · exact ensures_stepFailed hlog hfailed _ _ _ _

end Update

theorem ensures_update :
    (update Scope.sync s).Ensures (Effect.Applies s.settings s.machine) (TookOverAfter s) :=
  ensures_update_of s (fun _ h _ => h) fun _ _ => ⟨rfl, rfl⟩

end Lifecycle

/-! ### Operations -/

namespace Operation

variable {α : Type} {P : Effect → Prop}

theorem only_payload (s : Scope)
    (hget : P (.tenant (.getSecret s.ns s.providerSpec.ignitionSecretName))) :
    (payload s).Only P := by
  unfold payload
  apply (only_effect hget).bind
  intro answer
  cases answer with
  | error e =>
    dsimp only
    split_ifs
    · exact only_pure _
    · exact only_pure _
  | ok secret =>
    dsimp only
    cases secret.get? userDataKey with
    | some bytes => exact only_pure _
    | none => exact only_pure _

theorem only_reportFailure (hlog : ∀ line, P (.log line)) (hpublish : ∀ event, P (.publish event))
    (m : Machine) (action : MachineAction) (e : ControllerError) :
    (reportFailure m action e : Program (Except ControllerError α)).Only P := by
  unfold reportFailure
  exact (only_log hlog _ _).bind fun _ => (only_effect (hpublish _)).bind fun _ => only_pure _

theorem only_exists? (hlog : ∀ line, P (.log line)) (hpublish : ∀ event, P (.publish event))
    (settings : Settings) (m : Machine)
    (hget : P (.infra (.getVirtualMachine settings.infra.ns m.metadata.displayName))) :
    (exists? settings m).Only P := by
  unfold exists?
  apply (only_log hlog _ _).bind
  intro _
  apply (Lifecycle.only_exists? hlog hget).bind
  intro result
  cases result with
  | ok found => exact only_pure _
  | error e => exact only_reportFailure hlog hpublish m _ e

/-! Writing back what a sync has changed. -/

section Persist

variable {P : Effect → Prop} {settings : Settings} {before : Machine}
  (hP : ∀ e, Effect.Applies settings before e → ¬ e.Stores → P e) (after : Machine)
  (action : MachineAction)
  (hkey : after.metadata.ns.getD "" = before.metadata.ns.getD "" ∧
    after.metadata.displayName = before.metadata.displayName)

include hP hkey

theorem only_patchMachine : (patchMachine before after action).Only P := by
  unfold patchMachine
  cases hpatch : Machine.patch? before after with
  | none => exact only_pure _
  | some patch =>
    have hsend : Effect.Applies settings before (.tenant (.patchMachine
        (after.metadata.ns.getD "") after.metadata.displayName patch)) := ⟨hkey, after, hpatch⟩
    apply (only_effect (hP _ hsend id)).bind
    intro answer
    cases answer with
    | ok r => exact only_pure _
    | error e => exact only_pure _

theorem only_patchStatus (now : Instant) : (patchStatus before after action now).Only P := by
  unfold patchStatus
  cases hpatch : Machine.statusPatch? before after now with
  | none => exact only_pure _
  | some patch =>
    have hsend : Effect.Applies settings before (.tenant (.patchMachineStatus
        (after.metadata.ns.getD "") after.metadata.displayName patch)) :=
      ⟨hkey, after, now, hpatch⟩
    apply (only_effect (hP _ hsend id)).bind
    intro answer
    cases answer with
    | ok r => exact only_pure _
    | error e => exact only_pure _

theorem only_persist : (persist before after action).Only P := by
  have hnow : P .now := hP _ trivial id
  unfold persist
  apply (only_log (fun _ => hP _ trivial id) _ _).bind
  intro _
  apply (only_patchMachine hP after action hkey).bind
  intro result
  cases result with
  | error e => exact only_pure _
  | ok _ =>
    exact (only_effect hnow).bind fun now => only_patchStatus hP after action hkey now

end Persist

section Update

variable {P : Effect → Prop} {settings : Settings} {m : Machine}
  (hP : ∀ e, Effect.Applies settings m e → ¬ e.Stores → P e)
  (hupdate : ∀ s, Scope.ofMachine settings m = .ok s → ∀ mode existing,
    P (.infra (.updateVirtualMachine s.infraNs
      (Lifecycle.replacement (s.virtualMachineWith mode) existing))))

include hP hupdate

theorem only_tryUpdate : (tryUpdate settings m).Only P := by
  unfold tryUpdate
  cases hscope : Scope.ofMachine settings m with
  | error e => exact only_pure _
  | ok s =>
    have hreplace := hupdate s hscope
    obtain ⟨rfl, rfl⟩ := Scope.eq_of_ofMachine hscope
    apply (only_log (fun _ => hP _ trivial id) _ _).bind
    intro _
    apply (Lifecycle.ensures_update_of s hP hreplace).bind
    intro result hresult
    cases result with
    | error e => exact (only_persist hP s.machine _ ⟨rfl, rfl⟩).bind fun _ => only_pure _
    | ok pair =>
      obtain ⟨vm, vmi, providerId, ips, hsynced⟩ := hresult pair.1 pair.2 rfl
      have hkey : pair.2.machine.metadata.ns.getD "" = s.machine.metadata.ns.getD "" ∧
          pair.2.machine.metadata.displayName = s.machine.metadata.displayName := by
        rw [hsynced]
        exact ⟨rfl, rfl⟩
      apply (only_persist hP _ _ hkey).bind
      intro result
      cases result with
      | error e => exact only_pure _
      | ok _ => exact only_pure _

theorem only_update_of : (update settings m).Only P := by
  have hpublish (event : MachineEvent) : P (.publish event) := hP _ trivial id
  unfold update
  apply (only_tryUpdate hP hupdate).bind
  intro result
  cases result with
  | ok changed =>
    cases changed with
    | true => exact (only_effect (hpublish _)).bind fun _ => only_pure _
    | false => exact only_pure _
  | error e => exact only_reportFailure (fun _ => hP _ trivial id) hpublish m _ e

end Update

variable (settings : Settings) (m : Machine)

theorem only_tryCreate : (tryCreate settings m).Only (Effect.Applies settings m) := by
  have hget (ns name : String) : Effect.Applies settings m (.tenant (.getSecret ns name)) := trivial
  unfold tryCreate
  cases hscope : Scope.ofMachine settings m with
  | error e => exact only_pure _
  | ok s =>
    obtain ⟨rfl, rfl⟩ := Scope.eq_of_ofMachine hscope
    apply (only_log (fun _ => trivial) _ _).bind
    intro _
    apply (only_payload s (hget _ _)).bind
    intro result
    cases result with
    | error e => exact only_pure _
    | ok bytes =>
      apply (Lifecycle.ensures_create s bytes).bind
      intro result hresult
      cases result with
      | error e =>
        exact (only_persist (fun _ h _ => h) s.machine _ ⟨rfl, rfl⟩).bind fun _ => only_pure _
      | ok synced =>
        obtain ⟨vm, vmi, providerId, ips, rfl⟩ := hresult synced rfl
        exact only_persist (fun _ h _ => h) _ _ ⟨rfl, rfl⟩

theorem only_tryDelete : (tryDelete settings m).Only (Effect.CleansUp settings m) := by
  unfold tryDelete
  cases hscope : Scope.ofMachine settings m with
  | error e => exact only_pure _
  | ok s =>
    obtain ⟨rfl, rfl⟩ := Scope.eq_of_ofMachine hscope
    have hget : Effect.CleansUp s.settings s.machine
        (.infra (.getVirtualMachine s.infraNs s.name)) := ⟨rfl, rfl⟩
    have hdelete : Effect.CleansUp s.settings s.machine (.infra (.deleteVirtualMachine s.infraNs
        s.name Lifecycle.deleteGraceSeconds)) := ⟨rfl, rfl⟩
    apply (only_log (fun _ => trivial) _ _).bind
    intro _
    exact Lifecycle.only_delete (fun _ => trivial) s hget hdelete

theorem only_create : (create settings m).Only (Effect.Applies settings m) := by
  have hpublish (event : MachineEvent) : Effect.Applies settings m (.publish event) := trivial
  unfold create
  apply (only_tryCreate settings m).bind
  intro result
  cases result with
  | ok _ => exact (only_effect (hpublish _)).bind fun _ => only_pure _
  | error e => exact only_reportFailure (fun _ => trivial) hpublish m _ e

theorem only_update : (update settings m).Only (Effect.Applies settings m) :=
  only_update_of (fun _ h _ => h) fun s hs _ _ => by
    obtain ⟨rfl, rfl⟩ := Scope.eq_of_ofMachine hs
    exact ⟨rfl, rfl⟩

theorem only_delete : (delete settings m).Only (Effect.CleansUp settings m) := by
  have hpublish (event : MachineEvent) : Effect.CleansUp settings m (.publish event) := trivial
  unfold delete
  apply (only_tryDelete settings m).bind
  intro result
  cases result with
  | ok _ => exact (only_effect (hpublish _)).bind fun _ => only_pure _
  | error e => exact only_reportFailure (fun _ => trivial) hpublish m _ e

end Operation

/-! ### Applying and cleaning up -/

namespace Machine

variable (settings : Settings) (m : Machine)

theorem only_apply : (apply settings m).Only (Effect.Applies settings m) := by
  have hget (ns name : String) : Effect.Applies settings m (.infra (.getVirtualMachine ns name)) :=
    trivial
  unfold apply
  apply (Operation.only_exists? (fun _ => trivial) (fun _ => trivial) settings m (hget _ _)).bind
  intro result
  cases result with
  | error e => exact only_pure _
  | ok found =>
    cases found with
    | true =>
      apply (Operation.only_update settings m).bind
      intro result
      cases result with
      | error e => exact only_pure _
      | ok _ => exact only_pure _
    | false =>
      apply (Operation.only_create settings m).bind
      intro result
      cases result with
      | error e => exact only_pure _
      | ok _ => exact only_pure _

theorem only_cleanup : (cleanup settings m).Only (Effect.CleansUp settings m) := by
  unfold cleanup
  apply (Operation.only_delete settings m).bind
  intro result
  cases result with
  | error e => exact only_pure _
  | ok _ => exact only_pure _

end Machine

end MachineActuator
