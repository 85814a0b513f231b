import Mathlib
import MachineActuator.Node.Upkeep
import MachineActuator.Proofs.Cluster.Frame
import MachineActuator.Proofs.Course
import MachineActuator.Proofs.Machine.Update

/-! # Runs of the upkeep of nodes

The upkeep of a node reads one cluster and writes to the other.  A call of it (`Upkeep.Call`) is
given a node as it is stored, while virtual machines come and go, report on themselves and kinds of
calls begin and cease to fail, between the effects of a call and between the calls
(`Upkeep.Elsewhere`).  One lemma says all that carrying out an action can do to the nodes
(`Upkeep.carried_out`); that a call is safe follows from it (`Upkeep.Call.Ran.safe`), and what
becomes of a node in a run of calls by induction on the run (`Upkeep.Run.fate`). -/

namespace MachineActuator

/-! ### Calls about nodes -/

namespace TenantCluster

variable {c : TenantCluster} {name : String} {node : Node}

theorem setNode_same (nodes : String → Option Node) (name : String) (node : Option Node) :
    setNode nodes name node name = node := if_pos rfl

theorem setNode_of_ne (nodes : String → Option Node) {name n : String} (node : Option Node)
    (h : n ≠ name) : setNode nodes name node n = nodes n := if_neg h

/-- A node that is stored is removed, unless the call fails and changes nothing. -/
theorem answer_deleteNode (h : c.nodes name = some node) :
    (∃ text, c.answer (.deleteNode name) = (.error (.api text), c)) ∨
      c.answer (.deleteNode name) = (.ok (), { c with nodes := setNode c.nodes name none }) := by
  unfold answer
  cases c.failures (TenantCall.deleteNode name).operation with
  | some text => exact .inl ⟨text, rfl⟩
  | none =>
    right
    simp only [perform, deleteNode, h]

/-- A node that is stored gets its provider id, unless the call fails and changes nothing. -/
theorem answer_patchNodeProviderId (h : c.nodes name = some node) (providerId : String) :
    (∃ text, c.answer (.patchNodeProviderId name providerId) = (.error (.api text), c)) ∨
      c.answer (.patchNodeProviderId name providerId) = (.ok (),
        { c with nodes := setNode c.nodes name (some (withProviderId node providerId)) }) := by
  unfold answer
  cases c.failures (TenantCall.patchNodeProviderId name providerId).operation with
  | some text => exact .inl ⟨text, rfl⟩
  | none =>
    right
    simp only [perform, patchNodeProviderId, h]

end TenantCluster

open Program (only_effect only_pure)
open TenantCluster (setNode setNode_same setNode_of_ne withProviderId)

namespace Step

/-- The step changes neither cluster. -/
def Idle (step : Step) : Prop :=
  step.after.infra = step.before.infra ∧ step.after.tenant = step.before.tenant

/-- The step changes one node at most. -/
structure OnlyNode (name : String) (step : Step) : Prop where
  infra : step.after.infra = step.before.infra
  others : ∀ n, n ≠ name → step.after.tenant.nodes n = step.before.tenant.nodes n
  rest : step.after.tenant = { step.before.tenant with nodes := step.after.tenant.nodes }

theorem Idle.onlyNode {step : Step} (h : step.Idle) (name : String) : step.OnlyNode name := by
  obtain ⟨hinfra, htenant⟩ := h
  refine ⟨hinfra, fun n _ => ?_, ?_⟩
  · rw [htenant]
  · rw [htenant]

/-- A step that sets or removes one node does no more than that. -/
theorem onlyNode_of_setNode {call : TenantCall} {before : Environment} {name : String}
    {node? : Option Node} {answer : Except ClientError call.Result}
    (h : before.tenant.answer call =
      (answer, { before.tenant with nodes := setNode before.tenant.nodes name node? })) :
    (Step.mk (.tenant call) before).OnlyNode name := by
  have hafter : (Step.mk (.tenant call) before).after.tenant =
      { before.tenant with nodes := setNode before.tenant.nodes name node? } :=
    congrArg Prod.snd h
  refine ⟨rfl, fun n hn => ?_, ?_⟩
  · rw [hafter]
    exact setNode_of_ne _ _ hn
  · rw [hafter]

end Step

namespace Upkeep

/-! ### Carrying out an action -/

/-- The surroundings change anything but the nodes. -/
def Elsewhere (env env' : Environment) : Prop := env'.tenant.nodes = env.tenant.nodes

theorem nodes_of_drifts {env env' : Environment} (h : Relation.ReflTransGen Elsewhere env env') :
    env'.tenant.nodes = env.tenant.nodes := by
  induction h with
  | refl => rfl
  | tail _ drift ih => exact drift.trans ih

/-- The nodes after an action for one of them has been carried out. -/
def carriedOut (nodes : String → Option Node) (name : String) (node : Node) :
    NodeAction → String → Option Node
  | .delete => setNode nodes name none
  | .setProviderId providerId => setNode nodes name (some (withProviderId node providerId))
  | .requeueAfter _ | .nothing => nodes

variable {name : String} {node : Node} {env env' : Environment} {steps : List Step}
  {result : Except ControllerError NodeAction}

/-- Without a call of a cluster an action comes to a line in the log. -/
theorem logged {action : NodeAction} {level : LogLevel} {text : String}
    (h : Course Elsewhere env (Program.log level text >>= fun _ => pure (.ok action)) steps
      (.done result) env') :
    result = .ok action ∧ env'.tenant.nodes = env.tenant.nodes ∧ ∀ step ∈ steps, step.Idle := by
  obtain ⟨before, rest, hbefore, rfl, hrest⟩ := h.of_effect_bind_done
  obtain ⟨rfl, hresult, hafter⟩ := hrest.of_done
  refine ⟨Program.done.inj hresult, ?_, ?_⟩
  · have hstart : before.tenant.nodes = env.tenant.nodes := nodes_of_drifts hbefore
    exact (nodes_of_drifts hafter).trans hstart
  · exact List.forall_mem_singleton.mpr ⟨rfl, rfl⟩

/-- An action with a call of the tenant cluster, which answers in one of two ways: the call sets or
removes the node, or it fails and changes nothing. -/
theorem called {call : TenantCall} {level : LogLevel} {text : String} {node? : Option Node}
    {f : Except ClientError call.Result → Program (Except ControllerError NodeAction)}
    {action : NodeAction} {value : call.Result}
    (hanswer : ∀ c : TenantCluster, c.nodes name = some node →
      (∃ text, c.answer call = (.error (.api text), c)) ∨
        c.answer call = (.ok value, { c with nodes := setNode c.nodes name node? }))
    (hok : f (.ok value) = .done (.ok action))
    (hfailed : ∀ text, ∃ e, f (.error (.api text)) = .done (.error e))
    (hnode : env.tenant.nodes name = some node)
    (h : Course Elsewhere env
      (Program.log level text >>= fun _ => Program.tenant call >>= f) steps (.done result) env') :
    (∀ step ∈ steps, step.OnlyNode name) ∧
      (result = .ok action ∧ env'.tenant.nodes = setNode env.tenant.nodes name node? ∨
        (∃ e, result = .error e) ∧ env'.tenant.nodes = env.tenant.nodes ∧
          ∀ step ∈ steps, step.Idle) := by
  obtain ⟨early, late, hearly, rfl, hlate⟩ := h.of_effect_bind_done
  obtain ⟨before, rest, hbefore, rfl, hrest⟩ := hlate.of_effect_bind_done
  have hlog : (Step.mk (.log ⟨level, text⟩) early).Idle := ⟨rfl, rfl⟩
  have hstart : early.tenant.nodes = env.tenant.nodes := nodes_of_drifts hearly
  have hnodes : before.tenant.nodes = env.tenant.nodes := (nodes_of_drifts hbefore).trans hstart
  obtain ⟨cause, hanswer⟩ | hanswer := hanswer before.tenant ((congrFun hnodes name).trans hnode)
  · have hidle : (Step.mk (.tenant call) before).Idle := ⟨rfl, congrArg Prod.snd hanswer⟩
    have hcause : (Step.mk (.tenant call) before).answer = .error (.api cause) :=
      congrArg Prod.fst hanswer
    obtain ⟨e, he⟩ := hfailed cause
    rw [hcause, he] at hrest
    obtain ⟨rfl, hresult, hafter⟩ := hrest.of_done
    have hsteps : ∀ step ∈ [Step.mk (.log ⟨level, text⟩) early, ⟨.tenant call, before⟩],
        step.Idle := List.forall_mem_cons.mpr ⟨hlog, List.forall_mem_singleton.mpr hidle⟩
    refine ⟨fun step hstep => (hsteps step hstep).onlyNode name,
      .inr ⟨⟨e, Program.done.inj hresult⟩, ?_, hsteps⟩⟩
    calc env'.tenant.nodes = (Step.mk (.tenant call) before).after.tenant.nodes :=
          nodes_of_drifts hafter
      _ = before.tenant.nodes := by rw [hidle.2]
      _ = env.tenant.nodes := hnodes
  · have hvalue : (Step.mk (.tenant call) before).answer = .ok value := congrArg Prod.fst hanswer
    have hset : (Step.mk (.tenant call) before).after.tenant.nodes =
        setNode before.tenant.nodes name node? :=
      congrArg (fun answered => answered.2.nodes) hanswer
    rw [hvalue, hok] at hrest
    obtain ⟨rfl, hresult, hafter⟩ := hrest.of_done
    refine ⟨?_, .inl ⟨Program.done.inj hresult, ?_⟩⟩
    · exact List.forall_mem_cons.mpr ⟨hlog.onlyNode name,
        List.forall_mem_singleton.mpr (Step.onlyNode_of_setNode hanswer)⟩
    · rw [nodes_of_drifts hafter, hset, hnodes]

/-- Carrying out an action for a stored node succeeds and does to that node what the action says, or
it fails and does nothing. -/
theorem carried_out {action : NodeAction} (hnode : env.tenant.nodes name = some node)
    (h : Course Elsewhere env (Node.carryOut name action) steps (.done result) env') :
    (∀ step ∈ steps, step.OnlyNode name) ∧
      (result = .ok action ∧ env'.tenant.nodes = carriedOut env.tenant.nodes name node action ∨
        (∃ e, result = .error e) ∧ env'.tenant.nodes = env.tenant.nodes ∧
          ∀ step ∈ steps, step.Idle) := by
  cases action with
  | delete =>
    exact called (fun _ => TenantCluster.answer_deleteNode) rfl (fun _ => ⟨_, rfl⟩) hnode h
  | requeueAfter delay =>
    obtain ⟨hresult, hnodes, hidle⟩ := logged h
    exact ⟨fun step hstep => (hidle step hstep).onlyNode name, .inl ⟨hresult, hnodes⟩⟩
  | setProviderId providerId =>
    exact called (fun _ hc => TenantCluster.answer_patchNodeProviderId hc providerId) rfl
      (fun _ => ⟨_, rfl⟩) hnode h
  | nothing =>
    obtain ⟨hresult, hnodes, hidle⟩ := logged h
    exact ⟨fun step hstep => (hidle step hstep).onlyNode name, .inl ⟨hresult, hnodes⟩⟩

/-! ### Calls -/

/-- The virtual machine that a step looks up, by namespace and name, with the answer. -/
def lookUp? : Step → Option (String × String × Except ClientError VirtualMachine)
  | ⟨.infra (.getVirtualMachine ns name), before⟩ =>
    some (ns, name, (Step.mk (.infra (.getVirtualMachine ns name)) before).answer)
  | _ => none

theorem idle_lookUp (ns name : String) (before : Environment) :
    (Step.mk (.infra (.getVirtualMachine ns name)) before).Idle :=
  ⟨InfraCluster.answer_getVirtualMachine_snd, rfl⟩

/-- No virtual machine is looked up to carry out an action. -/
theorem only_carryOut (name : String) (action : NodeAction) :
    (Node.carryOut name action).Only fun e => ∀ before, lookUp? ⟨e, before⟩ = none := by
  have hlog (line : LogLine) (before : Environment) : lookUp? ⟨.log line, before⟩ = none := rfl
  have hcall (call : TenantCall) (before : Environment) : lookUp? ⟨.tenant call, before⟩ = none :=
    rfl
  cases action with
  | delete =>
    refine (only_log hlog _ _).bind fun _ => ?_
    refine Program.Only.bind (only_effect (hcall _)) fun answer => ?_
    cases answer with
    | ok _ => exact only_pure _
    | error e =>
      dsimp only
      split_ifs
      · exact (only_log hlog _ _).bind fun _ => only_pure _
      · exact only_pure _
  | requeueAfter delay => exact (only_log hlog _ _).bind fun _ => only_pure _
  | setProviderId providerId =>
    refine (only_log hlog _ _).bind fun _ => ?_
    refine Program.Only.bind (only_effect (hcall _)) fun answer => ?_
    cases answer with
    | ok _ => exact only_pure _
    | error e => exact only_pure _
  | nothing => exact (only_log hlog _ _).bind fun _ => only_pure _

theorem lookUp?_carryOut {action : NodeAction}
    (h : Course Elsewhere env (Node.carryOut name action) steps (.done result) env') :
    ∀ step ∈ steps, lookUp? step = none :=
  fun step hstep => (h.ensures (only_carryOut name action)).1 step hstep step.before

/-- A call of the upkeep from its beginning to its end. -/
structure Call where
  name : String
  node : Node
  before : Environment
  steps : List Step
  result : Except ControllerError NodeAction
  after : Environment

namespace Call

variable (infraNs : String) (call : Call)

/-- The call was given a node as it is stored. -/
structure Ran : Prop where
  stored : call.before.tenant.nodes call.name = some call.node
  named : call.node.metadata.name = some call.name
  course : Course Elsewhere call.before (call.node.upkeep infraNs) call.steps (.done call.result)
    call.after

/-- The call looked up one virtual machine, that of the node, and was answered this. -/
def LookedUp (answer : Except ClientError VirtualMachine) : Prop :=
  call.steps.filterMap lookUp? = [(infraNs, call.name, answer)]

/-- The call was told that there is no virtual machine of the node. -/
def Missed : Prop := ∃ e, call.LookedUp infraNs (.error e) ∧ e.isNotFound = true

/-- The call was told that the virtual machine of the node is ready. -/
def SawReady : Prop :=
  ∃ vm status, call.LookedUp infraNs (.ok vm) ∧ vm.status = some status ∧ status.ready = true

/-- The call was told that this, or nothing, is the virtual machine of the node. -/
def Found : Option VirtualMachine → Prop
  | some vm => call.LookedUp infraNs (.ok vm)
  | none => call.Missed infraNs

/-- What a call can come to: it does to its node what the plan for what it found says, or it fails
and does nothing. -/
structure Outcome : Prop where
  onlyNode : ∀ step ∈ call.steps, step.OnlyNode call.name
  planned :
    (∃ vm?, call.Found infraNs vm? ∧ call.result = .ok (call.node.plan vm? infraNs) ∧
      call.after.tenant.nodes = carriedOut call.before.tenant.nodes call.name call.node
        (call.node.plan vm? infraNs)) ∨
    (∃ e, call.result = .error e) ∧ call.after.tenant.nodes = call.before.tenant.nodes ∧
      ∀ step ∈ call.steps, step.Idle

variable {infraNs call}

/-- What is carried out after the look-up of a call is the plan for what was found. -/
theorem Found.outcome {vm? : Option VirtualMachine} {early before : Environment}
    {line : LogLine} {rest : List Step} (hfound : call.Found infraNs vm?)
    (hsteps : call.steps = ⟨.log line, early⟩ ::
      ⟨.infra (.getVirtualMachine infraNs call.name), before⟩ :: rest)
    (hnodes : before.tenant.nodes = call.before.tenant.nodes)
    (hstored : call.before.tenant.nodes call.name = some call.node)
    (h : Course Elsewhere (Step.mk (.infra (.getVirtualMachine infraNs call.name)) before).after
      (Node.carryOut call.name (call.node.plan vm? infraNs)) rest (.done call.result) call.after) :
    call.Outcome infraNs := by
  have hlog : (Step.mk (.log line) early).Idle := ⟨rfl, rfl⟩
  have hlookUp := idle_lookUp infraNs call.name before
  have hafter :
      (Step.mk (.infra (.getVirtualMachine infraNs call.name)) before).after.tenant.nodes =
        call.before.tenant.nodes := hnodes
  obtain ⟨hrest, hdone⟩ := carried_out ((congrFun hafter call.name).trans hstored) h
  rw [hafter] at hdone
  refine ⟨?_, ?_⟩
  · rw [hsteps]
    exact List.forall_mem_cons.mpr ⟨hlog.onlyNode _,
      List.forall_mem_cons.mpr ⟨hlookUp.onlyNode _, hrest⟩⟩
  · obtain ⟨hresult, hcarried⟩ | ⟨hresult, hkept, hidle⟩ := hdone
    · exact .inl ⟨vm?, hfound, hresult, hcarried⟩
    · refine .inr ⟨hresult, hkept, ?_⟩
      rw [hsteps]
      exact List.forall_mem_cons.mpr ⟨hlog, List.forall_mem_cons.mpr ⟨hlookUp, hidle⟩⟩

theorem Ran.outcome (h : call.Ran infraNs) : call.Outcome infraNs := by
  have hcourse := h.course
  unfold Node.upkeep at hcourse
  rw [ObjectMeta.displayName_of_name h.named] at hcourse
  obtain ⟨early, late, hearly, hsteps, hlate⟩ := hcourse.of_effect_bind_done
  obtain ⟨before, rest, hbefore, rfl, hrest⟩ := hlate.of_effect_bind_done
  have hstart : early.tenant.nodes = call.before.tenant.nodes := nodes_of_drifts hearly
  have hnodes : before.tenant.nodes = call.before.tenant.nodes :=
    (nodes_of_drifts hbefore).trans hstart
  have hlookedUp (hquiet : ∀ step ∈ rest, lookUp? step = none) : call.LookedUp infraNs
      (Step.mk (.infra (.getVirtualMachine infraNs call.name)) before).answer := by
    have hnone : rest.filterMap lookUp? = [] := List.filterMap_eq_nil_iff.mpr hquiet
    have hcons : call.steps.filterMap lookUp? = (infraNs, call.name,
        (Step.mk (.infra (.getVirtualMachine infraNs call.name)) before).answer) ::
          rest.filterMap lookUp? := by
      rw [hsteps]
      rfl
    rw [hnone] at hcons
    exact hcons
  cases hanswer : (Step.mk (.infra (.getVirtualMachine infraNs call.name)) before).answer with
  | ok vm =>
    rw [hanswer] at hrest hlookedUp
    have hfound : call.Found infraNs (some vm) := hlookedUp (lookUp?_carryOut hrest)
    exact hfound.outcome hsteps hnodes h.stored hrest
  | error e =>
    rw [hanswer] at hrest hlookedUp
    dsimp only at hrest
    split_ifs at hrest with habsent
    · have hfound : call.Found infraNs none := ⟨e, hlookedUp (lookUp?_carryOut hrest), habsent⟩
      exact hfound.outcome hsteps hnodes h.stored hrest
    · obtain ⟨rfl, hresult, hafter⟩ := hrest.of_done
      have hidle : ∀ step ∈ call.steps, step.Idle := by
        rw [hsteps]
        exact List.forall_mem_cons.mpr ⟨⟨rfl, rfl⟩,
          List.forall_mem_singleton.mpr (idle_lookUp infraNs call.name before)⟩
      exact ⟨fun step hstep => (hidle step hstep).onlyNode _,
        .inr ⟨⟨_, Program.done.inj hresult⟩, (nodes_of_drifts hafter).trans hnodes, hidle⟩⟩

end Call

/-! ### What becomes of a node -/

/-- What becomes of a node: it stays as it is, it goes away, or, if it had no provider id, it gets
the one that its name has in the infrastructure namespace, and nothing else of it changes. -/
inductive Fate (infraNs name : String) (removable identifiable : Prop) :
    Option Node → Option Node → Prop
  | stayed (node? : Option Node) : Fate infraNs name removable identifiable node? node?
  | removed (node : Node) (h : removable) :
      Fate infraNs name removable identifiable (some node) none
  | identified (node : Node) (h : identifiable) (unset : node.providerId = "") :
      Fate infraNs name removable identifiable (some node)
        (some { node with
          spec := some { node.spec.getD {} with
            providerId := some ("kubevirt://" ++ infraNs ++ "/" ++ name) } })

theorem Fate.trans {infraNs name : String} {p p' q q' : Prop} {node₀ node₁ node₂ : Option Node}
    (h : Fate infraNs name p q node₀ node₁) (h' : Fate infraNs name p' q' node₁ node₂) :
    Fate infraNs name (p ∨ p') (q ∨ q') node₀ node₂ := by
  cases h with
  | stayed =>
    cases h' with
    | stayed => exact .stayed _
    | removed node hp => exact .removed node (.inr hp)
    | identified node hq unset => exact .identified node (.inr hq) unset
  | removed node hp =>
    cases h' with
    | stayed => exact .removed node (.inl hp)
  | identified node hq unset =>
    cases h' with
    | stayed => exact .identified node (.inl hq) unset
    | removed _ hp => exact .removed node (.inr hp)
    | identified _ _ hunset =>
      -- a node that has got its provider id has one
      have hset : "kubevirt://" ++ infraNs ++ "/" ++ name = "" := hunset
      simp [String.append_eq_empty_iff] at hset

/-- The plan removes a node that has no virtual machine, and no other. -/
theorem plan_eq_delete_iff {node : Node} {vm? : Option VirtualMachine} {infraNs : String} :
    node.plan vm? infraNs = .delete ↔ vm? = none := by
  cases vm? with
  | none => simp [Node.plan]
  | some vm =>
    unfold Node.plan
    dsimp only
    split_ifs
    all_goals simp

theorem plan_eq_setProviderId {node : Node} {vm? : Option VirtualMachine}
    {infraNs providerId : String} (h : node.plan vm? infraNs = .setProviderId providerId) :
    ∃ vm, vm? = some vm ∧ vm.observedStatus.ready = true ∧ node.providerId = "" ∧
      providerId = providerIdOf infraNs node.metadata.displayName := by
  cases vm? with
  | none => simp [Node.plan] at h
  | some vm =>
    unfold Node.plan at h
    dsimp only at h
    split_ifs at h with hready hunset
    refine ⟨vm, rfl, ?_, ?_, (NodeAction.setProviderId.inj h).symm⟩
    · simpa using hready
    · simpa using hunset

theorem exists_status_of_ready {vm : VirtualMachine} (h : vm.observedStatus.ready = true) :
    ∃ status, vm.status = some status ∧ status.ready = true := by
  unfold VirtualMachine.observedStatus at h
  cases hstatus : vm.status with
  | none =>
    rw [hstatus] at h
    exact absurd h (by decide)
  | some status =>
    rw [hstatus] at h
    exact ⟨status, rfl, h⟩

/-- The node of a call goes away only if there was no virtual machine of it, and gets its provider
id only if there was one that was ready.  No other node changes. -/
theorem Call.Ran.fate {infraNs : String} {call : Call} (h : call.Ran infraNs) (name : String) :
    Fate infraNs name (call.name = name ∧ call.Missed infraNs)
      (call.name = name ∧ call.SawReady infraNs)
      (call.before.tenant.nodes name) (call.after.tenant.nodes name) := by
  obtain ⟨-, ⟨vm?, hfound, -, hafter⟩ | ⟨-, hafter, -⟩⟩ := h.outcome
  · rw [hafter]
    by_cases hname : name = call.name
    · subst hname
      cases hplan : call.node.plan vm? infraNs with
      | delete =>
        obtain rfl := plan_eq_delete_iff.mp hplan
        rw [h.stored]
        unfold carriedOut
        dsimp only
        rw [setNode_same]
        exact .removed _ ⟨rfl, hfound⟩
      | setProviderId providerId =>
        obtain ⟨vm, rfl, hready, hunset, rfl⟩ := plan_eq_setProviderId hplan
        obtain ⟨status, hstatus, hready⟩ := exists_status_of_ready hready
        rw [h.stored, ObjectMeta.displayName_of_name h.named]
        unfold carriedOut
        dsimp only
        rw [setNode_same]
        exact .identified _ ⟨rfl, vm, status, hfound, hstatus, hready⟩ hunset
      | requeueAfter delay => exact .stayed _
      | nothing => exact .stayed _
    · have hother : carriedOut call.before.tenant.nodes call.name call.node
          (call.node.plan vm? infraNs) name = call.before.tenant.nodes name := by
        cases call.node.plan vm? infraNs with
        | delete => exact setNode_of_ne _ _ hname
        | setProviderId providerId => exact setNode_of_ne _ _ hname
        | requeueAfter delay => rfl
        | nothing => rfl
      rw [hother]
      exact .stayed _
  · rw [hafter]
    exact .stayed _

/-! ### Runs -/

/-- A run of calls, one after another, and the environment that was reached. -/
inductive Run (infraNs : String) : Environment → List Call → Environment → Prop
  | nil {env : Environment} : Run infraNs env [] env
  | drifted {env mid env' : Environment} {calls : List Call} (drift : Elsewhere env mid)
      (rest : Run infraNs mid calls env') : Run infraNs env calls env'
  | called {call : Call} {calls : List Call} {env' : Environment} (ran : call.Ran infraNs)
      (rest : Run infraNs call.after calls env') : Run infraNs call.before (call :: calls) env'

/-- What becomes of a node in a run, and which of the calls have a part in it. -/
theorem Run.fate {infraNs : String} {env env' : Environment} {calls : List Call}
    (h : Run infraNs env calls env') (name : String) :
    Fate infraNs name (∃ call ∈ calls, call.name = name ∧ call.Missed infraNs)
      (∃ call ∈ calls, call.name = name ∧ call.SawReady infraNs)
      (env.tenant.nodes name) (env'.tenant.nodes name) := by
  induction h with
  | nil => exact .stayed _
  | drifted drift _ ih =>
    rw [drift] at ih
    exact ih
  | called ran _ ih => simpa only [List.exists_mem_cons_iff] using (ran.fate name).trans ih

/-- Every call of a run was given a node as it was stored. -/
theorem Run.ran {infraNs : String} {env env' : Environment} {calls : List Call}
    (h : Run infraNs env calls env') : ∀ call ∈ calls, call.Ran infraNs := by
  induction h with
  | nil => exact fun _ hcall => absurd hcall List.not_mem_nil
  | drifted _ _ ih => exact ih
  | called ran _ ih => exact List.forall_mem_cons.mpr ⟨ran, ih⟩

structure Call.Safe (infraNs : String) (call : Call) : Prop where
  /-- No step of the call changes the infrastructure cluster, or anything but its node in the tenant
  cluster. -/
  onlyNode : ∀ step ∈ call.steps, step.OnlyNode call.name
  /-- Its node is removed only if the call was told that there is no virtual machine of it, and gets
  a provider id only if it has none and the call was told that its virtual machine is ready. -/
  fate : ∀ name, Fate infraNs name (call.name = name ∧ call.Missed infraNs)
    (call.name = name ∧ call.SawReady infraNs)
    (call.before.tenant.nodes name) (call.after.tenant.nodes name)
  /-- A call that fails changes nothing. -/
  failed : ∀ e, call.result = .error e →
    call.after.tenant.nodes = call.before.tenant.nodes ∧ ∀ step ∈ call.steps, step.Idle
  /-- A call that succeeds did what the plan for its node and what it found says, and returns it. -/
  planned : ∀ action, call.result = .ok action → ∃ vm?, call.Found infraNs vm? ∧
    action = call.node.plan vm? infraNs ∧
    call.after.tenant.nodes = carriedOut call.before.tenant.nodes call.name call.node action

theorem Call.Ran.safe {infraNs : String} {call : Call} (h : call.Ran infraNs) :
    call.Safe infraNs := by
  obtain ⟨honly, houtcome⟩ := h.outcome
  refine ⟨honly, h.fate, fun e he => ?_, fun action haction => ?_⟩
  · obtain ⟨vm?, -, hresult, -⟩ | ⟨-, hkept, hidle⟩ := houtcome
    · rw [hresult] at he
      cases he
    · exact ⟨hkept, hidle⟩
  · obtain ⟨vm?, hfound, hresult, hcarried⟩ | ⟨⟨e, hresult⟩, -, -⟩ := houtcome
    · obtain rfl := Except.ok.inj (hresult.symm.trans haction)
      exact ⟨vm?, hfound, rfl, hcarried⟩
    · rw [hresult] at haction
      cases haction

/-- In every run of the upkeep, with whatever happens to the virtual machines in between and
whatever fails, each call is safe, and so is the run: a node goes away only in a call that was told
that its virtual machine does not exist, and the only other change of a node is that it gets the
provider id that it lacked in a call that was told that its virtual machine is ready. -/
theorem upkeep_is_safe {infraNs : String} {env env' : Environment} {calls : List Call}
    (h : Run infraNs env calls env') :
    (∀ call ∈ calls, call.Safe infraNs) ∧
      ∀ name, Fate infraNs name (∃ call ∈ calls, call.name = name ∧ call.Missed infraNs)
        (∃ call ∈ calls, call.name = name ∧ call.SawReady infraNs)
        (env.tenant.nodes name) (env'.tenant.nodes name) :=
  ⟨fun call hcall => (h.ran call hcall).safe, h.fate⟩

theorem exists_ran (infraNs : String) {name : String} {node : Node} {env : Environment}
    (stored : env.tenant.nodes name = some node) (named : node.metadata.name = some name) :
    ∃ steps, (Call.mk name node env steps (env.run .memory (node.upkeep infraNs)).1
      (env.run .memory (node.upkeep infraNs)).2).Ran infraNs := by
  obtain ⟨steps, hcourse⟩ := Course.of_run Elsewhere (node.upkeep infraNs) env
  exact ⟨steps, stored, named, hcourse⟩

/-! A node gets its provider id; its virtual machine is deleted while nodes cannot be; and then the
node is removed. -/

/-- A node that has just joined. -/
def joined : Node := { metadata := { name := some "worker" } }

/-- The node is stored, and its virtual machine is ready. -/
def start : Environment where
  infra := InfraCluster.addVirtualMachine {}
    { metadata := { name := some "worker", ns := some "infra" }, status := some ⟨true, true⟩ }
  tenant := TenantCluster.addNode {} joined
  now := ⟨0, 0⟩

/-- After the node got its provider id the virtual machine is deleted, and deleting nodes fails. -/
def outage : Environment :=
  let env := (start.run .memory (joined.upkeep "infra")).2
  { env with infra := {}, tenant := env.tenant.failOn .deleteNode "unavailable" }

/-- The node with its provider id. -/
def identified : Node := withProviderId joined "kubevirt://infra/worker"

/-- Deleting nodes works again. -/
def recovered : Environment :=
  let env := (outage.run .memory (identified.upkeep "infra")).2
  { env with tenant := { env.tenant with failures := fun _ => none } }

theorem joined_identified_then_removed :
    ∃ calls, Run "infra" start calls (recovered.run .memory (identified.upkeep "infra")).2 ∧
      calls.map (·.result) =
        [.ok (.setProviderId "kubevirt://infra/worker"),
         .error (.nodeUpdate "worker" "Error deleting Node" (.api "unavailable")), .ok .delete] ∧
      (∀ call ∈ calls, call.Safe "infra") ∧
      Fate "infra" "worker" (∃ call ∈ calls, call.name = "worker" ∧ call.Missed "infra")
        (∃ call ∈ calls, call.name = "worker" ∧ call.SawReady "infra") (some joined) none := by
  have hstart : start.tenant.nodes "worker" = some joined := rfl
  have houtage : outage.tenant.nodes "worker" = some identified := rfl
  have hrecovered : recovered.tenant.nodes "worker" = some identified := rfl
  obtain ⟨first, hfirst⟩ := exists_ran "infra" hstart rfl
  obtain ⟨second, hsecond⟩ := exists_ran "infra" houtage rfl
  obtain ⟨third, hthird⟩ := exists_ran "infra" hrecovered rfl
  have hdeleted : Elsewhere (start.run .memory (joined.upkeep "infra")).2 outage := rfl
  have hmended : Elsewhere (outage.run .memory (identified.upkeep "infra")).2 recovered := rfl
  have hrun := Run.called hfirst (.drifted hdeleted (.called hsecond (.drifted hmended
    (.called hthird .nil))))
  obtain ⟨hsafe, hfate⟩ := upkeep_is_safe hrun
  exact ⟨_, hrun, rfl, hsafe, hfate "worker"⟩

end Upkeep

end MachineActuator
