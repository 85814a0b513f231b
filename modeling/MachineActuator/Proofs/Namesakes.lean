import Mathlib
import MachineActuator.Proofs.Cluster.Answer
import MachineActuator.Proofs.Independence

/-! # Machines of one name

The virtual machine of a machine is filed under the name of the machine in the one namespace of the
infrastructure; the namespace of the machine has no part in it.  So whoever acts on a virtual
machine has the name of the machine that it was created for (`acted_on_by_namesakes`).  With one
namespace of machines that is the machine itself; with several, a namesake in another namespace acts
on the same virtual machine, and may delete it (`namesake_deletes`). -/

namespace MachineActuator

/-! ### Acting on virtual machines -/

/-- The virtual machine that an effect is to create, replace or delete, by namespace and name. -/
def Effect.target? : Effect → Option (String × String)
  | .infra (.createVirtualMachine ns vm) | .infra (.updateVirtualMachine ns vm) =>
    some (ns, vm.metadata.name.getD "")
  | .infra (.deleteVirtualMachine ns name _) => some (ns, name)
  | _ => none

namespace Step

variable {ns name : String} {step : Step}

/-- The virtual machine is there afterwards and was not before. -/
def Creates (ns name : String) (step : Step) : Prop :=
  step.before.infra.virtualMachines ns name = none ∧
    step.after.infra.virtualMachines ns name ≠ none

/-- The virtual machine was there before and is not there afterwards. -/
def Deletes (ns name : String) (step : Step) : Prop :=
  step.before.infra.virtualMachines ns name ≠ none ∧
    step.after.infra.virtualMachines ns name = none

/-- The step is to create, replace or delete the virtual machine, or changes it anyhow. -/
def ActsOn (ns name : String) (step : Step) : Prop :=
  step.effect.target? = some (ns, name) ∨
    step.after.infra.virtualMachines ns name ≠ step.before.infra.virtualMachines ns name

theorem Creates.actsOn (h : step.Creates ns name) : step.ActsOn ns name :=
  .inr (h.1 ▸ h.2)

theorem Deletes.actsOn (h : step.Deletes ns name) : step.ActsOn ns name :=
  .inr (h.2 ▸ h.1.symm)

end Step

/-- Only the virtual machine that a call is about may change. -/
theorem InfraCluster.virtualMachines_answer_of_ne {c : InfraCluster} {call : InfraCall}
    {ns name : String} (h : (Effect.infra call).target? ≠ some (ns, name)) :
    (c.answer call).2.virtualMachines ns name = c.virtualMachines ns name := by
  have hkey {n key : String} (htarget : (Effect.infra call).target? = some (n, key)) :
      ¬ (ns = n ∧ name = key) := by
    rintro ⟨rfl, rfl⟩
    exact h htarget
  have hchanges := c.changes_answer call
  generalize (c.answer call).2 = after at hchanges ⊢
  cases hchanges with
  | unchanged => rfl
  | created => exact Store.put_of_ne _ _ (hkey rfl)
  | updated => exact Store.put_of_ne _ _ (hkey rfl)
  | deleted => exact Store.remove_of_ne _ (hkey rfl)
  | provided => rfl

theorem Step.ActsOn.target? {ns name : String} {step : Step} (h : step.ActsOn ns name) :
    step.effect.target? = some (ns, name) := by
  obtain htarget | hne := h
  · exact htarget
  · by_contra htarget
    refine hne ?_
    obtain ⟨call, hcall, hafter⟩ | hafter := step.infra_after
    · rw [hcall] at htarget
      rw [hafter]
      exact InfraCluster.virtualMachines_answer_of_ne htarget
    · rw [hafter]

/-- What comes to hold in a course comes to hold by one of its steps, if not by drifting. -/
theorem Course.exists_turn {α : Type} {Drift : Environment → Environment → Prop}
    {Q : Environment → Prop} {env env' : Environment} {p q : Program α} {steps : List Step}
    (hdrift : ∀ env mid, Drift env mid → ¬ Q env → ¬ Q mid)
    (h : Course Drift env p steps q env') (hbefore : ¬ Q env) (hafter : Q env') :
    ∃ step ∈ steps, ¬ Q step.before ∧ Q step.after := by
  induction h with
  | stopped => exact absurd hafter hbefore
  | drifted drift _ ih => exact ih (hdrift _ _ drift hbefore) hafter
  | @performed env env' e next q steps rest ih =>
    by_cases hturn : Q (Step.mk e env).after
    · exact ⟨⟨e, env⟩, List.mem_cons_self, hbefore, hturn⟩
    · obtain ⟨step, hstep, hturns⟩ := ih hturn hafter
      exact ⟨step, List.mem_cons_of_mem _ hstep, hturns⟩

namespace Independence

/-! ### Calls -/

namespace Call

/-- The namespace of the machine that the call is for. -/
def ns (call : Call) : String := call.machine.metadata.ns.getD ""

/-- A call acts on no virtual machine but the one that is filed under the name of its machine. -/
theorem target_eq {settings : Settings} {call : Call} {e : Effect} (h : call.Allows settings e)
    {ns name : String} (htarget : e.target? = some (ns, name)) :
    ns = settings.infra.ns ∧ name = call.name := by
  cases e with
  | infra asked =>
    cases call with
    | apply m =>
      cases asked with
      | createVirtualMachine n vm | updateVirtualMachine n vm =>
        obtain ⟨rfl, rfl⟩ := Prod.mk.inj (Option.some.inj htarget)
        obtain ⟨hns, hname⟩ := h
        refine ⟨hns, ?_⟩
        rw [hname]
        rfl
      | deleteVirtualMachine n key grace => exact False.elim h
      | _ => simp [Effect.target?] at htarget
    | cleanup m =>
      cases asked with
      | deleteVirtualMachine n key grace =>
        obtain ⟨rfl, rfl⟩ := Prod.mk.inj (Option.some.inj htarget)
        exact h
      | createVirtualMachine n vm => exact False.elim h
      | updateVirtualMachine n vm => exact False.elim h
      | _ => simp [Effect.target?] at htarget
  | _ => simp [Effect.target?] at htarget

end Call

variable {ι : Type} [DecidableEq ι] {settings : Settings} {calls : ι → Call}
  {Drift : Environment → Environment → Prop} {start env : Environment} {steps : List (ι × Step)}
  {pool : ι → Program (Except ControllerError FollowUp)}

/-- Whoever acts on a virtual machine has the name under which it is filed. -/
theorem name_of_actsOn
    (h : Interleaved Drift (fun i => (calls i).program settings) start steps pool env)
    {i : ι} {step : Step} (hstep : (i, step) ∈ steps) {ns name : String}
    (hacts : step.ActsOn ns name) : ns = settings.infra.ns ∧ name = (calls i).name := by
  obtain ⟨hallowed, -⟩ := h.only fun j => (calls j).only_program settings
  exact Call.target_eq (hallowed _ hstep) hacts.target?

/-- In every run of calls that apply machines and clean up after them, a virtual machine that is
created for a machine is filed under the name of the machine, and is acted on only by calls for
machines of that name.  Where no two machines have one name and different namespaces, these are the
calls for that very machine. -/
theorem acted_on_by_namesakes
    (h : Interleaved Drift (fun i => (calls i).program settings) start steps pool env)
    {i j : ι} {made later : Step} (hmade : (i, made) ∈ steps) (hlater : (j, later) ∈ steps)
    {ns name : String} (hcreates : made.Creates ns name) (hacts : later.ActsOn ns name) :
    (ns = settings.infra.ns ∧ name = (calls i).name) ∧ (calls j).name = (calls i).name ∧
      ((∀ a b, (calls a).name = (calls b).name → (calls a).ns = (calls b).ns) →
        (calls j).ns = (calls i).ns) := by
  have hi := name_of_actsOn h hmade hcreates.actsOn
  obtain ⟨-, hj⟩ := name_of_actsOn h hlater hacts
  have hname : (calls j).name = (calls i).name := hj.symm.trans hi.2
  exact ⟨hi, hname, fun hdistinct => hdistinct j i hname⟩

/-- A worker that is to be applied, and a namesake in a namespace that is to be cleaned up after. -/
def namesakes (ns : String) : Bool → Call
  | false => .apply Machine.worker
  | true =>
    .cleanup
      { Machine.worker with metadata := { Machine.worker.metadata with ns := some ns } }

/-- The worker is applied, and then its namesake cleaned up after. -/
theorem exists_run_namesakes (ns : String) :
    ∃ early late pool env made later,
      Interleaved (fun _ _ => False) (fun i => (namesakes ns i).program workersSettings)
        workersStart (early ++ late) pool env ∧
      (false, made) ∈ early ∧ made.Creates "infra" "worker" ∧
      (true, later) ∈ late ∧ later.Deletes "infra" "worker" := by
  obtain ⟨early, hearly⟩ := Course.of_run (fun _ _ => False)
    ((namesakes ns false).program workersSettings) workersStart
  obtain ⟨late, hlate⟩ := Course.of_run (fun _ _ => False)
    ((namesakes ns true).program workersSettings)
    (workersStart.run .memory ((namesakes ns false).program workersSettings)).2
  obtain ⟨made, hmade, hnone, hsome⟩ := hearly.exists_turn
    (Q := fun env => env.infra.virtualMachines "infra" "worker" ≠ none)
    (fun _ _ h => h.elim) (fun h => h rfl) (by rintro ⟨⟩)
  obtain ⟨later, hlater, hsome', hnone'⟩ := hlate.exists_turn
    (Q := fun env => env.infra.virtualMachines "infra" "worker" = none)
    (fun _ _ h => h.elim) (by rintro ⟨⟩) rfl
  exact ⟨_, _, _, _, made, later,
    (Interleaved.of_course hearly rfl).append (Interleaved.of_course hlate rfl),
    List.mem_map_of_mem hmade, ⟨not_not.mp hnone, hsome⟩,
    List.mem_map_of_mem hlater, ⟨hsome', hnone'⟩⟩

/-- A worker that is created and then deleted by calls for one and the same machine. -/
theorem acted_on_by_namesakes_worker :
    ∃ early late pool env made later,
      Interleaved (fun _ _ => False) (fun i => (namesakes "ns" i).program workersSettings)
        workersStart (early ++ late) pool env ∧
      (false, made) ∈ early ∧ made.Creates "infra" "worker" ∧
      (true, later) ∈ late ∧ later.Deletes "infra" "worker" ∧
      (namesakes "ns" true).name = (namesakes "ns" false).name ∧
      (namesakes "ns" true).ns = (namesakes "ns" false).ns := by
  obtain ⟨early, late, pool, env, made, later, hrun, hmade, hcreates, hlater, hdeletes⟩ :=
    exists_run_namesakes "ns"
  obtain ⟨-, hname, hns⟩ := acted_on_by_namesakes hrun (List.mem_append_left late hmade)
    (List.mem_append_right early hlater) hcreates hdeletes.actsOn
  exact ⟨early, late, pool, env, made, later, hrun, hmade, hcreates, hlater, hdeletes, hname,
    hns (by decide)⟩

/-- Cleaning up after a machine in one namespace deletes the virtual machine of its namesake in
another. -/
theorem namesake_deletes :
    ∃ early late pool env made later,
      Interleaved (fun _ _ => False) (fun i => (namesakes "other" i).program workersSettings)
        workersStart (early ++ late) pool env ∧
      (false, made) ∈ early ∧ made.Creates "infra" "worker" ∧
      (true, later) ∈ late ∧ later.Deletes "infra" "worker" ∧
      (namesakes "other" true).ns ≠ (namesakes "other" false).ns := by
  obtain ⟨early, late, pool, env, made, later, hrun, hmade, hcreates, hlater, hdeletes⟩ :=
    exists_run_namesakes "other"
  exact ⟨early, late, pool, env, made, later, hrun, hmade, hcreates, hlater, hdeletes, by decide⟩

end Independence

end MachineActuator
