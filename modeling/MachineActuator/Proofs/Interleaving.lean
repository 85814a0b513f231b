import Mathlib
import MachineActuator.Proofs.Course

/-! # Programs side by side

Several programs run against the same clusters and take turns after every effect
(`Interleaved`).  Of the whole run each program sees a course of its own, in surroundings that drift
by what the others do (`Interleaved.course`), so what holds of a program in changing surroundings
holds of it among others. -/

namespace MachineActuator

/-- The drift that one of several programs sees: that of all, and what the others may ask for. -/
def AmongOthers {ι : Type} (Drift : Environment → Environment → Prop) (P : ι → Effect → Prop)
    (i : ι) (env env' : Environment) : Prop :=
  Drift env env' ∨ ∃ j e, j ≠ i ∧ P j e ∧ env' = (Step.mk e env).after

/-- The steps of one program. -/
def ownSteps {ι : Type} [DecidableEq ι] (i : ι) (steps : List (ι × Step)) : List Step :=
  steps.filterMap fun step => if step.1 = i then some step.2 else none

/-- A run of several programs in memory as far as it has come, with the steps of all, what is left
of each, and the environment that was reached. -/
inductive Interleaved (Drift : Environment → Environment → Prop) {ι : Type} [DecidableEq ι]
    {α : ι → Type} :
    (∀ i, Program (α i)) → Environment → List (ι × Step) → (∀ i, Program (α i)) → Environment → Prop
  | stopped {pool : ∀ i, Program (α i)} {env : Environment} : Interleaved Drift pool env [] pool env
  | drifted {pool pool' : ∀ i, Program (α i)} {env mid env' : Environment}
      {steps : List (ι × Step)} (drift : Drift env mid)
      (rest : Interleaved Drift pool mid steps pool' env') :
      Interleaved Drift pool env steps pool' env'
  | performed {pool pool' : ∀ i, Program (α i)} {env env' : Environment} {i : ι} {e : Effect}
      {next : e.Answer → Program (α i)} {steps : List (ι × Step)} (turn : pool i = .perform e next)
      (rest : Interleaved Drift (Function.update pool i (next (Step.mk e env).answer))
        (Step.mk e env).after steps pool' env') :
      Interleaved Drift pool env ((i, ⟨e, env⟩) :: steps) pool' env'

namespace Interleaved

variable {Drift : Environment → Environment → Prop} {ι : Type} [DecidableEq ι] {α : ι → Type}
  {pool pool' : ∀ i, Program (α i)} {env env' : Environment} {steps : List (ι × Step)}

theorem only_update {P : ι → Effect → Prop} {i : ι} {e : Effect} {next : e.Answer → Program (α i)}
    (hpool : ∀ j, (pool j).Only (P j)) (turn : pool i = .perform e next) (answer : e.Answer) :
    P i e ∧ ∀ j, (Function.update pool i (next answer) j).Only (P j) := by
  have hi := hpool i
  rw [turn] at hi
  refine ⟨hi.1, fun j => ?_⟩
  by_cases hj : j = i
  · obtain rfl := hj
    rw [Function.update_self]
    exact hi.2 answer
  · rw [Function.update_of_ne hj]
    exact hpool j

/-- What the programs may ask for is all that is seen of them. -/
theorem only {P : ι → Effect → Prop} (hpool : ∀ i, (pool i).Only (P i))
    (h : Interleaved Drift pool env steps pool' env') :
    (∀ step ∈ steps, P step.1 step.2.effect) ∧ ∀ i, (pool' i).Only (P i) := by
  induction h with
  | stopped => exact ⟨by simp, hpool⟩
  | drifted _ _ ih => exact ih hpool
  | performed turn _ ih =>
    obtain ⟨he, hnext⟩ := only_update hpool turn _
    obtain ⟨hsteps, hpool'⟩ := ih hnext
    exact ⟨List.forall_mem_cons.mpr ⟨he, hsteps⟩, hpool'⟩

theorem split {early late : List (ι × Step)}
    (h : Interleaved Drift pool env (early ++ late) pool' env') :
    ∃ middle mid, Interleaved Drift pool env early middle mid ∧
      Interleaved Drift middle mid late pool' env' := by
  generalize hsteps : early ++ late = steps at h
  induction h generalizing early with
  | @stopped pool env =>
    obtain ⟨rfl, rfl⟩ := List.append_eq_nil_iff.mp hsteps
    exact ⟨pool, env, stopped, stopped⟩
  | drifted drift _ ih =>
    obtain ⟨middle, mid, hearly, hlate⟩ := ih hsteps
    exact ⟨middle, mid, drifted drift hearly, hlate⟩
  | @performed pool pool' env env' i e next steps turn rest ih =>
    cases early with
    | nil =>
      obtain rfl : late = _ := hsteps
      exact ⟨pool, env, stopped, performed turn rest⟩
    | cons first early =>
      obtain ⟨rfl, htail⟩ := List.cons.inj hsteps
      obtain ⟨middle, mid, hearly, hlate⟩ := ih htail
      exact ⟨middle, mid, performed turn hearly, hlate⟩

theorem of_cons {i : ι} {step : Step}
    (h : Interleaved Drift pool env ((i, step) :: steps) pool' env') :
    Relation.ReflTransGen Drift env step.before ∧
      ∃ next : step.effect.Answer → Program (α i), pool i = .perform step.effect next ∧
        Interleaved Drift (Function.update pool i (next step.answer)) step.after steps pool'
          env' := by
  generalize hsteps : (i, step) :: steps = all at h
  induction h with
  | stopped => simp at hsteps
  | drifted drift _ ih =>
    obtain ⟨hdrift, hrest⟩ := ih hsteps
    exact ⟨.head drift hdrift, hrest⟩
  | @performed pool pool' env env' j e next rest turn hrest _ =>
    obtain ⟨hfirst, rfl⟩ := List.cons.inj hsteps
    obtain ⟨rfl, rfl⟩ := Prod.mk.inj hfirst
    exact ⟨.refl, next, turn, hrest⟩

theorem append {pool₁ pool₂ : ∀ i, Program (α i)} {mid : Environment} {late : List (ι × Step)}
    (h : Interleaved Drift pool env steps pool₁ mid)
    (hlate : Interleaved Drift pool₁ mid late pool₂ env') :
    Interleaved Drift pool env (steps ++ late) pool₂ env' := by
  induction h with
  | stopped => exact hlate
  | drifted drift _ ih => exact drifted drift (ih hlate)
  | performed turn _ ih => exact performed turn (ih hlate)

theorem of_course {i : ι} {p q : Program (α i)} {own : List Step}
    (h : Course Drift env p own q env') (hi : pool i = p) :
    Interleaved Drift pool env (own.map (i, ·)) (Function.update pool i q) env' := by
  induction h generalizing pool with
  | stopped =>
    obtain rfl := hi
    rw [Function.update_eq_self]
    exact stopped
  | drifted drift _ ih => exact drifted drift (ih hi)
  | performed _ ih =>
    have hrest := ih (Function.update_self i _ pool)
    rw [Function.update_idem] at hrest
    exact performed hi hrest

/-- What neither drifting nor any step of the run can falsify holds at the end. -/
theorem keeps_of_steps {I : Environment → Prop} {J : Step → Prop}
    (hdrift : ∀ env mid, Drift env mid → I env → I mid)
    (hstep : ∀ step : Step, J step → I step.before → I step.after)
    (h : Interleaved Drift pool env steps pool' env') (hsteps : ∀ step ∈ steps, J step.2)
    (hI : I env) : I env' := by
  induction h with
  | stopped => exact hI
  | drifted drift _ ih => exact ih hsteps (hdrift _ _ drift hI)
  | performed _ _ ih =>
    obtain ⟨hfirst, hrest⟩ := List.forall_mem_cons.mp hsteps
    exact ih hrest (hstep _ hfirst hI)

/-- What neither drifting nor any effect can falsify holds at the end of a run. -/
theorem keeps {I : Environment → Prop} (hdrift : ∀ env mid, Drift env mid → I env → I mid)
    (hstep : ∀ step : Step, I step.before → I step.after)
    (h : Interleaved Drift pool env steps pool' env') (hI : I env) : I env' :=
  h.keeps_of_steps hdrift (fun step (_ : True) => hstep step) (fun _ _ => trivial) hI

theorem course {P : ι → Effect → Prop} (hpool : ∀ i, (pool i).Only (P i)) (i : ι)
    (h : Interleaved Drift pool env steps pool' env') :
    Course (AmongOthers Drift P i) env (pool i) (ownSteps i steps) (pool' i) env' := by
  induction h with
  | stopped => exact .stopped
  | drifted drift _ ih => exact .drifted (.inl drift) (ih hpool)
  | @performed pool pool' env env' j e next steps turn _ ih =>
    obtain ⟨he, hnext⟩ := only_update hpool turn (Step.mk e env).answer
    have hrest := ih hnext
    by_cases hj : j = i
    · obtain rfl := hj
      rw [Function.update_self] at hrest
      rw [turn]
      have hown : ownSteps j ((j, Step.mk e env) :: steps) = ⟨e, env⟩ :: ownSteps j steps := by
        simp [ownSteps]
      rw [hown]
      exact .performed hrest
    · rw [Function.update_of_ne (Ne.symm hj)] at hrest
      have hown : ownSteps i ((j, Step.mk e env) :: steps) = ownSteps i steps := by
        simp [ownSteps, hj]
      rw [hown]
      exact .drifted (.inr ⟨j, e, hj, he, rfl⟩) hrest

/-- What each program shows among the others, whatever these do, holds of all steps of a run. -/
theorem forall_steps {J : Step → Prop}
    (hpool : ∀ i, (pool i).Shows (AmongOthers Drift (fun _ _ => True) i) (fun _ => True) J)
    (h : Interleaved Drift pool env steps pool' env') : ∀ step ∈ steps, J step.2 := by
  rintro ⟨i, step⟩ hstep
  have hown : step ∈ ownSteps i steps := List.mem_filterMap.mpr ⟨_, hstep, if_pos rfl⟩
  exact hpool i env _ _ env' trivial (h.course (fun j => (pool j).only_true) i) step hown

end Interleaved

/-! ### One after another -/

/-- A run of programs one after another in some order, with the result of each. -/
inductive InTurn (Drift : Environment → Environment → Prop) {ι : Type} {α : ι → Type}
    (pool : ∀ i, Program (α i)) (result : ∀ i, α i) : Environment → List ι → Environment → Prop
  | nil {env : Environment} : InTurn Drift pool result env [] env
  | cons {env mid env' : Environment} {i : ι} {order : List ι} {steps : List Step}
      (first : Course Drift env (pool i) steps (.done (result i)) mid)
      (rest : InTurn Drift pool result mid order env') :
      InTurn Drift pool result env (i :: order) env'

namespace InTurn

variable {Drift : Environment → Environment → Prop} {ι : Type} [DecidableEq ι] {α : ι → Type}
  {pool : ∀ i, Program (α i)} {result : ∀ i, α i} {env env' : Environment} {order : List ι}

omit [DecidableEq ι] in
theorem congr {result' : ∀ i, α i} (h : InTurn Drift pool result env order env')
    (heq : ∀ i ∈ order, result i = result' i) : InTurn Drift pool result' env order env' := by
  induction h with
  | nil => exact nil
  | cons first rest ih =>
    obtain ⟨hi, hrest⟩ := List.forall_mem_cons.mp heq
    rw [hi] at first
    exact cons first (ih hrest)

theorem exists_of_order (Drift : Environment → Environment → Prop) (pool : ∀ i, Program (α i))
    (env : Environment) (hnodup : order.Nodup) :
    ∃ result env', InTurn Drift pool result env order env' := by
  induction order generalizing env with
  | nil => exact ⟨fun i => (env.run .memory (pool i)).1, env, nil⟩
  | cons i order ih =>
    obtain ⟨hi, hnodup⟩ := List.nodup_cons.mp hnodup
    obtain ⟨steps, hfirst⟩ := Course.of_run Drift (pool i) env
    obtain ⟨result, env', hrest⟩ := ih (env.run .memory (pool i)).2 hnodup
    rw [← Function.update_self i (env.run .memory (pool i)).1 result] at hfirst
    refine ⟨_, env', cons hfirst (hrest.congr fun j hj => ?_)⟩
    have hne : j ≠ i := fun h => hi (h ▸ hj)
    exact (Function.update_of_ne hne _ _).symm

theorem interleaved (h : InTurn Drift pool result env order env') (hnodup : order.Nodup)
    {start : ∀ i, Program (α i)} (hstart : ∀ i ∈ order, start i = pool i) :
    ∃ steps, Interleaved Drift start env steps
      (fun i => if i ∈ order then .done (result i) else start i) env' := by
  induction h generalizing start with
  | nil => exact ⟨[], by simpa using .stopped⟩
  | @cons env mid env' i order steps first rest ih =>
    obtain ⟨hi, hnodup⟩ := List.nodup_cons.mp hnodup
    have hrest : ∀ j ∈ order,
        Function.update start i (.done (result i)) j = pool j := by
      intro j hj
      have hne : j ≠ i := fun h => hi (h ▸ hj)
      rw [Function.update_of_ne hne]
      exact hstart j (List.mem_cons_of_mem i hj)
    obtain ⟨late, hlate⟩ := ih hnodup hrest
    have hpool : (fun j => if j ∈ order then .done (result j)
        else Function.update start i (.done (result i)) j) =
        fun j => if j ∈ i :: order then .done (result j) else start j := by
      funext j
      by_cases hj : j = i
      · obtain rfl := hj
        simp
      · simp [hj]
    rw [hpool] at hlate
    exact ⟨_, (Interleaved.of_course first (hstart i List.mem_cons_self)).append hlate⟩

theorem interleaved_of_forall_mem (h : InTurn Drift pool result env order env')
    (hnodup : order.Nodup) (hall : ∀ i, i ∈ order) :
    ∃ steps, Interleaved Drift pool env steps (fun i => .done (result i)) env' := by
  obtain ⟨steps, hsteps⟩ := h.interleaved hnodup fun _ _ => rfl
  have hpool : (fun i => if i ∈ order then .done (result i) else pool i) =
      fun i => .done (result i) := funext fun i => if_pos (hall i)
  rw [hpool] at hsteps
  exact ⟨steps, hsteps⟩

end InTurn

end MachineActuator
