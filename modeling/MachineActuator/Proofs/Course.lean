import Mathlib
import MachineActuator.Environment
import MachineActuator.Proofs.Machine.Effects

/-! # Runs in changing surroundings

A program does not have the clusters to itself: between any two of its effects others may change
them.  A course (`Course`) is a run of a program in memory, as far as it has come, where the
surroundings drift between the effects as a relation allows; it records every effect together with
the environment that answered it.  The course of one program after another splits at the end of the
first (`Course.bind`), and what a program may ask for is all that its courses show
(`Course.ensures`).  `Program.Leads` follows a condition that drifting cannot falsify from the
beginning of a course to its end, `Program.Shows` is about every step of a course, and
`Program.Tells` about all of them together with the result. -/

namespace MachineActuator

/-- One effect of a run, and the environment that answers it. -/
structure Step where
  effect : Effect
  before : Environment

/-- What the effect is answered with. -/
def Step.answer (step : Step) : step.effect.Answer :=
  (Environment.answer .memory step.effect step.before).1

/-- The environment afterwards. -/
def Step.after (step : Step) : Environment :=
  (Environment.answer .memory step.effect step.before).2

theorem Step.infra_after (step : Step) :
    (∃ call, step.effect = .infra call ∧
      step.after.infra = (step.before.infra.answer call).2) ∨
      step.after.infra = step.before.infra := by
  obtain ⟨effect, before⟩ := step
  cases effect with
  | infra call => exact .inl ⟨call, rfl, rfl⟩
  | changeFinalizers ns name change =>
    right
    unfold after Environment.answer Environment.changeFinalizers
    dsimp only
    split
    · rfl
    · rfl
  | _ => exact .inr rfl

/-- The effect leaves the infrastructure cluster alone. -/
def Effect.SparesInfra (e : Effect) : Prop := ∀ env, (Step.mk e env).after.infra = env.infra

/-- The steps of a program that nobody interferes with. -/
def Program.steps {α : Type} : Program α → Environment → List Step
  | .done _, _ => []
  | .perform e next, env =>
    ⟨e, env⟩ :: (next (Step.mk e env).answer).steps (Step.mk e env).after

/-- A run of a program as far as it has come, with its steps, what is left of the program, and the
environment that was reached. -/
inductive Course (Drift : Environment → Environment → Prop) {α : Type} :
    Environment → Program α → List Step → Program α → Environment → Prop
  | stopped {env : Environment} {p : Program α} : Course Drift env p [] p env
  | drifted {env mid env' : Environment} {p q : Program α} {steps : List Step}
      (drift : Drift env mid) (rest : Course Drift mid p steps q env') :
      Course Drift env p steps q env'
  | performed {env env' : Environment} {e : Effect} {next : e.Answer → Program α} {q : Program α}
      {steps : List Step}
      (rest : Course Drift (Step.mk e env).after (next (Step.mk e env).answer) steps q env') :
      Course Drift env (.perform e next) (⟨e, env⟩ :: steps) q env'

namespace Course

variable {α β : Type} {Drift : Environment → Environment → Prop} {env env' : Environment}
  {p q : Program α} {steps : List Step}

theorem of_steps (Drift : Environment → Environment → Prop) (p : Program α) (env : Environment) :
    Course Drift env p (p.steps env) (.done (env.run .memory p).1) (env.run .memory p).2 := by
  induction p generalizing env with
  | done a => exact stopped
  | perform e next ih => exact performed (ih (Step.mk e env).answer (Step.mk e env).after)

theorem of_run (Drift : Environment → Environment → Prop) (p : Program α) (env : Environment) :
    ∃ steps, Course Drift env p steps (.done (env.run .memory p).1) (env.run .memory p).2 :=
  ⟨_, of_steps Drift p env⟩

/-- A course in which the surroundings drift less is one in which they drift more. -/
theorem mono {Drift' : Environment → Environment → Prop}
    (hdrift : ∀ env env', Drift env env' → Drift' env env') (h : Course Drift env p steps q env') :
    Course Drift' env p steps q env' := by
  induction h with
  | stopped => exact stopped
  | drifted drift _ ih => exact drifted (hdrift _ _ drift) ih
  | performed _ ih => exact performed ih

/-- A course of one program after another is still in the first, or it has come to the end of the
first and goes on with the second. -/
theorem bind {p : Program α} {f : α → Program β} {q : Program β}
    (h : Course Drift env (p >>= f) steps q env') :
    (∃ p', q = (p' >>= f) ∧ Course Drift env p steps p' env') ∨
      ∃ a mid early late, steps = early ++ late ∧ Course Drift env p early (.done a) mid ∧
        Course Drift mid (f a) late q env' := by
  generalize hr : (p >>= f) = r at h
  induction h generalizing p with
  | stopped => exact .inl ⟨p, hr.symm, stopped⟩
  | drifted drift rest ih =>
    obtain ⟨p', hq, hp⟩ | ⟨a, mid, early, late, hsteps, hp, hf⟩ := ih hr
    · exact .inl ⟨p', hq, drifted drift hp⟩
    · exact .inr ⟨a, mid, early, late, hsteps, drifted drift hp, hf⟩
  | @performed env env' e next q steps rest ih =>
    cases p with
    | done a =>
      refine .inr ⟨a, env, [], _, rfl, stopped, ?_⟩
      have hfa : f a = .perform e next := hr
      rw [hfa]
      exact performed rest
    | perform e' next' =>
      obtain ⟨rfl, hnext⟩ := Program.perform.inj hr
      obtain rfl := eq_of_heq hnext
      obtain ⟨p', hq, hp⟩ | ⟨a, mid, early, late, rfl, hp, hf⟩ := ih rfl
      · exact .inl ⟨p', hq, performed hp⟩
      · exact .inr ⟨a, mid, _, late, rfl, performed hp, hf⟩

theorem bind_done {p : Program α} {f : α → Program β} {b : β}
    (h : Course Drift env (p >>= f) steps (.done b) env') :
    ∃ a mid early late, steps = early ++ late ∧ Course Drift env p early (.done a) mid ∧
      Course Drift mid (f a) late (.done b) env' := by
  obtain ⟨p', hq, hp⟩ | h := h.bind
  · cases p' with
    | done a => exact ⟨a, env', steps, [], (List.append_nil _).symm, hp, hq ▸ stopped⟩
    | perform e next => simp at hq
  · exact h

theorem of_done {a : α} (h : Course Drift env (.done a) steps q env') :
    steps = [] ∧ q = .done a ∧ Relation.ReflTransGen Drift env env' := by
  generalize hp : Program.done a = p at h
  induction h with
  | stopped => exact ⟨rfl, rfl, .refl⟩
  | drifted drift _ ih =>
    obtain ⟨hsteps, hq, hdrift⟩ := ih hp
    exact ⟨hsteps, hq, .head drift hdrift⟩
  | performed _ _ => simp at hp

/-- A program with an effect to perform drifts until it is answered. -/
theorem of_perform {e : Effect} {next : e.Answer → Program α}
    (h : Course Drift env (.perform e next) steps q env') :
    (steps = [] ∧ q = .perform e next ∧ Relation.ReflTransGen Drift env env') ∨
      ∃ before rest, Relation.ReflTransGen Drift env before ∧ steps = ⟨e, before⟩ :: rest ∧
        Course Drift (Step.mk e before).after (next (Step.mk e before).answer) rest q env' := by
  generalize hp : Program.perform e next = p at h
  induction h with
  | stopped => exact .inl ⟨rfl, rfl, .refl⟩
  | drifted drift _ ih =>
    obtain ⟨hsteps, hq, hdrift⟩ | ⟨before, rest, hdrift, hrest⟩ := ih hp
    · exact .inl ⟨hsteps, hq, .head drift hdrift⟩
    · exact .inr ⟨before, rest, .head drift hdrift, hrest⟩
  | @performed env env' e' next' q steps rest _ =>
    obtain ⟨rfl, hnext⟩ := Program.perform.inj hp
    obtain rfl := eq_of_heq hnext
    exact .inr ⟨env, steps, .refl, rfl, rest⟩

theorem of_effect_bind {e : Effect} {f : e.Answer → Program α}
    (h : Course Drift env (Program.effect e >>= f) steps q env') :
    (steps = [] ∧ q = (Program.effect e >>= f) ∧ Relation.ReflTransGen Drift env env') ∨
      ∃ before rest, Relation.ReflTransGen Drift env before ∧ steps = ⟨e, before⟩ :: rest ∧
        Course Drift (Step.mk e before).after (f (Step.mk e before).answer) rest q env' :=
  h.of_perform

/-- A completed course of an effect and what follows it begins with that effect, but for
drifting. -/
theorem of_effect_bind_done {e : Effect} {f : e.Answer → Program α} {a : α}
    (h : Course Drift env (Program.effect e >>= f) steps (.done a) env') :
    ∃ before rest, Relation.ReflTransGen Drift env before ∧ steps = ⟨e, before⟩ :: rest ∧
      Course Drift (Step.mk e before).after (f (Step.mk e before).answer) rest (.done a) env' := by
  obtain ⟨-, hq, -⟩ | h := h.of_effect_bind
  · simp [Program.effect] at hq
  · exact h

theorem of_effect {e : Effect} {a : e.Answer}
    (h : Course Drift env (Program.effect e) steps (.done a) env') :
    ∃ before, Relation.ReflTransGen Drift env before ∧ steps = [⟨e, before⟩] ∧
      a = (Step.mk e before).answer ∧
      Relation.ReflTransGen Drift (Step.mk e before).after env' := by
  obtain ⟨-, hq, -⟩ | ⟨before, rest, hdrift, rfl, hrest⟩ := h.of_perform
  · simp at hq
  · obtain ⟨rfl, ha, hafter⟩ := hrest.of_done
    exact ⟨before, hdrift, rfl, Program.done.inj ha, hafter⟩

/-- A course shows only what the program may ask for, and its result is one that it may have. -/
theorem ensures {P : Effect → Prop} {Q : α → Prop} (hp : p.Ensures P Q)
    (h : Course Drift env p steps q env') : (∀ step ∈ steps, P step.effect) ∧ q.Ensures P Q := by
  induction h with
  | stopped => exact ⟨by simp, hp⟩
  | drifted _ _ ih => exact ih hp
  | performed _ ih =>
    obtain ⟨hsteps, hq⟩ := ih (hp.2 _)
    exact ⟨List.forall_mem_cons.mpr ⟨hp.1, hsteps⟩, hq⟩

/-- What neither drifting nor any effect of the program can falsify holds all along a course. -/
theorem keeps {P : Effect → Prop} {I : Environment → Prop} (hp : p.Only P)
    (hdrift : ∀ env mid, Drift env mid → I env → I mid)
    (hstep : ∀ step : Step, P step.effect → I step.before → I step.after)
    (h : Course Drift env p steps q env') (hI : I env) :
    (∀ step ∈ steps, I step.before) ∧ I env' := by
  induction h with
  | stopped => exact ⟨by simp, hI⟩
  | drifted drift _ ih => exact ih hp (hdrift _ _ drift hI)
  | performed _ ih =>
    obtain ⟨hsteps, henv⟩ := ih (hp.2 _) (hstep _ hp.1 hI)
    exact ⟨List.forall_mem_cons.mpr ⟨hI, hsteps⟩, henv⟩

end Course

/-! ### From the beginning to the end -/

/-- Drifting cannot falsify the condition. -/
def Stable (Drift : Environment → Environment → Prop) (P : Environment → Prop) : Prop :=
  ∀ env mid, Drift env mid → P env → P mid

theorem Stable.of_drifts {Drift : Environment → Environment → Prop} {P : Environment → Prop}
    {env env' : Environment} (hstable : Stable Drift P)
    (h : Relation.ReflTransGen Drift env env') (hP : P env) : P env' := by
  induction h with
  | refl => exact hP
  | tail _ drift ih => exact hstable _ _ drift ih

namespace Program

variable {α β : Type} {Drift : Environment → Environment → Prop} {P : Environment → Prop}
  {Q : α → Environment → Prop} {R : β → Environment → Prop}

/-- Every course of the program that begins under one condition and comes to an end does so under
the other. -/
def Leads (Drift : Environment → Environment → Prop) (P : Environment → Prop) (p : Program α)
    (Q : α → Environment → Prop) : Prop :=
  ∀ env steps a env', P env → Course Drift env p steps (.done a) env' → Q a env'

theorem leads_pure {a : α} (hstable : Stable Drift (Q a)) (h : ∀ env, P env → Q a env) :
    (pure a : Program α).Leads Drift P Q := by
  intro env steps b env' hP hcourse
  obtain ⟨-, hb, hdrift⟩ := Course.of_done hcourse
  obtain rfl := Program.done.inj hb
  exact hstable.of_drifts hdrift (h env hP)

theorem leads_effect {e : Effect} {Q : e.Answer → Environment → Prop} (hP : Stable Drift P)
    (hQ : ∀ answer, Stable Drift (Q answer))
    (h : ∀ env, P env → Q (Step.mk e env).answer (Step.mk e env).after) :
    (effect e).Leads Drift P Q := by
  intro env steps answer env' henv hcourse
  obtain ⟨before, hbefore, -, rfl, hafter⟩ := hcourse.of_effect
  exact (hQ _).of_drifts hafter (h before (hP.of_drifts hbefore henv))

/-- A program whose results are right whatever the surroundings. -/
theorem Ensures.leads {p : Program α} {E : Effect → Prop}
    (h : p.Ensures E fun a => ∀ env, Q a env) : p.Leads Drift P Q := by
  intro env steps a env' _ hcourse
  exact (hcourse.ensures h).2 env'

theorem Leads.of_imp {P' : Environment → Prop} {p : Program α} (hp : p.Leads Drift P Q)
    (h : ∀ env, P' env → P env) : p.Leads Drift P' Q :=
  fun env steps a env' hP => hp env steps a env' (h env hP)

theorem Leads.mono {Q' : α → Environment → Prop} {p : Program α} (hp : p.Leads Drift P Q)
    (h : ∀ a env, Q a env → Q' a env) : p.Leads Drift P Q' :=
  fun env steps a env' hP hcourse => h a env' (hp env steps a env' hP hcourse)

theorem Leads.and {Q' : α → Environment → Prop} {p : Program α} (hp : p.Leads Drift P Q)
    (hp' : p.Leads Drift P Q') : p.Leads Drift P fun a env => Q a env ∧ Q' a env :=
  fun env steps a env' hP hcourse =>
    ⟨hp env steps a env' hP hcourse, hp' env steps a env' hP hcourse⟩

theorem Leads.bind {p : Program α} {f : α → Program β} (hp : p.Leads Drift P Q)
    (hf : ∀ a, (f a).Leads Drift (Q a) R) : (p >>= f).Leads Drift P R := by
  intro env steps b env' hP hcourse
  obtain ⟨a, mid, early, late, -, hearly, hlate⟩ := hcourse.bind_done
  exact hf a mid late b env' (hp env early a mid hP hearly) hlate

/-- A program leads from a condition to itself when none of its effects falsifies it. -/
theorem Only.leads {p : Program α} {E : Effect → Prop} (hp : p.Only E) (hdrift : Stable Drift P)
    (hstep : ∀ step : Step, E step.effect → P step.before → P step.after) :
    p.Leads Drift P fun _ => P :=
  fun _ _ _ _ hP hcourse => (hcourse.keeps hp hdrift hstep hP).2

/-- Of a program that nobody interferes with, what courses show is what the run comes to. -/
theorem Leads.run {p : Program α} (h : p.Leads (fun _ _ => False) P Q) (env : Environment)
    (hP : P env) : Q (env.run .memory p).1 (env.run .memory p).2 := by
  obtain ⟨steps, hcourse⟩ := Course.of_run (fun _ _ => False) p env
  exact h env steps _ _ hP hcourse

/-! ### At every step -/

/-- Every step of every course of the program that begins under the condition has the property, be
the course complete or not. -/
def Shows (Drift : Environment → Environment → Prop) (P : Environment → Prop) (p : Program α)
    (J : Step → Prop) : Prop :=
  ∀ env steps q env', P env → Course Drift env p steps q env' → ∀ step ∈ steps, J step

variable {J : Step → Prop}

theorem shows_pure (a : α) : (pure a : Program α).Shows Drift P J := by
  intro env steps q env' _ hcourse
  obtain ⟨rfl, -, -⟩ := Course.of_done hcourse
  exact fun _ h => absurd h List.not_mem_nil

theorem shows_effect {e : Effect} (hP : Stable Drift P) (h : ∀ env, P env → J ⟨e, env⟩) :
    (effect e).Shows Drift P J := by
  intro env steps q env' henv hcourse
  obtain ⟨rfl, -, -⟩ | ⟨before, rest, hdrift, rfl, hrest⟩ := hcourse.of_perform
  · exact fun _ h => absurd h List.not_mem_nil
  · obtain ⟨rfl, -, -⟩ := hrest.of_done
    exact List.forall_mem_singleton.mpr (h before (hP.of_drifts hdrift henv))

theorem Shows.of_imp {P' : Environment → Prop} {p : Program α} (hp : p.Shows Drift P J)
    (h : ∀ env, P' env → P env) : p.Shows Drift P' J :=
  fun env steps q env' hP => hp env steps q env' (h env hP)

/-- A program whose effects have the property whatever the surroundings. -/
theorem Only.shows {p : Program α} {E : Effect → Prop} (hp : p.Only E)
    (h : ∀ step : Step, E step.effect → J step) : p.Shows Drift P J :=
  fun _ _ _ _ _ hcourse step hstep => h step ((hcourse.ensures hp).1 step hstep)

theorem Shows.bind {p : Program α} {f : α → Program β} (hp : p.Shows Drift P J)
    (hleads : p.Leads Drift P Q) (hf : ∀ a, (f a).Shows Drift (Q a) J) :
    (p >>= f).Shows Drift P J := by
  intro env steps q env' hP hcourse
  obtain ⟨p', -, hp'⟩ | ⟨a, mid, early, late, rfl, hearly, hlate⟩ := hcourse.bind
  · exact hp env steps p' env' hP hp'
  · exact List.forall_mem_append.mpr ⟨hp env early _ mid hP hearly,
      hf a mid late q env' (hleads env early a mid hP hearly) hlate⟩

/-- The same when nothing has to be known of the surroundings in between. -/
theorem Shows.bind_of_forall {p : Program α} {f : α → Program β} (hp : p.Shows Drift P J)
    (hf : ∀ a, (f a).Shows Drift (fun _ => True) J) : (p >>= f).Shows Drift P J :=
  hp.bind (fun _ _ _ _ _ _ => trivial) hf

/-! ### Steps and results -/

variable {p : Program α} {T T' : List Step → α → Prop}

/-- Every completed course of the program has steps and a result of which this holds. -/
def Tells (Drift : Environment → Environment → Prop) (p : Program α)
    (T : List Step → α → Prop) : Prop :=
  ∀ env steps a env', Course Drift env p steps (.done a) env' → T steps a

theorem Tells.mono (hp : p.Tells Drift T) (h : ∀ steps a, T steps a → T' steps a) :
    p.Tells Drift T' :=
  fun env steps a env' hcourse => h steps a (hp env steps a env' hcourse)

theorem Tells.and (hp : p.Tells Drift T) (hp' : p.Tells Drift T') :
    p.Tells Drift fun steps a => T steps a ∧ T' steps a :=
  fun env steps a env' hcourse => ⟨hp env steps a env' hcourse, hp' env steps a env' hcourse⟩

theorem Ensures.tells {P : Effect → Prop} {Q : α → Prop} (hp : p.Ensures P Q) :
    p.Tells Drift fun steps a => (∀ step ∈ steps, P step.effect) ∧ Q a :=
  fun _ _ _ _ hcourse => hcourse.ensures hp

theorem Tells.bind {f : α → Program β} {U : α → List Step → β → Prop} (hp : p.Tells Drift T)
    (hf : ∀ a, (f a).Tells Drift (U a)) :
    (p >>= f).Tells Drift fun steps b =>
      ∃ early late a, steps = early ++ late ∧ T early a ∧ U a late b := by
  intro env steps b env' hcourse
  obtain ⟨a, mid, early, late, hsteps, hearly, hlate⟩ := hcourse.bind_done
  exact ⟨early, late, a, hsteps, hp env early a mid hearly, hf a mid late b env' hlate⟩

end Program

end MachineActuator
