import Mathlib
import MachineActuator.Environment

/-! # Runs in memory

What a program comes to when the clusters in memory answer it, up to the lines of the log
(`Environment.outcome`).  No program reads the log, so outcomes compose (`outcome_bind`), and the
outcome of an operation is computed effect by effect, without the texts that it writes. -/

namespace MachineActuator

namespace Environment

/-- The environment without its log. -/
def unlogged (env : Environment) : Environment := { env with log := [] }

/-- What a program run in memory comes to, up to the log. -/
def outcome {α : Type} (env : Environment) (p : Program α) : α × Environment :=
  ((env.run .memory p).1, (env.run .memory p).2.unlogged)

/-- No kind of calls is made to fail. -/
structure Healthy (env : Environment) : Prop where
  infra : ∀ o, env.infra.failures o = none
  tenant : ∀ o, env.tenant.failures o = none

/-! ### The log does not matter -/

theorem answer_unlogged {env env' : Environment} (h : env.unlogged = env'.unlogged) (e : Effect) :
    (answer .memory e env).1 = (answer .memory e env').1 ∧
      (answer .memory e env).2.unlogged = (answer .memory e env').2.unlogged := by
  obtain ⟨infra, tenant, api, hosts, now, events, log⟩ := env
  obtain ⟨infra', tenant', api', hosts', now', events', log'⟩ := env'
  simp only [unlogged, Environment.mk.injEq, and_true] at h
  obtain ⟨rfl, rfl, rfl, rfl, rfl, rfl⟩ := h
  cases e with
  | changeFinalizers ns name change =>
    simp only [answer, changeFinalizers]
    split <;> exact ⟨rfl, rfl⟩
  | _ => exact ⟨rfl, rfl⟩

theorem run_unlogged {α : Type} (p : Program α) {env env' : Environment}
    (h : env.unlogged = env'.unlogged) :
    (env.run .memory p).1 = (env'.run .memory p).1 ∧
      (env.run .memory p).2.unlogged = (env'.run .memory p).2.unlogged := by
  induction p generalizing env env' with
  | done value => exact ⟨rfl, h⟩
  | perform e next ih =>
    obtain ⟨hanswer, hafter⟩ := answer_unlogged h e
    simp only [run, Program.run_perform] at ih ⊢
    rw [hanswer]
    exact ih _ hafter

variable {α β : Type} {env after : Environment}

/-- The outcome is what the run comes to, but for the lines it has written. -/
theorem exists_log_of_outcome {p : Program α} {a : α} (h : env.outcome p = (a, after.unlogged)) :
    ∃ log, env.run .memory p = (a, { after with log }) := by
  obtain ⟨hvalue, hafter⟩ := Prod.mk.inj h
  refine ⟨(env.run .memory p).2.log, Prod.ext hvalue ?_⟩
  exact congrArg (fun e : Environment => { e with log := (env.run .memory p).2.log }) hafter

/-! ### Composition -/

theorem outcome_bind {p : Program α} {a : α} (h : env.outcome p = (a, after.unlogged))
    (f : α → Program β) : env.outcome (p >>= f) = after.outcome (f a) := by
  obtain ⟨hvalue, hafter⟩ := Prod.mk.inj h
  have hrun := run_unlogged (f a) hafter
  unfold outcome run
  rw [Program.bind_eq_bind, Program.run_bind]
  subst hvalue
  exact Prod.ext hrun.1 hrun.2

@[simp] theorem outcome_pure (a : α) : env.outcome (pure a) = (a, env.unlogged) := rfl

@[simp] theorem outcome_log (level : LogLevel) (text : String) :
    env.outcome (Program.log level text) = ((), env.unlogged) := rfl

@[simp] theorem outcome_resolve (host : String) :
    env.outcome (Program.resolve host) = (env.hosts host, env.unlogged) := rfl

@[simp] theorem outcome_now : env.outcome Program.now = (env.now, env.unlogged) := rfl

@[simp] theorem outcome_publish (event : MachineEvent) :
    env.outcome (Program.publish event) =
      ((), { env with events := env.events ++ [event] : Environment }.unlogged) := rfl

theorem outcome_infra {call : InfraCall} {result : Except ClientError call.Result}
    {infra : InfraCluster} (h : env.infra.answer call = (result, infra)) :
    env.outcome (Program.infra call) = (result, { env with infra : Environment }.unlogged) := by
  unfold outcome Program.infra run
  rw [Program.run_effect]
  simp only [answer, infraInMemory, h]

theorem outcome_tenant {call : TenantCall} {result : Except ClientError call.Result}
    {tenant : TenantCluster} (h : env.tenant.answer call = (result, tenant)) :
    env.outcome (Program.tenant call) = (result, { env with tenant : Environment }.unlogged) := by
  unfold outcome Program.tenant run
  rw [Program.run_effect]
  simp only [answer, tenantInMemory, h]

end Environment

end MachineActuator
