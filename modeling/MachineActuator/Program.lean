import MachineActuator.Client.Call
import MachineActuator.Error
import MachineActuator.Host.Ipv4

/-! # Programs over the clusters

What an operation asks of its surroundings is data: calls of the two clusters, a look-up of a host,
the time, an event to publish, a line for the log.  A `Program` is a tree of such effects; how an
effect is answered is left to whoever runs it, so that programs can be interleaved, made to fail
between any two effects, or run against different clusters. -/

namespace MachineActuator

/-! ### Effects -/

/-- How serious a log line is. -/
inductive LogLevel where
  | debug
  | info
  | warn
  | error
deriving DecidableEq

structure LogLine where
  level : LogLevel
  text : String
deriving DecidableEq

/-- Whether an event reports a success or a failure. -/
inductive Severity where
  | normal
  | warning
deriving DecidableEq

/-- An event that reports the outcome of an operation on a machine. -/
structure MachineEvent where
  machine : Machine
  severity : Severity
  action : MachineAction
  reason : String
  note : String
deriving DecidableEq

/-- A change of the finalizers of an object, each guarded by what they are expected to be. -/
inductive FinalizerChange where
  /-- The first finalizer of an object without any. -/
  | addFirst (finalizer : String)
  /-- One more finalizer after the current ones. -/
  | addTo (current : List String) (finalizer : String)
  /-- The finalizer at this index goes away. -/
  | removeAt (index : Nat) (finalizer : String)
deriving DecidableEq

/-- What a program asks of its surroundings. -/
inductive Effect where
  | infra (call : InfraCall)
  | tenant (call : TenantCall)
  | changeFinalizers (ns name : String) (change : FinalizerChange)
  | resolve (host : String)
  | now
  | publish (event : MachineEvent)
  | log (line : LogLine)

/-- What an effect is answered with. -/
abbrev Effect.Answer : Effect → Type
  | infra call => Except ClientError call.Result
  | tenant call => Except ClientError call.Result
  | changeFinalizers .. => Except ApiError Unit
  | resolve _ => List Ipv4
  | now => Instant
  | publish _ => Unit
  | log _ => Unit

/-! ### Programs -/

/-- A program with a result. -/
inductive Program (α : Type) where
  | done (value : α)
  | perform (effect : Effect) (next : effect.Answer → Program α)

namespace Program

variable {α β σ : Type}

/-- One program after another. -/
def bind : Program α → (α → Program β) → Program β
  | done value, f => f value
  | perform effect next, f => perform effect fun answer => (next answer).bind f

instance : Monad Program where
  pure := done
  bind := bind

/-- A program that performs one effect. -/
def effect (e : Effect) : Program e.Answer := perform e done

def infra (call : InfraCall) : Program (Except ClientError call.Result) := effect (.infra call)

def tenant (call : TenantCall) : Program (Except ClientError call.Result) := effect (.tenant call)

/-- Looks up a host. -/
def resolve (host : String) : Program (List Ipv4) := effect (.resolve host)

/-- Asks for the time. -/
def now : Program Instant := effect .now

def publish (event : MachineEvent) : Program Unit := effect (.publish event)

def log (level : LogLevel) (text : String) : Program Unit := effect (.log ⟨level, text⟩)

@[simp] theorem pure_eq_done (value : α) : (pure value : Program α) = done value := rfl

@[simp] theorem bind_eq_bind (p : Program α) (f : α → Program β) : p >>= f = p.bind f := rfl

@[simp] theorem done_bind (value : α) (f : α → Program β) : (done value).bind f = f value := rfl

@[simp] theorem perform_bind (e : Effect) (next : e.Answer → Program α) (f : α → Program β) :
    (perform e next).bind f = perform e fun answer => (next answer).bind f := rfl

@[simp] theorem bind_done (p : Program α) : p.bind done = p := by
  induction p with
  | done value => rfl
  | perform e next ih => simp [ih]

/-! ### Running -/

/-- Runs a program on a state that answers its effects. -/
def run (answer : (e : Effect) → σ → e.Answer × σ) : Program α → σ → α × σ
  | done value, s => (value, s)
  | perform e next, s => (next (answer e s).1).run answer (answer e s).2

@[simp] theorem run_done (answer : (e : Effect) → σ → e.Answer × σ) (value : α) (s : σ) :
    (done value).run answer s = (value, s) := rfl

@[simp] theorem run_perform (answer : (e : Effect) → σ → e.Answer × σ) (e : Effect)
    (next : e.Answer → Program α) (s : σ) :
    (perform e next).run answer s = (next (answer e s).1).run answer (answer e s).2 := rfl

@[simp] theorem run_effect (answer : (e : Effect) → σ → e.Answer × σ) (e : Effect) (s : σ) :
    (effect e).run answer s = answer e s := rfl

/-- A program runs on from where the one before it left the state. -/
theorem run_bind (answer : (e : Effect) → σ → e.Answer × σ) (p : Program α)
    (f : α → Program β) (s : σ) :
    (p.bind f).run answer s = (f (p.run answer s).1).run answer (p.run answer s).2 := by
  induction p generalizing s with
  | done value => rfl
  | perform e next ih => simp [ih]

end Program

end MachineActuator
