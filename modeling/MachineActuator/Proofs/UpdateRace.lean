import Mathlib
import MachineActuator.Proofs.Cluster.Answer
import MachineActuator.Proofs.Cluster.Frame
import MachineActuator.Proofs.Cluster.Version
import MachineActuator.Proofs.Interleaving
import MachineActuator.Proofs.Machine.Update
import MachineActuator.Proofs.Time.Rfc3339

/-! # Racing for a virtual machine

Any number of updates and other clients replace one virtual machine at once (`contenders`).  The
version of the stored machine counts up with every change of what clients own and stays where
nothing changes, so it never comes back (`kept_or_counted`).  An update sends the version that it
has read, so its replacement succeeds only where nobody has changed the machine in between; where
somebody has, the machine stays as it is and the update fails (`no_update_lost`). -/

namespace MachineActuator

namespace InfraCluster

variable {c : InfraCluster} {ns name : String}

/-- A call that does not delete a virtual machine leaves it, creates it or replaces it. -/
theorem virtualMachines_answer {call : InfraCall}
    (hspares : ∀ grace, call ≠ .deleteVirtualMachine ns name grace) :
    (c.answer call).2.virtualMachines ns name = c.virtualMachines ns name ∨
      (c.virtualMachines ns name = none ∧
        ∃ vm, (c.answer call).2.virtualMachines ns name = some (c.admitted ns vm)) ∨
      ∃ stored vm, c.virtualMachines ns name = some stored ∧ differs vm stored = true ∧
        (c.answer call).2.virtualMachines ns name = some (replaced vm stored) := by
  have hchanges := c.changes_answer call
  generalize (c.answer call).2 = after at hchanges ⊢
  cases hchanges with
  | unchanged => exact .inl rfl
  | @created n vm hnew =>
    by_cases hkey : ns = n ∧ name = vm.metadata.name.getD ""
    · obtain ⟨rfl, rfl⟩ := hkey
      exact .inr (.inl ⟨hnew, vm, Store.put_same _ _ _ _⟩)
    · exact .inl (Store.put_of_ne _ _ hkey)
  | @updated n vm stored hstored hversion hdiffers =>
    by_cases hkey : ns = n ∧ name = vm.metadata.name.getD ""
    · obtain ⟨rfl, rfl⟩ := hkey
      exact .inr (.inr ⟨stored, vm, hstored, hdiffers, Store.put_same _ _ _ _⟩)
    · exact .inl (Store.put_of_ne _ _ hkey)
  | @deleted n key grace stored hstored =>
    have hkey : ¬ (ns = n ∧ name = key) := by
      rintro ⟨rfl, rfl⟩
      exact hspares grace rfl
    exact .inl (Store.remove_of_ne _ hkey)
  | provided hnew => exact .inl rfl

/-- A replacement of the stored version succeeds unless it is made to fail. -/
theorem exists_answer_updateVirtualMachine {vm stored : VirtualMachine}
    (hup : c.failures .updateVirtualMachine = none) (hname : vm.metadata.name = some name)
    (hstored : c.virtualMachines ns name = some stored)
    (hversion : vm.metadata.resourceVersion = stored.metadata.resourceVersion) :
    ∃ updated, (c.answer (.updateVirtualMachine ns vm)).1 = .ok updated := by
  unfold answer
  rw [show InfraCall.operation (.updateVirtualMachine ns vm) = .updateVirtualMachine from rfl, hup]
  simp only [perform, updateVirtualMachine, hname, Option.getD_some, hstored]
  rw [if_neg (not_not.mpr hversion)]
  split_ifs
  · exact ⟨_, rfl⟩
  · exact ⟨_, rfl⟩

end InfraCluster

namespace UpdateRace

open InfraCluster (differs replaced)

/-! ### What clients own -/

section

variable (ns name : String)

/-- What clients own of the virtual machine of this name. -/
def content (env : Environment) :
    Option (VirtualMachineSpec × Option (StringMap String) × Option (StringMap String)) :=
  (env.infra.virtualMachines ns name).map fun vm =>
    (vm.spec, vm.metadata.labels, vm.metadata.annotations)

def version (env : Environment) : Option String :=
  env.infra.virtualMachines ns name >>= (·.metadata.resourceVersion)

/-- The number that the version counts up from. -/
def count (env : Environment) : Nat := Decimal.counter ((version ns name env).getD "")

/-- The step changes what clients own of the virtual machine. -/
def Changes (step : Step) : Prop := content ns name step.after ≠ content ns name step.before

/-- The effect does not delete the virtual machine. -/
def Spares (e : Effect) : Prop := ∀ grace, e ≠ .infra (.deleteVirtualMachine ns name grace)

/-- Anything may happen that leaves alone what clients own of the virtual machine, and its
version. -/
def Drift (env env' : Environment) : Prop :=
  content ns name env' = content ns name env ∧ version ns name env' = version ns name env

/-- A change does not count up beyond the range of counters. -/
def InRange (step : Step) : Prop :=
  Changes ns name step → count ns name step.before + 1 < 2 ^ 64

end

variable {ns name : String} {step : Step}

theorem content_replaced_ne {vm stored : VirtualMachine} (h : differs vm stored = true) :
    ((replaced vm stored).spec, (replaced vm stored).metadata.labels,
      (replaced vm stored).metadata.annotations) ≠
      (stored.spec, stored.metadata.labels, stored.metadata.annotations) := by
  intro hsame
  simp only [Prod.mk.injEq] at hsame
  obtain ⟨hspec, hlabels, hannotations⟩ := hsame
  have hdiffers : differs vm stored = false :=
    Lifecycle.differs_of_eq hspec hlabels hannotations
  rw [hdiffers] at h
  cases h

theorem content_congr {env env' : Environment}
    (h : env'.infra.virtualMachines ns name = env.infra.virtualMachines ns name) :
    content ns name env' = content ns name env ∧ version ns name env' = version ns name env := by
  unfold content version
  rw [h]
  exact ⟨rfl, rfl⟩

/-- A step leaves what clients own, and the version with it, or it changes the one and counts up the
other. -/
theorem kept_or_counted_step (step : Step) (hspares : Spares ns name step.effect) :
    (content ns name step.after = content ns name step.before ∧
      version ns name step.after = version ns name step.before) ∨
    (Changes ns name step ∧ (InRange ns name step →
      count ns name step.after = count ns name step.before + 1)) := by
  obtain ⟨call, hcall, hinfra⟩ | hinfra := step.infra_after
  · have hcallSpares : ∀ grace, call ≠ .deleteVirtualMachine ns name grace := by
      rintro grace rfl
      exact hspares grace hcall
    obtain hsame | ⟨hnone, vm, hcreated⟩ | ⟨stored, vm, hstored, hdiffers, hreplaced⟩ :=
      InfraCluster.virtualMachines_answer (c := step.before.infra) hcallSpares
    · rw [← hinfra] at hsame
      exact .inl (content_congr hsame)
    · rw [← hinfra] at hcreated
      refine .inr ⟨?_, fun _ => ?_⟩
      · simp [Changes, content, hcreated, hnone]
      · simp only [count, version, hcreated, hnone]
        exact (by decide +kernel : Decimal.counter "1" = Decimal.counter "" + 1)
    · rw [← hinfra] at hreplaced
      have hchanges : Changes ns name step := by
        have hne := content_replaced_ne hdiffers
        simpa only [Changes, content, hreplaced, hstored, Option.map_some, ne_eq,
          Option.some.injEq] using hne
      have hversion : version ns name step.before = stored.metadata.resourceVersion := by
        simp [version, hstored]
      refine .inr ⟨hchanges, fun hrange => ?_⟩
      have hcounter := hrange hchanges
      unfold count at hcounter ⊢
      rw [hversion] at hcounter ⊢
      simp only [version, hreplaced]
      exact Decimal.counter_repr hcounter
  · exact .inl (content_congr (congrArg (·.virtualMachines ns name) hinfra))

/-! ### Runs -/

section

variable {ι : Type} [DecidableEq ι] {α : ι → Type} {pool pool' : ∀ i, Program (α i)}
  {env env' : Environment} {steps : List (ι × Step)}

/-- A run in which nobody changes what clients own keeps it with its version; in every other the
version has counted up. -/
theorem kept_or_counted (hpool : ∀ i, (pool i).Only (Spares ns name))
    (h : Interleaved (Drift ns name) pool env steps pool' env')
    (hrange : ∀ step ∈ steps, InRange ns name step.2) :
    ((∀ step ∈ steps, ¬ Changes ns name step.2) ∧ content ns name env' = content ns name env ∧
      version ns name env' = version ns name env) ∨
    ((∃ step ∈ steps, Changes ns name step.2) ∧ count ns name env < count ns name env') := by
  induction h with
  | stopped => exact .inl ⟨by simp, rfl, rfl⟩
  | drifted drift _ ih =>
    obtain ⟨hnone, hcontent, hversion⟩ | ⟨hsome, hcount⟩ := ih hpool hrange
    · exact .inl ⟨hnone, hcontent.trans drift.1, hversion.trans drift.2⟩
    · refine .inr ⟨hsome, ?_⟩
      unfold count at hcount ⊢
      rwa [← drift.2]
  | @performed pool pool' env env' i e next steps turn _ ih =>
    obtain ⟨hspares, hnext⟩ := Interleaved.only_update hpool turn (Step.mk e env).answer
    obtain ⟨hhere, hlater⟩ := List.forall_mem_cons.mp hrange
    have hrest := ih hnext hlater
    obtain ⟨hcontent, hversion⟩ | ⟨hchanges, hcount⟩ := kept_or_counted_step ⟨e, env⟩ hspares
    · obtain ⟨hnone, hcontent', hversion'⟩ | ⟨hsome, hcount'⟩ := hrest
      · refine .inl ⟨?_, hcontent'.trans hcontent, hversion'.trans hversion⟩
        exact List.forall_mem_cons.mpr ⟨fun hchanges => hchanges hcontent, hnone⟩
      · refine .inr ⟨?_, ?_⟩
        · obtain ⟨step, hstep, hchanges⟩ := hsome
          exact ⟨step, List.mem_cons_of_mem _ hstep, hchanges⟩
        · unfold count at hcount' ⊢
          rwa [hversion] at hcount'
    · refine .inr ⟨⟨_, List.mem_cons_self, hchanges⟩, ?_⟩
      have hhere' := hcount hhere
      obtain ⟨-, -, hversion'⟩ | ⟨-, hcount'⟩ := hrest
      · have hsame : count ns name env' = count ns name (Step.mk e env).after :=
          congrArg (fun v : Option String => Decimal.counter (v.getD "")) hversion'
        dsimp only at hhere'
        omega
      · dsimp only at hhere'
        omega

/-- A version that has not changed tells that nobody has changed what clients own. -/
theorem unchanged_of_version_eq (hpool : ∀ i, (pool i).Only (Spares ns name))
    (h : Interleaved (Drift ns name) pool env steps pool' env')
    (hrange : ∀ step ∈ steps, InRange ns name step.2)
    (hversion : version ns name env' = version ns name env) :
    ∀ step ∈ steps, ¬ Changes ns name step.2 := by
  obtain ⟨hnone, -, -⟩ | ⟨-, hcount⟩ := kept_or_counted hpool h hrange
  · exact hnone
  · unfold count at hcount
    rw [hversion] at hcount
    exact absurd hcount (lt_irrefl _)

theorem kept_of_unchanged (hpool : ∀ i, (pool i).Only (Spares ns name))
    (h : Interleaved (Drift ns name) pool env steps pool' env')
    (hrange : ∀ step ∈ steps, InRange ns name step.2)
    (hnone : ∀ step ∈ steps, ¬ Changes ns name step.2) : Drift ns name env env' := by
  obtain ⟨-, hcontent, hversion⟩ | ⟨⟨step, hstep, hchanges⟩, -⟩ := kept_or_counted hpool h hrange
  · exact ⟨hcontent, hversion⟩
  · exact absurd hchanges (hnone step hstep)

theorem drift_of_drifts (h : Relation.ReflTransGen (Drift ns name) env env') :
    Drift ns name env env' := by
  induction h with
  | refl => exact ⟨rfl, rfl⟩
  | tail _ drift ih => exact ⟨drift.1.trans ih.1, drift.2.trans ih.2⟩

end

/-! ### An update among others -/

/-- The effect neither looks up nor replaces a virtual machine. -/
def Aside : Effect → Prop
  | .infra (.getVirtualMachine ..) | .infra (.updateVirtualMachine ..) => False
  | _ => True

section

variable {D : Environment → Environment → Prop} {env env' : Environment} {s : Scope}
  {steps : List Step} {q : Program (Except ControllerError (Bool × Scope))}

/-- What an update sends to replace what it has found, and what becomes of it. -/
structure Sent (s : Scope) (existing : VirtualMachine) (infraNs : String) (vm : VirtualMachine)
    (before : Environment) (q : Program (Except ControllerError (Bool × Scope))) : Prop where
  ns : infraNs = s.infraNs
  name : vm.metadata.name = some s.name
  version : vm.metadata.resourceVersion = existing.metadata.resourceVersion
  failed : ∀ e, (before.infra.answer (.updateVirtualMachine infraNs vm)).1 = .error e →
    ∀ result, q = .done result → ∃ e, result = .error e

/-- An update asks for nothing of interest after its replacement, and fails if that has failed. -/
theorem aside_of_replace {mode : String} {existing : VirtualMachine}
    (h : Course D env (Lifecycle.replace Scope.sync s (s.virtualMachineWith mode) existing) steps q
      env') :
    steps = [] ∨ ∃ before rest,
      steps = ⟨.infra (.updateVirtualMachine s.infraNs
        (Lifecycle.replacement (s.virtualMachineWith mode) existing)), before⟩ :: rest ∧
      (∀ step ∈ rest, Aside step.effect) ∧
      ∀ e, (before.infra.answer (.updateVirtualMachine s.infraNs
        (Lifecycle.replacement (s.virtualMachineWith mode) existing))).1 = .error e →
        ∀ result, q = .done result → ∃ e, result = .error e := by
  have hlog (line : LogLine) : Aside (.log line) := trivial
  unfold Lifecycle.replace at h
  obtain ⟨rfl, -, -⟩ | ⟨before, rest, -, rfl, hrest⟩ := h.of_effect_bind
  · exact .inl rfl
  refine .inr ⟨before, rest, rfl, ?_⟩
  cases hanswer : (Step.mk (.infra (.updateVirtualMachine s.infraNs
      (Lifecycle.replacement (s.virtualMachineWith mode) existing))) before).answer with
  | error e =>
    rw [hanswer] at hrest
    obtain ⟨hsteps, hq⟩ := hrest.ensures
      (Lifecycle.ensures_stepFailed hlog (Q := fun r => ∃ e, r = .error e) (fun e => ⟨e, rfl⟩)
        _ _ _ _)
    refine ⟨hsteps, fun _ _ result hresult => ?_⟩
    rw [hresult] at hq
    exact hq
  | ok updated =>
    rw [hanswer] at hrest
    refine ⟨(hrest.ensures (P := Aside) (Q := fun _ => True) ?_).1, fun e he => ?_⟩
    · apply (only_log hlog _ _).bind
      intro _
      apply (Lifecycle.ensures_observe hlog s (fun _ => trivial) updated trivial _).bind
      intro result _
      cases result with
      | error e => exact Program.only_pure _
      | ok synced => exact Program.only_pure _
    · rw [show (before.infra.answer _).1 = .ok updated from hanswer] at he
      simp at he

theorem only_awaitVm (infraNs key : String) : (Lifecycle.awaitVm s infraNs key).Only Aside := by
  have hlog (line : LogLine) : Aside (.log line) := trivial
  unfold Lifecycle.awaitVm
  apply (Program.only_effect (show Aside .now from trivial)).bind
  intro _
  exact (only_log hlog _ _).bind fun _ => Program.only_pure _

/-- An update looks the virtual machine up before it replaces it. -/
theorem sent_of_update {vm : VirtualMachine} {infraNs infraNs' key : String} {at₁ at₂ : Environment}
    (h : Course D env (Lifecycle.update Scope.sync s) steps q env')
    (hget : ⟨.infra (.getVirtualMachine infraNs key), at₁⟩ ∈ steps)
    (hupdate : ⟨.infra (.updateVirtualMachine infraNs' vm), at₂⟩ ∈ steps) :
    ∃ existing, (at₁.infra.answer (.getVirtualMachine infraNs key)).1 = .ok existing ∧
      Sent s existing infraNs' vm at₂ q := by
  have hlog (line : LogLine) : Aside (.log line) := trivial
  unfold Lifecycle.update at h
  cases hvm : s.virtualMachine with
  | error e =>
    rw [hvm] at h
    exact False.elim ((h.ensures (Lifecycle.only_stepFailed hlog _ _ _ _)).1 _ hget)
  | ok desired =>
    obtain ⟨-, mode, -, rfl⟩ := Scope.virtualMachine_eq_ok_iff.mp hvm
    rw [hvm] at h
    obtain ⟨rfl, -, -⟩ | ⟨before, rest, -, rfl, hrest⟩ := h.of_effect_bind
    · simp at hget
    have hlater : ⟨.infra (.updateVirtualMachine infraNs' vm), at₂⟩ ∈ rest := by
      simpa using hupdate
    cases hanswer : (Step.mk (.infra (.getVirtualMachine s.infraNs
        (s.virtualMachineWith mode).metadata.displayName)) before).answer with
    | error e =>
      rw [hanswer] at hrest
      dsimp only at hrest
      split_ifs at hrest
      · exact False.elim ((hrest.ensures (only_awaitVm _ _)).1 _ hlater)
      · exact False.elim ((hrest.ensures (Lifecycle.only_stepFailed hlog _ _ _ _)).1 _ hlater)
    | ok existing =>
      rw [hanswer] at hrest
      obtain rfl | ⟨before', rest', rfl, haside, hfailed⟩ := aside_of_replace hrest
      · simp at hlater
      have hfirst : (⟨.infra (.getVirtualMachine infraNs key), at₁⟩ : Step) =
          ⟨.infra (.getVirtualMachine s.infraNs
            (s.virtualMachineWith mode).metadata.displayName), before⟩ := by
        obtain hfirst | hget := List.mem_cons.mp hget
        · exact hfirst
        obtain hsecond | hget := List.mem_cons.mp hget
        · simp at hsecond
        · exact False.elim (haside _ hget)
      have hsecond : (⟨.infra (.updateVirtualMachine infraNs' vm), at₂⟩ : Step) =
          ⟨.infra (.updateVirtualMachine s.infraNs
            (Lifecycle.replacement (s.virtualMachineWith mode) existing)), before'⟩ := by
        obtain hsecond | hupdate := List.mem_cons.mp hlater
        · exact hsecond
        · exact False.elim (haside _ hupdate)
      simp only [Step.mk.injEq, Effect.infra.injEq, InfraCall.getVirtualMachine.injEq,
        InfraCall.updateVirtualMachine.injEq] at hfirst hsecond
      obtain ⟨⟨rfl, rfl⟩, rfl⟩ := hfirst
      obtain ⟨⟨rfl, rfl⟩, rfl⟩ := hsecond
      exact ⟨existing, hanswer, rfl, rfl, rfl, hfailed⟩

end

/-! ### Contenders -/

section

variable {κ ℓ : Type} [DecidableEq κ] [DecidableEq ℓ] {γ : ℓ → Type}

/-- What comes of an update or of another client. -/
abbrev Outcome (κ : Type) (γ : ℓ → Type) : κ ⊕ ℓ → Type
  | .inl _ => Except ControllerError (Bool × Scope)
  | .inr l => γ l

/-- Any number of updates, and any number of other clients. -/
def contenders (scopes : κ → Scope) (clients : ∀ l, Program (γ l)) :
    ∀ i, Program (Outcome κ γ i)
  | .inl k => Lifecycle.update Scope.sync (scopes k)
  | .inr l => clients l

variable {scopes : κ → Scope} {clients : ∀ l, Program (γ l)} {ns name : String}

omit [DecidableEq κ] [DecidableEq ℓ] in
theorem only_contenders (scopes : κ → Scope) (hclients : ∀ l, (clients l).Only (Spares ns name)) :
    ∀ i, (contenders scopes clients i).Only (Spares ns name) := by
  intro i
  cases i with
  | inl k =>
    refine (Lifecycle.ensures_update (scopes k)).mono ?_ fun _ _ => trivial
    rintro e he grace rfl
    exact he
  | inr l => exact hclients l

variable {env env' at₁ at₂ : Environment} {pool : ∀ i, Program (Outcome κ γ i)}
  {early mid late : List ((κ ⊕ ℓ) × Step)} {k : κ} {vm : VirtualMachine}

/-- What happens between the moment when an update looks the virtual machine up and the moment when
it replaces it. -/
theorem exists_between (hscopes : ∀ k, (scopes k).infraNs = ns ∧ (scopes k).name = name)
    (hclients : ∀ l, (clients l).Only (Spares ns name))
    (hrun : Interleaved (Drift ns name) (contenders scopes clients) env
      (early ++ (.inl k, ⟨.infra (.getVirtualMachine ns name), at₁⟩) ::
        (mid ++ (.inl k, ⟨.infra (.updateVirtualMachine ns vm), at₂⟩) :: late)) pool env') :
    ∃ existing, at₁.infra.virtualMachines ns name = some existing ∧
      vm.metadata.name = some name ∧
      vm.metadata.resourceVersion = existing.metadata.resourceVersion ∧
      (∀ e, (at₂.infra.answer (.updateVirtualMachine ns vm)).1 = .error e →
        ∀ result, pool (.inl k) = .done result → ∃ e, result = .error e) ∧
      ∃ (pool₁ pool₂ : ∀ i, Program (Outcome κ γ i)) (env₁ env₂ : Environment),
        (∀ i, (pool₁ i).Only (Spares ns name)) ∧ Drift ns name at₁ env₁ ∧
        Interleaved (Drift ns name) pool₁ env₁ mid pool₂ env₂ ∧ Drift ns name env₂ at₂ := by
  have hpool := only_contenders scopes hclients
  -- The update's own course, in which it has to look before it replaces.
  have hown := hrun.course hpool (.inl k)
  obtain ⟨existing, hget, hsent⟩ := sent_of_update hown
    (List.mem_filterMap.mpr ⟨_, List.mem_append_right _ List.mem_cons_self, if_pos rfl⟩)
    (List.mem_filterMap.mpr ⟨_, List.mem_append_right _ (List.mem_cons_of_mem _
      (List.mem_append_right _ List.mem_cons_self)), if_pos rfl⟩)
  obtain ⟨-, hname, hversion, hfailed⟩ := hsent
  rw [(hscopes k).2] at hname
  refine ⟨existing, InfraCluster.gives_of_answer hget, hname, hversion, hfailed, ?_⟩
  -- What everybody does between the two.
  obtain ⟨pool₀, env₀, hearly, hrest⟩ := hrun.split
  obtain ⟨-, next, turn, hrest⟩ := hrest.of_cons
  have hpool₁ := (Interleaved.only_update (hearly.only hpool).2 turn
    (Step.mk (.infra (.getVirtualMachine ns name)) at₁).answer).2
  obtain ⟨pool₂, env₂, hmid, hrest⟩ := hrest.split
  obtain ⟨hdrift, -⟩ := hrest.of_cons
  refine ⟨_, pool₂, _, env₂, hpool₁, ?_, hmid, drift_of_drifts hdrift⟩
  exact content_congr (congrArg (·.virtualMachines ns name)
    InfraCluster.answer_getVirtualMachine_snd)

variable {steps : List ((κ ⊕ ℓ) × Step)}

/-- An update replaces the virtual machine if nobody has changed it since the update has looked it
up; if somebody has, the replacement fails and leaves it as it is, and so the update fails.  Since
any moment of the run the version has changed if and only if somebody has changed what clients
own. -/
theorem no_update_lost (hscopes : ∀ k, (scopes k).infraNs = ns ∧ (scopes k).name = name)
    (hclients : ∀ l, (clients l).Only (Spares ns name))
    (hrun : Interleaved (Drift ns name) (contenders scopes clients) env steps pool env')
    (hrange : ∀ step ∈ steps, InRange ns name step.2) :
    (∀ k early mid late at₁ at₂ vm,
      steps = early ++ (.inl k, ⟨.infra (.getVirtualMachine ns name), at₁⟩) ::
        (mid ++ (.inl k, ⟨.infra (.updateVirtualMachine ns vm), at₂⟩) :: late) →
      ((∀ step ∈ mid, ¬ Changes ns name step.2) → at₂.infra.failures .updateVirtualMachine = none →
        ∃ updated, (at₂.infra.answer (.updateVirtualMachine ns vm)).1 = .ok updated) ∧
      ((∃ step ∈ mid, Changes ns name step.2) →
        (∃ e, at₂.infra.answer (.updateVirtualMachine ns vm) = (.error e, at₂.infra)) ∧
          ∀ result, pool (.inl k) = .done result → ∃ e, result = .error e)) ∧
    ∀ early late middle mid, steps = early ++ late →
      Interleaved (Drift ns name) (contenders scopes clients) env early middle mid →
      Interleaved (Drift ns name) middle mid late pool env' →
      (version ns name env' = version ns name mid ↔ ∀ step ∈ late, ¬ Changes ns name step.2) := by
  constructor
  · rintro k early mid late at₁ at₂ vm rfl
    obtain ⟨existing, hexisting, hname, hversion, hfailed, pool₁, pool₂, env₁, env₂, hpool, hbefore,
      hmid, hafter⟩ := exists_between hscopes hclients hrun
    have hrange : ∀ step ∈ mid, InRange ns name step.2 := fun step hstep =>
      hrange step (by simp [hstep])
    have hversion₁ : version ns name env₁ = vm.metadata.resourceVersion := by
      rw [hbefore.2, hversion]
      simp [version, hexisting]
    constructor
    · intro hnone hup
      have hkept := kept_of_unchanged hpool hmid hrange hnone
      obtain ⟨stored, hstored⟩ : ∃ stored, at₂.infra.virtualMachines ns name = some stored := by
        have hcontent := hafter.1.trans (hkept.1.trans hbefore.1)
        unfold content at hcontent
        rw [hexisting, Option.map_some, Option.map_eq_some_iff] at hcontent
        obtain ⟨stored, hstored, -⟩ := hcontent
        exact ⟨stored, hstored⟩
      refine InfraCluster.exists_answer_updateVirtualMachine hup hname hstored ?_
      have hversion₂ := hafter.2.trans (hkept.2.trans hversion₁)
      unfold version at hversion₂
      rw [hstored] at hversion₂
      exact hversion₂.symm
    · rintro ⟨step, hstep, hchanges⟩
      obtain ⟨e, herror⟩ | ⟨stored, updated, hstored, hsame, -⟩ :=
        InfraCluster.answer_updateVirtualMachine_cases at₂.infra ns vm
      · exact ⟨⟨e, herror⟩, hfailed e (by rw [herror])⟩
      · rw [hname, Option.getD_some] at hstored
        have hversion₂ : version ns name env₂ = version ns name env₁ := by
          rw [← hafter.2, hversion₁, hsame]
          simp [version, hstored]
        exact absurd hchanges (unchanged_of_version_eq hpool hmid hrange hversion₂ step hstep)
  · rintro early late middle mid rfl hearly hlate
    have hpool := (hearly.only (only_contenders scopes hclients)).2
    have hrange : ∀ step ∈ late, InRange ns name step.2 := fun step hstep =>
      hrange step (List.mem_append_right _ hstep)
    constructor
    · exact unchanged_of_version_eq hpool hlate hrange
    · exact fun hnone => (kept_of_unchanged hpool hlate hrange hnone).2

end

/-! The small machine against a rival. -/

/-- The scope of the small machine. -/
def racer : Scope where
  machine := Machine.worker
  providerSpec :=
    { ignitionSecretName := "payload", networkName := "net", sourcePvcName := "disk" }
  settings := ⟨⟨"infra", "c"⟩, {}⟩

/-- What another client replaces the virtual machine of the small machine by. -/
def rival : VirtualMachine where
  metadata := { name := some "worker", labels := some (.singleton "rival" "") }
  spec := {}

/-- The virtual machine of the small machine, without a version. -/
def raceStart : Environment where
  infra :=
    { virtualMachines := Store.empty.put "infra" "worker"
        { metadata := { name := some "worker" }
          spec := {} } }
  now := ⟨0, 0⟩

/-- The virtual machine once the rival has replaced it. -/
def raced : Environment := (Step.mk (.infra (.updateVirtualMachine "infra" rival)) raceStart).after

/-- What the small machine replaces the virtual machine by. -/
def racerVm : VirtualMachine :=
  Lifecycle.replacement (racer.virtualMachineWith "ReadWriteMany")
    { metadata := { name := some "worker" }
      spec := {} }

/-- The rival replaces the virtual machine after the small machine has looked it up. -/
def raceSteps : List ((Unit ⊕ Unit) × Step) :=
  [(.inl (), ⟨.infra (.getVirtualMachine "infra" "worker"), raceStart⟩),
   (.inr (), ⟨.infra (.updateVirtualMachine "infra" rival), raceStart⟩),
   (.inl (), ⟨.infra (.updateVirtualMachine "infra" racerVm), raced⟩)]

/-- The replacement of the small machine fails, and leaves the virtual machine to the rival. -/
theorem no_update_lost_worker :
    ∃ pool env', Interleaved (Drift "infra" "worker")
        (contenders (fun _ : Unit => racer) fun _ : Unit =>
          Program.infra (.updateVirtualMachine "infra" rival)) raceStart raceSteps pool env' ∧
      ∃ e, raced.infra.answer (.updateVirtualMachine "infra" racerVm) =
        (.error e, raced.infra) := by
  have hrun : ∃ pool env', Interleaved (Drift "infra" "worker")
      (contenders (fun _ : Unit => racer) fun _ : Unit =>
        Program.infra (.updateVirtualMachine "infra" rival)) raceStart raceSteps pool env' :=
    ⟨_, _, .performed rfl (.performed rfl (.performed rfl .stopped))⟩
  have hscope : ∀ _ : Unit, racer.infraNs = "infra" ∧ racer.name = "worker" := fun _ => ⟨rfl, rfl⟩
  have hclient : ∀ _ : Unit, (Program.infra (.updateVirtualMachine "infra" rival)).Only
      (Spares "infra" "worker") := fun _ => Program.only_effect fun grace h => by simp at h
  have hrange : ∀ step ∈ raceSteps, InRange "infra" "worker" step.2 := by
    unfold raceSteps
    simp only [List.forall_mem_cons]
    refine ⟨fun _ => ?_, fun _ => ?_, fun _ => ?_, by simp⟩
    · decide +kernel
    · decide +kernel
    · decide +kernel
  have hchanges : Changes "infra" "worker"
      ⟨.infra (.updateVirtualMachine "infra" rival), raceStart⟩ := by
    unfold Changes
    decide +kernel
  obtain ⟨pool, env', hrun⟩ := hrun
  obtain ⟨-, hlost⟩ := (no_update_lost hscope hclient hrun hrange).1 () []
    [(.inr (), ⟨.infra (.updateVirtualMachine "infra" rival), raceStart⟩)] [] raceStart raced
    racerVm rfl
  exact ⟨pool, env', hrun, (hlost ⟨_, List.mem_singleton_self _, hchanges⟩).1⟩

end UpdateRace

end MachineActuator
