import Mathlib
import MachineActuator.Proofs.Machine.Sync

/-! # What a machine takes over

Taking over an observation sets some fields of the machine and keeps the rest (`TakenOver`).  The
addresses are the name of the host and, behind it, its IPv4 addresses in the order in which they
come up first (`FirstsOf`).  What was taken over before is set anew, so that a repetition changes
nothing and of a series of observations only the last is seen
(`Scope.sync_takes_over`). -/

namespace MachineActuator

open StringMap (entry)

/-! ### First occurrences -/

section Firsts

variable {α β : Type} [DecidableEq α] [DecidableEq β] {l : List α}

/-- The elements of a list, each once, in the order in which they come up first. -/
structure FirstsOf (all firsts : List α) : Prop where
  nodup : firsts.Nodup
  mem : ∀ a, a ∈ firsts ↔ a ∈ all
  order : firsts.Pairwise fun a b => all.idxOf a < all.idxOf b

/-- What is left of a list is in the order in which it was. -/
theorem idxOf_lt_of_filter {p : α → Bool} {a b : α} (ha : p a = true) (hb : p b = true)
    (h : (l.filter p).idxOf a < (l.filter p).idxOf b) : l.idxOf a < l.idxOf b := by
  induction l with
  | nil => exact h
  | cons x l ih =>
    rw [List.idxOf_cons, List.idxOf_cons]
    cases hx : p x with
    | true =>
      rw [List.filter_cons_of_pos hx, List.idxOf_cons, List.idxOf_cons] at h
      cases hxb : x == b with
      | true => simp [hxb] at h
      | false =>
        cases hxa : x == a with
        | true => exact Nat.succ_pos _
        | false =>
          rw [hxa, hxb] at h
          exact Nat.succ_lt_succ (ih (Nat.lt_of_succ_lt_succ h))
    | false =>
      rw [List.filter_cons_of_neg (by simp [hx])] at h
      have hne : ∀ {c}, p c = true → (x == c) = false := fun hc =>
        beq_eq_false_iff_ne.mpr fun heq => by simp [← heq, hx] at hc
      rw [hne ha, hne hb]
      exact Nat.succ_lt_succ (ih h)

theorem firstsOf_eraseDups (l : List α) : FirstsOf l l.eraseDups := by
  match l with
  | [] => exact ⟨List.nodup_nil, fun _ => Iff.rfl, List.Pairwise.nil⟩
  | a :: as =>
    have hrest := firstsOf_eraseDups (as.filter fun b => !b == a)
    have hne : ∀ b ∈ (as.filter fun b => !b == a).eraseDups, b ≠ a := fun b hb => by
      simpa using (List.mem_filter.mp ((hrest.mem b).mp hb)).2
    refine ⟨?_, fun _ => List.mem_eraseDups, ?_⟩
    · rw [List.eraseDups_cons]
      exact List.nodup_cons.mpr ⟨fun ha => hne a ha rfl, hrest.nodup⟩
    · rw [List.eraseDups_cons]
      refine List.pairwise_cons.mpr ⟨fun b hb => ?_, hrest.order.imp_of_mem ?_⟩
      · rw [List.idxOf_cons_self, List.idxOf_cons_ne _ (hne b hb).symm]
        exact Nat.succ_pos _
      · intro b c hb hc hbc
        rw [List.idxOf_cons_ne _ (hne b hb).symm, List.idxOf_cons_ne _ (hne c hc).symm]
        refine Nat.succ_lt_succ (idxOf_lt_of_filter ?_ ?_ hbc)
        · simpa using hne b hb
        · simpa using hne c hc
termination_by l.length
decreasing_by exact Nat.lt_succ_of_le (List.length_filter_le _ _)

theorem eraseDups_map {f : α → β} (hf : Function.Injective f) (l : List α) :
    (l.map f).eraseDups = l.eraseDups.map f := by
  match l with
  | [] => rfl
  | a :: as =>
    have hfilter : (as.map f).filter (fun b => !b == f a) =
        (as.filter fun b => !b == a).map f := by
      rw [List.filter_map]
      refine congrArg _ (List.filter_congr fun b _ => ?_)
      rw [Function.comp_apply, hf.beq_eq]
    rw [List.map_cons, List.eraseDups_cons, List.eraseDups_cons, List.map_cons, hfilter,
      eraseDups_map hf]
termination_by l.length
decreasing_by exact Nat.lt_succ_of_le (List.length_filter_le _ _)

end Firsts

/-! ### Addresses -/

namespace Ipv4

theorem dot_notMem_repr (n : ℕ) : '.' ∉ (Nat.repr n).toList := by
  rw [Nat.toList_repr]
  intro h
  exact absurd (Nat.isDigit_of_mem_toDigits (by omega) (by omega) h) (by decide)

theorem eq_of_repr_append {m n : ℕ} {rest rest' : List Char}
    (h : (Nat.repr m).toList ++ '.' :: rest = (Nat.repr n).toList ++ '.' :: rest') :
    m = n ∧ rest = rest' := by
  have hbefore : ∀ (k : ℕ) (rest : List Char),
      ((Nat.repr k).toList ++ '.' :: rest).takeWhile (· ≠ '.') = (Nat.repr k).toList := by
    intro k rest
    have hplain : ∀ c ∈ (Nat.repr k).toList, decide (c ≠ '.') = true := by
      intro c hc
      exact decide_eq_true (ne_of_mem_of_not_mem hc (dot_notMem_repr k))
    rw [List.takeWhile_append_of_pos hplain]
    exact List.append_nil _
  have htext := congrArg (List.takeWhile (· ≠ '.')) h
  rw [hbefore, hbefore] at htext
  rw [htext] at h
  exact ⟨Nat.repr_inj.mp (String.toList_inj.mp htext),
    (List.cons_inj_right _).mp (List.append_cancel_left h)⟩

theorem render_injective : Function.Injective render := by
  rintro ⟨a, b, c, d⟩ ⟨a', b', c', d'⟩ h
  have htext := congrArg String.toList h
  unfold render at htext
  have hdot : ".".toList = ['.'] := rfl
  simp only [String.toList_append, hdot, List.append_assoc, List.singleton_append] at htext
  obtain ⟨ha, htext⟩ := eq_of_repr_append htext
  obtain ⟨hb, htext⟩ := eq_of_repr_append htext
  obtain ⟨hc, htext⟩ := eq_of_repr_append htext
  have hd := Nat.repr_inj.mp (String.toList_inj.mp htext)
  rw [UInt8.toNat_inj] at ha hb hc hd
  rw [ha, hb, hc, hd]

end Ipv4

/-- The addresses of a host: its name, then each of `ips` that comes up first. -/
theorem addressesOf_eq (host : String) (ips : List Ipv4) :
    addressesOf host ips = { type := "InternalDNS", address := host } ::
      ips.eraseDups.map fun ip => { type := "InternalIP", address := ip.render } := by
  unfold addressesOf
  rw [eraseDups_map fun x y h => Ipv4.render_injective (NodeAddress.mk.inj h).2]

theorem nodup_addressesOf (host : String) (ips : List Ipv4) : (addressesOf host ips).Nodup := by
  refine List.nodup_cons.mpr ⟨fun h => ?_, (firstsOf_eraseDups _).nodup⟩
  obtain ⟨ip, -, hip⟩ := List.mem_map.mp (List.mem_eraseDups.mp h)
  exact absurd (NodeAddress.mk.inj hip).1 (by decide)

/-! ### Entries that are set again -/

theorem withEntry_withEntry (m : Option (StringMap String)) (key old new : String) :
    withEntry (withEntry m key old) key new = withEntry m key new := by
  refine congrArg some (StringMap.ext_get? fun other => ?_)
  change entry (withEntry _ key new) other = entry (withEntry _ key new) other
  rw [entry_withEntry, entry_withEntry, entry_withEntry]
  split_ifs <;> rfl

theorem withEntry_comm {key key' : String} (hne : key ≠ key') (m : Option (StringMap String))
    (value value' : String) :
    withEntry (withEntry m key value) key' value' =
      withEntry (withEntry m key' value') key value := by
  refine congrArg some (StringMap.ext_get? fun other => ?_)
  change entry (withEntry _ key' value') other = entry (withEntry _ key value) other
  rw [entry_withEntry, entry_withEntry, entry_withEntry, entry_withEntry]
  split_ifs with h h'
  · exact absurd (h'.symm.trans h) hne
  all_goals rfl

namespace Scope

variable {vm vm' : VirtualMachine} {vmi vmi' : VirtualMachineInstance}
  {providerId providerId' : String} {ips ips' : List Ipv4}

theorem syncedAnnotations_syncedAnnotations (annotations : Option (StringMap String))
    (vm vm' : VirtualMachine) :
    syncedAnnotations (syncedAnnotations annotations vm) vm' =
      syncedAnnotations annotations vm' := by
  have hne : instanceStateAnnotation ≠ vmIdAnnotation := by decide
  unfold syncedAnnotations
  rw [withEntry_comm hne, withEntry_withEntry, withEntry_withEntry]

/-- The kind of machine is set again, unless the virtual machine has become one without any. -/
theorem syncedLabels_syncedLabels (h : instanceType? vm' = none → instanceType? vm = none)
    (labels : Option (StringMap String)) :
    syncedLabels (syncedLabels labels vm) vm' = syncedLabels labels vm' := by
  unfold syncedLabels
  cases htype' : instanceType? vm' with
  | none => rw [h htype']; rfl
  | some type' =>
    cases instanceType? vm with
    | none => rfl
    | some type => exact withEntry_withEntry _ _ _ _

theorem syncedMachine_syncedMachine (m : Machine)
    (h : instanceType? vm' = none → instanceType? vm = none) :
    syncedMachine (syncedMachine m vm vmi providerId ips) vm' vmi' providerId' ips' =
      syncedMachine m vm' vmi' providerId' ips' := by
  unfold syncedMachine
  dsimp only
  rw [syncedAnnotations_syncedAnnotations, syncedLabels_syncedLabels h]
  rfl

theorem synced_synced (s : Scope) (h : instanceType? vm' = none → instanceType? vm = none) :
    (s.synced vm vmi providerId ips).synced vm' vmi' providerId' ips' =
      s.synced vm' vmi' providerId' ips' :=
  congrArg (fun machine => { s with machine }) (syncedMachine_syncedMachine s.machine h)

end Scope

/-! ### Taking over -/

/-- What was found out about the virtual machine behind a machine. -/
structure Observation where
  vm : VirtualMachine
  vmi : VirtualMachineInstance
  providerId : String

/-- The machine `after` has all that is taken over of an observation, and is `before` otherwise.
Labels, annotations and a status that are absent count as empty. -/
structure TakenOver (hosts : String → List Ipv4) (o : Observation) (before after : Machine) :
    Prop where
  metadata : { after.metadata with
    labels := before.metadata.labels, annotations := before.metadata.annotations } =
      before.metadata
  vmId : entry after.metadata.annotations vmIdAnnotation = some (o.vm.metadata.uid.getD "")
  state : entry after.metadata.annotations instanceStateAnnotation =
    some (VmState.ofStatus o.vm.observedStatus).text
  annotations : ∀ key, key ≠ vmIdAnnotation → key ≠ instanceStateAnnotation →
    entry after.metadata.annotations key = entry before.metadata.annotations key
  type : ∀ t, o.vm.spec.template = some t → entry after.metadata.labels instanceTypeLabel =
    some ((t.spec.domain.machine.map (·.type)).getD "")
  labels : ∀ key, (key = instanceTypeLabel → o.vm.spec.template = none) →
    entry after.metadata.labels key = entry before.metadata.labels key
  spec : after.spec = { before.spec with providerId := some o.providerId }
  addresses : ∃ firsts, FirstsOf (hosts (o.vmi.metadata.name.getD "")) firsts ∧
    (after.status.getD {}).addresses =
      ⟨"InternalDNS", o.vmi.metadata.name.getD ""⟩ ::
        firsts.map fun ip => ⟨"InternalIP", ip.render⟩
  distinct : (after.status.getD {}).addresses.Nodup
  providerStatus : (after.status.getD {}).providerStatus =
    some (ProviderStatus.toJson ⟨o.vm.observedStatus⟩)
  lastUpdated : (after.status.getD {}).lastUpdated = (before.status.getD {}).lastUpdated

namespace Scope

/-- Takes over observations one after another, up to the first that cannot be taken over. -/
def syncEach (s : Scope) : List Observation → Program (Except ControllerError Scope)
  | [] => pure (.ok s)
  | o :: rest => do
    match ← s.sync o.vm o.vmi o.providerId with
    | .error e => pure (.error e)
    | .ok s => s.syncEach rest

/-- The scope with an observation taken over where `hosts` tells the addresses. -/
def observed (hosts : String → List Ipv4) (s : Scope) (o : Observation) : Scope :=
  s.synced o.vm o.vmi o.providerId (hosts (o.vmi.metadata.name.getD ""))

variable {hosts : String → List Ipv4} {o o' : Observation}

theorem instanceType?_eq_none_iff {vm : VirtualMachine} :
    instanceType? vm = none ↔ vm.spec.template = none :=
  Option.map_eq_none_iff

theorem takenOver_observed (hosts : String → List Ipv4) (s : Scope) (o : Observation) :
    TakenOver hosts o s.machine (s.observed hosts o).machine where
  metadata := rfl
  vmId := entry_syncedAnnotations_vmId _ _
  state := entry_syncedAnnotations_state _ _
  annotations key hvmId hstate := entry_syncedAnnotations_other hvmId hstate _ _
  type t ht := entry_syncedLabels_type (by rw [instanceType?, ht]; rfl) _
  labels key h := entry_syncedLabels_other (fun hkey => instanceType?_eq_none_iff.mpr (h hkey)) _
  spec := rfl
  addresses := ⟨_, firstsOf_eraseDups _, addressesOf_eq _ _⟩
  distinct := nodup_addressesOf _ _
  providerStatus := rfl
  lastUpdated := rfl

theorem observed_observed (s : Scope)
    (h : o'.vm.spec.template = none → o.vm.spec.template = none) :
    (s.observed hosts o).observed hosts o' = s.observed hosts o' :=
  synced_synced s (by simpa only [instanceType?_eq_none_iff] using h)

/-- Whatever was observed before one that has a template, the machine is as if only that had
been. -/
theorem observed_foldl (h : o.vm.spec.template ≠ none) (earlier : List Observation) (s : Scope) :
    (earlier.foldl (observed hosts) s).observed hosts o = s.observed hosts o := by
  induction earlier generalizing s with
  | nil => rfl
  | cons first rest ih =>
    rw [List.foldl_cons, ih, observed_observed s fun hnone => absurd hnone h]

theorem run_sync (env : Environment) (route : Route) (s : Scope) (o : Observation) :
    ∃ log, env.run route (s.sync o.vm o.vmi o.providerId) =
      (.ok (s.observed env.hosts o), { env with log }) := by
  unfold sync logProviderId
  split_ifs <;> exact ⟨_, rfl⟩

theorem run_syncEach (env : Environment) (route : Route) (s : Scope) (os : List Observation) :
    ∃ log, env.run route (s.syncEach os) =
      (.ok (os.foldl (observed env.hosts) s), { env with log }) := by
  induction os generalizing env s with
  | nil => exact ⟨env.log, rfl⟩
  | cons o rest ih =>
    obtain ⟨log, hfirst⟩ := run_sync env route s o
    obtain ⟨log', hrest⟩ := ih { env with log } (s.observed env.hosts o)
    refine ⟨log', ?_⟩
    unfold Environment.run at hfirst hrest ⊢
    rw [syncEach, Program.bind_eq_bind, Program.run_bind, hfirst]
    exact hrest

/-- An observation is taken over whatever the machine was.  It is taken over once for all as long
as hosts keep their addresses, and hides all that was taken over before it when its virtual machine
has a template. -/
theorem sync_takes_over (env : Environment) (route : Route) (s : Scope) (o : Observation) :
    ∃ after log,
      env.run route (s.sync o.vm o.vmi o.providerId) = (.ok after, { env with log }) ∧
      after.providerSpec = s.providerSpec ∧ after.settings = s.settings ∧
      TakenOver env.hosts o s.machine after.machine ∧
      (∀ later : Environment, later.hosts = env.hosts →
        (later.run route (after.sync o.vm o.vmi o.providerId)).1 = .ok after) ∧
      (∀ earlier : List Observation, o.vm.spec.template ≠ none →
        (env.run route (s.syncEach (earlier ++ [o]))).1 = .ok after) := by
  obtain ⟨log, hrun⟩ := run_sync env route s o
  refine ⟨s.observed env.hosts o, log, hrun, rfl, rfl, takenOver_observed _ _ _,
    fun later hhosts => ?_, fun earlier htemplate => ?_⟩
  · obtain ⟨log', hagain⟩ := run_sync later route (s.observed env.hosts o) o
    rw [hagain, hhosts, observed_observed s id]
  · obtain ⟨log', heach⟩ := run_syncEach env route s (earlier ++ [o])
    rw [heach, List.foldl_append]
    exact congrArg Except.ok (observed_foldl htemplate earlier s)

/-- A worker that was synced with a guest of another kind, and then twice with one whose host has
an address that is told twice. -/
theorem sync_takes_over_worker :
    let env : Environment :=
      { hosts := fun _ => [⟨10, 0, 0, 2⟩, ⟨10, 0, 0, 1⟩, ⟨10, 0, 0, 2⟩], now := ⟨0, 0⟩ }
    let s : Scope :=
      { machine := .worker, providerSpec := {}, settings := ⟨⟨"infra", "c"⟩, {}⟩ }
    let first : Observation :=
      { vm := { spec := { template := some { spec := { domain := { machine := some ⟨"q35"⟩ } } } } }
        vmi := { metadata := { name := some "before" } }
        providerId := "kubevirt://infra/before" }
    let last : Observation :=
      { vm := { metadata := { uid := some "7" }, spec := { template := some {} } }
        vmi := { metadata := { name := some "worker" } }
        providerId := "kubevirt://infra/worker" }
    ∃ after, (env.run .memory (s.sync last.vm last.vmi last.providerId)).1 = .ok after ∧
      (env.run .memory (after.sync last.vm last.vmi last.providerId)).1 = .ok after ∧
      (env.run .memory (s.syncEach [first, last])).1 = .ok after ∧
      (after.machine.status.getD {}).addresses.map (·.address) =
        ["worker", "10.0.0.2", "10.0.0.1"] := by
  intro env s first last
  obtain ⟨after, _, hrun, -, -, -, hagain, hlast⟩ := sync_takes_over env .memory s last
  obtain rfl : s.observed env.hosts last = after := Except.ok.inj (congrArg Prod.fst hrun)
  exact ⟨_, rfl, hagain env rfl, hlast [first] nofun, by decide +kernel⟩

end Scope

end MachineActuator
