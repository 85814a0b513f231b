import Mathlib
import MachineActuator.Machine.Operation
import MachineActuator.Proofs.Machine.StatusPatch
import MachineActuator.Proofs.Run

/-! # Writing back

What writing back a changed machine comes to when no call fails: the stored machine takes over
labels, annotations, provider id and addresses, and the provider status merges into the old
document (`Operation.outcome_persist`).  Where nothing differs nothing is sent
(`Operation.outcome_persist_same`). -/

namespace MachineActuator

open StringMap (entry)

/-- Of two objects put in one place the later one counts. -/
theorem Store.put_put {α : Type*} (s : Store α) (ns name : String) (a b : α) :
    (s.put ns name a).put ns name b = s.put ns name b := by
  funext n m
  unfold put
  split_ifs <;> rfl

theorem TenantCluster.answer_patchMachineStatus {c : TenantCluster} {ns name : String}
    {patch : Json} {stored r : Machine} (hup : c.failures .patchMachineStatus = none)
    (hstored : c.machines ns name = some stored)
    (h : Machine.ofJson? (stored.toJson.mergePatch patch) = some r) :
    c.answer (.patchMachineStatus ns name patch) =
      (.ok r, { c with
        statusPatches := c.statusPatches ++ [patch]
        machines := c.machines.put ns name r }) := by
  unfold answer
  rw [show TenantCall.operation (.patchMachineStatus ns name patch) = .patchMachineStatus from rfl,
    hup]
  exact applyPatch_eq (c := { c with statusPatches := c.statusPatches ++ [patch] }) hstored h

namespace Operation

/-- What `before` has become in the tenant cluster once `after` has been written back. -/
structure Persisted (before after : Machine) (status : ProviderStatus)
    (c c' : TenantCluster) (r : Machine) : Prop where
  stored : c' = { c with
    machines := c.machines.put (after.metadata.ns.getD "") after.metadata.displayName r
    machinePatches := c'.machinePatches
    statusPatches := c'.statusPatches }
  wellFormed : r.WellFormed
  name : r.metadata.name = before.metadata.name
  ns : r.metadata.ns = before.metadata.ns
  providerSpec : r.spec.providerSpec = before.spec.providerSpec
  labels : r.metadata.labels.getD .empty = after.metadata.labels.getD .empty
  annotations : r.metadata.annotations.getD .empty = after.metadata.annotations.getD .empty
  providerId : r.spec.providerId = after.spec.providerId
  addresses : (r.status.getD {}).addresses = (after.status.getD {}).addresses
  providerStatus : (r.status.getD {}).providerStatus =
    some (Json.mergePatch ((before.status.getD {}).providerStatus.getD .null) status.toJson)

variable {env : Environment} {before after : Machine} {status : ProviderStatus}
  (action : MachineAction)

/-- The first half: the stored machine takes over metadata and specification, its status stays. -/
theorem outcome_patchMachine (hup : env.Healthy) (hwf : before.WellFormed)
    (hstored : env.tenant.machines (after.metadata.ns.getD "") after.metadata.displayName =
      some before) :
    ∃ patches r, env.outcome (patchMachine before after action) =
        (.ok (), { env with tenant := { env.tenant with
          machines :=
            env.tenant.machines.put (after.metadata.ns.getD "") after.metadata.displayName r
          machinePatches := patches } : Environment }.unlogged) ∧
      r.WellFormed ∧ r.metadata.name = before.metadata.name ∧ r.metadata.ns = before.metadata.ns ∧
      r.spec.providerSpec = before.spec.providerSpec ∧ r.status = before.status ∧
      r.metadata.labels.getD .empty = after.metadata.labels.getD .empty ∧
      r.metadata.annotations.getD .empty = after.metadata.annotations.getD .empty ∧
      r.spec.providerId = after.spec.providerId := by
  unfold patchMachine
  cases hpatch : Machine.patch? before after with
  | none =>
    obtain ⟨⟨hannotations, hlabels⟩, hid⟩ := Machine.patch?_eq_none_iff.mp hpatch
    refine ⟨env.tenant.machinePatches, before, ?_, hwf, rfl, rfl, rfl, rfl, hlabels, hannotations,
      hid⟩
    rw [Store.put_of_eq_some hstored]
    rfl
  | some patch =>
    obtain ⟨r, hr, hrebased⟩ := Machine.exists_rebased hwf hpatch
    obtain ⟨hlabels, hannotations, hid⟩ := hrebased.of_unchanged
    have hother := hrebased.others
    refine ⟨env.tenant.machinePatches ++ [patch], r, ?_, Machine.wellFormed_of_ofJson? hr,
      by rw [hother]; rfl, by rw [hother]; rfl, by rw [hother]; rfl, by rw [hother]; rfl, hlabels,
      hannotations, hid⟩
    exact (Environment.outcome_bind (Environment.outcome_tenant
      (TenantCluster.answer_patchMachine (hup.tenant _) hstored hr)) _).trans rfl

/-- The second half: the stored machine `stored`, whose status is the one that was read, takes over
the status. -/
theorem outcome_patchStatus {stored : Machine} (hup : env.Healthy) (hnow : env.now.Valid)
    (hwf : stored.WellFormed) (hsame : stored.status = before.status)
    (hstored : env.tenant.machines (after.metadata.ns.getD "") after.metadata.displayName =
      some stored) (hs : (after.status.getD {}).providerStatus = some status.toJson) :
    ∃ patches r, env.outcome (patchStatus before after action env.now) =
        (.ok (), { env with tenant := { env.tenant with
          machines :=
            env.tenant.machines.put (after.metadata.ns.getD "") after.metadata.displayName r
          statusPatches := patches } : Environment }.unlogged) ∧
      r.WellFormed ∧ r.metadata.name = stored.metadata.name ∧ r.metadata.ns = stored.metadata.ns ∧
      r.metadata.labels = stored.metadata.labels ∧
      r.metadata.annotations = stored.metadata.annotations ∧ r.spec = stored.spec ∧
      (r.status.getD {}).addresses = (after.status.getD {}).addresses ∧
      (r.status.getD {}).providerStatus =
        some (Json.mergePatch ((before.status.getD {}).providerStatus.getD .null)
          status.toJson) := by
  unfold patchStatus
  cases hpatch : Machine.statusPatch? before after env.now with
  | none =>
    obtain ⟨haddresses, hdocument⟩ := (Machine.statusPatch?_eq_none_iff hs).mp hpatch
    refine ⟨env.tenant.statusPatches, stored, ?_, hwf, rfl, rfl, rfl, rfl, rfl, ?_, ?_⟩
    · rw [Store.put_of_eq_some hstored]
      rfl
    · rw [hsame, haddresses]
    · rw [hsame, hdocument, hs, Option.getD_some,
        (ProviderStatus.mergePatch_toJson_iff status.sorted_toJson status).mpr
          status.closed_toJson]
  | some patch =>
    have hr := Machine.ofJson?_statusPatch hwf.metadata hwf.providerSpec_ne_null hsame hs hnow
      hpatch
    refine ⟨env.tenant.statusPatches ++ [patch], _, ?_, Machine.wellFormed_of_ofJson? hr, rfl, rfl,
      rfl, rfl, rfl, rfl, rfl⟩
    exact (Environment.outcome_bind (Environment.outcome_tenant
      (TenantCluster.answer_patchMachineStatus (hup.tenant _) hstored hr)) _).trans rfl

theorem outcome_persist (hup : env.Healthy) (hnow : env.now.Valid) (hwf : before.WellFormed)
    (hstored : env.tenant.machines (after.metadata.ns.getD "") after.metadata.displayName =
      some before) (hs : (after.status.getD {}).providerStatus = some status.toJson) :
    ∃ c r, env.outcome (persist before after action) =
        (.ok (), { env with tenant := c : Environment }.unlogged) ∧
      Persisted before after status env.tenant c r := by
  obtain ⟨patches, mid, hmid, hmidWf, hname, hns, hspec, hsame, hlabels, hannotations, hid⟩ :=
    outcome_patchMachine action hup hwf hstored
  have hmidUp : Environment.Healthy { env with tenant := { env.tenant with
      machines :=
        env.tenant.machines.put (after.metadata.ns.getD "") after.metadata.displayName mid
      machinePatches := patches } } := ⟨hup.infra, hup.tenant⟩
  obtain ⟨statusPatches, r, hr, hrWf, hrName, hrNs, hrLabels, hrAnnotations, hrSpec, haddresses,
    hdocument⟩ := outcome_patchStatus action hmidUp hnow hmidWf hsame (Store.put_same _ _ _ _) hs
  dsimp only at hr
  rw [Store.put_put] at hr
  refine ⟨{ env.tenant with
    machines := env.tenant.machines.put (after.metadata.ns.getD "") after.metadata.displayName r
    machinePatches := patches
    statusPatches }, r, ?_, ⟨rfl, hrWf, hrName.trans hname, hrNs.trans hns, ?_, ?_, ?_, ?_,
    haddresses, hdocument⟩⟩
  · unfold persist
    refine (Environment.outcome_bind (Environment.outcome_log _ _) _).trans ?_
    refine (Environment.outcome_bind hmid _).trans ?_
    refine (Environment.outcome_bind Environment.outcome_now _).trans ?_
    exact hr
  · rw [hrSpec, hspec]
  · rw [hrLabels, hlabels]
  · rw [hrAnnotations, hannotations]
  · rw [hrSpec, hid]

theorem outcome_persist_same (hpatch : Machine.patch? before after = none)
    (hstatus : Machine.statusPatch? before after env.now = none) :
    env.outcome (persist before after action) = (.ok (), env.unlogged) := by
  unfold persist
  refine (Environment.outcome_bind (Environment.outcome_log _ _) _).trans ?_
  unfold patchMachine
  rw [hpatch]
  refine (Environment.outcome_bind (Environment.outcome_pure _) _).trans ?_
  refine (Environment.outcome_bind Environment.outcome_now _).trans ?_
  unfold patchStatus
  rw [hstatus]
  rfl

end Operation

end MachineActuator
