import Mathlib
import MachineActuator.Proofs.Machine.Failure
import MachineActuator.Proofs.Machine.Secret

/-! # Provider ids that are written back

A provider id is one field of what a machine asks for, and a merge patch writes it or leaves it.  So
a patch carries the provider id that is wanted, if it differs (`Operation.only_persist_writesBack`),
and once both patches have been sent the machine that is stored has it
(`Operation.leads_persist_stored`). -/

namespace MachineActuator

/-! ### Patches with provider ids -/

/-- The provider id that an effect is to write. -/
def Effect.providerId? : Effect → Option String
  | .tenant (.patchNodeProviderId _ providerId) => some providerId
  | .tenant (.patchMachine _ _ patch) | .tenant (.patchMachineStatus _ _ patch) =>
    patch.get? "spec" >>= (·.get? "providerID") >>= Json.str?
  | _ => none

/-- The effect writes no provider id but this one. -/
def Effect.CarriesOnly (providerId : String) (e : Effect) : Prop :=
  ∀ other, e.providerId? = some other → other = providerId

theorem Effect.carriesOnly_of_none {e : Effect} (h : e.providerId? = none) (providerId : String) :
    e.CarriesOnly providerId := fun other hother => by simp [h] at hother

namespace MachineSpec

theorem exists_toJson (s : MachineSpec) : ∃ fields, s.toJson = .obj fields ∧
    Entries.find? "providerID" fields = s.providerId.map .str :=
  ⟨_, Json.ofFields_eq_present _, by simp⟩

theorem providerId_of_ofJson? {fields : List (String × Json)}
    {s : MachineSpec} {providerId : Option String} (h : ofJson? (.obj fields) = some s)
    (hfind : Entries.find? "providerID" fields = providerId.map .str) :
    s.providerId = providerId := by
  unfold ofJson? at h
  obtain ⟨read, hread, h⟩ := Option.bind_eq_some_iff.mp h
  obtain ⟨document, -, h⟩ := Option.bind_eq_some_iff.mp h
  obtain ⟨id, hid, h⟩ := Option.bind_eq_some_iff.mp h
  obtain rfl := Option.some.inj h
  obtain rfl := Option.some.inj hread
  rw [Json.optional_str hfind] at hid
  exact (Option.some.inj hid).symm

end MachineSpec

namespace Machine

variable {before after stored r : Machine} {patch : Json}

theorem spec_of_ofJson? {fields : List (String × Json)} {spec : Json}
    (h : ofJson? (.obj fields) = some r) (hfind : Entries.find? "spec" fields = some spec) :
    MachineSpec.ofJson? spec = some r.spec := by
  unfold ofJson? at h
  obtain ⟨read, hread, h⟩ := Option.bind_eq_some_iff.mp h
  obtain ⟨metadata, -, h⟩ := Option.bind_eq_some_iff.mp h
  obtain ⟨s, hs, h⟩ := Option.bind_eq_some_iff.mp h
  obtain ⟨status, -, h⟩ := Option.bind_eq_some_iff.mp h
  obtain rfl := Option.some.inj h
  obtain rfl := Option.some.inj hread
  rwa [Json.required_of_find? hfind] at hs

theorem exists_of_patch? (h : patch? before after = some patch) :
    ∃ fields, patch = .obj fields ∧ Entries.Sorted fields ∧
      Entries.find? "spec" fields =
        providerIdPatch? before.spec.providerId after.spec.providerId := by
  rw [patch?_eq] at h
  obtain rfl := Json.eq_of_nonemptyFields? h
  exact ⟨_, rfl, Json.sorted_present _ (show ["metadata", "spec"].Pairwise (· < ·) by decide),
    by simp⟩

/-- A patched machine has the provider id that is wanted, if that differs. -/
theorem providerId_of_patch? (hpatch : patch? before after = some patch)
    (h : ofJson? (stored.toJson.mergePatch patch) = some r) :
    r.spec.providerId = if before.spec.providerId = after.spec.providerId
      then stored.spec.providerId else after.spec.providerId := by
  obtain ⟨changes, rfl, hsorted, hchange⟩ := exists_of_patch? hpatch
  obtain ⟨fields, hobj, -, hspec, -⟩ := stored.exists_toJson
  rw [hobj, Json.mergePatch_obj] at h
  have hmerged := Json.find?_mergeFields hsorted fields "spec"
  rw [hspec, hchange] at hmerged
  obtain ⟨specFields, hspecObj, hid⟩ := stored.spec.exists_toJson
  rw [hspecObj] at hmerged
  unfold providerIdPatch? at hmerged
  split_ifs at hmerged ⊢ with hsame
  · exact MachineSpec.providerId_of_ofJson? (spec_of_ofJson? h hmerged) hid
  · rw [Json.mergedField_of_ne_null (by simp [Json.field]), Option.getD_some] at hmerged
    refine MachineSpec.providerId_of_ofJson? (spec_of_ofJson? h (hmerged.trans (congrArg some
      (Json.mergePatch_obj _ _)))) ?_
    rw [Json.find?_mergeFields (List.pairwise_singleton _ _), hid]
    cases after.spec.providerId with
    | none => rfl
    | some id => exact congrArg some (Json.mergePatch_of_not_obj (by simp) _)

theorem providerId_of_statusPatch? {now : Instant}
    (hpatch : statusPatch? before after now = some patch)
    (h : ofJson? (stored.toJson.mergePatch patch) = some r) :
    r.spec.providerId = stored.spec.providerId := by
  obtain ⟨status, rfl⟩ : ∃ status, patch = .obj [("status", status)] := by
    obtain ⟨-, hsent⟩ := Option.ite_none_left_eq_some.mp hpatch
    exact ⟨_, (Option.some.inj hsent).symm⟩
  obtain ⟨fields, hobj, -, hspec, -⟩ := stored.exists_toJson
  rw [hobj, Json.mergePatch_obj] at h
  have hmerged : Entries.find? "spec" (Json.mergeFields fields [("status", status)]) =
      some stored.spec.toJson := by
    rw [Json.find?_mergeFields (List.pairwise_singleton _ _), hspec]
    rfl
  obtain ⟨specFields, hspecObj, hid⟩ := stored.spec.exists_toJson
  rw [hspecObj] at hmerged
  exact MachineSpec.providerId_of_ofJson? (spec_of_ofJson? h hmerged) hid

end Machine

namespace TenantCluster

variable {c : TenantCluster} {ns name : String} {patch : Json} {r : Machine}

theorem stored_of_applyPatch (h : (c.applyPatch ns name patch).1 = .ok r) :
    ∃ stored, c.machines ns name = some stored ∧
      Machine.ofJson? (stored.toJson.mergePatch patch) = some r ∧
      (c.applyPatch ns name patch).2.machines ns name = some r := by
  unfold applyPatch at h ⊢
  cases hstored : c.machines ns name with
  | none =>
    rw [hstored] at h
    cases h
  | some stored =>
    rw [hstored] at h
    dsimp only at h ⊢
    cases hread : Machine.ofJson? (stored.toJson.mergePatch patch) with
    | none =>
      rw [hread] at h
      cases h
    | some patched =>
      rw [hread] at h
      obtain rfl := Except.ok.inj h
      exact ⟨stored, rfl, hread, Store.put_same _ _ _ _⟩

/-- A patch that succeeds is merged into what was stored. -/
theorem stored_of_patchMachine (h : (c.answer (.patchMachine ns name patch)).1 = .ok r) :
    ∃ stored, c.machines ns name = some stored ∧
      Machine.ofJson? (stored.toJson.mergePatch patch) = some r ∧
      (c.answer (.patchMachine ns name patch)).2.machines ns name = some r := by
  unfold answer at h ⊢
  cases hfailure : c.failures (TenantCall.patchMachine ns name patch).operation with
  | some text =>
    rw [hfailure] at h
    cases h
  | none =>
    rw [hfailure] at h
    exact stored_of_applyPatch (c := { c with machinePatches := c.machinePatches ++ [patch] }) h

theorem stored_of_patchMachineStatus
    (h : (c.answer (.patchMachineStatus ns name patch)).1 = .ok r) :
    ∃ stored, c.machines ns name = some stored ∧
      Machine.ofJson? (stored.toJson.mergePatch patch) = some r ∧
      (c.answer (.patchMachineStatus ns name patch)).2.machines ns name = some r := by
  unfold answer at h ⊢
  cases hfailure : c.failures (TenantCall.patchMachineStatus ns name patch).operation with
  | some text =>
    rw [hfailure] at h
    cases h
  | none =>
    rw [hfailure] at h
    exact stored_of_applyPatch (c := { c with statusPatches := c.statusPatches ++ [patch] }) h

end TenantCluster
open Program (Only leads_effect leads_pure only_effect only_pure)

namespace Operation

open Lifecycle (Alone IfOk stable_alone leads_log)

/-! ### What is written back -/

section Persist

variable {before after : Machine} {action : MachineAction}

/-- What is written back carries the provider id of the machine, and only if it differs. -/
def WritesBack (before after : Machine) (e : Effect) : Prop :=
  ∀ providerId, e.providerId? = some providerId →
    before.spec.providerId ≠ after.spec.providerId ∧ after.spec.providerId = some providerId

theorem writesBack_patchMachine {patch : Json} (h : Machine.patch? before after = some patch)
    (ns name : String) : WritesBack before after (.tenant (.patchMachine ns name patch)) := by
  obtain ⟨fields, rfl, -, hspec⟩ := Machine.exists_of_patch? h
  intro providerId hid
  have hid : Machine.providerIdPatch? before.spec.providerId after.spec.providerId >>=
      (·.get? "providerID") >>= Json.str? = some providerId := by
    rw [← hspec]
    exact hid
  unfold Machine.providerIdPatch? at hid
  split_ifs at hid with hsame
  · cases hid
  · refine ⟨hsame, ?_⟩
    cases hafter : after.spec.providerId with
    | none =>
      rw [hafter] at hid
      cases hid
    | some id =>
      rw [hafter] at hid
      exact hid

theorem writesBack_patchStatus {patch : Json} {now : Instant}
    (h : Machine.statusPatch? before after now = some patch) (ns name : String) :
    WritesBack before after (.tenant (.patchMachineStatus ns name patch)) := by
  obtain ⟨-, hsent⟩ := Option.ite_none_left_eq_some.mp h
  obtain rfl := Option.some.inj hsent
  intro providerId hid
  cases hid

theorem only_persist_writesBack : (persist before after action).Only (WritesBack before after) := by
  have hquiet {e : Effect} (he : e.providerId? = none) : WritesBack before after e :=
    fun _ h => by simp [he] at h
  unfold persist
  refine Only.bind (only_effect (hquiet rfl)) fun _ => ?_
  have hpatch : (patchMachine before after action).Only (WritesBack before after) := by
    unfold patchMachine
    cases hpatch : Machine.patch? before after with
    | none => exact only_pure _
    | some patch =>
      refine Only.bind (only_effect (writesBack_patchMachine hpatch _ _)) fun answer => ?_
      cases answer with
      | ok _ => exact only_pure _
      | error e => exact only_pure _
  refine hpatch.bind fun result => ?_
  cases result with
  | error e => exact only_pure _
  | ok _ =>
    refine Only.bind (only_effect (hquiet rfl)) fun now => ?_
    unfold patchStatus
    cases hstatus : Machine.statusPatch? before after now with
    | none => exact only_pure _
    | some patch =>
      refine Only.bind (only_effect (writesBack_patchStatus hstatus _ _)) fun answer => ?_
      cases answer with
      | ok _ => exact only_pure _
      | error e => exact only_pure _

end Persist
/-! ### What is stored afterwards -/

section Leads

variable {before after : Machine} {action : MachineAction}

/-- The machine that is stored has this provider id. -/
def StoredWith (ns name : String) (providerId : Option String) (env : Environment) : Prop :=
  ∃ r, env.tenant.machines ns name = some r ∧ r.spec.providerId = providerId

theorem leads_patchMachine_stored :
    (patchMachine before after action).Leads Alone
      (fun env => env.tenant.machines (after.metadata.ns.getD "") after.metadata.displayName =
        some before)
      (IfOk fun _ => StoredWith (after.metadata.ns.getD "") after.metadata.displayName
        after.spec.providerId) := by
  unfold patchMachine
  cases hpatch : Machine.patch? before after with
  | none =>
    refine leads_pure (stable_alone _) fun env hstored _ _ => ⟨before, hstored, ?_⟩
    exact (Machine.patch?_eq_none_iff.mp hpatch).2
  | some patch =>
    have hcall : (Program.tenant (.patchMachine (after.metadata.ns.getD "")
        after.metadata.displayName patch)).Leads Alone
          (fun env => env.tenant.machines (after.metadata.ns.getD "") after.metadata.displayName =
            some before) fun answer env => ∀ r, answer = .ok r →
              StoredWith (after.metadata.ns.getD "") after.metadata.displayName
                after.spec.providerId env := by
      refine leads_effect (stable_alone _) (fun _ => stable_alone _) fun env hstored r hr => ?_
      obtain ⟨stored, hold, hread, hnew⟩ := TenantCluster.stored_of_patchMachine hr
      obtain rfl := Option.some.inj (hold.symm.trans hstored)
      refine ⟨r, hnew, ?_⟩
      rw [Machine.providerId_of_patch? hpatch hread]
      split_ifs with hsame
      · exact hsame
      · rfl
    refine hcall.bind fun answer => ?_
    cases answer with
    | ok r => exact leads_pure (stable_alone _) fun env h _ _ => h r rfl
    | error e => exact leads_pure (stable_alone _) fun _ _ _ h => by cases h

theorem leads_patchStatus_stored {providerId : Option String} (now : Instant) :
    (patchStatus before after action now).Leads Alone
      (StoredWith (after.metadata.ns.getD "") after.metadata.displayName providerId)
      (IfOk fun _ => StoredWith (after.metadata.ns.getD "") after.metadata.displayName
        providerId) := by
  unfold patchStatus
  cases hpatch : Machine.statusPatch? before after now with
  | none => exact leads_pure (stable_alone _) fun env hstored _ _ => hstored
  | some patch =>
    have hcall : (Program.tenant (.patchMachineStatus (after.metadata.ns.getD "")
        after.metadata.displayName patch)).Leads Alone
          (StoredWith (after.metadata.ns.getD "") after.metadata.displayName providerId)
          fun answer env => ∀ r, answer = .ok r →
            StoredWith (after.metadata.ns.getD "") after.metadata.displayName providerId env := by
      refine leads_effect (stable_alone _) (fun _ => stable_alone _) ?_
      rintro env ⟨known, hknown, hid⟩ r hr
      obtain ⟨stored, hold, hread, hnew⟩ := TenantCluster.stored_of_patchMachineStatus hr
      obtain rfl := Option.some.inj (hold.symm.trans hknown)
      exact ⟨r, hnew, (Machine.providerId_of_statusPatch? hpatch hread).trans hid⟩
    refine hcall.bind fun answer => ?_
    cases answer with
    | ok r => exact leads_pure (stable_alone _) fun env h _ _ => h r rfl
    | error e => exact leads_pure (stable_alone _) fun _ _ _ h => by cases h

/-- Once a changed machine has been written back, the one that is stored has its provider id. -/
theorem leads_persist_stored :
    (persist before after action).Leads Alone
      (fun env => env.tenant.machines (after.metadata.ns.getD "") after.metadata.displayName =
        some before)
      (IfOk fun _ => StoredWith (after.metadata.ns.getD "") after.metadata.displayName
        after.spec.providerId) := by
  unfold persist
  refine (leads_log (stable_alone _) (fun _ _ h => h) _ _).bind fun _ => ?_
  refine leads_patchMachine_stored.bind fun result => ?_
  cases result with
  | error e => exact leads_pure (stable_alone _) fun _ _ _ h => by cases h
  | ok _ =>
    have hnow : Program.now.Leads Alone
        (IfOk (fun _ => StoredWith (after.metadata.ns.getD "") after.metadata.displayName
          after.spec.providerId) (.ok ()))
        fun _ => StoredWith (after.metadata.ns.getD "") after.metadata.displayName
          after.spec.providerId :=
      leads_effect (stable_alone _) (fun _ => stable_alone _) fun env h => h () rfl
    exact hnow.bind fun now => leads_patchStatus_stored now

end Leads

end Operation

end MachineActuator
