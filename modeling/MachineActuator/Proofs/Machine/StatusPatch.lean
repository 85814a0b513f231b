import Mathlib
import MachineActuator.Machine.Sync
import MachineActuator.Proofs.Machine.Patch

/-! # Patches of the status

The patch of the status carries the addresses and the provider status where they differ.  Merged
into the status that was read, the addresses replace the old ones, but the provider status merges
into the old document (`Machine.ofJson?_statusPatch`).  So the old document must have no fields of
its own for the new one to be what is stored (`ProviderStatus.mergePatch_toJson_iff`); otherwise
the next comparison finds a difference again, and the status is written and stamped once more
(`Machine.statusPatch_lands_iff`). -/

namespace MachineActuator

/-! ### Comparing documents -/

namespace Json

theorem same_bool_iff {v : Json} {b : Bool} : v.same (.bool b) = true ↔ v = .bool b := by
  cases v <;> simp [same]

theorem same_obj_iff {v : Json} {fields : List (String × Json)} :
    v.same (.obj fields) = true ↔ ∃ other, v = .obj other ∧ sameFields other fields = true := by
  cases v <;> simp [same]

theorem sameFields_nil_iff {other : List (String × Json)} :
    sameFields other [] = true ↔ other = [] := by
  cases other <;> simp [sameFields]

theorem sameFields_cons_iff {other rest : List (String × Json)} {k : String} {w : Json} :
    sameFields other ((k, w) :: rest) = true ↔
      ∃ v xs, other = (k, v) :: xs ∧ v.same w = true ∧ sameFields xs rest = true := by
  cases other with
  | nil => simp [sameFields]
  | cons e xs =>
    obtain ⟨l, v⟩ := e
    simp only [sameFields, Bool.and_eq_true, beq_iff_eq, List.cons.injEq, Prod.mk.injEq]
    constructor
    · rintro ⟨⟨rfl, hv⟩, hxs⟩
      exact ⟨v, xs, ⟨⟨rfl, rfl⟩, rfl⟩, hv, hxs⟩
    · rintro ⟨_, _, ⟨⟨rfl, rfl⟩, rfl⟩, hv, hxs⟩
      exact ⟨⟨rfl, hv⟩, hxs⟩

end Json

namespace ProviderStatus

theorem toJson_eq (s : ProviderStatus) : s.toJson =
    .obj [("virtualMachineStatus", .obj [("created", .bool s.virtualMachineStatus.created),
      ("ready", .bool s.virtualMachineStatus.ready)])] := rfl

/-- A provider status has no numbers, so comparing with one is equality. -/
theorem same_toJson_iff {v : Json} {s : ProviderStatus} :
    v.same s.toJson = true ↔ v = s.toJson := by
  rw [toJson_eq]
  constructor
  · intro h
    obtain ⟨fields, rfl, houter⟩ := Json.same_obj_iff.mp h
    obtain ⟨w, rest, rfl, hw, hrest⟩ := Json.sameFields_cons_iff.mp houter
    obtain rfl := Json.sameFields_nil_iff.mp hrest
    obtain ⟨inner, rfl, hinner⟩ := Json.same_obj_iff.mp hw
    obtain ⟨created, rest, rfl, hcreated, hrest⟩ := Json.sameFields_cons_iff.mp hinner
    obtain ⟨ready, rest, rfl, hready, hrest⟩ := Json.sameFields_cons_iff.mp hrest
    obtain rfl := Json.sameFields_nil_iff.mp hrest
    rw [Json.same_bool_iff.mp hcreated, Json.same_bool_iff.mp hready]
  · rintro rfl
    simp [Json.same, Json.sameFields]

theorem sameOption_toJson {d : Option Json} {s : ProviderStatus} :
    Json.sameOption Json.same d (some s.toJson) = decide (d = some s.toJson) := by
  rw [Bool.eq_iff_iff, decide_eq_true_eq]
  cases d with
  | none => simp [Json.sameOption]
  | some v => simp [Json.sameOption, same_toJson_iff]

end ProviderStatus

/-! ### Merging into an old document -/

theorem VirtualMachineStatus.sorted_fields (s : VirtualMachineStatus) :
    Entries.Sorted [("created", Json.bool s.created), ("ready", .bool s.ready)] :=
  List.pairwise_pair.mpr (show "created" < "ready" by decide)

theorem VirtualMachineStatus.mergePatch_toJson_iff {w : Json} (hw : w.Sorted)
    (s : VirtualMachineStatus) :
    Json.mergePatch w s.toJson = s.toJson ↔
      ∀ key, key ≠ "created" → key ≠ "ready" → w.get? key = none := by
  rw [show s.toJson = .obj [("created", .bool s.created), ("ready", .bool s.ready)] from rfl,
    Json.mergePatch_eq_patch_iff hw s.sorted_fields
      (fun key => by simp only [Entries.find?_cons]; split_ifs <;> simp)]
  constructor
  · rintro ⟨hnone, -⟩ key hc hr
    exact hnone key (by simp [Entries.find?_cons, hc, hr])
  · intro h
    refine ⟨?_, ?_⟩
    · intro key hkey
      simp only [Entries.find?_cons] at hkey
      split_ifs at hkey with hc hr
      exact h key hc hr
    · intro key p hp
      simp only [Entries.find?_cons] at hp
      split_ifs at hp
      · obtain rfl := Option.some.inj hp
        exact Json.mergePatch_of_not_obj (by simp) _
      · obtain rfl := Option.some.inj hp
        exact Json.mergePatch_of_not_obj (by simp) _
      · simp at hp

namespace ProviderStatus

/-- A document without fields that a provider status does not have. -/
structure Closed (v : Json) : Prop where
  outer : ∀ key, key ≠ "virtualMachineStatus" → v.get? key = none
  inner : ∀ w, v.get? "virtualMachineStatus" = some w →
    ∀ key, key ≠ "created" → key ≠ "ready" → w.get? key = none

theorem sorted_toJson (s : ProviderStatus) : s.toJson.Sorted := by
  rw [toJson_eq]
  unfold Json.Sorted
  refine ⟨List.pairwise_singleton _ _, ?_⟩
  unfold Json.SortedFields
  refine ⟨?_, trivial⟩
  unfold Json.Sorted
  exact ⟨s.virtualMachineStatus.sorted_fields, trivial, trivial, trivial⟩

theorem closed_toJson (s : ProviderStatus) : Closed s.toJson := by
  rw [toJson_eq]
  refine ⟨?_, ?_⟩
  · intro key hk
    simp [Json.get?, Entries.find?_cons, hk]
  · intro w hw key hc hr
    obtain rfl := Option.some.inj hw
    simp [Json.get?, Entries.find?_cons, hc, hr]

/-- A provider status is what is stored exactly when the old document has no fields of its own. -/
theorem mergePatch_toJson_iff {v : Json} (hv : v.Sorted) (s : ProviderStatus) :
    Json.mergePatch v s.toJson = s.toJson ↔ Closed v := by
  have hold : ((v.get? "virtualMachineStatus").getD .null).Sorted := by
    cases h : v.get? "virtualMachineStatus" with
    | none => trivial
    | some w => exact hv.of_get? h
  have hinner := VirtualMachineStatus.mergePatch_toJson_iff hold s.virtualMachineStatus
  rw [show s.toJson = .obj [("virtualMachineStatus", s.virtualMachineStatus.toJson)] from rfl,
    Json.mergePatch_eq_patch_iff hv (List.pairwise_singleton _ _)
      (fun key => by
        simp only [Entries.find?_cons]
        split_ifs <;> simp [VirtualMachineStatus.toJson, Json.ofFields])]
  constructor
  · rintro ⟨hnone, hshared⟩
    refine ⟨fun key hk => hnone key (by simp [Entries.find?_cons, hk]), ?_⟩
    intro w hw
    have h := hinner.mp (hshared "virtualMachineStatus" _ rfl)
    rw [hw] at h
    exact h
  · intro h
    refine ⟨?_, ?_⟩
    · intro key hkey
      simp only [Entries.find?_cons] at hkey
      split_ifs at hkey with hk
      exact h.outer key hk
    · intro key p hp
      simp only [Entries.find?_cons] at hp
      split_ifs at hp with hk
      · obtain rfl := Option.some.inj hp
        rw [hk]
        refine hinner.mpr ?_
        cases hw : v.get? "virtualMachineStatus" with
        | none => exact fun _ _ _ => rfl
        | some w => exact h.inner w hw
      · simp at hp

/-- Whatever the old document is, the status is there after the merge. -/
theorem get?_mergePatch_toJson (old : Json) (s : ProviderStatus) :
    ∃ v, (Json.mergePatch old s.toJson).get? "virtualMachineStatus" = some v ∧
      v.get? "created" = some (.bool s.virtualMachineStatus.created) ∧
      v.get? "ready" = some (.bool s.virtualMachineStatus.ready) := by
  have hsorted := s.virtualMachineStatus.sorted_fields
  have hbool (w : Json) (b : Bool) : Json.mergePatch w (.bool b) = .bool b :=
    Json.mergePatch_of_not_obj (by simp) w
  rw [toJson_eq]
  refine ⟨_, Json.get?_mergePatch old (List.pairwise_singleton _ _) (by simp) rfl, ?_, ?_⟩
  · exact (Json.get?_mergePatch _ hsorted (by simp) rfl).trans (congrArg some (hbool _ _))
  · exact (Json.get?_mergePatch _ hsorted (by simp) rfl).trans (congrArg some (hbool _ _))

end ProviderStatus

/-! ### The patch -/

namespace Machine

variable {before after : Machine} {s : ProviderStatus} {now : Instant}

/-- What a patch carries of the addresses. -/
def addressesPatch? (known wanted : List NodeAddress) : Option Json :=
  if known = wanted then none else some (Json.ofList NodeAddress.toJson wanted)

/-- What a patch carries of the provider status. -/
def documentPatch? (known : Option Json) (wanted : Json) : Option Json :=
  if known = some wanted then none else some wanted

theorem statusPatch?_eq (hs : (after.status.getD {}).providerStatus = some s.toJson) :
    statusPatch? before after now =
      if (before.status.getD {}).addresses = (after.status.getD {}).addresses ∧
          (before.status.getD {}).providerStatus = some s.toJson then none
      else some (.obj [("status", .obj (Json.present
        [("addresses", addressesPatch? (before.status.getD {}).addresses
            (after.status.getD {}).addresses),
         ("lastUpdated", some (.str (Rfc3339.writeWhole now))),
         ("providerStatus", documentPatch? (before.status.getD {}).providerStatus s.toJson)]))])
      := by
  unfold statusPatch? addressesPatch? documentPatch?
  dsimp only
  rw [hs, ProviderStatus.sameOption_toJson]
  by_cases ha : (before.status.getD {}).addresses = (after.status.getD {}).addresses
  · by_cases hd : (before.status.getD {}).providerStatus = some s.toJson
    · simp [ha, hd]
    · simp only [ha, hd, decide_false, if_true, and_false, if_false]
      rfl
  · simp only [ha, false_and, if_false, decide_eq_true_eq]
    rfl

theorem statusPatch?_self (m : Machine) (now : Instant) : statusPatch? m m now = none := by
  unfold statusPatch?
  dsimp only
  rw [Json.sameOption_refl Json.same_refl]
  simp

theorem statusPatch?_eq_none_iff (hs : (after.status.getD {}).providerStatus = some s.toJson) :
    statusPatch? before after now = none ↔
      (before.status.getD {}).addresses = (after.status.getD {}).addresses ∧
        (before.status.getD {}).providerStatus = (after.status.getD {}).providerStatus := by
  rw [statusPatch?_eq hs, hs]
  split_ifs with h <;> simp [h]

/-- A status merges as its fields do; where there is none, like one without fields. -/
theorem mergedField_status (status : Option MachineStatus) (patch : List (String × Json)) :
    Json.mergedField (status.map MachineStatus.toJson) (some (.obj patch)) =
      some (.obj (Json.mergeFields (Json.present
        [("addresses", Json.ofNonempty NodeAddress.toJson (status.getD {}).addresses),
         ("lastUpdated", (status.getD {}).lastUpdated.map fun t => .str (Rfc3339.write t)),
         ("providerStatus", (status.getD {}).providerStatus)]) patch)) := by
  rw [Json.mergedField_of_ne_null (by simp)]
  cases status with
  | none => exact congrArg some (Json.mergePatch_null_obj patch)
  | some known => exact congrArg some (Json.mergePatch_obj _ patch)

theorem orElse_mergedAddresses (known : List NodeAddress) {wanted : List NodeAddress}
    {fields : List (String × Json)}
    (h : Entries.find? "addresses" fields =
      Json.mergedField (Json.ofNonempty NodeAddress.toJson known)
        (addressesPatch? known wanted)) :
    Json.orElse fields "addresses" (Json.list? NodeAddress.ofJson?) [] = some wanted := by
  unfold addressesPatch? at h
  split_ifs at h with heq
  · subst heq
    cases known with
    | nil => exact Json.orElse_of_none h
    | cons a rest => exact (Json.orElse_of_some h).trans (Json.list?_addresses _)
  · rw [Json.mergedField_of_ne_null (Json.ofList_ne_null _ _),
      Json.mergePatch_of_not_obj (by simp [Json.ofList])] at h
    exact (Json.orElse_of_some h).trans (Json.list?_addresses wanted)

theorem optional_mergedDocument {fields : List (String × Json)} {known : Option Json}
    (h : Entries.find? "providerStatus" fields =
      Json.mergedField known (documentPatch? known s.toJson)) :
    Json.optional fields "providerStatus" some =
      some (some (Json.mergePatch (known.getD .null) s.toJson)) := by
  have hnull (v : Json) : Json.mergePatch v s.toJson ≠ .null := by
    cases v <;> simp [ProviderStatus.toJson_eq, Json.mergePatch]
  unfold documentPatch? at h
  split_ifs at h with heq
  · subst heq
    rw [Option.getD_some, (ProviderStatus.mergePatch_toJson_iff s.sorted_toJson s).mpr
      s.closed_toJson]
    exact Json.optional_of_some h (by simp [ProviderStatus.toJson_eq]) rfl
  · rw [Json.mergedField_of_ne_null (by simp [ProviderStatus.toJson_eq])] at h
    exact Json.optional_of_some h (hnull _) rfl

/-- What is stored once the patch of the status is merged into a machine with the status that was
read. -/
theorem ofJson?_statusPatch {stored : Machine} {patch : Json}
    (hmetadata : stored.metadata.WellFormed) (hspec : stored.spec.providerSpec ≠ some .null)
    (hsame : stored.status = before.status)
    (hs : (after.status.getD {}).providerStatus = some s.toJson) (hnow : now.Valid)
    (hpatch : statusPatch? before after now = some patch) :
    ofJson? (stored.toJson.mergePatch patch) =
      some { stored.wholeSeconds with
        status := some
          { addresses := (after.status.getD {}).addresses
            lastUpdated := some now.wholeSecond
            providerStatus := some (Json.mergePatch
              ((before.status.getD {}).providerStatus.getD .null) s.toJson) } } := by
  rw [statusPatch?_eq hs] at hpatch
  split_ifs at hpatch
  obtain rfl := Option.some.inj hpatch
  obtain ⟨specFields, hobj, hread, -⟩ := MachineSpec.readFrom_toJson hspec
  refine ofJson?_mergePatch (List.pairwise_singleton _ _) rfl (ObjectMeta.ofJson?_toJson hmetadata)
    rfl (hobj ▸ MachineSpec.ofJson?_of_readFrom hread) fun fields hstatus => ?_
  rw [show Entries.find? "status" [("status", _)] = some _ from rfl, hsame,
    mergedField_status] at hstatus
  refine Json.optional_of_some hstatus (by simp) (MachineStatus.ofJson?_of_readFrom ?_)
  have hfind := Json.find?_mergeFields (Json.sorted_present
    [("addresses", addressesPatch? (before.status.getD {}).addresses
        (after.status.getD {}).addresses),
     ("lastUpdated", some (.str (Rfc3339.writeWhole now))),
     ("providerStatus", documentPatch? (before.status.getD {}).providerStatus s.toJson)]
    (show ["addresses", "lastUpdated", "providerStatus"].Pairwise (· < ·) by decide))
  constructor
  · exact orElse_mergedAddresses (before.status.getD {}).addresses
      ((hfind _ _).trans (by simp))
  · refine Json.optional_of_some (v := .ofWholeTime now) ((hfind _ _).trans ?_)
      (by simp [Json.ofWholeTime]) (Json.time?_ofWholeTime hnow)
    simp [Json.ofWholeTime, Json.mergedField, Json.mergePatch]
  · exact optional_mergedDocument ((hfind _ _).trans (by simp))

end Machine

/-! ### Persisting the status -/

namespace Machine

/-- **Persisting the status lands on what is wanted exactly when the old provider status has no
fields of its own.** There is no patch exactly when addresses and provider status agree.  A patch
merged into the machine that was read gives the wanted addresses, stamped with the time to the
second; the provider status is the wanted one, and the next comparison finds nothing to do, if and
only if the old document is closed. -/
theorem statusPatch_lands_iff {original updated : Machine} {vm : VirtualMachine}
    {vmi : VirtualMachineInstance} {providerId : String} {ips : List Ipv4} {now : Instant}
    (hread : ∃ v, ofJson? v = some { original with status := none })
    (hsorted : ((original.status.getD {}).providerStatus.getD .null).Sorted)
    (hupdated : Scope.syncedMachine original vm vmi providerId ips = updated)
    (hnow : now.Valid) :
    (statusPatch? original updated now = none ↔
      (original.status.getD {}).addresses = (updated.status.getD {}).addresses ∧
        (original.status.getD {}).providerStatus = (updated.status.getD {}).providerStatus) ∧
    ∀ patch, statusPatch? original updated now = some patch →
      ∃ stored status, ofJson? (original.toJson.mergePatch patch) = some stored ∧
        stored.status = some status ∧
        status.addresses = (updated.status.getD {}).addresses ∧
        status.lastUpdated = some now.wholeSecond ∧
        (status.providerStatus = (updated.status.getD {}).providerStatus ↔
          ProviderStatus.Closed ((original.status.getD {}).providerStatus.getD .null)) ∧
        ∀ later, statusPatch? stored updated later = none ↔
          ProviderStatus.Closed ((original.status.getD {}).providerStatus.getD .null) := by
  obtain ⟨v, hv⟩ := hread
  have hwf := wellFormed_of_ofJson? hv
  have hs : (updated.status.getD {}).providerStatus =
      some (ProviderStatus.toJson ⟨vm.observedStatus⟩) := by
    rw [← hupdated]
    rfl
  have hlands := ProviderStatus.mergePatch_toJson_iff hsorted ⟨vm.observedStatus⟩
  refine ⟨statusPatch?_eq_none_iff hs, ?_⟩
  intro patch hpatch
  refine ⟨_, _, ofJson?_statusPatch hwf.metadata hwf.providerSpec_ne_null rfl hs hnow hpatch,
    rfl, rfl, rfl, ?_, ?_⟩
  · rw [hs, Option.some.injEq]
    exact hlands
  · intro later
    rw [statusPatch?_eq_none_iff hs, hs, Option.getD_some, Option.some.injEq]
    exact (and_iff_right rfl).trans hlands

/-- A field that is not one of a provider status stays in the document, and the status is patched
again. -/
theorem statusPatch_keeps_phase :
    ∃ original updated patch stored status,
      original.status = some { providerStatus := some (.obj [("phase", .str "Old")]) } ∧
      Scope.syncedMachine original {} {} "" [] = updated ∧
      statusPatch? original updated ⟨0, 0⟩ = some patch ∧
      ofJson? (original.toJson.mergePatch patch) = some stored ∧ stored.status = some status ∧
      status.providerStatus ≠ (updated.status.getD {}).providerStatus ∧
      ∀ later, statusPatch? stored updated later ≠ none := by
  have hread : ofJson? (.obj [("metadata", .obj []), ("spec", .obj [])]) = some {} := rfl
  have hopen : ¬ ProviderStatus.Closed (.obj [("phase", .str "Old")]) := fun h =>
    absurd (h.outer "phase" (by decide)) (by simp [Json.get?, Entries.find?_cons])
  have hsorted : (Json.obj [("phase", .str "Old")]).Sorted := by
    simp [Json.Sorted, Json.SortedFields, Entries.Sorted]
  have hupdated : Scope.syncedMachine
      ⟨{}, {}, some { providerStatus := some (.obj [("phase", .str "Old")]) }⟩ {} {} "" [] =
      _ := rfl
  have hepoch : (⟨0, 0⟩ : Instant).Valid := by constructor <;> decide
  obtain ⟨hnone, hpatch⟩ :=
    @statusPatch_lands_iff ⟨{}, {}, some { providerStatus := some (.obj [("phase", .str "Old")]) }⟩
      _ _ _ _ _ _ ⟨_, hread⟩ hsorted hupdated hepoch
  obtain ⟨patch, h⟩ := Option.ne_none_iff_exists'.mp (fun h => absurd (hnone.mp h).1 (by decide))
  obtain ⟨stored, status, hstored, hstatus, -, -, hlands, hagain⟩ := hpatch patch h
  exact ⟨_, _, patch, stored, status, rfl, rfl, h, hstored, hstatus, fun h => hopen (hlands.mp h),
    fun later h => hopen ((hagain later).mp h)⟩

end Machine

end MachineActuator
