import Mathlib
import MachineActuator.Cluster.Tenant
import MachineActuator.Proofs.Machine.MapPatch
import MachineActuator.Proofs.Resource.Machine

/-! # Patches of metadata

The patch between two machines, merged into what the cluster stores by then, changes what differs
between the two and nothing else (`Machine.exists_rebased`), so it undoes no change that others
have made since the first of them was read. -/

namespace MachineActuator

open StringMap (entry)

namespace Json

theorem nonemptyFields?_eq (fields : List (String × Option Json)) :
    nonemptyFields? fields =
      if present fields = [] then none else some (.obj (present fields)) := by
  unfold nonemptyFields?
  split
  · next h => rw [if_pos (show present fields = [] from h)]
  · next h => rw [if_neg (show ¬ present fields = [] from h)]; rfl

theorem nonemptyFields?_eq_none_iff {fields : List (String × Option Json)} :
    nonemptyFields? fields = none ↔ ∀ e ∈ fields, e.2 = none := by
  rw [nonemptyFields?_eq]
  unfold present
  simp [List.filterMap_eq_nil_iff]

theorem eq_of_nonemptyFields? {fields : List (String × Option Json)} {v : Json}
    (h : nonemptyFields? fields = some v) : v = .obj (present fields) := by
  rw [nonemptyFields?_eq] at h
  split_ifs at h
  exact (Option.some.inj h).symm

end Json

/-! ### Metadata -/

namespace ObjectMeta

/-- The part of a patch that is about metadata. -/
def patch? (before after : ObjectMeta) : Option Json :=
  Json.nonemptyFields?
    [("annotations", StringMap.patch? before.annotations after.annotations),
     ("labels", StringMap.patch? before.labels after.labels)]

theorem patch?_eq_none_iff {before after : ObjectMeta} :
    patch? before after = none ↔
      before.annotations.getD .empty = after.annotations.getD .empty ∧
        before.labels.getD .empty = after.labels.getD .empty := by
  unfold patch?
  rw [Json.nonemptyFields?_eq_none_iff]
  simp [StringMap.patch?_eq_none_iff]

/-- What becomes of metadata when the differences between two others are merged into it. -/
theorem exists_patched (before after : ObjectMeta) {stored : ObjectMeta}
    (hstored : stored.WellFormed) :
    ∃ v r, Json.mergedField (some stored.toJson) (patch? before after) = some v ∧
      ofJson? v = some r ∧
      (∀ k, entry r.labels k = if entry before.labels k = entry after.labels k
        then entry stored.labels k else entry after.labels k) ∧
      (∀ k, entry r.annotations k = if entry before.annotations k = entry after.annotations k
        then entry stored.annotations k else entry after.annotations k) ∧
      r = { stored.wholeSeconds with labels := r.labels, annotations := r.annotations } := by
  obtain ⟨fields, hobj, hread, hlabels, hannotations⟩ := readFrom_toJson hstored
  -- no patch at all merges like one without fields
  have hvalue : Json.mergedField (some stored.toJson) (patch? before after) =
      some (.obj (Json.mergeFields fields (Json.present
        [("annotations", StringMap.patch? before.annotations after.annotations),
         ("labels", StringMap.patch? before.labels after.labels)]))) := by
    unfold patch?
    rw [Json.nonemptyFields?_eq]
    split_ifs with hnil
    · rw [hnil, Json.mergeFields_nil, hobj]
      rfl
    · rw [Json.mergedField_of_ne_null (by simp), Option.getD_some, hobj, Json.mergePatch_obj]
  have hfind := Json.find?_mergeFields (Json.sorted_present
    [("annotations", StringMap.patch? before.annotations after.annotations),
     ("labels", StringMap.patch? before.labels after.labels)]
    (show ["annotations", "labels"].Pairwise (· < ·) by decide)) fields
  obtain ⟨labels, hreadLabels, hlabelEntries⟩ := exists_mergedStrings
    before.labels after.labels stored.labels
    ((hfind "labels").trans (by rw [hlabels]; simp))
  obtain ⟨annotations, hreadAnnotations, hannotationEntries⟩ := exists_mergedStrings
    before.annotations after.annotations stored.annotations
    ((hfind "annotations").trans (by rw [hannotations]; simp))
  refine ⟨_, { stored.wholeSeconds with labels, annotations }, hvalue, ofJson?_of_readFrom ?_,
    hlabelEntries, hannotationEntries, rfl⟩
  refine hread.withMaps (fun key hk hk' => ?_) hreadLabels hreadAnnotations
  rw [hfind key]
  simp [hk, hk', Json.mergedField]

end ObjectMeta

/-! ### Provider ids -/

namespace MachineSpec

theorem exists_patched (before after : Option String) {stored : MachineSpec}
    (hstored : stored.providerSpec ≠ some .null) :
    ∃ v r,
      Json.mergedField (some stored.toJson) (Machine.providerIdPatch? before after) = some v ∧
      ofJson? v = some r ∧
      r = { stored with providerId := if before = after then stored.providerId else after } := by
  obtain ⟨fields, hobj, hread, hid⟩ := readFrom_toJson hstored
  unfold Machine.providerIdPatch?
  split_ifs with heq
  · exact ⟨_, stored, rfl, hobj ▸ ofJson?_of_readFrom hread, rfl⟩
  · refine ⟨.obj (Json.mergeFields fields [("providerID", (after.map .str).getD .null)]),
      { stored with providerId := after }, ?_, ofJson?_of_readFrom ⟨?_, ?_⟩, rfl⟩
    · rw [Json.mergedField_of_ne_null (by simp [Json.field]), Option.getD_some, hobj]
      exact congrArg some (Json.mergePatch_obj _ _)
    · refine (Json.orElse_congr ?_).trans hread.providerSpec
      rw [Json.find?_mergeFields (List.pairwise_singleton _ _)]
      rfl
    · refine Json.optional_str ?_
      rw [Json.find?_mergeFields (List.pairwise_singleton _ _), hid]
      cases after with
      | none => rfl
      | some id => exact congrArg some (Json.mergePatch_of_not_obj (by simp) _)

end MachineSpec

/-! ### Machines -/

namespace Machine

theorem ofJson?_mergePatch {m r : Machine} {patch : List (String × Json)} {metadata spec : Json}
    (hs : Entries.Sorted patch)
    (hmetadata : Json.mergedField (some m.metadata.toJson) (Entries.find? "metadata" patch) =
      some metadata) (hm : ObjectMeta.ofJson? metadata = some r.metadata)
    (hspec : Json.mergedField (some m.spec.toJson) (Entries.find? "spec" patch) = some spec)
    (hsp : MachineSpec.ofJson? spec = some r.spec)
    (hstatus : ∀ fields, Entries.find? "status" fields =
        Json.mergedField (m.status.map MachineStatus.toJson) (Entries.find? "status" patch) →
      Json.optional fields "status" MachineStatus.ofJson? = some r.status) :
    ofJson? (m.toJson.mergePatch (.obj patch)) = some r := by
  obtain ⟨fields, hobj, hmeta, hspc, hst⟩ := m.exists_toJson
  rw [hobj, Json.mergePatch_obj]
  refine ofJson?_obj ?_ hm ?_ hsp (hstatus _ ?_)
  · rw [Json.find?_mergeFields hs, hmeta, hmetadata]
  · rw [Json.find?_mergeFields hs, hspc, hspec]
  · rw [Json.find?_mergeFields hs, hst]

theorem patch?_eq (before after : Machine) :
    patch? before after = Json.nonemptyFields?
      [("metadata", ObjectMeta.patch? before.metadata after.metadata),
       ("spec", providerIdPatch? before.spec.providerId after.spec.providerId)] := rfl

theorem patch?_eq_none_iff {before after : Machine} :
    patch? before after = none ↔
      (before.metadata.annotations.getD .empty = after.metadata.annotations.getD .empty ∧
        before.metadata.labels.getD .empty = after.metadata.labels.getD .empty) ∧
      before.spec.providerId = after.spec.providerId := by
  have hid : providerIdPatch? before.spec.providerId after.spec.providerId = none ↔
      before.spec.providerId = after.spec.providerId := by
    unfold providerIdPatch?
    split_ifs with h <;> simp [h]
  rw [patch?_eq, Json.nonemptyFields?_eq_none_iff]
  simp [ObjectMeta.patch?_eq_none_iff, hid]

/-- The machine `r` is `stored` with what differs between `before` and `after` carried over: every
label, annotation and provider id that differs is that of `after`, every other is that of `stored`,
and so is everything else, with times to the second as a written machine has them. -/
structure Rebased (before after stored r : Machine) : Prop where
  labels : ∀ k, entry r.metadata.labels k =
    if entry before.metadata.labels k = entry after.metadata.labels k
    then entry stored.metadata.labels k else entry after.metadata.labels k
  annotations : ∀ k, entry r.metadata.annotations k =
    if entry before.metadata.annotations k = entry after.metadata.annotations k
    then entry stored.metadata.annotations k else entry after.metadata.annotations k
  providerId : r.spec.providerId =
    if before.spec.providerId = after.spec.providerId then stored.spec.providerId
    else after.spec.providerId
  others : r =
    { stored.wholeSeconds with
      metadata :=
        { stored.wholeSeconds.metadata with
          labels := r.metadata.labels, annotations := r.metadata.annotations }
      spec := { stored.wholeSeconds.spec with providerId := r.spec.providerId } }

/-- What differs between two machines can be merged into every machine that was read. -/
theorem exists_rebased {before after stored : Machine} {patch : Json}
    (hstored : stored.WellFormed) (h : patch? before after = some patch) :
    ∃ r, ofJson? (stored.toJson.mergePatch patch) = some r ∧ Rebased before after stored r := by
  rw [patch?_eq] at h
  obtain rfl := Json.eq_of_nonemptyFields? h
  obtain ⟨metadata, m, hmetadata, hm, hlabels, hannotations, hrest⟩ :=
    ObjectMeta.exists_patched before.metadata after.metadata hstored.metadata
  obtain ⟨spec, s, hspec, hs, hid⟩ := MachineSpec.exists_patched before.spec.providerId
    after.spec.providerId hstored.providerSpec_ne_null
  refine ⟨{ stored with metadata := m, spec := s }, ?_, hlabels, hannotations, ?_, ?_⟩
  · refine ofJson?_mergePatch (Json.sorted_present _
      (show ["metadata", "spec"].Pairwise (· < ·) by decide)) ?_ hm ?_ hs fun fields hst => ?_
    · simpa using hmetadata
    · simpa using hspec
    · exact optional_status (by simpa [Json.mergedField] using hst) hstored.status
  · rw [hid]
  · unfold wholeSeconds
    rw [← hrest, hid]

/-- Carried over to the machine that was read, the differences give what is wanted. -/
theorem Rebased.of_unchanged {before after r : Machine} (h : Rebased before after before r) :
    r.metadata.labels.getD .empty = after.metadata.labels.getD .empty ∧
      r.metadata.annotations.getD .empty = after.metadata.annotations.getD .empty ∧
      r.spec.providerId = after.spec.providerId := by
  have hkey {x y z : Option String} (hz : z = if x = y then x else y) : z = y := by
    split_ifs at hz with hxy
    · rw [hz, hxy]
    · exact hz
  exact ⟨StringMap.getD_eq_of_entry fun k => hkey (h.labels k),
    StringMap.getD_eq_of_entry fun k => hkey (h.annotations k), hkey h.providerId⟩

end Machine

/-! ### Persisting metadata -/

namespace TenantCluster

theorem applyPatch_eq {c : TenantCluster} {ns name : String} {patch : Json} {stored r : Machine}
    (hstored : c.machines ns name = some stored)
    (h : Machine.ofJson? (stored.toJson.mergePatch patch) = some r) :
    c.applyPatch ns name patch = (.ok r, { c with machines := c.machines.put ns name r }) := by
  unfold applyPatch
  rw [hstored]
  dsimp only
  rw [h]

theorem answer_patchMachine {c : TenantCluster} {ns name : String} {patch : Json}
    {stored r : Machine} (hup : c.failures .patchMachine = none)
    (hstored : c.machines ns name = some stored)
    (h : Machine.ofJson? (stored.toJson.mergePatch patch) = some r) :
    c.answer (.patchMachine ns name patch) =
      (.ok r, { c with
        machinePatches := c.machinePatches ++ [patch]
        machines := c.machines.put ns name r }) := by
  unfold answer
  rw [show TenantCall.operation (.patchMachine ns name patch) = .patchMachine from rfl, hup]
  exact applyPatch_eq (c := { c with machinePatches := c.machinePatches ++ [patch] }) hstored h

/-- **Persisting metadata undoes no change of others.** There is no patch exactly when labels,
annotations and provider id of the two machines agree.  Sent against any stored machine, a patch
succeeds and carries over what differs and nothing else; when the machine has not changed since it
was read, the result agrees with what is wanted. -/
theorem patchMachine_keeps_changes_of_others {stored : Machine}
    (hread : ∃ v, Machine.ofJson? v = some stored) (before after : Machine) :
    (Machine.patch? before after = none ↔
      (before.metadata.annotations.getD .empty = after.metadata.annotations.getD .empty ∧
        before.metadata.labels.getD .empty = after.metadata.labels.getD .empty) ∧
      before.spec.providerId = after.spec.providerId) ∧
    Machine.ofJson? stored.toJson = some stored.wholeSeconds ∧
    ∀ patch, Machine.patch? before after = some patch →
      ∀ (c : TenantCluster) (ns name : String), c.machines ns name = some stored →
        c.failures .patchMachine = none →
        ∃ r, c.answer (.patchMachine ns name patch) =
            (.ok r, { c with
              machinePatches := c.machinePatches ++ [patch]
              machines := c.machines.put ns name r }) ∧
          Machine.Rebased before after stored r ∧
          (stored = before →
            r.metadata.labels.getD .empty = after.metadata.labels.getD .empty ∧
              r.metadata.annotations.getD .empty = after.metadata.annotations.getD .empty ∧
              r.spec.providerId = after.spec.providerId) := by
  obtain ⟨v, hv⟩ := hread
  have hwf := Machine.wellFormed_of_ofJson? hv
  refine ⟨Machine.patch?_eq_none_iff, Machine.ofJson?_toJson hwf, ?_⟩
  intro patch hpatch c ns name hstored hup
  obtain ⟨r, hr, hrebased⟩ := Machine.exists_rebased hwf hpatch
  refine ⟨r, answer_patchMachine hup hstored hr, hrebased, ?_⟩
  rintro rfl
  exact hrebased.of_unchanged

/-- A label that others have set meanwhile survives while another label and the provider id are
written. -/
theorem patchMachine_keeps_zone :
    ∃ v patch r c,
      Machine.ofJson? v =
        some { metadata := { name := some "m", labels := some (.singleton "zone" "b") } } ∧
      Machine.patch? { metadata := { name := some "m" } }
        { metadata := { name := some "m", labels := some (.singleton "kind" "vm") },
          spec := { providerId := some "kubevirt://infra/m" } } = some patch ∧
      (addMachine {} { metadata :=
        { name := some "m", labels := some (.singleton "zone" "b") } }).answer
          (.patchMachine "" "m" patch) = (.ok r, c) ∧
      entry r.metadata.labels "zone" = some "b" ∧ entry r.metadata.labels "kind" = some "vm" ∧
      r.spec.providerId = some "kubevirt://infra/m" := by
  have hread : Machine.ofJson?
      (.obj [("metadata", .obj [("labels", .obj [("zone", .str "b")]), ("name", .str "m")]),
        ("spec", .obj [])]) =
      some { metadata := { name := some "m", labels := some (.singleton "zone" "b") } } := rfl
  obtain ⟨hnone, -, hpatch⟩ := patchMachine_keeps_changes_of_others ⟨_, hread⟩
    { metadata := { name := some "m" } }
    { metadata := { name := some "m", labels := some (.singleton "kind" "vm") },
      spec := { providerId := some "kubevirt://infra/m" } }
  obtain ⟨patch, h⟩ := Option.ne_none_iff_exists'.mp (fun h => absurd (hnone.mp h) (by decide))
  obtain ⟨r, hr, hrebased, -⟩ := hpatch patch h (addMachine {} { metadata :=
    { name := some "m", labels := some (.singleton "zone" "b") } }) "" "m"
    (by simp [addMachine]) rfl
  exact ⟨_, patch, r, _, hread, h, hr, hrebased.labels "zone", hrebased.labels "kind",
    hrebased.providerId⟩

end TenantCluster

end MachineActuator
