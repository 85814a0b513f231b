import Mathlib
import MachineActuator.Proofs.Json.Read
import MachineActuator.Proofs.Time.Rfc3339
import MachineActuator.Resource.ObjectMeta

/-! # Metadata read back

Metadata that was read can be written and read again; only its times change, which are written to
the second (`ObjectMeta.ofJson?_toJson`).  Metadata that was read is well formed
(`ObjectMeta.wellFormed_of_ofJson?`), which is all that this needs; and once its times are cut it
is written as before (`ObjectMeta.toJson_wholeSeconds`).

A record is read field by field, so reading is stated as one fact for every field
(`ObjectMeta.ReadFrom`).  A change of some fields of the object then leaves the facts about the
others as they are. -/

namespace MachineActuator

/-! ### Times and numbers -/

namespace Json

theorem time?_ofWholeTime {t : Instant} (ht : t.Valid) :
    time? (ofWholeTime t) = some t.wholeSecond := by
  unfold time?
  exact (bind_of_eq_some rfl).trans (Rfc3339.read?_writeWhole ht)

theorem ofWholeTime_wholeSecond (t : Instant) : ofWholeTime t.wholeSecond = ofWholeTime t := by
  have hleap : t.wholeSecond.isLeap = t.isLeap := by
    unfold Instant.wholeSecond
    cases h : t.isLeap <;> rfl
  unfold ofWholeTime Rfc3339.writeWhole Rfc3339.writeSeconds
  rw [hleap]
  rfl

theorem valid_of_time? {v : Json} {t : Instant} (h : time? v = some t) : t.Valid := by
  obtain ⟨s, -, hs⟩ := Option.bind_eq_some_iff.mp h
  exact Rfc3339.valid_of_read? hs

variable {fields : List (String × Json)} {key : String}

theorem optional_wholeTime {x : Option Instant}
    (h : Entries.find? key fields = x.map ofWholeTime) (hx : ∀ t, x = some t → t.Valid) :
    optional fields key time? = some (x.map Instant.wholeSecond) :=
  optional_of_find? _ h (fun _ _ => by simp [ofWholeTime]) fun t ht => time?_ofWholeTime (hx t ht)

theorem optional_int64 {x : Option Int} (h : Entries.find? key fields = x.map ofInt)
    (hx : ∀ n, x = some n → int64? (ofInt n) = some n) : optional fields key int64? = some x :=
  optional_of_find?_self _ h (fun _ _ => by simp [ofInt]) hx

theorem int64?_ofInt {v : Json} {n : Int} (h : int64? v = some n) :
    int64? (ofInt n) = some n := by
  unfold int64? signed? intBetween? at h
  split at h
  · split_ifs at h with hb
    obtain rfl := Option.some.inj h
    exact if_pos hb
  · simp at h

end Json

/-! ### Owners -/

theorem OwnerReference.ofJson?_toJson (r : OwnerReference) : ofJson? r.toJson = some r := by
  unfold toJson
  rw [Json.ofFields_eq_present]
  unfold ofJson?
  refine (bind_of_eq_some rfl).trans ?_
  refine (bind_of_eq_some (Json.textOrEmpty_of_find? (s := r.apiVersion) (by simp))).trans ?_
  refine (bind_of_eq_some (Json.textOrEmpty_of_find? (s := r.kind) (by simp))).trans ?_
  refine (bind_of_eq_some (Json.textOrEmpty_of_find? (s := r.name) (by simp))).trans ?_
  refine (bind_of_eq_some (Json.textOrEmpty_of_find? (s := r.uid) (by simp))).trans ?_
  refine (bind_of_eq_some (Json.optional_bool (x := r.controller) (by simp))).trans ?_
  refine (bind_of_eq_some (Json.optional_bool (x := r.blockOwnerDeletion) (by simp))).trans ?_
  rfl

/-! ### Managers -/

namespace ManagedFields

/-- What can be read of what a manager has set. -/
structure WellFormed (m : ManagedFields) : Prop where
  fields_ne_null : m.fields ≠ some .null
  time_valid : ∀ t, m.time = some t → t.Valid

/-- What a manager has set, with its time cut to the second. -/
def wholeSeconds (m : ManagedFields) : ManagedFields :=
  { m with time := m.time.map Instant.wholeSecond }

theorem wellFormed_of_ofJson? {v : Json} {m : ManagedFields} (h : ofJson? v = some m) :
    m.WellFormed := by
  unfold ofJson? at h
  obtain ⟨fields, -, h⟩ := Option.bind_eq_some_iff.mp h
  obtain ⟨apiVersion, -, h⟩ := Option.bind_eq_some_iff.mp h
  obtain ⟨fieldsType, -, h⟩ := Option.bind_eq_some_iff.mp h
  obtain ⟨set, hset, h⟩ := Option.bind_eq_some_iff.mp h
  obtain ⟨manager, -, h⟩ := Option.bind_eq_some_iff.mp h
  obtain ⟨operation, -, h⟩ := Option.bind_eq_some_iff.mp h
  obtain ⟨subresource, -, h⟩ := Option.bind_eq_some_iff.mp h
  obtain ⟨time, htime, h⟩ := Option.bind_eq_some_iff.mp h
  obtain rfl := Option.some.inj h
  exact ⟨Json.ne_null_of_optional hset, Json.of_optional (fun _ _ => Json.valid_of_time?) htime⟩

theorem ofJson?_toJson {m : ManagedFields} (hm : m.WellFormed) :
    ofJson? m.toJson = some m.wholeSeconds := by
  unfold toJson
  rw [Json.ofFields_eq_present]
  unfold ofJson?
  refine (bind_of_eq_some rfl).trans ?_
  refine (bind_of_eq_some (Json.optional_str (x := m.apiVersion) (by simp))).trans ?_
  refine (bind_of_eq_some (Json.optional_str (x := m.fieldsType) (by simp))).trans ?_
  refine (bind_of_eq_some (Json.optional_document (x := m.fields) (by simp)
    hm.fields_ne_null)).trans ?_
  refine (bind_of_eq_some (Json.optional_str (x := m.manager) (by simp))).trans ?_
  refine (bind_of_eq_some (Json.optional_str (x := m.operation) (by simp))).trans ?_
  refine (bind_of_eq_some (Json.optional_str (x := m.subresource) (by simp))).trans ?_
  refine (bind_of_eq_some (Json.optional_wholeTime (x := m.time) (by simp)
    hm.time_valid)).trans ?_
  rfl

theorem toJson_wholeSeconds (m : ManagedFields) : m.wholeSeconds.toJson = m.toJson := by
  unfold toJson wholeSeconds
  dsimp only
  rw [Json.map_written Json.ofWholeTime_wholeSecond]

end ManagedFields

namespace ObjectMeta

/-- What reading metadata from an object means for each of its fields. -/
structure ReadFrom (fields : List (String × Json)) (m : ObjectMeta) : Prop where
  name : Json.optional fields "name" Json.str? = some m.name
  generateName : Json.optional fields "generateName" Json.str? = some m.generateName
  ns : Json.optional fields "namespace" Json.str? = some m.ns
  labels : Json.optional fields "labels" (Json.map? Json.str?) = some m.labels
  annotations : Json.optional fields "annotations" (Json.map? Json.str?) = some m.annotations
  uid : Json.optional fields "uid" Json.str? = some m.uid
  resourceVersion : Json.optional fields "resourceVersion" Json.str? = some m.resourceVersion
  generation : Json.optional fields "generation" Json.int64? = some m.generation
  finalizers : Json.optional fields "finalizers" (Json.list? Json.str?) = some m.finalizers
  creationTimestamp :
    Json.optional fields "creationTimestamp" Json.time? = some m.creationTimestamp
  deletionTimestamp :
    Json.optional fields "deletionTimestamp" Json.time? = some m.deletionTimestamp
  deletionGracePeriodSeconds :
    Json.optional fields "deletionGracePeriodSeconds" Json.int64? =
      some m.deletionGracePeriodSeconds
  ownerReferences :
    Json.optional fields "ownerReferences" (Json.list? OwnerReference.ofJson?) =
      some m.ownerReferences
  managedFields :
    Json.optional fields "managedFields" (Json.list? ManagedFields.ofJson?) =
      some m.managedFields
  selfLink : Json.optional fields "selfLink" Json.str? = some m.selfLink

theorem ofJson?_of_readFrom {fields : List (String × Json)} {m : ObjectMeta}
    (h : m.ReadFrom fields) : ofJson? (.obj fields) = some m := by
  unfold ofJson?
  refine (bind_of_eq_some rfl).trans ?_
  refine (bind_of_eq_some h.name).trans ?_
  refine (bind_of_eq_some h.generateName).trans ?_
  refine (bind_of_eq_some h.ns).trans ?_
  refine (bind_of_eq_some h.labels).trans ?_
  refine (bind_of_eq_some h.annotations).trans ?_
  refine (bind_of_eq_some h.uid).trans ?_
  refine (bind_of_eq_some h.resourceVersion).trans ?_
  refine (bind_of_eq_some h.generation).trans ?_
  refine (bind_of_eq_some h.finalizers).trans ?_
  refine (bind_of_eq_some h.creationTimestamp).trans ?_
  refine (bind_of_eq_some h.deletionTimestamp).trans ?_
  refine (bind_of_eq_some h.deletionGracePeriodSeconds).trans ?_
  refine (bind_of_eq_some h.ownerReferences).trans ?_
  refine (bind_of_eq_some h.managedFields).trans ?_
  refine (bind_of_eq_some h.selfLink).trans ?_
  rfl

theorem exists_readFrom {v : Json} {m : ObjectMeta} (h : ofJson? v = some m) :
    ∃ fields, v.object? = some fields ∧ m.ReadFrom fields := by
  unfold ofJson? at h
  obtain ⟨fields, hv, h⟩ := Option.bind_eq_some_iff.mp h
  obtain ⟨name, hname, h⟩ := Option.bind_eq_some_iff.mp h
  obtain ⟨generateName, hgenerateName, h⟩ := Option.bind_eq_some_iff.mp h
  obtain ⟨ns, hns, h⟩ := Option.bind_eq_some_iff.mp h
  obtain ⟨labels, hlabels, h⟩ := Option.bind_eq_some_iff.mp h
  obtain ⟨annotations, hannotations, h⟩ := Option.bind_eq_some_iff.mp h
  obtain ⟨uid, huid, h⟩ := Option.bind_eq_some_iff.mp h
  obtain ⟨resourceVersion, hresourceVersion, h⟩ := Option.bind_eq_some_iff.mp h
  obtain ⟨generation, hgeneration, h⟩ := Option.bind_eq_some_iff.mp h
  obtain ⟨finalizers, hfinalizers, h⟩ := Option.bind_eq_some_iff.mp h
  obtain ⟨creation, hcreation, h⟩ := Option.bind_eq_some_iff.mp h
  obtain ⟨deletion, hdeletion, h⟩ := Option.bind_eq_some_iff.mp h
  obtain ⟨grace, hgrace, h⟩ := Option.bind_eq_some_iff.mp h
  obtain ⟨owners, howners, h⟩ := Option.bind_eq_some_iff.mp h
  obtain ⟨managers, hmanagers, h⟩ := Option.bind_eq_some_iff.mp h
  obtain ⟨selfLink, hselfLink, h⟩ := Option.bind_eq_some_iff.mp h
  obtain rfl := Option.some.inj h
  exact ⟨fields, hv, ⟨hname, hgenerateName, hns, hlabels, hannotations, huid, hresourceVersion,
    hgeneration, hfinalizers, hcreation, hdeletion, hgrace, howners, hmanagers, hselfLink⟩⟩

/-- Fields that differ only in labels and annotations are read alike up to these. -/
theorem ReadFrom.withMaps {fields other : List (String × Json)} {m : ObjectMeta}
    {labels annotations : Option (StringMap String)} (h : m.ReadFrom fields)
    (hsame : ∀ key, key ≠ "labels" → key ≠ "annotations" →
      Entries.find? key other = Entries.find? key fields)
    (hlabels : Json.optional other "labels" (Json.map? Json.str?) = some labels)
    (hannotations : Json.optional other "annotations" (Json.map? Json.str?) = some annotations) :
    ReadFrom other { m with labels, annotations } := by
  have hoptional {α : Type} {dec : Json → Option α} {x : Option α} (key : String)
      (hk : key ≠ "labels") (hk' : key ≠ "annotations")
      (hx : Json.optional fields key dec = some x) : Json.optional other key dec = some x :=
    (Json.optional_congr (hsame key hk hk')).trans hx
  constructor
  case labels => exact hlabels
  case annotations => exact hannotations
  case name => exact hoptional _ (by decide) (by decide) h.name
  case generateName => exact hoptional _ (by decide) (by decide) h.generateName
  case ns => exact hoptional _ (by decide) (by decide) h.ns
  case uid => exact hoptional _ (by decide) (by decide) h.uid
  case resourceVersion => exact hoptional _ (by decide) (by decide) h.resourceVersion
  case generation => exact hoptional _ (by decide) (by decide) h.generation
  case finalizers => exact hoptional _ (by decide) (by decide) h.finalizers
  case creationTimestamp => exact hoptional _ (by decide) (by decide) h.creationTimestamp
  case deletionTimestamp => exact hoptional _ (by decide) (by decide) h.deletionTimestamp
  case deletionGracePeriodSeconds =>
    exact hoptional _ (by decide) (by decide) h.deletionGracePeriodSeconds
  case ownerReferences => exact hoptional _ (by decide) (by decide) h.ownerReferences
  case managedFields => exact hoptional _ (by decide) (by decide) h.managedFields
  case selfLink => exact hoptional _ (by decide) (by decide) h.selfLink

/-- Metadata that can be read: times are times, numbers fit 64 bits. -/
structure WellFormed (m : ObjectMeta) : Prop where
  generation_fits : ∀ n, m.generation = some n → Json.int64? (.ofInt n) = some n
  creation_valid : ∀ t, m.creationTimestamp = some t → t.Valid
  deletion_valid : ∀ t, m.deletionTimestamp = some t → t.Valid
  grace_fits : ∀ n, m.deletionGracePeriodSeconds = some n → Json.int64? (.ofInt n) = some n
  managers_wellFormed : ∀ ms, m.managedFields = some ms → ∀ f ∈ ms, f.WellFormed

/-- The metadata with its times cut to the second. -/
def wholeSeconds (m : ObjectMeta) : ObjectMeta :=
  { m with
    creationTimestamp := m.creationTimestamp.map Instant.wholeSecond
    deletionTimestamp := m.deletionTimestamp.map Instant.wholeSecond
    managedFields := m.managedFields.map (·.map ManagedFields.wholeSeconds) }

theorem wellFormed_of_readFrom {fields : List (String × Json)} {m : ObjectMeta}
    (h : m.ReadFrom fields) : m.WellFormed := by
  have hint {key : String} {x : Option Int} (hx : Json.optional fields key Json.int64? = some x) :
      ∀ n, x = some n → Json.int64? (.ofInt n) = some n :=
    Json.of_optional (fun _ _ => Json.int64?_ofInt) hx
  have htime {key : String} {x : Option Instant}
      (hx : Json.optional fields key Json.time? = some x) : ∀ t, x = some t → t.Valid :=
    Json.of_optional (fun _ _ => Json.valid_of_time?) hx
  refine ⟨hint h.generation, htime h.creationTimestamp, htime h.deletionTimestamp,
    hint h.deletionGracePeriodSeconds, fun ms hms => ?_⟩
  obtain ⟨v, -, -, hv⟩ := Json.exists_of_optional (h.managedFields.trans (congrArg some hms))
  exact Json.forall_of_list? (fun _ _ => ManagedFields.wellFormed_of_ofJson?) hv

theorem wellFormed_of_ofJson? {v : Json} {m : ObjectMeta} (h : ofJson? v = some m) :
    m.WellFormed := by
  obtain ⟨fields, -, hread⟩ := exists_readFrom h
  exact wellFormed_of_readFrom hread

theorem readFrom_toJson {m : ObjectMeta} (hm : m.WellFormed) :
    ∃ fields, m.toJson = .obj fields ∧ m.wholeSeconds.ReadFrom fields ∧
      Entries.find? "labels" fields = m.labels.map .ofStrings ∧
      Entries.find? "annotations" fields = m.annotations.map .ofStrings := by
  refine ⟨_, Json.ofFields_eq_present _, ?_, by simp, by simp⟩
  constructor
  case name | generateName | ns | uid | resourceVersion | selfLink =>
    exact Json.optional_str (by simp [wholeSeconds])
  case labels | annotations => exact Json.optional_strings (by simp [wholeSeconds])
  case generation => exact Json.optional_int64 (by simp [wholeSeconds]) hm.generation_fits
  case deletionGracePeriodSeconds =>
    exact Json.optional_int64 (by simp [wholeSeconds]) hm.grace_fits
  case creationTimestamp => exact Json.optional_wholeTime (by simp) hm.creation_valid
  case deletionTimestamp => exact Json.optional_wholeTime (by simp) hm.deletion_valid
  case finalizers =>
    refine Json.optional_of_find?_self (.ofList .str) (by simp [wholeSeconds])
      (fun _ _ => Json.ofList_ne_null _ _) fun items _ => ?_
    exact Json.list?_ofList_self fun _ _ => rfl
  case ownerReferences =>
    refine Json.optional_of_find?_self (.ofList OwnerReference.toJson)
      (by simp [wholeSeconds]) (fun _ _ => Json.ofList_ne_null _ _) fun items _ => ?_
    exact Json.list?_ofList_self fun r _ => r.ofJson?_toJson
  case managedFields =>
    refine Json.optional_of_find? (.ofList ManagedFields.toJson) (by simp)
      (fun _ _ => Json.ofList_ne_null _ _) fun items hitems => ?_
    exact Json.list?_ofList fun f hf =>
      ManagedFields.ofJson?_toJson (hm.managers_wellFormed items hitems f hf)

theorem ofJson?_toJson {m : ObjectMeta} (hm : m.WellFormed) :
    ofJson? m.toJson = some m.wholeSeconds := by
  obtain ⟨fields, hobj, hread, -⟩ := readFrom_toJson hm
  rw [hobj]
  exact ofJson?_of_readFrom hread

/-- The second that a time is cut to is all of it that is written. -/
theorem toJson_wholeSeconds (m : ObjectMeta) : m.wholeSeconds.toJson = m.toJson := by
  unfold toJson wholeSeconds
  dsimp only
  rw [Json.map_written Json.ofWholeTime_wholeSecond,
    Json.map_written Json.ofWholeTime_wholeSecond,
    Json.map_written (Json.ofList_written ManagedFields.toJson_wholeSeconds)]

theorem wellFormed_empty : WellFormed {} := by
  constructor <;> exact nofun

end ObjectMeta

end MachineActuator
