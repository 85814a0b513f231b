import Mathlib
import MachineActuator.Proofs.Resource.ObjectMeta
import MachineActuator.Resource.Machine

/-! # Machines read back

A machine that was read can be written and read again (`Machine.ofJson?_toJson`): the times of its
metadata are cut to the second, the time of its status and everything else stay.  As for metadata,
reading is stated field by field, so that a change of some fields leaves the facts about the others
as they are. -/

namespace MachineActuator

theorem NodeAddress.ofJson?_toJson (a : NodeAddress) : ofJson? a.toJson = some a := by
  unfold toJson
  rw [Json.ofFields_eq_present]
  unfold ofJson?
  refine (bind_of_eq_some rfl).trans ?_
  refine (bind_of_eq_some (Json.textOrEmpty_of_find? (s := a.address) (by simp))).trans ?_
  refine (bind_of_eq_some (Json.textOrEmpty_of_find? (s := a.type) (by simp))).trans ?_
  rfl

theorem Json.list?_addresses (addresses : List NodeAddress) :
    list? NodeAddress.ofJson? (ofList NodeAddress.toJson addresses) = some addresses :=
  list?_ofList_self fun a _ => a.ofJson?_toJson

/-! ### What a machine asks for -/

namespace MachineSpec

/-- What reading means for each field. -/
structure ReadFrom (fields : List (String × Json)) (s : MachineSpec) : Prop where
  providerSpec : Json.orElse fields "providerSpec" wrapped? none = some s.providerSpec
  providerId : Json.optional fields "providerID" Json.str? = some s.providerId

theorem ofJson?_of_readFrom {fields : List (String × Json)} {s : MachineSpec}
    (h : s.ReadFrom fields) : ofJson? (.obj fields) = some s := by
  unfold ofJson?
  refine (bind_of_eq_some rfl).trans ?_
  refine (bind_of_eq_some h.providerSpec).trans ?_
  refine (bind_of_eq_some h.providerId).trans ?_
  rfl

theorem providerSpec_ne_null {v : Json} {s : MachineSpec} (h : ofJson? v = some s) :
    s.providerSpec ≠ some .null := by
  unfold ofJson? at h
  obtain ⟨fields, -, h⟩ := Option.bind_eq_some_iff.mp h
  obtain ⟨spec, hspec, h⟩ := Option.bind_eq_some_iff.mp h
  obtain ⟨id, -, h⟩ := Option.bind_eq_some_iff.mp h
  obtain rfl := Option.some.inj h
  unfold Json.orElse at hspec
  split at hspec
  · obtain rfl := Option.some.inj hspec
    simp
  · unfold wrapped? at hspec
    obtain ⟨inner, -, hspec⟩ := Option.bind_eq_some_iff.mp hspec
    exact Json.ne_null_of_optional hspec

theorem wrapped?_value {x : Option Json} (hx : x ≠ some .null) :
    wrapped? (.ofFields [("value", x)]) = some x := by
  unfold wrapped?
  rw [Json.ofFields_eq_present]
  refine (bind_of_eq_some rfl).trans ?_
  exact Json.optional_document (by simp) hx

theorem readFrom_toJson {s : MachineSpec} (hs : s.providerSpec ≠ some .null) :
    ∃ fields, s.toJson = .obj fields ∧ s.ReadFrom fields ∧
      Entries.find? "providerID" fields = s.providerId.map .str := by
  refine ⟨_, Json.ofFields_eq_present _, ⟨?_, Json.optional_str (by simp)⟩, by simp⟩
  rw [Json.orElse_of_some (v := .ofFields [("value", s.providerSpec)]) (by simp)]
  exact wrapped?_value hs

end MachineSpec

/-! ### What is known of a machine -/

namespace MachineStatus

/-- What reading means for each field. -/
structure ReadFrom (fields : List (String × Json)) (s : MachineStatus) : Prop where
  addresses :
    Json.orElse fields "addresses" (Json.list? NodeAddress.ofJson?) [] = some s.addresses
  lastUpdated : Json.optional fields "lastUpdated" Json.time? = some s.lastUpdated
  providerStatus : Json.optional fields "providerStatus" some = some s.providerStatus

/-- A status that can be read. -/
structure WellFormed (s : MachineStatus) : Prop where
  updated_valid : ∀ t, s.lastUpdated = some t → t.Valid
  providerStatus_ne_null : s.providerStatus ≠ some .null

theorem ofJson?_of_readFrom {fields : List (String × Json)} {s : MachineStatus}
    (h : s.ReadFrom fields) : ofJson? (.obj fields) = some s := by
  unfold ofJson?
  refine (bind_of_eq_some rfl).trans ?_
  refine (bind_of_eq_some h.addresses).trans ?_
  refine (bind_of_eq_some h.lastUpdated).trans ?_
  refine (bind_of_eq_some h.providerStatus).trans ?_
  rfl

theorem wellFormed_of_ofJson? {v : Json} {s : MachineStatus} (h : ofJson? v = some s) :
    s.WellFormed := by
  unfold ofJson? at h
  obtain ⟨fields, -, h⟩ := Option.bind_eq_some_iff.mp h
  obtain ⟨addresses, -, h⟩ := Option.bind_eq_some_iff.mp h
  obtain ⟨updated, hupdated, h⟩ := Option.bind_eq_some_iff.mp h
  obtain ⟨document, hdocument, h⟩ := Option.bind_eq_some_iff.mp h
  obtain rfl := Option.some.inj h
  exact ⟨Json.of_optional (fun _ _ => Json.valid_of_time?) hupdated,
    Json.ne_null_of_optional hdocument⟩

theorem time?_write {t : Instant} (ht : t.Valid) :
    Json.time? (.str (Rfc3339.write t)) = some t := by
  unfold Json.time?
  exact (bind_of_eq_some rfl).trans (Rfc3339.read?_write ht)

theorem readFrom_toJson {s : MachineStatus} (hs : s.WellFormed) :
    ∃ fields, s.toJson = .obj fields ∧ s.ReadFrom fields := by
  refine ⟨_, Json.ofFields_eq_present _, ?_, ?_, ?_⟩
  · exact Json.orElse_ofNonempty_self s.addresses (fun a _ => a.ofJson?_toJson) (by simp)
  · exact Json.optional_of_find?_self (fun t => .str (Rfc3339.write t)) (by simp)
      (fun _ _ => by simp) fun t ht => time?_write (hs.updated_valid t ht)
  · exact Json.optional_document (by simp) hs.providerStatus_ne_null

theorem ofJson?_toJson {s : MachineStatus} (hs : s.WellFormed) : ofJson? s.toJson = some s := by
  obtain ⟨fields, hobj, hread⟩ := readFrom_toJson hs
  rw [hobj]
  exact ofJson?_of_readFrom hread

end MachineStatus

/-! ### Machines -/

namespace Machine

/-- A machine that can be read. -/
structure WellFormed (m : Machine) : Prop where
  metadata : m.metadata.WellFormed
  providerSpec_ne_null : m.spec.providerSpec ≠ some .null
  status : ∀ s, m.status = some s → s.WellFormed

/-- The machine with the times of its metadata cut to the second. -/
def wholeSeconds (m : Machine) : Machine := { m with metadata := m.metadata.wholeSeconds }

theorem ofJson?_obj {fields : List (String × Json)} {metadata spec : Json} {m : Machine}
    (hmetadata : Entries.find? "metadata" fields = some metadata)
    (hm : ObjectMeta.ofJson? metadata = some m.metadata)
    (hspec : Entries.find? "spec" fields = some spec) (hs : MachineSpec.ofJson? spec = some m.spec)
    (hstatus : Json.optional fields "status" MachineStatus.ofJson? = some m.status) :
    ofJson? (.obj fields) = some m := by
  unfold ofJson?
  refine (bind_of_eq_some rfl).trans ?_
  refine (bind_of_eq_some ((Json.required_of_find? hmetadata).trans hm)).trans ?_
  refine (bind_of_eq_some ((Json.required_of_find? hspec).trans hs)).trans ?_
  refine (bind_of_eq_some hstatus).trans ?_
  rfl

theorem wellFormed_of_ofJson? {v : Json} {m : Machine} (h : ofJson? v = some m) :
    m.WellFormed := by
  unfold ofJson? at h
  obtain ⟨fields, -, h⟩ := Option.bind_eq_some_iff.mp h
  obtain ⟨metadata, hmetadata, h⟩ := Option.bind_eq_some_iff.mp h
  obtain ⟨spec, hspec, h⟩ := Option.bind_eq_some_iff.mp h
  obtain ⟨status, hstatus, h⟩ := Option.bind_eq_some_iff.mp h
  obtain rfl := Option.some.inj h
  exact ⟨Json.of_required (fun _ _ => ObjectMeta.wellFormed_of_ofJson?) hmetadata,
    Json.of_required (fun _ _ => MachineSpec.providerSpec_ne_null) hspec,
    Json.of_optional (fun _ _ => MachineStatus.wellFormed_of_ofJson?) hstatus⟩

theorem WellFormed.wholeSeconds {m : Machine} (h : m.WellFormed) :
    m.wholeSeconds.WellFormed := by
  obtain ⟨fields, -, hread, -⟩ := ObjectMeta.readFrom_toJson h.metadata
  exact ⟨ObjectMeta.wellFormed_of_readFrom hread, h.providerSpec_ne_null, h.status⟩

theorem exists_toJson (m : Machine) :
    ∃ fields, m.toJson = .obj fields ∧
      Entries.find? "metadata" fields = some m.metadata.toJson ∧
      Entries.find? "spec" fields = some m.spec.toJson ∧
      Entries.find? "status" fields = m.status.map MachineStatus.toJson := by
  refine ⟨_, Json.ofFields_eq_present _, ?_, ?_, ?_⟩ <;> simp

theorem optional_status {fields : List (String × Json)} {x : Option MachineStatus}
    (h : Entries.find? "status" fields = x.map MachineStatus.toJson)
    (hx : ∀ s, x = some s → s.WellFormed) :
    Json.optional fields "status" MachineStatus.ofJson? = some x :=
  Json.optional_of_find?_self _ h (fun _ _ => by simp [MachineStatus.toJson, Json.ofFields])
    fun s hs => MachineStatus.ofJson?_toJson (hx s hs)

theorem ofJson?_toJson {m : Machine} (hm : m.WellFormed) :
    ofJson? m.toJson = some m.wholeSeconds := by
  obtain ⟨fields, hobj, hmetadata, hspec, hstatus⟩ := m.exists_toJson
  obtain ⟨specFields, hspecObj, hspecRead, -⟩ := MachineSpec.readFrom_toJson hm.providerSpec_ne_null
  rw [hobj]
  refine ofJson?_obj hmetadata (ObjectMeta.ofJson?_toJson hm.metadata) hspec ?_
    (optional_status hstatus hm.status)
  rw [hspecObj]
  exact MachineSpec.ofJson?_of_readFrom hspecRead

theorem toJson_wholeSeconds (m : Machine) : m.wholeSeconds.toJson = m.toJson := by
  unfold toJson wholeSeconds
  dsimp only
  rw [ObjectMeta.toJson_wholeSeconds]

end Machine

end MachineActuator
