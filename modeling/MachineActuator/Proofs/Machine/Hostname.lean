import Mathlib
import MachineActuator.Proofs.Machine.Payload

/-! # The host name changes one place

A payload takes the host name if it is an object whose storage section, if there is one, is an
object and whose files, if there are any, are a list (`Payload.Holds`).  Then one file comes to the
end of the list, and every look-up but those of the section and of the list is answered as before
(`Payload.GainsFile`).  Any other payload is a mistake in the configuration.  Reading may round
binary64 numbers, and then the stored bytes read back with them rounded once more; if the payload
prints back as it is, so does what is stored (`Payload.sent_withHostname`). -/

namespace MachineActuator.Payload

open Json (Readable sent sentFields sentItems)

variable {payload out : ByteArray} {hostname : String} {root storage : List (String × Json)}
  {files : List Json}

/-- The storage section of a document and the files in it.  What is absent counts as empty; what is
there and is something else, were it null, does not count. -/
structure Holds (root storage : List (String × Json)) (files : List Json) : Prop where
  storage_eq : Entries.find? "storage" root = some (.obj storage) ∨
    Entries.find? "storage" root = none ∧ storage = []
  files_eq : Entries.find? "files" storage = some (.arr files) ∨
    Entries.find? "files" storage = none ∧ files = []

/-- The second document is the first one with the file that holds the host name at the end of the
files.  The keys are in order, so that the look-ups determine it. -/
structure GainsFile (hostname : String) (root storage : List (String × Json)) (files : List Json)
    (root' storage' : List (String × Json)) : Prop where
  sorted : Entries.Sorted root' ∧ Entries.Sorted storage'
  storage_eq : Entries.find? "storage" root' = some (.obj storage')
  beside_storage : ∀ key, key ≠ "storage" → Entries.find? key root' = Entries.find? key root
  files_eq : Entries.find? "files" storage' = some (.arr (files ++ [.obj
    [("contents", .obj [("source", .str ("data:," ++ hostname))]),
      ("filesystem", .str "root"), ("mode", .num (.int 420)), ("path", .str "/etc/hostname")]]))
  beside_files : ∀ key, key ≠ "files" → Entries.find? key storage' = Entries.find? key storage

/-- What is written of the value is read as the value. -/
def PrintsBack (v : Json) : Prop := Json.ofBytes? (Json.utf8 v.render) = some v

/-! ### What is accepted -/

theorem holds_iff : Holds root storage files ↔
    (Entries.find? "storage" root).getD (.obj []) = .obj storage ∧
      (Entries.find? "files" storage).getD (.arr []) = .arr files := by
  have hgetD (o : Option Json) (absent v : Json) :
      o.getD absent = v ↔ o = some v ∨ o = none ∧ absent = v := by
    cases o with
    | none => simp
    | some w => simp
  rw [hgetD, hgetD, Json.obj.injEq, Json.arr.injEq, @eq_comm _ [] storage, @eq_comm _ [] files]
  exact ⟨fun h => ⟨h.storage_eq, h.files_eq⟩, fun h => ⟨h.1, h.2⟩⟩

/-- A payload is refused for a mistake in it, and for nothing else. -/
theorem isInvalidConfig_of_addHostname {e : ControllerError}
    (h : addHostname payload hostname = .error e) : e.isInvalidConfig = true := by
  have hfile {storage : List (String × Json)} {e : ControllerError}
      (h : withFile hostname storage = .error e) : e.isInvalidConfig = true := by
    unfold withFile at h
    split at h
    · cases h
    · exact Except.error.inj h ▸ rfl
  have hdocument {doc : Json} {e : ControllerError}
      (h : withHostname hostname doc = .error e) : e.isInvalidConfig = true := by
    unfold withHostname at h
    split at h
    · split at h
      · split at h
        · cases h
        · next hfailed =>
          obtain rfl := Except.error.inj h
          exact hfile hfailed
      · exact Except.error.inj h ▸ rfl
    · exact Except.error.inj h ▸ rfl
  unfold addHostname at h
  split at h
  · exact Except.error.inj h ▸ rfl
  · split at h
    · next hfailed =>
      obtain rfl := Except.error.inj h
      exact hdocument hfailed
    · cases h

/-! ### What is stored -/

theorem gainsFile_insert (hroot : Entries.Sorted root) (hstorage : Entries.Sorted storage) :
    let storage' := Entries.insert "files" (.arr (files ++ [hostnameFile hostname])) storage
    GainsFile hostname root storage files (Entries.insert "storage" (.obj storage') root)
      storage' where
  sorted := ⟨Entries.sorted_insert _ _ hroot, Entries.sorted_insert _ _ hstorage⟩
  storage_eq := (Entries.find?_insert _ _ _ _).trans (if_pos rfl)
  beside_storage _ hkey := (Entries.find?_insert _ _ _ _).trans (if_neg hkey)
  files_eq := (Entries.find?_insert _ _ _ _).trans (if_pos rfl)
  beside_files _ hkey := (Entries.find?_insert _ _ _ _).trans (if_neg hkey)

/-- A part of what goes over the wire unchanged does so itself. -/
theorem sent_of_getD {fields : List (String × Json)} {key : String} {absent v : Json}
    (hfields : sentFields fields = fields) (habsent : absent.sent = absent)
    (h : (Entries.find? key fields).getD absent = v) : v.sent = v := by
  subst h
  have hfind := Json.find?_sentFields key fields
  rw [hfields] at hfind
  cases hfound : Entries.find? key fields with
  | none => exact habsent
  | some w =>
    rw [hfound] at hfind
    exact (Option.some.inj hfind).symm

/-- With the file in it, what goes over the wire unchanged still does. -/
theorem sent_withHostname {doc doc' : Json} (h : withHostname hostname doc = .ok doc')
    (hdoc : doc.sent = doc) : doc'.sent = doc' := by
  obtain ⟨root, storage, storage', rfl, hstorage, hfile, rfl⟩ := withHostname_eq_ok_iff.mp h
  obtain ⟨files, hfiles, rfl⟩ := withFile_eq_ok_iff.mp hfile
  have hroot : sentFields root = root := Json.obj.inj hdoc
  have hsection : sentFields storage = storage := Json.obj.inj (sent_of_getD hroot rfl hstorage)
  have hitems : sentItems files = files := Json.arr.inj (sent_of_getD hsection rfl hfiles)
  have hlonger : sentItems (files ++ [hostnameFile hostname]) =
      files ++ [hostnameFile hostname] := by
    rw [Json.sentItems_eq_map, List.map_append, ← Json.sentItems_eq_map, hitems]
    rfl
  simp only [sent, Json.sentFields_insert, hroot, hsection, hlonger]

/-- A payload that takes the host name is stored with one more file, and reads back as it was built;
but for binary64 numbers that are rounded, if it does not print back as it was read.  Any other
payload is a mistake in the configuration. -/
theorem addHostname_adds_file (payload : ByteArray) (hostname : String) :
    (∀ root storage files, Json.ofBytes? payload = some (.obj root) → Holds root storage files →
      ∃ out root' storage', addHostname payload hostname = .ok out ∧
        GainsFile hostname root storage files root' storage' ∧
        Json.ofBytes? out = some (Json.obj root').sent ∧
        (PrintsBack (.obj root) → Json.ofBytes? out = some (.obj root'))) ∧
    ((¬ ∃ root storage files,
        Json.ofBytes? payload = some (.obj root) ∧ Holds root storage files) →
      ∃ e, addHostname payload hostname = .error e ∧ e.isInvalidConfig = true) := by
  constructor
  · intro root storage files hread hholds
    obtain ⟨hstorage, hfiles⟩ := holds_iff.mp hholds
    have hdoc : Readable (122 + 5) (.obj root) := Json.readable_of_ofBytes? hread
    have hsection : Readable (122 + 4) (.obj storage) :=
      hdoc.of_getD (.obj .nil fun e he => absurd he List.not_mem_nil) hstorage
    have hwith : withHostname hostname (.obj root) = .ok (.obj (Entries.insert "storage"
        (.obj (Entries.insert "files" (.arr (files ++ [hostnameFile hostname])) storage)) root)) :=
      withHostname_eq_ok_iff.mpr ⟨root, storage, _, rfl, hstorage,
        withFile_eq_ok_iff.mpr ⟨files, hfiles, rfl⟩, rfl⟩
    have hout := Json.ofBytes?_render (readable_withHostname hdoc hwith)
    refine ⟨_, _, _, ?_, gainsFile_insert hdoc.sorted hsection.sorted, hout, fun hprints => ?_⟩
    · unfold addHostname
      rw [hread]
      dsimp only
      rw [hwith]
    · have hsame : (Json.obj root).sent = .obj root :=
        Option.some.inj ((Json.ofBytes?_render hdoc).symm.trans hprints)
      rw [hout, sent_withHostname hwith hsame]
  · intro hnot
    cases h : addHostname payload hostname with
    | error e => exact ⟨e, rfl, isInvalidConfig_of_addHostname h⟩
    | ok out =>
      obtain ⟨doc, doc', hread, hwith, -⟩ := exists_of_addHostname h
      obtain ⟨root, storage, storage', rfl, hstorage, hfile, -⟩ := withHostname_eq_ok_iff.mp hwith
      obtain ⟨files, hfiles, -⟩ := withFile_eq_ok_iff.mp hfile
      exact absurd ⟨root, storage, files, hread, holds_iff.mpr ⟨hstorage, hfiles⟩⟩ hnot

/-- A storage section with disks and one file. -/
def motdStorage : List (String × Json) :=
  [("disks", .arr []), ("files", .arr [.obj [("path", .str "/etc/motd")]])]

theorem printsBack_motd : PrintsBack (.obj [("storage", .obj motdStorage)]) := by
  have hfile : Readable 124 (.obj [("path", .str "/etc/motd")]) :=
    .obj (List.pairwise_singleton _ _) fun e he => List.mem_singleton.mp he ▸ .str _
  have hstorage : Readable 126 (.obj motdStorage) := by
    refine .obj (List.pairwise_pair.mpr (by decide)) ?_
    simp only [motdStorage, List.forall_mem_cons]
    exact ⟨.arr fun x hx => absurd hx List.not_mem_nil,
      .arr fun x hx => List.mem_singleton.mp hx ▸ hfile, fun e he => absurd he List.not_mem_nil⟩
  exact Json.ofBytes?_render (.obj (List.pairwise_singleton _ _)
    fun e he => List.mem_singleton.mp he ▸ hstorage)

/-- A payload with a storage section takes the host name, and one that is a list does not. -/
theorem addHostname_adds_file_motd :
    (∃ out root' storage',
      addHostname (Json.utf8 (Json.obj [("storage", .obj motdStorage)]).render) "worker-1" =
        .ok out ∧
      Json.ofBytes? out = some (.obj root') ∧
      Entries.find? "storage" root' = some (.obj storage') ∧
      Entries.find? "disks" storage' = some (.arr [])) ∧
    ∃ e, addHostname "[]".toUTF8 "worker-1" = .error e ∧ e.isInvalidConfig = true := by
  constructor
  · obtain ⟨out, root', storage', hout, hgains, -, hback⟩ :=
      (addHostname_adds_file _ "worker-1").1 _ motdStorage _ printsBack_motd ⟨.inl rfl, .inl rfl⟩
    exact ⟨out, root', storage', hout, hback printsBack_motd, hgains.storage_eq,
      hgains.beside_files "disks" (by decide)⟩
  · refine (addHostname_adds_file "[]".toUTF8 "worker-1").2 ?_
    rintro ⟨root, storage, files, hread, -⟩
    have hlist : Json.ofBytes? "[]".toUTF8 = some (.arr []) :=
      Json.ofBytes?_render (.arr fun x hx => absurd hx List.not_mem_nil)
    rw [hlist] at hread
    exact nomatch Option.some.inj hread

end MachineActuator.Payload
