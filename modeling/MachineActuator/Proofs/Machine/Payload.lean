import Mathlib
import MachineActuator.Machine.Payload
import MachineActuator.Proofs.Json.RoundTrip

/-! # The host name in a payload

The payload with the host name in it is a document again, and reads back as the document that was
built (`exists_of_addHostname`): the file with the host name is the last of its files
(`namesHost_of_addHostname`).  The document that was read may be nested as deep as the reader goes;
the new file goes five levels deep and so never takes it deeper. -/

namespace MachineActuator.Payload

open Json (Readable sent sentFields sentItems)

variable {hostname : String} {payload out : ByteArray}

/-! ### What is accepted -/

theorem withFile_eq_ok_iff {storage storage' : List (String × Json)} :
    withFile hostname storage = .ok storage' ↔
      ∃ files, (Entries.find? "files" storage).getD (.arr []) = .arr files ∧
        storage' = Entries.insert "files" (.arr (files ++ [hostnameFile hostname])) storage := by
  unfold withFile
  constructor
  · intro h
    split at h
    · next files hfiles => exact ⟨files, hfiles, (Except.ok.inj h).symm⟩
    · cases h
  · rintro ⟨files, hfiles, rfl⟩
    rw [hfiles]

theorem withHostname_eq_ok_iff {doc doc' : Json} :
    withHostname hostname doc = .ok doc' ↔
      ∃ root storage storage', doc = .obj root ∧
        (Entries.find? "storage" root).getD (.obj []) = .obj storage ∧
        withFile hostname storage = .ok storage' ∧
        doc' = .obj (Entries.insert "storage" (.obj storage') root) := by
  unfold withHostname
  constructor
  · intro h
    split at h
    · next root =>
      split at h
      · next storage hstorage =>
        split at h
        · next storage' hfile =>
          exact ⟨root, storage, storage', rfl, hstorage, hfile, (Except.ok.inj h).symm⟩
        · cases h
      · cases h
    · cases h
  · rintro ⟨root, storage, storage', rfl, hstorage, hfile, rfl⟩
    dsimp only
    rw [hstorage]
    dsimp only
    rw [hfile]

/-! ### The document stays readable -/

theorem hostnameFile_eq (hostname : String) :
    hostnameFile hostname =
      .obj [("contents", .obj [("source", .str ("data:," ++ hostname))]),
        ("filesystem", .str "root"), ("mode", .num (.int 420)), ("path", .str "/etc/hostname")] :=
  rfl

theorem readable_hostnameFile (hostname : String) (depth : ℕ) :
    Readable (depth + 2) (hostnameFile hostname) := by
  have hkeys : ["contents", "filesystem", "mode", "path"].Pairwise (· < ·) := by decide
  have hcontents : Readable (depth + 1) (.obj [("source", .str ("data:," ++ hostname))]) :=
    .obj (List.pairwise_singleton _ _) fun e he => List.mem_singleton.mp he ▸ .str _
  rw [hostnameFile_eq]
  refine .obj ((List.pairwise_map (f := Prod.fst)).mp hkeys) ?_
  simp only [List.forall_mem_cons]
  exact ⟨hcontents, .str _, .num (by constructor <;> decide), .str _, fun e he => nomatch he⟩

theorem readable_withFile {depth : ℕ} {storage storage' : List (String × Json)}
    (hstorage : Readable (depth + 4) (.obj storage))
    (h : withFile hostname storage = .ok storage') : Readable (depth + 4) (.obj storage') := by
  have hnone : Readable (depth + 3) (.arr []) := .arr fun x hx => absurd hx List.not_mem_nil
  obtain ⟨files, hfiles, rfl⟩ := withFile_eq_ok_iff.mp h
  refine hstorage.insert (.arr fun x hx => ?_) "files"
  obtain hx | hx := List.mem_append.mp hx
  · exact (hstorage.of_getD hnone hfiles).of_mem hx
  · exact List.mem_singleton.mp hx ▸ readable_hostnameFile hostname depth

theorem readable_withHostname {depth : ℕ} {doc doc' : Json} (hdoc : Readable (depth + 5) doc)
    (h : withHostname hostname doc = .ok doc') : Readable (depth + 5) doc' := by
  have hnone : Readable (depth + 4) (.obj []) := .obj .nil fun e he => absurd he List.not_mem_nil
  obtain ⟨root, storage, storage', rfl, hstorage, hfile, rfl⟩ := withHostname_eq_ok_iff.mp h
  exact hdoc.insert (readable_withFile (hdoc.of_getD hnone hstorage) hfile) "storage"

/-! ### The document that is stored -/

/-- The stored bytes read back as the document that was built. -/
theorem exists_of_addHostname (h : addHostname payload hostname = .ok out) :
    ∃ doc doc', Json.ofBytes? payload = some doc ∧ withHostname hostname doc = .ok doc' ∧
      Json.ofBytes? out = some doc'.sent := by
  unfold addHostname at h
  split at h
  · exact nomatch h
  · next doc hdoc =>
    split at h
    · exact nomatch h
    · next doc' hdoc' =>
      obtain rfl := Except.ok.inj h
      have hreadable := readable_withHostname
        (show Readable (122 + 5) doc from Json.readable_of_ofBytes? hdoc) hdoc'
      exact ⟨doc, doc', hdoc, hdoc', Json.ofBytes?_render hreadable⟩

/-- The bytes are a document whose last file gives the host its name. -/
def NamesHost (bytes : ByteArray) (hostname : String) : Prop :=
  ∃ root storage files,
    Json.ofBytes? bytes = some (.obj root) ∧
      Entries.find? "storage" root = some (.obj storage) ∧
      Entries.find? "files" storage = some (.arr files) ∧
      files.getLast? = some (.obj
        [("contents", .obj [("source", .str ("data:," ++ hostname))]),
          ("filesystem", .str "root"), ("mode", .num (.int 420)), ("path", .str "/etc/hostname")])

theorem namesHost_of_addHostname (h : addHostname payload hostname = .ok out) :
    NamesHost out hostname := by
  obtain ⟨doc, doc', -, hdoc', hout⟩ := exists_of_addHostname h
  obtain ⟨root, storage, storage', rfl, hstorage, hfile, rfl⟩ := withHostname_eq_ok_iff.mp hdoc'
  obtain ⟨files, hfiles, rfl⟩ := withFile_eq_ok_iff.mp hfile
  refine ⟨_, sentFields (Entries.insert "files" (.arr (files ++ [hostnameFile hostname])) storage),
    sentItems (files ++ [hostnameFile hostname]), hout, ?_, ?_, ?_⟩
  · rw [Json.find?_sentFields, Entries.find?_insert, if_pos rfl]
    rfl
  · rw [Json.find?_sentFields, Entries.find?_insert, if_pos rfl]
    rfl
  · rw [Json.sentItems_eq_map, List.map_append, List.map_singleton, List.getLast?_concat]
    rfl

end MachineActuator.Payload
