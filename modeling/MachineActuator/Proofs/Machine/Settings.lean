import Mathlib
import MachineActuator.Environment
import MachineActuator.Machine.Settings

/-! # Settings of the infrastructure

The settings are taken from a document in a config map of the tenant cluster.  Every document with
both texts is accepted, whatever else is in it, and no other (`InfraSettings.parse_eq_ok_iff`).
What keeps them from being loaded is a mistake in the configuration, unless there is no config map
at all; of two missing texts the id is told (`InfraSettings.load_accepts_exactly`). -/

namespace MachineActuator

namespace InfraSettings

/-! ### Documents -/

/-- There is a text under the key. -/
def HasText (fields : List (String × Json)) (key : String) : Prop :=
  ∃ text, Entries.find? key fields = some (.str text)

/-- The document is an object with the two texts of the settings. -/
def States (doc : Json) (s : InfraSettings) : Prop :=
  ∃ fields, doc = .obj fields ∧ Entries.find? "namespace" fields = some (.str s.ns) ∧
    Entries.find? "infraID" fields = some (.str s.infraId)

/-- The mistake of a document without a text under the key. -/
def withoutText (source key : String) : ControllerError :=
  .invalidConfig ("configMap " ++ source ++ ": The map extracted with key " ++ documentKey ++
    " doesn't contain key " ++ key)

variable {fields : List (String × Json)} {source key text : String} {doc : Json}
  {s : InfraSettings} {e : ControllerError}

theorem field_of_text (h : Entries.find? key fields = some (.str text)) :
    field source (.obj fields) key = .ok text := by
  unfold field Json.get?
  dsimp only
  rw [h]
  rfl

theorem field_of_not_hasText (h : ¬ HasText fields key) :
    field source (.obj fields) key = .error (withoutText source key) := by
  have hnone : (Entries.find? key fields >>= Json.str?) = none := by
    cases hfind : Entries.find? key fields with
    | none => rfl
    | some v =>
      cases v with
      | str text => exact absurd ⟨text, hfind⟩ h
      | _ => rfl
  unfold field Json.get?
  dsimp only
  rw [hnone]
  rfl

theorem field_eq_ok_iff :
    field source (.obj fields) key = .ok text ↔ Entries.find? key fields = some (.str text) := by
  refine ⟨fun h => ?_, field_of_text⟩
  rcases Classical.em (HasText fields key) with ⟨found, hfound⟩ | hnot
  · rw [field_of_text hfound] at h
    rw [hfound, Except.ok.inj h]
  · rw [field_of_not_hasText hnot] at h
    simp at h

theorem ofJson_obj (source : String) (fields : List (String × Json)) :
    ofJson source (.obj fields) =
      match field source (.obj fields) "infraID" with
      | .error e => .error e
      | .ok infraId =>
        match field source (.obj fields) "namespace" with
        | .error e => .error e
        | .ok ns => .ok { ns, infraId } := rfl

theorem ofJson_eq_ok_iff : ofJson source doc = .ok s ↔ States doc s := by
  cases doc with
  | obj fields =>
    rw [ofJson_obj]
    constructor
    · intro h
      split at h
      · simp at h
      · next infraId hid =>
        split at h
        · simp at h
        · next ns hns =>
          obtain rfl := Except.ok.inj h
          exact ⟨fields, rfl, field_eq_ok_iff.mp hns, field_eq_ok_iff.mp hid⟩
    · rintro ⟨_, hfields, hns, hid⟩
      obtain rfl := Json.obj.inj hfields
      rw [field_of_text hid, field_of_text hns]
  | _ => exact ⟨nofun, fun ⟨_, hfields, _⟩ => by simp at hfields⟩

theorem parse_eq_ok_iff :
    parse text source = .ok s ↔ ∃ doc, Json.parse? text = some doc ∧ States doc s := by
  unfold parse
  cases Json.parse? text with
  | none => exact ⟨nofun, nofun⟩
  | some doc =>
    refine ofJson_eq_ok_iff.trans ⟨fun h => ⟨doc, rfl, h⟩, ?_⟩
    rintro ⟨_, hdoc, h⟩
    rwa [Option.some.inj hdoc]

/-! ### Mistakes -/

theorem isInvalidConfig_of_field (h : field source doc key = .error e) :
    e.isInvalidConfig = true := by
  unfold field at h
  split at h
  · simp at h
  · rw [← Except.error.inj h]
    rfl

theorem isInvalidConfig_of_ofJson (h : ofJson source doc = .error e) :
    e.isInvalidConfig = true := by
  unfold ofJson at h
  split at h
  · split at h
    · next hid =>
      rw [← Except.error.inj h]
      exact isInvalidConfig_of_field hid
    · split at h
      · next hns =>
        rw [← Except.error.inj h]
        exact isInvalidConfig_of_field hns
      · simp at h
  · rw [← Except.error.inj h]
    rfl

theorem isInvalidConfig_of_parse (h : parse text source = .error e) :
    e.isInvalidConfig = true := by
  unfold parse at h
  split at h
  · exact isInvalidConfig_of_ofJson h
  · rw [← Except.error.inj h]
    rfl

theorem parse_of_not_infraId (hdoc : Json.parse? text = some (.obj fields))
    (h : ¬ HasText fields "infraID") :
    parse text source = .error (withoutText source "infraID") := by
  unfold parse
  rw [hdoc]
  dsimp only
  rw [ofJson_obj, field_of_not_hasText h]

theorem parse_of_not_namespace (hdoc : Json.parse? text = some (.obj fields))
    (hid : HasText fields "infraID") (h : ¬ HasText fields "namespace") :
    parse text source = .error (withoutText source "namespace") := by
  obtain ⟨id, hid⟩ := hid
  unfold parse
  rw [hdoc]
  dsimp only
  rw [ofJson_obj, field_of_text hid, field_of_not_hasText h]

/-! ### Loading -/

variable {env : Environment} {ns name : String} {values : StringMap String}

theorem run_load (h : env.tenant.failures .getConfigMapValue = none) :
    (env.run .memory (load ns name)).1 =
      match env.tenant.configMapValue ns name documentKey with
      | .error e => .error (.client e)
      | .ok text => parse text (ns ++ "/" ++ name) := by
  have hanswer : env.tenant.answer (.getConfigMapValue ns name documentKey) =
      (env.tenant.configMapValue ns name documentKey, env.tenant) := by
    unfold TenantCluster.answer
    rw [show TenantCall.operation (.getConfigMapValue ns name documentKey) =
      .getConfigMapValue from rfl, h]
    rfl
  unfold load Environment.run
  rw [Program.bind_eq_bind, Program.run_bind, Program.tenant, Program.run_effect]
  simp only [Environment.answer, Environment.tenantInMemory, hanswer]
  cases env.tenant.configMapValue ns name documentKey <;> rfl

theorem run_load_of_missing (h : env.tenant.failures .getConfigMapValue = none)
    (hmissing : env.tenant.configMaps ns name = none) :
    (env.run .memory (load ns name)).1 =
      .error (.client (.notFound (objectPath "ConfigMap" ns name))) := by
  rw [run_load h, TenantCluster.configMapValue, hmissing]

theorem run_load_of_keyless (h : env.tenant.failures .getConfigMapValue = none)
    (hvalues : env.tenant.configMaps ns name = some values)
    (hkeyless : values.get? documentKey = none) :
    ∃ text, (env.run .memory (load ns name)).1 = .error (.client (.invalidConfig text)) := by
  rw [run_load h, TenantCluster.configMapValue, hvalues]
  dsimp only
  rw [hkeyless]
  exact ⟨_, rfl⟩

theorem run_load_of_text (h : env.tenant.failures .getConfigMapValue = none)
    (hvalues : env.tenant.configMaps ns name = some values)
    (htext : values.get? documentKey = some text) :
    (env.run .memory (load ns name)).1 = parse text (ns ++ "/" ++ name) := by
  rw [run_load h, TenantCluster.configMapValue, hvalues]
  dsimp only
  rw [htext]
  rfl

/-- The settings are loaded exactly when the config map holds a document that states them.
Otherwise the configuration is at fault, but for a config map that is missing; a document that
lacks a text is told, the id first.  What the config map is called is for errors alone. -/
theorem load_accepts_exactly (env : Environment) (ns name : String)
    (h : env.tenant.failures .getConfigMapValue = none) :
    let loaded := (env.run .memory (load ns name)).1
    (∀ s, loaded = .ok s ↔ ∃ values text doc, env.tenant.configMaps ns name = some values ∧
      values.get? "config" = some text ∧ Json.parse? text = some doc ∧ States doc s) ∧
    (env.tenant.configMaps ns name = none →
      ∃ e, loaded = .error e ∧ e.isInvalidConfig = false) ∧
    (∀ values, env.tenant.configMaps ns name = some values →
      ∀ e, loaded = .error e → e.isInvalidConfig = true) ∧
    (∀ values text fields, env.tenant.configMaps ns name = some values →
      values.get? "config" = some text → Json.parse? text = some (.obj fields) →
      (¬ HasText fields "infraID" →
        loaded = .error (withoutText (ns ++ "/" ++ name) "infraID")) ∧
      (HasText fields "infraID" → ¬ HasText fields "namespace" →
        loaded = .error (withoutText (ns ++ "/" ++ name) "namespace"))) ∧
    (∀ text source source' s, parse text source = .ok s ↔ parse text source' = .ok s) := by
  intro loaded
  refine ⟨fun s => ⟨fun hok => ?_, ?_⟩, fun hmissing => ⟨_, run_load_of_missing h hmissing, rfl⟩,
    fun values hvalues e he => ?_, fun values text fields hvalues htext hdoc => ?_,
    fun text source source' s => parse_eq_ok_iff.trans parse_eq_ok_iff.symm⟩
  · cases hvalues : env.tenant.configMaps ns name with
    | none => exact absurd (hok.symm.trans (run_load_of_missing h hvalues)) nofun
    | some values =>
      cases htext : values.get? documentKey with
      | none =>
        obtain ⟨_, herror⟩ := run_load_of_keyless h hvalues htext
        exact absurd (hok.symm.trans herror) nofun
      | some text =>
        obtain ⟨doc, hdoc, hstates⟩ :=
          parse_eq_ok_iff.mp ((run_load_of_text h hvalues htext).symm.trans hok)
        exact ⟨values, text, doc, rfl, htext, hdoc, hstates⟩
  · rintro ⟨values, text, doc, hvalues, htext, hdoc, hstates⟩
    exact (run_load_of_text h hvalues htext).trans (parse_eq_ok_iff.mpr ⟨doc, hdoc, hstates⟩)
  · cases htext : values.get? documentKey with
    | none =>
      obtain ⟨_, herror⟩ := run_load_of_keyless h hvalues htext
      rw [Except.error.inj (he.symm.trans herror)]
      rfl
    | some text =>
      exact isInvalidConfig_of_parse ((run_load_of_text h hvalues htext).symm.trans he)
  · have hloaded : loaded = _ := run_load_of_text h hvalues htext
    rw [hloaded]
    exact ⟨parse_of_not_infraId hdoc, parse_of_not_namespace hdoc⟩

/-- Of four config maps the first states the settings, the second has the wrong kind of id and no
namespace, the third has no document, and the fourth is not there. -/
theorem load_accepts_exactly_cloud :
    let full := "\x7b\"infraID\": \"c\", \"more\": [1], \"namespace\": \"infra\"\x7d"
    let tenant : TenantCluster := (({} : TenantCluster).addConfigMapValue "ns" "full" "config" full
      |>.addConfigMapValue "ns" "half" "config" "\x7b\"infraID\": 7\x7d")
      |>.addConfigMapValue "ns" "bare" "other" full
    let env : Environment := { tenant, now := ⟨0, 0⟩ }
    (env.run .memory (load "ns" "full")).1 = .ok ⟨"infra", "c"⟩ ∧
    (env.run .memory (load "ns" "half")).1 = .error (withoutText "ns/half" "infraID") ∧
    (∀ e, (env.run .memory (load "ns" "bare")).1 = .error e → e.isInvalidConfig = true) ∧
    ∃ e, (env.run .memory (load "ns" "none")).1 = .error e ∧ e.isInvalidConfig = false := by
  intro full tenant env
  have hfull : Json.parse? full = some (.obj
      [("infraID", .str "c"), ("more", .arr [.num (.int 1)]), ("namespace", .str "infra")]) := by
    decide +kernel
  have hhalf : Json.parse? "\x7b\"infraID\": 7\x7d" = some (.obj [("infraID", .num (.int 7))]) := by
    decide +kernel
  refine ⟨?_, ?_, ?_, ?_⟩
  · exact ((load_accepts_exactly env "ns" "full" rfl).1 _).mpr
      ⟨_, full, _, rfl, rfl, hfull, _, rfl, rfl, rfl⟩
  · exact ((load_accepts_exactly env "ns" "half" rfl).2.2.2.1 _ _ _ rfl rfl hhalf).1 nofun
  · exact (load_accepts_exactly env "ns" "bare" rfl).2.2.1 _ rfl
  · exact (load_accepts_exactly env "ns" "none" rfl).2.1 rfl

end InfraSettings

end MachineActuator
