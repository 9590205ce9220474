import LcpGateway.Config.ProfileFields

/-!
# The stored configuration

Library `Config`. Sources `src/api/config.py:289–293,419–500,719–737` and
`src/api/cost_cache.py:324–343`. `Config` holds ten sections in memory; `save` writes each to its
row of the settings table, and a new process reads the rows back, with the seed in place of what is
absent, empty or invalid. A row is the value `json.loads` gives for it; writes are taken to succeed.
-/

namespace LcpGateway.Config
open LcpGateway.Base

/-- The sections of a configuration. -/
inductive Section where
  | server
  | profiles
  | providers
  | pricing
  | circuitBreaker
  | retry
  | database
  | dynamicRouting
  | modelLimits
  | plugins
  deriving DecidableEq, Repr

/-- `ALL_SECTIONS`; `config.py:291–293`. -/
def ALL_SECTIONS : List Section :=
  [.server, .profiles, .providers, .pricing, .circuitBreaker, .retry, .database, .dynamicRouting,
    .modelLimits, .plugins]

/-- `REQUIRED_SECTIONS`; `config.py:289–290`. -/
def REQUIRED_SECTIONS : List Section :=
  [.server, .profiles, .providers, .pricing, .circuitBreaker, .database]

/-- `_data`: the value of each section in memory. -/
abbrev Sections := Section → Json

/-- The settings rows of the sections: `none` when a row is absent or is no JSON. -/
structure SettingsStore where
  rows : Section → Option Json

/-- `isinstance(value, (dict, list))`. -/
def isContainer : Json → Bool
  | .obj _ => true
  | .arr _ => true
  | _ => false

namespace SettingsStore

/-- `get_config_section`, given the row of the section; `cost_cache.py:324–339`. -/
def getConfigSection (row : Option Json) : Option Json := row.filter isContainer

/-- `set_config_section`; `cost_cache.py:341–343`. -/
def setConfigSection (store : SettingsStore) (s : Section) (value : Json) : SettingsStore :=
  ⟨fun t ↦ if t = s then some (value.orElse (.obj [])) else store.rows t⟩

end SettingsStore

/-- The check of one profile; `config.py:429–436`. -/
def validateProfile (e : String × Json) : Except FieldError Unit :=
  let missing : Except FieldError Unit := .error (.config s!"Profile '{e.1}' missing 'chain'")
  match e.2 with
  | .obj prof =>
    match prof.lookup "chain" with
    | none => missing
    | some chain =>
      if chain.truthy then do
        let _ ← validateProfileFields e.1 prof
      else .error (.config s!"Profile '{e.1}' has empty 'chain'")
  | _ => missing

/-- The name of a section in the texts of `_validate`. -/
def Section.title : Section → String
  | .server => "server"
  | .profiles => "profiles"
  | .providers => "providers"
  | .pricing => "pricing"
  | .circuitBreaker => "circuit_breaker"
  | .retry => "retry"
  | .database => "database"
  | .dynamicRouting => "dynamic_routing"
  | .modelLimits => "model_limits"
  | .plugins => "plugins"

/-- The check of a section that only has to be a dictionary; `config.py:440–442`. -/
def validateDict (s : Section) (data : Json) : Except FieldError Unit :=
  if data.isObj then .ok () else .error (.config s!"'{s.title}' must be a dict")

/-- `_validate`; `config.py:419–444`. -/
def validate (s : Section) (data : Json) : Except FieldError Unit :=
  match s with
  | .server =>
    if (data.get? "port").isNone then .error (.config "Missing 'server.port'")
    else if (data.get? "default_profile").isNone then
      .error (.config "Missing 'server.default_profile'")
    else .ok ()
  | .profiles =>
    match data with
    | .obj profiles => profiles.forM validateProfile
    | _ => .error (.config "'profiles' must be a dict")
  | .pricing =>
    match data with
    | .arr _ => .ok ()
    | _ => .error (.config "'pricing' must be a list")
  | .providers => validateDict .providers data
  | .circuitBreaker => validateDict .circuitBreaker data
  | .database => validateDict .database data
  | _ => .ok ()

/-- The seed of a configuration: null for a section it lacks. Its required sections are not empty
and pass the checks. -/
structure Seed where
  sections : Section → Json
  required : ∀ s ∈ REQUIRED_SECTIONS,
    isContainer (sections s) ∧ (sections s).truthy ∧ (validate s (sections s)).isOk

/-- The environment: `LISTEN_PORT` when it is set and is a number, `COST_DB` when it is set. -/
structure Environment where
  listenPort : Option Int
  costDb : Option String

/-- What a process starts with. -/
structure Boot where
  seed : Seed
  env : Environment
  -- how `json.dumps` spells a key of a dictionary that is not text
  keyText : Json → String

namespace Boot

variable (boot : Boot)

/-- The seed's value of a section, empty when it has none; `config.py:473–477`. -/
def seedOf (s : Section) : Json :=
  match boot.seed.sections s with
  | .null => .obj []
  | v => v

/-- The stored value of a section when there is one that is not empty, else the seed's;
`config.py:464–477`. -/
def loadRow (s : Section) (row : Option Json) : Json :=
  ((SettingsStore.getConfigSection row).filter Json.truthy).getD (boot.seedOf s)

/-- A required section that fails its check is replaced by the seed's; an `OverflowError` is not
caught; `config.py:480–487`. -/
def checked (s : Section) (data : Json) : Option Json :=
  if s ∈ REQUIRED_SECTIONS then
    match validate s data with
    | .ok _ => some data
    | .error (.config _) => some (boot.seed.sections s)
    | .error .overflow => none
  else some data

/-- `data[key] = value`; a `TypeError` is ignored. -/
def overridden (key : String) (value : Json) : Json → Json
  | .obj fields => .obj (setField key value fields)
  | v => v

/-- The overrides of the environment; `config.py:490–499`. -/
def withEnv (s : Section) (data : Json) : Json :=
  match s with
  | .server => (boot.env.listenPort.map (fun port ↦ overridden "port" (.int port) data)).getD data
  | .database => (boot.env.costDb.map (fun path ↦ overridden "path" (.str path) data)).getD data
  | _ => data

/-- One section as a new process has it. -/
def hydrateRow (s : Section) (row : Option Json) : Option Json :=
  (boot.checked s (boot.loadRow s row)).map (boot.withEnv s)

/-- `_hydrate`: the configuration a new process reads; `none` when the constructor raises. -/
def hydrate (store : SettingsStore) : Option Sections :=
  if ALL_SECTIONS.all (fun s ↦ (boot.hydrateRow s (store.rows s)).isSome) then
    some (fun s ↦ (boot.hydrateRow s (store.rows s)).getD .null)
  else none

end Boot

/-- One section of a save; null is skipped; `config.py:730–736`. -/
def saveSection (data : Sections) (store : SettingsStore) (s : Section) : SettingsStore :=
  match data s with
  | .null => store
  | value => store.setConfigSection s value

/-- `save`; `config.py:719–737`. -/
def save (data : Sections) (store : SettingsStore) : SettingsStore :=
  ALL_SECTIONS.foldl (saveSection data) store

/-! ### What a save and a load give back -/

/-- A section that is saved and loaded again is the same. -/
def Boot.Stable (boot : Boot) (s : Section) (data : Json) : Prop :=
  data ≠ .null ∧ boot.hydrateRow s (some (data.orElse (.obj []))) = some data

/-- A section that is not empty and passes its check. -/
structure Sound (s : Section) (data : Json) : Prop where
  container : isContainer data
  nonempty : data.truthy
  valid : (validate s data).isOk

variable {boot : Boot} {s : Section} {data : Json}

/-- What a save leaves in a row. -/
theorem rows_save (data : Sections) (store : SettingsStore) (hnull : data s ≠ .null) :
    (save data store).rows s = some ((data s).orElse (.obj [])) := by
  have hwrite : ∀ (sections : List Section) (store : SettingsStore),
      (sections.foldl (saveSection data) store).rows s =
        if s ∈ sections then some ((data s).orElse (.obj [])) else store.rows s := by
    intro sections
    induction sections with
    | nil => simp
    | cons t rest ih =>
      intro store
      rw [List.foldl_cons, ih]
      by_cases hrest : s ∈ rest
      · simp [hrest]
      · by_cases hts : s = t
        · subst hts
          rw [if_neg hrest, if_pos List.mem_cons_self]
          cases hdata : data s <;> simp_all [saveSection, SettingsStore.setConfigSection]
        · rw [if_neg hrest, if_neg (by simp [hts, hrest])]
          cases hdata : data t <;> simp [saveSection, SettingsStore.setConfigSection, hdata, hts]
  have hall : s ∈ ALL_SECTIONS := by cases s <;> decide
  rw [save, hwrite, if_pos hall]

/-- A configuration is read back from a store exactly when each section is. -/
theorem hydrate_eq_some_iff {store : SettingsStore} {data : Sections} :
    boot.hydrate store = some data ↔ ∀ s, boot.hydrateRow s (store.rows s) = some (data s) := by
  have hall : ∀ s, s ∈ ALL_SECTIONS := fun s ↦ by cases s <;> decide
  unfold Boot.hydrate
  constructor
  · intro h s
    split at h
    · next hsome =>
      obtain rfl := Option.some.inj h
      obtain ⟨v, hv⟩ := Option.isSome_iff_exists.mp (List.all_eq_true.mp hsome s (hall s))
      simp [hv]
    · simp at h
  · intro h
    rw [if_pos (List.all_eq_true.mpr fun s _ ↦ by simp [h s])]
    simp [h]

/-- What is loaded from a value: itself when it is a container that is not empty. -/
theorem loadRow_some : boot.loadRow s (some data) =
    if isContainer data ∧ data.truthy then data else boot.seedOf s := by
  rw [Boot.loadRow, SettingsStore.getConfigSection, Option.filter_some]
  by_cases hcontainer : isContainer data
  · rw [if_pos hcontainer, Option.filter_some]
    by_cases hnonempty : data.truthy <;> simp [hcontainer, hnonempty]
  · simp [hcontainer]

/-- What is loaded is a container that is not empty, or the seed's value. -/
theorem loadRow_cases (boot : Boot) (s : Section) (row : Option Json) :
    (isContainer (boot.loadRow s row) ∧ (boot.loadRow s row).truthy) ∨
      boot.loadRow s row = boot.seedOf s := by
  cases row with
  | none => exact .inr rfl
  | some stored =>
    rw [loadRow_some]
    by_cases hkept : isContainer stored ∧ stored.truthy
    · rw [if_pos hkept]
      exact .inl hkept
    · rw [if_neg hkept]
      exact .inr rfl

/-- What is loaded is loaded again after a save. -/
theorem loadRow_loadRow (row : Option Json) :
    boot.loadRow s (some ((boot.loadRow s row).orElse (.obj []))) = boot.loadRow s row := by
  rcases loadRow_cases boot s row with hkept | hseed
  · rw [Json.orElse, if_pos hkept.2, loadRow_some, if_pos hkept]
  · rw [hseed, loadRow_some, Json.orElse]
    by_cases hnonempty : (boot.seedOf s).truthy
    · rw [if_pos hnonempty, ite_eq_right_iff.mpr]
      exact fun _ ↦ rfl
    · rw [if_neg hnonempty, if_neg (fun h ↦ by simp [Json.truthy] at h)]

/-- A seed's required section is sound. -/
theorem Seed.sound (seed : Seed) (hs : s ∈ REQUIRED_SECTIONS) : Sound s (seed.sections s) :=
  ⟨(seed.required s hs).1, (seed.required s hs).2.1, (seed.required s hs).2.2⟩

/-- A required section is loaded as a container that is not empty. -/
theorem loadRow_required (boot : Boot) (hs : s ∈ REQUIRED_SECTIONS) (row : Option Json) :
    isContainer (boot.loadRow s row) ∧ (boot.loadRow s row).truthy := by
  obtain ⟨hcontainer, hnonempty, -⟩ := boot.seed.sound hs
  rcases loadRow_cases boot s row with hkept | hseed
  · exact hkept
  · have hseedOf : boot.seedOf s = boot.seed.sections s := by
      unfold Boot.seedOf
      split
      · next hnull => simp [hnull, Json.truthy] at hnonempty
      · rfl
    rw [hseed, hseedOf]
    exact ⟨hcontainer, hnonempty⟩

/-- What passes the check, or replaces what does not, is sound. -/
theorem sound_checked (hs : s ∈ REQUIRED_SECTIONS) {loaded : Json}
    (h : boot.checked s loaded = some data) (hcontainer : isContainer loaded)
    (hnonempty : loaded.truthy) : Sound s data := by
  rw [Boot.checked, if_pos hs] at h
  split at h
  · next hvalid =>
    obtain rfl := Option.some.inj h
    exact ⟨hcontainer, hnonempty, isOk_iff.mpr ⟨_, hvalid⟩⟩
  · obtain rfl := Option.some.inj h
    exact boot.seed.sound hs
  · simp at h

/-- Writing a field twice writes it once. -/
theorem overridden_overridden (key : String) (value : Json) :
    Boot.overridden key value (Boot.overridden key value data) =
      Boot.overridden key value data := by
  cases data <;> simp [Boot.overridden, setField_setField]

/-- The environment overrides nothing twice. -/
theorem withEnv_withEnv (s : Section) (data : Json) :
    boot.withEnv s (boot.withEnv s data) = boot.withEnv s data := by
  cases s with
  | server =>
    cases hport : boot.env.listenPort <;> simp [Boot.withEnv, hport, overridden_overridden]
  | database => cases hpath : boot.env.costDb <;> simp [Boot.withEnv, hpath, overridden_overridden]
  | _ => rfl

/-- An overridden field leaves a sound server or database section sound. -/
theorem Sound.overridden {key : String} {value : Json} (h : Sound s data)
    (hs : s = .server ∨ s = .database) : Sound s (Boot.overridden key value data) := by
  obtain ⟨fields, rfl⟩ : ∃ fields, data = .obj fields := by
    have hvalid := h.valid
    rcases hs with rfl | rfl <;> cases data <;>
      simp_all [validate, validateDict, Json.get?, Json.isObj, Except.isOk, Except.toBool]
  refine ⟨rfl, ?_, ?_⟩
  · simp [Boot.overridden, Json.truthy, setField_ne_nil]
  · have hkept : ∀ k, ((Json.obj fields).get? k).isSome →
        ((Boot.overridden key value (.obj fields)).get? k).isSome := by
      intro k hk
      simp only [Boot.overridden, Json.get?, lookup_setField] at hk ⊢
      split
      · rfl
      · exact hk
    rcases hs with rfl | rfl
    · have hvalid := h.valid
      simp only [validate] at hvalid ⊢
      split at hvalid
      · simp [Except.isOk, Except.toBool] at hvalid
      · next hport =>
        split at hvalid
        · simp [Except.isOk, Except.toBool] at hvalid
        · next hprofile =>
          rw [Bool.not_eq_true, Option.isNone_eq_false_iff] at hport hprofile
          have hport' := Option.isNone_eq_false_iff.mpr (hkept _ hport)
          have hprofile' := Option.isNone_eq_false_iff.mpr (hkept _ hprofile)
          rw [hport', hprofile']
          rfl
    · rfl

/-- The environment leaves a sound section sound. -/
theorem Sound.withEnv (h : Sound s data) : Sound s (boot.withEnv s data) := by
  cases s with
  | server =>
    rw [Boot.withEnv]
    cases boot.env.listenPort with
    | none => exact h
    | some port => exact h.overridden (.inl rfl)
  | database =>
    rw [Boot.withEnv]
    cases boot.env.costDb with
    | none => exact h
    | some path => exact h.overridden (.inr rfl)
  | _ => exact h

/-- A required section of a new process is sound and has the overrides of the environment. -/
theorem sound_hydrateRow (hs : s ∈ REQUIRED_SECTIONS) {row : Option Json}
    (h : boot.hydrateRow s row = some data) : Sound s data ∧ boot.withEnv s data = data := by
  obtain ⟨loaded, hchecked, rfl⟩ := Option.map_eq_some_iff.mp h
  obtain ⟨hcontainer, hnonempty⟩ := loadRow_required boot hs row
  exact ⟨(sound_checked hs hchecked hcontainer hnonempty).withEnv, withEnv_withEnv s loaded⟩

/-- A sound section that has the overrides of the environment is stable. -/
theorem Sound.stable (h : Sound s data) (henv : boot.withEnv s data = data) :
    boot.Stable s data := by
  obtain ⟨hcontainer, hnonempty, hvalid⟩ := h
  refine ⟨fun hnull ↦ by simp [hnull, Json.truthy] at hnonempty, ?_⟩
  obtain ⟨_, hvalid⟩ := isOk_iff.mp hvalid
  have hchecked : boot.checked s data = some data := by
    rw [Boot.checked, hvalid]
    simp
  rw [Json.orElse, if_pos hnonempty, Boot.hydrateRow, loadRow_some, if_pos ⟨hcontainer, hnonempty⟩,
    hchecked, Option.map_some, henv]

/-- A stable required section is sound. -/
theorem Boot.Stable.sound (h : boot.Stable s data) (hs : s ∈ REQUIRED_SECTIONS) : Sound s data :=
  (sound_hydrateRow hs h.2).1

/-- Every section of a new process is stable. -/
theorem stable_hydrateRow {row : Option Json} (h : boot.hydrateRow s row = some data) :
    boot.Stable s data := by
  by_cases hs : s ∈ REQUIRED_SECTIONS
  · obtain ⟨hsound, henv⟩ := sound_hydrateRow hs h
    exact hsound.stable henv
  · have hrow : ∀ row, boot.hydrateRow s row = some (boot.loadRow s row) := by
      intro row
      rw [Boot.hydrateRow, Boot.checked, if_neg hs]
      cases s <;> first | rfl | exact absurd (by decide) hs
    obtain rfl := Option.some.inj ((hrow row).symm.trans h)
    refine ⟨fun hnull ↦ ?_, by rw [hrow, loadRow_loadRow]⟩
    rcases loadRow_cases boot s row with hkept | hseed
    · simp [hnull, isContainer] at hkept
    · rw [hseed, Boot.seedOf] at hnull
      split at hnull
      · simp at hnull
      · next hne => exact hne hnull

/-- Stable sections are read back after a save. -/
theorem hydrate_save {data : Sections} {store : SettingsStore} (h : ∀ s, boot.Stable s (data s)) :
    boot.hydrate (save data store) = some data :=
  hydrate_eq_some_iff.mpr fun s ↦ by rw [rows_save data store (h s).1, (h s).2]

/-- A profile that the loader accepts. -/
def LoadableProfile (e : String × Json) : Prop :=
  ∃ pcfg chain, e.2 = .obj pcfg ∧ pcfg.lookup "chain" = some chain ∧ chain.truthy ∧
    Loadable e.1 pcfg

/-- The check of one profile accepts the loadable ones. -/
theorem isOk_validateProfile (e : String × Json) :
    (validateProfile e).isOk ↔ LoadableProfile e := by
  obtain ⟨name, value⟩ := e
  cases value with
  | obj pcfg =>
    cases hchain : pcfg.lookup "chain" with
    | none => simp [validateProfile, LoadableProfile, hchain, Except.isOk, Except.toBool]
    | some chain =>
      by_cases htruthy : chain.truthy
      · have hunit : (validateProfile (name, .obj pcfg)).isOk =
            (validateProfileFields name pcfg).isOk := by
          simp only [validateProfile, hchain, htruthy, if_true]
          cases validateProfileFields name pcfg <;> rfl
        rw [hunit, isOk_validateProfileFields]
        simp [LoadableProfile, hchain, htruthy]
      · simp [validateProfile, LoadableProfile, hchain, htruthy, Except.isOk, Except.toBool]
  | _ => simp [validateProfile, LoadableProfile, Except.isOk, Except.toBool]

/-- The check of the profiles accepts them when it accepts each. -/
theorem isOk_validate_profiles (profiles : Fields) :
    (validate .profiles (.obj profiles)).isOk ↔ ∀ e ∈ profiles, LoadableProfile e := by
  change (profiles.forM validateProfile).isOk ↔ _
  induction profiles with
  | nil => exact ⟨fun _ _ he ↦ absurd he List.not_mem_nil, fun _ ↦ rfl⟩
  | cons e rest ih =>
    change (validateProfile e >>= fun _ ↦ rest.forM validateProfile).isOk ↔ _
    rw [isOk_bind, List.forall_mem_cons, ← ih, ← isOk_validateProfile]
    constructor
    · rintro ⟨u, hu, hrest⟩
      exact ⟨isOk_iff.mpr ⟨u, hu⟩, hrest⟩
    · rintro ⟨hhead, hrest⟩
      obtain ⟨u, hu⟩ := isOk_iff.mp hhead
      exact ⟨u, hu, hrest⟩

/-- The providers are read back when there is one. -/
theorem stable_providers_iff :
    boot.Stable .providers data ↔ ∃ providers, data = .obj providers ∧ providers ≠ [] := by
  constructor
  · intro h
    obtain ⟨-, hnonempty, hvalid⟩ := h.sound (by decide)
    cases data with
    | obj providers => exact ⟨providers, rfl, by simpa [Json.truthy] using hnonempty⟩
    | _ => simp [validate, validateDict, Json.isObj, Except.isOk, Except.toBool] at hvalid
  · rintro ⟨providers, rfl, hne⟩
    exact Sound.stable ⟨rfl, by simpa [Json.truthy] using hne, rfl⟩ rfl

/-- The profiles are read back when there is one and each is loadable. -/
theorem stable_profiles_iff :
    boot.Stable .profiles data ↔
      ∃ profiles, data = .obj profiles ∧ profiles ≠ [] ∧ ∀ e ∈ profiles, LoadableProfile e := by
  constructor
  · intro h
    obtain ⟨-, hnonempty, hvalid⟩ := h.sound (by decide)
    cases data with
    | obj profiles =>
      exact ⟨profiles, rfl, by simpa [Json.truthy] using hnonempty,
        (isOk_validate_profiles profiles).mp hvalid⟩
    | _ => simp [validate, Except.isOk, Except.toBool] at hvalid
  · rintro ⟨profiles, rfl, hne, hall⟩
    exact Sound.stable ⟨rfl, by simpa [Json.truthy] using hne,
      (isOk_validate_profiles profiles).mpr hall⟩ rfl

/-- Limits that are not empty are read back. -/
theorem stable_modelLimits {limits : Fields} (hne : limits ≠ []) :
    boot.Stable .modelLimits (.obj limits) := by
  have htruthy : (Json.obj limits).truthy := by simpa [Json.truthy] using hne
  refine ⟨by simp, ?_⟩
  rw [Json.orElse, if_pos htruthy, Boot.hydrateRow, loadRow_some, if_pos ⟨rfl, htruthy⟩]
  rfl

end LcpGateway.Config
