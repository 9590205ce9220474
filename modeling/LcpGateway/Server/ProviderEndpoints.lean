import LcpGateway.Server.Site

/-!
# Provider endpoints

Library `Server`. Sources `src/server/endpoints.py:905–1067,1359–1401` and
`src/api/setup.py:416–455`. Request bodies are decoded JSON; the models a provider's plugin
discovers and the payload of an answer are left to the caller.
-/

namespace LcpGateway.Server
open LcpGateway.Base LcpGateway.Config LcpGateway.Auth LcpGateway.Breaker

/-- The key of a dictionary as `json.dumps` spells it. -/
def spell (boot : Boot) (key : Json) : String := key.text?.getD (boot.keyText key)

/-- `provider_data`; `endpoints.py:916–919`. -/
def providerData (body : Fields) : Fields :=
  [("api_base", (body.lookup "api_base").getD (.str "")),
    ("models", (body.lookup "models").getD (.arr []))]

/-- `config.raw["providers"][name] = provider_data`. -/
def Site.addProvider (boot : Boot) (name : Json) (pdata providers : Fields) (site : Site) : Site :=
  { site.setSection .providers (.obj (setField (spell boot name) (.obj pdata) providers)) with
    textKeys := site.textKeys && name.text?.isSome }

/-- `_serve_provider_create`; `endpoints.py:905–941`. -/
def serveProviderCreate (boot : Boot) (body : Json) (discovered : List Json) : Handler Unit := do
  let body ← orRaise body.fields?
  let name := (body.lookup "name").getD .null
  refuseIf (!name.truthy) 400 "missing 'name' field"
  let site ← get
  let providers ← orRaise (site.raw .providers).fields?
  orRaise (if name.hashable then some () else none)
  modify (Site.addProvider boot name (providerData body) providers)
  modify Site.save
  modify (Site.autoLearn discovered)
  let key := (body.lookup "api_key").getD .null
  if key.truthy then storeKey (spell boot name) key else pure ()

/-- `config.raw["providers"][name][key] = value`. -/
def setProviderField (name key : String) (value : Json) : Handler Unit := do
  let site ← get
  let providers ← orRaise (site.raw .providers).fields?
  let pdata ← orRaise ((providers.lookup name).bind Json.fields?)
  modify (·.setSection .providers
    (.obj (setField name (.obj (setField key value pdata)) providers)))

/-- `_serve_provider_update`; `endpoints.py:943–973`. -/
def serveProviderUpdate (name : String) (body : Json) (discovered : List Json) : Handler Unit := do
  let site ← get
  refuseIf (!site.hasProvider name) 404 s!"provider '{name}' not found"
  whenField body "api_key" (storeKey name)
  whenField body "api_base" (setProviderField name "api_base")
  whenField body "models" (setProviderField name "models")
  modify Site.save
  modify (Site.autoLearn discovered)

/-- `step.get("provider") == name`. -/
def usesProvider (name : String) (step : Json) : Bool := (step.get? "provider").any (·.isStr name)

/-- `[c for c in chain if c.get("provider") != name]`; a step without `get` raises. -/
def keptSteps (name : String) (chain : Json) : Option (List Json) :=
  chain.iterate.bind (fun steps ↦
    if steps.all Json.isObj then some (steps.filter (fun c ↦ !usesProvider name c)) else none)

/-- The steps of a provider leave the chain of one profile; `endpoints.py:981–982`. -/
def dropProvider (name : String) (e : String × Json) : (String × Json) × Bool :=
  match e.2 with
  | .obj pcfg =>
    match keptSteps name ((pcfg.lookup "chain").getD (.arr [])) with
    | some kept => ((e.1, .obj (setField "chain" (.arr kept) pcfg)), true)
    | none => (e, false)
  | _ => (e, false)

/-- `_serve_provider_delete`; `endpoints.py:975–1000`. -/
def serveProviderDelete (name : String) : Handler Unit := do
  let site ← get
  refuseIf (!site.hasProvider name) 404 s!"provider '{name}' not found"
  let providers ← orRaise (site.raw .providers).fields?
  modify (·.setSection .providers (.obj (delField name providers)))
  eachProfile (dropProvider name)
  modify Site.save
  modify (·.withCredentials (·.clear name))
  modify (·.forgetProvider name)

/-- The new name in one step that has the old one; `endpoints.py:1036–1037`. -/
def repointStep (name newName : String) (step : Json) : Json × Bool :=
  match step with
  | .obj fields =>
    (if usesProvider name step then .obj (setField "provider" (.str newName) fields) else step,
      true)
  | _ => (step, false)

/-- The new name in the chain of one profile; `endpoints.py:1035–1038`. -/
def repointProfile (name newName : String) (e : String × Json) : (String × Json) × Bool :=
  match e.2 with
  | .obj pcfg =>
    match (pcfg.lookup "chain").getD (.arr []) with
    | .arr steps =>
      let r := updateEach (repointStep name newName) steps
      if (pcfg.lookup "chain").isSome then
        ((e.1, .obj (setField "chain" (.arr r.1) pcfg)), r.2)
      else (e, r.2)
    -- the texts another value holds have no `get`
    | chain => (e, chain.iterate.any List.isEmpty)
  | _ => (e, false)

/-- The move of a provider to a new name; `endpoints.py:1026–1056`. -/
def renameProvider (name newName : String) : Handler Unit := do
  let site ← get
  refuseIf (site.hasProvider newName) 409 s!"provider '{newName}' already exists"
  let providers ← orRaise (site.raw .providers).fields?
  let entry ← orRaise (providers.lookup name)
  modify (·.setSection .providers (.obj (setField newName entry (delField name providers))))
  eachProfile (repointProfile name newName)
  modify Site.save
  modify (·.withCredentials (·.moveKinds name newName CredentialKind.all))

/-- `_serve_provider_rename`; `endpoints.py:1002–1067`. -/
def serveProviderRename (name : String) (body : Json) : Handler Unit := do
  let body ← orRaise body.fields?
  let given ← orRaise (((body.lookup "new_name").getD .null).orElse (.str "")).text?
  refuseIf (strip given = "") 400 "missing 'new_name' field"
  let site ← get
  refuseIf (!site.hasProvider name) 404 s!"provider '{name}' not found"
  if strip given = name then pure () else renameProvider name (strip given)

/-- The providers the setup page offers; `setup.py:422`. -/
def SETUP_PROVIDERS : List String := ["deepseek", "opencode", "commandcode", "llamacpp"]

/-- As `dropProvider`, for a chain that is a list; `setup.py:429–432`. -/
def dropListedProvider (name : String) (e : String × Json) : (String × Json) × Bool :=
  match e.2 with
  | .obj pcfg =>
    match pcfg.lookup "chain" with
    | some (.arr steps) =>
      match keptSteps name (.arr steps) with
      | some kept => ((e.1, .obj (setField "chain" (.arr kept) pcfg)), true)
      | none => (e, false)
    | _ => (e, true)
  | _ => (e, false)

/-- `remove_provider`, behind the setup page; `setup.py:416–455`. -/
def removeProvider (name : String) : Handler Unit := do
  refuseIf (decide (name ∉ SETUP_PROVIDERS)) 400 s!"unknown provider: {name}"
  let site ← get
  let providers ← orRaise (site.raw .providers).fields?
  modify (·.setSection .providers (.obj (delField name providers)))
  eachProfile (dropListedProvider name)
  modify Site.save
  modify (·.withCredentials (fun store ↦
    CredentialKind.all.foldl (fun store kind ↦ store.clear (kind.slot name)) store))
  modify (·.forgetProvider name)

/-! ### The order of a chain -/

/-- `(step.get("provider"), step.get("model"))`. -/
def stepKey (step : Json) : Json × Json :=
  ((step.get? "provider").getD .null, (step.get? "model").getD .null)

/-- The pair can be the key of a dictionary. -/
def hashablePair (key : Json × Json) : Bool := key.1.hashable && key.2.hashable

/-- The steps of the old chain, whose keys must be hashable; `endpoints.py:1385–1388`. -/
def oldSteps (pcfg : Fields) : Option (List Json) :=
  ((pcfg.lookup "chain").getD (.arr [])).iterate.bind (fun steps ↦
    if steps.all (fun s ↦ s.isObj && hashablePair (stepKey s)) then some steps else none)

/-- The base URL the last old step with the key has. -/
def oldBaseUrl (old : List Json) (key : Json × Json) : Option Json :=
  (old.reverse.find? (fun s ↦ (stepKey s).1.same key.1 && (stepKey s).2.same key.2)).map
    (fun s ↦ (s.get? "base_url").getD (.str ""))

/-- One step of the new chain; `endpoints.py:1391–1398`. -/
def mergeStep (old : List Json) (step : Json) : Option Json :=
  if step.isObj then
    let entry : Fields := [("provider", (stepKey step).1), ("model", (stepKey step).2)]
    let url := (step.get? "base_url").getD .null
    if url.truthy then some (.obj (entry ++ [("base_url", url)]))
    else if hashablePair (stepKey step) then
      match (oldBaseUrl old (stepKey step)).filter Json.truthy with
      | some url => some (.obj (entry ++ [("base_url", url)]))
      | none => some (.obj entry)
    else none
  else none

/-- `_serve_chain_reorder`; `endpoints.py:1359–1401`. -/
def serveChainReorder (profile : String) (body : Json) : Handler Unit := do
  let site ← get
  refuseIf (!site.hasProfile profile) 404 s!"profile '{profile}' not found"
  let body ← orRaise body.fields?
  let newChain ← orRefuse ((body.lookup "chain").bind Json.items?) 400 "missing 'chain' list"
  refuseIf newChain.isEmpty 400
    ("a profile needs at least one model in its chain; " ++
      "add a step instead of removing the last one")
  let pcfg ← orRaise (site.profile? profile)
  let old ← orRaise (oldSteps pcfg)
  let merged ← orRaise (newChain.mapM (mergeStep old))
  modify (·.setProfile profile (setField "chain" (.arr merged) pcfg))
  modify Site.save

/-! ### What accepted requests do -/

variable {site site' : Site} {name : String} {body : Json} {discovered : List Json}

/-- An accepted creation writes the entry, learns and may store a key. -/
theorem serveProviderCreate_ok {boot : Boot}
    (h : serveProviderCreate boot body discovered site = .ok () site') :
    ∃ fields providers credentials, body = .obj fields ∧ site.raw .providers = .obj providers ∧
      (((fields.lookup "api_key").getD .null).truthy = false → credentials = site.credentials) ∧
      site' = (((site.addProvider boot ((fields.lookup "name").getD .null) (providerData fields)
        providers).save).autoLearn discovered).setCredentials credentials := by
  simp only [serveProviderCreate, orRaise, refuseIf, get_bind_eq_ok, modify_bind_eq_ok,
    orStop_bind_eq_ok, stopIf_bind_eq_ok] at h
  obtain ⟨fields, hfields, -, providers, hproviders, _, -, h⟩ := h
  refine ⟨fields, providers, site'.credentials, fields?_eq_some_iff.mp hfields,
    fields?_eq_some_iff.mp hproviders, ?_⟩
  split at h
  · next hkey =>
    obtain ⟨store, rfl⟩ := storeKey_ok h
    exact ⟨fun hnone ↦ by simp [hnone] at hkey, rfl⟩
  · obtain ⟨-, rfl⟩ := pure_eq_ok.mp h
    exact ⟨fun _ ↦ credentials_autoLearn discovered, rfl⟩

/-- A written provider field. -/
theorem setProviderField_ok {key : String} {value : Json}
    (h : setProviderField name key value site = .ok () site') :
    ∃ providers pdata, site.raw .providers = .obj providers ∧
      site' = site.setSection .providers (.obj (setField name (.obj pdata) providers)) := by
  simp only [setProviderField, orRaise, get_bind_eq_ok, orStop_bind_eq_ok, modify_eq_ok] at h
  obtain ⟨providers, hproviders, _, -, rfl⟩ := h
  exact ⟨providers, _, fields?_eq_some_iff.mp hproviders, rfl⟩

/-- An accepted deletion drops the entry, its steps, its API key and its health. -/
theorem serveProviderDelete_ok (h : serveProviderDelete name site = .ok () site') :
    ∃ providers profiles, site.raw .providers = .obj providers ∧
      site.raw .profiles = .obj profiles ∧ (providers.lookup name).isSome ∧
      (∀ e ∈ profiles, (dropProvider name e).2 = true) ∧
      site' = ((((site.setSection .providers (.obj (delField name providers))).setSection
        .profiles (.obj (profiles.map (fun e ↦ (dropProvider name e).1)))).save).withCredentials
          (·.clear name)).forgetProvider name := by
  simp only [serveProviderDelete, orRaise, refuseIf, get_bind_eq_ok, modify_bind_eq_ok,
    orStop_bind_eq_ok, stopIf_bind_eq_ok] at h
  obtain ⟨hname, providers, hproviders, h⟩ := h
  obtain ⟨_, _, hloop, h⟩ := bind_eq_ok.mp h
  simp only [modify_bind_eq_ok, modify_eq_ok] at h
  obtain rfl := h
  obtain ⟨profiles, hprofiles, hall, rfl⟩ := eachProfile_ok hloop
  have hproviders := fields?_eq_some_iff.mp hproviders
  refine ⟨providers, profiles, hproviders, hprofiles, ?_, hall, rfl⟩
  simpa [Site.hasProvider, hproviders, Json.get?] using hname

/-- An accepted removal drops the entry, its listed steps, its credentials and its health. -/
theorem removeProvider_ok (h : removeProvider name site = .ok () site') :
    ∃ providers profiles, site.raw .providers = .obj providers ∧
      site.raw .profiles = .obj profiles ∧
      (∀ e ∈ profiles, (dropListedProvider name e).2 = true) ∧
      site' = ((((site.setSection .providers (.obj (delField name providers))).setSection
        .profiles (.obj (profiles.map
          (fun e ↦ (dropListedProvider name e).1)))).save).withCredentials
          (fun store ↦ CredentialKind.all.foldl (fun store kind ↦ store.clear (kind.slot name))
            store)).forgetProvider name := by
  simp only [removeProvider, orRaise, refuseIf, get_bind_eq_ok, modify_bind_eq_ok,
    orStop_bind_eq_ok, stopIf_bind_eq_ok] at h
  obtain ⟨-, providers, hproviders, h⟩ := h
  obtain ⟨_, _, hloop, h⟩ := bind_eq_ok.mp h
  simp only [modify_bind_eq_ok, modify_eq_ok] at h
  obtain rfl := h
  obtain ⟨profiles, hprofiles, hall, rfl⟩ := eachProfile_ok hloop
  exact ⟨providers, profiles, fields?_eq_some_iff.mp hproviders, hprofiles, hall, rfl⟩

/-- The new name a request gives. -/
def newNameOf (body : Json) : String :=
  strip ((((body.get? "new_name").getD .null).orElse (.str "")).text?.getD "")

/-- A move of a provider re-points the steps and moves the credentials. -/
theorem renameProvider_ok {newName : String} (h : renameProvider name newName site = .ok () site') :
    ∃ providers profiles entry, site.raw .providers = .obj providers ∧
      site.raw .profiles = .obj profiles ∧ providers.lookup name = some entry ∧
      (∀ e ∈ profiles, (repointProfile name newName e).2 = true) ∧
      site' = (((site.setSection .providers
        (.obj (setField newName entry (delField name providers)))).setSection .profiles
          (.obj (profiles.map (fun e ↦ (repointProfile name newName e).1)))).save).withCredentials
            (·.moveKinds name newName CredentialKind.all) := by
  simp only [renameProvider, orRaise, refuseIf, get_bind_eq_ok, modify_bind_eq_ok,
    orStop_bind_eq_ok, stopIf_bind_eq_ok] at h
  obtain ⟨-, providers, hproviders, entry, hentry, h⟩ := h
  obtain ⟨_, _, hloop, h⟩ := bind_eq_ok.mp h
  simp only [modify_bind_eq_ok, modify_eq_ok] at h
  obtain rfl := h
  obtain ⟨profiles, hprofiles, hall, rfl⟩ := eachProfile_ok hloop
  exact ⟨providers, profiles, entry, fields?_eq_some_iff.mp hproviders, hprofiles, hentry, hall,
    rfl⟩

/-- An accepted rename does nothing when the names agree, and moves the provider otherwise. -/
theorem serveProviderRename_ok (h : serveProviderRename name body site = .ok () site') :
    site.hasProvider name = true ∧
      ((newNameOf body = name ∧ site' = site) ∨
        (newNameOf body ≠ name ∧ renameProvider name (newNameOf body) site = .ok () site')) := by
  simp only [serveProviderRename, orRaise, refuseIf, get_bind_eq_ok, orStop_bind_eq_ok,
    stopIf_bind_eq_ok] at h
  obtain ⟨fields, hfields, given, hgiven, -, hname, h⟩ := h
  obtain rfl := fields?_eq_some_iff.mp hfields
  have hnew : newNameOf (.obj fields) = strip given := by
    rw [newNameOf, Json.get?, hgiven, Option.getD_some]
  rw [hnew]
  refine ⟨by simpa using hname, ?_⟩
  split at h
  · next heq => exact .inl ⟨heq, (pure_eq_ok.mp h).2⟩
  · next hne => exact .inr ⟨hne, h⟩

/-- The entries of the providers and the credentials may differ, nothing else; an entry remains. -/
def Edited (site site' : Site) : Prop :=
  ∃ entries credentials, entries ≠ [] ∧
    site' = (site.setSection .providers (.obj entries)).setCredentials credentials

/-- A configured provider is an entry of the section. -/
theorem entries_of_hasProvider (h : site.hasProvider name = true) :
    ∃ providers, site.raw .providers = .obj providers ∧ providers ≠ [] := by
  unfold Site.hasProvider at h
  cases hraw : site.raw .providers with
  | obj providers =>
    refine ⟨providers, rfl, ?_⟩
    rintro rfl
    simp [hraw, Json.get?] at h
  | _ => simp [hraw, Json.get?] at h

/-- One edit after another is an edit. -/
theorem Edited.trans {mid : Site} (h : Edited site mid) (h' : Edited mid site') :
    Edited site site' := by
  obtain ⟨_, _, -, rfl⟩ := h
  obtain ⟨entries, credentials, hne, rfl⟩ := h'
  refine ⟨entries, credentials, hne, ?_⟩
  change ((site.setSection .providers _).setSection .providers _).setCredentials _ = _
  rw [setSection_setSection]

/-- No edit of a site with an entry is an edit. -/
theorem Edited.refl {providers : Fields} (h : site.raw .providers = .obj providers)
    (hne : providers ≠ []) : Edited site site := by
  refine ⟨providers, site.credentials, hne, ?_⟩
  rw [← h, setSection_self]
  rfl

/-- A given field of a provider is an edit. -/
theorem edited_setProviderField {key : String} {value : Json}
    (h : setProviderField name key value site = .ok () site') : Edited site site' := by
  obtain ⟨providers, pdata, -, rfl⟩ := setProviderField_ok h
  exact ⟨_, site.credentials, setField_ne_nil, rfl⟩

/-- A stored key is an edit. -/
theorem edited_storeKey {value : Json} {providers : Fields}
    (hproviders : site.raw .providers = .obj providers) (hne : providers ≠ [])
    (h : storeKey name value site = .ok () site') : Edited site site' := by
  obtain ⟨store, rfl⟩ := storeKey_ok h
  refine ⟨providers, some store, hne, ?_⟩
  rw [← hproviders, setSection_self]

/-- What an edit leaves in the section. -/
theorem Edited.providers (h : Edited site site') :
    ∃ providers, site'.raw .providers = .obj providers ∧ providers ≠ [] := by
  obtain ⟨entries, credentials, hne, rfl⟩ := h
  exact ⟨entries, rfl, hne⟩

/-- A field that may be given is an edit when acting on it is. -/
theorem edited_whenField {key : String} {act : Json → Handler Unit} (hsite : Edited site site)
    (hact : ∀ value, act value site = .ok () site' → Edited site site')
    (h : whenField body key act site = .ok () site') : Edited site site' := by
  rcases whenField_ok h with ⟨-, rfl⟩ | ⟨-, value, -, -, hvalue⟩
  · exact hsite
  · exact hact value hvalue

/-- An accepted update edits an entry that is there, and learns. -/
theorem serveProviderUpdate_ok (h : serveProviderUpdate name body discovered site = .ok () site') :
    ∃ edited, Edited site edited ∧ site' = edited.save.autoLearn discovered := by
  simp only [serveProviderUpdate, refuseIf, get_bind_eq_ok, stopIf_bind_eq_ok] at h
  obtain ⟨hname, h⟩ := h
  simp only [bind_eq_ok, modify_eq_ok] at h
  obtain ⟨_, keyed, hkey, _, based, hbase, _, edited, hmodels, _, _, rfl, rfl⟩ := h
  obtain ⟨providers, hproviders, hne⟩ := entries_of_hasProvider (by simpa using hname)
  have hkeyed := edited_whenField (Edited.refl hproviders hne)
    (fun _ ↦ edited_storeKey hproviders hne) hkey
  obtain ⟨_, hproviders, hne⟩ := hkeyed.providers
  have hbased := edited_whenField (Edited.refl hproviders hne)
    (fun _ ↦ edited_setProviderField) hbase
  obtain ⟨_, hproviders, hne⟩ := hbased.providers
  have hedited := edited_whenField (Edited.refl hproviders hne)
    (fun _ ↦ edited_setProviderField) hmodels
  exact ⟨edited, (hkeyed.trans hbased).trans hedited, rfl⟩

/-- A configured profile, as the handlers read it. -/
theorem profile?_eq_some_iff {profile : String} {pcfg : Fields} :
    site.profile? profile = some pcfg ↔ ∃ profiles, site.raw .profiles = .obj profiles ∧
      profiles.lookup profile = some (.obj pcfg) := by
  unfold Site.profile?
  cases hraw : site.raw .profiles <;> simp [Json.get?, Option.bind_eq_some_iff,
    fields?_eq_some_iff]

/-- An accepted reorder stores a chain that is not empty. -/
theorem serveChainReorder_ok {profile : String}
    (h : serveChainReorder profile body site = .ok () site') :
    ∃ pcfg steps, site.profile? profile = some pcfg ∧ steps ≠ [] ∧
      site' = (site.setProfile profile (setField "chain" (.arr steps) pcfg)).save := by
  simp only [serveChainReorder, orRaise, orRefuse, refuseIf, get_bind_eq_ok, modify_bind_eq_ok,
    orStop_bind_eq_ok, stopIf_bind_eq_ok, modify_eq_ok] at h
  obtain ⟨-, fields, -, newChain, -, hnonempty, pcfg, hpcfg, old, -, merged, hmerged, rfl⟩ := h
  refine ⟨pcfg, merged, hpcfg, ?_, rfl⟩
  rintro rfl
  cases newChain with
  | nil => simp at hnonempty
  | cons step rest =>
    rw [List.mapM_cons] at hmerged
    cases hstep : mergeStep old step <;> cases hrest : rest.mapM (mergeStep old) <;>
      simp [hstep, hrest] at hmerged

end LcpGateway.Server
