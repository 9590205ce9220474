import LcpGateway.Server.ProviderEndpoints

/-!
# Profile endpoints

Library `Server`. Source `src/server/endpoints.py:1507–1611`. A new profile copies the chain of the
default profile; an update takes `chain`, `forbidden_tools` and `auth_required` as they are given
and holds the other fields to the check of the loader.
-/

namespace LcpGateway.Server
open LcpGateway.Base LcpGateway.Config

/-- An item of `dict(…)` that is a pair with a key. -/
def pairOf (item : Json) : Option (Json × Json) :=
  match item.iterate with
  | some [key, value] => if key.hashable then some (key, value) else none
  | _ => none

/-- `dict(step)`, and whether its keys are text; `none` when it raises. -/
def dictOf (boot : Boot) (step : Json) : Option (Fields × Bool) :=
  match step with
  | .obj fields => some (fields, true)
  | v => (v.iterate.bind (·.mapM pairOf)).map (fun pairs ↦
      (setFields (pairs.map (fun p ↦ (spell boot p.1, p.2))) [],
        pairs.all (fun p ↦ p.1.text?.isSome)))

/-- `(config.raw.get("server") or {}).get("default_profile") or ""`; `endpoints.py:1530`. -/
def Site.defaultName (site : Site) : Option Json :=
  ((site.raw .server).orElse (.obj [])).fields?.map (fun server ↦
    ((server.lookup "default_profile").getD .null).orElse (.str ""))

/-- `config.raw["profiles"].get(default_name) or {}`; `endpoints.py:1531`. -/
def donorOf (defaultName : Json) (profiles : Fields) : Option Fields :=
  if defaultName.hashable then
    let donor := (defaultName.text?.bind (fun name ↦ profiles.lookup name)).getD .null
    (donor.orElse (.obj [])).fields?
  else none

/-- `donor.get(key) or []`, as a list. -/
def listOf (donor : Fields) (key : String) : Option (List Json) :=
  (((donor.lookup key).getD .null).orElse (.arr [])).iterate

/-- `validate_profile_fields`, in a handler: a `ConfigError` is answered with its text. -/
def validated (name : String) (prof : Fields) : Handler Fields :=
  match validateProfileFields name prof with
  | .ok fields => pure fields
  | .error (.config message) => throw (.refused 400 message)
  | .error .overflow => throw .raised

/-- `str(default_name or 'unset')`, for a name that is text. -/
def donorName (defaultName : Json) : String :=
  (defaultName.text?.filter (· ≠ "")).getD "unset"

/-- `_serve_profile_create`; `endpoints.py:1507–1554`. -/
def serveProfileCreate (boot : Boot) (body : Json) : Handler Unit := do
  let body ← orRaise body.fields?
  let given ← orRaise ((body.lookup "name").getD (.str "")).text?
  let name := lower (strip given)
  refuseIf (name = "") 400 "missing 'name' field"
  let site ← get
  refuseIf (site.hasProfile name) 409 s!"profile '{name}' already exists"
  let defaultName ← orRaise site.defaultName
  let profiles ← orRaise (site.raw .profiles).fields?
  let donor ← orRaise (donorOf defaultName profiles)
  let steps ← orRaise ((listOf donor "chain").bind (·.mapM (dictOf boot)))
  let forbidden ← orRaise (listOf donor "forbidden_tools")
  let draft : Fields :=
    [("chain", .arr (steps.map (fun s ↦ .obj s.1))), ("forbidden_tools", .arr forbidden),
      ("agent_profile", ((body.lookup "agent_profile").getD (.str "")).orElse (.str "")),
      ("routing", ((body.lookup "routing").getD (.str "static")).orElse (.str "static")),
      ("intents", ((body.lookup "intents").getD (.arr [])).orElse (.arr [])),
      ("description", ((body.lookup "description").getD (.str "")).orElse (.str ""))]
  refuseIf steps.isEmpty 409 ("cannot create a profile: no chain to seed it with " ++
    s!"(default profile '{donorName defaultName}' has none)")
  let fields ← validated name draft
  modify (fun site ↦ { site.setProfile name fields with
    textKeys := site.textKeys && steps.all (·.2) })
  modify Site.save

/-- `config.raw["profiles"][name][key] = value`. -/
def setProfileField (name key : String) (value : Json) : Handler Unit := do
  let site ← get
  let pcfg ← orRaise (site.profile? name)
  modify (·.setProfile name (setField key value pcfg))

/-- The text of a given description; null is the empty one. -/
def givenDescription : Json → Option String
  | .null => some ""
  | v => v.text?

/-- The fields of the update that are checked; `endpoints.py:1587–1600`. -/
def updateFields (name : String) (body : Json) : Handler Unit := do
  let present ← orRaise (UPDATE_FIELDS.mapM (fun key ↦ body.contains? key))
  if present.any id then do
    let body ← orRaise body.fields?
    let site ← get
    let pcfg ← orRaise (site.profile? name)
    let given : Fields := UPDATE_FIELDS.filterMap (fun key ↦ (body.lookup key).map ((key, ·)))
    let fields ← validated name (setFields given pcfg)
    let writes : Fields := UPDATE_FIELDS.map (fun key ↦ (key, (fields.lookup key).getD .null))
    modify (·.setProfile name (setFields writes pcfg))
  else pure ()

/-- `_serve_profile_update`; `endpoints.py:1556–1602`. -/
def serveProfileUpdate (name : String) (body : Json) : Handler Unit := do
  let site ← get
  refuseIf (!site.hasProfile name) 404 s!"profile '{name}' not found"
  whenField body "forbidden_tools" (setProfileField name "forbidden_tools")
  whenField body "chain" (setProfileField name "chain")
  whenField body "auth_required" (setProfileField name "auth_required")
  whenField body "description" (fun desc ↦ do
    let text ← orRefuse (givenDescription desc) 400 "description must be a string"
    setProfileField name "description" (.str (boundedDescription text)))
  updateFields name body
  modify Site.save

/-- `_serve_profile_delete`; `endpoints.py:1604–1611`. -/
def serveProfileDelete (name : String) : Handler Unit := do
  let site ← get
  refuseIf (!site.hasProfile name) 404 s!"profile '{name}' not found"
  let profiles ← orRaise (site.raw .profiles).fields?
  modify (·.setSection .profiles (.obj (delField name profiles)))
  modify Site.save

/-! ### What accepted requests do -/

variable {site site' : Site} {name : String} {body : Json}

/-- A checked profile. -/
theorem validated_ok {prof fields : Fields} (h : validated name prof site = .ok fields site') :
    validateProfileFields name prof = .ok fields ∧ site' = site := by
  unfold validated at h
  cases hvalid : validateProfileFields name prof with
  | ok checked =>
    rw [hvalid] at h
    obtain ⟨rfl, rfl⟩ := pure_eq_ok.mp h
    exact ⟨rfl, rfl⟩
  | error e =>
    rw [hvalid] at h
    cases e <;> exact nomatch h

/-- The steps a new profile starts with; `none` when copying them raises. -/
def seededChain (boot : Boot) (site : Site) : Option (List (Fields × Bool)) := do
  let defaultName ← site.defaultName
  let profiles ← (site.raw .profiles).fields?
  let donor ← donorOf defaultName profiles
  (listOf donor "chain").bind (·.mapM (dictOf boot))

/-- An accepted creation stores a checked profile with the chain of the default one. -/
theorem serveProfileCreate_ok {boot : Boot} (h : serveProfileCreate boot body site = .ok () site') :
    ∃ name profiles steps draft fields, site.raw .profiles = .obj profiles ∧
      seededChain boot site = some steps ∧ steps ≠ [] ∧
      draft.lookup "chain" = some (.arr (steps.map (fun s ↦ .obj s.1))) ∧
      validateProfileFields name draft = .ok fields ∧
      site' = ({ site.setProfile name fields with
        textKeys := site.textKeys && steps.all (·.2) } : Site).save := by
  simp only [serveProfileCreate, orRaise, refuseIf, get_bind_eq_ok, orStop_bind_eq_ok,
    stopIf_bind_eq_ok] at h
  obtain ⟨_, -, given, -, -, -, defaultName, hname, profiles, hprofiles, donor, hdonor, steps,
    hsteps, forbidden, -, hnonempty, h⟩ := h
  obtain ⟨fields, _, hvalid, h⟩ := bind_eq_ok.mp h
  obtain rfl := modify_eq_ok.mp (modify_bind_eq_ok.mp h)
  obtain ⟨hchecked, rfl⟩ := validated_ok hvalid
  refine ⟨_, profiles, steps, _, fields, fields?_eq_some_iff.mp hprofiles, ?_, ?_, rfl, hchecked,
    rfl⟩
  · simp [seededChain, hname, hprofiles, hdonor, hsteps]
  · rintro rfl
    simp at hnonempty

/-- The profile is another one now; nothing else has changed. -/
structure ProfileEdit (name : String) (body : Json) (site site' : Site) (pcfg pcfg' : Fields) :
    Prop where
  before : site.profile? name = some pcfg
  result : site' = site.setProfile name pcfg'
  loadable : Loadable name pcfg → Loadable name pcfg'
  chain : pcfg'.lookup "chain" = pcfg.lookup "chain" ∨
    ∃ fields chain, body = .obj fields ∧ fields.lookup "chain" = some chain ∧
      pcfg'.lookup "chain" = some chain

/-- A written profile is read back. -/
theorem profile?_setProfile {pcfg pcfg' : Fields} (h : site.profile? name = some pcfg) :
    (site.setProfile name pcfg').profile? name = some pcfg' := by
  obtain ⟨profiles, hprofiles, -⟩ := profile?_eq_some_iff.mp h
  refine profile?_eq_some_iff.mpr ⟨setField name (.obj pcfg') profiles, ?_, ?_⟩
  · simp [Site.setProfile, hprofiles, raw_setSection]
  · rw [lookup_setField, if_pos rfl]

/-- A profile written twice. -/
theorem setProfile_setProfile (pcfg pcfg' : Fields) :
    (site.setProfile name pcfg).setProfile name pcfg' = site.setProfile name pcfg' := by
  unfold Site.setProfile
  cases hraw : site.raw .profiles <;>
    simp [hraw, raw_setSection, setSection_setSection, setField_setField]

/-- No edit is an edit. -/
theorem ProfileEdit.refl {pcfg : Fields} (h : site.profile? name = some pcfg) :
    ProfileEdit name body site site pcfg pcfg := by
  obtain ⟨profiles, hprofiles, hlookup⟩ := profile?_eq_some_iff.mp h
  refine ⟨h, ?_, id, .inl rfl⟩
  rw [Site.setProfile, hprofiles]
  dsimp only
  rw [setField_of_lookup hlookup, ← hprofiles, setSection_self]

/-- One edit after another is an edit. -/
theorem ProfileEdit.trans {mid : Site} {pcfg pcfg₁ pcfg' : Fields}
    (h : ProfileEdit name body site mid pcfg pcfg₁)
    (h' : ProfileEdit name body mid site' pcfg₁ pcfg') :
    ProfileEdit name body site site' pcfg pcfg' := by
  obtain ⟨hbefore, rfl, hloadable, hchain⟩ := h
  obtain ⟨-, rfl, hloadable', hchain'⟩ := h'
  refine ⟨hbefore, setProfile_setProfile pcfg₁ pcfg', hloadable' ∘ hloadable, ?_⟩
  rcases hchain' with hkept | hgiven
  · rw [hkept]
    exact hchain
  · exact .inr hgiven

/-- What the profile is after an edit. -/
theorem ProfileEdit.after {pcfg pcfg' : Fields} (h : ProfileEdit name body site site' pcfg pcfg') :
    site'.profile? name = some pcfg' := by
  rw [h.result]
  exact profile?_setProfile h.before

/-- A written field is an edit when the profile stays loadable. -/
theorem profileEdit_setProfileField {key : String} {value : Json} {pcfg : Fields}
    (hbefore : site.profile? name = some pcfg)
    (h : setProfileField name key value site = .ok () site')
    (hloadable : Loadable name pcfg → Loadable name (setField key value pcfg))
    (hchain : key = "chain" → ∃ fields, body = .obj fields ∧ fields.lookup "chain" = some value) :
    ProfileEdit name body site site' pcfg (setField key value pcfg) := by
  simp only [setProfileField, orRaise, get_bind_eq_ok, orStop_bind_eq_ok, modify_eq_ok] at h
  obtain ⟨_, hpcfg, rfl⟩ := h
  obtain rfl := Option.some.inj (hbefore.symm.trans hpcfg)
  refine ⟨hbefore, rfl, hloadable, ?_⟩
  by_cases hkey : key = "chain"
  · obtain ⟨fields, hbody, hlookup⟩ := hchain hkey
    exact .inr ⟨fields, value, hbody, hlookup, by rw [lookup_setField, if_pos hkey]⟩
  · exact .inl (by rw [lookup_setField, if_neg hkey])

/-- A field that may be given is an edit when acting on it is. -/
theorem profileEdit_whenField {key : String} {act : Json → Handler Unit} {pcfg : Fields}
    (hbefore : site.profile? name = some pcfg)
    (hact : ∀ fields value, body = .obj fields → fields.lookup key = some value →
      act value site = .ok () site' → ∃ pcfg', ProfileEdit name body site site' pcfg pcfg')
    (h : whenField body key act site = .ok () site') :
    ∃ pcfg', ProfileEdit name body site site' pcfg pcfg' := by
  rcases whenField_ok h with ⟨-, rfl⟩ | ⟨fields, value, hbody, hlookup, hvalue⟩
  · exact ⟨pcfg, .refl hbefore⟩
  · exact hact fields value hbody hlookup hvalue

/-- A field that is taken as it is given is an edit. -/
theorem profileEdit_given {key : String} {pcfg : Fields} (hbefore : site.profile? name = some pcfg)
    (hkey : ∀ field ∈ ["agent_profile", "routing", "intents", "intent_margin_gate", "description"],
      key ≠ field)
    (h : whenField body key (setProfileField name key) site = .ok () site') :
    ∃ pcfg', ProfileEdit name body site site' pcfg pcfg' := by
  refine profileEdit_whenField hbefore (fun fields value hbody hlookup hset ↦ ?_) h
  refine ⟨_, profileEdit_setProfileField hbefore hset (fun hload ↦ ?_) ?_⟩
  · exact hload.congr fun field hfield ↦ by rw [lookup_setField, if_neg (hkey field hfield)]
  · rintro rfl
    exact ⟨fields, hbody, hlookup⟩

/-- A description is an edit. -/
theorem profileEdit_description {desc : Json} {pcfg : Fields}
    (hbefore : site.profile? name = some pcfg)
    (h : (do
      let text ← orRefuse (givenDescription desc) 400 "description must be a string"
      setProfileField name "description" (.str (boundedDescription text)) : Handler Unit) site =
        .ok () site') :
    ∃ pcfg', ProfileEdit name body site site' pcfg pcfg' := by
  simp only [orRefuse, orStop_bind_eq_ok] at h
  obtain ⟨text, -, hset⟩ := h
  refine ⟨_, profileEdit_setProfileField hbefore hset (fun hload ↦ ?_) (fun hkey ↦ ?_)⟩
  · refine ⟨?_, ?_, ?_, ?_, ?_⟩ <;> rw [lookup_setField]
    · exact hload.agent
    · exact hload.mode
    · exact hload.labels
    · exact hload.gate
    · rfl
  · exact absurd hkey (by decide)

/-- Checked fields are an edit. -/
theorem profileEdit_updateFields {pcfg : Fields} (hbefore : site.profile? name = some pcfg)
    (h : updateFields name body site = .ok () site') :
    ∃ pcfg', ProfileEdit name body site site' pcfg pcfg' := by
  simp only [updateFields, orRaise, orStop_bind_eq_ok] at h
  obtain ⟨present, -, h⟩ := h
  split at h
  · simp only [get_bind_eq_ok, orStop_bind_eq_ok] at h
    obtain ⟨fields, -, _, hpcfg, h⟩ := h
    obtain ⟨out, _, hvalid, h⟩ := bind_eq_ok.mp h
    obtain rfl := modify_eq_ok.mp h
    obtain rfl := Option.some.inj (hbefore.symm.trans hpcfg)
    obtain ⟨hchecked, rfl⟩ := validated_ok hvalid
    have hout := isSome_lookup_of_ok hchecked
    have hkept : ∀ key ∉ UPDATE_FIELDS, (setFields (UPDATE_FIELDS.map
        (fun key ↦ (key, (out.lookup key).getD .null))) pcfg).lookup key = pcfg.lookup key := by
      intro key hkey
      simp only [UPDATE_FIELDS, List.mem_cons, not_or] at hkey
      simp [UPDATE_FIELDS, setFields, lookup_setField, Ne.symm hkey.1, Ne.symm hkey.2.1,
        Ne.symm hkey.2.2.1, Ne.symm hkey.2.2.2.1]
    refine ⟨_, hbefore, rfl, fun hload ↦ loadable_of_ok hchecked (fun key hkey ↦ ?_) ?_, .inl ?_⟩
    · obtain ⟨value, hvalue⟩ := Option.isSome_iff_exists.mp (hout key hkey)
      simp only [UPDATE_FIELDS, List.mem_cons, List.not_mem_nil, or_false] at hkey
      rcases hkey with rfl | rfl | rfl | rfl <;>
        simp [UPDATE_FIELDS, setFields, lookup_setField, hvalue]
    · rw [hkept "description" (by decide)]
      exact hload.desc
    · exact hkept "chain" (by decide)
  · obtain ⟨-, rfl⟩ := pure_eq_ok.mp h
    exact ⟨pcfg, .refl hbefore⟩

/-- An accepted update edits its profile. -/
theorem serveProfileUpdate_ok (h : serveProfileUpdate name body site = .ok () site') :
    site.hasProfile name = true ∧ ∀ pcfg, site.profile? name = some pcfg →
      ∃ edited pcfg', ProfileEdit name body site edited pcfg pcfg' ∧ site' = edited.save := by
  simp only [serveProfileUpdate, refuseIf, get_bind_eq_ok, stopIf_bind_eq_ok] at h
  obtain ⟨hname, h⟩ := h
  simp only [bind_eq_ok, modify_eq_ok] at h
  obtain ⟨_, s₁, htools, _, s₂, hchain, _, s₃, hauth, _, s₄, hdesc, _, s₅, hfields, rfl⟩ := h
  refine ⟨by simpa using hname, fun pcfg hpcfg ↦ ?_⟩
  obtain ⟨pcfg₁, h₁⟩ := profileEdit_given hpcfg (by decide) htools
  obtain ⟨pcfg₂, h₂⟩ := profileEdit_given h₁.after (by decide) hchain
  obtain ⟨pcfg₃, h₃⟩ := profileEdit_given h₂.after (by decide) hauth
  obtain ⟨pcfg₄, h₄⟩ := profileEdit_whenField h₃.after
    (fun _ _ _ _ ↦ profileEdit_description h₃.after) hdesc
  obtain ⟨pcfg₅, h₅⟩ := profileEdit_updateFields h₄.after hfields
  exact ⟨s₅, pcfg₅, (((h₁.trans h₂).trans h₃).trans h₄).trans h₅, rfl⟩

/-- An accepted deletion drops the entry. -/
theorem serveProfileDelete_ok (h : serveProfileDelete name site = .ok () site') :
    ∃ profiles, site.raw .profiles = .obj profiles ∧
      site' = (site.setSection .profiles (.obj (delField name profiles))).save := by
  simp only [serveProfileDelete, orRaise, refuseIf, get_bind_eq_ok, modify_bind_eq_ok,
    orStop_bind_eq_ok, stopIf_bind_eq_ok, modify_eq_ok] at h
  obtain ⟨-, profiles, hprofiles, rfl⟩ := h
  exact ⟨profiles, fields?_eq_some_iff.mp hprofiles, rfl⟩

end LcpGateway.Server
