import LcpGateway.Base.Run
import LcpGateway.Server.ProfileEndpoints

/-!
# Configuration writes and the next start

Library `Server`. A run of accepted writes (`src/server/endpoints.py:905–1067,1359–1401,1507–1611`,
`src/api/setup.py:416–455`) against `_hydrate` (`src/api/config.py:462–500`). Reading the settings
back gives the configuration in memory as long as no write empties the providers, the profiles or a
chain, names a provider by what is not text, or learns limits it does not save.
-/

namespace LcpGateway.Server
open LcpGateway.Base LcpGateway.Config LcpGateway.Auth LcpGateway.Breaker

/-- A request that writes the configuration. The models that a plugin discovers come with it. -/
inductive Write where
  | providerCreate (body : Json) (discovered : List Json)
  | providerUpdate (name : String) (body : Json) (discovered : List Json)
  | providerDelete (name : String)
  | providerRename (name : String) (body : Json)
  | setupRemove (name : String)
  | chainReorder (profile : String) (body : Json)
  | profileCreate (body : Json)
  | profileUpdate (name : String) (body : Json)
  | profileDelete (name : String)

namespace Write

/-- The handler of a write. -/
def handler (boot : Boot) : Write → Handler Unit
  | .providerCreate body discovered => serveProviderCreate boot body discovered
  | .providerUpdate name body discovered => serveProviderUpdate name body discovered
  | .providerDelete name => serveProviderDelete name
  | .providerRename name body => serveProviderRename name body
  | .setupRemove name => removeProvider name
  | .chainReorder profile body => serveChainReorder profile body
  | .profileCreate body => serveProfileCreate boot body
  | .profileUpdate name body => serveProfileUpdate name body
  | .profileDelete name => serveProfileDelete name

/-- The site after a write. -/
def step (boot : Boot) (site : Site) (w : Write) : Site := endState (w.handler boot site)

/-- The write is answered with success. -/
def Accepted (boot : Boot) (site : Site) (w : Write) : Prop :=
  wentThrough (w.handler boot site) = true

instance (boot : Boot) (site : Site) (w : Write) : Decidable (w.Accepted boot site) :=
  inferInstanceAs (Decidable (_ = true))

end Write

/-- A new process that reads the settings has the configuration that is in memory. -/
def Reloads (boot : Boot) (site : Site) : Prop :=
  site.textKeys = true ∧ boot.hydrate site.settings = some site.raw

/-! ### Conditions -/

/-- The loop of the learning neither raises nor overflows on a model: its id is text or falsy, and
the limits it has are a dictionary when there is a window to learn. -/
def Learnable (limits : Fields) (model : Json) : Prop :=
  ∀ m, model = .obj m → ∃ id,
    (((m.lookup "id").getD .null).orElse (.str "")).text? = some id ∧
      let ctx := ((m.lookup "context_length").getD .null).orElse ((m.lookup "n_ctx").getD .null)
      strip id ≠ "" → ctx.truthy = true → ctx.toInt ≠ .overflow ∧
        (ctx.toInt ≠ .refused → ((limits.lookup (strip id)).getD (.obj [])).isObj = true)

/-- Every discovered model is learnable. -/
def LimitsWritable (site : Site) (discovered : List Json) : Prop :=
  ∀ limits, site.raw .modelLimits = .obj limits → ∀ model ∈ discovered, Learnable limits model

/-- Another entry remains in the section. -/
def KeepsOther (name : String) (section' : Json) : Prop :=
  ∀ entries, section' = .obj entries → ∃ e ∈ entries, e.1 ≠ name

/-- A chain that is a list keeps a step of another provider. -/
def KeepsStep (name : String) (chain : Option Json) : Prop :=
  ∀ steps, chain = some (.arr steps) → ∃ step ∈ steps, usesProvider name step = false

/-- Another provider remains, and every chain keeps a step. -/
def SurvivesRemoval (name : String) (site : Site) : Prop :=
  KeepsOther name (site.raw .providers) ∧
    ∀ profiles, site.raw .profiles = .obj profiles → ∀ e ∈ profiles,
      KeepsStep name (e.2.get? "chain")

/-- What the site and the request must be for the write to be read back. -/
def Write.Guard (boot : Boot) (site : Site) : Write → Prop
  | .providerCreate body discovered =>
    (∃ name, body.get? "name" = some (.str name)) ∧ LimitsWritable site discovered
  | .providerUpdate _ _ discovered => LimitsWritable site discovered
  | .providerDelete name => SurvivesRemoval name site
  | .providerRename _ _ => True
  | .setupRemove name => SurvivesRemoval name site
  | .chainReorder _ _ => True
  | .profileCreate _ => ∀ steps, seededChain boot site = some steps → ∀ s ∈ steps, s.2 = true
  | .profileUpdate _ body => ∀ chain, body.get? "chain" = some chain → chain.truthy = true
  | .profileDelete name => KeepsOther name (site.raw .profiles)

/-! ### Saving and learning -/

variable {boot : Boot} {site site' : Site}

/-- Every section can be saved and read back. -/
def Savable (boot : Boot) (site : Site) : Prop :=
  site.textKeys = true ∧ ∀ s, boot.Stable s (site.raw s)

/-- What is read back can be saved. -/
theorem Reloads.savable (h : Reloads boot site) : Savable boot site :=
  ⟨h.1, fun s ↦ stable_hydrateRow (hydrate_eq_some_iff.mp h.2 s)⟩

/-- What can be saved is read back once it is. -/
theorem Savable.reloads_save (h : Savable boot site) : Reloads boot site.save :=
  ⟨h.1, hydrate_save h.2⟩

/-- A section that can be saved takes the place of another. -/
theorem Savable.setSection (h : Savable boot site) {s : Section} {value : Json}
    (hvalue : boot.Stable s value) : Savable boot (site.setSection s value) := by
  refine ⟨h.1, fun t ↦ ?_⟩
  rw [raw_setSection]
  split
  · next hts => exact hts ▸ hvalue
  · exact h.2 t

/-- The providers in memory. -/
theorem Savable.providers (h : Savable boot site) :
    ∃ providers, site.raw .providers = .obj providers ∧ providers ≠ [] :=
  stable_providers_iff.mp (h.2 .providers)

/-- The profiles in memory. -/
theorem Savable.profiles (h : Savable boot site) :
    ∃ profiles, site.raw .profiles = .obj profiles ∧ profiles ≠ [] ∧
      ∀ e ∈ profiles, LoadableProfile e :=
  stable_profiles_iff.mp (h.2 .profiles)

/-- A learnable model does not stop the loop, and leaves the other models learnable. -/
theorem learnOne_of_learnable {limits : Fields} {model : Json} (h : Learnable limits model) :
    learnOne limits model = .skipped ∨ ∃ limits', learnOne limits model = .entered limits' ∧
      limits' ≠ [] ∧ ∀ other, Learnable limits other → Learnable limits' other := by
  cases model with
  | obj m =>
    obtain ⟨id, hid, hctx⟩ := h m rfl
    simp only [learnOne, hid]
    dsimp only at hctx
    split
    · exact .inl rfl
    · next hgiven =>
      rw [not_or, Bool.not_eq_false] at hgiven
      obtain ⟨hoverflow, hentry⟩ := hctx hgiven.1 hgiven.2
      split
      · exact .inl rfl
      · next heq => exact absurd heq hoverflow
      · next window heq =>
        have hobj := hentry (by rw [heq]; simp)
        cases hlimits : (limits.lookup (strip id)).getD (.obj []) with
        | obj entry =>
          refine .inr ⟨_, rfl, setField_ne_nil, fun other hother m' hm' ↦ ?_⟩
          obtain ⟨id', hid', hctx'⟩ := hother m' hm'
          refine ⟨id', hid', fun hne htruthy ↦ ?_⟩
          obtain ⟨hoverflow', hentry'⟩ := hctx' hne htruthy
          refine ⟨hoverflow', fun hrefused ↦ ?_⟩
          rw [lookup_setField]
          split
          · rfl
          · exact hentry' hrefused
        | _ => simp [hlimits, Json.isObj] at hobj
  | _ => exact .inl rfl

/-- Learnable models are all gone through; without a learned one the limits are as before, and
with one they are not empty. -/
theorem learnLoop_of_learnable {discovered : List Json} {limits : Fields}
    (h : ∀ model ∈ discovered, Learnable limits model) :
    (learnLoop discovered limits).2.2 = true ∧
      (((learnLoop discovered limits).2.1 = 0 ∧ (learnLoop discovered limits).1 = limits) ∨
        (0 < (learnLoop discovered limits).2.1 ∧ (learnLoop discovered limits).1 ≠ [])) := by
  induction discovered generalizing limits with
  | nil => exact ⟨rfl, .inl ⟨rfl, rfl⟩⟩
  | cons model rest ih =>
    rw [List.forall_mem_cons] at h
    rcases learnOne_of_learnable h.1 with hskipped | ⟨limits', hentered, hne, hkeep⟩
    · simp only [learnLoop, hskipped]
      exact ih h.2
    · simp only [learnLoop, hentered]
      obtain ⟨hdone, hrest⟩ := ih (fun other hother ↦ hkeep other (h.2 other hother))
      refine ⟨hdone, .inr ⟨by omega, ?_⟩⟩
      rcases hrest with ⟨-, hsame⟩ | ⟨-, hrest⟩
      · rw [hsame]
        exact hne
      · exact hrest

/-- Learning keeps the configuration readable when every model is learnable. -/
theorem Reloads.autoLearn (h : Reloads boot site) {discovered : List Json}
    (hlearn : LimitsWritable site discovered) : Reloads boot (site.autoLearn discovered) := by
  unfold Site.autoLearn
  split
  · next limits hlimits =>
    obtain ⟨hdone, hcases⟩ := learnLoop_of_learnable (hlearn limits hlimits)
    dsimp only
    rcases hcases with ⟨hzero, hsame⟩ | ⟨hpos, hne⟩
    · rw [if_neg (by omega), hsame, ← hlimits, setSection_self]
      exact h
    · rw [if_pos ⟨hdone, hpos⟩]
      exact (h.savable.setSection (stable_modelLimits hne)).reloads_save
  · exact h

/-! ### One write -/

/-- A profile stays loadable with another chain that is not empty. -/
theorem loadable_setChain {name : String} {pcfg : Fields} {steps : List Json}
    (h : LoadableProfile (name, .obj pcfg)) (hne : steps ≠ []) :
    LoadableProfile (name, .obj (setField "chain" (.arr steps) pcfg)) := by
  obtain ⟨pcfg', _, heq, -, -, hloadable⟩ := h
  obtain rfl := Json.obj.inj heq
  refine ⟨_, .arr steps, rfl, by rw [lookup_setField, if_pos rfl], by simpa [Json.truthy], ?_⟩
  refine hloadable.congr fun key hkey ↦ ?_
  rw [lookup_setField, if_neg]
  rintro rfl
  simp at hkey

/-- The steps kept of a chain that is a list. -/
theorem keptSteps_arr {name : String} {steps kept : List Json}
    (h : keptSteps name (.arr steps) = some kept) (hkeep : KeepsStep name (some (.arr steps))) :
    kept ≠ [] := by
  obtain ⟨step, hstep, huses⟩ := hkeep steps rfl
  simp only [keptSteps, Json.iterate, Option.bind_some] at h
  split at h
  · obtain rfl := Option.some.inj h
    exact List.ne_nil_of_mem (List.mem_filter.mpr ⟨hstep, by simp [huses]⟩)
  · simp at h

/-- Without the provider's steps a profile stays loadable when a step is kept. -/
theorem loadable_dropProvider {name : String} {e : String × Json} (h : LoadableProfile e)
    (hdone : (dropProvider name e).2 = true) (hkeep : KeepsStep name (e.2.get? "chain")) :
    LoadableProfile (dropProvider name e).1 := by
  obtain ⟨profile, value⟩ := e
  obtain ⟨pcfg, chain, rfl, hchain, htruthy, -⟩ := id h
  simp only [Json.get?, hchain] at hkeep
  simp only [dropProvider, hchain, Option.getD_some] at hdone ⊢
  cases hkept : keptSteps name chain with
  | none => simp [hkept] at hdone
  | some kept =>
    dsimp only
    refine loadable_setChain h ?_
    -- only the items of a list have a `get`
    cases chain with
    | arr steps => exact keptSteps_arr hkept hkeep
    | obj fields => cases fields <;> simp [keptSteps, Json.iterate, Json.truthy, Json.isObj] at *
    | str s =>
      have hne : s.toList ≠ [] := by simpa [Json.truthy] using htruthy
      cases hchars : s.toList <;>
        simp_all [keptSteps, Json.iterate, Json.isObj]
    | _ => simp [keptSteps, Json.iterate] at hkept

/-- The same on the setup page. -/
theorem loadable_dropListedProvider {name : String} {e : String × Json}
    (h : LoadableProfile e) (hdone : (dropListedProvider name e).2 = true)
    (hkeep : KeepsStep name (e.2.get? "chain")) :
    LoadableProfile (dropListedProvider name e).1 := by
  obtain ⟨profile, value⟩ := e
  obtain ⟨pcfg, chain, rfl, hchain, htruthy, -⟩ := id h
  simp only [Json.get?, hchain] at hkeep
  unfold dropListedProvider at hdone ⊢
  dsimp only at hdone ⊢
  split
  · next steps hsteps =>
    obtain rfl := Option.some.inj (hchain.symm.trans hsteps)
    rw [hsteps] at hdone
    cases hkept : keptSteps name (.arr steps) with
    | none => simp [hkept] at hdone
    | some kept => exact loadable_setChain h (keptSteps_arr hkept hkeep)
  · exact h

/-- A loop over a list keeps its length. -/
theorem length_updateEach {α : Type} (f : α → α × Bool) (xs : List α) :
    (updateEach f xs).1.length = xs.length := by
  induction xs with
  | nil => rfl
  | cons x rest ih =>
    rw [updateEach]
    split
    · simp [ih]
    · simp

/-- A profile stays loadable under the new name of a provider. -/
theorem loadable_repointProfile {name newName : String} {e : String × Json}
    (h : LoadableProfile e) : LoadableProfile (repointProfile name newName e).1 := by
  obtain ⟨profile, value⟩ := e
  obtain ⟨pcfg, chain, rfl, hchain, htruthy, -⟩ := id h
  simp only [repointProfile, hchain, Option.getD_some, Option.isSome_some, if_true]
  cases chain with
  | arr steps =>
    refine loadable_setChain h fun hnil ↦ ?_
    have hlength := length_updateEach (repointStep name newName) steps
    rw [hnil] at hlength
    have hsteps : steps ≠ [] := by simpa [Json.truthy] using htruthy
    exact hsteps (List.length_eq_zero_iff.mp hlength.symm)
  | _ => exact h

/-- Profiles that are changed one by one. -/
theorem stable_map_profiles {profiles : Fields} {f : String × Json → String × Json}
    (hne : profiles ≠ []) (h : ∀ e ∈ profiles, LoadableProfile (f e)) :
    boot.Stable .profiles (.obj (profiles.map f)) := by
  refine stable_profiles_iff.mpr ⟨_, rfl, by simpa using hne, fun e he ↦ ?_⟩
  obtain ⟨d, hd, rfl⟩ := List.mem_map.mp he
  exact h d hd

/-- A profile that is written. -/
theorem Savable.setProfile (h : Savable boot site) {name : String} {pcfg : Fields}
    (hpcfg : LoadableProfile (name, .obj pcfg)) : Savable boot (site.setProfile name pcfg) := by
  obtain ⟨profiles, hprofiles, -, hall⟩ := h.profiles
  rw [Site.setProfile, hprofiles]
  refine h.setSection (stable_profiles_iff.mpr ⟨_, rfl, setField_ne_nil, fun e he ↦ ?_⟩)
  rcases mem_setField he with rfl | hold
  · exact hpcfg
  · exact hall e hold

/-- A configured profile is loadable. -/
theorem Savable.loadable (h : Savable boot site) {name : String} {pcfg : Fields}
    (hpcfg : site.profile? name = some pcfg) : LoadableProfile (name, .obj pcfg) := by
  obtain ⟨profiles, hprofiles, -, hall⟩ := h.profiles
  obtain ⟨profiles', hprofiles', hlookup⟩ := profile?_eq_some_iff.mp hpcfg
  obtain rfl := Json.obj.inj (hprofiles.symm.trans hprofiles')
  exact hall _ (mem_of_lookup hlookup)

/-- Two sections written, and the rest of the site as it was. -/
theorem Savable.removal (h : Savable boot site) {name : String} {providers profiles : Fields}
    {f : String × Json → String × Json} (hproviders : site.raw .providers = .obj providers)
    (hprofiles : site.raw .profiles = .obj profiles)
    (hother : KeepsOther name (site.raw .providers))
    (hall : ∀ e ∈ profiles, LoadableProfile (f e)) :
    Savable boot ((site.setSection .providers (.obj (delField name providers))).setSection .profiles
      (.obj (profiles.map f))) := by
  obtain ⟨profiles', hprofiles', hne, -⟩ := h.profiles
  obtain rfl := Json.obj.inj (hprofiles.symm.trans hprofiles')
  have hkept : delField name providers ≠ [] := delField_ne_nil_iff.mpr (hother _ hproviders)
  exact (h.setSection (stable_providers_iff.mpr ⟨_, rfl, hkept⟩)).setSection
    (stable_map_profiles hne hall)

/-- A deletion on the page. -/
theorem reloads_providerDelete {name : String} (h : Reloads boot site)
    (hrun : serveProviderDelete name site = .ok () site') (hguard : SurvivesRemoval name site) :
    Reloads boot site' := by
  obtain ⟨providers, profiles, hproviders, hprofiles, -, hdone, rfl⟩ := serveProviderDelete_ok hrun
  obtain ⟨profiles', heq, -, hall⟩ := stable_profiles_iff.mp (hprofiles ▸ h.savable.2 .profiles)
  obtain rfl := Json.obj.inj heq
  exact (h.savable.removal hproviders hprofiles hguard.1 fun e he ↦
    loadable_dropProvider (hall e he) (hdone e he) (hguard.2 _ hprofiles e he)).reloads_save

/-- A removal on the setup page. -/
theorem reloads_setupRemove {name : String} (h : Reloads boot site)
    (hrun : removeProvider name site = .ok () site') (hguard : SurvivesRemoval name site) :
    Reloads boot site' := by
  obtain ⟨providers, profiles, hproviders, hprofiles, hdone, rfl⟩ := removeProvider_ok hrun
  obtain ⟨profiles', heq, -, hall⟩ := stable_profiles_iff.mp (hprofiles ▸ h.savable.2 .profiles)
  obtain rfl := Json.obj.inj heq
  exact (h.savable.removal hproviders hprofiles hguard.1 fun e he ↦
    loadable_dropListedProvider (hall e he) (hdone e he)
      (hguard.2 _ hprofiles e he)).reloads_save

/-- A rename. -/
theorem reloads_providerRename {name : String} {body : Json} (h : Reloads boot site)
    (hrun : serveProviderRename name body site = .ok () site') : Reloads boot site' := by
  obtain ⟨-, ⟨-, rfl⟩ | ⟨-, hmove⟩⟩ := serveProviderRename_ok hrun
  · exact h
  · obtain ⟨providers, profiles, entry, -, hprofiles, -, -, rfl⟩ := renameProvider_ok hmove
    obtain ⟨profiles', heq, hne, hall⟩ := stable_profiles_iff.mp (hprofiles ▸ h.savable.2 .profiles)
    obtain rfl := Json.obj.inj heq
    have hproviders : boot.Stable .providers
        (.obj (setField (newNameOf body) entry (delField name providers))) :=
      stable_providers_iff.mpr ⟨_, rfl, setField_ne_nil⟩
    exact ((h.savable.setSection hproviders).setSection (stable_map_profiles hne fun e he ↦
      loadable_repointProfile (hall e he))).reloads_save

/-- A creation or an update of a provider. -/
theorem reloads_providerCreate {body : Json} {discovered : List Json} (h : Reloads boot site)
    (hrun : serveProviderCreate boot body discovered site = .ok () site')
    (hname : ∃ name, body.get? "name" = some (.str name))
    (hlimits : LimitsWritable site discovered) :
    Reloads boot site' := by
  obtain ⟨fields, providers, credentials, rfl, -, -, rfl⟩ := serveProviderCreate_ok hrun
  obtain ⟨name, hname⟩ := hname
  simp only [Json.get?] at hname
  have hadded : Savable boot (site.addProvider boot ((fields.lookup "name").getD .null)
      (providerData fields) providers) := by
    have hproviders : boot.Stable .providers
        (.obj (setField name (.obj (providerData fields)) providers)) :=
      stable_providers_iff.mpr ⟨_, rfl, setField_ne_nil⟩
    have hsection := h.savable.setSection hproviders
    refine ⟨?_, ?_⟩
    · simp [Site.addProvider, hname, h.1, Json.text?]
    · rw [hname]
      exact hsection.2
  exact hadded.reloads_save.autoLearn hlimits

/-- An update of a provider. -/
theorem reloads_providerUpdate {name : String} {body : Json} {discovered : List Json}
    (h : Reloads boot site) (hrun : serveProviderUpdate name body discovered site = .ok () site')
    (hlimits : LimitsWritable site discovered) : Reloads boot site' := by
  obtain ⟨edited, ⟨entries, credentials, hne, rfl⟩, rfl⟩ := serveProviderUpdate_ok hrun
  have hsection := h.savable.setSection (stable_providers_iff.mpr ⟨entries, rfl, hne⟩)
  have hsaved : Reloads boot
      ((site.setSection .providers (.obj entries)).setCredentials credentials).save :=
    hsection.reloads_save
  exact hsaved.autoLearn hlimits

/-- A new order of a chain. -/
theorem reloads_chainReorder {profile : String} {body : Json} (h : Reloads boot site)
    (hrun : serveChainReorder profile body site = .ok () site') : Reloads boot site' := by
  obtain ⟨pcfg, steps, hpcfg, hne, rfl⟩ := serveChainReorder_ok hrun
  exact (h.savable.setProfile (loadable_setChain (h.savable.loadable hpcfg) hne)).reloads_save

/-- A new profile. -/
theorem reloads_profileCreate {body : Json} (h : Reloads boot site)
    (hrun : serveProfileCreate boot body site = .ok () site')
    (hguard : ∀ steps, seededChain boot site = some steps → ∀ s ∈ steps, s.2 = true) :
    Reloads boot site' := by
  obtain ⟨name, profiles, steps, draft, fields, -, hsteps, hne, hchain, hvalid, rfl⟩ :=
    serveProfileCreate_ok hrun
  obtain ⟨hloadable, hkept⟩ := loadable_validateProfileFields hvalid
  have hprofile : LoadableProfile (name, .obj fields) :=
    ⟨fields, _, rfl, hkept.trans hchain, by simpa [Json.truthy] using hne, hloadable⟩
  have hset := h.savable.setProfile hprofile
  have htext : steps.all (·.2) = true := List.all_eq_true.mpr (hguard steps hsteps)
  exact Savable.reloads_save ⟨by simp [h.1, htext], hset.2⟩

/-- An update of a profile. -/
theorem reloads_profileUpdate {name : String} {body : Json} (h : Reloads boot site)
    (hrun : serveProfileUpdate name body site = .ok () site')
    (hguard : ∀ chain, body.get? "chain" = some chain → chain.truthy = true) :
    Reloads boot site' := by
  obtain ⟨hname, hedit⟩ := serveProfileUpdate_ok hrun
  obtain ⟨profiles, hprofiles, -, hall⟩ := h.savable.profiles
  obtain ⟨value, hvalue⟩ : ∃ value, profiles.lookup name = some value := by
    simpa [Site.hasProfile, hprofiles, Json.get?, Option.isSome_iff_exists] using hname
  obtain ⟨pcfg, chain, hpcfg, hchain, htruthy, hloadable⟩ := hall _ (mem_of_lookup hvalue)
  obtain rfl : value = .obj pcfg := hpcfg
  obtain ⟨edited, pcfg', ⟨-, rfl, hload, hkept⟩, rfl⟩ :=
    hedit pcfg (profile?_eq_some_iff.mpr ⟨profiles, hprofiles, hvalue⟩)
  refine (h.savable.setProfile ?_).reloads_save
  rcases hkept with hsame | ⟨fields, given, rfl, hgiven, hnew⟩
  · exact ⟨pcfg', chain, rfl, hsame.trans hchain, htruthy, hload hloadable⟩
  · exact ⟨pcfg', given, rfl, hnew, hguard given hgiven, hload hloadable⟩

/-- A deletion of a profile. -/
theorem reloads_profileDelete {name : String} (h : Reloads boot site)
    (hrun : serveProfileDelete name site = .ok () site')
    (hguard : KeepsOther name (site.raw .profiles)) : Reloads boot site' := by
  obtain ⟨profiles, hprofiles, rfl⟩ := serveProfileDelete_ok hrun
  obtain ⟨profiles', heq, -, hall⟩ := stable_profiles_iff.mp (hprofiles ▸ h.savable.2 .profiles)
  obtain rfl := Json.obj.inj heq
  refine (h.savable.setSection (stable_profiles_iff.mpr ⟨_, rfl,
    delField_ne_nil_iff.mpr (hguard _ hprofiles), fun e he ↦ ?_⟩)).reloads_save
  exact hall e (List.mem_filter.mp he).1

/-- Step lemma: an accepted write that meets its condition is read back. -/
theorem reloads_step {w : Write} (h : Reloads boot site)
    (haccepted : w.Accepted boot site) (hguard : w.Guard boot site) :
    Reloads boot (w.step boot site) := by
  have hrun : w.handler boot site = .ok () (w.step boot site) := eq_ok_of_wentThrough haccepted
  cases w with
  | providerCreate body discovered => exact reloads_providerCreate h hrun hguard.1 hguard.2
  | providerUpdate name body discovered => exact reloads_providerUpdate h hrun hguard
  | providerDelete name => exact reloads_providerDelete h hrun hguard
  | providerRename name body => exact reloads_providerRename h hrun
  | setupRemove name => exact reloads_setupRemove h hrun hguard
  | chainReorder profile body => exact reloads_chainReorder h hrun
  | profileCreate body => exact reloads_profileCreate h hrun hguard
  | profileUpdate name body => exact reloads_profileUpdate h hrun hguard
  | profileDelete name => exact reloads_profileDelete h hrun hguard

/-- After each of a run of accepted writes that meet their conditions, a new process reads the
configuration that is in memory. -/
theorem accepted_writes_reload (boot : Boot) {site : Site} (hsite : Reloads boot site)
    (writes : List Write)
    (h : ∀ p ∈ steps (Write.step boot) site writes,
      p.2.Accepted boot p.1 ∧ p.2.Guard boot p.1) :
    ∀ p ∈ steps (Write.step boot) site writes, Reloads boot (p.2.step boot p.1) := by
  have hstep : ∀ (site : Site) (w : Write), Reloads boot site →
      w.Accepted boot site ∧ w.Guard boot site → Reloads boot (w.step boot site) :=
    fun _ _ hinv hp ↦ reloads_step hinv hp.1 hp.2
  exact steps_safe_of_guard hstep hstep site writes hsite h

/-! ### A gateway with two providers -/

/-- A step of a chain. -/
def sampleStep (provider : String) : Json :=
  .obj [("provider", .str provider), ("model", .str "deepseek-v4-flash")]

/-- Two profiles; the second one has steps of one provider only. -/
def sampleSections : Sections
  | .server => .obj [("port", .int 8734), ("default_profile", .str "l1")]
  | .profiles => .obj
      [("l1", .obj [("chain", .arr [sampleStep "opencode", sampleStep "deepseek"])]),
        ("career", .obj [("chain", .arr [sampleStep "deepseek"])])]
  | .providers => .obj [("opencode", .obj []), ("deepseek", .obj [])]
  | .pricing => .arr [.obj [("provider", .str "deepseek")]]
  | .circuitBreaker => .obj [("failures_dead", .int 6)]
  | .database => .obj [("path", .str "/app/data/costs.db")]
  | _ => .obj []

/-- A process that is seeded with these sections. -/
def sampleBoot : Boot where
  seed := ⟨sampleSections, by decide +kernel⟩
  env := ⟨none, none⟩
  keyText := fun _ ↦ "null"

/-- The gateway after its first start. -/
def sampleSite : Site where
  raw := sampleSections
  textKeys := true
  settings := ⟨fun _ ↦ none⟩
  credentials := none
  breaker := .new defaultCbConfig

/-- The first start reads the seed. -/
theorem reloads_sampleSite : Reloads sampleBoot sampleSite :=
  ⟨rfl, hydrate_eq_some_iff.mpr fun s ↦ by cases s <;> rfl⟩

/-- Deleting the provider that has an alternative everywhere, and renaming the other one. -/
def sampleWrites : List Write :=
  [.providerDelete "opencode", .providerRename "deepseek" (.obj [("new_name", .str "ds")])]

/-- Both writes are read back. -/
theorem sampleWrites_reload :
    Reloads sampleBoot (run (Write.step sampleBoot) sampleSite sampleWrites) := by
  have hguard : SurvivesRemoval "opencode" sampleSite := by
    refine ⟨fun entries hentries ↦ ?_, fun profiles hprofiles e he steps hsteps ↦ ?_⟩
    · obtain rfl := Json.obj.inj hentries
      exact ⟨("deepseek", .obj []), by simp, by decide⟩
    · obtain rfl := Json.obj.inj hprofiles
      refine ⟨sampleStep "deepseek", ?_, by decide⟩
      simp only [List.mem_cons, List.not_mem_nil, or_false] at he
      rcases he with rfl | rfl <;> obtain rfl := Json.arr.inj (Option.some.inj hsteps) <;> simp
  have hall := accepted_writes_reload sampleBoot reloads_sampleSite sampleWrites (by
    simp only [sampleWrites, steps, List.forall_mem_cons]
    exact ⟨⟨by decide +kernel, hguard⟩, ⟨by decide +kernel, trivial⟩, by simp⟩)
  simp only [sampleWrites, steps, List.forall_mem_cons] at hall
  exact hall.2.1

/-- Deleting the only provider of a chain is accepted and is not read back: the next start takes
all the profiles of the seed. -/
theorem deleted_provider_resets_profiles :
    ¬ ∀ (boot : Boot) (site : Site) (writes : List Write), Reloads boot site →
      (∀ p ∈ steps (Write.step boot) site writes, p.2.Accepted boot p.1) →
      ∀ p ∈ steps (Write.step boot) site writes, Reloads boot (p.2.step boot p.1) := by
  intro h
  have haccepted : (Write.providerDelete "deepseek").Accepted sampleBoot sampleSite := by
    decide +kernel
  have hreloads := h sampleBoot sampleSite [.providerDelete "deepseek"] reloads_sampleSite
    (by simpa [steps] using haccepted) _ (List.mem_singleton_self _)
  obtain ⟨profiles, hprofiles, -, hall⟩ := hreloads.savable.profiles
  have hcareer : ((Write.step sampleBoot sampleSite (.providerDelete "deepseek")).raw
      .profiles).get? "career" = some (.obj [("chain", .arr [])]) := rfl
  rw [hprofiles] at hcareer
  obtain ⟨pcfg, chain, heq, hchain, htruthy, -⟩ := hall _ (mem_of_lookup hcareer)
  obtain rfl := Json.obj.inj heq
  obtain rfl := Option.some.inj hchain
  simp [Json.truthy] at htruthy

end LcpGateway.Server
