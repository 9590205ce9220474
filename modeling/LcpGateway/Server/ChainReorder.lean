import LcpGateway.Server.ProfileUpdates

/-!
# Reordering a chain

Library `Server`. Source `src/server/endpoints.py:1359–1401`. The Providers page sends the steps of a
chain in their new order without base URLs, and the endpoint takes each base URL from the old chain,
from the last step with the same provider and model. A stored step has a provider, a model and
perhaps a base URL, and nothing else.
-/

namespace LcpGateway.Server
open LcpGateway.Base LcpGateway.Config

/-- A step without its base URL. -/
def withoutUrl : Json → Json
  | .obj fields => .obj (delField "base_url" fields)
  | step => step

/-- The body of a reorder to the given steps, sent without base URLs. -/
def reorderBody (steps : List Json) : Json := .obj [("chain", .arr (steps.map withoutUrl))]

/-- The chain of a profile, when it is a list. -/
def Site.chain? (site : Site) (profile : String) : Option (List Json) :=
  (site.profile? profile).bind (fun pcfg ↦ (pcfg.lookup "chain").bind Json.items?)

/-- `a == b` on steps: the same value under every key. -/
def SameStep (a b : Json) : Prop :=
  ∃ fields fields', a = .obj fields ∧ b = .obj fields' ∧
    ∀ key, fields.lookup key = fields'.lookup key

/-- The request is accepted, and the stored chain is the given one, step by step. -/
def StoresOrder (profile : String) (steps : List Json) (site : Site) : Prop :=
  ∃ site' chain, serveChainReorder profile (reorderBody steps) site = .ok () site' ∧
    site'.chain? profile = some chain ∧ List.Forall₂ SameStep chain steps ∧
    site'.settings = save site'.raw site.settings

/-- Two steps use the same provider and model. -/
def SameModel (a b : Json) : Prop :=
  (stepKey a).1.same (stepKey b).1 = true ∧ (stepKey a).2.same (stepKey b).2 = true

/-- A step of a provider, a model and perhaps a base URL that is not empty; its provider and its
model can be a key, and one that is found again when there is a URL to be found. -/
structure PlainStep (step : Json) : Prop where
  isObj : step.isObj = true
  named : (step.get? "provider").isSome ∧ (step.get? "model").isSome
  hashable : hashablePair (stepKey step) = true
  url : ∀ url, step.get? "base_url" = some url → url.truthy = true ∧ SameModel step step
  nothingElse : ∀ key, key ∉ ["provider", "model", "base_url"] → step.get? key = none

/-- A chain of plain steps, in which steps that use the same provider and model have the same base
URL, or none. -/
structure UniformUrls (steps : List Json) : Prop where
  nonempty : steps ≠ []
  plain : ∀ s ∈ steps, PlainStep s
  uniform : ∀ s ∈ steps, ∀ t ∈ steps, SameModel s t → s.get? "base_url" = t.get? "base_url"

/-! ### The base URL of a step -/

section Restored

variable {old : List Json} {s t : Json}

/-- Steps of one provider and model are so in both orders. -/
theorem SameModel.symm (h : SameModel s t) : SameModel t s := by
  unfold SameModel at h ⊢
  rwa [Json.same_comm, Json.same_comm (a := (stepKey t).2)]

/-- The base URL that a reorder gives to a step that is sent without one. -/
def restoredUrl (old : List Json) (step : Json) : Option Json :=
  (oldBaseUrl old (stepKey step)).filter Json.truthy

/-- Steps of one provider and model get the same base URL. -/
theorem restoredUrl_congr (h : SameModel s t) : restoredUrl old s = restoredUrl old t := by
  have hpred : (fun x : Json ↦ (stepKey x).1.same (stepKey s).1 && (stepKey x).2.same (stepKey s).2) =
      fun x ↦ (stepKey x).1.same (stepKey t).1 && (stepKey x).2.same (stepKey t).2 := by
    funext x
    rw [Json.same_congr h.1, Json.same_congr h.2]
  rw [restoredUrl, oldBaseUrl, hpred, restoredUrl, oldBaseUrl]

/-- A restored base URL is that of an old step of the same provider and model. -/
theorem exists_of_restoredUrl {url : Json} (h : restoredUrl old s = some url) :
    url.truthy = true ∧ ∃ t ∈ old, SameModel t s ∧ t.get? "base_url" = some url := by
  obtain ⟨hold, htruthy⟩ := Option.filter_eq_some_iff.mp h
  obtain ⟨t, hfind, hurl⟩ := Option.map_eq_some_iff.mp hold
  have hsame : SameModel t s := by simpa [SameModel] using List.find?_some hfind
  refine ⟨htruthy, t, List.mem_reverse.mp (List.mem_of_find?_eq_some hfind), hsame, ?_⟩
  cases hget : t.get? "base_url" with
  | none =>
    rw [hget] at hurl
    subst hurl
    exact absurd htruthy (by decide)
  | some u =>
    rw [hget] at hurl
    exact congrArg some hurl

/-- Without a restored base URL, the last old step of the provider and model has an empty one or
none. -/
theorem exists_of_restoredUrl_none (h : restoredUrl old s = none) (hs : SameModel t s)
    (ht : t ∈ old) : ∃ u ∈ old, SameModel u s ∧ ∀ url, u.get? "base_url" = some url →
      url.truthy = false := by
  have hsome : (old.reverse.find? (fun x ↦
      (stepKey x).1.same (stepKey s).1 && (stepKey x).2.same (stepKey s).2)).isSome := by
    rw [List.find?_isSome]
    exact ⟨t, List.mem_reverse.mpr ht, by simpa [SameModel] using hs⟩
  obtain ⟨u, hfind⟩ := Option.isSome_iff_exists.mp hsome
  refine ⟨u, List.mem_reverse.mp (List.mem_of_find?_eq_some hfind),
    by simpa [SameModel] using List.find?_some hfind, fun url hurl ↦ ?_⟩
  rw [restoredUrl, oldBaseUrl, hfind, Option.map_some, hurl, Option.getD_some] at h
  simpa using h

/-- Every old step gets its own base URL back exactly when no base URL is empty, a step with one is
found under its own key, and steps of one provider and model have the same one. -/
theorem restoredUrl_eq_iff :
    (∀ s ∈ old, restoredUrl old s = s.get? "base_url") ↔
      (∀ s ∈ old, ∀ url, s.get? "base_url" = some url → url.truthy = true ∧ SameModel s s) ∧
        ∀ s ∈ old, ∀ t ∈ old, SameModel s t → s.get? "base_url" = t.get? "base_url" := by
  constructor
  · intro h
    refine ⟨fun s hs url hurl ↦ ?_, fun s hs t ht hsame ↦ ?_⟩
    · obtain ⟨htruthy, t, -, hts, -⟩ := exists_of_restoredUrl ((h s hs).trans hurl)
      refine ⟨htruthy, ?_⟩
      unfold SameModel
      rw [← Json.same_congr hts.1, ← Json.same_congr hts.2]
      exact hts.symm
    · rw [← h s hs, ← h t ht, restoredUrl_congr hsame]
  · rintro ⟨hurls, huniform⟩ s hs
    cases hrestored : restoredUrl old s with
    | some url =>
      obtain ⟨-, t, ht, hts, hurl⟩ := exists_of_restoredUrl hrestored
      rw [← huniform t ht s hs hts, hurl]
    | none =>
      cases hurl : s.get? "base_url" with
      | none => rfl
      | some url =>
        obtain ⟨htruthy, hself⟩ := hurls s hs url hurl
        obtain ⟨u, hu, hus, hempty⟩ := exists_of_restoredUrl_none hrestored hself hs
        rw [hempty url ((huniform u hu s hs hus).trans hurl)] at htruthy
        cases htruthy

end Restored

/-! ### One step -/

section Step

variable {old : List Json} {fields : Fields}

/-- The fields of a stored step. -/
def storedFields (key : Json × Json) (url : Option Json) : Fields :=
  [("provider", key.1), ("model", key.2)] ++ url.toList.map (fun url ↦ ("base_url", url))

/-- A step sent without its base URL has the key it has. -/
theorem stepKey_withoutUrl (s : Json) : stepKey (withoutUrl s) = stepKey s := by
  cases s with
  | obj fields =>
    simp only [stepKey, withoutUrl, Json.get?, lookup_delField]
    rfl
  | _ => rfl

/-- What a reorder makes of a step that is sent without its base URL. -/
theorem mergeStep_withoutUrl :
    mergeStep old (withoutUrl (.obj fields)) =
      if hashablePair (stepKey (.obj fields)) then
        some (.obj (storedFields (stepKey (.obj fields)) (restoredUrl old (.obj fields))))
      else none := by
  have hurl : ((withoutUrl (.obj fields)).get? "base_url").getD .null = .null := by
    simp only [withoutUrl, Json.get?, lookup_delField]
    rfl
  rw [mergeStep, stepKey_withoutUrl, hurl, restoredUrl]
  cases (oldBaseUrl old (stepKey (.obj fields))).filter Json.truthy <;> rfl

/-- The fields of a stored step. -/
theorem lookup_storedFields (key : Json × Json) (url : Option Json) (name : String) :
    (storedFields key url).lookup name =
      if name = "provider" then some key.1 else if name = "model" then some key.2
      else if name = "base_url" then url else none := by
  unfold storedFields
  by_cases hprovider : name = "provider"
  · subst hprovider
    rfl
  by_cases hmodel : name = "model"
  · subst hmodel
    rfl
  rw [if_neg hprovider, if_neg hmodel, List.cons_append, List.lookup_cons,
    beq_false_of_ne hprovider, List.cons_append, List.lookup_cons, beq_false_of_ne hmodel,
    List.nil_append]
  by_cases hurl : name = "base_url"
  · subst hurl
    cases url <;> rfl
  · cases url <;> simp [List.lookup_cons, beq_false_of_ne hurl, hurl]

/-- A stored step is the one it was made from exactly when that one is plain and got its own base
URL back. -/
theorem sameStep_storedFields_iff :
    SameStep (.obj (storedFields (stepKey (.obj fields)) (restoredUrl old (.obj fields))))
        (.obj fields) ↔
      ((fields.lookup "provider").isSome ∧ (fields.lookup "model").isSome) ∧
        restoredUrl old (.obj fields) = fields.lookup "base_url" ∧
        ∀ key, key ∉ ["provider", "model", "base_url"] → fields.lookup key = none := by
  have hall : SameStep (.obj (storedFields (stepKey (.obj fields)) (restoredUrl old (.obj fields))))
      (.obj fields) ↔ ∀ key, (storedFields (stepKey (.obj fields))
        (restoredUrl old (.obj fields))).lookup key = fields.lookup key := by
    simp [SameStep]
  rw [hall]
  simp only [lookup_storedFields]
  constructor
  · intro h
    have hprovider := h "provider"
    have hmodel := h "model"
    have hurl := h "base_url"
    rw [if_pos rfl] at hprovider
    rw [if_neg (by decide), if_pos rfl] at hmodel
    rw [if_neg (by decide), if_neg (by decide), if_pos rfl] at hurl
    refine ⟨⟨by rw [← hprovider]; rfl, by rw [← hmodel]; rfl⟩, hurl, fun key hkey ↦ ?_⟩
    have hother := h key
    simp only [List.mem_cons, List.not_mem_nil, or_false, not_or] at hkey
    rw [if_neg hkey.1, if_neg hkey.2.1, if_neg hkey.2.2] at hother
    exact hother.symm
  · rintro ⟨⟨hprovider, hmodel⟩, hurl, hother⟩ key
    obtain ⟨provider, hprovider⟩ := Option.isSome_iff_exists.mp hprovider
    obtain ⟨model, hmodel⟩ := Option.isSome_iff_exists.mp hmodel
    split_ifs with h h' h''
    · rw [h, hprovider, stepKey, Json.get?, hprovider]
      rfl
    · rw [h', hmodel, stepKey, Json.get?, Json.get?, hmodel]
      rfl
    · rw [h'', hurl]
    · exact (hother key (by simp [h, h', h''])).symm

/-- A step is stored as it is exactly when it is an object with a key that can be looked up, with
nothing but the three fields, and its own base URL is restored. -/
theorem mergeStep_same_iff (old : List Json) (s : Json) :
    (∃ stored, mergeStep old (withoutUrl s) = some stored ∧ SameStep stored s) ↔
      (s.isObj = true ∧ ((s.get? "provider").isSome ∧ (s.get? "model").isSome) ∧
        hashablePair (stepKey s) = true ∧
        ∀ key, key ∉ ["provider", "model", "base_url"] → s.get? key = none) ∧
      restoredUrl old s = s.get? "base_url" := by
  cases s with
  | obj fields =>
    rw [mergeStep_withoutUrl]
    cases hhash : hashablePair (stepKey (.obj fields)) with
    | false => simp
    | true =>
      simp only [if_true, Option.some.injEq, exists_eq_left', sameStep_storedFields_iff, Json.isObj,
        Json.get?]
      tauto
  | _ => simp [mergeStep, withoutUrl, Json.isObj]

end Step

/-! ### The whole chain -/

variable {site : Site} {profile : String} {steps perm : List Json}

/-- A profile with a chain. -/
theorem chain?_eq_some_iff :
    site.chain? profile = some steps ↔
      ∃ pcfg, site.profile? profile = some pcfg ∧ pcfg.lookup "chain" = some (.arr steps) := by
  have hitems : ∀ v : Json, v.items? = some steps ↔ v = .arr steps := by
    intro v
    cases v <;> simp [Json.items?]
  simp [Site.chain?, Option.bind_eq_some_iff, hitems]

/-- A reorder that sends the given steps goes through when there are any, the old steps can be looked
up and every step can be stored. -/
theorem serveChainReorder_eq_ok_iff {pcfg : Fields} {site' : Site}
    (hpcfg : site.profile? profile = some pcfg) (hlookup : pcfg.lookup "chain" = some (.arr steps)) :
    serveChainReorder profile (reorderBody perm) site = .ok () site' ↔ perm ≠ [] ∧
      (∀ s ∈ steps, s.isObj = true ∧ hashablePair (stepKey s) = true) ∧
      ∃ merged, perm.mapM (fun s ↦ mergeStep steps (withoutUrl s)) = some merged ∧
        site' = (site.setProfile profile (setField "chain" (.arr merged) pcfg)).save := by
  have hold : oldSteps pcfg =
      if steps.all (fun s ↦ s.isObj && hashablePair (stepKey s)) then some steps else none := by
    rw [oldSteps, hlookup]
    rfl
  have hall : (steps.all (fun s ↦ s.isObj && hashablePair (stepKey s)) = true) ↔
      ∀ s ∈ steps, s.isObj = true ∧ hashablePair (stepKey s) = true := by simp
  have hmap : (perm.map withoutUrl).mapM (mergeStep steps) =
      perm.mapM (fun s ↦ mergeStep steps (withoutUrl s)) := List.mapM_map ..
  have hsent : ((reorderBody perm).fields?.bind (·.lookup "chain")).bind Json.items? =
      some (perm.map withoutUrl) := rfl
  simp only [serveChainReorder, orRaise, orRefuse, refuseIf, get_bind_eq_ok, modify_bind_eq_ok,
    orStop_bind_eq_ok, stopIf_bind_eq_ok, modify_eq_ok]
  constructor
  · rintro ⟨-, fields, hfields, sent, hitems, hne, pcfg', hpcfg', old, hold', merged, hmerged, rfl⟩
    rw [hfields, Option.bind_some, hitems] at hsent
    obtain rfl := Option.some.inj hsent
    obtain rfl := Option.some.inj (hpcfg'.symm.trans hpcfg)
    rw [hold] at hold'
    split at hold'
    · next hsteps =>
      obtain rfl := Option.some.inj hold'
      refine ⟨?_, hall.mp hsteps, merged, hmap ▸ hmerged, rfl⟩
      rintro rfl
      cases hne
    · cases hold'
  · rintro ⟨hne, hsteps, merged, hmerged, rfl⟩
    refine ⟨by rw [hasProfile_of_profile? hpcfg]; rfl, _, rfl, _, hsent, ?_, pcfg, hpcfg, steps, ?_,
      merged, hmap ▸ hmerged, rfl⟩
    · cases perm with
      | nil => exact absurd rfl hne
      | cons s rest => rfl
    · rw [hold, if_pos (hall.mpr hsteps)]

/-- The given steps are stored exactly when there are any, the old steps can be looked up and every
step is stored as it is. -/
theorem storesOrder_iff_mergeStep (hchain : site.chain? profile = some steps) :
    StoresOrder profile perm site ↔ perm ≠ [] ∧
      (∀ s ∈ steps, s.isObj = true ∧ hashablePair (stepKey s) = true) ∧
      ∀ s ∈ perm, ∃ stored, mergeStep steps (withoutUrl s) = some stored ∧ SameStep stored s := by
  obtain ⟨pcfg, hpcfg, hlookup⟩ := chain?_eq_some_iff.mp hchain
  have hstored : ∀ merged, ((site.setProfile profile
      (setField "chain" (.arr merged) pcfg)).save).chain? profile = some merged := by
    intro merged
    refine chain?_eq_some_iff.mpr ⟨_, profile?_setProfile hpcfg, ?_⟩
    rw [lookup_setField, if_pos rfl]
  rw [← exists_mapM_forall₂_iff]
  simp only [StoresOrder, serveChainReorder_eq_ok_iff hpcfg hlookup]
  constructor
  · rintro ⟨_, chain, ⟨hne, hsteps, merged, hmerged, rfl⟩, hread, hsame, -⟩
    obtain rfl := Option.some.inj ((hstored merged).symm.trans hread)
    exact ⟨hne, hsteps, merged, hmerged, hsame⟩
  · rintro ⟨hne, hsteps, merged, hmerged, hsame⟩
    refine ⟨_, merged, ⟨hne, hsteps, merged, hmerged, rfl⟩, hstored merged, hsame, ?_⟩
    obtain ⟨profiles, hprofiles, -⟩ := profile?_eq_some_iff.mp hpcfg
    simp [Site.save, Site.setProfile, hprofiles, Site.setSection]

/-- A permutation of a chain, sent without base URLs, is stored step by step exactly when the chain
has uniform URLs. -/
theorem storesOrder_iff (hchain : site.chain? profile = some steps) (hperm : perm.Perm steps) :
    StoresOrder profile perm site ↔ UniformUrls steps := by
  have hempty : perm ≠ [] ↔ steps ≠ [] := by
    rw [ne_eq, ne_eq, ← List.length_eq_zero_iff, hperm.length_eq, List.length_eq_zero_iff]
  simp only [storesOrder_iff_mergeStep hchain, hempty, hperm.mem_iff, mergeStep_same_iff]
  constructor
  · rintro ⟨hne, -, hsteps⟩
    obtain ⟨hurls, huniform⟩ := restoredUrl_eq_iff.mp fun s hs ↦ (hsteps s hs).2
    refine ⟨hne, fun s hs ↦ ?_, huniform⟩
    obtain ⟨⟨hobj, hnamed, hhash, hother⟩, -⟩ := hsteps s hs
    exact ⟨hobj, hnamed, hhash, hurls s hs, hother⟩
  · rintro ⟨hne, hplain, huniform⟩
    have hurls := restoredUrl_eq_iff.mpr ⟨fun s hs ↦ (hplain s hs).url, huniform⟩
    refine ⟨hne, fun s hs ↦ ⟨(hplain s hs).isObj, (hplain s hs).hashable⟩, fun s hs ↦ ?_⟩
    have h := hplain s hs
    exact ⟨⟨h.isObj, h.named, h.hashable, h.nothingElse⟩, hurls s hs⟩

/-! ### Two chains -/

/-- A step with a base URL. -/
def urlStep (provider url : String) : Json :=
  .obj [("provider", .str provider), ("model", .str "deepseek-v4-pro"), ("base_url", .str url)]

/-- A gateway whose profile has the given chain. -/
def chainSite (steps : List Json) : Site where
  raw := fun
    | .profiles => .obj [("l2", .obj [("chain", .arr steps)])]
    | _ => .obj []
  textKeys := true
  settings := ⟨fun _ ↦ none⟩
  credentials := none
  breaker := .new Breaker.defaultCbConfig

/-- A step with a base URL that is not empty is plain. -/
theorem plainStep_urlStep {provider url : String} (hurl : url ≠ "") :
    PlainStep (urlStep provider url) where
  isObj := rfl
  named := ⟨rfl, rfl⟩
  hashable := rfl
  url := by
    intro found hfound
    obtain rfl : Json.str url = found := Option.some.inj hfound
    exact ⟨decide_eq_true hurl, decide_eq_true rfl, rfl⟩
  nothingElse := by
    intro key hkey
    simp only [List.mem_cons, List.not_mem_nil, or_false, not_or] at hkey
    have hlookup := lookup_storedFields (.str provider, .str "deepseek-v4-pro") (some (.str url)) key
    rwa [if_neg hkey.1, if_neg hkey.2.1, if_neg hkey.2.2] at hlookup

/-- Steps of two providers change places. -/
theorem storesOrder_twoProviders :
    let steps := [urlStep "opencode" "https://opencode.ai/inference/openai/v1",
      urlStep "deepseek" "https://api.deepseek.com/v1"]
    (chainSite steps).chain? "l2" = some steps ∧ steps.reverse.Perm steps ∧
      StoresOrder "l2" steps.reverse (chainSite steps) := by
  intro steps
  refine ⟨rfl, steps.reverse_perm, (storesOrder_iff rfl steps.reverse_perm).mpr ⟨?_, ?_, ?_⟩⟩
  · exact List.cons_ne_nil _ _
  · rw [List.forall_mem_cons, List.forall_mem_singleton]
    exact ⟨plainStep_urlStep (by decide), plainStep_urlStep (by decide)⟩
  · intro s hs t ht hsame
    simp only [steps, List.mem_cons, List.not_mem_nil, or_false] at hs ht
    obtain rfl | rfl := hs <;> obtain rfl | rfl := ht
    · rfl
    · exact absurd hsame.1 (by decide)
    · exact absurd hsame.1 (by decide)
    · rfl

/-- Steps of one provider and model with two base URLs change places, and one URL is stored for
both. -/
theorem not_storesOrder_twoUrls :
    let steps := [urlStep "deepseek" "https://a.example/v1",
      urlStep "deepseek" "https://b.example/v1"]
    (chainSite steps).chain? "l2" = some steps ∧ steps.reverse.Perm steps ∧
      ¬ StoresOrder "l2" steps.reverse (chainSite steps) := by
  intro steps
  refine ⟨rfl, steps.reverse_perm, fun hstores ↦ ?_⟩
  obtain ⟨-, -, hsteps⟩ := (storesOrder_iff_mergeStep rfl).mp hstores
  have hfirst := (mergeStep_same_iff steps _).mp (hsteps (urlStep "deepseek" "https://a.example/v1")
    (by simp [steps]))
  have hrestored : restoredUrl steps (urlStep "deepseek" "https://a.example/v1") =
      some (.str "https://b.example/v1") := rfl
  have hurl := Json.str.inj (Option.some.inj (hrestored.symm.trans hfirst.2))
  exact absurd hurl (by decide)

end LcpGateway.Server
