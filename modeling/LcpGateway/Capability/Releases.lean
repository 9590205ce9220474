import LcpGateway.Capability.Api

/-!
# The release reported and the release used

Library `Capability`. Source `src/api/seed_capabilities.py:155–231`. The rows the router ranks on
are chosen by `resolve_active_rows`; `effective_releases` tells which release that is. One function
groups the rows without a release under `None`, which is also what no pin is; the other one leaves
them out, along with empty labels.
-/

namespace LcpGateway.Capability
open LcpGateway.Base

/-- The labels that `effective_releases` looks at. -/
def namedReleases (rows : List CapabilityRow) : List String :=
  (rows.filterMap CapabilityRow.releaseLabel).filter (· ≠ "")

/-- The release reported for the rows of one model; `seed_capabilities.py:220–230`. -/
def reportedRelease (rows : List CapabilityRow) (active : Option String) : Option String :=
  (namedReleases rows).max?.map (fun newest ↦ (active.filter (· ∈ namedReleases rows)).getD newest)

/-- The rows of the reported release of their model, and those without a release. -/
def reportedRows (rows : List CapabilityRow) (registry : ReleaseRegistry) : List CapabilityRow :=
  rows.filter (fun r ↦ r.releaseLabel = none ∨
    (effectiveReleases rows registry).get? r.model = r.releaseLabel)

/-- Both functions choose the same release for rows of one model: a row has a release with a name,
and a pin that has rows is a name. -/
structure ReleasesAgree (rows : List CapabilityRow) (active : Option String) : Prop where
  named : namedReleases rows ≠ []
  pinned : active ∈ rows.map CapabilityRow.releaseLabel → active ≠ none ∧ active ≠ some ""

/-! ## What is reported -/

/-- A named release is the label of a row. -/
theorem mem_namedReleases {rows : List CapabilityRow} {label : String} :
    label ∈ namedReleases rows ↔
      some label ∈ rows.map CapabilityRow.releaseLabel ∧ label ≠ "" := by
  simp [namedReleases]

/-- The named releases of the labelled rows of one model. -/
private theorem releases_labelled (rows : List CapabilityRow) (model : String) :
    (((rows.filter (fun r ↦ r.releaseLabel ≠ none ∧ r.releaseLabel ≠ some "")).filter
      (fun r ↦ r.model = model)).filterMap CapabilityRow.releaseLabel) =
        namedReleases (ofModel rows model) := by
  induction rows with
  | nil => rfl
  | cons r rest ih =>
    by_cases hmodel : r.model = model
    · cases hlabel : r.releaseLabel with
      | none => simpa [namedReleases, ofModel, hlabel, hmodel] using ih
      | some label =>
        by_cases hname : label = "" <;>
          simpa [namedReleases, ofModel, hlabel, hmodel, hname] using ih
    · by_cases hlabelled : r.releaseLabel ≠ none ∧ r.releaseLabel ≠ some "" <;>
        simpa [namedReleases, ofModel, hmodel, hlabelled] using ih

/-- The report of one model looks at its own rows. -/
theorem get?_effectiveReleases (rows : List CapabilityRow) (registry : ReleaseRegistry)
    (model : String) : (effectiveReleases rows registry).get? model =
      reportedRelease (ofModel rows model) (registry.activeRelease model) := by
  let labelled := rows.filter (fun r ↦ r.releaseLabel ≠ none ∧ r.releaseLabel ≠ some "")
  let report (e : String × List CapabilityRow) : Option String :=
    (e.2.filterMap CapabilityRow.releaseLabel).max?.map fun newest ↦
      ((registry.activeRelease e.1).filter
        (· ∈ e.2.filterMap CapabilityRow.releaseLabel)).getD newest
  refine (foldl_observe (fun (out : Dict String String) k ↦ out.get? k) Prod.fst
    (fun found e ↦ (report e).or found) ?_
    (Dict.groupBy CapabilityRow.model labelled).entries Dict.empty model).trans ?_
  · intro out e k
    simp only [report]
    cases hmax : (e.2.filterMap CapabilityRow.releaseLabel).max? with
    | none => cases registry.activeRelease e.1 <;> simp
    | some newest =>
      cases hactive : registry.activeRelease e.1 with
      | none => simp [Dict.get?_set]
      | some active =>
        by_cases hpin : active ∈ e.2.filterMap CapabilityRow.releaseLabel <;>
          simp [Dict.get?_set, Option.filter, hpin]
  have hgroup := Dict.getD_groupBy CapabilityRow.model labelled model
  have hreleases := releases_labelled rows model
  rw [← hgroup] at hreleases
  rw [Dict.filter_entries, reportedRelease, ← hreleases]
  cases (Dict.groupBy CapabilityRow.model labelled).get? model with
  | none => rfl
  | some group => simp [report]

/-! ## When both choose the same release -/

/-- A row without a release under a label, or without one under none. -/
private theorem filter_or_perm {α : Type} (p q : α → Bool) (h : ∀ a, ¬ (p a = true ∧ q a = true))
    (l : List α) : (l.filter p ++ l.filter q).Perm (l.filter (fun a ↦ q a || p a)) := by
  induction l with
  | nil => rfl
  | cons a rest ih =>
    cases hp : p a with
    | true =>
      have hq : q a = false := by simpa [hp] using h a
      simpa [hp, hq] using ih
    | false =>
      cases hq : q a with
      | true => simpa [hp, hq] using List.perm_middle.trans (ih.cons a)
      | false => simpa [hp, hq] using ih

/-- The newest release is the newest one with a name, when there is one. -/
theorem max?_eq_max?_namedReleases {rows : List CapabilityRow} (h : namedReleases rows ≠ []) :
    (rows.filterMap CapabilityRow.releaseLabel).max? = (namedReleases rows).max? := by
  obtain ⟨newest, hnewest⟩ : ∃ newest, (namedReleases rows).max? = some newest := by
    rwa [← Option.ne_none_iff_exists', Ne, List.max?_eq_none_iff]
  obtain ⟨hmem, hmax⟩ := List.max?_eq_some_iff.mp hnewest
  rw [hnewest, List.max?_eq_some_iff]
  refine ⟨List.mem_of_mem_filter hmem, fun label hlabel ↦ ?_⟩
  by_cases hname : label = ""
  · subst hname
    exact le_of_not_gt fun hlt ↦ List.not_lt_nil newest.toList (String.lt_iff_toList_lt.mp hlt)
  · exact hmax label (List.mem_filter.mpr ⟨hlabel, by simpa using hname⟩)

/-- A release is reported when a row has one with a name. -/
theorem reportedRelease_eq_none_iff {rows : List CapabilityRow} {active : Option String} :
    reportedRelease rows active = none ↔ namedReleases rows = [] := by
  rw [reportedRelease, Option.map_eq_none_iff, List.max?_eq_none_iff]

/-- A reported release is the name of a row's release. -/
theorem mem_of_reportedRelease {rows : List CapabilityRow} {active : Option String}
    {label : String} (h : reportedRelease rows active = some label) :
    label ∈ namedReleases rows := by
  obtain ⟨newest, hnewest, rfl⟩ := Option.map_eq_some_iff.mp h
  cases hpin : active.filter (· ∈ namedReleases rows) with
  | none => exact (List.max?_eq_some_iff.mp hnewest).1
  | some pinned => exact of_decide_eq_true (Option.filter_eq_some_iff.mp hpin).2

/-- The chosen release is the reported one exactly when both functions agree. -/
theorem releaseInEffect_eq_iff {rows : List CapabilityRow} {active : Option String} :
    (reportedRelease rows active ≠ none ∧
      releaseInEffect rows active = reportedRelease rows active) ↔ ReleasesAgree rows active := by
  have hpinned : active ∈ rows.map CapabilityRow.releaseLabel →
      releaseInEffect rows active = active := fun h ↦ if_pos h
  constructor
  · rintro ⟨hreported, hsame⟩
    refine ⟨fun hnil ↦ hreported (reportedRelease_eq_none_iff.mpr hnil), fun hpin ↦ ?_⟩
    rw [hpinned hpin] at hsame
    obtain ⟨label, hlabel⟩ := Option.ne_none_iff_exists'.mp hreported
    have hname := (mem_namedReleases.mp (mem_of_reportedRelease hlabel)).2
    rw [hsame, hlabel]
    exact ⟨Option.some_ne_none label, fun hempty ↦ hname (Option.some.inj hempty)⟩
  · intro h
    refine ⟨fun hnone ↦ h.named (reportedRelease_eq_none_iff.mp hnone), ?_⟩
    obtain ⟨newest, hnewest⟩ : ∃ newest, (namedReleases rows).max? = some newest := by
      rw [← Option.ne_none_iff_exists', Ne, List.max?_eq_none_iff]
      exact h.named
    by_cases hpin : active ∈ rows.map CapabilityRow.releaseLabel
    · obtain ⟨label, rfl⟩ := Option.ne_none_iff_exists'.mp (h.pinned hpin).1
      have hname : label ≠ "" := fun hempty ↦ (h.pinned hpin).2 (congrArg some hempty)
      have hmem : label ∈ namedReleases rows := mem_namedReleases.mpr ⟨hpin, hname⟩
      rw [hpinned hpin, reportedRelease, hnewest]
      simp [Option.filter, hmem]
    · have hfilter : active.filter (· ∈ namedReleases rows) = none := by
        refine Option.filter_eq_none_iff.mpr fun label hlabel hmem ↦ ?_
        exact hpin (hlabel ▸ (mem_namedReleases.mp (of_decide_eq_true hmem)).1)
      rw [releaseInEffect, if_neg hpin, max?_eq_max?_namedReleases h.named, reportedRelease,
        hfilter, hnewest]
      rfl

/-- The release in effect is the label of a row. -/
theorem mem_of_releaseInEffect {rows : List CapabilityRow} {active : Option String}
    {label : String} (h : releaseInEffect rows active = some label) :
    some label ∈ rows.map CapabilityRow.releaseLabel := by
  rw [releaseInEffect] at h
  split at h
  · next hpin => exact h ▸ hpin
  · simpa using (List.max?_eq_some_iff.mp h).1

/-- Without a release in effect, rows without one exist when there are rows. -/
theorem exists_of_releaseInEffect_none {rows : List CapabilityRow} {active : Option String}
    (h : releaseInEffect rows active = none) (hrows : rows ≠ []) :
    ∃ r ∈ rows, r.releaseLabel = none := by
  rw [releaseInEffect] at h
  split at h
  · next hpin =>
    subst h
    exact List.mem_map.mp hpin
  · obtain ⟨r, hr⟩ := List.exists_mem_of_ne_nil rows hrows
    have hnil := List.max?_eq_none_iff.mp h
    exact ⟨r, hr, List.filterMap_eq_nil_iff.mp hnil r hr⟩

/-- The live rows of one model are those of the reported release and those without one, each of
them once, exactly when there are none or both functions agree. -/
theorem live_perm_iff {rows : List CapabilityRow} {active : Option String} :
    (live rows active).Perm (rows.filter (fun r ↦ r.releaseLabel = none ∨
        reportedRelease rows active = r.releaseLabel)) ↔
      rows = [] ∨ ReleasesAgree rows active := by
  rw [live, rowsOfRelease]
  constructor
  · intro hperm
    by_cases hrows : rows = []
    · exact .inl hrows
    refine .inr (releaseInEffect_eq_iff.mp ?_)
    cases heffect : releaseInEffect rows active with
    | none =>
      -- the rows without a release are kept twice
      obtain ⟨r, hr, hlabel⟩ := exists_of_releaseInEffect_none heffect hrows
      have htwice := (hperm.filter (fun r ↦ r.releaseLabel = none)).length_eq
      have honce : (rows.filter (fun r ↦ r.releaseLabel = none ∨
          reportedRelease rows active = r.releaseLabel)).filter (fun r ↦ r.releaseLabel = none) =
            rows.filter (fun r ↦ r.releaseLabel = none) := by
        rw [List.filter_filter]
        refine List.filter_congr fun r _ ↦ ?_
        by_cases hr : r.releaseLabel = none <;> simp [hr]
      rw [heffect, honce, List.filter_append, List.length_append, List.filter_filter] at htwice
      simp only [Bool.and_self] at htwice
      have hpos : 0 < (rows.filter (fun r ↦ r.releaseLabel = none)).length :=
        List.length_pos_of_mem (List.mem_filter.mpr ⟨hr, by simpa using hlabel⟩)
      omega
    | some label =>
      obtain ⟨r, hr, hlabel⟩ := List.mem_map.mp (mem_of_releaseInEffect heffect)
      have hlive : r ∈ rows.filter (fun r ↦ r.releaseLabel = releaseInEffect rows active) ++
          rows.filter (fun r ↦ r.releaseLabel = none) :=
        List.mem_append_left _ (List.mem_filter.mpr ⟨hr, by simp [heffect, hlabel]⟩)
      have hreported := (List.mem_filter.mp (hperm.mem_iff.mp hlive)).2
      simp only [hlabel, reduceCtorEq, false_or, decide_eq_true_eq] at hreported
      rw [hreported]
      exact ⟨Option.some_ne_none label, rfl⟩
  · rintro (rfl | h)
    · rfl
    · obtain ⟨hreported, hsame⟩ := releaseInEffect_eq_iff.mpr h
      rw [hsame]
      refine (filter_or_perm _ _ (fun r hr ↦ ?_) rows).trans ?_
      · simp only [decide_eq_true_eq] at hr
        exact hreported (hr.1 ▸ hr.2)
      · refine List.Perm.of_eq (List.filter_congr fun r _ ↦ ?_)
        simp [eq_comm]

/-- The rows used for a model are all its rows of the reported release and all its rows without
one, each of them once and no others, exactly when it has no rows or both functions agree. -/
theorem resolveActiveRows_perm_iff (rows : List CapabilityRow) (registry : ReleaseRegistry)
    (model : String) :
    (ofModel (resolveActiveRows rows registry none) model).Perm
        (ofModel (reportedRows rows registry) model) ↔
      ofModel rows model = [] ∨
        ReleasesAgree (ofModel rows model) (registry.activeRelease model) := by
  have hreported : ofModel (reportedRows rows registry) model =
      (ofModel rows model).filter (fun r ↦ r.releaseLabel = none ∨
        reportedRelease (ofModel rows model) (registry.activeRelease model) = r.releaseLabel) := by
    rw [ofModel, ofModel, reportedRows, List.filter_filter, List.filter_filter]
    refine List.filter_congr fun r _ ↦ ?_
    by_cases hmodel : r.model = model
    · subst hmodel
      simp [get?_effectiveReleases, ofModel]
    · simp [hmodel]
  rw [ofModel_resolveActiveRows, hreported, live_perm_iff]

/-- A hand-set score without a release next to an imported one of a release, and no pin: the
imported score is reported and not used, and the hand-set one is used twice. -/
theorem resolveActiveRows_drops_reported :
    let handSet := unversioned "kimi-k3" "planning" "manual" 0.9
    let imported := { unversioned "kimi-k3" "planning" "livebench" 0.5 with
      releaseLabel := some "2026-06-25" }
    (effectiveReleases [handSet, imported] Dict.empty).get? "kimi-k3" = some "2026-06-25" ∧
      resolveActiveRows [handSet, imported] Dict.empty none = [handSet, handSet] ∧
      ¬ (ofModel (resolveActiveRows [handSet, imported] Dict.empty none) "kimi-k3").Perm
        (ofModel (reportedRows [handSet, imported] Dict.empty) "kimi-k3") := by
  decide +kernel

end LcpGateway.Capability
