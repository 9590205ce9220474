import LcpGateway.Config.Aliases

/-!
# The spellings of a model

Library `Config`. Source `src/api/router.py:76–98,447–511`. Every spelling of a registered model
should resolve to its name, and a resolved name to itself. Declared spellings do; a file path
falls through to normalization, whose result is not looked up.
-/

namespace LcpGateway.Config
open LcpGateway.Base

/-- A spelling of an entry in any letter case: what it declares, an id of it behind a vendor, or
an id of it as a file. -/
inductive Spelling (e : String × RegistryEntry) (s : String) : Prop
  | declared (h : declares (lower s) e = true)
  | behind (vendor id : String) (hid : id ∈ e.2.values) (h : lower s = lower (vendor ++ "/" ++ id))
  | file (id : String) (hid : id ∈ e.2.values) (h : lower s = lower ("/models/" ++ id ++ ".gguf"))

namespace Registry

variable (registry : Registry)

/-- No other entry declares the spelling. -/
def DeclaredByNoOther (name s : String) : Prop :=
  ∀ e ∈ registry.entries, e.1 ≠ name → declares (lower s) e = false

/-- The spelling leads to the name: it stands for it; or it stands for nothing and its last
segment stands for the name; or neither stands for anything and it is the normalized spelling. -/
inductive Leads (name s : String) : Prop
  | whole (h : registry.owner (lower (strip s)) = some name)
  | segment (hwhole : registry.owner (lower (strip s)) = none)
      (hslash : hasSlash (lower (strip s)) = true)
      (h : registry.owner (strip (lastSegment '/' (lower (strip s)))) = some name)
  | unknown (hwhole : registry.owner (lower (strip s)) = none)
      (hsegment : hasSlash (lower (strip s)) = true →
        registry.owner (strip (lastSegment '/' (lower (strip s)))) = none)
      (h : normalizeModelId (lower (strip s)) = name)

/-- A model whose name is resolved already: its entry's name stands for that entry; or no entry is
found, and the normalized name stands for itself, or for nothing and has no `.gguf` ending left. -/
inductive Settles (model : String) : Prop
  | empty (h : model = "")
  | registered (name : String) (h : registry.home model = some name)
      (hname : registry.home name = some name)
  | unknown (h : registry.home model = none)
      (hname : normalizeModelId (lower (strip model)) = "" ∨
        registry.owner (normalizeModelId (lower (strip model))) =
          some (normalizeModelId (lower (strip model))) ∨
        registry.owner (normalizeModelId (lower (strip model))) = none ∧
          endsWith ".gguf" (normalizeModelId (lower (strip model))) = false)

variable {registry}

/-- A name that a key stands for is the name of an entry, and not empty. -/
theorem mem_of_owner {key name : String} (h : registry.owner key = some name) :
    name ≠ "" ∧ ∃ e ∈ registry.entries, e.1 = name := by
  obtain ⟨hname, hne⟩ := Option.filter_eq_some_iff.mp h
  obtain ⟨e, he, rfl⟩ := Option.map_eq_some_iff.mp hname
  refine ⟨by simpa using hne, e, ?_, rfl⟩
  obtain he | ⟨-, he⟩ := Option.or_eq_some_iff.mp he
  · exact List.mem_reverse.mp (List.mem_of_find?_eq_some he)
  · obtain he | ⟨-, he⟩ := Option.or_eq_some_iff.mp he <;> exact List.mem_of_find?_eq_some he

theorem mem_of_home {model name : String} (h : registry.home model = some name) :
    name ≠ "" ∧ ∃ e ∈ registry.entries, e.1 = name := by
  obtain h | ⟨-, h⟩ := Option.or_eq_some_iff.mp h
  · exact mem_of_owner h
  · split at h
    · exact mem_of_owner h
    · cases h

/-- The lowered name of an entry stands for an entry. -/
theorem owner_lower_ne_none {e : String × RegistryEntry} (hmem : e ∈ registry.entries)
    (hname : e.1 ≠ "") : registry.owner (lower e.1) ≠ none := by
  have hnamed : namedSo (lower e.1) e = true := by simp [namedSo]
  obtain ⟨last, hlast⟩ := Option.isSome_iff_exists.mp
    (List.find?_isSome.mpr ⟨e, List.mem_reverse.mpr hmem, hnamed⟩)
  have hlower : lower last.1 = lower e.1 := by
    simpa [namedSo] using List.find?_some hlast
  have hlastname : last.1 ≠ "" := by
    intro hempty
    rw [hempty, lower_empty] at hlower
    exact hname (lower_eq_empty_iff.mp hlower.symm)
  simp [owner, declaredName, hlast, hlastname]

/-- A flat spelling has no segment to look up. -/
theorem home_of_flat {name : String} (h : Flat name) :
    registry.home name = registry.owner name := by
  unfold home
  dsimp only
  rw [h.key, h.hasSlash]
  simp

/-- The name of an entry resolves to itself when it stands for itself. -/
theorem logicalModelName_entry_iff {e : String × RegistryEntry} (hmem : e ∈ registry.entries)
    (hname : e.1 ≠ "") :
    registry.logicalModelName e.1 = e.1 ↔ registry.home e.1 = some e.1 := by
  rw [logicalModelName_eq registry hname]
  cases hhome : registry.home e.1 with
  | some name => simp
  | none =>
    simp only [Option.getD_none, reduceCtorEq, iff_false]
    intro hsame
    -- a normalized name is its own key, and the entry is found under it
    have hflat : Flat e.1 := hsame ▸ flat_normalizeModelId _
    rw [home_of_flat hflat] at hhome
    exact owner_lower_ne_none hmem hname (by rw [hflat.lowered, hhome])

/-- A flat name resolves to itself when it stands for itself, or for nothing and is no file. -/
theorem logicalModelName_flat_iff {name : String} (h : Flat name) (hname : name ≠ "") :
    registry.logicalModelName name = name ↔
      registry.owner name = some name ∨
        registry.owner name = none ∧ endsWith ".gguf" name = false := by
  rw [logicalModelName_eq registry hname, home_of_flat h, h.key]
  cases registry.owner name with
  | some other => simp
  | none => simpa using h.normalizeModelId_eq_self_iff hname

/-- Exactly the settled models are resolved once for all. -/
theorem logicalModelName_idem_iff (model : String) :
    registry.logicalModelName (registry.logicalModelName model) =
        registry.logicalModelName model ↔ registry.Settles model := by
  by_cases hmodel : model = ""
  · subst hmodel
    exact iff_of_true rfl (.empty rfl)
  cases hhome : registry.home model with
  | some name =>
    obtain ⟨hname, e, hmem, rfl⟩ := mem_of_home hhome
    rw [logicalModelName_eq registry hmodel, hhome, Option.getD_some,
      logicalModelName_entry_iff hmem hname]
    constructor
    · exact .registered e.1 hhome
    · rintro (h | ⟨other, hother, h⟩ | ⟨h, -⟩)
      · exact absurd h hmodel
      · obtain rfl : e.1 = other := Option.some.inj (hhome ▸ hother)
        exact h
      · rw [hhome] at h
        cases h
  | none =>
    rw [logicalModelName_eq registry hmodel, hhome, Option.getD_none]
    have hflat := flat_normalizeModelId (lower (strip model))
    have hsettles : registry.Settles model ↔
        (normalizeModelId (lower (strip model)) = "" ∨
          registry.owner (normalizeModelId (lower (strip model))) =
            some (normalizeModelId (lower (strip model))) ∨
          registry.owner (normalizeModelId (lower (strip model))) = none ∧
            endsWith ".gguf" (normalizeModelId (lower (strip model))) = false) := by
      constructor
      · rintro (h | ⟨other, hother, -⟩ | ⟨-, h⟩)
        · exact absurd h hmodel
        · rw [hhome] at hother
          cases hother
        · exact h
      · exact .unknown hhome
    rw [hsettles]
    generalize normalizeModelId (lower (strip model)) = name at hflat
    by_cases hname : name = ""
    · subst hname
      exact iff_of_true rfl (.inl rfl)
    · rw [logicalModelName_flat_iff hflat hname]
      simp [hname]

/-- A spelling resolves to the name that it leads to. -/
theorem logicalModelName_eq_iff {name s : String} (hs : s ≠ "") :
    registry.logicalModelName s = name ↔ registry.Leads name s := by
  have hcases : registry.Leads name s ↔
      registry.home s = some name ∨
        registry.home s = none ∧ normalizeModelId (lower (strip s)) = name := by
    unfold home
    dsimp only
    constructor
    · rintro (h | ⟨hwhole, hslash, h⟩ | ⟨hwhole, hsegment, h⟩)
      · left
        rw [h, Option.some_or]
      · left
        rw [hwhole, Option.none_or, if_pos hslash, h]
      · right
        refine ⟨?_, h⟩
        rw [hwhole, Option.none_or]
        split
        · next hslash => exact hsegment hslash
        · rfl
    · cases hwhole : registry.owner (lower (strip s)) with
      | some other =>
        rintro (h | ⟨h, -⟩)
        · exact .whole (hwhole.trans h)
        · cases h
      | none =>
        rw [Option.none_or]
        split
        · next hslash =>
          rintro (h | ⟨h, hname⟩)
          · exact .segment hwhole hslash h
          · exact .unknown hwhole (fun _ ↦ h) hname
        · next hslash =>
          rintro (h | ⟨-, hname⟩)
          · cases h
          · exact .unknown hwhole (fun h ↦ absurd h hslash) hname
  rw [hcases, logicalModelName_eq registry hs]
  cases registry.home s <;> simp

/-- What only one entry declares stands for it. -/
theorem owner_of_declares {e : String × RegistryEntry} {key : String}
    (hmem : e ∈ registry.entries) (hname : e.1 ≠ "") (hdeclares : declares key e = true)
    (hother : ∀ other ∈ registry.entries, other.1 ≠ e.1 → declares key other = false) :
    registry.owner key = some e.1 := by
  have hsame : ∀ other ∈ registry.entries, declares key other = true → other.1 = e.1 := by
    intro other hmem' h
    by_contra hne
    simp [hother other hmem' hne] at h
  have hdeclared : registry.declaredName key = some e.1 := by
    unfold declaredName
    cases hlast : registry.entries.reverse.find? (namedSo key) with
    | some last =>
      have hnamed : namedSo key last = true := List.find?_some hlast
      have hlastmem := List.mem_reverse.mp (List.mem_of_find?_eq_some hlast)
      have heq := hsame last hlastmem (by simp [declares, hnamed])
      simp [heq]
    | none =>
      obtain ⟨first, hfirst⟩ := Option.isSome_iff_exists.mp
        (List.find?_isSome.mpr ⟨e, hmem, hdeclares⟩)
      have heq := hsame first (List.mem_of_find?_eq_some hfirst) (List.find?_some hfirst)
      simp [hfirst, heq]
  simp [owner, hdeclared, hname]

/-- The empty string is a spelling of an entry with an empty name only. -/
theorem name_of_spelling_empty {e : String × RegistryEntry} (h : Spelling e "") : e.1 = "" := by
  obtain h | ⟨vendor, id, -, h⟩ | ⟨id, -, h⟩ := h
  · simp only [declares, namedSo, Bool.or_eq_true, Bool.and_eq_true, decide_eq_true_eq,
      List.any_eq_true, lower_empty, lower_eq_empty_iff] at h
    obtain (h | ⟨hne, h⟩) | ⟨v, -, hne, h⟩ := h
    · exact h
    · exact absurd h hne
    · exact absurd h hne
  · have hempty := congrArg String.toList (lower_eq_empty_iff.mp h.symm)
    simp at hempty
  · have hempty := congrArg String.toList (lower_eq_empty_iff.mp h.symm)
    simp at hempty

/-- A declared spelling without outer white space resolves to its entry. -/
theorem logicalModelName_of_declares {e : String × RegistryEntry} {s : String}
    (hmem : e ∈ registry.entries) (hname : e.1 ≠ "") (hstrip : strip s = s)
    (hdeclares : declares (lower s) e = true) (hother : registry.DeclaredByNoOther e.1 s) :
    registry.logicalModelName s = e.1 := by
  have howner := owner_of_declares hmem hname hdeclares hother
  by_cases hs : s = ""
  · subst hs
    exact (name_of_spelling_empty (.declared hdeclares)).symm
  · rw [logicalModelName_eq_iff hs]
    exact .whole (by rw [hstrip, howner])

/-- A registry of one model with a local id. -/
def oneModel : Registry :=
  Dict.empty.set "qwen" ⟨"qwen3.6-27b", Dict.empty.set "llamacpp" "qwen3.6-27b-q4"⟩

end Registry
end LcpGateway.Config
