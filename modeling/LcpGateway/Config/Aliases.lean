import LcpGateway.Base.Casing
import LcpGateway.Config.Registry

/-!
# What the alias index holds

Library `Config`. Source `src/api/router.py:447–511`. The index is read off the declarations of
the registry: an entry's own name comes first, then what an entry declares, then the last segment
of a provider-side id. A lookup tries the whole spelling and its last segment; what it cannot
find is normalized, and the normalized name is not looked up.
-/

namespace LcpGateway.Config
open LcpGateway.Base

namespace RegistryEntry

/-- The provider-side ids. -/
def values (entry : RegistryEntry) : List String := entry.providerMappings.entries.map Prod.snd

end RegistryEntry

/-- The entry is named so. -/
def namedSo (key : String) (e : String × RegistryEntry) : Bool := lower e.1 = key

/-- The entry declares the key: its name, its benchmark key or a provider-side id. -/
def declares (key : String) (e : String × RegistryEntry) : Bool :=
  namedSo key e || (e.2.benchmarkKey ≠ "" && lower e.2.benchmarkKey = key) ||
    e.2.values.any (fun v ↦ v ≠ "" && lower v = key)

/-- The key is the last segment of a provider-side id. -/
def derives (key : String) (e : String × RegistryEntry) : Bool :=
  e.2.values.any (fun v ↦ hasSlash v && lower (strip (lastSegment '/' v)) = key)

namespace Registry

/-- The name that a key stands for: the last entry named so, or the first that declares it, or
the first with that segment. -/
def declaredName (registry : Registry) (key : String) : Option String :=
  ((registry.entries.reverse.find? (namedSo key)).or
    ((registry.entries.find? (declares key)).or
      (registry.entries.find? (derives key)))).map Prod.fst

/-- The name that a key stands for, unless it is empty. -/
def owner (registry : Registry) (key : String) : Option String :=
  (registry.declaredName key).filter (· ≠ "")

/-- The name that a spelling, or else its last segment, stands for. -/
def home (registry : Registry) (model : String) : Option String :=
  let key := lower (strip model)
  (registry.owner key).or
    (if hasSlash key then registry.owner (strip (lastSegment '/' key)) else none)

/-! ### The two passes -/

theorem get?_setDefault (index : Dict String String) (key value key' : String) :
    (setDefault index key value).get? key' =
      (index.get? key').or (if key = key' then some value else none) := by
  unfold setDefault Dict.contains
  split
  · next h =>
    by_cases hkey : key = key'
    · subst hkey
      obtain ⟨held, hheld⟩ := Option.isSome_iff_exists.mp h
      simp [hheld]
    · simp [hkey]
  · next h =>
    rw [Dict.get?_set]
    by_cases hkey : key = key'
    · subst hkey
      have hnone : index.get? key = none := by simpa using h
      simp [hnone]
    · simp [hkey]

/-- A run of conditional default insertions of one value. -/
private theorem get?_foldl_setDefault {α : Type} (l : List α) (index : Dict String String)
    (p : α → Bool) (k : α → String) (value key : String) :
    (l.foldl (fun index a ↦ if p a then setDefault index (k a) value else index) index).get? key =
      (index.get? key).or (if l.any (fun a ↦ p a && k a = key) then some value else none) := by
  induction l generalizing index with
  | nil => simp
  | cons a rest ih =>
    rw [List.foldl_cons, ih]
    cases hp : p a with
    | false => simp [hp]
    | true =>
      simp only [if_true, get?_setDefault, List.any_cons, hp, Bool.true_and]
      by_cases hkey : k a = key <;> simp [hkey]

/-- The first pass on one entry. -/
theorem get?_addDeclared (index : Dict String String) (e : String × RegistryEntry) (key : String) :
    (addDeclared index e.1 e.2).get? key =
      if namedSo key e then some e.1
      else (index.get? key).or (if declares key e then some e.1 else none) := by
  have hvalues : ∀ index : Dict String String,
      (e.2.providerMappings.entries.foldl (fun index m ↦
        if m.2 = "" then index else setDefault index (lower m.2) e.1) index).get? key =
        (index.get? key).or
          (if e.2.values.any (fun v ↦ v ≠ "" && lower v = key) then some e.1 else none) := by
    intro index
    have hfold := get?_foldl_setDefault e.2.providerMappings.entries index
      (fun m ↦ m.2 ≠ "") (fun m ↦ lower m.2) e.1 key
    simp only [RegistryEntry.values, List.any_map, Function.comp_def]
    rw [← hfold]
    congr 1
    refine congrFun (congrFun (congrArg _ ?_) _) _
    funext index m
    by_cases hm : m.2 = "" <;> simp [hm]
  unfold addDeclared
  dsimp only
  rw [hvalues]
  by_cases hname : lower e.1 = key
  · by_cases hbench : e.2.benchmarkKey = "" <;>
      simp [namedSo, hname, hbench, get?_setDefault]
  · by_cases hbench : e.2.benchmarkKey = ""
    · simp [namedSo, declares, hname, hbench, Dict.get?_set]
    · by_cases hkey : lower e.2.benchmarkKey = key <;>
        simp [namedSo, declares, hname, hbench, hkey, get?_setDefault, Dict.get?_set]

/-- The second pass on one entry. -/
theorem get?_addSegments (index : Dict String String) (e : String × RegistryEntry) (key : String) :
    (addSegments index e.1 e.2).get? key =
      (index.get? key).or (if derives key e then some e.1 else none) := by
  have hfold := get?_foldl_setDefault e.2.providerMappings.entries index
    (fun m ↦ hasSlash m.2) (fun m ↦ lower (strip (lastSegment '/' m.2))) e.1 key
  simpa only [addSegments, derives, RegistryEntry.values, List.any_map, Function.comp_def]
    using hfold

/-- The first pass. -/
private theorem get?_foldl_addDeclared (entries : List (String × RegistryEntry))
    (index : Dict String String) (key : String) :
    (entries.foldl (fun index e ↦ addDeclared index e.1 e.2) index).get? key =
      ((entries.reverse.find? (namedSo key)).map Prod.fst).or
        ((index.get? key).or ((entries.find? (declares key)).map Prod.fst)) := by
  induction entries generalizing index with
  | nil => simp
  | cons e rest ih =>
    rw [List.foldl_cons, ih, get?_addDeclared, List.reverse_cons, List.find?_append]
    cases hlast : rest.reverse.find? (namedSo key) with
    | some later => simp
    | none =>
      cases hname : namedSo key e with
      | true => simp [hname]
      | false => cases hdecl : declares key e <;> simp [hname, hdecl]

/-- The second pass. -/
private theorem get?_foldl_addSegments (entries : List (String × RegistryEntry))
    (index : Dict String String) (key : String) :
    (entries.foldl (fun index e ↦ addSegments index e.1 e.2) index).get? key =
      (index.get? key).or ((entries.find? (derives key)).map Prod.fst) := by
  induction entries generalizing index with
  | nil => simp
  | cons e rest ih =>
    rw [List.foldl_cons, ih, get?_addSegments]
    cases hderives : derives key e <;> simp [hderives]

/-- The index holds what the registry declares. -/
theorem get?_aliasToLogical (registry : Registry) (key : String) :
    registry.aliasToLogical.get? key = registry.declaredName key := by
  unfold aliasToLogical declaredName
  dsimp only
  rw [get?_foldl_addSegments, get?_foldl_addDeclared]
  simp [Option.map_or, Option.or_assoc]

theorem aliasOf_eq_owner (registry : Registry) (key : String) :
    registry.aliasOf key = registry.owner key := by
  rw [aliasOf, owner, get?_aliasToLogical]

/-- A name is its home's, or it is normalized. -/
theorem logicalModelName_eq (registry : Registry) {model : String} (h : model ≠ "") :
    registry.logicalModelName model =
      (registry.home model).getD (normalizeModelId (lower (strip model))) := by
  unfold logicalModelName home
  rw [if_neg h]
  dsimp only
  simp only [aliasOf_eq_owner]
  generalize normalizeModelId (lower (strip model)) = normalized
  cases registry.owner (lower (strip model)) with
  | some name => rw [Option.some_or, Option.getD_some]
  | none => rw [Option.none_or]

end Registry

/-! ### Normalized names -/

/-- A name as normalization leaves one: lowered, stripped and without a slash. -/
structure Flat (name : String) : Prop where
  lowered : lower name = name
  stripped : strip name = name
  segment : '/' ∉ name.toList

namespace Flat

variable {name : String}

theorem hasSlash (h : Flat name) : hasSlash name = false := by
  have hmem := h.segment
  simp [Config.hasSlash, hmem]

theorem key (h : Flat name) : lower (strip name) = name := by rw [h.stripped, h.lowered]

/-- A path that starts with a slash has one. -/
private theorem stripModelPath (h : Flat name) : Config.stripModelPath name = name := by
  have hstart : ∀ pre : String, pre.toList.head? = some '/' → startsWith pre name = false := by
    intro pre hpre
    by_contra hprefix
    have hprefix' : pre.toList <+: name.toList := by
      simpa [startsWith] using hprefix
    exact h.segment (hprefix'.subset (List.mem_of_mem_head? hpre))
  rw [Config.stripModelPath, if_neg (by simp [hstart "/models/" rfl]),
    if_neg (by simp [hstart "/" rfl])]

/-- Normalizing a flat name cuts its `.gguf` ending. -/
theorem normalizeModelId (h : Flat name) (hname : name ≠ "") :
    Config.normalizeModelId name =
      if endsWith ".gguf" name
        then lower (strip (String.ofList (name.toList.take (name.toList.length - 5))))
        else name := by
  unfold Config.normalizeModelId
  rw [if_neg hname, h.stripped]
  dsimp only
  rw [h.stripModelPath, h.hasSlash]
  simp only [Bool.false_eq_true, if_false, h.lowered]
  by_cases hend : endsWith ".gguf" name
  · simp [hend]
  · simp [hend, h.stripped, h.lowered]

/-- A flat name is left alone unless it has the ending of a file. -/
theorem normalizeModelId_eq_self_iff (h : Flat name) (hname : name ≠ "") :
    Config.normalizeModelId name = name ↔ endsWith ".gguf" name = false := by
  rw [h.normalizeModelId hname]
  cases hend : endsWith ".gguf" name with
  | false => simp
  | true =>
    simp only [if_true, Bool.true_eq_false, iff_false]
    intro heq
    have hlen := congrArg (fun s : String ↦ s.toList.length) heq
    have hcut : (lower (strip (String.ofList
        (name.toList.take (name.toList.length - 5))))).toList.length ≤ name.toList.length - 5 := by
      rw [lower, String.toList_ofList, List.length_map]
      exact (length_strip_le _).trans (by simp)
    have hlong : 5 ≤ name.toList.length := by
      have hsuffix : ".gguf".toList <:+ name.toList := by simpa [endsWith] using hend
      exact hsuffix.length_le
    omega

end Flat

/-- A stripped, lowered piece without a slash is flat. -/
theorem flat_lower_strip {s : String} (h : '/' ∉ s.toList) : Flat (lower (strip s)) where
  lowered := lower_lower _
  stripped := by rw [strip_lower, strip_strip]
  segment := by
    rw [lower, String.toList_ofList, List.mem_map]
    rintro ⟨c, hc, hslash⟩
    rw [lowerChar_eq_slash_iff] at hslash
    exact h (mem_toList_strip (hslash ▸ hc))

/-- A normalized name is flat. -/
theorem flat_normalizeModelId (model : String) : Flat (normalizeModelId model) := by
  unfold normalizeModelId
  split
  · next h => subst h; exact ⟨rfl, rfl, nofun⟩
  · dsimp only
    apply flat_lower_strip
    generalize stripModelPath (strip model) = name
    have hsegment : '/' ∉ (if hasSlash name then lastSegment '/' name else name).toList := by
      split
      · exact not_mem_lastSegment '/' name
      · next hslash => simpa [hasSlash] using hslash
    generalize (if hasSlash name then lastSegment '/' name else name) = last at hsegment
    split
    · rw [String.toList_ofList]
      exact fun hmem ↦ hsegment (List.mem_of_mem_take hmem)
    · exact hsegment

end LcpGateway.Config
