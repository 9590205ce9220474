import Mathlib.Data.List.Induction
import Mathlib.Data.List.Nodup
import Mathlib.Data.List.Perm.Subperm
import Mathlib.Data.List.TakeWhile

/-!
# Insertion-ordered dictionaries

Library `Base`. Association lists with distinct keys under the semantics of a
Python `dict`: overwriting a key keeps its position, a new key goes to the end.
Lookup is the observation every law is stated in; the key order is kept so that
an iteration can be modelled where one matters.
-/

namespace LcpGateway.Base

universe u v

/-- A finite map whose entries keep their insertion order. -/
structure Dict (K : Type u) (V : Type v) where
  entries : List (K × V)
  nodup : (entries.map Prod.fst).Nodup

namespace Dict

variable {K : Type u} {V : Type v} [DecidableEq K]

private def lookupEntries : List (K × V) → K → Option V
  | [], _ => none
  | (k', v) :: rest, k => if k' = k then some v else lookupEntries rest k

private def setEntries : List (K × V) → K → V → List (K × V)
  | [], k, v => [(k, v)]
  | (k', v') :: rest, k, v =>
    if k' = k then (k, v) :: rest else (k', v') :: setEntries rest k v

private theorem keys_setEntries (es : List (K × V)) (k : K) (v : V) :
    (setEntries es k v).map Prod.fst =
      if k ∈ es.map Prod.fst then es.map Prod.fst else es.map Prod.fst ++ [k] := by
  induction es with
  | nil => simp [setEntries]
  | cons e rest ih =>
    obtain ⟨k', v'⟩ := e
    by_cases hk : k' = k
    · simp [setEntries, hk]
    · simp only [setEntries, hk, if_false, List.map_cons, ih, List.mem_cons, Ne.symm hk, false_or]
      split <;> rfl

private theorem nodup_setEntries (es : List (K × V)) (k : K) (v : V)
    (h : (es.map Prod.fst).Nodup) : ((setEntries es k v).map Prod.fst).Nodup := by
  rw [keys_setEntries]
  split
  · exact h
  · next hk => exact List.nodup_append.mpr ⟨h, by simp, fun a ha b hb hab => by simp_all⟩

/-- The dictionary without entries. -/
def empty : Dict K V := ⟨[], List.nodup_nil⟩

/-- `d.get(k)`. -/
def get? (d : Dict K V) (k : K) : Option V := lookupEntries d.entries k

/-- `d[k] = v`. -/
def set (d : Dict K V) (k : K) (v : V) : Dict K V :=
  ⟨setEntries d.entries k v, nodup_setEntries _ _ _ d.nodup⟩

/-- `k in d`. -/
def contains (d : Dict K V) (k : K) : Bool := (d.get? k).isSome

/-- The entries whose key satisfies `p`, in order. -/
def filterKeys (d : Dict K V) (p : K → Bool) : Dict K V :=
  ⟨d.entries.filter (fun e ↦ p e.1), by
    have h : ((d.entries.filter (fun e ↦ p e.1)).map Prod.fst).Sublist (d.entries.map Prod.fst) :=
      (List.filter_sublist).map _
    exact h.nodup d.nodup⟩

/-- Every value rewritten through `f`, keys and order kept. -/
def mapValues {W : Type v} (f : V → W) (d : Dict K V) : Dict K W :=
  ⟨d.entries.map (fun e ↦ (e.1, f e.2)), by
    simpa only [List.map_map, Function.comp_def] using d.nodup⟩

/-- `d.update(other)`: the entries of `other` are written one after another. -/
def update (d other : Dict K V) : Dict K V :=
  other.entries.foldl (fun acc e ↦ acc.set e.1 e.2) d

/-- The number of entries. -/
def size (d : Dict K V) : Nat := d.entries.length

/-- No key is tracked by the empty dictionary. -/
@[simp] theorem get?_empty (k : K) : (empty : Dict K V).get? k = none := rfl

private theorem lookup_setEntries (es : List (K × V)) (k k' : K) (v : V) :
    lookupEntries (setEntries es k v) k' = if k = k' then some v else lookupEntries es k' := by
  induction es with
  | nil => simp [setEntries, lookupEntries]
  | cons e rest ih =>
    obtain ⟨k₀, v₀⟩ := e
    by_cases hk : k₀ = k
    · subst hk
      by_cases hk' : k₀ = k' <;> simp [setEntries, lookupEntries, hk']
    · by_cases hk' : k₀ = k'
      · subst hk'
        simp [setEntries, lookupEntries, hk, Ne.symm hk]
      · simp [setEntries, lookupEntries, hk, hk', ih]

/-- A write is read back under its own key and leaves every other key alone. -/
theorem get?_set (d : Dict K V) (k k' : K) (v : V) :
    (d.set k v).get? k' = if k = k' then some v else d.get? k' :=
  lookup_setEntries d.entries k k' v

/-- The written key. -/
@[simp] theorem get?_set_self (d : Dict K V) (k : K) (v : V) : (d.set k v).get? k = some v := by
  rw [get?_set, if_pos rfl]

private theorem lookup_filter (es : List (K × V)) (p : K → Bool) (k : K) :
    lookupEntries (es.filter (fun e ↦ p e.1)) k =
      if p k then lookupEntries es k else none := by
  induction es with
  | nil => simp [lookupEntries]
  | cons e rest ih =>
    obtain ⟨k₀, v₀⟩ := e
    by_cases hk : k₀ = k
    · subst hk
      cases hp : p k₀ <;> simp [hp, lookupEntries, ih]
    · cases hp : p k₀ <;> simp [hp, lookupEntries, ih, hk]

/-- Filtering by key forgets exactly the keys that fail the test. -/
theorem get?_filterKeys (d : Dict K V) (p : K → Bool) (k : K) :
    (d.filterKeys p).get? k = if p k then d.get? k else none :=
  lookup_filter d.entries p k

private theorem lookup_map {W : Type v} (f : V → W) (es : List (K × V)) (k : K) :
    lookupEntries (es.map (fun e ↦ (e.1, f e.2))) k = (lookupEntries es k).map f := by
  induction es with
  | nil => rfl
  | cons e rest ih =>
    by_cases hk : e.1 = k <;> simp [lookupEntries, hk, ih]

/-- Rewriting values commutes with lookup. -/
theorem get?_mapValues {W : Type v} (f : V → W) (d : Dict K V) (k : K) :
    (d.mapValues f).get? k = (d.get? k).map f :=
  lookup_map f d.entries k

private theorem lookup_of_not_mem (es : List (K × V)) (k : K) (h : k ∉ es.map Prod.fst) :
    lookupEntries es k = none := by
  induction es with
  | nil => rfl
  | cons e rest ih =>
    simp only [List.map_cons, List.mem_cons, not_or] at h
    simp [lookupEntries, Ne.symm h.1, ih h.2]

private theorem mem_iff_lookup (es : List (K × V)) (h : (es.map Prod.fst).Nodup) (k : K) (v : V) :
    (k, v) ∈ es ↔ lookupEntries es k = some v := by
  induction es with
  | nil => simp [lookupEntries]
  | cons e rest ih =>
    obtain ⟨k₀, v₀⟩ := e
    simp only [List.map_cons, List.nodup_cons] at h
    rw [List.mem_cons, ih h.2]
    by_cases hk : k₀ = k
    · subst hk
      simp [lookupEntries, lookup_of_not_mem rest k₀ h.1, eq_comm]
    · simp [lookupEntries, hk, Ne.symm hk]

/-- The entries are the pairs that lookup finds. -/
theorem mem_entries_iff (d : Dict K V) (k : K) (v : V) :
    (k, v) ∈ d.entries ↔ d.get? k = some v :=
  mem_iff_lookup d.entries d.nodup k v

private theorem get?_foldl_set (es : List (K × V)) (d : Dict K V) (k : K)
    (h : (es.map Prod.fst).Nodup) :
    (es.foldl (fun acc e ↦ acc.set e.1 e.2) d).get? k = (lookupEntries es k).or (d.get? k) := by
  induction es generalizing d with
  | nil => rfl
  | cons e rest ih =>
    simp only [List.map_cons, List.nodup_cons] at h
    rw [List.foldl_cons, ih _ h.2, get?_set]
    by_cases hk : e.1 = k
    · subst hk
      simp [lookupEntries, lookup_of_not_mem rest e.1 h.1]
    · simp [lookupEntries, hk]

/-- After an update the other dictionary is read first. -/
theorem get?_update (d other : Dict K V) (k : K) :
    (d.update other).get? k = (other.get? k).or (d.get? k) :=
  get?_foldl_set other.entries d k other.nodup

/-! ### The number of entries -/

/-- A write adds an entry when its key is new. -/
theorem size_set (d : Dict K V) (k : K) (v : V) :
    (d.set k v).size = if (d.get? k).isSome then d.size else d.size + 1 := by
  have hlength : (d.set k v).size = ((setEntries d.entries k v).map Prod.fst).length := by
    rw [List.length_map]
    rfl
  have hmem : k ∈ d.entries.map Prod.fst ↔ (d.get? k).isSome := by
    rw [Option.isSome_iff_exists]
    simp [← mem_entries_iff]
  rw [hlength, keys_setEntries, apply_ite List.length, List.length_append, List.length_map,
    if_congr hmem rfl rfl]
  rfl

/-- Without the entry of a key there is one less. -/
theorem size_filterKeys_ne (d : Dict K V) {k : K} {v : V} (h : d.get? k = some v) :
    (d.filterKeys (· ≠ k)).size + 1 = d.size := by
  obtain ⟨before, after, hentries⟩ := List.append_of_mem ((d.mem_entries_iff k v).mpr h)
  have hnodup := d.nodup
  rw [hentries, List.map_append, List.map_cons, List.nodup_append, List.nodup_cons] at hnodup
  obtain ⟨-, ⟨hafter, -⟩, hbefore⟩ := hnodup
  have hkept : ∀ es : List (K × V), k ∉ es.map Prod.fst →
      es.filter (fun e ↦ decide (e.1 ≠ k)) = es := by
    intro es hes
    refine List.filter_eq_self.mpr fun e he ↦ decide_eq_true fun heq ↦ hes ?_
    exact List.mem_map.mpr ⟨e, he, heq⟩
  have hfront : k ∉ before.map Prod.fst := fun hk ↦ hbefore k hk k List.mem_cons_self rfl
  change (d.entries.filter (fun e ↦ decide (e.1 ≠ k))).length + 1 = d.entries.length
  rw [hentries, List.filter_append, List.filter_cons_of_neg (by simp), hkept before hfront,
    hkept after hafter]
  simp only [List.length_append, List.length_cons]
  omega

/-! ### The order of the entries -/

/-- A write replaces the entry of its key, or goes to the end. -/
theorem entries_set (d : Dict K V) (k : K) (v : V) :
    (d.set k v).entries =
      d.entries.takeWhile (fun e ↦ e.1 ≠ k) ++
        (k, v) :: (d.entries.dropWhile (fun e ↦ e.1 ≠ k)).tail := by
  change setEntries d.entries k v = _
  generalize d.entries = es
  induction es with
  | nil => rfl
  | cons e rest ih =>
    by_cases hk : e.1 = k
    · simp [setEntries, hk]
    · simp [setEntries, hk, ih]

/-- The entry of a new key goes to the end. -/
theorem entries_set_of_notMem (d : Dict K V) {k : K} (v : V) (h : k ∉ d.entries.map Prod.fst) :
    (d.set k v).entries = d.entries ++ [(k, v)] := by
  have hother : ∀ e ∈ d.entries, decide (e.1 ≠ k) = true := fun e he ↦
    decide_eq_true fun heq ↦ h (List.mem_map.mpr ⟨e, he, heq⟩)
  rw [entries_set, List.takeWhile_eq_self_iff.mpr hother, List.dropWhile_eq_nil_iff.mpr hother]
  rfl

/-- Writes one after another to an empty dictionary. -/
def ofEntries (es : List (K × V)) : Dict K V := es.foldl (fun d e ↦ d.set e.1 e.2) empty

/-- What is in the dictionary was written. -/
theorem mem_of_mem_ofEntries {es : List (K × V)} {e : K × V} (h : e ∈ (ofEntries es).entries) :
    e ∈ es := by
  induction es using List.reverseRecOn with
  | nil => exact h
  | append_singleton es w ih =>
    rw [ofEntries, List.foldl_append] at h
    obtain ⟨k, v⟩ := e
    have hget := (mem_entries_iff _ k v).mp h
    rw [List.foldl_cons, List.foldl_nil, get?_set] at hget
    split at hget
    · next hk =>
      obtain rfl := Option.some.inj hget
      exact List.mem_append_right es (List.mem_singleton.mpr (Prod.ext hk.symm rfl))
    · exact List.mem_append_left _ (ih ((mem_entries_iff _ k v).mpr hget))

/-- Writes under different keys stay as they are. -/
theorem entries_ofEntries {es : List (K × V)} (h : (es.map Prod.fst).Nodup) :
    (ofEntries es).entries = es := by
  induction es using List.reverseRecOn with
  | nil => rfl
  | append_singleton es w ih =>
    rw [List.map_append, List.nodup_append] at h
    have hes := ih h.1
    have hnew : w.1 ∉ es.map Prod.fst := fun hk ↦
      h.2.2 w.1 hk w.1 (List.mem_singleton.mpr rfl) rfl
    have hset : ofEntries (es ++ [w]) = (ofEntries es).set w.1 w.2 := List.foldl_append ..
    rw [hset, entries_set_of_notMem _ _ (by rw [hes]; exact hnew), hes]

/-- As many entries as writes: the keys were different. -/
theorem nodup_of_size_ofEntries {es : List (K × V)} (h : (ofEntries es).size = es.length) :
    (es.map Prod.fst).Nodup := by
  have hnodup : (ofEntries es).entries.Nodup := (ofEntries es).nodup.of_map Prod.fst
  have hsub : (ofEntries es).entries.Subperm es := hnodup.subperm fun _ ↦ mem_of_mem_ofEntries
  have hperm := hsub.perm_of_length_le (Nat.le_of_eq h.symm)
  exact (hperm.map Prod.fst).nodup_iff.mp (ofEntries es).nodup

/-- Rewriting values commutes with a write. -/
theorem mapValues_set {W : Type v} (f : V → W) (d : Dict K V) (k : K) (v : V) :
    (d.set k v).mapValues f = (d.mapValues f).set k (f v) := by
  have hentries : ∀ es : List (K × V), (setEntries es k v).map (fun e ↦ (e.1, f e.2)) =
      setEntries (es.map (fun e ↦ (e.1, f e.2))) k (f v) := by
    intro es
    induction es with
    | nil => rfl
    | cons e rest ih =>
      by_cases hk : e.1 = k
      · simp [setEntries, hk]
      · simp [setEntries, hk, ih]
  simp only [mapValues, set, mk.injEq]
  exact hentries d.entries

omit [DecidableEq K] in
/-- Rewriting values commutes with dropping keys. -/
theorem mapValues_filterKeys {W : Type v} (f : V → W) (d : Dict K V) (p : K → Bool) :
    (d.filterKeys p).mapValues f = (d.mapValues f).filterKeys p := by
  simp [mapValues, filterKeys, List.filter_map, Function.comp_def]

end Dict
end LcpGateway.Base
