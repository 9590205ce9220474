import LcpGateway.Base.Dict
import Mathlib.Data.List.Induction
import Mathlib.Order.MinMax

/-!
# Rows folded into dictionaries

Library `Base`. A loop over rows that touches one cell for each of them: every cell is the fold
of its own rows. Instances are grouping by a key and dictionaries of dictionaries.
-/

namespace LcpGateway.Base

universe u v w

/-- A fold whose steps each touch the observed cell of one key: every cell is the fold of the
rows of its key. -/
theorem foldl_observe {σ α : Type u} {κ : Type v} {β : Type w} [DecidableEq κ] (obs : σ → κ → β)
    (key : α → κ) (f : β → α → β) {step : σ → α → σ}
    (hstep : ∀ s a k, obs (step s a) k = if key a = k then f (obs s k) a else obs s k)
    (rows : List α) (s : σ) (k : κ) :
    obs (rows.foldl step s) k = (rows.filter (fun a ↦ key a = k)).foldl f (obs s k) := by
  induction rows generalizing s with
  | nil => rfl
  | cons a rest ih =>
    rw [List.foldl_cons, ih, hstep]
    by_cases hkey : key a = k <;> simp [hkey]

/-- The last row of a fold that overwrites. -/
theorem foldl_overwrite {α : Type u} {β : Type w} (f : α → β) (rows : List α) :
    rows.foldl (fun (_ : Option β) a ↦ some (f a)) none = rows.getLast?.map f := by
  induction rows using List.reverseRecOn with
  | nil => rfl
  | append_singleton rest a _ => simp

/-- A fold that starts from a default at its first row. -/
theorem foldl_setdefault {α : Type u} {β : Type w} (f : β → α → β) (default : β) (rows : List α) :
    rows.foldl (fun (found : Option β) a ↦ some (f (found.getD default) a)) none =
      if rows = [] then none else some (rows.foldl f default) := by
  have hsome : ∀ (rows : List α) (b : β),
      rows.foldl (fun (found : Option β) a ↦ some (f (found.getD default) a)) (some b) =
        some (rows.foldl f b) := by
    intro rows
    induction rows with
    | nil => exact fun _ ↦ rfl
    | cons a rest ih => exact fun b ↦ ih (f b a)
  cases rows with
  | nil => rfl
  | cons a rest =>
    rw [if_neg (List.cons_ne_nil a rest)]
    exact hsome rest (f default a)

/-- The largest member of a list depends on its members alone. -/
theorem max?_congr {α : Type u} [LinearOrder α] {xs ys : List α} (h : ∀ x, x ∈ xs ↔ x ∈ ys) :
    xs.max? = ys.max? := by
  cases hys : ys.max? with
  | none =>
    rw [List.max?_eq_none_iff] at hys ⊢
    refine List.eq_nil_iff_forall_not_mem.mpr fun x hx ↦ ?_
    simp [hys] at h
    exact h x hx
  | some y =>
    rw [List.max?_eq_some_iff] at hys ⊢
    exact ⟨(h y).mpr hys.1, fun x hx ↦ hys.2 x ((h x).mp hx)⟩

namespace Dict

variable {K : Type u} {L : Type v} {V : Type w} {α : Type u} [DecidableEq K] [DecidableEq L]

/-- The entries of a key. -/
theorem filter_entries (d : Dict K V) (k : K) :
    d.entries.filter (fun e ↦ e.1 = k) = ((d.get? k).map (fun v ↦ (k, v))).toList := by
  have hnodup := d.nodup
  have hmem := fun v ↦ d.mem_entries_iff k v
  generalize d.get? k = found at hmem
  generalize d.entries = entries at hnodup hmem
  induction entries generalizing found with
  | nil =>
    cases found with
    | none => rfl
    | some v => simpa using hmem v
  | cons e rest ih =>
    rw [List.map_cons, List.nodup_cons] at hnodup
    by_cases hkey : e.1 = k
    · subst hkey
      have hfound : found = some e.2 := (hmem e.2).mp List.mem_cons_self
      have hrest : rest.filter (fun e' ↦ e'.1 = e.1) = [] := by
        rw [List.filter_eq_nil_iff]
        intro e' he' hkey'
        have heq : e'.1 = e.1 := of_decide_eq_true hkey'
        exact hnodup.1 (heq ▸ List.mem_map_of_mem he')
      subst hfound
      simp [hrest]
    · rw [List.filter_cons_of_neg (by simpa using hkey)]
      refine ih found hnodup.2 fun v ↦ ?_
      rw [← hmem v, List.mem_cons, or_iff_right]
      rintro rfl
      exact hkey rfl

/-! ## Grouping -/

/-- `d.setdefault(key(a), []).append(a)` for every row. -/
def groupBy (key : α → K) (rows : List α) : Dict K (List α) :=
  rows.foldl (fun d a ↦ d.set (key a) ((d.get? (key a)).getD [] ++ [a])) empty

/-- The group of a key is the rows of that key. -/
theorem getD_groupBy (key : α → K) (rows : List α) (k : K) :
    ((groupBy key rows).get? k).getD [] = rows.filter (fun a ↦ key a = k) := by
  have hstep : ∀ (d : Dict K (List α)) a k,
      ((d.set (key a) ((d.get? (key a)).getD [] ++ [a])).get? k).getD [] =
        if key a = k then (d.get? k).getD [] ++ [a] else (d.get? k).getD [] := by
    intro d a k
    by_cases hkey : key a = k
    · subst hkey
      simp
    · simp [get?_set, hkey]
  have hfold := foldl_observe (fun (d : Dict K (List α)) k ↦ (d.get? k).getD []) key
    (fun group a ↦ group ++ [a]) hstep rows empty k
  refine hfold.trans ?_
  rw [List.foldl_append_eq_append, ← List.flatMap_def, List.flatMap_singleton']
  rfl

/-- The keys of a grouping are those of its rows. -/
theorem contains_groupBy (key : α → K) (rows : List α) (k : K) :
    (groupBy key rows).contains k = true ↔ k ∈ rows.map key := by
  have hstep : ∀ (d : Dict K (List α)) a k,
      (d.set (key a) ((d.get? (key a)).getD [] ++ [a])).contains k =
        if key a = k then true else d.contains k := by
    intro d a k
    by_cases hkey : key a = k <;> simp [contains, get?_set, hkey]
  have hfold := foldl_observe (fun (d : Dict K (List α)) k ↦ d.contains k) key
    (fun _ _ ↦ true) hstep rows empty k
  refine (Bool.eq_iff_iff.mp hfold).trans ?_
  rw [List.mem_map]
  cases hrows : rows.filter (fun a ↦ key a = k) with
  | nil =>
    simp only [List.filter_eq_nil_iff, decide_eq_true_eq] at hrows
    simpa [contains] using hrows
  | cons a rest =>
    have ha : a ∈ rows.filter (fun a ↦ key a = k) := by rw [hrows]; exact List.mem_cons_self
    have hmem := List.mem_filter.mp ha
    have hfolded : ∀ (rest : List α), rest.foldl (fun _ _ ↦ true) true = true := fun rest ↦ by
      induction rest with
      | nil => rfl
      | cons b rest ih => exact ih
    simp only [List.foldl_cons, hfolded, true_iff]
    exact ⟨a, hmem.1, of_decide_eq_true hmem.2⟩

/-- A key with rows has the group of its rows. -/
theorem get?_groupBy_eq_some_iff {key : α → K} {rows : List α} {k : K} {group : List α} :
    (groupBy key rows).get? k = some group ↔
      group = rows.filter (fun a ↦ key a = k) ∧ k ∈ rows.map key := by
  rw [← contains_groupBy, ← getD_groupBy, contains]
  cases (groupBy key rows).get? k <;> simp [eq_comm]

/-- The keys of the entries are the keys that are contained. -/
theorem contains_iff (d : Dict K V) (k : K) :
    d.contains k = true ↔ k ∈ d.entries.map Prod.fst := by
  rw [contains, Option.isSome_iff_exists, List.mem_map]
  constructor
  · rintro ⟨v, hv⟩
    exact ⟨(k, v), (d.mem_entries_iff k v).mpr hv, rfl⟩
  · rintro ⟨⟨k', v⟩, hmem, rfl⟩
    exact ⟨v, (d.mem_entries_iff k' v).mp hmem⟩

/-- Rows made from the entries, each with the key of its entry: those of one key. -/
theorem filter_flatMap_entries (d : Dict K V) (rows : K → V → List α) {key : α → K}
    (hkey : ∀ e ∈ d.entries, ∀ a ∈ rows e.1 e.2, key a = e.1) (k : K) :
    (d.entries.flatMap (fun e ↦ rows e.1 e.2)).filter (fun a ↦ key a = k) =
      ((d.get? k).map (rows k)).getD [] := by
  have hfilter : (d.entries.flatMap (fun e ↦ rows e.1 e.2)).filter (fun a ↦ key a = k) =
      (d.entries.filter (fun e ↦ e.1 = k)).flatMap (fun e ↦ rows e.1 e.2) := by
    generalize d.entries = entries at hkey
    induction entries with
    | nil => rfl
    | cons e rest ih =>
      rw [List.forall_mem_cons] at hkey
      rw [List.flatMap_cons, List.filter_append, ih hkey.2]
      by_cases he : e.1 = k
      · rw [List.filter_cons_of_pos (by simpa using he), List.flatMap_cons,
          List.filter_eq_self.mpr fun a ha ↦ by simpa [he] using hkey.1 a ha]
      · rw [List.filter_cons_of_neg (by simpa using he),
          List.filter_eq_nil_iff.mpr fun a ha ↦ by simpa [hkey.1 a ha] using he, List.nil_append]
  rw [hfilter, filter_entries]
  cases d.get? k <;> simp

/-! ## Dictionaries of dictionaries -/

/-- `d[k][l]`. -/
def getIn (d : Dict K (Dict L V)) (k : K) (l : L) : Option V := (d.get? k).bind (·.get? l)

/-- `d.setdefault(k, {})[l] = v`. -/
def setIn (d : Dict K (Dict L V)) (k : K) (l : L) (v : V) : Dict K (Dict L V) :=
  d.set k (((d.get? k).getD empty).set l v)

/-- No cell of the empty dictionary is filled. -/
@[simp] theorem getIn_empty (k : K) (l : L) : (empty : Dict K (Dict L V)).getIn k l = none := rfl

/-- A write is read back in its own cell and leaves every other cell alone. -/
theorem getIn_setIn (d : Dict K (Dict L V)) (k k' : K) (l l' : L) (v : V) :
    (d.setIn k l v).getIn k' l' = if (k, l) = (k', l') then some v else d.getIn k' l' := by
  by_cases hk : k = k'
  · subst hk
    cases hd : d.get? k <;> by_cases hl : l = l' <;> simp [getIn, setIn, get?_set, hd, hl]
  · simp [getIn, setIn, get?_set, hk]

/-- The cells of entries of dictionaries, with both keys. -/
def cells (entries : List (K × Dict L V)) : List (K × L × V) :=
  entries.flatMap fun e ↦ e.2.entries.map fun cell ↦ (e.1, cell)

/-- The cells of some entries of a dictionary are its cells under their keys. -/
theorem mem_cells_iff {d : Dict K (Dict L V)} {p : K → Prop} {entries : List (K × Dict L V)}
    (hentries : ∀ e, e ∈ entries ↔ e ∈ d.entries ∧ p e.1) (k : K) (l : L) (v : V) :
    (k, l, v) ∈ cells entries ↔ d.getIn k l = some v ∧ p k := by
  unfold cells getIn
  simp only [List.mem_flatMap, List.mem_map, Option.bind_eq_some_iff]
  constructor
  · rintro ⟨⟨k', inner⟩, he, ⟨cell, hcell, heq⟩⟩
    obtain ⟨rfl, rfl⟩ := Prod.mk.inj heq
    obtain ⟨hmem, hp⟩ := (hentries _).mp he
    exact ⟨⟨inner, (d.mem_entries_iff _ _).mp hmem, (inner.mem_entries_iff _ _).mp hcell⟩, hp⟩
  · rintro ⟨⟨inner, hinner, hcell⟩, hp⟩
    have hmem := (d.mem_entries_iff _ _).mpr hinner
    exact ⟨(k, inner), (hentries _).mpr ⟨hmem, hp⟩, (l, v), (inner.mem_entries_iff _ _).mpr hcell,
      rfl⟩

omit [DecidableEq K] [DecidableEq L] in
/-- No two cells have both keys in common. -/
theorem nodup_cells {entries : List (K × Dict L V)} (h : (entries.map Prod.fst).Nodup) :
    ((cells entries).map fun cell ↦ (cell.1, cell.2.1)).Nodup := by
  have hkeys : (cells entries).map (fun cell ↦ (cell.1, cell.2.1)) =
      entries.flatMap fun e ↦ (e.2.entries.map Prod.fst).map fun l ↦ (e.1, l) := by
    simp [cells, List.map_flatMap, Function.comp_def]
  rw [hkeys, List.nodup_flatMap]
  constructor
  · intro e _
    exact e.2.nodup.map fun l l' heq ↦ (Prod.mk.inj heq).2
  · refine (List.pairwise_map.mp h).imp fun hne x hx hy ↦ ?_
    obtain ⟨l, -, rfl⟩ := List.mem_map.mp hx
    obtain ⟨l', -, heq⟩ := List.mem_map.mp hy
    exact hne (Prod.mk.inj heq).1.symm

end Dict
end LcpGateway.Base
