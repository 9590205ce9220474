import Mathlib.Data.List.Nodup

/-!
# Tables with assigned ids

Library `Base`. Rows in the order they were added, under ids that are distinct and below the
next one, so that an id is never assigned twice. A table is observed through the row of an id:
each operation comes with its effect on that row.
-/

namespace LcpGateway.Base

/-- The rows with a key, found one way or the other when keys are distinct. -/
theorem find?_and_of_nodup {α κ : Type} [DecidableEq κ] {key : α → κ} {rows : List α}
    (h : (rows.map key).Nodup) (p : α → Bool) (a : κ) :
    rows.find? (fun r ↦ p r && key r = a) = (rows.find? (fun r ↦ key r = a)).filter p := by
  induction rows with
  | nil => rfl
  | cons r rest ih =>
    simp only [List.map_cons, List.nodup_cons] at h
    by_cases hkey : key r = a
    · cases hp : p r with
      | true => simp [hp, hkey, Option.filter_some]
      | false =>
        have hrest : rest.find? (fun r ↦ key r = a) = none := by
          rw [List.find?_eq_none]
          intro r' hr' hr'key
          exact h.1 (List.mem_map.mpr ⟨r', hr', by simp_all⟩)
        simp [hp, hkey, ih h.2, hrest, Option.filter_some]
    · simp [hkey, ih h.2]

/-- A row is found under its key. -/
theorem find?_of_mem_of_nodup {α κ : Type} [DecidableEq κ] {key : α → κ} {rows : List α}
    (h : (rows.map key).Nodup) {r : α} {a : κ} (hr : r ∈ rows) (hkey : key r = a) :
    rows.find? (fun r ↦ key r = a) = some r := by
  subst hkey
  have hsome : (rows.find? (fun r' ↦ key r' = key r)).isSome := by
    rw [List.find?_isSome]
    exact ⟨r, hr, by simp⟩
  obtain ⟨r', hr'⟩ := Option.isSome_iff_exists.mp hsome
  have hkey : key r' = key r := by simpa using List.find?_some hr'
  rw [hr', List.inj_on_of_nodup_map h (List.mem_of_find?_eq_some hr') hr hkey]

/-- Rows under ids that are never reused. -/
structure Table (α : Type) (id : α → Nat) where
  rows : List α
  nextId : Nat
  nodup : (rows.map id).Nodup
  fresh : ∀ r ∈ rows, id r < nextId

namespace Table

variable {α : Type} {id : α → Nat}

/-- The table before its first row. -/
def empty : Table α id := ⟨[], 1, List.nodup_nil, fun _ h ↦ absurd h List.not_mem_nil⟩

/-- The row of an id. -/
def find (t : Table α id) (i : Nat) : Option α := t.rows.find? (fun r ↦ id r = i)

/-- Every row rewritten, its id kept. -/
def rewrite (t : Table α id) (f : α → α) (hf : ∀ r, id (f r) = id r) : Table α id where
  rows := t.rows.map f
  nextId := t.nextId
  nodup := by
    have hids : id ∘ f = id := funext hf
    rw [List.map_map, hids]
    exact t.nodup
  fresh := by
    intro r hr
    obtain ⟨r', hr', rfl⟩ := List.mem_map.mp hr
    rw [hf]
    exact t.fresh r' hr'

/-- The row of an id rewritten. -/
def modify (t : Table α id) (i : Nat) (f : α → α) (hf : ∀ r, id (f r) = id r) : Table α id :=
  t.rewrite (fun r ↦ if id r = i then f r else r) (fun r ↦ by
    split
    · exact hf r
    · rfl)

/-- A new row under the next id. -/
def insert (t : Table α id) (r : α) (hr : id r = t.nextId) : Table α id where
  rows := t.rows ++ [r]
  nextId := t.nextId + 1
  nodup := by
    rw [List.map_append, List.nodup_append]
    refine ⟨t.nodup, by simp, ?_⟩
    intro i hi j hj
    obtain ⟨r', hr', rfl⟩ := List.mem_map.mp hi
    obtain rfl : j = id r := by simpa using hj
    rw [hr]
    exact Nat.ne_of_lt (t.fresh r' hr')
  fresh := by
    intro r' hr'
    rcases List.mem_append.mp hr' with hr' | hr'
    · exact Nat.lt_succ_of_lt (t.fresh r' hr')
    · obtain rfl := List.mem_singleton.mp hr'
      exact hr ▸ Nat.lt_succ_self _

/-- A row found is a row of the table, under its id. -/
theorem mem_of_find {t : Table α id} {i : Nat} {r : α} (h : t.find i = some r) :
    r ∈ t.rows ∧ id r = i :=
  ⟨List.mem_of_find?_eq_some h, by simpa using List.find?_some h⟩

/-- A row of the table is found under its id. -/
theorem find_of_mem {t : Table α id} {r : α} (h : r ∈ t.rows) : t.find (id r) = some r :=
  find?_of_mem_of_nodup t.nodup h rfl

/-- The rows that satisfy a test hold the row of an id when it does. -/
theorem find?_filter (t : Table α id) (p : α → Bool) (i : Nat) :
    (t.rows.filter p).find? (fun r ↦ id r = i) = (t.find i).filter p := by
  rw [List.find?_filter]
  simpa [find] using find?_and_of_nodup t.nodup p i

/-- A rewritten table holds the rewritten rows. -/
theorem find_rewrite (t : Table α id) (f : α → α) (hf : ∀ r, id (f r) = id r) (i : Nat) :
    (t.rewrite f hf).find i = (t.find i).map f := by
  rw [find, find, rewrite, List.find?_map]
  congr 2
  funext r
  simp [hf]

/-- Rewriting the row of an id leaves the others alone. -/
theorem find_modify (t : Table α id) (i j : Nat) (f : α → α) (hf : ∀ r, id (f r) = id r) :
    (t.modify i f hf).find j = (t.find j).map (fun r ↦ if id r = i then f r else r) :=
  t.find_rewrite _ _ j

/-- A new row leaves the others alone. -/
theorem find_insert {t : Table α id} {i : Nat} {r : α} (h : t.find i = some r) (new : α)
    (hnew : id new = t.nextId) : (t.insert new hnew).find i = some r := by
  have hold : t.rows.find? (fun r ↦ id r = i) = some r := h
  rw [find, insert, List.find?_append, hold, Option.some_or]

/-- A new row is found under the id it was assigned. -/
theorem find_insert_self (t : Table α id) (new : α) (hnew : id new = t.nextId) :
    (t.insert new hnew).find t.nextId = some new := by
  have hmem : new ∈ (t.insert new hnew).rows :=
    List.mem_append_right t.rows (List.mem_singleton.mpr rfl)
  have hfind := find_of_mem hmem
  rw [hnew] at hfind
  exact hfind

end Table
end LcpGateway.Base
