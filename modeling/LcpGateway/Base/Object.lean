import LcpGateway.Base.Number

/-!
# JSON objects as dictionaries

Library `Base`. A decoded object is the list of its fields. Writing a field keeps its place or
appends it, `pop` removes it, and a loop visits values as Python does: the characters of a text,
the keys of an object.
-/

namespace LcpGateway.Base

/-- The fields of a JSON object, in order. -/
abbrev Fields := List (String × Json)

/-- `fields[key] = value`. -/
def setField (key : String) (value : Json) : Fields → Fields
  | [] => [(key, value)]
  | (k, v) :: rest => if k = key then (key, value) :: rest else (k, v) :: setField key value rest

/-- `del fields[key]`. -/
def delField (key : String) (fields : Fields) : Fields := fields.filter (fun e ↦ e.1 ≠ key)

/-- `key in fields`. -/
def hasField (key : String) (fields : Fields) : Bool := (fields.lookup key).isSome

/-- Writes one after another, as `dict.update`. -/
def setFields (writes : Fields) (fields : Fields) : Fields :=
  writes.foldl (fun acc e ↦ setField e.1 e.2 acc) fields

namespace Json

/-- `value or other`. -/
def orElse (v other : Json) : Json := if v.truthy then v else other

/-- What a loop over the value visits; `none` is a `TypeError`. -/
def iterate : Json → Option (List Json)
  | .arr items => some items
  | .obj fields => some (fields.map (fun e ↦ .str e.1))
  | .str s => some (s.toList.map (fun c ↦ .str (String.ofList [c])))
  | _ => none

/-- The value can be the key of a dictionary. -/
def hashable : Json → Bool
  | .arr _ => false
  | .obj _ => false
  | _ => true

/-- The text of a value. -/
def text? : Json → Option String
  | .str s => some s
  | _ => none

/-- The fields of an object. -/
def fields? : Json → Option Fields
  | .obj fields => some fields
  | _ => none

/-- The items of a list. -/
def items? : Json → Option (List Json)
  | .arr items => some items
  | _ => none

/-- `key in value`; `none` is a `TypeError`. -/
def contains? (key : String) : Json → Option Bool
  | .obj fields => some (hasField key fields)
  | .arr items => some (items.any (fun item ↦ item.isStr key))
  | .str s => some (isInfix key s)
  | _ => none

/-- `value[key]`; `none` is an exception. -/
def subscript? (key : String) (v : Json) : Option Json := v.fields?.bind (·.lookup key)

/-- `a == b` on values that can be keys: numbers compare by value. -/
def same (a b : Json) : Bool :=
  match a.number?, b.number? with
  | some x, some y => x ≠ .nan && x = y
  | none, none =>
    match a, b with
    | .null, .null => true
    | .str s, .str t => s = t
    | _, _ => false
  | _, _ => false

end Json

variable {key key' : String} {value : Json} {fields : Fields}

/-- A written field is read back, every other one is unchanged. -/
theorem lookup_setField :
    (setField key value fields).lookup key' =
      if key = key' then some value else fields.lookup key' := by
  induction fields with
  | nil =>
    by_cases h : key = key'
    · simp [setField, h]
    · have hne : (key' == key) = false := by simpa using Ne.symm h
      simp [setField, List.lookup_cons, h, hne]
  | cons e rest ih =>
    obtain ⟨k, v⟩ := e
    by_cases hk : k = key
    · subst hk
      by_cases h : k = key'
      · simp [setField, h]
      · have hne : (key' == k) = false := by simpa using Ne.symm h
        simp [setField, List.lookup_cons, h, hne]
    · rw [setField, if_neg hk, List.lookup_cons, List.lookup_cons, ih]
      by_cases h : key = key'
      · have hne : (key' == k) = false := by simpa [← h] using Ne.symm hk
        simp [h, hne]
      · simp [h]

/-- A removed field is gone, every other one is unchanged. -/
theorem lookup_delField :
    (delField key fields).lookup key' = if key = key' then none else fields.lookup key' := by
  induction fields with
  | nil => simp [delField]
  | cons e rest ih =>
    obtain ⟨k, v⟩ := e
    rw [List.lookup_cons]
    by_cases hk : k = key
    · subst hk
      rw [delField, List.filter_cons_of_neg (by simp), ← delField, ih]
      by_cases h : k = key'
      · simp [h]
      · have hne : (key' == k) = false := by simpa using Ne.symm h
        simp [h, hne]
    · rw [delField, List.filter_cons_of_pos (by simpa using hk), ← delField, List.lookup_cons, ih]
      by_cases h : key = key'
      · have hne : (key' == k) = false := by simpa [← h] using Ne.symm hk
        simp [h, hne]
      · simp [h]

/-- A field written with the value it has. -/
theorem setField_of_lookup (h : fields.lookup key = some value) :
    setField key value fields = fields := by
  induction fields with
  | nil => simp at h
  | cons e rest ih =>
    obtain ⟨k, v⟩ := e
    rw [List.lookup_cons] at h
    by_cases hk : k = key
    · subst hk
      simp_all [setField]
    · have hne : (key == k) = false := by simpa using Ne.symm hk
      simp only [hne] at h
      rw [setField, if_neg hk, ih h]

/-- A field written twice. -/
theorem setField_setField (value' : Json) :
    setField key value' (setField key value fields) = setField key value' fields := by
  induction fields with
  | nil => simp [setField]
  | cons e rest ih =>
    by_cases hk : e.1 = key <;> simp [setField, hk, ih]

/-- An object with a written field is not empty. -/
theorem setField_ne_nil : setField key value fields ≠ [] := by
  cases fields with
  | nil => simp [setField]
  | cons e rest =>
    rw [setField]
    split <;> simp

/-- A field after a write is the written one or was there before. -/
theorem mem_setField {e : String × Json} (h : e ∈ setField key value fields) :
    e = (key, value) ∨ e ∈ fields := by
  induction fields with
  | nil => exact .inl (List.mem_singleton.mp h)
  | cons d rest ih =>
    rw [setField] at h
    split at h
    · exact (List.mem_cons.mp h).imp id (List.mem_cons_of_mem d)
    · rcases List.mem_cons.mp h with rfl | hrest
      · exact .inr List.mem_cons_self
      · exact (ih hrest).imp id (List.mem_cons_of_mem d)

/-- Removing a field empties an object when it has no other one. -/
theorem delField_ne_nil_iff : delField key fields ≠ [] ↔ ∃ e ∈ fields, e.1 ≠ key := by
  simp [delField]

/-- The fields of an object, and of nothing else. -/
theorem fields?_eq_some_iff {v : Json} {fields : Fields} :
    v.fields? = some fields ↔ v = .obj fields := by
  cases v <;> simp [Json.fields?]

/-- A field that lookup finds is a member. -/
theorem mem_of_lookup (h : fields.lookup key = some value) : (key, value) ∈ fields := by
  obtain ⟨before, after, rfl, -⟩ := List.lookup_eq_some_iff.mp h
  simp

/-! ### Keys that are one key -/

namespace Json

variable {a b c : Json}

/-- Values that are one key are so in both orders. -/
theorem same_comm : a.same b = b.same a := by
  unfold same
  cases ha : a.number? with
  | some x =>
    cases hb : b.number? with
    | some y =>
      by_cases hxy : x = y
      · subst hxy
        rfl
      · simp [hxy, Ne.symm hxy]
    | none => rfl
  | none =>
    cases hb : b.number? with
    | some y => rfl
    | none => cases a <;> cases b <;> simp [eq_comm]

/-- Values that are one key are one key with the same values. -/
theorem same_congr (h : a.same b = true) : c.same a = c.same b := by
  unfold same at h ⊢
  cases ha : a.number? with
  | some x =>
    cases hb : b.number? with
    | some y =>
      rw [ha, hb] at h
      have hxy : x = y := by simpa using (Bool.and_eq_true_iff.mp h).2
      rw [hxy]
      cases c.number? <;> rfl
    | none => simp [ha, hb] at h
  | none =>
    cases hb : b.number? with
    | some y => simp [ha, hb] at h
    | none =>
      rw [ha, hb] at h
      cases a <;> cases b <;> simp_all

end Json

/-! ### Fields written together -/

variable {writes : Fields}

/-- Among fields with different keys every one is found. -/
theorem lookup_of_mem (h : (writes.map Prod.fst).Nodup) (hmem : (key, value) ∈ writes) :
    writes.lookup key = some value := by
  obtain ⟨before, after, rfl⟩ := List.append_of_mem hmem
  refine List.lookup_eq_some_iff.mpr ⟨before, after, rfl, fun e he ↦ ?_⟩
  rw [List.map_append, List.nodup_append] at h
  simpa using (h.2.2 e.1 (List.mem_map_of_mem he) key (by simp)).symm

/-- Writes of different keys are all read back. -/
theorem lookup_setFields (h : (writes.map Prod.fst).Nodup) :
    (setFields writes fields).lookup key = (writes.lookup key).or (fields.lookup key) := by
  induction writes generalizing fields with
  | nil => rfl
  | cons e rest ih =>
    obtain ⟨k, v⟩ := e
    rw [List.map_cons, List.nodup_cons] at h
    change (setFields rest (setField k v fields)).lookup key = _
    rw [ih h.2, lookup_setField, List.lookup_cons]
    by_cases hk : k = key
    · subst hk
      have hnone : rest.lookup k = none := by
        rw [List.lookup_eq_none_iff]
        intro e he
        have hne : e.1 ≠ k := fun heq ↦ h.1 (List.mem_map.mpr ⟨e, he, heq⟩)
        simpa using hne.symm
      simp [hnone]
    · have hne : (key == k) = false := by simpa using Ne.symm hk
      rw [if_neg hk, hne]

/-- Writes of different keys change nothing when what they write is there. -/
theorem setFields_eq_self_iff (h : (writes.map Prod.fst).Nodup) :
    setFields writes fields = fields ↔ ∀ e ∈ writes, fields.lookup e.1 = some e.2 := by
  constructor
  · intro heq e he
    have hwritten : (setFields writes fields).lookup e.1 = some e.2 := by
      rw [lookup_setFields h, lookup_of_mem h he, Option.some_or]
    rwa [heq] at hwritten
  · intro hthere
    induction writes with
    | nil => rfl
    | cons e rest ih =>
      rw [List.forall_mem_cons] at hthere
      rw [List.map_cons, List.nodup_cons] at h
      change setFields rest (setField e.1 e.2 fields) = fields
      rw [setField_of_lookup hthere.1]
      exact ih h.2 hthere.2

end LcpGateway.Base
