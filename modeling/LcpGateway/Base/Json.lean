import Mathlib.Data.List.Forall2
import Mathlib.Data.Rat.Defs

/-!
# JSON values

Library `Base`. A decoded JSON document as Python's `json.loads` gives it: integers are
unbounded, floats may be infinite or not a number, and an object keeps its keys in order.
Truthiness is Python's.
-/

namespace LcpGateway.Base

/-- A Python float; a finite one is the rational it denotes. -/
inductive PyFloat where
  | fin (r : Rat)
  | inf (negative : Bool)
  | nan
  deriving DecidableEq, Repr

/-- A decoded JSON value. -/
inductive Json where
  | null
  | bool (b : Bool)
  | int (i : Int)
  | float (x : PyFloat)
  | str (s : String)
  | arr (items : List Json)
  | obj (fields : List (String × Json))
  deriving Repr

namespace Json

/-- `bool(value)`. -/
def truthy : Json → Bool
  | .null => false
  | .bool b => b
  | .int i => i ≠ 0
  | .float (.fin r) => r ≠ 0
  | .float _ => true
  | .str s => s ≠ ""
  | .arr items => !items.isEmpty
  | .obj fields => !fields.isEmpty

/-- `value.get(key)` on an object; any other value has no fields. -/
def get? (v : Json) (key : String) : Option Json :=
  match v with
  | .obj fields => fields.lookup key
  | _ => none

/-- `isinstance(value, dict)`. -/
def isObj : Json → Bool
  | .obj _ => true
  | _ => false

/-- The value is this string. -/
def isStr (v : Json) (s : String) : Bool :=
  match v with
  | .str t => t == s
  | _ => false

end Json

/-- A reader goes through a list exactly when it goes through every item. -/
theorem isSome_mapM_iff {α β : Type} (f : α → Option β) (xs : List α) :
    (xs.mapM f).isSome ↔ ∀ x ∈ xs, (f x).isSome := by
  induction xs with
  | nil => simp
  | cons x rest ih =>
    rw [List.mapM_cons, List.forall_mem_cons, ← ih]
    cases f x <;> cases rest.mapM f <;> simp

/-- A list is read item by item. -/
theorem mapM_eq_some_iff {α β : Type} {f : α → Option β} {xs : List α} {ys : List β} :
    xs.mapM f = some ys ↔ List.Forall₂ (fun x y ↦ f x = some y) xs ys := by
  induction xs generalizing ys with
  | nil => cases ys <;> simp
  | cons x rest ih =>
    have hrest : ∀ zs, rest.mapM f = some zs ↔ List.Forall₂ (fun x y ↦ f x = some y) rest zs :=
      fun zs ↦ ih
    cases ys with
    | nil => simp [Option.bind_eq_some_iff]
    | cons y more =>
      rw [List.mapM_cons, List.forall₂_cons, ← hrest]
      simp [Option.bind_eq_some_iff]

/-- What is read item by item are the readings of the items. -/
theorem mem_mapM_iff {α β : Type} {f : α → Option β} {xs : List α} {ys : List β} {y : β}
    (h : xs.mapM f = some ys) : y ∈ ys ↔ ∃ x ∈ xs, f x = some y := by
  have hall := mapM_eq_some_iff.mp h
  clear h
  induction hall with
  | nil => simp
  | @cons x z rest more hxz _ ih => simp [ih, hxz, eq_comm]

/-- What is read item by item comes from an item. -/
theorem exists_of_mem_mapM {α β : Type} {f : α → Option β} {xs : List α} {ys : List β} {y : β}
    (h : xs.mapM f = some ys) (hy : y ∈ ys) : ∃ x ∈ xs, f x = some y :=
  (mem_mapM_iff h).mp hy

/-- The last reading of a list that is read whole. -/
theorem getLast?_mapM_eq_some_iff {α β : Type} {f : α → Option β} {xs : List α} {y : β} :
    (xs.mapM f).bind List.getLast? = some y ↔
      (∀ x ∈ xs, (f x).isSome = true) ∧ ∃ x, xs.getLast? = some x ∧ f x = some y := by
  rw [← isSome_mapM_iff]
  obtain rfl | ⟨rest, x, rfl⟩ := List.eq_nil_or_concat xs
  · simp
  · rw [List.concat_eq_append, List.mapM_append, List.getLast?_concat]
    cases rest.mapM f <;> cases hx : f x <;> simp [hx]

/-- A list is read whole into values that are related to its items exactly when every item is read
into one that is. -/
theorem exists_mapM_forall₂_iff {α β : Type} {f : α → Option β} {R : β → α → Prop} {xs : List α} :
    (∃ ys, xs.mapM f = some ys ∧ List.Forall₂ R ys xs) ↔ ∀ x ∈ xs, ∃ y, f x = some y ∧ R y x := by
  simp only [mapM_eq_some_iff]
  induction xs with
  | nil => simp
  | cons x rest ih =>
    rw [List.forall_mem_cons, ← ih]
    constructor
    · rintro ⟨ys, hread, hrel⟩
      cases hread with
      | cons hx hrest =>
        obtain ⟨hxrel, hrestrel⟩ := List.forall₂_cons.mp hrel
        exact ⟨⟨_, hx, hxrel⟩, _, hrest, hrestrel⟩
    · rintro ⟨⟨y, hx, hxrel⟩, ys, hrest, hrestrel⟩
      exact ⟨y :: ys, .cons hx hrest, .cons hxrel hrestrel⟩

/-- What every reading keeps of its item is kept of the list. -/
theorem map_eq_of_mapM {α β γ : Type} {f : α → Option β} {key : β → γ} {key' : α → γ}
    (hkey : ∀ x y, f x = some y → key y = key' x) {xs : List α} {ys : List β}
    (h : xs.mapM f = some ys) : ys.map key = xs.map key' := by
  have hall := mapM_eq_some_iff.mp h
  clear h
  induction hall with
  | nil => rfl
  | cons hxy _ ih => rw [List.map_cons, List.map_cons, hkey _ _ hxy, ih]

end LcpGateway.Base
