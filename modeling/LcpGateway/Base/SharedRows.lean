import Mathlib.Data.List.Induction
import Mathlib.Logic.Function.Basic

/-!
# Several maps in one table

Library `Base`. A family of maps is kept in one table whose rows are found by an encoding of the
map and its key. The encoding need not be injective: keys that share a row read what was written
last for any of them. So the table stands for the maps exactly when keys that share a row have the
same value.
-/

namespace LcpGateway.Base

universe u v w

variable {ι : Type u} {K : Type v} {V : Type w} [DecidableEq ι] [DecidableEq K]

/-- Writes one after another, each under its own key. -/
def writeAll (maps : ι → V) (writes : List (ι × V)) : ι → V :=
  writes.foldl (fun m w ↦ Function.update m w.1 w.2) maps

/-- The same writes to the rows of one table. -/
def writeRows (row : ι → K) (table : K → V) (writes : List (ι × V)) : K → V :=
  writes.foldl (fun t w ↦ Function.update t (row w.1) w.2) table

variable {row : ι → K} {table : K → V} {writes : List (ι × V)}

/-- One more write to the maps. -/
theorem writeAll_concat (maps : ι → V) (w : ι × V) :
    writeAll maps (writes ++ [w]) = Function.update (writeAll maps writes) w.1 w.2 := by
  rw [writeAll, List.foldl_append]
  rfl

omit [DecidableEq ι] in
/-- One more write to the table. -/
theorem writeRows_concat (w : ι × V) :
    writeRows row table (writes ++ [w]) =
      Function.update (writeRows row table writes) (row w.1) w.2 := by
  rw [writeRows, List.foldl_append]
  rfl

/-- A row holds what one of the keys that share it has. -/
theorem exists_writeAll_eq_writeRows (row : ι → K) (table : K → V) (writes : List (ι × V))
    (i : ι) :
    ∃ j, row j = row i ∧
      writeRows row table writes (row i) = writeAll (table ∘ row) writes j := by
  induction writes using List.reverseRecOn with
  | nil => exact ⟨i, rfl, rfl⟩
  | append_singleton writes w ih =>
    rw [writeRows_concat, writeAll_concat]
    by_cases hrow : row w.1 = row i
    · -- the row was written last for this very key
      refine ⟨w.1, hrow, ?_⟩
      rw [← hrow, Function.update_self, Function.update_self]
    · obtain ⟨j, hj, hvalue⟩ := ih
      have hother : j ≠ w.1 := fun heq ↦ hrow (heq ▸ hj)
      refine ⟨j, hj, ?_⟩
      rw [Function.update_of_ne (Ne.symm hrow), Function.update_of_ne hother, hvalue]

/-- The table stands for the maps exactly when keys that share a row have the same value. -/
theorem writeRows_eq_writeAll_iff :
    (∀ i, writeRows row table writes (row i) = writeAll (table ∘ row) writes i) ↔
      ∀ i j, row i = row j →
        writeAll (table ∘ row) writes i = writeAll (table ∘ row) writes j := by
  constructor
  · intro h i j hrow
    rw [← h i, ← h j, hrow]
  · intro h i
    obtain ⟨j, hj, hvalue⟩ := exists_writeAll_eq_writeRows row table writes i
    rw [hvalue]
    exact h j i hj

end LcpGateway.Base
