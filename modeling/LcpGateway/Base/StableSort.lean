import Mathlib.Data.List.Sort

/-!
# Stable sorting

Library `Base`. A stable sort compares two members of its input in one of two ways: in order
when the earlier one may stand first, swapped otherwise. So what holds of every pair of the
output is a condition on the pairs of the input, and the head of the output is a member that
no other one beats.
-/

namespace LcpGateway.Base

universe u

variable {α : Type u} (r : α → α → Prop) [DecidableRel r]

/-- The order in which a stable sort emits two members, the first one being the earlier. -/
def Emitted (Q : α → α → Prop) (a b : α) : Prop := (r a b → Q a b) ∧ (¬r a b → Q b a)

variable [IsTrans α r]

/-- Insertion into a sorted list puts the new member in front of those it may precede. -/
theorem pairwise_orderedInsert_iff {Q : α → α → Prop} {a : α} {l : List α}
    (hl : l.Pairwise r) :
    (l.orderedInsert r a).Pairwise Q ↔ (∀ b ∈ l, Emitted r Q a b) ∧ l.Pairwise Q := by
  induction l with
  | nil => simp
  | cons b rest ih =>
    obtain ⟨hb, hrest⟩ := List.pairwise_cons.mp hl
    by_cases hab : r a b
    · have hall : ∀ c ∈ b :: rest, r a c := by
        intro c hc
        rcases List.mem_cons.mp hc with rfl | hc
        · exact hab
        · exact IsTrans.trans a b c hab (hb c hc)
      rw [List.orderedInsert_cons_of_le r rest hab, List.pairwise_cons]
      refine and_congr_left fun _ ↦ forall₂_congr fun c hc ↦ ?_
      simp [Emitted, hall c hc]
    · rw [List.orderedInsert_of_not_le r rest hab, List.pairwise_cons, ih hrest]
      simp only [List.mem_orderedInsert, List.forall_mem_cons, List.pairwise_cons, Emitted, hab,
        false_implies, not_false_eq_true, true_implies, true_and, forall_eq_or_imp]
      tauto

variable [Std.Total r]

/-- What holds of every pair of the sorted list is a condition on the pairs of the list. -/
theorem pairwise_insertionSort_iff {Q : α → α → Prop} {l : List α} :
    (l.insertionSort r).Pairwise Q ↔ l.Pairwise (Emitted r Q) := by
  induction l with
  | nil => simp
  | cons a rest ih =>
    rw [List.insertionSort_cons, pairwise_orderedInsert_iff r (List.pairwise_insertionSort r rest),
      List.pairwise_cons, ih]
    simp only [List.mem_insertionSort]

/-- The head of the sorted list is a member that may stand in front of every member. -/
theorem rel_of_insertionSort_eq_cons {l rest : List α} {a : α}
    (h : l.insertionSort r = a :: rest) : a ∈ l ∧ ∀ b ∈ l, r a b := by
  have hsorted := List.pairwise_insertionSort r l
  have hmem : ∀ b, b ∈ l ↔ b ∈ a :: rest := fun b ↦ by rw [← h, List.mem_insertionSort]
  rw [h, List.pairwise_cons] at hsorted
  refine ⟨(hmem a).mpr List.mem_cons_self, fun b hb ↦ ?_⟩
  rcases List.mem_cons.mp ((hmem b).mp hb) with rfl | hb
  · exact (Std.Total.total b b).elim id id
  · exact hsorted.1 b hb

end LcpGateway.Base
