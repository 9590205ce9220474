import Mathlib.Data.List.Induction

/-!
# Places in a list

Library `Base`. A property of the members of a list that may look at what stands in front of a
member and behind it, and how it reads on a rewritten list.
-/

namespace LcpGateway.Base

universe u v

variable {α : Type u} {β : Type v}

/-- The property holds of every member with what is in front of it and what is behind it. -/
def EveryPlace (P : List α → α → List α → Prop) (l : List α) : Prop :=
  ∀ before a after, l = before ++ a :: after → P before a after

/-- Places of a filtered and rewritten list are places of the list whose member is kept. -/
theorem everyPlace_filterMap_iff {f : α → Option β} {l : List α}
    {P : List β → β → List β → Prop} :
    EveryPlace P (l.filterMap f) ↔
      EveryPlace (fun before a after ↦
        ∀ b, f a = some b → P (before.filterMap f) b (after.filterMap f)) l := by
  constructor
  · rintro h before a after rfl b hb
    apply h
    rw [List.filterMap_append, List.filterMap_cons_some hb]
  · intro h front b back hsplit
    obtain ⟨l₁, rest, rfl, rfl, hrest⟩ := List.filterMap_eq_append_iff.mp hsplit
    obtain ⟨l₂, a, after, rfl, hnone, hb, rfl⟩ := List.filterMap_eq_cons_iff.mp hrest
    have hplace := h (l₁ ++ l₂) a after (by rw [List.append_assoc]) b hb
    rwa [List.filterMap_append, List.filterMap_eq_nil_iff.mpr hnone, List.append_nil] at hplace

/-- Properties that agree at the places of a list hold together. -/
theorem everyPlace_congr {l : List α} {P Q : List α → α → List α → Prop}
    (h : ∀ before a after, l = before ++ a :: after → (P before a after ↔ Q before a after)) :
    EveryPlace P l ↔ EveryPlace Q l :=
  forall₃_congr fun before a after ↦ forall_congr' fun hsplit ↦ h before a after hsplit

section Fronts

variable {P : List α → α → Prop}

/-- A property of what is in front holds at the places of an extended list when it holds at those
of the list, and of the new member behind the list. -/
theorem everyPlace_concat_iff (l : List α) (x : α) :
    EveryPlace (fun before a _ ↦ P before a) (l ++ [x]) ↔
      EveryPlace (fun before a _ ↦ P before a) l ∧ P l x := by
  constructor
  · intro h
    refine ⟨fun before a after hsplit ↦ h before a (after ++ [x]) ?_, h l x [] rfl⟩
    rw [hsplit, List.append_assoc, List.cons_append]
  · rintro ⟨h, hx⟩ before a after hsplit
    obtain rfl | ⟨init, last, rfl⟩ := after.eq_nil_or_concat
    · obtain ⟨rfl, hlast⟩ := List.append_inj' hsplit rfl
      obtain rfl := List.head_eq_of_cons_eq hlast
      exact hx
    · rw [List.concat_eq_append, ← List.cons_append, ← List.append_assoc] at hsplit
      exact h before a init (List.append_inj' hsplit rfl).1

/-- The places of a concatenation. -/
theorem everyPlace_append_iff (l m : List α) :
    EveryPlace (fun before a _ ↦ P before a) (l ++ m) ↔
      EveryPlace (fun before a _ ↦ P before a) l ∧
        EveryPlace (fun before a _ ↦ P (l ++ before) a) m := by
  induction m using List.reverseRecOn with
  | nil =>
    rw [List.append_nil, iff_self_and]
    exact fun _ before a after hsplit ↦ by simp at hsplit
  | append_singleton init x ih =>
    have hinit := everyPlace_concat_iff (P := fun before a ↦ P (l ++ before) a) init x
    rw [← List.append_assoc, everyPlace_concat_iff, ih, hinit, and_assoc]

/-- The property holds at every place, or there is a last place where it does not. -/
theorem everyPlace_or_exists_last (P : List α → α → Prop) (l : List α) :
    EveryPlace (fun before a _ ↦ P before a) l ∨
      ∃ before a after, l = before ++ a :: after ∧ ¬ P before a ∧
        EveryPlace (fun between b _ ↦ P (before ++ a :: between) b) after := by
  induction l using List.reverseRecOn with
  | nil => exact .inl fun before a after hsplit ↦ by simp at hsplit
  | append_singleton init x ih =>
    by_cases hx : P init x
    · obtain h | ⟨before, a, after, rfl, ha, hafter⟩ := ih
      · exact .inl ((everyPlace_concat_iff init x).mpr ⟨h, hx⟩)
      · refine .inr ⟨before, a, after ++ [x], by simp, ha, ?_⟩
        exact (everyPlace_concat_iff after x).mpr ⟨hafter, hx⟩
    · exact .inr ⟨init, x, [], rfl, hx, fun before a after hsplit ↦ by simp at hsplit⟩

end Fronts

end LcpGateway.Base
