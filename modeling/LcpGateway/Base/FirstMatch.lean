import LcpGateway.Base.Splits

/-!
# First matches

Library `Base`. What the first match of a list gives does not depend on the order of the list
exactly when all its matches give the same. The first match is of a kind exactly when one of the
kind stands in front of every other match.
-/

namespace LcpGateway.Base

universe u v

variable {α : Type u} {β : Type v} {p : α → Bool} {f : α → β} {l l' : List α}

/-- Any member can be first. -/
theorem exists_perm_cons {a : α} (h : a ∈ l) : ∃ rest, (a :: rest).Perm l := by
  obtain ⟨before, after, rfl⟩ := List.append_of_mem h
  exact ⟨before ++ after, List.perm_middle.symm⟩

/-- Where all matches give the same, the first one does in any order. -/
theorem map_find?_eq_of_perm (hperm : l.Perm l')
    (h : ∀ a ∈ l, ∀ b ∈ l, p a = true → p b = true → f a = f b) :
    (l.find? p).map f = (l'.find? p).map f := by
  cases hfind : l.find? p with
  | none =>
    have hnone : l'.find? p = none := by
      rw [List.find?_eq_none] at hfind ⊢
      exact fun a ha ↦ hfind a (hperm.mem_iff.mpr ha)
    rw [hnone]
  | some a =>
    have ha := List.mem_of_find?_eq_some hfind
    have hpa := List.find?_some hfind
    have hsome : (l'.find? p).isSome := List.find?_isSome.mpr ⟨a, hperm.mem_iff.mp ha, hpa⟩
    obtain ⟨b, hb⟩ := Option.isSome_iff_exists.mp hsome
    have hb' := hperm.mem_iff.mpr (List.mem_of_find?_eq_some hb)
    rw [hb, Option.map_some, Option.map_some, h a ha b hb' hpa (List.find?_some hb)]

/-- Where the first match gives the same in any order, all matches do. -/
theorem eq_of_find?_perm {c : β}
    (h : ∀ l' : List α, l'.Perm l → ((l'.find? p).map f).getD c = ((l.find? p).map f).getD c)
    {a b : α} (ha : a ∈ l) (hb : b ∈ l) (hpa : p a = true) (hpb : p b = true) : f a = f b := by
  have hfirst : ∀ x ∈ l, p x = true → ((l.find? p).map f).getD c = f x := by
    intro x hx hpx
    obtain ⟨rest, hrest⟩ := exists_perm_cons hx
    rw [← h _ hrest, List.find?_cons_of_pos hpx, Option.map_some, Option.getD_some]
  exact (hfirst a ha hpa).symm.trans (hfirst b hb hpb)

/-- A rearranged list without repetitions has the same first match when any two matches keep
their order. -/
theorem find?_eq_of_order (hperm : l.Perm l') (hnodup : l.Nodup)
    (horder : ∀ a b, [a, b].Sublist l → p a = true → p b = true → [a, b].Sublist l') :
    l'.find? p = l.find? p := by
  cases hfind : l.find? p with
  | none =>
    rw [List.find?_eq_none] at hfind ⊢
    exact fun a ha ↦ hfind a (hperm.mem_iff.mpr ha)
  | some a =>
    obtain ⟨hpa, before, after, hl, hbefore⟩ := List.find?_eq_some_iff_append.mp hfind
    have ha : a ∈ l' := hperm.mem_iff.mp (List.mem_of_find?_eq_some hfind)
    obtain ⟨b, hb⟩ := Option.isSome_iff_exists.mp (List.find?_isSome.mpr ⟨a, ha, hpa⟩)
    obtain ⟨hpb, front, back, hl', hfront⟩ := List.find?_eq_some_iff_append.mp hb
    by_contra hne
    have hba : b ≠ a := fun h ↦ hne (h ▸ hb)
    -- the other match stands behind the first one of the list
    have hafter : b ∈ after := by
      have hmem : b ∈ before ++ a :: after := hl ▸ hperm.mem_iff.mpr (List.mem_of_find?_eq_some hb)
      rcases List.mem_append.mp hmem with hmem | hmem
      · have hnot := hbefore b hmem
        simp [hpb] at hnot
      · exact (List.mem_cons.mp hmem).resolve_left hba
    have hpair : [a, b].Sublist l := by
      rw [hl]
      exact ((List.singleton_sublist.mpr hafter).cons_cons a).trans
        (List.sublist_append_right before _)
    -- and so it does in the rearranged list, where it is the first one
    have hpair' := horder a b hpair hpa hpb
    rw [hl'] at hpair'
    have hmem : b ∈ back := by
      obtain ⟨l₁, l₂, hsplit, hl₁, hl₂⟩ := List.sublist_append_iff.mp hpair'
      cases l₁ with
      | nil =>
        rw [List.nil_append] at hsplit
        rw [← hsplit] at hl₂
        cases hl₂ with
        | cons _ h => exact h.mem (by simp)
        | cons_cons => exact absurd rfl hba
      | cons x rest =>
        obtain rfl : a = x := (List.cons.inj hsplit).1
        have hnot := hfront a (hl₁.mem List.mem_cons_self)
        simp [hpa] at hnot
    have hnodup' : (front ++ b :: back).Nodup := hl' ▸ hperm.nodup_iff.mp hnodup
    exact (List.nodup_cons.mp (List.nodup_append.mp hnodup').2.1).1 hmem

/-- The last element of a fold that overwrites where it matches is the first match from the end. -/
theorem foldl_overwrite_eq_find? (l : List α) (b : β) :
    l.foldl (fun b a ↦ if p a then f a else b) b = ((l.reverse.find? p).map f).getD b := by
  induction l generalizing b with
  | nil => rfl
  | cons a rest ih =>
    rw [List.foldl_cons, ih, List.reverse_cons, List.find?_append]
    cases rest.reverse.find? p with
    | some c => rfl
    | none => cases hp : p a <;> simp [hp]

/-- Searching one list after another is searching them put together. -/
theorem find?_flatMap_filter (as : List α) (l : List β) (q : α → β → Bool) (p : β → Bool) :
    (as.flatMap fun a ↦ l.filter (q a)).find? p =
      as.findSome? fun a ↦ l.find? fun b ↦ q a b && p b := by
  induction as with
  | nil => rfl
  | cons a rest ih =>
    have hboth : (fun b ↦ decide (q a b = true ∧ p b = true)) = fun b ↦ q a b && p b := by
      funext b
      simp
    rw [List.flatMap_cons, List.find?_append, ih, List.find?_filter, List.findSome?_cons, hboth]
    cases l.find? fun b ↦ q a b && p b <;> rfl

/-- When there is a match of a kind, the first match is of it exactly if one of the kind stands in
front of every other match. -/
theorem find?_of_kind_iff {kind : α → Prop} (hsome : ∃ a ∈ l, p a = true ∧ kind a) :
    (∃ a, l.find? p = some a ∧ kind a) ↔
      EveryPlace (fun before a _ ↦ p a = true → ¬ kind a →
        ∃ b ∈ before, p b = true ∧ kind b) l := by
  obtain ⟨c, hc, hpc, hkind⟩ := hsome
  obtain ⟨first, hfirst⟩ := Option.isSome_iff_exists.mp (List.find?_isSome.mpr ⟨c, hc, hpc⟩)
  obtain ⟨hpfirst, front, back, hl, hfront⟩ := List.find?_eq_some_iff_append.mp hfirst
  constructor
  · rintro ⟨a, ha, hkinda⟩ before other after hsplit hother hnot
    obtain rfl : first = a := Option.some.inj (hfirst.symm.trans ha)
    refine ⟨first, ?_, hpfirst, hkinda⟩
    -- the first match stands in front of the other one, as they differ in kind
    by_contra hmem
    have hsearch : (before ++ other :: after).find? p = some first := hsplit ▸ hfirst
    rw [List.find?_append] at hsearch
    cases hbefore : before.find? p with
    | some b =>
      rw [hbefore, Option.some_or] at hsearch
      exact hmem (Option.some.inj hsearch ▸ List.mem_of_find?_eq_some hbefore)
    | none =>
      rw [hbefore, Option.none_or, List.find?_cons_of_pos hother] at hsearch
      exact hnot (Option.some.inj hsearch ▸ hkinda)
  · intro h
    refine ⟨first, hfirst, ?_⟩
    by_contra hnot
    obtain ⟨b, hb, hpb, -⟩ := h front first back hl hpfirst hnot
    have hnone := hfront b hb
    simp [hpb] at hnone

end LcpGateway.Base
