import Mathlib.Data.List.Nodup

/-!
# Moving entries of a table

Library `Base`. A table is read through its lookup. An entry is moved by writing it, resealed, under
its new key and clearing the old one; a value that cannot be resealed is lost. Moving several
entries one after another is moving them at once, exactly when no entry that is present is moved
onto the source of another.
-/

namespace LcpGateway.Base

universe u v w

variable {ι : Type u} {K : Type v} {V : Type w} [DecidableEq K]

/-- The table after the entry of `x` has moved to `y`. -/
def relocate (reseal : V → Option V) (x y : K) (table : K → Option V) : K → Option V :=
  fun z ↦
    if z = x then none
    else if z = y ∧ (table x).isSome then (table x).bind reseal
    else table z

/-- The moves from `src i` to `dst i`, one after another. -/
def relocateAll (reseal : V → Option V) (src dst : ι → K) :
    List ι → (K → Option V) → K → Option V
  | [], table => table
  | i :: rest, table => relocateAll reseal src dst rest (relocate reseal (src i) (dst i) table)

/-- What was under `x` is under `y` now, as the same value, and nothing is under `x`. -/
def Relocated (same : V → V → Prop) (table after : K → Option V) (x y : K) : Prop :=
  after x = none ∧
    ((table x = none ∧ after y = none) ∨
      ∃ v v', table x = some v ∧ after y = some v' ∧ same v v')

/-- No entry that is present is moved onto a source. -/
def MovesApart (src dst : ι → K) (moves : List ι) (table : K → Option V) : Prop :=
  ∀ i ∈ moves, (table (src i)).isSome → ∀ j ∈ moves, dst i ≠ src j

variable {reseal : V → Option V} {src dst : ι → K} {moves : List ι} {table : K → Option V}

/-- A key that is neither end of a move is left alone. -/
theorem relocateAll_of_notMem {z : K} (hsrc : ∀ i ∈ moves, z ≠ src i)
    (hdst : ∀ i ∈ moves, z ≠ dst i) : relocateAll reseal src dst moves table z = table z := by
  induction moves generalizing table with
  | nil => rfl
  | cons i rest ih =>
    rw [List.forall_mem_cons] at hsrc hdst
    rw [relocateAll, ih hsrc.2 hdst.2, relocate, if_neg hsrc.1, if_neg (fun h ↦ hdst.1 h.1)]

/-- The first of several moves apart leaves the sources of the other ones as they are. -/
theorem relocate_source {i : ι} (hsrc : Function.Injective src) (hnodup : (i :: moves).Nodup)
    (h : MovesApart src dst (i :: moves) table) {j : ι} (hj : j ∈ moves) :
    relocate reseal (src i) (dst i) table (src j) = table (src j) := by
  have hji : src j ≠ src i := fun heq ↦ (List.nodup_cons.mp hnodup).1 (hsrc heq ▸ hj)
  rw [relocate, if_neg hji, if_neg]
  rintro ⟨heq, hsome⟩
  exact h i List.mem_cons_self hsome j (List.mem_cons_of_mem i hj) heq.symm

/-- The other moves are apart after the first one. -/
theorem MovesApart.tail {i : ι} (hsrc : Function.Injective src) (hnodup : (i :: moves).Nodup)
    (h : MovesApart src dst (i :: moves) table) :
    MovesApart src dst moves (relocate reseal (src i) (dst i) table) := by
  intro j hj hsome l hl
  rw [relocate_source hsrc hnodup h hj] at hsome
  exact h j (List.mem_cons_of_mem i hj) hsome l (List.mem_cons_of_mem i hl)

/-- An empty key that is the destination of no present entry stays empty. -/
theorem relocateAll_empty {z : K} (hsrc : Function.Injective src) (hnodup : moves.Nodup)
    (h : MovesApart src dst moves table) (hz : table z = none)
    (hdest : ∀ i ∈ moves, (table (src i)).isSome → z ≠ dst i) :
    relocateAll reseal src dst moves table z = none := by
  induction moves generalizing table with
  | nil => exact hz
  | cons i rest ih =>
    refine ih (List.nodup_cons.mp hnodup).2 (h.tail hsrc hnodup) ?_ fun j hj hsome ↦ ?_
    · rw [relocate]
      split
      · rfl
      · rw [if_neg, hz]
        rintro ⟨heq, hsome⟩
        exact hdest i List.mem_cons_self hsome heq
    · rw [relocate_source hsrc hnodup h hj] at hsome
      exact hdest j (List.mem_cons_of_mem i hj) hsome

/-- Moves apart empty their sources. -/
theorem relocateAll_source (hsrc : Function.Injective src) (hnodup : moves.Nodup)
    (h : MovesApart src dst moves table) {i : ι} (hi : i ∈ moves) :
    relocateAll reseal src dst moves table (src i) = none := by
  induction moves generalizing table with
  | nil => simp at hi
  | cons j rest ih =>
    have hrest := (List.nodup_cons.mp hnodup).2
    rw [relocateAll]
    rcases List.mem_cons.mp hi with rfl | hi
    · refine relocateAll_empty hsrc hrest (h.tail hsrc hnodup) (if_pos rfl) fun l hl hsome heq ↦ ?_
      rw [relocate_source hsrc hnodup h hl] at hsome
      exact h l (List.mem_cons_of_mem i hl) hsome i List.mem_cons_self heq.symm
    · exact ih hrest (h.tail hsrc hnodup) hi

/-- Moves apart write each present entry, resealed, under its destination. -/
theorem relocateAll_present (hsrc : Function.Injective src) (hdst : Function.Injective dst)
    (hne : ∀ i, src i ≠ dst i) (hnodup : moves.Nodup) (h : MovesApart src dst moves table) {i : ι}
    (hi : i ∈ moves) (hsome : (table (src i)).isSome) :
    relocateAll reseal src dst moves table (dst i) = (table (src i)).bind reseal := by
  induction moves generalizing table with
  | nil => simp at hi
  | cons j rest ih =>
    obtain ⟨hj, hrest⟩ := List.nodup_cons.mp hnodup
    rw [relocateAll]
    rcases List.mem_cons.mp hi with rfl | hi
    · have hdsts : ∀ l ∈ rest, dst i ≠ dst l := fun l hl heq ↦ hj (hdst heq ▸ hl)
      have hsrcs : ∀ l ∈ rest, dst i ≠ src l := fun l hl ↦
        h i List.mem_cons_self hsome l (List.mem_cons_of_mem i hl)
      rw [relocateAll_of_notMem hsrcs hdsts, relocate, if_neg (hne i).symm, if_pos ⟨rfl, hsome⟩]
    · have hkept : relocate reseal (src j) (dst j) table (src i) = table (src i) :=
        relocate_source hsrc hnodup h hi
      rw [ih hrest (h.tail hsrc hnodup) hi (by rwa [hkept]), hkept]

/-- Moves apart leave the destination of an absent entry, unless it is a source. -/
theorem relocateAll_absent (hsrc : Function.Injective src) (hdst : Function.Injective dst)
    (hnodup : moves.Nodup) (h : MovesApart src dst moves table) {i : ι} (hi : i ∈ moves)
    (hnone : table (src i) = none) (hother : ∀ j ∈ moves, dst i ≠ src j) :
    relocateAll reseal src dst moves table (dst i) = table (dst i) := by
  induction moves generalizing table with
  | nil => simp at hi
  | cons j rest ih =>
    obtain ⟨hj, hrest⟩ := List.nodup_cons.mp hnodup
    rw [List.forall_mem_cons] at hother
    rw [relocateAll]
    rcases List.mem_cons.mp hi with rfl | hi
    · have hdsts : ∀ l ∈ rest, dst i ≠ dst l := fun l hl heq ↦ hj (hdst heq ▸ hl)
      rw [relocateAll_of_notMem hother.2 hdsts, relocate, if_neg hother.1, if_neg (by simp [hnone])]
    · have hji : dst i ≠ dst j := fun heq ↦ hj (hdst heq ▸ hi)
      rw [ih hrest (h.tail hsrc hnodup) hi (by rw [relocate_source hsrc hnodup h hi, hnone])
        hother.2, relocate, if_neg hother.1, if_neg (fun hand ↦ hji hand.1)]

/-- A run of moves relocates every entry exactly when each entry that is present can be resealed
and goes to no source, and each destination of an absent one is empty or a source. -/
theorem relocated_iff (table : K → Option V) (moves : List ι) {same : V → V → Prop}
    (hreseal : ∀ v v', reseal v = some v' → same v v')
    (hsrc : Function.Injective src) (hdst : Function.Injective dst) (hne : ∀ i, src i ≠ dst i)
    (hnodup : moves.Nodup) :
    (∀ i ∈ moves,
        Relocated same table (relocateAll reseal src dst moves table) (src i) (dst i)) ↔
      ∀ i ∈ moves,
        ((table (src i)).isSome →
          ((table (src i)).bind reseal).isSome ∧ ∀ j ∈ moves, dst i ≠ src j) ∧
        (table (src i) = none → table (dst i) = none ∨ ∃ j ∈ moves, dst i = src j) := by
  constructor
  · intro h
    have hfree : MovesApart src dst moves table := by
      intro i hi hsome j hj heq
      rcases (h i hi).2 with ⟨hnone, -⟩ | ⟨v, v', -, hafter, -⟩
      · simp [hnone] at hsome
      · rw [heq, (h j hj).1] at hafter
        simp at hafter
    intro i hi
    refine ⟨fun hsome ↦ ⟨?_, hfree i hi hsome⟩, fun hnone ↦ ?_⟩
    · rcases (h i hi).2 with ⟨hnone, -⟩ | ⟨v, v', -, hafter, -⟩
      · simp [hnone] at hsome
      · rw [← relocateAll_present hsrc hdst hne hnodup hfree hi hsome, hafter]
        rfl
    · rcases (h i hi).2 with ⟨-, hafter⟩ | ⟨v, v', hvalue, -, -⟩
      · by_cases hsource : ∃ j ∈ moves, dst i = src j
        · exact .inr hsource
        · rw [relocateAll_absent hsrc hdst hnodup hfree hi hnone
            (fun j hj heq ↦ hsource ⟨j, hj, heq⟩)] at hafter
          exact .inl hafter
      · simp [hnone] at hvalue
  · intro h
    have hfree : MovesApart src dst moves table := fun i hi hsome ↦ ((h i hi).1 hsome).2
    intro i hi
    refine ⟨relocateAll_source hsrc hnodup hfree hi, ?_⟩
    cases hvalue : table (src i) with
    | none =>
      refine .inl ⟨rfl, ?_⟩
      by_cases hsource : ∃ j ∈ moves, dst i = src j
      · obtain ⟨j, hj, heq⟩ := hsource
        rw [heq, relocateAll_source hsrc hnodup hfree hj]
      · rw [relocateAll_absent hsrc hdst hnodup hfree hi hvalue
          (fun j hj heq ↦ hsource ⟨j, hj, heq⟩)]
        exact ((h i hi).2 hvalue).resolve_right hsource
    | some v =>
      have hsome : (table (src i)).isSome := by simp [hvalue]
      obtain ⟨v', hv'⟩ := Option.isSome_iff_exists.mp ((h i hi).1 hsome).1
      refine .inr ⟨v, v', rfl, ?_, hreseal v v' (by simpa [hvalue] using hv')⟩
      rw [relocateAll_present hsrc hdst hne hnodup hfree hi hsome, hv']

end LcpGateway.Base
