import LcpGateway.Base.Dict
import Mathlib.Data.List.Sort

/-!
# Logs kept as rows of a table

Library `Base`. A table whose rows are unique in an owner and a position holds one log
for each owner: the rows of the owner in the order of their positions. `Owns` says which
log a table holds, position by position; reading, writing and every law about them go
through it. `commonPrefix` is the length of the part two sequences agree on from the start.
-/

namespace LcpGateway.Base

universe u

section CommonPrefix

variable {α : Type u} [DecidableEq α]

/-- The length of the longest common prefix of two lists. -/
def commonPrefix : List α → List α → Nat
  | x :: xs, y :: ys => if x = y then commonPrefix xs ys + 1 else 0
  | _, _ => 0

/-- The common prefix is no longer than the second list. -/
theorem commonPrefix_le (xs ys : List α) : commonPrefix xs ys ≤ ys.length := by
  induction xs generalizing ys with
  | nil => simp [commonPrefix]
  | cons x xs ih =>
    cases ys with
    | nil => simp [commonPrefix]
    | cons y ys =>
      have := ih ys
      by_cases hxy : x = y
      · simp [commonPrefix, hxy, this]
      · simp [commonPrefix, hxy]

/-- The common prefix does not depend on which list comes first. -/
theorem commonPrefix_comm (xs ys : List α) : commonPrefix xs ys = commonPrefix ys xs := by
  induction xs generalizing ys with
  | nil => cases ys <;> rfl
  | cons x xs ih =>
    cases ys with
    | nil => rfl
    | cons y ys => simp only [commonPrefix, ih ys, eq_comm]

/-- All of the second list is shared exactly when it is a prefix of the first. -/
theorem commonPrefix_eq_length_iff (xs ys : List α) :
    commonPrefix xs ys = ys.length ↔ ys <+: xs := by
  induction xs generalizing ys with
  | nil => cases ys <;> simp [commonPrefix]
  | cons x xs ih =>
    cases ys with
    | nil => simp [commonPrefix]
    | cons y ys =>
      by_cases hxy : x = y
      · simp [commonPrefix, hxy, ih ys, List.cons_prefix_cons]
      · simp [commonPrefix, hxy, List.cons_prefix_cons, Ne.symm hxy]

/-- A list that extends the first one shares all of it. -/
theorem commonPrefix_eq_left {xs ys : List α} (h : xs <+: ys) :
    commonPrefix xs ys = xs.length := by
  rw [commonPrefix_comm, commonPrefix_eq_length_iff]
  exact h

/-- Appending what a list does not share with another one makes it a prefix of the result
exactly when one of the two extends the other. -/
theorem prefix_append_drop_iff (xs ys : List α) :
    ys <+: xs ++ ys.drop (commonPrefix xs ys) ↔ xs <+: ys ∨ ys <+: xs := by
  constructor
  · intro h
    exact List.prefix_or_prefix_of_prefix (List.prefix_append xs _) h
  · rintro (h | h)
    · rw [commonPrefix_eq_left h]
      obtain ⟨rest, rfl⟩ := h
      exact ⟨[], by rw [List.append_nil, List.drop_left]⟩
    · exact h.trans (List.prefix_append xs _)

omit [DecidableEq α] in
/-- A list survives having its front overwritten by another one exactly when one of the two
extends the other. -/
theorem prefix_overwrite_iff (xs ys : List α) :
    xs <+: ys ++ xs.drop ys.length ↔ xs <+: ys ∨ ys <+: xs := by
  constructor
  · intro h
    exact List.prefix_or_prefix_of_prefix h (List.prefix_append ys _)
  · rintro (h | h)
    · exact h.trans (List.prefix_append ys _)
    · obtain ⟨rest, rfl⟩ := h
      exact ⟨[], by rw [List.append_nil, List.drop_left]⟩

end CommonPrefix

section Log

variable {K V : Type} [DecidableEq K]

/-- The rows of `k` with their positions, in ascending order. -/
def numbered (t : Dict (K × Nat) V) (k : K) : List (Nat × V) :=
  (t.entries.filterMap (fun e ↦ if e.1.1 = k then some (e.1.2, e.2) else none)).insertionSort
    (fun a b ↦ a.1 ≤ b.1)

/-- The rows of `k` in ascending order. -/
def log (t : Dict (K × Nat) V) (k : K) : List V := (numbered t k).map Prod.snd

/-- The rows written one after another at the positions from `n` on, an occupied position
being overwritten. -/
def writeFrom (t : Dict (K × Nat) V) (k : K) (n : Nat) : List V → Dict (K × Nat) V
  | [] => t
  | v :: vs => writeFrom (t.set (k, n) v) k (n + 1) vs

/-- The rows of `k` are `xs`, at the positions `0 … xs.length - 1`. -/
def Owns (t : Dict (K × Nat) V) (k : K) (xs : List V) : Prop := ∀ n, t.get? (k, n) = xs[n]?

private def fstLt (a b : Nat × V) : Prop := a.1 < b.1

/-- The numbered rows are the rows lookup finds. -/
theorem mem_numbered_iff (t : Dict (K × Nat) V) (k : K) (n : Nat) (v : V) :
    (n, v) ∈ numbered t k ↔ t.get? (k, n) = some v := by
  rw [numbered, List.mem_insertionSort, List.mem_filterMap, ← Dict.mem_entries_iff]
  constructor
  · rintro ⟨⟨⟨k', m⟩, w⟩, hmem, he⟩
    by_cases hk : k' = k
    · simp only [hk, if_pos, Option.some.injEq, Prod.mk.injEq] at he
      obtain ⟨rfl, rfl⟩ := he
      exact hk ▸ hmem
    · simp [hk] at he
  · intro hmem
    exact ⟨_, hmem, by simp⟩

private theorem numbered_pairwise (t : Dict (K × Nat) V) (k : K) :
    (numbered t k).Pairwise fstLt := by
  have hsorted : (numbered t k).Pairwise (fun a b ↦ a.1 ≤ b.1) :=
    List.pairwise_insertionSort _ _
  have hnodup : (numbered t k).Pairwise (fun a b ↦ a.1 ≠ b.1) := by
    have hkeys : t.entries.Pairwise (fun a b ↦ a.1 ≠ b.1) := List.pairwise_map.mp t.nodup
    refine ((List.perm_insertionSort _ _).pairwise_iff (fun h ↦ Ne.symm h)).mpr ?_
    rw [List.pairwise_filterMap]
    refine hkeys.imp ?_
    intro a b hab x hx y hy hxy
    split at hx
    · next hka =>
      split at hy
      · next hkb =>
        simp only [Option.some.injEq] at hx hy
        subst hx hy
        exact hab (Prod.ext (hka.trans hkb.symm) hxy)
      · simp at hy
    · simp at hx
  exact (hsorted.and hnodup).imp (fun h ↦ lt_of_le_of_ne h.1 h.2)

private theorem eq_of_mem_iff {xs ys : List (Nat × V)} (hx : xs.Pairwise fstLt)
    (hy : ys.Pairwise fstLt) (hmem : ∀ p, p ∈ xs ↔ p ∈ ys) : xs = ys := by
  have hnodup : ∀ {zs : List (Nat × V)}, zs.Pairwise fstLt → zs.Nodup := by
    intro zs hz
    apply hz.imp
    intro a b hab he
    subst b
    exact Nat.lt_irrefl a.1 hab
  exact List.Perm.eq_of_pairwise
    (fun _ _ _ _ hab hba ↦ absurd hab (Nat.lt_asymm hba)) hx hy
    ((List.perm_ext_iff_of_nodup (hnodup hx) (hnodup hy)).mpr hmem)

private theorem zipIdx_swap_pairwise (xs : List V) (n : Nat) :
    ((xs.zipIdx n).map Prod.swap).Pairwise fstLt := by
  induction xs generalizing n with
  | nil => simp
  | cons x xs ih =>
    rw [List.zipIdx_cons, List.map_cons, List.pairwise_cons]
    refine ⟨?_, ih (n + 1)⟩
    intro p hp
    obtain ⟨q, hq, rfl⟩ := List.mem_map.mp hp
    exact Nat.lt_of_succ_le (List.le_snd_of_mem_zipIdx hq)

namespace Owns

variable {t : Dict (K × Nat) V} {k k' : K} {xs ys : List V}

/-- The numbered rows of a log. -/
theorem numbered_eq (h : Owns t k xs) : numbered t k = xs.zipIdx.map Prod.swap := by
  refine eq_of_mem_iff (numbered_pairwise t k) (zipIdx_swap_pairwise xs 0) ?_
  rintro ⟨n, v⟩
  rw [mem_numbered_iff, h n, List.mem_map]
  constructor
  · intro hn
    exact ⟨(v, n), List.mk_mem_zipIdx_iff_getElem?.mpr hn, rfl⟩
  · rintro ⟨⟨w, m⟩, hmem, he⟩
    obtain ⟨rfl, rfl⟩ : m = n ∧ w = v := by simpa using he
    exact List.mk_mem_zipIdx_iff_getElem?.mp hmem

/-- The log read is the log held. -/
theorem log_eq (h : Owns t k xs) : log t k = xs := by
  rw [log, h.numbered_eq, List.map_map]
  simp [Function.comp_def, List.zipIdx_map_fst]

/-- Overwriting one row of a log, or appending one. -/
theorem set (h : Owns t k xs) {n : Nat} (hn : n ≤ xs.length) (v : V) :
    Owns (t.set (k, n) v) k (xs.take n ++ v :: xs.drop (n + 1)) := by
  intro m
  rw [Dict.get?_set, h m]
  rcases Nat.lt_trichotomy m n with hm | hm | hm
  · rw [if_neg (by simp; omega), List.getElem?_append_left (by simp; omega),
      List.getElem?_take_of_lt hm]
  · subst hm
    rw [if_pos rfl, List.getElem?_append_right (by simp)]
    simp [Nat.min_eq_left hn]
  · rw [if_neg (by simp; omega), List.getElem?_append_right (by simp; omega)]
    obtain ⟨d, rfl⟩ : ∃ d, m = n + 1 + d := ⟨m - (n + 1), by omega⟩
    have hd : n + 1 + d - (xs.take n).length = d + 1 := by
      rw [List.length_take]
      omega
    rw [hd, List.getElem?_cons_succ, List.getElem?_drop]

/-- Writing rows of one owner leaves the log of another alone. -/
theorem set_of_ne (h : Owns t k xs) (hk : k' ≠ k) (n : Nat) (v : V) :
    Owns (t.set (k', n) v) k xs := by
  intro m
  rw [Dict.get?_set, if_neg (by simp [hk]), h m]

/-- Writing rows from a position on that is not past the end replaces the rows there. -/
theorem writeFrom (h : Owns t k xs) {n : Nat} (hn : n ≤ xs.length) (vs : List V) :
    Owns (writeFrom t k n vs) k (xs.take n ++ vs ++ xs.drop (n + vs.length)) := by
  induction vs generalizing t xs n with
  | nil => simpa [Base.writeFrom] using h
  | cons v vs ih =>
    have hlen : (xs.take n).length = n := List.length_take_of_le hn
    have hnext := ih (h.set hn v) (n := n + 1) (by simp; omega)
    have htake : (xs.take n ++ v :: xs.drop (n + 1)).take (n + 1) = xs.take n ++ [v] := by
      rw [List.take_append, hlen, List.take_of_length_le (by omega)]
      simp
    have hdrop : (xs.take n ++ v :: xs.drop (n + 1)).drop (n + 1 + vs.length) =
        xs.drop (n + (v :: vs).length) := by
      rw [List.drop_append, hlen, List.drop_of_length_le (by omega)]
      have hsub : n + 1 + vs.length - n = vs.length + 1 := by omega
      rw [hsub, List.drop_succ_cons, List.drop_drop]
      simp only [List.nil_append, List.length_cons]
      congr 1
      omega
    rw [htake, hdrop] at hnext
    simpa [Base.writeFrom] using hnext

/-- Writing the rows of one owner leaves the log of another alone. -/
theorem writeFrom_of_ne (h : Owns t k xs) (hk : k' ≠ k) (n : Nat) (vs : List V) :
    Owns (Base.writeFrom t k' n vs) k xs := by
  induction vs generalizing t n with
  | nil => exact h
  | cons v vs ih => exact ih (h.set_of_ne hk n v) (n + 1)

/-- Writing at the end appends. -/
theorem append (h : Owns t k xs) (vs : List V) :
    Owns (Base.writeFrom t k xs.length vs) k (xs ++ vs) := by
  have := h.writeFrom (Nat.le_refl _) vs
  simpa [List.drop_of_length_le] using this

end Owns

/-- The rows found from a position on. -/
theorem Owns.found_iff {t : Dict (K × Nat) V} {k : K} {xs : List V} (h : Owns t k xs) (n : Nat)
    (vs : List V) :
    (∀ i v, vs[i]? = some v → t.get? (k, n + i) = some v) ↔ vs <+: xs.drop n := by
  rw [List.prefix_iff_getElem?]
  constructor
  · intro hfound i hi
    rw [List.getElem?_drop, ← h (n + i)]
    exact hfound i _ (List.getElem?_eq_getElem hi)
  · intro hprefix i v hv
    obtain ⟨hi, rfl⟩ := List.getElem?_eq_some_iff.mp hv
    rw [h (n + i), ← List.getElem?_drop]
    exact hprefix i hi

/-- A table that holds a log holds the one that is read. -/
theorem owns_log {t : Dict (K × Nat) V} {k : K} (h : ∃ xs, Owns t k xs) : Owns t k (log t k) := by
  obtain ⟨xs, hxs⟩ := h
  rw [hxs.log_eq]
  exact hxs

/-- The empty table holds the empty log of every owner. -/
theorem owns_empty (k : K) : Owns (Dict.empty : Dict (K × Nat) V) k [] := by
  intro n
  simp

end Log
end LcpGateway.Base
