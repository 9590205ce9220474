import Mathlib.Data.List.Perm.Basic
import Mathlib.Data.Set.Lattice
import Mathlib.Order.FixedPoints
import Mathlib.Order.CompletePartialOrder

/-!
# Scheduling by readiness

Library `Base`. Items wait until what they need is done; passes over the waiting items do those
that are enabled, until a pass does nothing. When being enabled is monotone in what is done, the
items done are the least set closed under being enabled, whatever the order in which they waited,
and every item was enabled by the ones before it.
-/

namespace LcpGateway.Base

universe u

/-- When an item may be done, given the items that are done: as a relation on sets, and as the
test of a list. -/
structure Readiness (α : Type u) where
  Enabled : Set α → α → Prop
  mono : ∀ {S T : Set α} {x : α}, S ⊆ T → Enabled S x → Enabled T x
  enabled : List α → α → Bool
  enabled_iff : ∀ (done : List α) (x : α), enabled done x = true ↔ Enabled {y | y ∈ done} x

namespace Readiness

variable {α : Type u} (R : Readiness α)

/-- One pass over the waiting items: the items done after it, and those that still wait. -/
def sweep : List α → List α → List α × List α
  | done, [] => (done, [])
  | done, x :: rest =>
    if R.enabled done x then sweep (done ++ [x]) rest
    else ((sweep done rest).1, x :: (sweep done rest).2)

/-- At most `n` passes, up to one that does nothing. -/
def schedule : Nat → List α → List α → List α × List α
  | 0, done, waiting => (done, waiting)
  | n + 1, done, waiting =>
    if (R.sweep done waiting).2.length < waiting.length then
      schedule n (R.sweep done waiting).1 (R.sweep done waiting).2
    else R.sweep done waiting

/-- Every item is enabled by the items before it. -/
inductive Ordered : List α → Prop
  | nil : Ordered []
  | snoc {done : List α} {x : α} : Ordered done → R.enabled done x = true → Ordered (done ++ [x])

/-- A set that has every item it enables. -/
def Closed (items S : Set α) : Prop := ∀ x ∈ items, R.Enabled S x → x ∈ S

/-- The items that a set enables. -/
def enables (items : Set α) : Set α →o Set α where
  toFun S := {x | x ∈ items ∧ R.Enabled S x}
  monotone' _ _ hST _ hx := ⟨hx.1, R.mono hST hx.2⟩

/-- Closed sets are those that contain what they enable. -/
theorem closed_iff (items S : Set α) : R.Closed items S ↔ R.enables items S ≤ S :=
  ⟨fun h x hx ↦ h x hx.1 hx.2, fun h _ hx henabled ↦ h ⟨hx, henabled⟩⟩

/-! ## One pass -/

/-- A pass moves items from waiting to done. -/
theorem sweep_perm (done waiting : List α) :
    ((R.sweep done waiting).1 ++ (R.sweep done waiting).2).Perm (done ++ waiting) := by
  induction waiting generalizing done with
  | nil => simp [sweep]
  | cons x rest ih =>
    unfold sweep
    split
    · simpa using ih (done ++ [x])
    · exact List.perm_middle.trans (((ih done).cons x).trans List.perm_middle.symm)

/-- A pass keeps the order sound. -/
theorem sweep_ordered {done : List α} (waiting : List α) (h : R.Ordered done) :
    R.Ordered (R.sweep done waiting).1 := by
  induction waiting generalizing done with
  | nil => exact h
  | cons x rest ih =>
    unfold sweep
    split
    · next henabled => exact ih (h.snoc henabled)
    · exact ih h

/-- A pass leaves at most what was waiting. -/
theorem sweep_length_le (done waiting : List α) :
    (R.sweep done waiting).2.length ≤ waiting.length := by
  induction waiting generalizing done with
  | nil => exact le_refl _
  | cons x rest ih =>
    unfold sweep
    split
    · exact (ih _).trans (Nat.le_succ _)
    · exact Nat.succ_le_succ (ih done)

/-- A pass that moved nothing changed nothing, and enabled none of the waiting items. -/
theorem sweep_idle {done waiting : List α}
    (h : ¬ (R.sweep done waiting).2.length < waiting.length) :
    R.sweep done waiting = (done, waiting) ∧ ∀ x ∈ waiting, R.enabled done x = false := by
  induction waiting generalizing done with
  | nil => exact ⟨rfl, by simp⟩
  | cons x rest ih =>
    unfold sweep at h ⊢
    split at h
    · have hle := R.sweep_length_le (done ++ [x]) rest
      simp only [List.length_cons] at h
      omega
    · next hx =>
      simp only [List.length_cons, Nat.add_lt_add_iff_right] at h
      obtain ⟨heq, hrest⟩ := ih h
      rw [if_neg hx, heq]
      exact ⟨rfl, List.forall_mem_cons.mpr ⟨by simpa using hx, hrest⟩⟩

/-! ## Passes to the end -/

/-- The passes move items from waiting to done. -/
theorem schedule_perm (n : Nat) (done waiting : List α) :
    ((R.schedule n done waiting).1 ++ (R.schedule n done waiting).2).Perm (done ++ waiting) := by
  induction n generalizing done waiting with
  | zero => exact List.Perm.refl _
  | succ n ih =>
    unfold schedule
    split
    · exact (ih _ _).trans (R.sweep_perm done waiting)
    · exact R.sweep_perm done waiting

/-- The passes keep the order sound. -/
theorem schedule_ordered (n : Nat) {done : List α} (waiting : List α) (h : R.Ordered done) :
    R.Ordered (R.schedule n done waiting).1 := by
  induction n generalizing done waiting with
  | zero => exact h
  | succ n ih =>
    unfold schedule
    split
    · exact ih _ (R.sweep_ordered waiting h)
    · exact R.sweep_ordered waiting h

/-- As many passes as items are enough: none of those that still wait is enabled. -/
theorem schedule_settled {n : Nat} {done waiting : List α} (hn : waiting.length ≤ n) :
    ∀ x ∈ (R.schedule n done waiting).2, R.enabled (R.schedule n done waiting).1 x = false := by
  induction n generalizing done waiting with
  | zero =>
    obtain rfl := List.length_eq_zero_iff.mp (Nat.le_zero.mp hn)
    simp [schedule]
  | succ n ih =>
    unfold schedule
    split
    · next hprogress => exact ih (by omega)
    · next hidle =>
      obtain ⟨heq, hwait⟩ := R.sweep_idle hidle
      rw [heq]
      exact hwait

variable {R}

/-- An ordered list of items stays within every closed set. -/
theorem Ordered.subset_closed {done : List α} (h : R.Ordered done) {items S : Set α}
    (hitems : ∀ x ∈ done, x ∈ items) (hS : R.Closed items S) : ∀ x ∈ done, x ∈ S := by
  induction h with
  | nil => simp
  | @snoc done x _ henabled ih =>
    have hdone : ∀ y ∈ done, y ∈ S := ih fun y hy ↦ hitems y (List.mem_append_left _ hy)
    have hx : x ∈ S :=
      hS x (hitems x (by simp)) (R.mono hdone ((R.enabled_iff done x).mp henabled))
    intro y hy
    rcases List.mem_append.mp hy with hy | hy
    · exact hdone y hy
    · obtain rfl := List.mem_singleton.mp hy
      exact hx

/-- What stands before an item of an ordered list enables it. -/
theorem Ordered.enabled_of_append {done : List α} (h : R.Ordered done) {before after : List α}
    {x : α} (heq : done = before ++ x :: after) : R.Enabled {y | y ∈ before} x := by
  induction h generalizing after with
  | nil => simp at heq
  | @snoc done y _ henabled ih =>
    rcases List.eq_nil_or_concat after with rfl | ⟨after', z, rfl⟩
    · obtain ⟨rfl, hxy⟩ := List.append_inj' heq rfl
      obtain rfl := List.singleton_inj.mp hxy
      exact (R.enabled_iff _ _).mp henabled
    · have heq' : done ++ [y] = (before ++ x :: after') ++ [z] := by simpa using heq
      exact ih (List.append_inj' heq' rfl).1

variable (R)

/-- What the passes do is the least closed set. -/
theorem schedule_isLeast (items : List α) :
    IsLeast {S | R.Closed {x | x ∈ items} S}
      {x | x ∈ (R.schedule items.length [] items).1} := by
  have hperm := R.schedule_perm items.length [] items
  constructor
  · intro x hx henabled
    rcases List.mem_append.mp (hperm.mem_iff.mpr hx) with hdone | hwait
    · exact hdone
    · have hidle := R.schedule_settled (le_refl items.length) x hwait
      rw [(R.enabled_iff _ x).mpr henabled] at hidle
      simp at hidle
  · intro S hS x hx
    exact (R.schedule_ordered _ items .nil).subset_closed
      (fun y hy ↦ hperm.mem_iff.mp (List.mem_append_left _ hy)) hS x hx

/-- The least closed set is the least fixed point of what a set enables. -/
theorem schedule_eq_lfp (items : List α) :
    {x | x ∈ (R.schedule items.length [] items).1} = (R.enables {x | x ∈ items}).lfp := by
  refine (R.schedule_isLeast items).unique ?_
  have hleast := (R.enables {x | x ∈ items}).isLeast_lfp_le
  simpa only [closed_iff] using hleast

end Readiness
end LcpGateway.Base
