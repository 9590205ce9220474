import Mathlib.Algebra.Order.Group.Defs
import Mathlib.Logic.Relation

/-!
# Bursts

Library `Base`. Rows with a key and a time fall into bursts: two rows belong together when their
keys agree and rows of that key lie between them without a gap above a bound. A burst is led by its
first row. One pass over the sorted rows finds the leader of every row, and rows handled in batches
get the leaders they would get at once exactly when no batch starts a burst that another one began.
-/

namespace LcpGateway.Base

universe u v w

/-- The key and the time of a row, and the bound on the gaps within a burst. -/
structure Spacing (α : Type u) (κ : Type v) (T : Type w) [AddCommGroup T] [LinearOrder T] where
  key : α → κ
  time : α → T
  gap : T
  gap_nonneg : 0 ≤ gap

namespace Spacing

variable {α : Type u} {κ : Type v} {T : Type w} [AddCommGroup T] [LinearOrder T]
variable (p : Spacing α κ T)

/-- Rows of one key at most one gap apart. -/
structure Near (a b : α) : Prop where
  key : p.key a = p.key b
  left : p.time a ≤ p.time b + p.gap
  right : p.time b ≤ p.time a + p.gap

/-- Rows connected by near rows of a list. -/
def Linked (rows : List α) : α → α → Prop :=
  Relation.ReflTransGen (fun a b ↦ a ∈ rows ∧ b ∈ rows ∧ p.Near a b)

/-- The second row continues the first one. -/
structure Precedes (y x : α) : Prop where
  key : p.key y = p.key x
  earlier : p.time y < p.time x
  close : p.time x ≤ p.time y + p.gap

/-- A row of the burst that continues no row. -/
structure Leads (rows : List α) (head x : α) : Prop where
  mem : head ∈ rows
  linked : p.Linked rows head x
  first : ∀ z ∈ rows, ¬ p.Precedes z head

variable {p} {rows rows' : List α} {a b x y head head' : α}

/-- Nearness does not depend on which row comes first. -/
theorem Near.symm (h : p.Near a b) : p.Near b a := ⟨h.key.symm, h.right, h.left⟩

namespace Linked

/-- Links lead back. -/
theorem symm (h : p.Linked rows a b) : p.Linked rows b a := by
  induction h with
  | refl => exact .refl
  | tail _ hstep ih => exact .head ⟨hstep.2.1, hstep.1, hstep.2.2.symm⟩ ih

/-- More rows link more. -/
theorem mono (hrows : ∀ z ∈ rows, z ∈ rows') (h : p.Linked rows a b) : p.Linked rows' a b :=
  Relation.ReflTransGen.mono (fun _ _ h ↦ ⟨hrows _ h.1, hrows _ h.2.1, h.2.2⟩) _ _ h

/-- Linked rows have one key. -/
theorem key_eq (h : p.Linked rows a b) : p.key a = p.key b := by
  induction h with
  | refl => rfl
  | tail _ hstep ih => exact ih.trans hstep.2.2.key

/-- A chain of rows that passes the time of a row of its key passes a row that precedes it. -/
theorem exists_precedes (h : p.Linked rows a x) (hkey : p.key a = p.key b)
    (hlt : p.time a < p.time b) (hle : p.time b ≤ p.time x) : ∃ z ∈ rows, p.Precedes z b := by
  induction h with
  | refl => exact absurd hle (not_le.mpr hlt)
  | @tail c x hchain hstep ih =>
    by_cases hc : p.time b ≤ p.time c
    · exact ih hc
    · have hkey' : p.key c = p.key b := (key_eq hchain).symm.trans hkey
      exact ⟨c, hstep.1, hkey', not_le.mp hc, hle.trans hstep.2.2.right⟩

end Linked

namespace Leads

/-- The row led is one of the rows. -/
theorem mem_right (h : p.Leads rows head x) : x ∈ rows := by
  rcases h.linked.cases_tail with heq | ⟨z, -, hstep⟩
  · exact heq ▸ h.mem
  · exact hstep.2.1

/-- The leader is not later than the rows it leads. -/
theorem time_le (h : p.Leads rows head x) : p.time head ≤ p.time x := by
  by_contra hlt
  obtain ⟨z, hz, hprecedes⟩ :=
    h.linked.symm.exists_precedes h.linked.key_eq.symm (not_le.mp hlt) le_rfl
  exact h.first z hz hprecedes

/-- The leaders of linked rows have one time. -/
theorem time_eq (h : p.Leads rows head x) (h' : p.Leads rows head' y)
    (hlinked : p.Linked rows x y) : p.time head = p.time head' := by
  have hchain : p.Linked rows head head' := (h.linked.trans hlinked).trans h'.linked.symm
  refine le_antisymm (not_lt.mp fun hlt ↦ ?_) (not_lt.mp fun hlt ↦ ?_)
  · obtain ⟨z, hz, hprecedes⟩ := hchain.symm.exists_precedes hchain.key_eq.symm hlt le_rfl
    exact h.first z hz hprecedes
  · obtain ⟨z, hz, hprecedes⟩ := hchain.exists_precedes hchain.key_eq hlt le_rfl
    exact h'.first z hz hprecedes

/-- More rows that leave the leader without a predecessor. -/
theorem mono (h : p.Leads rows head x) (hrows : ∀ z ∈ rows, z ∈ rows')
    (hfirst : ∀ z ∈ rows', ¬ p.Precedes z head) : p.Leads rows' head x :=
  ⟨hrows _ h.mem, h.linked.mono hrows, hfirst⟩

end Leads

/-! ## One pass over sorted rows -/

section Pass

variable [LinearOrder κ] (p)

/-- The row starts a burst behind the one before it. -/
def starts (prev x : α) : Bool := p.key prev ≠ p.key x ∨ p.gap < p.time x - p.time prev

/-- The rows behind a row with its leader, each with its own. -/
def leadersFrom (prev head : α) : List α → List (α × α)
  | [] => []
  | x :: rest =>
    if p.starts prev x then (x, x) :: leadersFrom x x rest else (x, head) :: leadersFrom x head rest

/-- The rows with their leaders. -/
def leaders : List α → List (α × α)
  | [] => []
  | x :: rest => (x, x) :: p.leadersFrom x x rest

/-- The order of the pass: by key, then by time. -/
def Before (a b : α) : Prop := p.key a < p.key b ∨ p.key a = p.key b ∧ p.time a ≤ p.time b

/-- The pass goes over every row. -/
@[simp] theorem map_fst_leadersFrom (prev head : α) (rows : List α) :
    (p.leadersFrom prev head rows).map Prod.fst = rows := by
  induction rows generalizing prev head with
  | nil => rfl
  | cons x rest ih =>
    rw [leadersFrom]
    split <;> rw [List.map_cons, ih]

/-- The pass goes over every row. -/
@[simp] theorem map_fst_leaders (rows : List α) : (p.leaders rows).map Prod.fst = rows := by
  cases rows with
  | nil => rfl
  | cons x rest => rw [leaders, List.map_cons, map_fst_leadersFrom]

variable [IsOrderedAddMonoid T] {p}

/-- A row that starts a burst leads it. -/
private theorem leads_of_starts {before after : List α} {prev : α}
    (hsorted : (before ++ prev :: x :: after).Pairwise p.Before) (h : p.starts prev x = true) :
    p.Leads (before ++ prev :: x :: after) x x := by
  obtain ⟨-, htail, hcross⟩ := List.pairwise_append.mp hsorted
  obtain ⟨hprev, hx⟩ := List.pairwise_cons.mp htail
  have hxprev : p.Before prev x := hprev x List.mem_cons_self
  refine ⟨by simp, .refl, fun z hz hprecedes ↦ ?_⟩
  -- a row of the same key before `x` is not later than `prev`
  have hz' : p.key z = p.key prev ∧ p.time z ≤ p.time prev ∨ p.key z < p.key prev ∨
      p.Before x z ∨ z = x := by
    rcases List.mem_append.mp hz with hz | hz
    · rcases hcross z hz prev List.mem_cons_self with hlt | hle
      · exact .inr (.inl hlt)
      · exact .inl hle
    · rcases List.mem_cons.mp hz with rfl | hz
      · exact .inl ⟨rfl, le_rfl⟩
      · rcases List.mem_cons.mp hz with rfl | hz
        · exact .inr (.inr (.inr rfl))
        · exact .inr (.inr (.inl ((List.pairwise_cons.mp hx).1 z hz)))
  rcases hz' with ⟨hkey, htime⟩ | hlt | hafter | rfl
  · rw [starts, decide_eq_true_eq] at h
    rcases h with hne | hgap
    · exact hne (hkey.symm.trans hprecedes.key)
    · have hle := hprecedes.close.trans (add_le_add_left htime p.gap)
      exact absurd (sub_le_iff_le_add'.mpr hle) (not_le.mpr hgap)
  · rcases hxprev with hkey | ⟨hkey, -⟩
    · exact (hlt.trans hkey).ne hprecedes.key
    · exact (hlt.trans_eq hkey).ne hprecedes.key
  · rcases hafter with hlt | ⟨-, hle⟩
    · exact hlt.ne hprecedes.key.symm
    · exact not_lt.mpr hle hprecedes.earlier
  · exact lt_irrefl _ hprecedes.earlier

/-- A row that starts no burst is led by the leader of the row before it. -/
private theorem leads_of_not_starts {before after : List α} {prev : α}
    (hsorted : (before ++ prev :: x :: after).Pairwise p.Before)
    (h : p.starts prev x = false) (hprev : p.Leads (before ++ prev :: x :: after) head prev) :
    p.Leads (before ++ prev :: x :: after) head x := by
  have hxprev : p.Before prev x :=
    (List.pairwise_cons.mp (List.pairwise_append.mp hsorted).2.1).1 x List.mem_cons_self
  rw [starts, decide_eq_false_iff_not, not_or, not_not, not_lt] at h
  obtain ⟨hkey, hgap⟩ := h
  have htime : p.time prev ≤ p.time x := by
    rcases hxprev with hlt | ⟨-, hle⟩
    · exact absurd hkey hlt.ne
    · exact hle
  have hnear : p.Near prev x :=
    ⟨hkey, htime.trans (le_add_of_nonneg_right p.gap_nonneg), sub_le_iff_le_add'.mp hgap⟩
  exact ⟨hprev.mem, hprev.linked.tail ⟨by simp, by simp, hnear⟩, hprev.first⟩

private theorem leads_of_mem_leadersFrom (before : List α) {rest : List α} {prev : α}
    (hsorted : (before ++ prev :: rest).Pairwise p.Before)
    (hprev : p.Leads (before ++ prev :: rest) head prev) :
    ∀ q ∈ p.leadersFrom prev head rest, p.Leads (before ++ prev :: rest) q.2 q.1 := by
  induction rest generalizing before prev head with
  | nil => simp [leadersFrom]
  | cons x rest ih =>
    have hsplit : before ++ prev :: x :: rest = (before ++ [prev]) ++ x :: rest := by simp
    have hnext : ∀ k, p.Leads (before ++ prev :: x :: rest) k x →
        ∀ q ∈ (x, k) :: p.leadersFrom x k rest, p.Leads (before ++ prev :: x :: rest) q.2 q.1 := by
      intro k hk
      rw [List.forall_mem_cons]
      refine ⟨hk, ?_⟩
      rw [hsplit] at hsorted hk ⊢
      exact ih (before ++ [prev]) hsorted hk
    rw [leadersFrom]
    cases hstarts : p.starts prev x with
    | true => exact hnext x (leads_of_starts hsorted hstarts)
    | false => exact hnext head (leads_of_not_starts hsorted hstarts hprev)

/-- On sorted rows the pass gives every row the leader of its burst. -/
theorem leads_of_mem_leaders {rows : List α} (hsorted : rows.Pairwise p.Before) :
    ∀ q ∈ p.leaders rows, p.Leads rows q.2 q.1 := by
  cases rows with
  | nil => simp [leaders]
  | cons x rest =>
    have hx : p.Leads (x :: rest) x x := by
      refine ⟨List.mem_cons_self, .refl, fun z hz hprecedes ↦ ?_⟩
      rcases List.mem_cons.mp hz with rfl | hz
      · exact lt_irrefl _ hprecedes.earlier
      · rcases (List.pairwise_cons.mp hsorted).1 z hz with hlt | ⟨-, hle⟩
        · exact hlt.ne hprecedes.key.symm
        · exact not_lt.mpr hle hprecedes.earlier
    rw [leaders, List.forall_mem_cons]
    exact ⟨hx, leads_of_mem_leadersFrom [] hsorted hx⟩

end Pass

/-! ## Rows in batches -/

section Batches

variable (p)

/-- No batch starts a burst at a row that continues a row of another batch. -/
def Unsplit (batches : List (List α)) : Prop :=
  ∀ batch ∈ batches, ∀ x ∈ batch, (∃ y ∈ batches.flatten, p.Precedes y x) →
    ∃ z ∈ batch, p.Precedes z x

variable {p} {batches : List (List α)} {batch batch' : List α}

/-- Leaders within the batches lead among all rows when no burst is split. -/
theorem Leads.flatten (hunsplit : p.Unsplit batches) (hbatch : batch ∈ batches)
    (h : p.Leads batch head x) : p.Leads batches.flatten head x := by
  refine h.mono (fun z hz ↦ List.mem_flatten.mpr ⟨batch, hbatch, hz⟩) fun y hy hprecedes ↦ ?_
  obtain ⟨z, hz, hprecedes'⟩ := hunsplit batch hbatch head h.mem ⟨y, hy, hprecedes⟩
  exact h.first z hz hprecedes'

/-- When linked rows have leaders of one time in their batches, no burst is split. -/
theorem unsplit_of_time_eq [IsOrderedAddMonoid T]
    (leader : ∀ batch ∈ batches, ∀ x ∈ batch, ∃ h, p.Leads batch h x)
    (h : ∀ batch ∈ batches, ∀ batch' ∈ batches, ∀ x y head head', p.Leads batch head x →
      p.Leads batch' head' y → p.Linked batches.flatten x y → p.time head = p.time head') :
    p.Unsplit batches := by
  rintro batch hbatch x hx ⟨y, hy, hprecedes⟩
  obtain ⟨batch', hbatch', hy'⟩ := List.mem_flatten.mp hy
  obtain ⟨head, hhead⟩ := leader batch hbatch x hx
  obtain ⟨head', hhead'⟩ := leader batch' hbatch' y hy'
  have hx' : x ∈ batches.flatten := List.mem_flatten.mpr ⟨batch, hbatch, hx⟩
  have hnear : p.Near x y := ⟨hprecedes.key.symm, hprecedes.close,
    hprecedes.earlier.le.trans (le_add_of_nonneg_right p.gap_nonneg)⟩
  have htime := h batch hbatch batch' hbatch' x y head head' hhead hhead'
    (.single ⟨hx', hy, hnear⟩)
  have hlt : p.time head < p.time x := by
    rw [htime]
    exact hhead'.time_le.trans_lt hprecedes.earlier
  exact hhead.linked.exists_precedes hhead.linked.key_eq hlt le_rfl

end Batches

end Spacing
end LcpGateway.Base
