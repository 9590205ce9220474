import Mathlib.Data.List.Sort
import Mathlib.Order.Lattice
import Mathlib.Tactic.Linarith

/-!
# Ordered rows in pages

Library `Base`. Rows are ordered by terms, the first that tells two rows apart deciding, and are
then read page by page. When no two rows agree in all terms there is one ordered list of the rows,
whatever way they are sorted; pages of a size cut a list into pieces that make it up again.
-/

namespace LcpGateway.Base

universe u v

/-! ### Pages of a list -/

variable {α : Type u}

/-- The piece of a list behind an offset, of a length at most. -/
def piece (offset limit : Nat) (l : List α) : List α := (l.drop offset).take limit

/-- The pages of a list, one behind the other, are the front of the list. -/
theorem flatMap_piece (per n : Nat) (l : List α) :
    (List.range' 1 n).flatMap (fun k ↦ piece ((k - 1) * per) per l) = l.take (n * per) := by
  induction n with
  | zero => simp
  | succ n ih =>
    rw [List.range'_1_concat, List.flatMap_append, ih, Nat.add_mul, Nat.one_mul, List.take_add]
    simp [piece]

/-- Enough pages are the whole list. -/
theorem flatMap_piece_eq {per n : Nat} {l : List α} (h : l.length ≤ n * per) :
    (List.range' 1 n).flatMap (fun k ↦ piece ((k - 1) * per) per l) = l := by
  rw [flatMap_piece, List.take_of_length_le h]

/-- How many rows a piece has. -/
@[simp] theorem length_piece (offset limit : Nat) (l : List α) :
    (piece offset limit l).length = min limit (l.length - offset) := by
  simp [piece]

/-- A piece of the images is the images of a piece. -/
theorem map_piece {β : Type v} (f : α → β) (offset limit : Nat) (l : List α) :
    (piece offset limit l).map f = piece offset limit (l.map f) := by
  simp [piece, List.map_take, List.map_drop]

/-! ### Orders by terms -/

/-- A value that rows are ordered by, upwards or downwards. -/
structure OrderTerm (α : Type u) (κ : Type v) where
  value : α → κ
  descending : Bool

variable {κ : Type v} [LinearOrder κ]

/-- The term puts a row in front of another. -/
def OrderTerm.before (t : OrderTerm α κ) (a b : α) : Bool :=
  if t.descending then t.value b < t.value a else t.value a < t.value b

/-- The first term that tells two rows apart puts one in front of the other. -/
def before : List (OrderTerm α κ) → α → α → Bool
  | [], _, _ => false
  | t :: rest, a, b => t.before a b || (t.value a == t.value b && before rest a b)

/-- No two rows agree in all terms. -/
def Separates (terms : List (OrderTerm α κ)) (rows : List α) : Prop :=
  ∀ a ∈ rows, ∀ b ∈ rows, (∀ t ∈ terms, t.value a = t.value b) → a = b

/-- A term puts one of two values that differ in front of the other. -/
theorem OrderTerm.before_or (t : OrderTerm α κ) (a b : α) :
    t.before a b = true ∨ t.value a = t.value b ∨ t.before b a = true := by
  unfold OrderTerm.before
  split_ifs
  · rcases lt_trichotomy (t.value b) (t.value a) with h | h | h <;> simp [h]
  · rcases lt_trichotomy (t.value a) (t.value b) with h | h | h <;> simp [h]

/-- A term does not put a row in front of one of its own value. -/
theorem OrderTerm.not_before_of_eq {t : OrderTerm α κ} {a b : α} (h : t.value a = t.value b) :
    t.before a b = false := by
  simp [OrderTerm.before, h]

/-- The order of a term is transitive. -/
theorem OrderTerm.before_trans {t : OrderTerm α κ} {a b c : α} (hab : t.before a b = true)
    (hbc : t.before b c = true) : t.before a c = true := by
  unfold OrderTerm.before at *
  split_ifs at * with hdesc
  · exact decide_eq_true ((of_decide_eq_true hbc).trans (of_decide_eq_true hab))
  · exact decide_eq_true ((of_decide_eq_true hab).trans (of_decide_eq_true hbc))

/-- A term sees the value of a row only. -/
theorem OrderTerm.before_congr {t : OrderTerm α κ} {a a' b b' : α} (ha : t.value a = t.value a')
    (hb : t.value b = t.value b') : t.before a b = t.before a' b' := by
  simp [OrderTerm.before, ha, hb]

variable {terms : List (OrderTerm α κ)}

/-- No row is in front of itself. -/
theorem before_irrefl (a : α) : before terms a a = false := by
  induction terms with
  | nil => rfl
  | cons t rest ih => simp [before, OrderTerm.not_before_of_eq, ih]

/-- The order is transitive. -/
theorem before_trans {a b c : α} (hab : before terms a b = true) (hbc : before terms b c = true) :
    before terms a c = true := by
  induction terms with
  | nil => cases hab
  | cons t rest ih =>
    simp only [before, Bool.or_eq_true, Bool.and_eq_true, beq_iff_eq] at *
    rcases hab with hab | ⟨heqab, hab⟩
    · rcases hbc with hbc | ⟨heqbc, -⟩
      · exact Or.inl (OrderTerm.before_trans hab hbc)
      · rw [OrderTerm.before_congr rfl heqbc] at hab
        exact Or.inl hab
    · rcases hbc with hbc | ⟨heqbc, hbc⟩
      · rw [OrderTerm.before_congr heqab.symm rfl] at hbc
        exact Or.inl hbc
      · exact Or.inr ⟨heqab.trans heqbc, ih hab hbc⟩

/-- Two rows are ordered one way or the other, or agree in all terms. -/
theorem before_or (terms : List (OrderTerm α κ)) (a b : α) : before terms a b = true ∨
    (∀ t ∈ terms, t.value a = t.value b) ∨ before terms b a = true := by
  induction terms with
  | nil => simp
  | cons t rest ih =>
    simp only [before, Bool.or_eq_true, Bool.and_eq_true, beq_iff_eq, List.forall_mem_cons]
    rcases t.before_or a b with h | h | h
    · exact Or.inl (Or.inl h)
    · rcases ih with hrest | hrest | hrest
      · exact Or.inl (Or.inr ⟨h, hrest⟩)
      · exact Or.inr (Or.inl ⟨h, hrest⟩)
      · exact Or.inr (Or.inr (Or.inr ⟨h.symm, hrest⟩))
    · exact Or.inr (Or.inr (Or.inl h))

/-! ### Ordered lists -/

/-- The order of the terms, ties included. -/
def notAfter (terms : List (OrderTerm α κ)) (a b : α) : Prop := before terms b a = false

/-- The list is the rows in the order of the terms. -/
structure Ordered (terms : List (OrderTerm α κ)) (rows l : List α) : Prop where
  perm : l.Perm rows
  sorted : l.Pairwise (notAfter terms)

instance (terms : List (OrderTerm α κ)) : DecidableRel (notAfter terms) :=
  fun _ _ ↦ inferInstanceAs (Decidable (_ = false))

instance (terms : List (OrderTerm α κ)) : Std.Total (notAfter terms) where
  total a b := by
    by_contra hboth
    simp only [notAfter, not_or, Bool.not_eq_false] at hboth
    have hself := before_trans hboth.1 hboth.2
    rw [before_irrefl] at hself
    cases hself

/-- Rows in order, ties included, are in order with what is behind them. -/
theorem before_of_not_before {a b c : α} (hab : before terms a b = true)
    (hcb : before terms c b = false) : before terms a c = true := by
  induction terms with
  | nil => cases hab
  | cons t rest ih =>
    simp only [before, Bool.or_eq_true, Bool.and_eq_true, beq_iff_eq, Bool.or_eq_false_iff,
      Bool.and_eq_false_imp] at *
    obtain ⟨hcbt, hcbr⟩ := hcb
    rcases hab with hab | ⟨heq, hab⟩
    · rcases t.before_or b c with hbc | hbc | hbc
      · exact Or.inl (OrderTerm.before_trans hab hbc)
      · rw [OrderTerm.before_congr rfl hbc] at hab
        exact Or.inl hab
      · rw [hbc] at hcbt
        cases hcbt
    · rcases t.before_or b c with hbc | hbc | hbc
      · rw [OrderTerm.before_congr heq.symm rfl] at hbc
        exact Or.inl hbc
      · exact Or.inr ⟨heq.trans hbc, ih hab (hcbr hbc.symm)⟩
      · rw [hbc] at hcbt
        cases hcbt

instance (terms : List (OrderTerm α κ)) : IsTrans α (notAfter terms) where
  trans a b c hab hbc := by
    by_contra hca
    rw [notAfter, Bool.not_eq_false] at hca
    have hcb := before_of_not_before hca hab
    rw [notAfter, hcb] at hbc
    cases hbc

/-- The rows, sorted. -/
def orderBy (terms : List (OrderTerm α κ)) (rows : List α) : List α :=
  rows.insertionSort (notAfter terms)

/-- Sorting orders the rows. -/
theorem ordered_orderBy (terms : List (OrderTerm α κ)) (rows : List α) :
    Ordered terms rows (orderBy terms rows) :=
  ⟨List.perm_insertionSort _ rows, List.pairwise_insertionSort _ rows⟩

/-- Where the terms separate the rows there is one ordered list of them. -/
theorem Ordered.unique {rows l l' : List α} (hsep : Separates terms rows)
    (h : Ordered terms rows l) (h' : Ordered terms rows l') : l = l' := by
  refine List.Perm.eq_of_pairwise ?_ h.sorted h'.sorted (h.perm.trans h'.perm.symm)
  intro a b ha hb hab hba
  refine hsep a (h.perm.mem_iff.mp ha) b (h'.perm.mem_iff.mp hb) ?_
  rcases before_or terms a b with hlt | heq | hlt
  · rw [notAfter, hlt] at hba
    cases hba
  · exact heq
  · rw [notAfter, hlt] at hab
    cases hab

/-- Where the terms separate rows without repetitions, each is strictly in front of the next. -/
theorem Ordered.strict {rows l : List α} (hsep : Separates terms rows) (hnodup : rows.Nodup)
    (h : Ordered terms rows l) : l.Pairwise (fun a b ↦ before terms a b = true) := by
  refine (h.sorted.and (h.perm.nodup_iff.mpr hnodup)).imp_of_mem ?_
  rintro a b ha hb ⟨hba, hne⟩
  rcases before_or terms a b with hlt | heq | hlt
  · exact hlt
  · exact absurd (hsep a (h.perm.mem_iff.mp ha) b (h.perm.mem_iff.mp hb) heq) hne
  · rw [notAfter, hlt] at hba
    cases hba

end LcpGateway.Base
