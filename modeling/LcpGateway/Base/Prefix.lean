import Mathlib.Algebra.Order.Ring.Nat
import Mathlib.Tactic.Ring

/-!
# Address prefixes

Library `Base`. A network is the block of addresses that begin with the same bits. An address is in
it when clearing its other bits gives the first address of the block; the block is an interval, so
one network lies in another exactly when its addresses do.
-/

namespace LcpGateway.Base

/-- A network of addresses of some width: the first address, of which `length` bits are fixed and
the others are zero. -/
structure Prefix (width : Nat) where
  first : Nat
  length : Nat
  length_le : length ≤ width
  aligned : 2 ^ (width - length) ∣ first
  first_lt : first < 2 ^ width

namespace Prefix

variable {width : Nat} (p q : Prefix width)

/-- The number of addresses. -/
def size : Nat := 2 ^ (width - p.length)

/-- The last address. -/
def last : Nat := p.first + p.size - 1

/-- The address is the first one when its host bits are cleared. -/
def contains (a : Nat) : Bool := a / p.size * p.size = p.first

/-- The first and the last address lie in the other network. -/
def subnetOf : Bool := q.first ≤ p.first && p.last ≤ q.last

variable {p q} {a : Nat}

/-- A network has an address. -/
theorem size_pos : 0 < p.size := Nat.two_pow_pos _

/-- The addresses of a network are an interval. -/
theorem contains_iff : p.contains a = true ↔ p.first ≤ a ∧ a ≤ p.last := by
  obtain ⟨k, hk⟩ : p.size ∣ p.first := p.aligned
  have hpos : 0 < p.size := size_pos
  rw [contains, decide_eq_true_eq, last, hk]
  constructor
  · intro h
    have hquot : a / p.size = k := Nat.eq_of_mul_eq_mul_right hpos (h.trans (Nat.mul_comm _ _))
    have hdiv := Nat.div_add_mod a p.size
    have hmod := Nat.mod_lt a hpos
    rw [hquot] at hdiv
    omega
  · rintro ⟨hle, hlast⟩
    have hquot : a / p.size = k := by
      refine (Nat.div_eq_iff hpos).mpr ⟨?_, ?_⟩
      · rwa [Nat.mul_comm]
      · rw [Nat.mul_comm]
        exact hlast
    rw [hquot, Nat.mul_comm]

/-- The first address is in the network. -/
theorem contains_first : p.contains p.first = true :=
  contains_iff.mpr ⟨le_rfl, by have hpos := size_pos (p := p); rw [last]; omega⟩

/-- The last address is in the network. -/
theorem contains_last : p.contains p.last = true :=
  contains_iff.mpr ⟨by have hpos := size_pos (p := p); rw [last]; omega, le_rfl⟩

/-- A network lies in another one exactly when its addresses do. -/
theorem subnetOf_iff : p.subnetOf q = true ↔ ∀ a, p.contains a = true → q.contains a = true := by
  rw [subnetOf, Bool.and_eq_true, decide_eq_true_eq, decide_eq_true_eq]
  constructor
  · rintro ⟨hfirst, hlast⟩ a ha
    obtain ⟨hle, hge⟩ := contains_iff.mp ha
    exact contains_iff.mpr ⟨hfirst.trans hle, hge.trans hlast⟩
  · intro h
    exact ⟨(contains_iff.mp (h _ contains_first)).1, (contains_iff.mp (h _ contains_last)).2⟩

end Prefix
end LcpGateway.Base
