import LcpGateway.Base.Rounding
import Mathlib.Data.Int.Log

/-!
# Double precision

Library `Base`. Where the range of a float decides, results are rounded to the nearest double, half
to even, and a result that leaves the range is an infinity or an `OverflowError`. Rounding keeps the
order of the values that are not negative.
-/

namespace LcpGateway.Base

/-- The exponent of the leading bit, from that of the subnormals on. -/
def binade (x : Rat) : Int := max (Int.log 2 |x|) (-1022)

/-- The distance between neighbouring doubles around a value. -/
def ulp (x : Rat) : Rat := 2 ^ (binade x - 52)

/-- The nearest double, half to even, of a value within the range. -/
def toDouble (x : Rat) : Rat := halfEven (x / ulp x) * ulp x

/-- From here on a value rounds to an infinity: half a unit above the greatest double. -/
def doubleBound : Rat := 2 ^ 1024 - 2 ^ 970

/-- A value whose rounding is a finite double. -/
def InRange (x : Rat) : Prop := |x| < doubleBound

instance (x : Rat) : Decidable (InRange x) := inferInstanceAs (Decidable (_ < _))

/-- The distance between doubles is positive. -/
theorem ulp_pos (x : Rat) : 0 < ulp x := zpow_pos (by norm_num) _

/-- A multiple of the unit bounds the rounding where it bounds the value. -/
theorem toDouble_le {x : Rat} {n : Int} (h : x ≤ n * ulp x) : toDouble x ≤ n * ulp x := by
  have hunits : x / ulp x ≤ n := (div_le_iff₀ (ulp_pos x)).mpr h
  have hround : halfEven (x / ulp x) ≤ n := by simpa using halfEven_mono hunits
  exact mul_le_mul_of_nonneg_right (by exact_mod_cast hround) (ulp_pos x).le

/-- A multiple of the unit below the value is below the rounding. -/
theorem le_toDouble {x : Rat} {n : Int} (h : n * ulp x ≤ x) : n * ulp x ≤ toDouble x := by
  have hunits : (n : Rat) ≤ x / ulp x := (le_div_iff₀ (ulp_pos x)).mpr h
  have hround : n ≤ halfEven (x / ulp x) := by simpa using halfEven_mono hunits
  exact mul_le_mul_of_nonneg_right (by exact_mod_cast hround) (ulp_pos x).le

/-- Zero is a double. -/
@[simp] theorem toDouble_zero : toDouble 0 = 0 := by
  have h : halfEven 0 = 0 := by simpa using halfEven_intCast 0
  simp [toDouble, h]

/-- Rounding keeps the sign. -/
theorem toDouble_nonneg {x : Rat} (h : 0 ≤ x) : 0 ≤ toDouble x := by
  simpa using le_toDouble (n := 0) (by simpa using h)

/-- Rounding keeps the sign. -/
theorem toDouble_nonpos {x : Rat} (h : x ≤ 0) : toDouble x ≤ 0 := by
  simpa using toDouble_le (n := 0) (by simpa using h)

/-- The power behind the binade is a multiple of the unit. -/
theorem zpow_binade_succ (x : Rat) : (2 : Rat) ^ (binade x + 1) = (2 ^ 53 : Int) * ulp x := by
  have hexp : binade x + 1 = 53 + (binade x - 52) := by ring
  rw [hexp, zpow_add₀ (by norm_num), ulp]
  norm_num

/-- The power at the binade is a multiple of the unit. -/
theorem zpow_binade (x : Rat) : (2 : Rat) ^ binade x = (2 ^ 52 : Int) * ulp x := by
  have hexp : binade x = 52 + (binade x - 52) := by ring
  conv_lhs => rw [hexp]
  rw [zpow_add₀ (by norm_num), ulp]
  norm_num

/-- A value lies below the power behind its binade. -/
theorem lt_zpow_binade_succ {x : Rat} (h : 0 ≤ x) : x < 2 ^ (binade x + 1) := by
  have hlog := Int.lt_zpow_succ_log_self (b := 2) (by norm_num) x
  have hbinade : Int.log 2 x ≤ binade x := by
    rw [binade, abs_of_nonneg h]
    exact le_max_left _ _
  calc x < (2 : Rat) ^ (Int.log 2 x + 1) := by exact_mod_cast hlog
    _ ≤ 2 ^ (binade x + 1) := zpow_le_zpow_right₀ (by norm_num) (by omega)

/-- A value above the subnormals reaches the power at its binade. -/
theorem zpow_binade_le {x : Rat} (h : 0 < x) (hnormal : -1022 < binade x) : 2 ^ binade x ≤ x := by
  have hlog := Int.zpow_log_le_self (b := 2) (by norm_num) h
  have hbinade : binade x = Int.log 2 x := by
    rw [binade, abs_of_pos h] at *
    omega
  rw [hbinade]
  exact_mod_cast hlog

/-- The binade grows with the value. -/
theorem binade_mono {x y : Rat} (hx : 0 < x) (h : x ≤ y) : binade x ≤ binade y := by
  have hlog := Int.log_mono_right (b := 2) hx h
  rw [binade, binade, abs_of_pos hx, abs_of_pos (hx.trans_le h)]
  omega

/-- Rounding keeps the order. -/
theorem toDouble_mono {x y : Rat} (hx : 0 ≤ x) (h : x ≤ y) : toDouble x ≤ toDouble y := by
  rcases hx.eq_or_lt with rfl | hpos
  · rw [toDouble_zero]
    exact toDouble_nonneg h
  rcases (binade_mono hpos h).eq_or_lt with heq | hlt
  · have hulp : ulp x = ulp y := by rw [ulp, ulp, heq]
    have hunits : x / ulp y ≤ y / ulp y := div_le_div_of_nonneg_right h (ulp_pos y).le
    rw [toDouble, toDouble, hulp]
    exact mul_le_mul_of_nonneg_right (by exact_mod_cast halfEven_mono hunits) (ulp_pos y).le
  · -- the power at the larger binade separates the two roundings
    have hpow : -1022 ≤ binade x := le_max_right _ _
    have hlow : toDouble x ≤ 2 ^ (binade x + 1) := by
      have hbelow := (lt_zpow_binade_succ hx).le
      rw [zpow_binade_succ] at hbelow ⊢
      exact toDouble_le hbelow
    have hhigh : 2 ^ binade y ≤ toDouble y := by
      have habove := zpow_binade_le (hpos.trans_le h) (hpow.trans_lt hlt)
      rw [zpow_binade] at habove ⊢
      exact le_toDouble habove
    calc toDouble x ≤ 2 ^ (binade x + 1) := hlow
      _ ≤ 2 ^ binade y := zpow_le_zpow_right₀ (by norm_num) (by omega)
      _ ≤ toDouble y := hhigh

/-- A multiple of its own unit is a double. -/
theorem toDouble_eq_self {x : Rat} {n : Int} (h : x = n * ulp x) : toDouble x = x :=
  le_antisymm ((toDouble_le h.le).trans_eq h.symm) (h.trans_le (le_toDouble h.ge))

/-- The sign does not move the binade. -/
@[simp] theorem binade_abs (x : Rat) : binade |x| = binade x := by rw [binade, binade, abs_abs]

/-- A rounding goes up to the power behind the binade at most. -/
theorem abs_toDouble_le (x : Rat) : |toDouble x| ≤ 2 ^ (binade x + 1) := by
  have habs : |x| ≤ 2 ^ (binade x + 1) := by
    simpa using (lt_zpow_binade_succ (abs_nonneg x)).le
  rw [zpow_binade_succ, abs_le, ← neg_mul, ← Int.cast_neg] at habs ⊢
  exact ⟨le_toDouble habs.1, toDouble_le habs.2⟩

/-- A double is its own rounding. -/
theorem toDouble_toDouble (x : Rat) : toDouble (toDouble x) = toDouble x := by
  generalize hy : toDouble x = y
  by_cases hzero : y = 0
  · rw [hzero, toDouble_zero]
  rcases le_or_gt (binade y) (binade x) with hle | hlt
  · -- the unit at the rounding divides the one it was rounded to
    obtain ⟨t, ht⟩ := Int.le.dest hle
    have hulp : ulp x = 2 ^ t * ulp y := by
      have hexp : binade x - 52 = t + (binade y - 52) := by omega
      rw [ulp, ulp, hexp, zpow_add₀ (by norm_num), zpow_natCast]
    refine toDouble_eq_self (n := halfEven (x / ulp x) * 2 ^ t) ?_
    push_cast
    rw [mul_assoc, ← hulp, ← hy]
    rfl
  · -- the rounding is the power behind the binade
    have hhigh : |y| ≤ 2 ^ (binade x + 1) := hy ▸ abs_toDouble_le x
    have hnormal : -1022 < binade |y| := by
      have hmin : -1022 ≤ binade x := le_max_right _ _
      rw [binade_abs]
      omega
    have hlow : 2 ^ binade |y| ≤ |y| := zpow_binade_le (abs_pos.mpr hzero) hnormal
    rw [binade_abs] at hlow
    have hpow : (2 : Rat) ^ (binade x + 1) ≤ 2 ^ binade y :=
      zpow_le_zpow_right₀ (by norm_num) (by omega)
    have habs : |y| = (2 ^ 52 : Int) * ulp y := by
      rw [← zpow_binade]
      exact le_antisymm (hhigh.trans hpow) hlow
    rcases abs_choice y with hpos | hneg
    · exact toDouble_eq_self (hpos.symm.trans habs)
    · refine toDouble_eq_self (n := -2 ^ 52) ?_
      rw [Int.cast_neg, neg_mul, ← habs, hneg, neg_neg]

namespace PyFloat

/-- A result, rounded; out of range it is an infinity. -/
def rounded (x : Rat) : PyFloat := if InRange x then .fin (toDouble x) else .inf (x < 0)

/-- The float that a literal denotes. -/
def ofLiteral : PyFloat → PyFloat
  | .fin r => rounded r
  | x => x

/-- `float(i)`; `none` is an `OverflowError`. -/
def ofInt (i : Int) : Option PyFloat := if InRange i then some (.fin (toDouble i)) else none

/-- `x * y`, rounded. -/
def times : PyFloat → PyFloat → PyFloat
  | .fin a, .fin b => rounded (a * b)
  | x, y => x.mul y

/-- `x ** n`, rounded; `none` is an `OverflowError`. -/
def power (x : PyFloat) (n : Nat) : Option PyFloat :=
  if n = 0 then some (.fin 1)
  else match x with
    | .fin a => if InRange (a ^ n) then some (.fin (toDouble (a ^ n))) else none
    | .inf negative => some (.inf (negative && n % 2 == 1))
    | .nan => some .nan

/-- `x < y`. -/
def lt : PyFloat → PyFloat → Bool
  | .fin a, .fin b => a < b
  | .nan, _ => false
  | _, .nan => false
  | .inf a, .inf b => a && !b
  | .inf a, .fin _ => a
  | .fin _, .inf b => !b

/-- `min(x, y)`: the first unless the second is smaller. -/
def least (x y : PyFloat) : PyFloat := if y.lt x then y else x

/-- `int(x)`; `none` is a `ValueError` or an `OverflowError`. -/
def truncate : PyFloat → Option Int
  | .fin r => some (r.num.tdiv r.den)
  | _ => none

/-- `0 <= x`. -/
def Nonneg : PyFloat → Prop
  | .fin r => 0 ≤ r
  | .inf negative => negative = false
  | .nan => False

/-- `r <= x`. -/
def Bounds (r : Rat) : PyFloat → Prop
  | .fin b => r ≤ b
  | .inf negative => negative = false
  | .nan => False

/-- A finite value that is a double. -/
def IsDouble : PyFloat → Prop
  | .fin r => toDouble r = r
  | _ => True

/-- A result is a double. -/
theorem isDouble_rounded (x : Rat) : (rounded x).IsDouble := by
  unfold rounded
  split_ifs
  · exact toDouble_toDouble x
  · trivial

/-- A literal denotes a double. -/
theorem isDouble_ofLiteral (x : PyFloat) : x.ofLiteral.IsDouble := by
  cases x with
  | fin r => exact isDouble_rounded r
  | inf negative => trivial
  | nan => trivial

/-- An integer becomes a double. -/
theorem isDouble_ofInt {i : Int} {x : PyFloat} (h : ofInt i = some x) : x.IsDouble := by
  unfold ofInt at h
  split_ifs at h
  obtain rfl := Option.some.inj h
  exact toDouble_toDouble _

/-- A product that is finite is the rounded product of finite factors. -/
theorem times_eq_fin {x y : PyFloat} {r : Rat} (h : x.times y = .fin r) :
    ∃ a b, x = .fin a ∧ y = .fin b ∧ r = toDouble (a * b) := by
  cases x with
  | fin a =>
    cases y with
    | fin b =>
      simp only [times, rounded] at h
      split_ifs at h
      exact ⟨a, b, rfl, rfl, (PyFloat.fin.inj h).symm⟩
    | inf negative =>
      simp only [times, mul] at h
      split_ifs at h
    | nan => cases h
  | inf negative =>
    cases y with
    | fin b =>
      simp only [times, mul] at h
      split_ifs at h
    | inf _ => cases h
    | nan => cases h
  | nan => cases y <;> cases h

/-- A finite minimum with a value is not above it. -/
theorem least_eq_fin {x : PyFloat} {b r : Rat} (h : x.least (.fin b) = .fin r) : r ≤ b := by
  unfold least at h
  split_ifs at h with hlt
  · exact (PyFloat.fin.inj h).ge
  · subst h
    simpa [lt] using hlt

/-- The smaller of a value and a finite one, neither of them negative. -/
theorem exists_least {x : PyFloat} {c : Rat} (hx : x.Nonneg) (hc : 0 ≤ c) :
    ∃ d, x.least (.fin c) = .fin d ∧ 0 ≤ d ∧ d ≤ c := by
  unfold least
  split_ifs with hlt
  · exact ⟨c, rfl, hc, le_refl _⟩
  · cases x with
    | fin a => exact ⟨a, rfl, hx, by simpa [lt] using hlt⟩
    | inf negative =>
      obtain rfl : negative = false := hx
      simp [lt] at hlt
    | nan => cases hx

/-- A result that is not negative rounds to one that is not. -/
theorem nonneg_rounded {x : Rat} (h : 0 ≤ x) : (rounded x).Nonneg := by
  unfold rounded
  split_ifs
  · exact toDouble_nonneg h
  · exact decide_eq_false (not_lt.mpr h)

/-- A power of a finite value is in range, or an `OverflowError`. -/
theorem power_fin (a : Rat) (n : Nat) :
    (fin a).power n = if InRange (a ^ n) then some (.fin (toDouble (a ^ n))) else none := by
  unfold power
  by_cases hzero : n = 0
  · have hin : InRange 1 := by decide +kernel
    have hone : toDouble 1 = 1 := by decide +kernel
    rw [if_pos hzero, hzero, pow_zero, if_pos hin, hone]
  · rw [if_neg hzero]

/-- A rounded product bounds what the product bounds. -/
theorem bounds_rounded {r x : Rat} (hx : 0 ≤ x) (h : r ≤ toDouble x) : Bounds r (rounded x) := by
  unfold rounded
  split_ifs
  · exact h
  · exact decide_eq_false (not_lt.mpr hx)

end PyFloat

example : toDouble (1 / 10) = 3602879701896397 / 36028797018963968 := by decide +kernel

end LcpGateway.Base
