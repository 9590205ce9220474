import LcpGateway.Base.Number
import Mathlib.Algebra.Order.Floor.Ring
import Mathlib.Algebra.Order.Field.Basic
import Mathlib.Data.Rat.Floor
import Mathlib.Tactic.FieldSimp
import Mathlib.Tactic.Linarith
import Mathlib.Tactic.Ring
import Mathlib.Algebra.BigOperators.Group.List.Basic

/-!
# Rounding to decimal digits

Library `Base`. `round(x, digits)` is monotone, leaves what it has rounded alone and errs by
half a unit at most. A running total rounded after every addition errs by half a unit for each
addition. `Rounded` are the values that rounding yields.
-/

namespace LcpGateway.Base

/-- The nearest integer, the even one of two. -/
def halfEven (x : Rat) : Int :=
  let low := ⌊x⌋
  let twice := 2 * (x - low)
  if twice < 1 then low
  else if 1 < twice then low + 1
  else if low % 2 = 0 then low else low + 1

/-- Rounding goes through the scaled value. -/
theorem roundDigits_eq (digits : Nat) (x : Rat) :
    roundDigits digits x = halfEven (x * 10 ^ digits) / 10 ^ digits := rfl

/-- Rounding goes down or up. -/
theorem halfEven_cases (x : Rat) : halfEven x = ⌊x⌋ ∨ halfEven x = ⌊x⌋ + 1 := by
  unfold halfEven
  dsimp only
  split_ifs <;> simp

/-- An integer is its own nearest. -/
@[simp] theorem halfEven_intCast (n : Int) : halfEven (n : Rat) = n := by
  simp [halfEven]

/-- The nearest integer is half a unit away at most. -/
theorem abs_halfEven_sub_le (x : Rat) : |(halfEven x : Rat) - x| ≤ 1 / 2 := by
  have hlow := Int.floor_le x
  have hhigh := Int.lt_floor_add_one x
  unfold halfEven
  dsimp only
  rw [abs_le]
  split_ifs <;> push_cast <;> constructor <;> linarith

/-- Rounding keeps the order. -/
theorem halfEven_mono {x y : Rat} (h : x ≤ y) : halfEven x ≤ halfEven y := by
  have hfloor := Int.floor_le_floor h
  rcases Int.lt_or_eq_of_le hfloor with hlt | heq
  · rcases halfEven_cases x with hx | hx <;> rcases halfEven_cases y with hy | hy <;> omega
  · -- both round from one floor, and the larger one is not nearer to it
    have hx := halfEven_cases x
    have hy := halfEven_cases y
    unfold halfEven at hx hy ⊢
    dsimp only at hx hy ⊢
    rw [← heq]
    split_ifs <;> first | omega | (exfalso; linarith)

/-- Rounding keeps the order. -/
theorem roundDigits_mono (digits : Nat) {x y : Rat} (h : x ≤ y) :
    roundDigits digits x ≤ roundDigits digits y := by
  have hpos : (0 : Rat) < 10 ^ digits := by positivity
  rw [roundDigits_eq, roundDigits_eq, div_le_div_iff_of_pos_right hpos, Int.cast_le]
  exact halfEven_mono (mul_le_mul_of_nonneg_right h hpos.le)

/-- What has been rounded stays. -/
@[simp] theorem roundDigits_roundDigits (digits : Nat) (x : Rat) :
    roundDigits digits (roundDigits digits x) = roundDigits digits x := by
  have hne : (10 : Rat) ^ digits ≠ 0 := by positivity
  rw [roundDigits_eq digits (roundDigits digits x), roundDigits_eq digits x,
    div_mul_cancel₀ _ hne, halfEven_intCast]

/-- Rounding errs by half a unit of the last digit at most. -/
theorem abs_roundDigits_sub_le (digits : Nat) (x : Rat) :
    |roundDigits digits x - x| ≤ 1 / 2 / 10 ^ digits := by
  have hpos : (0 : Rat) < 10 ^ digits := by positivity
  have hsplit : roundDigits digits x - x =
      ((halfEven (x * 10 ^ digits) : Rat) - x * 10 ^ digits) / 10 ^ digits := by
    rw [roundDigits_eq]
    field_simp
  rw [hsplit, abs_div, abs_of_pos hpos, div_le_div_iff_of_pos_right hpos]
  exact abs_halfEven_sub_le _

/-- The values of a number of decimal digits. -/
structure Rounded (digits : Nat) where
  value : Rat
  rounded : roundDigits digits value = value

namespace Rounded

variable {digits : Nat}

instance : DecidableEq (Rounded digits) := fun x y ↦
  decidable_of_iff (x.value = y.value) (by
    cases x
    cases y
    simp)

/-- Two rounded values are one when their numbers are. -/
theorem ext {x y : Rounded digits} (h : x.value = y.value) : x = y := by
  cases x
  cases y
  cases h
  rfl

/-- No digits set. -/
def zero : Rounded digits := ⟨0, by simp [roundDigits_eq, halfEven]⟩

/-- `round(x + amount, digits)`. -/
def add (x : Rounded digits) (amount : Rat) : Rounded digits :=
  ⟨roundDigits digits (x.value + amount), roundDigits_roundDigits digits _⟩

/-- Adding what is not negative does not lower a rounded value. -/
theorem le_add (x : Rounded digits) {amount : Rat} (h : 0 ≤ amount) :
    x.value ≤ (x.add amount).value := by
  have hle : x.value ≤ x.value + amount := by linarith
  have hmono := roundDigits_mono digits hle
  rw [x.rounded] at hmono
  exact hmono

/-- A running total errs by half a unit for each addition. -/
theorem abs_foldl_add_sub_le (x : Rounded digits) (amounts : List Rat) :
    |(amounts.foldl add x).value - (x.value + amounts.sum)| ≤
      amounts.length * (1 / 2 / 10 ^ digits) := by
  induction amounts generalizing x with
  | nil => simp
  | cons amount rest ih =>
    have hstep : |(x.add amount).value - (x.value + amount)| ≤ 1 / 2 / 10 ^ digits :=
      abs_roundDigits_sub_le digits (x.value + amount)
    have hrest := ih (x.add amount)
    have hsplit : ((rest.foldl add (x.add amount)).value - (x.value + (amount :: rest).sum)) =
        ((rest.foldl add (x.add amount)).value - ((x.add amount).value + rest.sum)) +
          ((x.add amount).value - (x.value + amount)) := by
      rw [List.sum_cons]
      ring
    rw [List.foldl_cons, hsplit, List.length_cons, Nat.cast_succ, add_one_mul]
    exact (abs_add_le _ _).trans (add_le_add hrest hstep)

end Rounded
end LcpGateway.Base
