import LcpGateway.Base.Splits

/-!
# Checks in order

Library `Base`. A validation is a list of checks, each of which lets its input pass, refuses it or
is left by an exception; the first one that does not let it pass decides. The validation is steady
when no exception leaves it, whatever it decides.
-/

namespace LcpGateway.Base

universe u

/-- What a check does. -/
inductive Check (ε : Type u) where
  | passes
  | refuses (reason : ε)
  | raises
  deriving DecidableEq, Repr

namespace Check

variable {ε : Type u}

/-- A refusal when the condition holds. -/
def refuseIf (bad : Bool) (reason : ε) : Check ε := if bad then .refuses reason else .passes

/-- An exception unless the condition holds. -/
def raiseUnless (ok : Bool) : Check ε := if ok then .passes else .raises

/-- The first check that does not pass. -/
def firstStop : List (Check ε) → Check ε
  | [] => .passes
  | .passes :: rest => firstStop rest
  | c :: _ => c

/-- All checks pass. -/
def AllPass (l : List (Check ε)) : Prop := ∀ c ∈ l, c = .passes

/-- No exception leaves the checks: one that would is behind a refusal. -/
def Steady (l : List (Check ε)) : Prop :=
  EveryPlace (fun before c _ ↦ AllPass before → c ≠ .raises) l

variable {l m : List (Check ε)}

@[simp] theorem allPass_nil : AllPass ([] : List (Check ε)) := by simp [AllPass]

@[simp] theorem allPass_cons {c : Check ε} : AllPass (c :: l) ↔ c = .passes ∧ AllPass l := by
  simp [AllPass]

@[simp] theorem allPass_append : AllPass (l ++ m) ↔ AllPass l ∧ AllPass m := by
  simp [AllPass, or_imp, forall_and]

@[simp] theorem refuseIf_eq_passes {bad : Bool} {reason : ε} :
    refuseIf bad reason = .passes ↔ bad = false := by
  cases bad <;> simp [refuseIf]

/-- A refusal is no exception. -/
@[simp] theorem refuseIf_ne_raises {bad : Bool} {reason : ε} : refuseIf bad reason ≠ .raises := by
  cases bad <;> simp [refuseIf]

@[simp] theorem raiseUnless_eq_passes {ok : Bool} :
    (raiseUnless ok : Check ε) = .passes ↔ ok = true := by
  cases ok <;> simp [raiseUnless]

/-- Nothing stops when all checks pass. -/
theorem firstStop_eq_passes_iff : firstStop l = .passes ↔ AllPass l := by
  induction l with
  | nil => simp [firstStop]
  | cons c rest ih => cases c <;> simp [firstStop, ih]

/-- An exception leaves when one is behind checks that pass. -/
theorem firstStop_eq_raises_iff : firstStop l = .raises ↔
    ∃ before after, l = before ++ .raises :: after ∧ AllPass before := by
  induction l with
  | nil => simp [firstStop]
  | cons c rest ih =>
    cases c with
    | passes =>
      rw [firstStop, ih]
      constructor
      · rintro ⟨before, after, rfl, hpass⟩
        exact ⟨.passes :: before, after, rfl, by simpa using hpass⟩
      · rintro ⟨before, after, hsplit, hpass⟩
        cases before with
        | nil => cases hsplit
        | cons c before =>
          obtain ⟨rfl, rfl⟩ := List.cons.inj hsplit
          exact ⟨before, after, rfl, (allPass_cons.mp hpass).2⟩
    | refuses reason =>
      refine iff_of_false (by simp [firstStop]) ?_
      rintro ⟨before, after, hsplit, hpass⟩
      cases before with
      | nil => cases hsplit
      | cons c before =>
        obtain ⟨rfl, -⟩ := List.cons.inj hsplit
        cases (allPass_cons.mp hpass).1
    | raises => exact iff_of_true rfl ⟨[], rest, rfl, allPass_nil⟩

/-- No exception leaves exactly when the checks are steady. -/
theorem firstStop_ne_raises_iff : firstStop l ≠ .raises ↔ Steady l := by
  rw [ne_eq, firstStop_eq_raises_iff]
  constructor
  · rintro h before c after rfl hpass rfl
    exact h ⟨before, after, rfl, hpass⟩
  · rintro h ⟨before, after, rfl, hpass⟩
    exact h before .raises after rfl hpass rfl

end Check

end LcpGateway.Base
