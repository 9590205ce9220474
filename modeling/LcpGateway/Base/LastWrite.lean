import LcpGateway.Base.Run
import Mathlib.Data.List.Basic

/-!
# The last write that was not dropped

Library `Base`. Something is observed of a machine that may hold a value. An input writes a value,
or drops some values and keeps the others. Behind a run the machine holds a value exactly when it
was written and every input since has kept it.
-/

namespace LcpGateway.Base

universe u v w

variable {σ : Type u} {ι : Type v} {α : Type w} {step : σ → ι → σ} {writes : ι → Option α}
  {Keeps : α → ι → Prop}

/-- A value was written along the inputs, and kept since. -/
def WrittenAndKept (writes : ι → Option α) (Keeps : α → ι → Prop) (inputs : List ι) (a : α) :
    Prop :=
  ∃ before i later, inputs = before ++ i :: later ∧ writes i = some a ∧ ∀ j ∈ later, Keeps a j

/-- What is written and kept along a list, by its first input. -/
theorem writtenAndKept_cons_iff {i : ι} {rest : List ι} {a : α} :
    WrittenAndKept writes Keeps (i :: rest) a ↔
      (writes i = some a ∧ ∀ j ∈ rest, Keeps a j) ∨ WrittenAndKept writes Keeps rest a := by
  constructor
  · rintro ⟨before, j, later, hinputs, hwrites, hkept⟩
    cases before with
    | nil =>
      obtain ⟨rfl, rfl⟩ := List.cons.inj hinputs
      exact .inl ⟨hwrites, hkept⟩
    | cons k before => exact .inr ⟨before, j, later, (List.cons.inj hinputs).2, hwrites, hkept⟩
  · rintro (⟨hwrites, hkept⟩ | ⟨before, j, later, rfl, hwrites, hkept⟩)
    · exact ⟨[], i, rest, rfl, hwrites, hkept⟩
    · exact ⟨i :: before, j, later, rfl, hwrites, hkept⟩

/-- Behind a run a machine holds a value exactly when it was written and kept, or was there at
first and kept. -/
theorem obs_run_eq_some_iff (obs : σ → Option α)
    (hstep : ∀ s i a, obs (step s i) = some a ↔
      writes i = some a ∨ (obs s = some a ∧ writes i = none ∧ Keeps a i))
    (hwrites : ∀ a i, writes i ≠ none → ¬ Keeps a i) (s : σ) (inputs : List ι) (a : α) :
    obs (run step s inputs) = some a ↔
      WrittenAndKept writes Keeps inputs a ∨ (obs s = some a ∧ ∀ j ∈ inputs, Keeps a j) := by
  induction inputs generalizing s with
  | nil =>
    have hnone : ¬ WrittenAndKept writes Keeps [] a := by
      rintro ⟨before, i, later, hinputs, -⟩
      exact absurd hinputs.symm (List.append_ne_nil_of_right_ne_nil _ (List.cons_ne_nil _ _))
    simp [run, hnone]
  | cons i rest ih =>
    rw [run, ih, hstep, writtenAndKept_cons_iff, List.forall_mem_cons]
    by_cases hnone : writes i = none
    · simp only [hnone, false_or, true_and, false_and, reduceCtorEq]
      tauto
    · have hdropped := hwrites a i hnone
      simp only [hnone, hdropped, false_and, and_false, or_false]
      tauto

end LcpGateway.Base
