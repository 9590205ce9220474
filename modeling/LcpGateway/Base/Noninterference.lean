import LcpGateway.Base.Run
import Mathlib.Data.List.Basic

/-!
# Parties that share a machine

Library `Base`. A machine answers the inputs of several parties. A party sees part of the state:
inputs of others leave that part as it is, and its own inputs are answered from it. Then the
party is answered as if the inputs of all others had never come, whatever their order.
-/

namespace LcpGateway.Base

universe u v w x

variable {σ : Type u} {ι : Type v} {ο : Type w} {τ : Type x}

/-- The state behind one input. -/
def advanceBy (respond : σ → ι → σ × ο) (s : σ) (i : ι) : σ := (respond s i).1

/-- The answers to one party. -/
def answersTo (respond : σ → ι → σ × ο) (mine : ι → Bool) : σ → List ι → List ο
  | _, [] => []
  | s, i :: rest =>
    if mine i then (respond s i).2 :: answersTo respond mine (respond s i).1 rest
    else answersTo respond mine (respond s i).1 rest

/-- A party's view of a machine, in the states that fit: inputs of others do not change it, and it
decides the party's answers and next view. -/
structure Unwinding (respond : σ → ι → σ × ο) (mine : ι → Bool) (view : σ → τ) (Fits : σ → Prop) :
    Prop where
  confined : ∀ s i, mine i = false → view (respond s i).1 = view s
  answered : ∀ s t i, mine i = true → Fits s → Fits t → view s = view t →
    view (respond s i).1 = view (respond t i).1 ∧ (respond s i).2 = (respond t i).2

namespace Unwinding

variable {respond : σ → ι → σ × ο} {mine : ι → Bool} {view : σ → τ} {Fits : σ → Prop}

/-- Purge: a party is answered, and sees in the end, what it would have without the inputs of the
others. -/
theorem purge (h : Unwinding respond mine view Fits) (s t : σ) (hview : view s = view t)
    (inputs : List ι) (hs : ∀ p ∈ steps (advanceBy respond) s inputs, Fits p.1)
    (ht : ∀ p ∈ steps (advanceBy respond) t (inputs.filter mine), Fits p.1) :
    answersTo respond mine s inputs = answersTo respond mine t (inputs.filter mine) ∧
      view (run (advanceBy respond) s inputs) =
        view (run (advanceBy respond) t (inputs.filter mine)) := by
  induction inputs generalizing s t with
  | nil => exact ⟨rfl, hview⟩
  | cons i rest ih =>
    rw [steps, List.forall_mem_cons] at hs
    cases hmine : mine i with
    | false =>
      have hnext : view (respond s i).1 = view t := (h.confined s i hmine).trans hview
      rw [List.filter_cons_of_neg (Bool.not_eq_true _ ▸ hmine)] at ht ⊢
      rw [answersTo, if_neg (Bool.not_eq_true _ ▸ hmine), run]
      exact ih _ _ hnext hs.2 ht
    | true =>
      rw [List.filter_cons_of_pos hmine] at ht ⊢
      rw [steps, List.forall_mem_cons] at ht
      obtain ⟨hnext, hanswer⟩ := h.answered s t i hmine hs.1 ht.1 hview
      obtain ⟨hrest, hend⟩ := ih _ _ hnext hs.2 ht.2
      rw [answersTo, answersTo, if_pos hmine, if_pos hmine, run, run, hanswer, hrest]
      exact ⟨rfl, hend⟩

end Unwinding
end LcpGateway.Base
