import LcpGateway.Base.Run
import Mathlib.Data.List.Perm.Basic
import Mathlib.Order.Lattice

/-!
# Runs that only join

Library `Base`. A machine is observed in a join semilattice, and every input contributes a value
of it. When each step of a run joins the contribution of its input to what was observed, the
observation only grows, and where it ends does not depend on the order of the inputs.
-/

namespace LcpGateway.Base

universe u v w

variable {σ : Type u} {ι : Type v} {τ : Type w} [SemilatticeSup τ]

/-- The step joins the contribution of its input to what was observed. -/
def Joins (step : σ → ι → σ) (obs : σ → τ) (contribution : ι → τ) (s : σ) (i : ι) : Prop :=
  obs (step s i) = obs s ⊔ contribution i

variable {step : σ → ι → σ} {obs : σ → τ} {contribution : ι → τ}

/-- A step that joins a contribution does not lower the observation. -/
theorem Joins.le {s : σ} {i : ι} (h : Joins step obs contribution s i) :
    obs s ≤ obs (step s i) := le_sup_left.trans_eq h.symm

/-- Joined run: what is observed after it are the contributions joined to what was observed
before. -/
theorem obs_run_of_joins (s : σ) (inputs : List ι)
    (h : ∀ p ∈ steps step s inputs, Joins step obs contribution p.1 p.2) :
    obs (run step s inputs) = inputs.foldl (fun w i ↦ w ⊔ contribution i) (obs s) := by
  induction inputs generalizing s with
  | nil => rfl
  | cons i rest ih =>
    rw [steps, List.forall_mem_cons] at h
    have hstep : obs (step s i) = obs s ⊔ contribution i := h.1
    rw [run, ih _ h.2, hstep, List.foldl_cons]

/-- Joined runs of the same inputs end alike, whatever their order. -/
theorem obs_run_eq_of_perm {s : σ} {inputs inputs' : List ι} (hperm : inputs.Perm inputs')
    (h : ∀ p ∈ steps step s inputs, Joins step obs contribution p.1 p.2)
    (h' : ∀ p ∈ steps step s inputs', Joins step obs contribution p.1 p.2) :
    obs (run step s inputs) = obs (run step s inputs') := by
  rw [obs_run_of_joins s inputs h, obs_run_of_joins s inputs' h']
  exact hperm.foldl_eq' (fun i _ j _ w ↦ sup_right_comm w (contribution i) (contribution j)) (obs s)

end LcpGateway.Base
