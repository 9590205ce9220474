import LcpGateway.Base.Run
import Mathlib.Data.Finset.Basic

/-!
# Duties of a machine

Library `Base`. A duty is something a machine owes under a key: some steps raise it, some settle
it, and some call in what is owed, which is due from then on. A ledger keeps both sets beside the
machine, which does not read them.
-/

namespace LcpGateway.Base

universe u v w

variable {σ : Type u} {ι : Type v} {K : Type w}

/-- What a step raises, calls in and settles, by the state it meets. -/
structure Duty (σ : Type u) (ι : Type v) (K : Type w) where
  raises : σ → ι → Finset K
  calls : σ → ι → K → Bool
  settles : σ → ι → Finset K

/-- A machine with the keys it owes something under, and those where it is due. -/
structure Ledger (σ : Type u) (K : Type w) where
  state : σ
  owed : Finset K
  due : Finset K

/-- The ledger of a machine that owes nothing yet. -/
def Ledger.blank (state : σ) : Ledger σ K := ⟨state, ∅, ∅⟩

namespace Duty

variable [DecidableEq K]

/-- A step of the machine, entered in the ledger. -/
def step (duty : Duty σ ι K) (next : σ → ι → σ) (l : Ledger σ K) (i : ι) : Ledger σ K where
  state := next l.state i
  owed := (l.owed ∪ duty.raises l.state i) \ duty.settles l.state i
  due := (l.due ∪ l.owed.filter (fun k ↦ duty.calls l.state i k)) \ duty.settles l.state i

variable {duty : Duty σ ι K} {next : σ → ι → σ} {l : Ledger σ K} {i : ι} {k : K}

/-- The machine takes its own step. -/
@[simp] theorem state_step : (duty.step next l i).state = next l.state i := rfl

/-- What is owed after a step. -/
theorem mem_owed_step : k ∈ (duty.step next l i).owed ↔
    (k ∈ l.owed ∨ k ∈ duty.raises l.state i) ∧ k ∉ duty.settles l.state i := by
  simp only [step, Finset.mem_sdiff, Finset.mem_union]

/-- What is due after a step. -/
theorem mem_due_step : k ∈ (duty.step next l i).due ↔
    (k ∈ l.due ∨ k ∈ l.owed ∧ duty.calls l.state i k = true) ∧ k ∉ duty.settles l.state i := by
  simp only [step, Finset.mem_sdiff, Finset.mem_union, Finset.mem_filter]

end Duty
end LcpGateway.Base
