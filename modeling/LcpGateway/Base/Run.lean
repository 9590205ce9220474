import Mathlib.Logic.Basic

/-!
# Runs of a deterministic machine

Library `Base`. A machine is a total `step`; a run is the list of inputs it is fed.
`steps` lists the state in front of every input, so a property of a whole run is a
property of every member of that list. The rules are the invariant rule, the exact-guard
rule (when a guard decides, step by step and under an invariant, whether a step is safe, a
run is safe exactly when all its steps meet the guard), the same for inputs that come in an
order, and the rule for faults that last.
-/

namespace LcpGateway.Base

universe u v

variable {σ : Type u} {ι : Type v}

/-- The state after feeding `inputs` to the machine. -/
def run (step : σ → ι → σ) : σ → List ι → σ
  | s, [] => s
  | s, i :: rest => run step (step s i) rest

/-- Every input of a run, paired with the state it meets. -/
def steps (step : σ → ι → σ) : σ → List ι → List (σ × ι)
  | _, [] => []
  | s, i :: rest => (s, i) :: steps step (step s i) rest

variable {step : σ → ι → σ}

/-- A run over a concatenation is a run after a run. -/
theorem run_append (s : σ) (xs ys : List ι) :
    run step s (xs ++ ys) = run step (run step s xs) ys := by
  induction xs generalizing s with
  | nil => rfl
  | cons i rest ih => exact ih (step s i)

/-- The steps over a concatenation are those of a run and of a run after it. -/
theorem steps_append (s : σ) (xs ys : List ι) :
    steps step s (xs ++ ys) = steps step s xs ++ steps step (run step s xs) ys := by
  induction xs generalizing s with
  | nil => rfl
  | cons i rest ih => exact congrArg _ (ih (step s i))

/-- A guard on the inputs alone holds at every step when it holds of every input. -/
theorem forall_mem_steps_iff (Guard : ι → Prop) (s : σ) (inputs : List ι) :
    (∀ p ∈ steps step s inputs, Guard p.2) ↔ ∀ i ∈ inputs, Guard i := by
  induction inputs generalizing s with
  | nil => simp [steps]
  | cons i rest ih => simp only [steps, List.forall_mem_cons, ih]

/-- Invariant rule: what every admitted step preserves holds after the run. -/
theorem run_invariant {Inv : σ → Prop} {Admitted : ι → Prop}
    (hstep : ∀ s i, Inv s → Admitted i → Inv (step s i))
    (s : σ) (inputs : List ι) (hs : Inv s) (ha : ∀ i ∈ inputs, Admitted i) :
    Inv (run step s inputs) := by
  induction inputs generalizing s with
  | nil => exact hs
  | cons i rest ih =>
    exact ih (step s i) (hstep s i hs (ha i List.mem_cons_self))
      (fun j hj ↦ ha j (List.mem_cons_of_mem i hj))

/-- Invariant rule under a guard: what every guarded step preserves holds after a run whose steps
all meet the guard. -/
theorem run_invariant_of_guard {Inv : σ → Prop} {Guard : σ → ι → Prop}
    (hkeep : ∀ s i, Inv s → Guard s i → Inv (step s i))
    (s : σ) (inputs : List ι) (hs : Inv s) (h : ∀ p ∈ steps step s inputs, Guard p.1 p.2) :
    Inv (run step s inputs) := by
  induction inputs generalizing s with
  | nil => exact hs
  | cons i rest ih =>
    simp only [steps, List.forall_mem_cons] at h
    exact ih (step s i) (hkeep s i hs h.1) h.2

/-- Guard rule: when a guard keeps an invariant and makes the step safe under it, a run whose
steps all meet the guard is safe at every step. -/
theorem steps_safe_of_guard {Inv : σ → Prop} {Safe Guard : σ → ι → Prop}
    (hsafe : ∀ s i, Inv s → Guard s i → Safe s i)
    (hkeep : ∀ s i, Inv s → Guard s i → Inv (step s i))
    (s : σ) (inputs : List ι) (hs : Inv s) (h : ∀ p ∈ steps step s inputs, Guard p.1 p.2) :
    ∀ p ∈ steps step s inputs, Safe p.1 p.2 := by
  induction inputs generalizing s with
  | nil => simp [steps]
  | cons i rest ih =>
    simp only [steps, List.forall_mem_cons] at h ⊢
    exact ⟨hsafe s i hs h.1, ih (step s i) (hkeep s i hs h.1) h.2⟩

/-- Exact-guard rule: under an invariant that guarded steps keep, a run is safe at every
step exactly when every step meets its guard. -/
theorem steps_safe_iff {Inv : σ → Prop} {Admitted : ι → Prop} {Safe Guard : σ → ι → Prop}
    (hsafe : ∀ s i, Inv s → Admitted i → (Safe s i ↔ Guard s i))
    (hkeep : ∀ s i, Inv s → Admitted i → Guard s i → Inv (step s i))
    (s : σ) (inputs : List ι) (hs : Inv s) (ha : ∀ i ∈ inputs, Admitted i) :
    (∀ p ∈ steps step s inputs, Safe p.1 p.2) ↔
      ∀ p ∈ steps step s inputs, Guard p.1 p.2 := by
  induction inputs generalizing s with
  | nil => simp [steps]
  | cons i rest ih =>
    have hi : Admitted i := ha i List.mem_cons_self
    have hrest : ∀ j ∈ rest, Admitted j := fun j hj ↦ ha j (List.mem_cons_of_mem i hj)
    simp only [steps, List.forall_mem_cons, hsafe s i hs hi]
    constructor
    · rintro ⟨hg, htail⟩
      exact ⟨hg, (ih (step s i) (hkeep s i hs hi hg) hrest).mp htail⟩
    · rintro ⟨hg, htail⟩
      exact ⟨hg, (ih (step s i) (hkeep s i hs hi hg) hrest).mpr htail⟩

/-- Guard rule for inputs in order, such as that of their times: the invariant says which inputs may
come next. -/
theorem ordered_steps_safe_of_guard {R : ι → ι → Prop} {Inv : ι → σ → Prop}
    {Safe Guard : σ → ι → Prop} (hsafe : ∀ s i, Inv i s → Guard s i → Safe s i)
    (hkeep : ∀ s i j, Inv i s → Guard s i → R i j → Inv j (step s i))
    (s : σ) (inputs : List ι) (hs : ∀ i ∈ inputs, Inv i s) (horder : inputs.Pairwise R)
    (h : ∀ p ∈ steps step s inputs, Guard p.1 p.2) : ∀ p ∈ steps step s inputs, Safe p.1 p.2 := by
  induction inputs generalizing s with
  | nil => simp [steps]
  | cons i rest ih =>
    obtain ⟨hfirst, hrest⟩ := List.pairwise_cons.mp horder
    have hi : Inv i s := hs i List.mem_cons_self
    simp only [steps, List.forall_mem_cons] at h ⊢
    refine ⟨hsafe s i hi h.1, ih (step s i) (fun j hj ↦ ?_) hrest h.2⟩
    exact hkeep s i j hi h.1 (hfirst j hj)

/-- Exact-guard rule for inputs in order, such as that of their times: the invariant says which
inputs may come next. -/
theorem ordered_steps_safe_iff {R : ι → ι → Prop} {Inv : ι → σ → Prop} {Safe Guard : σ → ι → Prop}
    (hsafe : ∀ s i, Inv i s → (Safe s i ↔ Guard s i))
    (hkeep : ∀ s i j, Inv i s → Guard s i → R i j → Inv j (step s i))
    (s : σ) (inputs : List ι) (hs : ∀ i ∈ inputs, Inv i s) (horder : inputs.Pairwise R) :
    (∀ p ∈ steps step s inputs, Safe p.1 p.2) ↔
      ∀ p ∈ steps step s inputs, Guard p.1 p.2 := by
  induction inputs generalizing s with
  | nil => simp [steps]
  | cons i rest ih =>
    obtain ⟨hfirst, hrest⟩ := List.pairwise_cons.mp horder
    have hi : Inv i s := hs i List.mem_cons_self
    simp only [steps, List.forall_mem_cons, hsafe s i hi]
    refine and_congr_right fun hg ↦ ih (step s i) (fun j hj ↦ ?_) hrest
    exact hkeep s i j hi hg (hfirst j hj)

/-- Lasting-fault rule: when a state is sound exactly if the one before it was and the step met
its guard, a run ends soundly exactly if it started so and all its steps met their guards. -/
theorem run_sound_iff {Sound : σ → Prop} {Guard : σ → ι → Prop}
    (hstep : ∀ s i, Sound (step s i) ↔ Sound s ∧ Guard s i) (s : σ) (inputs : List ι) :
    Sound (run step s inputs) ↔ Sound s ∧ ∀ p ∈ steps step s inputs, Guard p.1 p.2 := by
  induction inputs generalizing s with
  | nil => simp [run, steps]
  | cons i rest ih => rw [run, ih, hstep, steps, List.forall_mem_cons, and_assoc]

end LcpGateway.Base
