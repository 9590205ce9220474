import Mathlib.Algebra.Order.Ring.Defs
import Mathlib.Data.Nat.Cast.Basic

/-!
# A gate that shuts after failures

Library `Base`. Requests pass a gate that counts their failures. At a limit the gate shuts for a
time, and then lets requests through on trial; the first failure shuts it again. Requests overlap:
one that has passed fails later, with others in between. While none of them succeeds, a limit on
those under way at once bounds how many pass in a span of time.
-/

namespace LcpGateway.Base

universe u

/-- What a gate is doing. -/
inductive GatePhase (T : Type u) where
  | counting (failures : Nat)
  | shut (opens : T)
  | trial

/-- What a gate sees: a look that sends nothing, a request that passes, a request that has failed,
and a request whose end it is not told of. -/
inductive GateEvent where
  | look
  | send
  | failure
  | untold
  deriving DecidableEq

/-- The requests that passed, those still under way, and those the gate was not told of. -/
structure Traffic where
  sent : Nat
  underWay : Nat
  untold : Nat
  deriving DecidableEq, Repr

/-- The traffic after an event. -/
def Traffic.after (t : Traffic) : GateEvent → Traffic
  | .look => t
  | .send => { t with sent := t.sent + 1, underWay := t.underWay + 1 }
  | .failure => { t with underWay := t.underWay - 1 }
  | .untold => { t with underWay := t.underWay - 1, untold := t.untold + 1 }

section Gate

variable {T : Type u} [Semiring T] [LinearOrder T] [IsOrderedRing T]

/-- What an event may make of a gate that shuts for a time of `wait`. -/
inductive GateLeads (limit : Nat) (wait now : T) : GatePhase T → GateEvent → GatePhase T → Prop
  | look (p : GatePhase T) : GateLeads limit wait now p .look p
  | untold (p : GatePhase T) : GateLeads limit wait now p .untold p
  | send (failures : Nat) : GateLeads limit wait now (.counting failures) .send (.counting failures)
  | retry : GateLeads limit wait now .trial .send .trial
  | reopen {opens : T} {event : GateEvent} (h : opens ≤ now)
      (hevent : event = .look ∨ event = .send) : GateLeads limit wait now (.shut opens) event .trial
  | count {failures more : Nat} (hmore : failures < more) (hlimit : more < limit) :
      GateLeads limit wait now (.counting failures) .failure (.counting more)
  | trip (p : GatePhase T) : GateLeads limit wait now p .failure (.shut (now + wait))

/-- What has passed by a time. A gate that is shut or on trial has been through a number of trials,
each of them at least `wait` behind the one before. -/
def WithinBound (limit : Nat) (wait : T) (width : Nat) (start now : T) (t : Traffic) :
    GatePhase T → Prop
  | .counting failures => failures < limit ∧ t.sent ≤ failures + t.underWay + t.untold
  | .shut opens => ∃ trials : Nat, (0 < trials → start + trials * wait ≤ opens) ∧
      start + (trials - 1 : Nat) * wait ≤ now ∧ t.sent < limit + width * trials + t.untold
  | .trial => ∃ trials : Nat, start + trials * wait ≤ now ∧
      t.sent < limit + width * trials + t.underWay + t.untold

variable {limit width : Nat} {wait start now : T} {t : Traffic}

omit [IsOrderedRing T] in
/-- A gate nothing has passed is within its bound. -/
theorem withinBound_start (hlimit : 0 < limit) {p : GatePhase T}
    (hp : ∀ failures, p = .counting failures → failures < limit) :
    WithinBound limit wait width start start ⟨0, 0, 0⟩ p := by
  cases p with
  | counting failures => exact ⟨hp failures rfl, Nat.zero_le _⟩
  | shut opens => exact ⟨0, fun h ↦ absurd h (lt_irrefl 0), by simp, by simpa using hlimit⟩
  | trial => exact ⟨0, by simp, by simpa using hlimit⟩

omit [IsOrderedRing T] in
/-- Time that passes keeps a gate within its bound. -/
theorem WithinBound.later {p : GatePhase T} (h : WithinBound limit wait width start now t p)
    {later : T} (hle : now ≤ later) : WithinBound limit wait width start later t p := by
  cases p with
  | counting failures => exact h
  | shut opens =>
    obtain ⟨trials, hopens, hnow, hsent⟩ := h
    exact ⟨trials, hopens, hnow.trans hle, hsent⟩
  | trial =>
    obtain ⟨trials, hnow, hsent⟩ := h
    exact ⟨trials, hnow.trans hle, hsent⟩

/-- A gate that shuts waits for one trial more than it has been through. -/
theorem start_add_succ_le {trials : Nat} (h : start + trials * wait ≤ now) :
    start + (trials + 1 : Nat) * wait ≤ now + wait := by
  calc start + (trials + 1 : Nat) * wait = start + trials * wait + wait := by
        rw [Nat.cast_succ, add_mul, one_mul, add_assoc]
    _ ≤ now + wait := add_le_add_left h wait

/-- A failure that shuts the gate keeps it within its bound. -/
theorem WithinBound.trip {p : GatePhase T} (h : WithinBound limit wait width start now t p)
    (hstart : start ≤ now) (hwidth : t.underWay ≤ width) :
    WithinBound limit wait width start now (t.after .failure) (.shut (now + wait)) := by
  cases p with
  | counting failures =>
    obtain ⟨hlimit, hsent⟩ := h
    refine ⟨1, fun _ ↦ ?_, by simpa using hstart, ?_⟩
    · have hnext : start + (0 + 1 : Nat) * wait ≤ now + wait :=
        start_add_succ_le (by simpa using hstart)
      simpa using hnext
    · dsimp only [Traffic.after]
      omega
  | shut opens =>
    obtain ⟨trials, -, hnow, hsent⟩ := h
    refine ⟨trials, fun hpos ↦ ?_, hnow, hsent⟩
    have hnext := start_add_succ_le hnow
    rwa [Nat.sub_add_cancel hpos] at hnext
  | trial =>
    obtain ⟨trials, hnow, hsent⟩ := h
    refine ⟨trials + 1, fun _ ↦ start_add_succ_le hnow, by simpa using hnow, ?_⟩
    dsimp only [Traffic.after]
    rw [Nat.mul_succ]
    omega

/-- Step lemma: no event takes a gate out of its bound. -/
theorem WithinBound.step {p p' : GatePhase T} {event : GateEvent}
    (h : WithinBound limit wait width start now t p) (hstart : start ≤ now)
    (hwidth : t.underWay ≤ width) (hleads : GateLeads limit wait now p event p') :
    WithinBound limit wait width start now (t.after event) p' := by
  cases hleads with
  | look => exact h
  | untold =>
    cases p with
    | counting failures =>
      obtain ⟨hlimit, hsent⟩ := h
      exact ⟨hlimit, by dsimp only [Traffic.after]; omega⟩
    | shut opens =>
      obtain ⟨trials, hopens, hnow, hsent⟩ := h
      exact ⟨trials, hopens, hnow, by dsimp only [Traffic.after]; omega⟩
    | trial =>
      obtain ⟨trials, hnow, hsent⟩ := h
      exact ⟨trials, hnow, by dsimp only [Traffic.after]; omega⟩
  | send failures =>
    obtain ⟨hlimit, hsent⟩ := h
    exact ⟨hlimit, by dsimp only [Traffic.after]; omega⟩
  | retry =>
    obtain ⟨trials, hnow, hsent⟩ := h
    exact ⟨trials, hnow, by dsimp only [Traffic.after]; omega⟩
  | reopen hopen hevent =>
    obtain ⟨trials, hopens, hnow, hsent⟩ := h
    refine ⟨trials, ?_, ?_⟩
    · obtain rfl | hpos := Nat.eq_zero_or_pos trials
      · simpa using hstart
      · exact (hopens hpos).trans hopen
    · obtain rfl | rfl := hevent <;> dsimp only [Traffic.after] <;> omega
  | count hmore hlimit =>
    obtain ⟨-, hsent⟩ := h
    exact ⟨hlimit, by dsimp only [Traffic.after]; omega⟩
  | trip => exact h.trip hstart hwidth

omit [IsOrderedRing T] in
/-- What has passed a gate within its bound: the failures up to the limit, and the requests under
way at once for every trial and one time more. -/
theorem WithinBound.sent_lt {p : GatePhase T} (h : WithinBound limit wait width start now t p)
    (hstart : start ≤ now) (hwidth : t.underWay ≤ width) :
    ∃ trials : Nat, start + trials * wait ≤ now ∧
      t.sent < limit + width * (trials + 1) + t.untold := by
  cases p with
  | counting failures =>
    obtain ⟨hlimit, hsent⟩ := h
    exact ⟨0, by simpa using hstart, by omega⟩
  | shut opens =>
    obtain ⟨trials, -, hnow, hsent⟩ := h
    refine ⟨trials - 1, hnow, hsent.trans_le ?_⟩
    have hle : width * trials ≤ width * (trials - 1 + 1) := Nat.mul_le_mul_left width (by omega)
    omega
  | trial =>
    obtain ⟨trials, hnow, hsent⟩ := h
    exact ⟨trials, hnow, by rw [Nat.mul_succ]; omega⟩

end Gate

end LcpGateway.Base
