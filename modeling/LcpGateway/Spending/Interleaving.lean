import LcpGateway.Base.Interleave
import LcpGateway.Spending.Conservation

/-!
# Increments at once

Library `Spending`. Source `src/server/handler.py:816–866`. An increment reads the rows of its
budgets and later commits spends computed from them, with other requests in between. The spend
is conserved as long as every commit finds the row its call has read.
-/

namespace LcpGateway.Spending
open LcpGateway.Base

/-- Calls of `_increment_budget_spend` in two steps: the query, and the commit. -/
def incrementCalls {ι : Type} (calls : ι → Charge) : TwoStep ι Ledger (List Budget) where
  read := fun i l ↦ l.matching (calls i)
  commit := fun i seen l ↦ l.commitCharge (calls i) seen

/-- The two steps without a pause are the increment. -/
theorem incrementCalls_atomic {ι : Type} (calls : ι → Charge) (l : Ledger) (i : ι) :
    (incrementCalls calls).atomic l i = (l.increment (calls i)).1 :=
  (l.increment_fst (calls i)).symm

/-- What a call has read of the budget of an id is still its row. -/
def RowAsRead {ι : Type} (id : Nat) (c : InFlight ι Ledger (List Budget)) (i : ι) : Prop :=
  ((c.seen i).getD []).find? (fun b ↦ b.id = id) = c.store.find id

/-- The thresholds of a budget can be read where they matter. -/
def Budget.Readable (b : Budget) : Prop := 0 < b.amount → b.thresholds.isSome

/-- The budget of an id exists, and every row, stored or read, can be charged. -/
structure Sound {ι : Type} (id : Nat) (c : InFlight ι Ledger (List Budget)) : Prop where
  found : (c.store.find id).isSome
  stored : ∀ b ∈ c.store.rows, b.Readable
  seen : ∀ i rows, c.seen i = some rows → ∀ b ∈ rows, b.Readable

/-- Rows that can be charged are. -/
theorem isSome_mapM_charge {c : Charge} {rows : List Budget} (h : ∀ b ∈ rows, b.Readable) :
    (rows.mapM (charge c)).isSome := by
  rw [isSome_mapM_iff]
  intro b hb
  exact (charge_isSome_iff c b).mpr (h b hb)

/-- A commit leaves rows that can be charged. -/
theorem readable_commitCharge {l : Ledger} {c : Charge} {rows : List Budget}
    (h : ∀ b ∈ l.rows, b.Readable) : ∀ b ∈ (l.commitCharge c rows).rows, b.Readable := by
  unfold Ledger.commitCharge
  split
  · intro b hb
    obtain ⟨row, hrow, rfl⟩ := List.mem_map.mp hb
    cases List.find? _ _ <;> exact h row hrow
  · exact h

section Run

variable {ι : Type} [DecidableEq ι] {calls : ι → Charge} {id : Nat}

/-- Every step of every call keeps the table sound. -/
theorem Sound.step {c : InFlight ι Ledger (List Budget)} (h : Sound id c) (event : Phase ι) :
    Sound id ((incrementCalls calls).step c event) := by
  cases event with
  | read i =>
    refine ⟨h.found, h.stored, ?_⟩
    intro j rows hrows
    by_cases hj : j = i
    · subst hj
      simp only [TwoStep.step, Function.update_self, Option.some.injEq] at hrows
      subst hrows
      exact fun b hb ↦ h.stored b (List.mem_filter.mp hb).1
    · simp only [TwoStep.step, Function.update_of_ne hj] at hrows
      exact h.seen j rows hrows
  | commit i =>
    simp only [TwoStep.step]
    split
    · next rows hrows =>
      refine ⟨?_, readable_commitCharge h.stored, h.seen⟩
      have hcharged := isSome_mapM_charge (c := calls i) (h.seen i rows hrows)
      change ((c.store.commitCharge (calls i) rows).find id).isSome
      rw [Ledger.find_commitCharge _ _ hcharged, Option.isSome_map]
      exact h.found
    · exact h

/-- A commit that finds the row its call has read adds its cost. -/
theorem spend_commit {c : InFlight ι Ledger (List Budget)} (h : Sound id c) {i : ι}
    (hrow : RowAsRead id c i) :
    (((incrementCalls calls).step c (.commit i)).store.find id).map Budget.currentSpend =
      ((c.store.find id).map Budget.currentSpend).map (fun s ↦ s.add (calls i).cost) := by
  obtain ⟨b, hb⟩ := Option.isSome_iff_exists.mp h.found
  rw [RowAsRead, hb] at hrow
  cases hseen : c.seen i with
  | none => simp [hseen] at hrow
  | some rows =>
    simp only [hseen, Option.getD_some] at hrow
    have hcharged := isSome_mapM_charge (c := calls i) (h.seen i rows hseen)
    obtain ⟨x, hx⟩ := Option.isSome_iff_exists.mp
      ((charge_isSome_iff (calls i) b).mpr (h.stored b (Table.mem_of_find hb).1))
    have hstore : ((incrementCalls calls).step c (.commit i)).store =
        c.store.commitCharge (calls i) rows := by
      simp [TwoStep.step, hseen, incrementCalls]
    rw [hstore, Ledger.find_commitCharge _ _ hcharged, hrow, hb]
    simp [hx, writeTo_before hx]

omit [DecidableEq ι] in
private theorem foldl_map_add (events : List ι) (s : Rounded 6) :
    events.foldl (fun s i ↦ s.map (fun s ↦ s.add (calls i).cost)) (some s) =
      some ((events.map (fun i ↦ (calls i).cost)).foldl Rounded.add s) := by
  induction events generalizing s with
  | nil => rfl
  | cons i rest ih => exact ih (s.add (calls i).cost)

/-- In every interleaving of increments of which each commits to the row it has read, no cost is
lost: the spend is the running total in the order of the commits, and so the initial spend and
the sum of all costs up to half a unit of the sixth digit for each call. -/
theorem no_increment_lost (l : Ledger) (b : Budget) (hb : l.find id = some b)
    (hreadable : ∀ b ∈ l.rows, b.Readable) (ids : List ι) (events : List (Phase ι))
    (hevents : Interleaving ids events)
    (hrows : ∀ p ∈ steps (incrementCalls calls).step (.start l) events,
      ∀ i, p.2 = .commit i → RowAsRead id p.1 i) :
    ∃ b', (run (incrementCalls calls).step (.start l) events).store.find id = some b' ∧
      b'.currentSpend = ((commitOrder events).map (fun i ↦ (calls i).cost)).foldl Rounded.add
        b.currentSpend ∧
      |b'.currentSpend.value - (b.currentSpend.value + (ids.map (fun i ↦ (calls i).cost)).sum)| ≤
        ids.length * (1 / 2 / 10 ^ 6) := by
  have hsound : Sound id (InFlight.start l : InFlight ι Ledger (List Budget)) :=
    ⟨by simp [InFlight.start, hb], hreadable, by simp [InFlight.start]⟩
  have hkeep : ∀ (c : InFlight ι Ledger (List Budget)) event, Sound id c →
      Sound id ((incrementCalls calls).step c event) := fun c event hc ↦ hc.step event
  have hcommit : ∀ (c : InFlight ι Ledger (List Budget)) i, Sound id c → RowAsRead id c i →
      (((incrementCalls calls).step c (.commit i)).store.find id).map Budget.currentSpend =
        ((c.store.find id).map Budget.currentSpend).map (fun s ↦ s.add (calls i).cost) :=
    fun c i hc hrow ↦ spend_commit hc hrow
  have hrun := (incrementCalls calls).observe_run
    (fun l : Ledger ↦ (l.find id).map Budget.currentSpend)
    (fun s i ↦ s.map (fun s ↦ s.add (calls i).cost)) hkeep hcommit (.start l) events hsound hrows
  simp only [InFlight.start, hb, Option.map_some, foldl_map_add] at hrun
  obtain ⟨b', hb', hspend⟩ := Option.map_eq_some_iff.mp hrun
  refine ⟨b', hb', hspend, ?_⟩
  have hperm := hevents.commitOrder_perm.map (fun i ↦ (calls i).cost)
  have hbound := b.currentSpend.abs_foldl_add_sub_le
    ((commitOrder events).map (fun i ↦ (calls i).cost))
  rw [← hspend, hperm.sum_eq, hperm.length_eq, List.length_map] at hbound
  exact hbound

end Run

/-- Two requests of a dollar each, one after the other. -/
theorem two_dollars_in_turn :
    ∃ b', (run (incrementCalls fun _ : Bool ↦ piCharge 1).step (.start tenDollarLedger)
        (serial false true)).store.find 1 = some b' ∧
      b'.currentSpend.value = 2 := by
  have hevents : Interleaving [false, true] (serial false true) :=
    .cons (.cons .nil (.left (.left .nil))) (.left (.left (.right (.right .nil))))
  have hrows : ∀ p ∈ steps (incrementCalls fun _ : Bool ↦ piCharge 1).step
      (.start tenDollarLedger) (serial false true),
      ∀ i, p.2 = .commit i → RowAsRead 1 p.1 i := by
    simp only [steps, serial, List.forall_mem_cons, List.not_mem_nil, reduceCtorEq,
      Phase.commit.injEq, false_implies, implies_true, forall_eq', true_and, and_true]
    unfold RowAsRead
    exact ⟨by decide +kernel, by decide +kernel⟩
  obtain ⟨b', hb', hspend, _⟩ := no_increment_lost tenDollarLedger tenDollars rfl
    (fun b hb _ ↦ by obtain rfl := List.mem_singleton.mp hb; decide) [false, true] _ hevents hrows
  refine ⟨b', hb', ?_⟩
  rw [hspend]
  decide +kernel

/-- Two requests of a dollar each that both read before one commits: one dollar is lost. -/
theorem dollar_lost :
    let events : List (Phase Bool) := [.read false, .read true, .commit false, .commit true]
    Interleaving [false, true] events ∧
      ((run (incrementCalls fun _ : Bool ↦ piCharge 1).step (.start tenDollarLedger)
        events).store.find 1).map (fun b ↦ b.currentSpend.value) = some 1 := by
  intro events
  have hevents : Interleaving [false, true] events :=
    .cons (.cons .nil (.left (.left .nil))) (.left (.right (.left (.right .nil))))
  exact ⟨hevents, by decide +kernel⟩

end LcpGateway.Spending
