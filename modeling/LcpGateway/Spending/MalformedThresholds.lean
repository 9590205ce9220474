import LcpGateway.Spending.Conservation

/-!
# Thresholds that cannot be read

Library `Spending`. Sources `src/server/handler.py:816–866` and `src/server/endpoints.py:1641–1686,
1865–1928`. The endpoints store a list of thresholds as it is given. An increment reads the lists of
all budgets it goes to, and commits their spends together or not at all.
-/

namespace LcpGateway.Spending
open LcpGateway.Base

namespace Ledger

/-- The cost is added to the spend of every budget that the charge goes to. -/
def Records (l : Ledger) (c : Charge) : Prop :=
  ∀ b ∈ l.matching c, ∃ b', (l.increment c).1.find b.id = some b' ∧
    b'.currentSpend = b.currentSpend.add c.cost

/-- The cost is lost in the rounding of every spend it goes to. -/
def Negligible (l : Ledger) (c : Charge) : Prop :=
  ∀ b ∈ l.matching c, b.currentSpend.add c.cost = b.currentSpend

instance (l : Ledger) (c : Charge) : Decidable (l.Chargeable c) :=
  inferInstanceAs (Decidable (∀ b ∈ l.matching c, 0 < b.amount → b.thresholds.isSome = true))

instance (l : Ledger) (c : Charge) : Decidable (l.Negligible c) :=
  inferInstanceAs (Decidable (∀ b ∈ l.matching c, b.currentSpend.add c.cost = b.currentSpend))

variable {l : Ledger} {c : Charge}

/-- A budget that a charge goes to is the row of its id. -/
theorem find_of_mem_matching {b : Budget} (h : b ∈ l.matching c) :
    l.find b.id = some b ∧ b.takes c = true := by
  obtain ⟨hmem, htakes⟩ := List.mem_filter.mp h
  exact ⟨Table.find_of_mem hmem, htakes⟩

/-- A charge that goes through is recorded. -/
theorem Chargeable.records (h : l.Chargeable c) : l.Records c := by
  intro b hb
  obtain ⟨hfind, htakes⟩ := find_of_mem_matching hb
  refine ⟨b.charged c.cost c.now, ?_, b.currentSpend_charged c.cost c.now⟩
  rw [find_increment l c b.id h, hfind, Option.map_some, if_pos htakes]

/-- A charge that does not go through leaves every spend. -/
theorem records_iff_negligible (h : ¬ l.Chargeable c) : l.Records c ↔ l.Negligible c := by
  unfold Records Negligible
  rw [increment_of_not_chargeable l c h]
  refine forall₂_congr fun b hb ↦ ?_
  rw [(find_of_mem_matching hb).1]
  constructor
  · rintro ⟨b', hb', hspend⟩
    rw [hspend.symm, Option.some.inj hb']
  · exact fun hspend ↦ ⟨b, rfl, hspend.symm⟩

/-- A cost is recorded with every budget it goes to exactly when the thresholds of those that have
an amount can all be read, or the cost is negligible. -/
theorem records_iff (l : Ledger) (c : Charge) :
    l.Records c ↔ l.Chargeable c ∨ l.Negligible c := by
  by_cases h : l.Chargeable c
  · exact iff_of_true h.records (.inl h)
  · rw [records_iff_negligible h]
    exact ⟨.inr, fun hor ↦ hor.resolve_left h⟩

/-- One list that cannot be read keeps a cost that matters from every budget it goes to. -/
theorem not_recorded_anywhere {b : Budget} (hb : b ∈ l.matching c) (hamount : 0 < b.amount)
    (hmalformed : b.thresholds = none) :
    ∀ other ∈ l.matching c, (l.increment c).1.find other.id = some other := by
  have h : ¬ l.Chargeable c := by
    intro hcharge
    have hread := hcharge b hb hamount
    rw [hmalformed] at hread
    cases hread
  intro other hother
  rw [increment_of_not_chargeable l c h]
  exact (find_of_mem_matching hother).1

/-- A new budget has the list that was given for it. -/
theorem find_serveBudgetCreate (patch : BudgetPatch) (text : String)
    (hamount : patch.amountReadable = true) (htext : patch.thresholdPct = some (some text)) :
    ∃ b, (l.serveBudgetCreate patch).1.find l.nextId = some b ∧ b.thresholdPct = some text := by
  rw [serveBudgetCreate, hamount, if_neg (by decide)]
  refine ⟨_, Table.find_insert_self l _ rfl, ?_⟩
  rw [BudgetPatch.create, htext, Option.getD_some]

end Ledger

/-- A budget of a hundred dollars for every profile, with a list of thresholds. -/
def hundredDollars (thresholds : String) : BudgetPatch :=
  ⟨some "all", none, none, some (some 100), none, some (some thresholds), none, none⟩

/-- A budget with a good list, and one whose list has a percent sign. -/
def percentSign : Ledger :=
  run Ledger.step Table.empty
    [.create (hundredDollars "80"), .create (hundredDollars "50,80%")]

/-- The second budget keeps a cost from the first one. -/
theorem not_records_percentSign : ¬ percentSign.Records (piCharge 3) := by
  have hcharge : ¬ percentSign.Chargeable (piCharge 3) := by decide +kernel
  rw [Ledger.records_iff_negligible hcharge]
  decide +kernel

end LcpGateway.Spending
