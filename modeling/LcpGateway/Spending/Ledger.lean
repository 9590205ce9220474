import LcpGateway.Base.Json
import LcpGateway.Spending.Budget

/-!
# What an operation does to one budget

Library `Spending`. Sources `src/server/handler.py:816–866` and `src/server/endpoints.py:1641–1686,
1890–1928`. Every operation, read off at the row of one id: the lemmas that every result about
runs is derived from.
-/

namespace LcpGateway.Spending
open LcpGateway.Base

/-! ### One row -/

/-- A charge keeps the id, and reports on the row it charged. -/
theorem eq_of_charge {c : Charge} {b : Budget} {x : Charged} (h : charge c b = some x) :
    x.before = b ∧ x.after = b.charged c.cost c.now := by
  unfold charge at h
  dsimp only at h
  split at h
  · obtain ⟨ts, _, rfl⟩ := Option.map_eq_some_iff.mp h
    exact ⟨rfl, rfl⟩
  · obtain rfl := Option.some.inj h
    exact ⟨rfl, rfl⟩

/-- A charge raises exactly on a budget with an amount whose thresholds cannot be read. -/
theorem charge_isSome_iff (c : Charge) (b : Budget) :
    (charge c b).isSome ↔ (0 < b.amount → b.thresholds.isSome) := by
  unfold charge
  dsimp only
  by_cases hamount : 0 < b.amount <;> simp [hamount]

namespace Budget

/-- The spend after a charge. -/
@[simp] theorem currentSpend_charged (b : Budget) (cost : Rat) (now : String) :
    (b.charged cost now).currentSpend = b.currentSpend.add cost := by
  unfold charged
  dsimp only
  split <;> rfl

/-- A charge keeps the id. -/
@[simp] theorem id_charged (b : Budget) (cost : Rat) (now : String) :
    (b.charged cost now).id = b.id := by
  unfold charged
  dsimp only
  split <;> rfl

/-- A charge keeps the amount. -/
@[simp] theorem amount_charged (b : Budget) (cost : Rat) (now : String) :
    (b.charged cost now).amount = b.amount := by
  unfold charged
  dsimp only
  split <;> rfl

/-- A charge keeps the thresholds. -/
@[simp] theorem thresholds_charged (b : Budget) (cost : Rat) (now : String) :
    (b.charged cost now).thresholds = b.thresholds := by
  unfold charged
  dsimp only
  split <;> rfl

end Budget

private theorem ite_eq_self {α : Type} [DecidableEq α] (new old : α) :
    (if new = old then old else new) = new := by
  split
  · next h => exact h.symm
  · rfl

/-- Writing a charge to the row it was computed from gives the charged row. -/
theorem writeTo_before {c : Charge} {b : Budget} {x : Charged} (h : charge c b = some x) :
    x.writeTo b = b.charged c.cost c.now := by
  obtain ⟨hbefore, hafter⟩ := eq_of_charge h
  simp only [Charged.writeTo, hbefore, hafter, ite_eq_self]
  unfold Budget.charged
  dsimp only
  split <;> rfl

/-- Charging one row after another: the charge of an id is the charge of its row. -/
theorem find?_mapM_charge {c : Charge} {bs : List Budget} {xs : List Charged}
    (h : bs.mapM (charge c) = some xs) (id : Nat) :
    xs.find? (fun x ↦ x.before.id = id) = (bs.find? (fun b ↦ b.id = id)).bind (charge c) := by
  induction bs generalizing xs with
  | nil =>
    cases h
    rfl
  | cons b rest ih =>
    rw [List.mapM_cons] at h
    cases hb : charge c b with
    | none => simp [hb] at h
    | some x =>
      cases hrest : rest.mapM (charge c) with
      | none => simp [hb, hrest] at h
      | some ys =>
        simp only [hb, hrest, Option.bind_eq_bind, Option.bind_some, Option.pure_def,
          Option.some.injEq] at h
        subst h
        have hbefore := (eq_of_charge hb).1
        by_cases hid : b.id = id
        · simp [hbefore, hid, hb]
        · simp [hbefore, hid, ih hrest]

/-! ### One row of a table -/

namespace Ledger

variable (l : Ledger) (c : Charge) (id : Nat)

/-- The row of an id among those a charge goes to. -/
theorem find?_matching :
    (l.matching c).find? (fun b ↦ b.id = id) =
      (l.find id).filter (fun b ↦ b.takes c) :=
  l.find?_filter _ id

/-- What a commit does to a row: it writes what the charge made of the row that was read. -/
theorem find_commitCharge {c : Charge} {seen : List Budget}
    (hseen : (seen.mapM (charge c)).isSome) :
    (l.commitCharge c seen).find id = (l.find id).map (fun row ↦
      ((seen.find? (fun b ↦ b.id = id)).bind (charge c)).elim row (fun x ↦ x.writeTo row)) := by
  obtain ⟨xs, hxs⟩ := Option.isSome_iff_exists.mp hseen
  rw [commitCharge, hxs]
  dsimp only
  rw [flush, Table.find_rewrite, ← find?_mapM_charge hxs]
  cases hfind : l.find id with
  | none => rfl
  | some row =>
    obtain rfl := (Table.mem_of_find hfind).2
    rfl

/-- The increment is its two steps without a pause. -/
theorem increment_fst : (l.increment c).1 = l.commitCharge c (l.matching c) := by
  unfold increment commitCharge
  cases (l.matching c).mapM (charge c) <;> rfl

/-- The thresholds of every budget a charge goes to can be read where they matter. -/
def Chargeable : Prop := ∀ b ∈ l.matching c, 0 < b.amount → b.thresholds.isSome

/-- A charge that goes through charges every row it goes to; any other one charges none. -/
theorem isSome_charges_iff : ((l.matching c).mapM (charge c)).isSome ↔ l.Chargeable c := by
  rw [isSome_mapM_iff]
  exact forall₂_congr fun b _ ↦ charge_isSome_iff c b

/-- What an increment does to a row. -/
theorem find_increment (hcharge : l.Chargeable c) :
    (l.increment c).1.find id =
      (l.find id).map (fun b ↦ if b.takes c then b.charged c.cost c.now else b) := by
  have hseen := (l.isSome_charges_iff c).mpr hcharge
  rw [increment_fst, find_commitCharge _ _ hseen, find?_matching]
  cases hfind : l.find id with
  | none => rfl
  | some b =>
    by_cases htakes : b.takes c
    · have hmem : b ∈ l.matching c := List.mem_filter.mpr ⟨(Table.mem_of_find hfind).1, htakes⟩
      obtain ⟨x, hx⟩ := Option.isSome_iff_exists.mp
        ((charge_isSome_iff c b).mpr (hcharge b hmem))
      simp [Option.filter_some, htakes, hx, writeTo_before hx]
    · simp [Option.filter_some, htakes]

/-- An increment that raises commits nothing. -/
theorem increment_of_not_chargeable (h : ¬ l.Chargeable c) : l.increment c = (l, []) := by
  have hnone : (l.matching c).mapM (charge c) = none := by
    rw [← Option.not_isSome_iff_eq_none, isSome_charges_iff]
    exact h
  rw [increment, hnone]

/-- An edit rewrites the row of its id and no other. -/
theorem find_edit (i : Nat) (patch : BudgetPatch) :
    (l.edit i patch).find id =
      (l.find id).map (fun b ↦ if b.id = i then patch.apply b else b) :=
  l.find_modify i id _ _

/-- A created row leaves the others alone. -/
theorem find_create {l : Ledger} {id : Nat} {b : Budget} (h : l.find id = some b)
    (new : Budget) : (l.create new).find id = some b :=
  Table.find_insert h { new with id := l.nextId } rfl

/-- An edit keeps the id and the spend of a row. -/
theorem find_edit_spend (i : Nat) (patch : BudgetPatch) {b : Budget} (h : l.find id = some b) :
    ∃ b', (l.edit i patch).find id = some b' ∧ b'.currentSpend = b.currentSpend := by
  rw [find_edit, h]
  refine ⟨_, rfl, ?_⟩
  dsimp only
  split <;> rfl

/-- A budget edit keeps every spend. -/
theorem find_serveBudgetUpdate (budgetId : String) (patch : BudgetPatch) {b : Budget}
    (h : l.find id = some b) :
    ∃ b', (l.serveBudgetUpdate budgetId patch).1.find id = some b' ∧
      b'.currentSpend = b.currentSpend := by
  unfold serveBudgetUpdate
  split
  · exact ⟨b, h, rfl⟩
  · split
    · exact ⟨b, h, rfl⟩
    · split
      · exact ⟨b, h, rfl⟩
      · exact l.find_edit_spend id _ patch h

/-- An edit through a profile keeps every spend, also when it creates a budget. -/
theorem find_serveProfileBudgetUpdate (name : String) (patch : BudgetPatch) {b : Budget}
    (h : l.find id = some b) :
    ∃ b', (l.serveProfileBudgetUpdate name patch).1.find id = some b' ∧
      b'.currentSpend = b.currentSpend := by
  unfold serveProfileBudgetUpdate
  split
  · exact ⟨b, h, rfl⟩
  · split
    · exact l.find_edit_spend id _ _ h
    · exact ⟨b, find_create h _, rfl⟩

/-- A blocking budget in scope makes the check answer a name. -/
theorem checkBudgetBlock_isSome {l : Ledger} {b : Budget} {profile : String} {keyId : Option Nat}
    (hmem : b ∈ l.rows) (hscope : b.inScope profile keyId) (hblocks : b.blocks) :
    ∃ b' ∈ l.rows, l.checkBudgetBlock profile keyId = some b'.name := by
  have hsome : (l.rows.find? (fun b ↦ b.inScope profile keyId && b.blocks)).isSome := by
    rw [List.find?_isSome]
    exact ⟨b, hmem, by simp [hscope, hblocks]⟩
  obtain ⟨b', hb'⟩ := Option.isSome_iff_exists.mp hsome
  exact ⟨b', List.mem_of_find?_eq_some hb', by rw [checkBudgetBlock, hb', Option.map_some]⟩

/-- A blocking budget in scope makes the handler reject, unless a budget has an empty name. -/
theorem rejects_of_blocks {l : Ledger} {b : Budget} {profile : String} {keyId : Option Nat}
    (hmem : b ∈ l.rows) (hscope : b.inScope profile keyId) (hblocks : b.blocks)
    (hnames : ∀ b' ∈ l.rows, b'.name ≠ "") : l.rejects profile keyId := by
  obtain ⟨b', hb', hcheck⟩ := checkBudgetBlock_isSome hmem hscope hblocks
  simp [rejects, hcheck, hnames b' hb']

end Ledger
end LcpGateway.Spending
