import LcpGateway.Base.Run
import LcpGateway.Spending.Ledger

/-!
# Conservation of a budget's spend

Library `Spending`. Sources `src/server/handler.py:780–866` and `src/server/endpoints.py:1641–1686,
1865–1928`. Over every sequence of recorded costs, edits and checks, the spend of a budget is the
running total of the costs that were charged to it. A budget that an edit has put out of
service, `paused` for one, takes no costs and blocks nothing.
-/

namespace LcpGateway.Spending
open LcpGateway.Base

/-- What happens to the budgets. -/
inductive BudgetOp where
  | record (c : Charge)
  | check (profile : String) (keyId : Option Nat)
  | create (patch : BudgetPatch)
  | update (budgetId : String) (patch : BudgetPatch)
  | updateProfile (name : String) (patch : BudgetPatch)

namespace Ledger

/-- The table after an operation. -/
def step (l : Ledger) : BudgetOp → Ledger
  | .record c => (l.increment c).1
  | .check _ _ => l
  | .create patch => (l.serveBudgetCreate patch).1
  | .update budgetId patch => (l.serveBudgetUpdate budgetId patch).1
  | .updateProfile name patch => (l.serveProfileBudgetUpdate name patch).1

/-- The cost an operation charges to the budget of an id: that of an increment that goes
through while the budget is active and in scope. -/
def counted (id : Nat) (l : Ledger) : BudgetOp → Option Rat
  | .record c =>
    if ((l.matching c).mapM (charge c)).isSome && (l.find id).any (fun b ↦ b.takes c) then
      some c.cost
    else none
  | _ => none

/-- What an operation does to the spend of a budget. -/
theorem find_step (l : Ledger) (op : BudgetOp) {id : Nat} {b : Budget} (h : l.find id = some b) :
    ∃ b', (l.step op).find id = some b' ∧
      b'.currentSpend = (counted id l op).toList.foldl Rounded.add b.currentSpend := by
  cases op with
  | record c =>
    by_cases hcharge : l.Chargeable c
    · have hseen := (l.isSome_charges_iff c).mpr hcharge
      rw [step, find_increment _ _ _ hcharge, h]
      refine ⟨_, rfl, ?_⟩
      by_cases htakes : b.takes c <;> simp [counted, hseen, h, htakes]
    · have hseen : ((l.matching c).mapM (charge c)).isSome = false := by
        rw [← Bool.not_eq_true, isSome_charges_iff]
        exact hcharge
      rw [step, increment_of_not_chargeable _ _ hcharge]
      exact ⟨b, h, by simp [counted, hseen]⟩
  | check profile keyId => exact ⟨b, h, rfl⟩
  | create patch =>
    simp only [step, serveBudgetCreate]
    split
    · exact ⟨b, h, rfl⟩
    · exact ⟨b, find_create h _, rfl⟩
  | update budgetId patch => exact l.find_serveBudgetUpdate id budgetId patch h
  | updateProfile name patch => exact l.find_serveProfileBudgetUpdate id name patch h

/-- The spend of a budget after a run: the running total of what was charged to it. -/
theorem find_run (l : Ledger) (ops : List BudgetOp) {id : Nat} {b : Budget}
    (h : l.find id = some b) :
    ∃ b', (run step l ops).find id = some b' ∧
      b'.currentSpend = ((steps step l ops).filterMap (fun p ↦ counted id p.1 p.2)).foldl
        Rounded.add b.currentSpend := by
  induction ops generalizing l b with
  | nil => exact ⟨b, h, rfl⟩
  | cons op rest ih =>
    obtain ⟨b₁, hb₁, hspend₁⟩ := l.find_step op h
    obtain ⟨b₂, hb₂, hspend₂⟩ := ih (l.step op) hb₁
    refine ⟨b₂, hb₂, ?_⟩
    rw [hspend₂, hspend₁, steps, List.filterMap_cons]
    cases counted id l op <;> rfl

end Ledger

/-- The budget has not been put out of service by an edit of its status. -/
def Budget.inService (b : Budget) : Bool := b.status = some "active" || b.status = some "exceeded"

/-- The cost of a recorded request in the scope of a budget that is in service. -/
def scopedCost (id : Nat) (p : Ledger × BudgetOp) : Option Rat :=
  match p.2 with
  | .record c =>
    (p.1.find id).bind (fun b ↦
      if b.inScope c.profile c.keyId && b.inService then some c.cost else none)
  | _ => none

/-- A recorded request whose increment goes through, and that is not in the scope of a budget
already exceeded. -/
def Undisputed (id : Nat) (l : Ledger) (op : BudgetOp) : Prop :=
  ∀ c, op = .record c → l.Chargeable c ∧
    ∀ b, l.find id = some b → b.inScope c.profile c.keyId → b.status ≠ some "exceeded"

/-- On an undisputed operation the cost in scope is the cost charged. -/
theorem counted_eq_scopedCost {id : Nat} {l : Ledger} {op : BudgetOp} (h : Undisputed id l op) :
    l.counted id op = scopedCost id (l, op) := by
  cases op with
  | record c =>
    obtain ⟨hcharge, hstatus⟩ := h c rfl
    have hseen := (l.isSome_charges_iff c).mpr hcharge
    simp only [Ledger.counted, scopedCost, hseen, Bool.true_and]
    cases hfind : l.find id with
    | none => simp
    | some b =>
      have hexceeded := hstatus b hfind
      by_cases hscope : b.inScope c.profile c.keyId
      · simp [Budget.takes, Budget.isActive, Budget.inService, hscope, hexceeded hscope]
      · simp [Budget.takes, hscope]
  | check | create | update | updateProfile => rfl

/-- In every run that records no cost in the scope of the budget while it is exceeded, and whose
increments go through, the spend is the running total of the costs recorded in its scope while
it was in service; and a request in scope is rejected whenever a block budget in service has
used up a positive amount, no budget having an empty name. -/
theorem spend_conserved_in_service (l : Ledger) (id : Nat) (b : Budget) (h : l.find id = some b)
    (ops : List BudgetOp)
    (hundisputed : ∀ p ∈ steps Ledger.step l ops, Undisputed id p.1 p.2) :
    ∃ b', (run Ledger.step l ops).find id = some b' ∧
      b'.currentSpend =
        ((steps Ledger.step l ops).filterMap (scopedCost id)).foldl Rounded.add b.currentSpend ∧
      ∀ profile keyId, b'.inScope profile keyId → b'.action = some "block" → b'.inService →
        0 < b'.amount → b'.amount ≤ b'.currentSpend.value →
        (∀ other ∈ (run Ledger.step l ops).rows, other.name ≠ "") →
        (run Ledger.step l ops).rejects profile keyId := by
  obtain ⟨b', hb', hspend⟩ := l.find_run ops h
  have hcosts : (steps Ledger.step l ops).filterMap (fun p ↦ Ledger.counted id p.1 p.2) =
      (steps Ledger.step l ops).filterMap (scopedCost id) :=
    List.filterMap_congr (fun p hp ↦ counted_eq_scopedCost (hundisputed p hp))
  refine ⟨b', hb', hspend.trans (by rw [hcosts]), ?_⟩
  intro profile keyId hscope haction hservice hamount hused hnames
  have hblocks : b'.blocks := by
    unfold Budget.inService at hservice
    simp [Budget.blocks, haction, hservice, hamount, hused]
  exact Ledger.rejects_of_blocks (Table.mem_of_find hb').1 hscope hblocks hnames

/-! ### A budget of one profile -/

/-- A block budget of ten dollars that nothing was charged to. -/
def tenDollars : Budget where
  id := 1
  name := "pi"
  keyId := none
  profile := some "pi"
  amount := 10
  currentSpend := Rounded.zero
  period := some "monthly"
  thresholdPct := some "80"
  action := some "block"
  status := some "active"
  lastAlertAt := none

/-- The table of this budget. -/
def tenDollarLedger : Ledger := ⟨[tenDollars], 2, by decide, by decide⟩

/-- A recorded cost of the profile. -/
def piCharge (cost : Rat) : Charge := ⟨"pi", cost, none, "2026-01-01T00:00:00+00:00"⟩

/-- An edit of the status. -/
def setStatus (status : String) : BudgetPatch :=
  ⟨none, none, none, none, none, none, none, some (some status)⟩

/-- A cost of twelve dollars is charged, and the next request is rejected. -/
theorem twelve_dollars_rejected :
    ∃ b', (run Ledger.step tenDollarLedger [.record (piCharge 12)]).find 1 = some b' ∧
      b'.currentSpend = Rounded.zero.add 12 ∧
      (run Ledger.step tenDollarLedger [.record (piCharge 12)]).rejects "pi" none := by
  have hundisputed : ∀ p ∈ steps Ledger.step tenDollarLedger [.record (piCharge 12)],
      Undisputed 1 p.1 p.2 := by
    intro p hp c hc
    obtain rfl : p = (tenDollarLedger, .record (piCharge 12)) := by simpa [steps] using hp
    obtain rfl : piCharge 12 = c := BudgetOp.record.inj hc
    refine ⟨(Ledger.isSome_charges_iff _ _).mp (by decide +kernel), ?_⟩
    intro b hb _
    obtain rfl : tenDollars = b := Option.some.inj hb
    decide
  obtain ⟨b', hb', hspend, hrejects⟩ :=
    spend_conserved_in_service tenDollarLedger 1 tenDollars rfl _ hundisputed
  have hrow : (run Ledger.step tenDollarLedger [.record (piCharge 12)]).find 1 =
      some (tenDollars.charged 12 "2026-01-01T00:00:00+00:00") := by decide +kernel
  obtain rfl := Option.some.inj (hb'.symm.trans hrow)
  refine ⟨_, hrow, hspend.trans (by decide +kernel), ?_⟩
  exact hrejects "pi" none (by decide +kernel) (by decide +kernel) (by decide +kernel)
    (by decide +kernel) (by decide +kernel) (by decide +kernel)

/-- A cost recorded while the budget is paused is never charged to it. -/
theorem paused_cost_not_counted :
    let ops := [.update "1" (setStatus "paused"), .record (piCharge 12),
      .update "1" (setStatus "active")]
    ((run Ledger.step tenDollarLedger ops).find 1).map (fun b ↦ b.currentSpend.value) = some 0 ∧
      (run Ledger.step tenDollarLedger ops).rejects "pi" none = false := by
  decide +kernel

end LcpGateway.Spending
