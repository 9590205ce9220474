import LcpGateway.Base.Rounding
import LcpGateway.Base.Table

/-!
# Budgets

Library `Spending`. Sources `src/server/handler.py:780–866`, `src/server/endpoints.py:1641–1686,
1865–1928` and `src/api/models.py:88–103`. Amounts and costs are exact; a spend is a value of
six digits, because every write of the column rounds. The creation time and the copy of a spend
in `ApiKey.total_spend` are read by no function here and left out.
-/

namespace LcpGateway.Spending
open LcpGateway.Base

/-- A row of `budgets`. -/
structure Budget where
  id : Nat
  name : String
  keyId : Option Nat
  profile : Option String
  amount : Rat
  currentSpend : Rounded 6
  period : Option String
  thresholdPct : Option String
  action : Option String
  status : Option String
  lastAlertAt : Option String
  deriving DecidableEq

/-- One threshold breach; `handler.py:844–851`. -/
structure Breach where
  budgetId : Nat
  budgetName : String
  threshold : Int
  spendPct : Rat
  limit : Rat
  currentSpend : Rat

/-- The arguments of `_increment_budget_spend`, and the time of the call. -/
structure Charge where
  profile : String
  cost : Rat
  keyId : Option Nat
  now : String

namespace Budget

/-- The profile and key clauses of the budget queries; `handler.py:791–801,823–832`. -/
def inScope (b : Budget) (profile : String) (keyId : Option Nat) : Bool :=
  (b.profile = some profile || b.profile = none) &&
    match keyId with
    | some k => b.keyId = some k || b.keyId = none
    | none => b.keyId = none

/-- `Budget.status == "active"`. -/
def isActive (b : Budget) : Bool := b.status = some "active"

/-- The filter of `_increment_budget_spend`; `handler.py:821–832`. -/
def takes (b : Budget) (c : Charge) : Bool := b.isActive && b.inScope c.profile c.keyId

/-- A budget the block check looks at that has used up its amount; `handler.py:787–804`. -/
def blocks (b : Budget) : Bool :=
  b.action = some "block" && (b.status = some "active" || b.status = some "exceeded") &&
    0 < b.amount && b.amount ≤ b.currentSpend.value

/-- `[int(t) for t in threshold_pct.split(",") if t]`; `none` is an exception. -/
def thresholds (b : Budget) : Option (List Int) :=
  b.thresholdPct.bind (fun s ↦
    (((s.toList.splitOn ',').map String.ofList).filter (· ≠ "")).mapM intOfStr)

/-- `(spend / amount) * 100`. -/
def percent (b : Budget) : Rat := b.currentSpend.value / b.amount * 100

/-- The row after a charge; `handler.py:835–836,852–854`. -/
def charged (b : Budget) (cost : Rat) (now : String) : Budget :=
  let spent := { b with currentSpend := b.currentSpend.add cost }
  if b.amount ≤ spent.currentSpend.value && 0 < b.amount then
    { spent with status := some "exceeded", lastAlertAt := some now }
  else spent

/-- The breach of a threshold by the row after a charge. -/
def breach (after : Budget) (t : Int) : Breach where
  budgetId := after.id
  budgetName := after.name
  threshold := t
  spendPct := roundDigits 1 after.percent
  limit := after.amount
  currentSpend := after.currentSpend.value

/-- The thresholds of a list that a charge crosses. -/
def crossed (before after : Budget) (ts : List Int) : List Int :=
  ts.filter (fun t ↦ before.percent < t && t ≤ after.percent)

end Budget

/-- What the loop does to one budget. -/
structure Charged where
  before : Budget
  after : Budget
  breaches : List Breach

/-- The loop body of `_increment_budget_spend`; `handler.py:834–854`. `none` is an exception. -/
def charge (c : Charge) (b : Budget) : Option Charged :=
  let after := b.charged c.cost c.now
  if 0 < b.amount then
    b.thresholds.map (fun ts ↦ ⟨b, after, (b.crossed after ts).map after.breach⟩)
  else some ⟨b, after, []⟩

/-- The columns an `UPDATE` of a charged row sets: those whose value changed. -/
def Charged.writeTo (x : Charged) (row : Budget) : Budget :=
  { row with
    currentSpend :=
      if x.after.currentSpend = x.before.currentSpend then row.currentSpend
      else x.after.currentSpend
    status := if x.after.status = x.before.status then row.status else x.after.status
    lastAlertAt :=
      if x.after.lastAlertAt = x.before.lastAlertAt then row.lastAlertAt
      else x.after.lastAlertAt }

/-- The table `budgets`. -/
abbrev Ledger : Type := Table Budget Budget.id

namespace Ledger

/-- The budgets a charge goes to. -/
def matching (l : Ledger) (c : Charge) : List Budget :=
  l.rows.filter (fun b ↦ b.takes c)

/-- `session.commit()` of the rows charged. -/
def flush (l : Ledger) (xs : List Charged) : Ledger :=
  l.rewrite
    (fun row ↦ (xs.find? (fun x ↦ x.before.id = row.id)).elim row (fun x ↦ x.writeTo row))
    (fun row ↦ by cases xs.find? (fun x ↦ x.before.id = row.id) <;> rfl)

/-- What a call commits when its query has answered `seen`; an exception commits nothing. -/
def commitCharge (l : Ledger) (c : Charge) (seen : List Budget) : Ledger :=
  match seen.mapM (charge c) with
  | some xs => l.flush xs
  | none => l

/-- `_increment_budget_spend`; `handler.py:816–866`. -/
def increment (l : Ledger) (c : Charge) : Ledger × List Breach :=
  match (l.matching c).mapM (charge c) with
  | some xs => (l.flush xs, xs.flatMap Charged.breaches)
  | none => (l, [])

/-- `_check_budget_block`; `handler.py:780–814`. -/
def checkBudgetBlock (l : Ledger) (profile : String) (keyId : Option Nat) : Option String :=
  (l.rows.find? (fun b ↦ b.inScope profile keyId && b.blocks)).map Budget.name

/-- The handler rejects a request when the check answers a name; an empty one is falsy;
`handler.py:360,388`. -/
def rejects (l : Ledger) (profile : String) (keyId : Option Nat) : Bool :=
  (l.checkBudgetBlock profile keyId).any (· ≠ "")

end Ledger

/-! ### Edits -/

/-- The body of a budget edit: a key that is missing is `none`. An amount that `float()` refuses
is `some none`. -/
structure BudgetPatch where
  name : Option String
  keyId : Option (Option Nat)
  profile : Option (Option String)
  amount : Option (Option Rat)
  period : Option (Option String)
  thresholdPct : Option (Option String)
  action : Option (Option String)
  status : Option (Option String)

namespace BudgetPatch

/-- `float(body["amount"])` goes through. -/
def amountReadable (patch : BudgetPatch) : Bool := patch.amount ≠ some none

/-- The edited row; `endpoints.py:1907–1922`. -/
def apply (patch : BudgetPatch) (b : Budget) : Budget :=
  { b with
    name := patch.name.getD b.name
    keyId := (patch.keyId.map (fun k ↦ k.filter (· ≠ 0))).getD b.keyId
    profile := (patch.profile.map (fun p ↦ p.filter (· ≠ ""))).getD b.profile
    amount := (patch.amount.bind (fun a ↦ a)).getD b.amount
    period := patch.period.getD b.period
    thresholdPct := patch.thresholdPct.getD b.thresholdPct
    action := patch.action.getD b.action
    status := patch.status.getD b.status }

/-- The row a `POST` or a first `PUT` creates; the id is assigned by the table;
`endpoints.py:1668–1676,1874–1882`. The status of the body is not read. -/
def create (patch : BudgetPatch) (name : String) (keyId : Option Nat) (profile : Option String) :
    Budget where
  id := 0
  name := patch.name.getD name
  keyId := keyId
  profile := profile
  amount := (patch.amount.bind (fun a ↦ a)).getD 0
  currentSpend := Rounded.zero
  period := patch.period.getD (some "monthly")
  thresholdPct := patch.thresholdPct.getD (some "80")
  action := patch.action.getD (some "log")
  status := some "active"
  lastAlertAt := none

end BudgetPatch

namespace Ledger

/-- The row of an id edited. -/
def edit (l : Ledger) (id : Nat) (patch : BudgetPatch) : Ledger :=
  l.modify id patch.apply (fun _ ↦ rfl)

/-- A row created under the next id. -/
def create (l : Ledger) (b : Budget) : Ledger := l.insert { b with id := l.nextId } rfl

/-- `_serve_budget_create` and its status; `endpoints.py:1865–1888`. -/
def serveBudgetCreate (l : Ledger) (patch : BudgetPatch) : Ledger × Nat :=
  if !patch.amountReadable then (l, 500)
  else
    (l.create (patch.create "" ((patch.keyId.bind (fun k ↦ k)).filter (· ≠ 0))
      ((patch.profile.bind (fun p ↦ p)).filter (· ≠ ""))), 200)

/-- `_serve_budget_update` and its status; `endpoints.py:1890–1928`. -/
def serveBudgetUpdate (l : Ledger) (budgetId : String) (patch : BudgetPatch) : Ledger × Nat :=
  match intOfStr budgetId with
  | none => (l, 400)
  | some bid =>
    match l.rows.find? (fun b ↦ (b.id : Int) = bid) with
    | none => (l, 404)
    | some b => if !patch.amountReadable then (l, 500) else (l.edit b.id patch, 200)

/-- `_serve_profile_budget_update` and its status: the key and profile of the body are not read;
`endpoints.py:1641–1686`. -/
def serveProfileBudgetUpdate (l : Ledger) (name : String) (patch : BudgetPatch) : Ledger × Nat :=
  if !patch.amountReadable then (l, 500)
  else
    match l.rows.find? (fun b ↦ b.profile = some name && b.keyId = none) with
    | some b => (l.edit b.id { patch with keyId := none, profile := none }, 200)
    | none => (l.create (patch.create (upper name ++ " Budget") none (some name)), 200)

end Ledger

end LcpGateway.Spending
