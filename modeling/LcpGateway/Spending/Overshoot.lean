import LcpGateway.Spending.Interleaving
import Mathlib.Data.List.Infix

/-!
# What a block budget lets through

Library `Spending`. Source `src/server/handler.py:384–398,566–572,636–645,780–866`. A request is
checked against the budgets before it is forwarded, and its cost is charged when it is over; in
between, other requests are checked against the same spend. So the requests under way when a budget
is used up still cost something, and no others do.
-/

namespace LcpGateway.Spending
open LcpGateway.Base

/-- The profile and the key a request comes with. -/
structure Caller where
  profile : String
  keyId : Option Nat
  deriving DecidableEq

/-- The caller a cost is charged for. -/
def Charge.caller (c : Charge) : Caller := ⟨c.profile, c.keyId⟩

/-- The request is in the scope of the budget. -/
def Budget.scopes (b : Budget) (caller : Caller) : Bool := b.inScope caller.profile caller.keyId

/-- A request is checked, one that was let through is charged, or ends without a cost. -/
inductive RequestEvent where
  | ask (caller : Caller)
  | charge (c : Charge)
  | leave (caller : Caller)

/-- The budgets, the requests that were let through and are not over, and what was charged. -/
structure Desk where
  ledger : Ledger
  underWay : List Caller
  charged : List Charge

namespace Desk

/-- No request has come. -/
def opened (l : Ledger) : Desk := ⟨l, [], []⟩

/-- The desk behind an event. Only a request that was let through is charged. -/
def step (s : Desk) : RequestEvent → Desk
  | .ask caller =>
    if s.ledger.rejects caller.profile caller.keyId then s
    else { s with underWay := caller :: s.underWay }
  | .charge c =>
    if c.caller ∈ s.underWay then
      ⟨(s.ledger.increment c).1, s.underWay.erase c.caller, c :: s.charged⟩
    else s
  | .leave caller => { s with underWay := s.underWay.erase caller }

/-- The requests under way in the scope of a budget. -/
def busy (b : Budget) (s : Desk) : Nat := s.underWay.countP b.scopes

/-- The costs charged in the scope of a budget. -/
def costs (b : Budget) (s : Desk) : List Rat :=
  (s.charged.filter fun c ↦ b.scopes c.caller).map Charge.cost

end Desk

/-! ### One charge -/

/-- A charge errs by half a unit of the sixth digit. -/
theorem le_currentSpend_add (x : Rounded 6) (cost : Rat) :
    x.value + cost ≤ (x.add cost).value + 1 / 2 / 10 ^ 6 := by
  have herror : |(x.add cost).value - (x.value + cost)| ≤ 1 / 2 / 10 ^ 6 :=
    abs_roundDigits_sub_le 6 (x.value + cost)
  linarith [(abs_le.mp herror).1]

/-- A commit leaves every name. -/
theorem names_commitCharge {l : Ledger} {c : Charge} {rows : List Budget}
    (h : ∀ b ∈ l.rows, b.name ≠ "") : ∀ b ∈ (l.commitCharge c rows).rows, b.name ≠ "" := by
  unfold Ledger.commitCharge
  split
  · intro b hb
    obtain ⟨row, hrow, rfl⟩ := List.mem_map.mp hb
    cases List.find? _ _ <;> exact h row hrow
  · exact h

namespace Budget

/-- What stays of a budget when it is charged. -/
structure SameRule (b row : Budget) : Prop where
  profile : row.profile = b.profile
  keyId : row.keyId = b.keyId
  amount : row.amount = b.amount
  action : row.action = b.action

/-- A charge changes the spend, the status and the time of the last alert. -/
theorem SameRule.charged {b row : Budget} (h : SameRule b row) (cost : Rat) (now : String) :
    SameRule b (row.charged cost now) := by
  unfold Budget.charged
  dsimp only
  split <;> exact ⟨h.profile, h.keyId, h.amount, h.action⟩

/-- The scope goes by the profile and the key. -/
theorem SameRule.inScope_eq {b row : Budget} (h : SameRule b row) (profile : String)
    (keyId : Option Nat) : row.inScope profile keyId = b.inScope profile keyId := by
  simp only [inScope, h.profile, h.keyId]

/-- A budget in the course of its charges: while it is active the spend accounts for what was
charged, up to its rounding; once it is exceeded, what was charged and what is under way stays
below the amount and the requests that may be under way at once. -/
inductive Course (b : Budget) (width : Nat) (most : Rat) (s : Desk) (row : Budget) : Prop
  | active (status : row.status = some "active") (below : row.currentSpend.value < b.amount)
      (account : b.currentSpend.value + (s.costs b).sum ≤
        row.currentSpend.value + (s.costs b).length * (1 / 2 / 10 ^ 6))
  | exceeded (status : row.status = some "exceeded") (used : b.amount ≤ row.currentSpend.value)
      (bound : b.currentSpend.value + (s.costs b).sum + s.busy b * most <
        b.amount + width * most + (s.costs b).length * (1 / 2 / 10 ^ 6))

end Budget

/-- The budget is in its course, and every request of its scope is checked and charged. -/
structure Desk.Sound (b : Budget) (width : Nat) (most : Rat) (s : Desk) : Prop where
  course : ∃ row, s.ledger.find b.id = some row ∧ b.SameRule row ∧ b.Course width most s row
  named : ∀ row ∈ s.ledger.rows, row.name ≠ ""
  readable : ∀ row ∈ s.ledger.rows, row.Readable

section Run

variable {b : Budget} {width : Nat} {most : Rat} {s : Desk}

/-- A request that ends or is outside the scope leaves the course. -/
theorem Budget.Course.of_busy_le {row : Budget} (h : b.Course width most s row) (hmost : 0 ≤ most)
    {s' : Desk} (hcosts : s'.costs b = s.costs b) (hbusy : s'.busy b ≤ s.busy b) :
    b.Course width most s' row := by
  cases h with
  | active status below account => exact .active status below (by rwa [hcosts])
  | exceeded status used bound =>
    refine .exceeded status used (lt_of_le_of_lt ?_ (by rwa [hcosts]))
    have hle : (s'.busy b : Rat) * most ≤ s.busy b * most :=
      mul_le_mul_of_nonneg_right (by exact_mod_cast hbusy) hmost
    rw [hcosts]
    linarith

/-- While the budget is exceeded nothing in its scope is let through. -/
theorem Desk.Sound.rejects (h : s.Sound b width most) (hblock : b.action = some "block")
    (hamount : 0 < b.amount) {row : Budget} (hrow : s.ledger.find b.id = some row)
    (hrule : b.SameRule row) (hstatus : row.status = some "exceeded")
    (hused : b.amount ≤ row.currentSpend.value) {caller : Caller} (hscope : b.scopes caller) :
    s.ledger.rejects caller.profile caller.keyId := by
  have hblocks : row.blocks := by
    simp [Budget.blocks, hrule.action, hblock, hstatus, hrule.amount, hamount, hused]
  have hin : row.inScope caller.profile caller.keyId := by
    rw [hrule.inScope_eq]
    exact hscope
  exact Ledger.rejects_of_blocks (Table.mem_of_find hrow).1 hin hblocks h.named

/-- A question keeps the desk sound. -/
theorem Desk.Sound.ask (h : s.Sound b width most) (hmost : 0 ≤ most)
    (hblock : b.action = some "block") (hamount : 0 < b.amount) (caller : Caller) :
    (s.step (.ask caller)).Sound b width most := by
  obtain ⟨row, hrow, hrule, hcourse⟩ := h.course
  rw [Desk.step]
  split
  · exact h
  · next hpass =>
    refine ⟨⟨row, hrow, hrule, ?_⟩, h.named, h.readable⟩
    by_cases hscope : b.scopes caller
    · cases hcourse with
      | active status below account => exact .active status below account
      | exceeded status used bound =>
        exact absurd (h.rejects hblock hamount hrow hrule status used hscope) hpass
    · refine hcourse.of_busy_le hmost rfl (le_of_eq ?_)
      exact List.countP_cons_of_neg hscope

/-- A request that ends without a cost keeps the desk sound. -/
theorem Desk.Sound.leave (h : s.Sound b width most) (hmost : 0 ≤ most) (caller : Caller) :
    (s.step (.leave caller)).Sound b width most := by
  obtain ⟨row, hrow, hrule, hcourse⟩ := h.course
  refine ⟨⟨row, hrow, hrule, hcourse.of_busy_le hmost rfl ?_⟩, h.named, h.readable⟩
  exact List.Sublist.countP_le List.erase_sublist

/-- What a charge in the scope of the budget adds. -/
theorem Desk.costs_charge {c : Charge} (hscope : b.scopes c.caller) {l : Ledger}
    {callers : List Caller} :
    (⟨l, callers, c :: s.charged⟩ : Desk).costs b = c.cost :: s.costs b := by
  simp [Desk.costs, hscope]

/-- A charged request is one of those under way in the scope of the budget. -/
theorem Desk.busy_erase {caller : Caller} (hmem : caller ∈ s.underWay) (hscope : b.scopes caller) :
    ((s.underWay.erase caller).countP b.scopes : Rat) + 1 = s.busy b := by
  have hperm := (List.perm_cons_erase hmem).countP_eq b.scopes
  rw [List.countP_cons_of_pos hscope] at hperm
  exact_mod_cast hperm.symm

/-- A charge in its scope keeps the course of a budget. The charge that uses the budget up is one
of those under way, so that one less is left. -/
theorem Budget.Course.charge {row : Budget} {c : Charge} (h : b.Course width most s row)
    (hrule : b.SameRule row) (hmost : 0 ≤ most) (hamount : 0 < b.amount) (hcost : c.cost ≤ most)
    (hwidth : s.busy b ≤ width) (hmem : c.caller ∈ s.underWay) (hscope : b.scopes c.caller)
    (l : Ledger) :
    b.Course width most ⟨l, s.underWay.erase c.caller, c :: s.charged⟩
      (if row.takes c then row.charged c.cost c.now else row) := by
  have hin : row.inScope c.profile c.keyId = b.scopes c.caller := hrule.inScope_eq _ _
  have hone := Desk.busy_erase hmem hscope
  cases h with
  | active status below account =>
    have htakes : row.takes c := by simp [Budget.takes, Budget.isActive, status, hin, hscope]
    rw [if_pos htakes]
    have hadd := le_currentSpend_add row.currentSpend c.cost
    by_cases hused : b.amount ≤ (row.currentSpend.add c.cost).value
    · have hstatus : (row.charged c.cost c.now).status = some "exceeded" := by
        simp [Budget.charged, hrule.amount, hused, hamount]
      refine .exceeded hstatus (by rwa [Budget.currentSpend_charged]) ?_
      rw [Desk.costs_charge hscope, List.sum_cons, List.length_cons, Nat.cast_succ]
      have hle : ((s.underWay.erase c.caller).countP b.scopes : Rat) * most + most ≤
          width * most := by
        calc ((s.underWay.erase c.caller).countP b.scopes : Rat) * most + most
            = s.busy b * most := by rw [← hone, add_mul, one_mul]
          _ ≤ width * most := mul_le_mul_of_nonneg_right (by exact_mod_cast hwidth) hmost
      change _ + ((s.underWay.erase c.caller).countP b.scopes : Rat) * most < _
      linarith
    · have hstatus : (row.charged c.cost c.now).status = some "active" := by
        simp [Budget.charged, hrule.amount, hused, status]
      refine .active hstatus (by rwa [Budget.currentSpend_charged, ← not_le]) ?_
      rw [Desk.costs_charge hscope, List.sum_cons, List.length_cons, Nat.cast_succ,
        Budget.currentSpend_charged]
      linarith
  | exceeded status used bound =>
    have htakes : ¬ row.takes c := by simp [Budget.takes, Budget.isActive, status]
    rw [if_neg htakes]
    refine .exceeded status used ?_
    rw [Desk.costs_charge hscope, List.sum_cons, List.length_cons, Nat.cast_succ]
    change _ + ((s.underWay.erase c.caller).countP b.scopes : Rat) * most < _
    rw [← hone, add_mul, one_mul] at bound
    linarith

/-- A request that is charged keeps the desk sound. -/
theorem Desk.Sound.charge (h : s.Sound b width most) (hmost : 0 ≤ most) (hamount : 0 < b.amount)
    {c : Charge} (hcost : b.scopes c.caller → c.cost ≤ most) (hwidth : s.busy b ≤ width) :
    (s.step (.charge c)).Sound b width most := by
  rw [Desk.step]
  split
  swap
  · exact h
  next hmem =>
  obtain ⟨row, hrow, hrule, hcourse⟩ := h.course
  have hchargeable : s.ledger.Chargeable c :=
    fun row hrow ↦ h.readable row (List.mem_filter.mp hrow).1
  have hfind := s.ledger.find_increment c b.id hchargeable
  rw [hrow, Option.map_some] at hfind
  have hnamed : ∀ row ∈ (s.ledger.increment c).1.rows, row.name ≠ "" := by
    rw [Ledger.increment_fst]
    exact names_commitCharge h.named
  have hreadable : ∀ row ∈ (s.ledger.increment c).1.rows, row.Readable := by
    rw [Ledger.increment_fst]
    exact readable_commitCharge h.readable
  refine ⟨⟨_, hfind, ?_, ?_⟩, hnamed, hreadable⟩
  · split
    · exact hrule.charged _ _
    · exact hrule
  by_cases hscope : b.scopes c.caller
  · exact hcourse.charge hrule hmost hamount (hcost hscope) hwidth hmem hscope _
  · have hin : row.inScope c.profile c.keyId = b.scopes c.caller := hrule.inScope_eq _ _
    have htakes : ¬ row.takes c := by simp [Budget.takes, hin, hscope]
    rw [if_neg htakes]
    refine hcourse.of_busy_le hmost ?_ ?_
    · simp [Desk.costs, hscope]
    · exact List.Sublist.countP_le List.erase_sublist

/-- Step lemma: every event keeps the desk sound. -/
theorem Desk.Sound.step (h : s.Sound b width most) (hmost : 0 ≤ most)
    (hblock : b.action = some "block") (hamount : 0 < b.amount) {event : RequestEvent}
    (hcost : ∀ c, event = .charge c → b.scopes c.caller → c.cost ≤ most)
    (hwidth : s.busy b ≤ width) : (s.step event).Sound b width most := by
  cases event with
  | ask caller => exact h.ask hmost hblock hamount caller
  | charge c => exact h.charge hmost hamount (hcost c rfl) hwidth
  | leave caller => exact h.leave hmost caller

/-- Run lemma: the desk is sound behind every run. -/
theorem Desk.Sound.run (h : s.Sound b width most) (hmost : 0 ≤ most)
    (hblock : b.action = some "block") (hamount : 0 < b.amount) {events : List RequestEvent}
    (hcost : ∀ c, .charge c ∈ events → b.scopes c.caller → c.cost ≤ most)
    (hwidth : ∀ front, front <+: events → (Base.run Desk.step s front).busy b ≤ width) :
    (Base.run Desk.step s events).Sound b width most := by
  induction events generalizing s with
  | nil => exact h
  | cons event rest ih =>
    have hfirst := h.step hmost hblock hamount
      (fun c hc ↦ hcost c (hc ▸ List.mem_cons_self)) (hwidth [] List.nil_prefix)
    refine ih hfirst (fun c hc ↦ hcost c (List.mem_cons_of_mem event hc)) fun front hfront ↦ ?_
    exact hwidth (event :: front) (List.cons_prefix_cons.mpr ⟨rfl, hfront⟩)

end Run

/-- Two requests of six dollars at once, and one that is turned away. -/
def sixDollarsTwice : List RequestEvent :=
  [.ask ⟨"pi", none⟩, .ask ⟨"pi", none⟩, .charge (piCharge 6), .charge (piCharge 6),
    .ask ⟨"pi", none⟩, .charge (piCharge 6)]

end LcpGateway.Spending
