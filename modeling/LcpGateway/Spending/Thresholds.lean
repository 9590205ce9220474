import LcpGateway.Base.Run
import LcpGateway.Spending.Ledger

/-!
# Threshold breaches

Library `Spending`. Source `src/server/handler.py:834–866`. Over a sequence of increments the
percentage of a budget never falls, so the increments cut the way from its first to its last
value into pieces and every threshold lies in one of them at most.
-/

namespace LcpGateway.Spending
open LcpGateway.Base

namespace Ledger

/-- The thresholds an increment reports for the budget of an id. -/
def reports (id : Nat) (l : Ledger) (c : Charge) : List Int :=
  ((l.increment c).2.filter (fun x ↦ x.budgetId = id)).map Breach.threshold

/-- The table after an increment. -/
def charged (l : Ledger) (c : Charge) : Ledger := (l.increment c).1

/-- The thresholds a sequence of increments reports for the budget of an id. -/
def allReports (id : Nat) (l : Ledger) (calls : List Charge) : List Int :=
  (steps charged l calls).flatMap (fun p ↦ reports id p.1 p.2)

/-- The percentage of the budget of an id. -/
def percentAt (id : Nat) (l : Ledger) : Rat := (l.find id).elim 0 Budget.percent

end Ledger

/-- The breaches of a charge are of the budget it charged. -/
theorem breaches_of_charge {c : Charge} {b : Budget} {x : Charged} (h : charge c b = some x) :
    ∀ breach ∈ x.breaches, breach.budgetId = b.id := by
  unfold charge at h
  dsimp only at h
  split at h
  · obtain ⟨ts, _, rfl⟩ := Option.map_eq_some_iff.mp h
    intro breach hbreach
    obtain ⟨t, _, rfl⟩ := List.mem_map.mp hbreach
    exact b.id_charged c.cost c.now
  · obtain rfl := Option.some.inj h
    simp

/-- The breaches of a table are, id by id, those of the row charged. -/
theorem filter_breaches {c : Charge} {bs : List Budget} {xs : List Charged}
    (hnodup : (bs.map Budget.id).Nodup) (h : bs.mapM (charge c) = some xs) (id : Nat) :
    (xs.flatMap Charged.breaches).filter (fun x ↦ x.budgetId = id) =
      ((bs.find? (fun b ↦ b.id = id)).bind (charge c)).elim [] Charged.breaches := by
  induction bs generalizing xs with
  | nil =>
    cases h
    rfl
  | cons b rest ih =>
    simp only [List.map_cons, List.nodup_cons] at hnodup
    rw [List.mapM_cons] at h
    cases hb : charge c b with
    | none => simp [hb] at h
    | some x =>
      cases hrest : rest.mapM (charge c) with
      | none => simp [hb, hrest] at h
      | some ys =>
        simp only [hb, hrest, Option.bind_eq_bind, Option.bind_some, Option.pure_def,
          Option.some.injEq] at h
        subst h
        have hx := breaches_of_charge hb
        rw [List.flatMap_cons, List.filter_append, ih hnodup.2 hrest]
        by_cases hid : b.id = id
        · have hnone : rest.find? (fun b ↦ b.id = id) = none := by
            rw [List.find?_eq_none]
            intro b' hb' hb'id
            exact hnodup.1 (List.mem_map.mpr ⟨b', hb', by simp_all⟩)
          have hall : x.breaches.filter (fun x ↦ x.budgetId = id) = x.breaches :=
            List.filter_eq_self.mpr (fun breach hbreach ↦ by simp [hx breach hbreach, hid])
          simp [hid, hnone, hall, hb]
        · have hnone : x.breaches.filter (fun x ↦ x.budgetId = id) = [] :=
            List.filter_eq_nil_iff.mpr (fun breach hbreach ↦ by simp [hx breach hbreach, hid])
          simp [hid, hnone]

/-- A charge with a cost that is not negative does not lower the percentage. -/
theorem percent_le_charged {b : Budget} {cost : Rat} (hamount : 0 < b.amount) (hcost : 0 ≤ cost)
    (now : String) : b.percent ≤ (b.charged cost now).percent := by
  unfold Budget.percent
  rw [b.currentSpend_charged, b.amount_charged]
  have hspend := b.currentSpend.le_add hcost
  have hdiv := (div_le_div_iff_of_pos_right hamount).mpr hspend
  linarith

/-- Nothing is crossed without a change. -/
theorem crossed_self (b : Budget) (ts : List Int) : b.crossed b ts = [] := by
  rw [Budget.crossed, List.filter_eq_nil_iff]
  intro t _
  simp only [Bool.and_eq_true, decide_eq_true_eq, not_and, not_le]
  exact fun h ↦ h

/-- A budget with a positive amount and readable thresholds. -/
structure Watched (id : Nat) (amount : Rat) (ts : List Int) (l : Ledger) (b : Budget) : Prop where
  found : l.find id = some b
  amount_eq : b.amount = amount
  thresholds_eq : b.thresholds = some ts

/-- The percentage of a watched budget. -/
theorem Watched.percentAt_eq {id : Nat} {amount : Rat} {ts : List Int} {l : Ledger} {b : Budget}
    (h : Watched id amount ts l b) : l.percentAt id = b.percent := by
  rw [Ledger.percentAt, h.found]
  rfl

/-- One increment of a watched budget: its percentage does not fall, the thresholds between the
two percentages are reported, and a budget that is not active reports none. -/
theorem Watched.step {id : Nat} {amount : Rat} {ts : List Int} {l : Ledger} {b : Budget}
    (h : Watched id amount ts l b) (hamount : 0 < amount) {c : Charge} (hcost : 0 ≤ c.cost) :
    ∃ b', Watched id amount ts (l.charged c) b' ∧ b.percent ≤ b'.percent ∧
      l.reports id c = b.crossed b' ts ∧ (l.reports id c ≠ [] → b.isActive) := by
  have hpos : 0 < b.amount := h.amount_eq ▸ hamount
  by_cases hcharge : l.Chargeable c
  · have hfind := l.find_increment c id hcharge
    rw [h.found, Option.map_some] at hfind
    have hseen := (l.isSome_charges_iff c).mpr hcharge
    obtain ⟨xs, hxs⟩ := Option.isSome_iff_exists.mp hseen
    have hnodup : ((l.matching c).map Budget.id).Nodup :=
      ((List.filter_sublist).map _).nodup l.nodup
    have hreports : l.reports id c =
        (((l.find id).filter (fun b ↦ b.takes c)).bind (charge c)).elim []
          (fun x ↦ x.breaches.map Breach.threshold) := by
      rw [Ledger.reports, Ledger.increment, hxs, ← l.find?_matching]
      dsimp only
      rw [filter_breaches hnodup hxs]
      cases ((l.matching c).find? (fun b ↦ b.id = id)).bind (charge c) <;> rfl
    rw [h.found, Option.filter_some] at hreports
    by_cases htakes : b.takes c
    · rw [if_pos htakes] at hfind hreports
      have hcrossed : l.reports id c = b.crossed (b.charged c.cost c.now) ts := by
        rw [hreports]
        simp [charge, hpos, h.thresholds_eq, Budget.breach, Function.comp_def]
      refine ⟨_, ⟨hfind, ?_, ?_⟩, percent_le_charged hpos hcost c.now, hcrossed, ?_⟩
      · rw [b.amount_charged, h.amount_eq]
      · rw [b.thresholds_charged, h.thresholds_eq]
      · intro _
        exact (Bool.and_eq_true_iff.mp htakes).1
    · rw [if_neg htakes] at hfind hreports
      have hnone : l.reports id c = [] := hreports
      exact ⟨b, ⟨hfind, h.amount_eq, h.thresholds_eq⟩, le_refl _, by rw [hnone, crossed_self],
        fun hne ↦ absurd hnone hne⟩
  · have hnone : l.increment c = (l, []) := l.increment_of_not_chargeable c hcharge
    have hreports : l.reports id c = [] := by rw [Ledger.reports, hnone]; rfl
    have hsame : l.charged c = l := by rw [Ledger.charged, hnone]
    exact ⟨b, hsame.symm ▸ h, le_refl _, by rw [hreports, crossed_self],
      fun hne ↦ absurd hreports hne⟩

/-- How often a threshold is among those crossed. -/
theorem count_crossed {ts : List Int} (hnodup : ts.Nodup) {t : Int} (ht : t ∈ ts)
    (b b' : Budget) :
    (b.crossed b' ts).count t = if b.percent < t ∧ t ≤ b'.percent then 1 else 0 := by
  have hcrossed : t ∈ b.crossed b' ts ↔ b.percent < t ∧ t ≤ b'.percent := by
    simp [Budget.crossed, ht]
  have hcount : (b.crossed b' ts).count t = if t ∈ b.crossed b' ts then 1 else 0 :=
    List.Nodup.count (hnodup.filter _)
  rw [hcount]
  exact if_congr hcrossed rfl rfl

/-- A run of increments of a watched budget reports a threshold once when its percentage passes
the threshold, and else never. -/
theorem Watched.run {id : Nat} {amount : Rat} {ts : List Int} {l : Ledger} {b : Budget}
    (h : Watched id amount ts l b) (hamount : 0 < amount) (hnodup : ts.Nodup) {t : Int}
    (ht : t ∈ ts) (calls : List Charge) (hcosts : ∀ c ∈ calls, 0 ≤ c.cost) :
    ∃ b', Watched id amount ts (run Ledger.charged l calls) b' ∧ b.percent ≤ b'.percent ∧
      (l.allReports id calls).count t =
        if b.percent < t ∧ t ≤ b'.percent then 1 else 0 := by
  induction calls generalizing l b with
  | nil =>
    refine ⟨b, h, le_refl _, ?_⟩
    rw [if_neg (fun hpass ↦ absurd hpass.2 (not_le.mpr hpass.1))]
    rfl
  | cons c rest ih =>
    rw [List.forall_mem_cons] at hcosts
    obtain ⟨b₁, h₁, hle₁, hreports, _⟩ := h.step hamount hcosts.1
    obtain ⟨b₂, h₂, hle₂, hcount⟩ := ih h₁ hcosts.2
    refine ⟨b₂, h₂, hle₁.trans hle₂, ?_⟩
    have hsplit : l.allReports id (c :: rest) =
        l.reports id c ++ (l.charged c).allReports id rest := List.flatMap_cons
    rw [hsplit, List.count_append, hcount, hreports, count_crossed hnodup ht]
    -- the two pieces of the way from `b` over `b₁` to `b₂` do not overlap
    by_cases hfirst : t ≤ b₁.percent
    · have hrest : ¬ b₁.percent < t := not_lt.mpr hfirst
      have hlast : (t : Rat) ≤ b₂.percent := hfirst.trans hle₂
      simp [hfirst, hrest, hlast]
    · have hsecond : b₁.percent < t := not_le.mp hfirst
      have hbefore : b.percent < t := lt_of_le_of_lt hle₁ hsecond
      simp [hfirst, hsecond, hbefore]

/-- Over every sequence of costs that are not negative, a budget with a positive amount and
distinct thresholds reports each of them at most once, and in the call in which its percentage
first reaches it, while it is still active. -/
theorem threshold_reported_once (l : Ledger) (id : Nat) (b : Budget) (hb : l.find id = some b)
    (hamount : 0 < b.amount) (ts : List Int) (hts : b.thresholds = some ts) (hnodup : ts.Nodup)
    (calls : List Charge) (hcosts : ∀ c ∈ calls, 0 ≤ c.cost) (t : Int) (ht : t ∈ ts) :
    (l.allReports id calls).count t ≤ 1 ∧
      ∀ before call after, calls = before ++ call :: after →
        (t ∈ (run Ledger.charged l before).reports id call ↔
          (∀ earlier, earlier <+: before → (run Ledger.charged l earlier).percentAt id < t) ∧
            t ≤ (run Ledger.charged l (before ++ [call])).percentAt id) ∧
        (t ∈ (run Ledger.charged l before).reports id call →
          ((run Ledger.charged l before).find id).any Budget.isActive) := by
  have hwatched : Watched id b.amount ts l b := ⟨hb, rfl, hts⟩
  constructor
  · obtain ⟨_, _, _, hcount⟩ := hwatched.run hamount hnodup ht calls hcosts
    rw [hcount]
    split <;> omega
  · rintro before call after rfl
    have hcosts' : (∀ c ∈ before, 0 ≤ c.cost) ∧ 0 ≤ call.cost :=
      ⟨fun c hc ↦ hcosts c (List.mem_append_left _ hc), hcosts call (by simp)⟩
    obtain ⟨b₁, h₁, _, _⟩ := hwatched.run hamount hnodup ht before hcosts'.1
    obtain ⟨b₂, h₂, _, hreports, hactive⟩ := h₁.step hamount hcosts'.2
    have hafter : run Ledger.charged l (before ++ [call]) =
        (run Ledger.charged l before).charged call := run_append l before [call]
    have hmem : t ∈ (run Ledger.charged l before).reports id call ↔
        b₁.percent < t ∧ t ≤ b₂.percent := by
      rw [hreports]
      simp [Budget.crossed, ht]
    refine ⟨?_, ?_⟩
    · rw [hmem, hafter, h₂.percentAt_eq]
      constructor
      · rintro ⟨hlt, hle⟩
        refine ⟨?_, hle⟩
        rintro earlier ⟨rest, rfl⟩
        have hcostsE := List.forall_mem_append.mp hcosts'.1
        obtain ⟨bE, hE, _, _⟩ := hwatched.run hamount hnodup ht earlier hcostsE.1
        obtain ⟨b₁', h₁', hleE, _⟩ := hE.run hamount hnodup ht rest hcostsE.2
        rw [← run_append] at h₁'
        obtain rfl : b₁ = b₁' := Option.some.inj (h₁.found.symm.trans h₁'.found)
        rw [hE.percentAt_eq]
        exact lt_of_le_of_lt hleE hlt
      · rintro ⟨hearlier, hle⟩
        have hlast := hearlier before List.prefix_rfl
        rw [h₁.percentAt_eq] at hlast
        exact ⟨hlast, hle⟩
    · intro hreported
      rw [h₁.found, Option.any_some]
      exact hactive (List.ne_nil_of_mem hreported)

/-- A budget of ten dollars with thresholds at 50 and 80 percent. -/
def alertLedger : Ledger :=
  ⟨[{ id := 1, name := "pi", keyId := none, profile := some "pi", amount := 10
      currentSpend := Rounded.zero, period := some "monthly", thresholdPct := some "50,80"
      action := some "block", status := some "active", lastAlertAt := none }],
    2, by decide, by decide⟩

/-- Costs of six and six dollars: 80 percent is reported once, with the second. -/
theorem eighty_percent_reported_once :
    (alertLedger.allReports 1 [⟨"pi", 6, none, ""⟩, ⟨"pi", 6, none, ""⟩]).count 80 ≤ 1 :=
  (threshold_reported_once alertLedger 1 _ rfl (by decide +kernel) [50, 80] (by decide +kernel)
    (by decide) _ (by decide +kernel) 80 (by decide)).1

example : alertLedger.allReports 1 [⟨"pi", 6, none, ""⟩, ⟨"pi", 6, none, ""⟩] = [50, 80] := by
  decide +kernel

end LcpGateway.Spending
