import LcpGateway.Base.Duty
import LcpGateway.CostCache.Refresher

/-!
# Keys ahead of a pass

Library `CostCache`. A key that is not throttled and that the pass still has to visit stays so
under every step, by any thread, until its scrape starts, unless the pass leaves it out at one of
its two checks.
-/

namespace LcpGateway.CostCache
open LcpGateway.Base

namespace Refresher

/-- The start of the pass that a step begins. -/
def opens (s : Refresher) : RefreshEvent → Option Rat
  | .start now => if s.pass.isNone ∧ 0 ≤ now then some now else none
  | _ => none

/-- The key whose scrape a step starts. -/
def started (s : Refresher) : RefreshEvent → Finset Key
  | .gate => s.atGate.elim ∅ fun q ↦ if s.heldBack q.1.now q.2 then ∅ else {q.2}
  | _ => ∅

/-- A step at which the pass leaves the key out as quiet or fresh. -/
def skipsOver (s : Refresher) (key : Key) : RefreshEvent → Bool
  | .visit ttl clock => s.atVisit.any fun q ↦ q.2.head? = some key && s.skips q.1 key ttl clock
  | _ => false

/-- A step at which the pass leaves the key out for its backoff. -/
def holdsBack (s : Refresher) (key : Key) : RefreshEvent → Bool
  | .gate => s.atGate.any fun q ↦ q.2 = key && s.heldBack q.1.now key
  | _ => false

/-- The key whose scrape a step ends by a failure, and whether the failure is transient. -/
def failing (s : Refresher) : RefreshEvent → Option (Key × Bool)
  | .finish outcome _ => s.atScrape.bind fun q ↦
    match s.verdict q.2 outcome with
    | .failed _ _ transient => some (q.2, transient)
    | _ => none
  | _ => none

/-- The pass has the key ahead of it, outside its throttle. -/
structure Ready (s : Refresher) (key : Key) (p : Pass) : Prop where
  pass : s.pass = some p
  now_nonneg : 0 ≤ p.now
  ahead : key ∈ p.rest ∨ p.stage = .gate key
  not_scraping : p.stage ≠ .scraping key
  not_throttled : s.throttled p.now key = false

/-- No pass has ended with a key still due. -/
def Met (l : Ledger Refresher Key) : Prop := l.state.pass = none → l.due = ∅

variable {s : Refresher} {key k : Key} {p : Pass}

/-- What is due is met when each key of it is ahead of a pass. -/
theorem met_of_ready {l : Ledger Refresher Key}
    (h : ∀ key ∈ l.due, ∃ p, l.state.Ready key p) : Met l := by
  intro hnone
  refine Finset.eq_empty_of_forall_notMem (fun key hkey ↦ ?_)
  obtain ⟨p, hp⟩ := h key hkey
  exact absurd hp.pass (by simp [hnone])

/-- A key still due when no pass is under way is not met. -/
theorem not_met {l : Ledger Refresher Key} (hpass : l.state.pass.isNone = true)
    (hdue : key ∈ l.due) : ¬ Met l := by
  intro h
  rw [h (Option.isNone_iff_eq_none.mp hpass)] at hdue
  exact Finset.notMem_empty key hdue

/-- A pass that begins has every supported key ahead of it. -/
theorem ready_beginPass {now : Rat} (hnow : 0 ≤ now) (hkey : key ∈ s.registry.supportedKeys)
    (hfree : s.throttled now key = false) :
    (s.beginPass now).Ready key
      ⟨now, s.pending, s.refreshAll, s.registry.supportedKeys, .between⟩ :=
  ⟨rfl, hnow, Or.inl hkey, by simp, hfree⟩

theorem atVisit_eq_some_iff {rest : List Key} :
    s.atVisit = some (p, rest) ↔ s.pass = some p ∧ p.stage = .between ∧ p.rest = rest := by
  simp only [atVisit, Option.bind_eq_some_iff]
  constructor
  · rintro ⟨q, hq, h⟩
    split at h
    · next hstage =>
      simp only [Option.some.injEq, Prod.mk.injEq] at h
      obtain ⟨rfl, rfl⟩ := h
      exact ⟨hq, hstage, rfl⟩
    · simp at h
  · rintro ⟨hp, hstage, rfl⟩
    exact ⟨p, hp, by simp [hstage]⟩

theorem atGate_eq_some_iff : s.atGate = some (p, k) ↔ s.pass = some p ∧ p.stage = .gate k := by
  simp only [atGate, Option.bind_eq_some_iff]
  constructor
  · rintro ⟨q, hq, h⟩
    split at h
    · next hstage =>
      simp only [Option.some.injEq, Prod.mk.injEq] at h
      obtain ⟨rfl, rfl⟩ := h
      exact ⟨hq, hstage⟩
    · simp at h
  · rintro ⟨hp, hstage⟩
    exact ⟨p, hp, by simp [hstage]⟩

theorem atScrape_eq_some_iff :
    s.atScrape = some (p, k) ↔ s.pass = some p ∧ p.stage = .scraping k := by
  simp only [atScrape, Option.bind_eq_some_iff]
  constructor
  · rintro ⟨q, hq, h⟩
    split at h
    · next hstage =>
      simp only [Option.some.injEq, Prod.mk.injEq] at h
      obtain ⟨rfl, rfl⟩ := h
      exact ⟨hq, hstage⟩
    · simp at h
  · rintro ⟨hp, hstage⟩
    exact ⟨p, hp, by simp [hstage]⟩

@[simp] theorem lastAttempt_record (moment : Moment) (v : Verdict) :
    (s.record key moment v).lastAttempt = s.lastAttempt := by
  cases v <;> rfl

@[simp] theorem throttle_record (moment : Moment) (v : Verdict) :
    (s.record key moment v).throttle = s.throttle := by
  cases v <;> rfl

@[simp] theorem pending_record (moment : Moment) (v : Verdict) :
    (s.record key moment v).pending = s.pending := by
  cases v <;> rfl

@[simp] theorem registry_record (moment : Moment) (v : Verdict) :
    (s.record key moment v).registry = s.registry := by
  cases v <;> rfl

/-- Every way a step can go, with what the code has checked on the way. -/
inductive Transition (s : Refresher) : RefreshEvent → Refresher → Prop
  | request (provider : Option String) (kind : Option Kind) :
    Transition s (.request provider kind) (s.requestRefresh provider kind)
  | invalidate (provider : Option String) (kind : Option Kind) :
    Transition s (.invalidate provider kind) (s.invalidate provider kind)
  | idle (e : RefreshEvent) (hopens : s.opens e = none) : Transition s e s
  | start (now : Rat) (hpass : s.pass = none) (hnow : 0 ≤ now) :
    Transition s (.start now) (s.beginPass now)
  | close (ttl clock : Rat) (p : Pass) (hpass : s.pass = some p) (hstage : p.stage = .between)
    (hrest : p.rest = []) : Transition s (.visit ttl clock) { s with pass := none }
  | skip (ttl clock : Rat) (p : Pass) (k : Key) (rest : List Key) (hpass : s.pass = some p)
    (hstage : p.stage = .between) (hrest : p.rest = k :: rest)
    (hskip : s.skips p k ttl clock = true) :
    Transition s (.visit ttl clock) { s with pass := some { p with rest } }
  | defer (ttl clock : Rat) (p : Pass) (k : Key) (rest : List Key) (hpass : s.pass = some p)
    (hstage : p.stage = .between) (hrest : p.rest = k :: rest)
    (hthrottled : s.throttled p.now k = true) :
    Transition s (.visit ttl clock)
      { s with pending := insert k s.pending, pass := some { p with rest } }
  | pick (ttl clock : Rat) (p : Pass) (k : Key) (rest : List Key) (hpass : s.pass = some p)
    (hstage : p.stage = .between) (hrest : p.rest = k :: rest)
    (hthrottled : s.throttled p.now k = false) :
    Transition s (.visit ttl clock) { s with pass := some { p with rest, stage := .gate k } }
  | hold (p : Pass) (k : Key) (hpass : s.pass = some p) (hstage : p.stage = .gate k)
    (hheld : s.heldBack p.now k = true) :
    Transition s .gate { s with pass := some { p with stage := .between } }
  | scrape (p : Pass) (k : Key) (hpass : s.pass = some p) (hstage : p.stage = .gate k)
    (hheld : s.heldBack p.now k = false) :
    Transition s .gate
      { s with
        lastAttempt := s.lastAttempt.set k p.now
        pass := some { p with stage := .scraping k } }
  | record (outcome : Outcome) (moment : Moment) (p : Pass) (k : Key) (hpass : s.pass = some p)
    (hstage : p.stage = .scraping k) :
    Transition s (.finish outcome moment)
      { s.record k moment (s.verdict k outcome) with pass := some { p with stage := .between } }

/-- The step of the model takes one of these ways. -/
theorem transition (s : Refresher) (e : RefreshEvent) : s.Transition e (s.step e) := by
  cases e with
  | request provider kind => exact .request provider kind
  | invalidate provider kind => exact .invalidate provider kind
  | start now =>
    simp only [step]
    split
    · next h => exact .start now (Option.isNone_iff_eq_none.mp h.1) h.2
    · next h => exact .idle _ (if_neg h)
  | visit ttl clock =>
    simp only [step]
    split
    · next p k rest h =>
      obtain ⟨hpass, hstage, hrest⟩ := atVisit_eq_some_iff.mp h
      simp only [visit]
      split
      · next hskip => exact .skip ttl clock p k rest hpass hstage hrest hskip
      split
      · next hthrottled => exact .defer ttl clock p k rest hpass hstage hrest hthrottled
      · next hthrottled =>
        exact .pick ttl clock p k rest hpass hstage hrest (Bool.eq_false_iff.mpr hthrottled)
    · next p h =>
      obtain ⟨hpass, hstage, hrest⟩ := atVisit_eq_some_iff.mp h
      exact .close ttl clock p hpass hstage hrest
    · exact .idle _ rfl
  | gate =>
    simp only [step]
    split
    · next p k h =>
      obtain ⟨hpass, hstage⟩ := atGate_eq_some_iff.mp h
      simp only [checkGate]
      split
      · next hheld => exact .hold p k hpass hstage hheld
      · next hheld => exact .scrape p k hpass hstage (Bool.eq_false_iff.mpr hheld)
    · exact .idle _ rfl
  | finish outcome moment =>
    simp only [step]
    split
    · next p k h =>
      obtain ⟨hpass, hstage⟩ := atScrape_eq_some_iff.mp h
      exact .record outcome moment p k hpass hstage
    · exact .idle _ rfl

variable {s' : Refresher} {e : RefreshEvent}

/-- The registry is never written. -/
theorem Transition.registry (h : s.Transition e s') : s'.registry = s.registry := by
  cases h with
  | record => exact registry_record _ _
  | _ => rfl

/-- A pass begins with the requests it drained, over every supported key. -/
theorem Transition.of_opens {now : Rat} (h : s.Transition e s') (hopens : s.opens e = some now) :
    s.pass = none ∧ 0 ≤ now ∧ s' = s.beginPass now := by
  cases h with
  | start time hpass hnow =>
    obtain rfl : time = now := by simpa [opens, hpass, hnow] using hopens
    exact ⟨hpass, hnow, rfl⟩
  | idle _ hidle => simp [hidle] at hopens
  | _ => simp [opens] at hopens

/-- Only the drain of a pass takes requests out of the pending set. -/
theorem Transition.pending_subset (h : s.Transition e s') (hopens : s.opens e = none) :
    s.pending ⊆ s'.pending := by
  cases h with
  | request => exact Finset.subset_union_left
  | start now hpass hnow => simp [opens, hpass, hnow] at hopens
  | defer => exact Finset.subset_insert _ _
  | record => exact (pending_record _ _).symm.subset
  | _ => exact Finset.Subset.refl _

/-- The end of a scrape enters a backoff under its own key only, and only for a failure. -/
theorem nextAttempt_of_record {moment : Moment} {v : Verdict} {t : Rat}
    (hfailed : k ≠ key ∨ ∀ errorKind detail transient, v ≠ .failed errorKind detail transient)
    (h : (s.record k moment v).nextAttempt.get? key = some t) :
    s.nextAttempt.get? key = some t := by
  cases v with
  | failed errorKind detail transient =>
    have hne : k ≠ key := hfailed.resolve_right (fun hv ↦ hv _ _ _ rfl)
    simpa only [record, recordFailure, Dict.get?_set, if_neg hne] using h
  | noData => exact h
  | success payload =>
    simp only [record, Dict.get?_filterKeys] at h
    split at h
    · exact h
    · simp at h

/-- A backoff that is there after a step was there before it, unless the step failed the key. -/
theorem Transition.nextAttempt {t : Rat} (h : s.Transition e s')
    (hfailing : ∀ q, s.failing e = some q → q.1 ≠ key)
    (hs' : s'.nextAttempt.get? key = some t) : s.nextAttempt.get? key = some t := by
  cases h with
  | request provider kind =>
    simp only [requestRefresh, Dict.get?_filterKeys] at hs'
    split at hs'
    · exact hs'
    · simp at hs'
  | record outcome moment p k hpass hstage =>
    refine nextAttempt_of_record (v := s.verdict k outcome) ?_ hs'
    by_cases hne : k = key
    · refine Or.inr (fun errorKind detail transient hv ↦ hfailing (k, transient) ?_ hne)
      simp [failing, atScrape_eq_some_iff.mpr ⟨hpass, hstage⟩, hv]
    · exact Or.inl hne
  | _ => exact hs'

/-- A key that is not held back is not held back after a step that does not fail it. -/
theorem Transition.not_heldBack (h : s.Transition e s') {now : Rat} (hnow : 0 ≤ now)
    (hfailing : ∀ q, s.failing e = some q → q.1 ≠ key) (hfree : s.heldBack now key = false) :
    s'.heldBack now key = false := by
  cases hs' : s'.nextAttempt.get? key with
  | none => simpa [heldBack, hs'] using hnow
  | some t => simpa [heldBack, hs', h.nextAttempt hfailing hs'] using hfree

/-- The throttle of a key changes when its scrape starts. -/
theorem Transition.throttled (h : s.Transition e s') (hstart : key ∉ s.started e) (now : Rat) :
    s'.throttled now key = s.throttled now key := by
  cases h with
  | scrape p k hpass hstage hheld =>
    have hne : k ≠ key := by
      rintro rfl
      simp [started, atGate_eq_some_iff.mpr ⟨hpass, hstage⟩, hheld] at hstart
    simp only [Refresher.throttled, Dict.get?_set, if_neg hne]
  | record => simp only [Refresher.throttled, lastAttempt_record, throttle_record]
  | _ => rfl

/-- What a key ahead of the pass needs to stay ahead of it: the step neither starts its scrape
nor leaves it out. -/
theorem Ready.step (h : s.Ready key p) (ht : s.Transition e s') (hstart : key ∉ s.started e)
    (hskips : s.skipsOver key e = false) (hholds : s.holdsBack key e = false) :
    ∃ q, s'.Ready key q ∧ q.now = p.now ∧ q.pending = p.pending := by
  obtain ⟨hp, hnow, hahead, hscraping, hfree⟩ := h
  have hlater : s'.throttled p.now key = false := by rw [ht.throttled hstart, hfree]
  cases ht with
  | request | invalidate | idle => exact ⟨p, ⟨hp, hnow, hahead, hscraping, hfree⟩, rfl, rfl⟩
  | start now hpass => simp [hpass] at hp
  | close ttl clock q hpass hstage hrest =>
    obtain rfl := Option.some.inj (hpass.symm.trans hp)
    simp [hrest, hstage] at hahead
  | skip ttl clock q k rest hpass hstage hrest hskip =>
    obtain rfl := Option.some.inj (hpass.symm.trans hp)
    have hne : key ≠ k := by
      rintro rfl
      simp [skipsOver, atVisit_eq_some_iff.mpr ⟨hpass, hstage, hrest⟩, hskip] at hskips
    have hmem : key ∈ rest := by simpa [hrest, hstage, hne] using hahead
    exact ⟨_, ⟨rfl, hnow, Or.inl hmem, hscraping, hlater⟩, rfl, rfl⟩
  | defer ttl clock q k rest hpass hstage hrest hthrottled =>
    obtain rfl := Option.some.inj (hpass.symm.trans hp)
    have hne : key ≠ k := by
      rintro rfl
      simp [hthrottled] at hfree
    have hmem : key ∈ rest := by simpa [hrest, hstage, hne] using hahead
    exact ⟨_, ⟨rfl, hnow, Or.inl hmem, hscraping, hlater⟩, rfl, rfl⟩
  | pick ttl clock q k rest hpass hstage hrest hthrottled =>
    obtain rfl := Option.some.inj (hpass.symm.trans hp)
    have hnext : key ∈ rest ∨ Stage.gate k = .gate key := by
      have hmem : key = k ∨ key ∈ rest := by simpa [hrest, hstage] using hahead
      exact hmem.symm.imp_right (fun hk ↦ by rw [hk])
    exact ⟨_, ⟨rfl, hnow, hnext, by simp, hlater⟩, rfl, rfl⟩
  | hold q k hpass hstage hheld =>
    obtain rfl := Option.some.inj (hpass.symm.trans hp)
    have hne : k ≠ key := by
      rintro rfl
      simp [holdsBack, atGate_eq_some_iff.mpr ⟨hpass, hstage⟩, hheld] at hholds
    have hmem : key ∈ q.rest := by simpa [hstage, hne] using hahead
    exact ⟨_, ⟨rfl, hnow, Or.inl hmem, by simp, hlater⟩, rfl, rfl⟩
  | scrape q k hpass hstage hheld =>
    obtain rfl := Option.some.inj (hpass.symm.trans hp)
    have hne : k ≠ key := by
      rintro rfl
      simp [started, atGate_eq_some_iff.mpr ⟨hpass, hstage⟩, hheld] at hstart
    have hmem : key ∈ q.rest := by simpa [hstage, hne] using hahead
    exact ⟨_, ⟨rfl, hnow, Or.inl hmem, by simpa using hne, hlater⟩, rfl, rfl⟩
  | record outcome moment q k hpass hstage =>
    obtain rfl := Option.some.inj (hpass.symm.trans hp)
    have hmem : key ∈ q.rest := by simpa [hstage] using hahead
    exact ⟨_, ⟨rfl, hnow, Or.inl hmem, by simp, hlater⟩, rfl, rfl⟩

/-- A pass past the backoff of a key does not hold it back. -/
theorem holdsBack_of_not_heldBack (hp : s.pass = some p) (hfree : s.heldBack p.now key = false) :
    s.holdsBack key e = false := by
  cases e with
  | gate =>
    simp only [holdsBack, Option.any_eq_false]
    intro q hq
    obtain ⟨hpass, -⟩ := atGate_eq_some_iff.mp (show s.atGate = some (q.1, q.2) from hq)
    obtain rfl : q.1 = p := by simpa [hpass] using hp
    simp [hfree]
  | _ => rfl

/-- A step fails the key that is being scraped. -/
theorem scraping_of_failing {q : Key × Bool} (h : s.failing e = some q) :
    ∃ p, s.pass = some p ∧ p.stage = .scraping q.1 := by
  cases e with
  | finish outcome moment =>
    obtain ⟨⟨p, k⟩, hscrape, hverdict⟩ := Option.bind_eq_some_iff.mp h
    split at hverdict
    · obtain rfl := Option.some.inj hverdict
      exact ⟨p, atScrape_eq_some_iff.mp hscrape⟩
    · simp at hverdict
  | _ => simp [failing] at h

/-- No step fails a key that is ahead of the pass. -/
theorem Ready.failing_ne (h : s.Ready key p) {q : Key × Bool} (hq : s.failing e = some q) :
    q.1 ≠ key := by
  obtain ⟨p', hpass, hstage⟩ := scraping_of_failing hq
  obtain rfl : p' = p := by simpa [hpass] using h.pass
  rintro rfl
  exact h.not_scraping hstage

end Refresher
end LcpGateway.CostCache
