import LcpGateway.CostCache.Pass

/-!
# Requested refreshes

Library `CostCache`. Source `src/api/cost_cache.py:555–579,619–718`. A request leaves its key in
the pending set, from where a pass drains it; a throttled key goes back. So a request is lost
only at the backoff gate, whose entry the request had cleared: a scrape that was under way when
the request came writes it again by failing.
-/

namespace LcpGateway.CostCache
open LcpGateway.Base

/-- A request of a supported key raises a scrape of it, which a pass that begins outside the
throttle of the key calls in. -/
def requestDuty : Duty Refresher RefreshEvent Key where
  raises s e := match e with
    | .request provider kind =>
      ((s.registry.requestKeys provider kind).filter s.registry.supports).toFinset
    | _ => ∅
  calls s e key := (s.opens e).any (fun now ↦ !s.throttled now key)
  settles := Refresher.started

namespace Refresher

/-- The pass drained a request of the key, has the key ahead of it and finds it throttled. -/
structure Deferred (s : Refresher) (key : Key) (p : Pass) : Prop where
  pass : s.pass = some p
  drained : key ∈ p.pending
  ahead : key ∈ p.rest
  throttled : s.throttled p.now key = true

variable {s s' : Refresher} {e : RefreshEvent} {key : Key} {p : Pass}

/-- A throttled request is kept by the pass until it goes back to the pending set. -/
theorem Deferred.step (h : s.Deferred key p) (ht : s.Transition e s') (hstart : key ∉ s.started e) :
    key ∈ s'.pending ∨ ∃ q, s'.Deferred key q := by
  obtain ⟨hp, hdrained, hahead, hthrottle⟩ := h
  have hlater : s'.throttled p.now key = true := by rw [ht.throttled hstart, hthrottle]
  cases ht with
  | request | invalidate | idle => exact Or.inr ⟨p, hp, hdrained, hahead, hthrottle⟩
  | start now hpass => simp [hpass] at hp
  | close ttl clock q hpass hstage hrest =>
    obtain rfl := Option.some.inj (hpass.symm.trans hp)
    simp [hrest] at hahead
  | skip ttl clock q k rest hpass hstage hrest hskip =>
    obtain rfl := Option.some.inj (hpass.symm.trans hp)
    have hne : key ≠ k := by
      rintro rfl
      simp [skips, forced, hdrained] at hskip
    have hmem : key ∈ rest := by simpa [hrest, hne] using hahead
    exact Or.inr ⟨_, rfl, hdrained, hmem, hlater⟩
  | defer ttl clock q k rest hpass hstage hrest hthrottled =>
    obtain rfl := Option.some.inj (hpass.symm.trans hp)
    have hmem : key = k ∨ key ∈ rest := by simpa [hrest] using hahead
    rcases hmem with rfl | hmem
    · exact Or.inl (Finset.mem_insert_self _ _)
    · exact Or.inr ⟨_, rfl, hdrained, hmem, hlater⟩
  | pick ttl clock q k rest hpass hstage hrest hthrottled =>
    obtain rfl := Option.some.inj (hpass.symm.trans hp)
    have hne : key ≠ k := by
      rintro rfl
      simp [hthrottled] at hthrottle
    have hmem : key ∈ rest := by simpa [hrest, hne] using hahead
    exact Or.inr ⟨_, rfl, hdrained, hmem, hlater⟩
  | hold q k hpass | scrape q k hpass | record outcome moment q k hpass =>
    obtain rfl := Option.some.inj (hpass.symm.trans hp)
    exact Or.inr ⟨_, rfl, hdrained, hahead, hlater⟩

/-- Where the requests are: one that is due is ahead of the pass that drained it, any other is
pending or about to be put back. -/
structure RequestsKept (l : Ledger Refresher Key) : Prop where
  due_ready : ∀ key ∈ l.due, ∃ p, l.state.Ready key p ∧ key ∈ p.pending
  owed_supported : ∀ key ∈ l.owed, key ∈ l.state.registry.supportedKeys
  owed_kept : ∀ key ∈ l.owed,
    key ∈ l.state.pending ∨ key ∈ l.due ∨ ∃ p, l.state.Deferred key p

/-- A key that is due is held back at its gate. -/
def HoldsDue (l : Ledger Refresher Key) (e : RefreshEvent) : Prop :=
  ∃ key ∈ l.due, l.state.holdsBack key e = true

instance (l : Ledger Refresher Key) (e : RefreshEvent) : Decidable (HoldsDue l e) :=
  inferInstanceAs (Decidable (∃ key ∈ l.due, l.state.holdsBack key e = true))

/-- A raised request is for a supported key and pending after the step. -/
theorem pending_of_mem_raises (h : key ∈ requestDuty.raises s e) :
    key ∈ s.registry.supportedKeys ∧ key ∈ (s.step e).pending := by
  cases e with
  | request provider kind =>
    have hkey : key ∈ s.registry.requestKeys provider kind ∧ s.registry.supports key = true := by
      simpa [requestDuty] using h
    exact ⟨s.registry.mem_supportedKeys.mpr hkey.2,
      Finset.mem_union_right _ (List.mem_toFinset.mpr hkey.1)⟩
  | _ => simp [requestDuty] at h

/-- A pass does not leave out a key whose request it drained. -/
theorem skipsOver_of_drained (hp : s.pass = some p) (hdrained : key ∈ p.pending) :
    s.skipsOver key e = false := by
  cases e with
  | visit ttl clock =>
    simp only [skipsOver, Option.any_eq_false]
    intro q hq
    obtain ⟨hpass, -, -⟩ := atVisit_eq_some_iff.mp (show s.atVisit = some (q.1, q.2) from hq)
    obtain rfl : q.1 = p := by simpa [hpass] using hp
    simp [skips, forced, hdrained]
  | _ => rfl

variable {l : Ledger Refresher Key}

/-- Kept requests are met: one that is due is ahead of a pass. -/
theorem RequestsKept.met (h : RequestsKept l) : Met l :=
  met_of_ready (fun key hkey ↦ (h.due_ready key hkey).imp (fun _ hp ↦ hp.1))

/-- The pass that a step begins finds every request pending, and has each of them ahead of it. -/
theorem RequestsKept.begins (h : RequestsKept l) {now : Rat} (hopens : l.state.opens e = some now) :
    RequestsKept (requestDuty.step step l e) := by
  obtain ⟨hnone, hnow, hstep⟩ := (l.state.transition e).of_opens hopens
  have hdue : l.due = ∅ := h.met hnone
  have hpending : ∀ key ∈ l.owed, key ∈ l.state.pending := by
    intro key hkey
    rcases h.owed_kept key hkey with hmem | hmem | ⟨p, hp⟩
    · exact hmem
    · simp [hdue] at hmem
    · exact absurd hp.pass (by simp [hnone])
  have hcalls : ∀ key, requestDuty.calls l.state e key = !l.state.throttled now key := by
    intro key
    simp [requestDuty, hopens]
  constructor
  · intro key hkey
    rw [Duty.mem_due_step, hdue, hcalls] at hkey
    obtain ⟨hmem | ⟨howed, hfree⟩, -⟩ := hkey
    · simp at hmem
    have hready : l.state.throttled now key = false := by simpa using hfree
    rw [Duty.state_step, hstep]
    exact ⟨_, ready_beginPass hnow (h.owed_supported key howed) hready, hpending key howed⟩
  · intro key hkey
    rw [Duty.state_step, (l.state.transition e).registry]
    rcases (Duty.mem_owed_step.mp hkey).1 with howed | hraised
    · exact h.owed_supported key howed
    · exact (pending_of_mem_raises hraised).1
  · intro key hkey
    obtain ⟨howed | hraised, hstart⟩ := Duty.mem_owed_step.mp hkey
    · by_cases hthrottled : l.state.throttled now key = true
      · refine Or.inr (Or.inr ?_)
        rw [Duty.state_step, hstep]
        exact ⟨_, rfl, hpending key howed, h.owed_supported key howed, hthrottled⟩
      · refine Or.inr (Or.inl (Duty.mem_due_step.mpr ⟨Or.inr ⟨howed, ?_⟩, hstart⟩))
        rw [hcalls]
        simpa using hthrottled
    · exact Or.inl (pending_of_mem_raises hraised).2

/-- Any other step keeps the requests where they are unless it holds back one that is due. -/
theorem RequestsKept.continues (h : RequestsKept l) (hopens : l.state.opens e = none)
    (hholds : ¬ HoldsDue l e) : RequestsKept (requestDuty.step step l e) := by
  have ht := l.state.transition e
  have hdue : ∀ key, key ∈ (requestDuty.step step l e).due ↔
      key ∈ l.due ∧ key ∉ l.state.started e := by
    intro key
    rw [Duty.mem_due_step]
    simp [requestDuty, hopens]
  constructor
  · intro key hkey
    obtain ⟨hmem, hstart⟩ := (hdue key).mp hkey
    obtain ⟨p, hready, hdrained⟩ := h.due_ready key hmem
    have hgate : l.state.holdsBack key e = false := by
      by_contra hne
      exact hholds ⟨key, hmem, by simpa using hne⟩
    obtain ⟨q, hq, -, hpending⟩ :=
      hready.step ht hstart (skipsOver_of_drained hready.pass hdrained) hgate
    exact ⟨q, hq, hpending ▸ hdrained⟩
  · intro key hkey
    rw [Duty.state_step, ht.registry]
    rcases (Duty.mem_owed_step.mp hkey).1 with howed | hraised
    · exact h.owed_supported key howed
    · exact (pending_of_mem_raises hraised).1
  · intro key hkey
    obtain ⟨howed | hraised, hstart⟩ := Duty.mem_owed_step.mp hkey
    · rcases h.owed_kept key howed with hmem | hmem | ⟨p, hp⟩
      · exact Or.inl (ht.pending_subset hopens hmem)
      · exact Or.inr (Or.inl ((hdue key).mpr ⟨hmem, hstart⟩))
      · exact (hp.step ht hstart).imp_right Or.inr
    · exact Or.inl (pending_of_mem_raises hraised).2

/-- A step keeps the requests unless it holds back one that is due. -/
theorem RequestsKept.step (h : RequestsKept l) (hholds : ¬ HoldsDue l e) :
    RequestsKept (requestDuty.step Refresher.step l e) := by
  cases hopens : l.state.opens e with
  | some now => exact h.begins hopens
  | none => exact h.continues hopens hholds

/-- A refresher that was asked for nothing keeps every request. -/
theorem requestsKept_blank (s : Refresher) : RequestsKept (Ledger.blank s) :=
  ⟨by simp [Ledger.blank], by simp [Ledger.blank], by simp [Ledger.blank]⟩

/-- In every interleaving of requests with the steps of the passes, a requested key is scraped by
the first pass that begins outside its throttle, as long as no pass holds back at the gate a key
that is due. -/
theorem requests_met (registry : PluginRegistry) (throttle backoffBase backoffCap : Rat)
    (cache : Dict Key CacheEntry) (events : List RefreshEvent)
    (h : ∀ q ∈ steps (requestDuty.step Refresher.step)
        (Ledger.blank (fresh registry throttle backoffBase backoffCap cache)) events,
      ¬ HoldsDue q.1 q.2) :
    Met (run (requestDuty.step Refresher.step)
      (Ledger.blank (fresh registry throttle backoffBase backoffCap cache)) events) := by
  have hkept := run_invariant_of_guard (fun _ _ ↦ RequestsKept.step) _ events
    (requestsKept_blank _) h
  exact hkept.met

/-- A step fails a scrape whose key was requested while it was under way. -/
def Overtaken (l : Ledger Refresher Key) (e : RefreshEvent) : Prop :=
  ∃ q, l.state.failing e = some q ∧ q.1 ∈ l.owed

/-- The requests are kept and none has a backoff. -/
structure RequestsClear (l : Ledger Refresher Key) : Prop extends RequestsKept l where
  due_owed : l.due ⊆ l.owed
  no_backoff : ∀ key ∈ l.owed, l.state.nextAttempt.get? key = none

/-- A request clears the backoff of its keys. -/
theorem nextAttempt_of_mem_raises (h : key ∈ requestDuty.raises s e) :
    (s.step e).nextAttempt.get? key = none := by
  cases e with
  | request provider kind =>
    have hkey : key ∈ s.registry.requestKeys provider kind := by
      have hboth : key ∈ s.registry.requestKeys provider kind ∧ s.registry.supports key = true := by
        simpa [requestDuty] using h
      exact hboth.1
    simp [Refresher.step, requestRefresh, Dict.get?_filterKeys, hkey]
  | _ => simp [requestDuty] at h

/-- Without a backoff no gate holds back a key that is due. -/
theorem RequestsClear.not_holdsDue (h : RequestsClear l) : ¬ HoldsDue l e := by
  rintro ⟨key, hkey, hholds⟩
  obtain ⟨p, hready, -⟩ := h.due_ready key hkey
  have hfree : l.state.heldBack p.now key = false := by
    simpa [heldBack, h.no_backoff key (h.due_owed hkey)] using hready.now_nonneg
  rw [holdsBack_of_not_heldBack hready.pass hfree] at hholds
  simp at hholds

/-- A step keeps the requests clear unless it fails a scrape that a request has overtaken. -/
theorem RequestsClear.step (h : RequestsClear l) (hover : ¬ Overtaken l e) :
    RequestsClear (requestDuty.step Refresher.step l e) := by
  refine ⟨h.toRequestsKept.step h.not_holdsDue, ?_, ?_⟩
  · intro key hkey
    rw [Duty.mem_due_step] at hkey
    rw [Duty.mem_owed_step]
    exact ⟨Or.inl (hkey.1.elim (fun hdue ↦ h.due_owed hdue) And.left), hkey.2⟩
  · intro key hkey
    rcases (Duty.mem_owed_step.mp hkey).1 with howed | hraised
    · have hother : ∀ q, l.state.failing e = some q → q.1 ≠ key := by
        rintro q hq rfl
        exact hover ⟨q, hq, howed⟩
      refine Option.eq_none_iff_forall_ne_some.mpr (fun t ht ↦ ?_)
      have hbefore := (l.state.transition e).nextAttempt hother ht
      simp [h.no_backoff key howed] at hbefore
    · exact nextAttempt_of_mem_raises hraised

/-- The late failure is the only way to lose a request: in a run in which no scrape fails after
its key was requested again, every request is met. -/
theorem met_of_not_overtaken {s : Refresher} {events : List RefreshEvent}
    (h : ∀ q ∈ steps (requestDuty.step Refresher.step) (Ledger.blank s) events,
      ¬ Overtaken q.1 q.2) :
    Met (run (requestDuty.step Refresher.step) (Ledger.blank s) events) := by
  have hblank : RequestsClear (Ledger.blank s) :=
    ⟨requestsKept_blank s, by simp [Ledger.blank], by simp [Ledger.blank]⟩
  have hclear := run_invariant_of_guard (fun _ _ ↦ RequestsClear.step) _ events hblank h
  exact hclear.met

/-- A request comes while a scrape is under way, which then ends with the outcome; a second pass
begins outside the throttle and is driven to its end. -/
def midScrape (outcome : Outcome) : List RefreshEvent :=
  [.start 100, .visit 1800 100, .gate, .request (some "deepseek") none,
    .finish outcome ⟨101, 101, 1800, 0⟩, .visit 1800 101,
    .start 130, .visit 1800 130, .gate, .finish outcome ⟨131, 131, 1800, 0⟩, .visit 1800 131]

/-- The scrape succeeds, and the second pass scrapes again. -/
theorem requests_met_after_success :
    Met (run (requestDuty.step Refresher.step) (Ledger.blank onePlugin)
      (midScrape (.returned (.obj [("total", .int 5)])))) :=
  requests_met _ 10 60 1800 Dict.empty _ (by decide +kernel)

/-- The scrape fails, and the second pass ends without the scrape that was requested. -/
theorem request_lost_to_failure :
    ¬ Met (run (requestDuty.step Refresher.step) (Ledger.blank onePlugin)
      (midScrape (.raised "timed out"))) := by
  have hpass : (run (requestDuty.step Refresher.step) (Ledger.blank onePlugin)
      (midScrape (.raised "timed out"))).state.pass.isNone = true := by decide +kernel
  have hdue : ("deepseek", Kind.balance) ∈ (run (requestDuty.step Refresher.step)
      (Ledger.blank onePlugin) (midScrape (.raised "timed out"))).due := by decide +kernel
  exact not_met hpass hdue

end Refresher
end LcpGateway.CostCache
