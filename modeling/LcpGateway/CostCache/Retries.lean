import LcpGateway.CostCache.Pass

/-!
# Retries of failed scrapes

Library `CostCache`. Source `src/api/cost_cache.py:470–478,619–718`. A pass asks for a retry by
staleness, and not by the failure: a first failure writes a row that is fresh, a forced scrape of a
fresh row leaves it fresh, and a quiet key stays quiet. In these cases the pass leaves the key out
although its backoff is over. A failure never touches a payload that is there.
-/

namespace LcpGateway.CostCache
open LcpGateway.Base

/-- A transient failure raises another scrape of the key, which a pass that begins past its backoff
and outside its throttle calls in. -/
def retryDuty : Duty Refresher RefreshEvent Key where
  raises s e := match s.failing e with
    | some (key, true) => {key}
    | _ => ∅
  calls s e key := (s.opens e).any (fun now ↦ !s.throttled now key && !s.heldBack now key)
  settles := Refresher.started

namespace Refresher

/-- The pass visits supported keys only. -/
def PassSupported (s : Refresher) : Prop :=
  ∀ p, s.pass = some p → (∀ key ∈ p.rest, key ∈ s.registry.supportedKeys) ∧
    ∀ key, p.stage = .gate key ∨ p.stage = .scraping key → key ∈ s.registry.supportedKeys

/-- A key that is due is left out as quiet or fresh. -/
def SkipsDue (l : Ledger Refresher Key) (e : RefreshEvent) : Prop :=
  ∃ key ∈ l.due, l.state.skipsOver key e = true

/-- A payload that is no error is not replaced by one that is. -/
def GoodKept (s s' : Refresher) : Prop :=
  ∀ key ent ent', s.cache.get? key = some ent → isError ent.payload = false →
    s'.cache.get? key = some ent' → isError ent'.payload = false

variable {s s' : Refresher} {e : RefreshEvent} {key : Key} {p : Pass}

/-- No step brings an unsupported key into a pass. -/
theorem PassSupported.step (h : s.PassSupported) (ht : s.Transition e s') : s'.PassSupported := by
  cases ht with
  | request | invalidate | idle => exact h
  | start now hpass hnow =>
    rintro p hp
    obtain rfl : _ = p := Option.some.inj hp
    exact ⟨fun _ hkey ↦ hkey, by simp⟩
  | close => simp [PassSupported]
  | skip ttl clock q k rest hpass hstage hrest | defer ttl clock q k rest hpass hstage hrest =>
    rintro p hp
    obtain rfl : _ = p := Option.some.inj hp
    obtain ⟨hahead, hat⟩ := h q hpass
    exact ⟨fun key hkey ↦ hahead key (hrest ▸ List.mem_cons_of_mem k hkey), hat⟩
  | pick ttl clock q k rest hpass hstage hrest =>
    rintro p hp
    obtain rfl : _ = p := Option.some.inj hp
    obtain ⟨hahead, hat⟩ := h q hpass
    refine ⟨fun key hkey ↦ hahead key (hrest ▸ List.mem_cons_of_mem k hkey), ?_⟩
    intro key hkey
    obtain rfl : k = key := by simpa using hkey
    exact hahead k (hrest ▸ List.mem_cons_self)
  | hold q k hpass hstage =>
    rintro p hp
    obtain rfl : _ = p := Option.some.inj hp
    exact ⟨(h q hpass).1, by simp⟩
  | scrape q k hpass hstage =>
    rintro p hp
    obtain rfl : _ = p := Option.some.inj hp
    refine ⟨(h q hpass).1, ?_⟩
    intro key hkey
    obtain rfl : k = key := by simpa using hkey
    exact (h q hpass).2 k (Or.inl hstage)
  | record outcome moment q k hpass hstage =>
    rintro p hp
    obtain rfl : _ = p := Option.some.inj hp
    simp only [registry_record]
    exact ⟨(h q hpass).1, by simp⟩

/-- A key whose retry is raised is supported. -/
theorem supported_of_mem_raises (h : s.PassSupported) (hkey : key ∈ retryDuty.raises s e) :
    key ∈ s.registry.supportedKeys := by
  simp only [retryDuty] at hkey
  split at hkey
  · next k hfailing =>
    obtain rfl : key = k := by simpa using hkey
    obtain ⟨p, hpass, hstage⟩ := scraping_of_failing hfailing
    exact (h p hpass).2 key (Or.inr hstage)
  · simp at hkey

/-- Where the retries are: one that is due is ahead of the pass and past its backoff. -/
structure RetriesKept (l : Ledger Refresher Key) : Prop where
  pass_supported : l.state.PassSupported
  owed_supported : ∀ key ∈ l.owed, key ∈ l.state.registry.supportedKeys
  due_ready : ∀ key ∈ l.due, ∃ p, l.state.Ready key p ∧ l.state.heldBack p.now key = false

variable {l : Ledger Refresher Key}

/-- Kept retries are met: one that is due is ahead of a pass. -/
theorem RetriesKept.met (h : RetriesKept l) : Met l :=
  met_of_ready (fun key hkey ↦ (h.due_ready key hkey).imp (fun _ hp ↦ hp.1))

/-- The pass that a step begins has every failed key ahead of it. -/
theorem RetriesKept.begins (h : RetriesKept l) {now : Rat} (hopens : l.state.opens e = some now)
    (hmem : key ∈ (retryDuty.step step l e).due) :
    ∃ p, (l.state.step e).Ready key p ∧ (l.state.step e).heldBack p.now key = false := by
  obtain ⟨hnone, hnow, hstep⟩ := (l.state.transition e).of_opens hopens
  have hdue : l.due = ∅ := h.met hnone
  rw [Duty.mem_due_step, hdue] at hmem
  obtain ⟨hmem | ⟨howed, hcalls⟩, -⟩ := hmem
  · simp at hmem
  obtain ⟨hthrottle, hfree⟩ :
      l.state.throttled now key = false ∧ l.state.heldBack now key = false := by
    simpa [retryDuty, hopens] using hcalls
  rw [hstep]
  exact ⟨_, ready_beginPass hnow (h.owed_supported key howed) hthrottle, hfree⟩

/-- Any other step keeps a due retry ahead of the pass unless it leaves out one that is due. -/
theorem RetriesKept.continues (h : RetriesKept l) (hopens : l.state.opens e = none)
    (hskips : ¬ SkipsDue l e) (hmem : key ∈ (retryDuty.step step l e).due) :
    ∃ p, (l.state.step e).Ready key p ∧ (l.state.step e).heldBack p.now key = false := by
  have ht := l.state.transition e
  obtain ⟨hdue, hstart⟩ : key ∈ l.due ∧ key ∉ l.state.started e := by
    rw [Duty.mem_due_step] at hmem
    simpa [retryDuty, hopens] using hmem
  obtain ⟨p, hready, hfree⟩ := h.due_ready key hdue
  have hleft : l.state.skipsOver key e = false := by
    by_contra hne
    exact hskips ⟨key, hdue, by simpa using hne⟩
  obtain ⟨q, hq, hnow, -⟩ :=
    hready.step ht hstart hleft (holdsBack_of_not_heldBack hready.pass hfree)
  refine ⟨q, hq, ?_⟩
  rw [hnow]
  exact ht.not_heldBack hready.now_nonneg (fun _ ↦ hready.failing_ne) hfree

/-- A step keeps the retries unless it leaves out one that is due. -/
theorem RetriesKept.step (h : RetriesKept l) (hskips : ¬ SkipsDue l e) :
    RetriesKept (retryDuty.step Refresher.step l e) := by
  refine ⟨h.pass_supported.step (l.state.transition e), ?_, ?_⟩
  · intro key hkey
    rw [Duty.state_step, (l.state.transition e).registry]
    rcases (Duty.mem_owed_step.mp hkey).1 with howed | hraised
    · exact h.owed_supported key howed
    · exact supported_of_mem_raises h.pass_supported hraised
  · intro key hkey
    cases hopens : l.state.opens e with
    | some now => exact h.begins hopens hkey
    | none => exact h.continues hopens hskips hkey

/-- A refresher that has failed nothing keeps every retry. -/
theorem retriesKept_blank {s : Refresher} (h : s.pass = none) : RetriesKept (Ledger.blank s) :=
  ⟨fun p hp ↦ absurd hp (by simp [Ledger.blank, h]), by simp [Ledger.blank], by simp [Ledger.blank]⟩

/-- A payload is classified by its error. -/
theorem verdict_returned {payload : Json} (h : payload ≠ .null) :
    s.verdict key (.returned payload) =
      if isError payload then
        let errorKind := (payload.get? "_error").getD .null
        let detail := ((payload.get? "detail").getD .null).orElse errorKind
        .failed errorKind detail
          (!(errorKind.isStr "auth_failed" || errorKind.isStr "no_subscription"))
      else .success payload := by
  cases payload with
  | null => exact absurd rfl h
  | _ => rfl

/-- A scrape is a success only with a payload that is no error. -/
theorem isError_of_verdict {outcome : Outcome} {payload : Json}
    (h : s.verdict key outcome = .success payload) : isError payload = false := by
  cases outcome with
  | raised text => simp [verdict] at h
  | crashed => simp [verdict] at h
  | returned payload' =>
    by_cases hnull : payload' = .null
    · subst hnull
      simp only [verdict] at h
      split at h <;> simp at h
    · rw [verdict_returned hnull] at h
      split at h
      · simp at h
      · next herror =>
        obtain rfl : payload' = payload := by simpa using h
        simpa using herror

/-- A failure leaves the payload of a row that is there. -/
theorem payload_failedRow {ent : CacheEntry} (h : s.cache.get? key = some ent)
    (errorKind detail : Json) (stamp : Rat) :
    (s.failedRow key errorKind detail stamp).payload = ent.payload := by
  simp [failedRow, h]

/-- A step that leaves the cache alone keeps its payloads. -/
theorem goodKept_of_cache_eq (h : s'.cache = s.cache) : GoodKept s s' := by
  intro key ent ent' hget hgood hget'
  obtain rfl : ent = ent' := by simpa [h, hget] using hget'
  exact hgood

/-- A deleted row is not replaced. -/
theorem goodKept_invalidate (provider : Option String) (kind : Option Kind) :
    GoodKept s (s.invalidate provider kind) := by
  intro key ent ent' hget hgood hget'
  simp only [invalidate, Dict.get?_filterKeys] at hget'
  split at hget'
  · obtain rfl : ent = ent' := by simpa [hget] using hget'
    exact hgood
  · simp at hget'

/-- A scrape writes an error only where there is no payload, and else only by a success. -/
theorem goodKept_record {k : Key} {moment : Moment} {v : Verdict}
    (hsuccess : ∀ payload, v = .success payload → isError payload = false) :
    GoodKept s (s.record k moment v) := by
  intro key ent ent' hget hgood hget'
  by_cases hk : k = key
  · subst hk
    cases v with
    | failed errorKind detail transient =>
      simp only [record, recordFailure, Dict.get?_set_self] at hget'
      obtain rfl := Option.some.inj hget'
      rwa [payload_failedRow hget]
    | noData => exact goodKept_of_cache_eq rfl k ent ent' hget hgood hget'
    | success payload =>
      simp only [record, Dict.get?_set_self] at hget'
      obtain rfl := Option.some.inj hget'
      exact hsuccess payload rfl
  · have hrow : (s.record k moment v).cache.get? key = s.cache.get? key := by
      cases v <;> simp [record, recordFailure, Dict.get?_set, hk]
    obtain rfl : ent = ent' := by simpa [hrow, hget] using hget'
    exact hgood

/-- No step replaces a payload by an error. -/
theorem Transition.goodKept (h : s.Transition e s') : GoodKept s s' := by
  cases h with
  | invalidate provider kind => exact goodKept_invalidate provider kind
  | record outcome moment p k hpass hstage =>
    exact goodKept_record (fun _ ↦ isError_of_verdict)
  | _ => exact goodKept_of_cache_eq rfl

/-- In every history, a key that failed transiently is scraped by the first pass that begins past
its backoff and outside its throttle, as long as no pass leaves out as quiet or fresh a key that
is due; and a payload is never replaced by an error. -/
theorem retries_met_and_payloads_kept (registry : PluginRegistry)
    (throttle backoffBase backoffCap : Rat) (cache : Dict Key CacheEntry)
    (events : List RefreshEvent) :
    ((∀ q ∈ steps (retryDuty.step Refresher.step)
        (Ledger.blank (fresh registry throttle backoffBase backoffCap cache)) events,
        ¬ SkipsDue q.1 q.2) →
      Met (run (retryDuty.step Refresher.step)
        (Ledger.blank (fresh registry throttle backoffBase backoffCap cache)) events)) ∧
    ∀ q ∈ steps Refresher.step (fresh registry throttle backoffBase backoffCap cache) events,
      GoodKept q.1 (q.1.step q.2) := by
  constructor
  · intro h
    have hkept := run_invariant_of_guard (fun _ _ ↦ RetriesKept.step) _ events
      (retriesKept_blank rfl) h
    exact hkept.met
  · intro q _
    exact (q.1.transition q.2).goodKept

/-- The first scrape of a key fails, and a pass begins after its backoff. -/
def firstFailure : List RefreshEvent :=
  [.start 100, .visit 1800 100, .gate, .finish (.raised "timed out") ⟨101, 101, 1800, 0⟩,
    .visit 1800 101, .start 200, .visit 1800 200, .visit 1800 200]

/-- The row that the failure wrote is fresh, and the second pass leaves the key out. -/
theorem first_failure_not_retried :
    ¬ Met (run (retryDuty.step Refresher.step) (Ledger.blank onePlugin) firstFailure) := by
  have hpass : (run (retryDuty.step Refresher.step) (Ledger.blank onePlugin)
      firstFailure).state.pass.isNone = true := by decide +kernel
  have hdue : ("deepseek", Kind.balance) ∈ (run (retryDuty.step Refresher.step)
      (Ledger.blank onePlugin) firstFailure).due := by decide +kernel
  exact not_met hpass hdue

end Refresher
end LcpGateway.CostCache
