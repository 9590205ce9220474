import LcpGateway.Base.HalfOpen
import LcpGateway.Breaker.Invariant
import Mathlib.Algebra.Order.Floor.Semiring
import Mathlib.Data.List.Infix
import Mathlib.Data.Rat.Floor
import Mathlib.Tactic.Linarith

/-!
# Requests to a provider that keeps failing

Library `Breaker`. Sources `src/api/circuit_breaker.py:190–300` and
`src/api/request_pipeline.py:863–1043`. A chain walk asks the breaker before it forwards a request
and tells it how the request ended, unless the request itself was refused or the provider has no
key. To the requests of one key the breaker is a gate that shuts for the dead cooldown. So a
provider that keeps failing is sent a bounded number of requests, whatever the walks and the router
ask in between. And one that is refused has failed within the longer cooldown before, with no
success since.
-/

namespace LcpGateway.Breaker
open LcpGateway.Base

/-- What happens around the breaker: a call that forwards nothing, a request that is forwarded when
its provider is available, and the end of one that the breaker is not told of;
`request_pipeline.py:891–898,967,978–1043`. -/
inductive ChainEvent where
  | call (op : Op)
  | forward (now : Time) (k : Key)
  | untold (k : Key)

/-- The clock a call reads. -/
def Op.time? : Op → Option Time
  | .isAvailable now _ => some now
  | .recordSuccess now _ => some now
  | .recordFailure now _ _ _ => some now
  | .forceStatus now _ _ => some now
  | .statusOf _ => none
  | .reset _ => none
  | .forgetProvider _ => none

/-- The call clears the failures of a key, or sets its status by hand. -/
def Op.Mends (k : Key) : Op → Prop
  | .recordSuccess _ k' => k' = k
  | .reset k' => k' = k
  | .forceStatus _ k' _ => k' = k
  | .forgetProvider provider => k.provider = provider
  | .isAvailable _ _ => False
  | .recordFailure _ _ _ _ => False
  | .statusOf _ => False

/-- The call records a failure of a key. -/
def Op.fails (k : Key) : Op → Bool
  | .recordFailure _ k' _ _ => k' = k
  | _ => false

/-- The clock an event reads. -/
def ChainEvent.time? : ChainEvent → Option Time
  | .call op => op.time?
  | .forward now _ => some now
  | .untold _ => none

/-- What the gate of a key sees of an event. -/
def ChainEvent.seen (cb : CircuitBreaker) (k : Key) : ChainEvent → GateEvent
  | .call op => if op.fails k then .failure else .look
  | .forward now k' => if k' = k ∧ (cb.isAvailable now k).1 then .send else .look
  | .untold k' => if k' = k then .untold else .look

/-- The breaker behind an event. -/
def CircuitBreaker.after (cb : CircuitBreaker) : ChainEvent → CircuitBreaker
  | .call op => cb.step op
  | .forward now k => cb.step (.isAvailable now k)
  | .untold _ => cb

/-- The breaker, with the requests of one key. -/
structure Watched where
  breaker : CircuitBreaker
  traffic : Traffic

/-- The breaker and the requests of a key behind an event. -/
def Watched.step (k : Key) (s : Watched) (event : ChainEvent) : Watched :=
  ⟨s.breaker.after event, s.traffic.after (event.seen s.breaker k)⟩

/-- Nothing has been forwarded yet. -/
def CircuitBreaker.watched (cb : CircuitBreaker) : Watched := ⟨cb, ⟨0, 0, 0⟩⟩

/-! ### An entry as a gate -/

namespace Health

/-- The gate an entry is: it counts up to the dead threshold, and then it is shut or on trial. -/
def phase (cfg : CbConfig) (h : Health) : GatePhase Time :=
  if (h.consecutiveFailures : Int) < cfg.failuresDead then .counting h.consecutiveFailures
  else if h.status = .dead then h.trippedUntil.elim .trial .shut
  else .trial

variable {cfg : CbConfig} {h : Health}

/-- Below the threshold the entry counts. -/
theorem phase_of_lt (hcount : (h.consecutiveFailures : Int) < cfg.failuresDead) :
    h.phase cfg = .counting h.consecutiveFailures := if_pos hcount

/-- An entry that counts is below the threshold. -/
theorem lt_of_phase {failures : Nat} (hphase : h.phase cfg = .counting failures) :
    failures < cfg.failuresDead.toNat := by
  unfold phase at hphase
  split_ifs at hphase with hcount hdead
  · obtain rfl := GatePhase.counting.inj hphase
    omega
  · cases hu : h.trippedUntil <;> rw [hu] at hphase <;> cases hphase

/-- A probe counts no failure. -/
@[simp] theorem consecutiveFailures_probe (now : Time) :
    (h.probe now).consecutiveFailures = h.consecutiveFailures := by
  unfold probe
  split
  · rfl
  · split <;> rfl
  · split <;> rfl

/-- A cooldown that has passed is one that was set. -/
theorem tripped_of_cooledDown {now : Time} (hcold : CircuitBreaker.cooledDown h now = true) :
    ∃ opens, h.trippedUntil = some opens ∧ opens ≤ now := by
  unfold CircuitBreaker.cooledDown at hcold
  cases hu : h.trippedUntil with
  | none => simp [hu] at hcold
  | some opens => exact ⟨opens, rfl, by simpa [hu] using hcold⟩

/-- A look at an entry, and a request that it lets through. A dead entry that lets one through has
waited for its cooldown, and is on trial. -/
theorem leads_probe {now : Time} {event : GateEvent}
    (hevent : event = .look ∨ event = .send ∧ h.available now) :
    GateLeads cfg.failuresDead.toNat cfg.deadCooldownSeconds now (h.phase cfg) event
      ((h.probe now).phase cfg) := by
  by_cases hcount : (h.consecutiveFailures : Int) < cfg.failuresDead
  · have hafter : (h.probe now).phase cfg = .counting h.consecutiveFailures := by
      rw [phase_of_lt (by simpa using hcount), consecutiveFailures_probe]
    rw [hafter, phase_of_lt hcount]
    obtain rfl | ⟨rfl, -⟩ := hevent
    · exact .look _
    · exact .send _
  · cases hs : h.status with
    | dead =>
      cases hcold : CircuitBreaker.cooledDown h now with
      | false =>
        have hprobe : h.probe now = h := by simp [probe, hs, hcold]
        obtain rfl | ⟨rfl, havailable⟩ := hevent
        · rw [hprobe]
          exact .look _
        · simp [available, hs, hcold] at havailable
      | true =>
        obtain ⟨opens, hu, hcooled⟩ := tripped_of_cooledDown hcold
        have hprobe : h.probe now = h.promote .degraded := by simp [probe, hs, hcold]
        have hshut : h.phase cfg = .shut opens := by simp [phase, hcount, hs, hu]
        have htrial : (h.promote .degraded).phase cfg = .trial := by
          simp [phase, promote, hcount]
        rw [hprobe, hshut, htrial]
        exact .reopen hcooled (hevent.imp_right And.left)
    | healthy =>
      have hprobe : h.probe now = h := by simp [probe, hs]
      have htrial : h.phase cfg = .trial := by simp [phase, hcount, hs]
      rw [hprobe, htrial]
      obtain rfl | ⟨rfl, -⟩ := hevent
      · exact .look _
      · exact .retry
    | degraded =>
      have htrial : h.phase cfg = .trial := by simp [phase, hcount, hs]
      have hafter : (h.probe now).phase cfg = .trial := by
        unfold probe
        simp only [hs]
        split <;> simp [phase, promote, hcount, hs]
      rw [htrial, hafter]
      obtain rfl | ⟨rfl, -⟩ := hevent
      · exact .look _
      · exact .retry

/-- Every error weighs something. -/
theorem errorWeight_pos (errorType : Option ErrorType) : 0 < errorWeight errorType := by
  unfold errorWeight
  split <;> decide

/-- A failure is counted, or shuts the gate for the dead cooldown. -/
theorem leads_failed (now : Time) (errorType : Option ErrorType) (reason : Option String) :
    GateLeads cfg.failuresDead.toNat cfg.deadCooldownSeconds now (h.phase cfg) .failure
      ((h.failed cfg now errorType reason).phase cfg) := by
  have hweight := errorWeight_pos errorType
  by_cases hdead : cfg.failuresDead ≤ ((h.consecutiveFailures + errorWeight errorType : Nat) : Int)
  · have hshut : (h.failed cfg now errorType reason).phase cfg =
        .shut (now + cfg.deadCooldownSeconds) := by
      simp only [failed, if_pos hdead, phase, if_neg (not_lt.mpr hdead), if_true, Option.elim_some]
    rw [hshut]
    exact .trip _
  · have hcount : (h.failed cfg now errorType reason).consecutiveFailures =
        h.consecutiveFailures + errorWeight errorType := by
      simp only [failed, if_neg hdead]
      split <;> rfl
    rw [phase_of_lt (by omega), phase_of_lt (by rw [hcount]; omega), hcount]
    exact .count (by omega) (by omega)

end Health

namespace CircuitBreaker

variable (cb : CircuitBreaker) {k : Key}

/-- What the entry of a key is behind a call. -/
theorem peek_step (op : Op) :
    (cb.step op).peek k = (entryAfter cb.config k (cb.health.get? k) op).getD defaultHealth := by
  rw [peek, health_step]

/-- An event keeps the configuration. -/
@[simp] theorem config_after (event : ChainEvent) : (cb.after event).config = cb.config := by
  cases event with
  | call op => exact config_step cb op
  | forward now k => exact config_step cb _
  | untold k => rfl

/-- A question is a probe of the entry it is about. -/
theorem peek_isAvailable (hk : k.provider ≠ "") (now : Time) :
    (cb.step (.isAvailable now k)).peek k = (cb.peek k).probe now := by
  rw [peek_step, entryAfter, if_pos ⟨rfl, hk⟩, peek]
  cases cb.health.get? k <;> rfl

/-- A question about another key leaves the entry alone. -/
theorem peek_isAvailable_of_ne {k' : Key} (hne : k' ≠ k) (now : Time) :
    (cb.step (.isAvailable now k')).peek k = cb.peek k := by
  rw [peek_step, entryAfter, if_neg fun h ↦ hne h.1, peek]

/-- What an event makes of the gate of a key, when it does not mend it. -/
theorem leads_after (hk : k.provider ≠ "") {event : ChainEvent} {now : Time}
    (hmends : ∀ op, event = .call op → ¬ op.Mends k) (htime : ∀ t, event.time? = some t → t = now) :
    GateLeads cb.config.failuresDead.toNat cb.config.deadCooldownSeconds now
      ((cb.peek k).phase cb.config) (event.seen cb k)
      (((cb.after event).peek k).phase cb.config) := by
  cases event with
  | untold k' =>
    simp only [ChainEvent.seen, after]
    split
    · exact .untold _
    · exact .look _
  | forward t k' =>
    obtain rfl := htime t rfl
    by_cases hkey : k' = k
    · subst hkey
      rw [after, peek_isAvailable cb hk]
      refine Health.leads_probe ?_
      by_cases hsent : (cb.isAvailable t k').1 = true
      · have havailable := hsent
        rw [isAvailable_fst, Bool.or_eq_true] at havailable
        refine .inr ⟨by simp [ChainEvent.seen, hsent], havailable.resolve_left ?_⟩
        simpa using hk
      · exact .inl (by simp [ChainEvent.seen, hsent])
    · rw [after, peek_isAvailable_of_ne cb hkey, ChainEvent.seen, if_neg fun h ↦ hkey h.1]
      exact .look _
  | call op =>
    have hop := hmends op rfl
    cases op with
    | isAvailable t k' =>
      obtain rfl := htime t rfl
      by_cases hkey : k' = k
      · subst hkey
        rw [after, peek_isAvailable cb hk]
        exact Health.leads_probe (.inl rfl)
      · rw [after, peek_isAvailable_of_ne cb hkey]
        exact .look _
    | statusOf k' => exact .look _
    | recordSuccess t k' =>
      have hne : k' ≠ k := hop
      rw [after, peek_step, entryAfter, if_neg hne]
      exact .look _
    | recordFailure t k' errorType reason =>
      obtain rfl := htime t rfl
      by_cases hkey : k' = k
      · subst hkey
        simp only [after, peek_step, entryAfter, if_true, Option.getD_some, ChainEvent.seen,
          Op.fails, decide_true]
        exact Health.leads_failed t errorType reason
      · simp only [after, peek_step, entryAfter, if_neg hkey, ChainEvent.seen, Op.fails,
          decide_eq_true_eq]
        exact .look _
    | reset k' =>
      have hne : k' ≠ k := hop
      rw [after, peek_step, entryAfter, if_neg hne]
      exact .look _
    | forceStatus t k' action =>
      have hne : k' ≠ k := hop
      rw [after, peek_step, entryAfter, if_neg hne]
      exact .look _
    | forgetProvider provider =>
      have hne : k.provider ≠ provider := hop
      rw [after, peek_step, entryAfter, if_neg hne]
      exact .look _

end CircuitBreaker

/-! ### Runs -/

section Run

variable {k : Key} {cfg : CbConfig} {width : Nat} {start stop : Time}

/-- Run lemma: the gate of the key is within its bound behind every run that does not mend it. The
clock only moves on, and an event that reads none happens at the time of the one before. -/
theorem Watched.withinBound_run (hk : k.provider ≠ "") (events : List ChainEvent) {s : Watched}
    {now : Time} (hconfig : s.breaker.config = cfg)
    (h : WithinBound cfg.failuresDead.toNat cfg.deadCooldownSeconds width start now s.traffic
      ((s.breaker.peek k).phase cfg))
    (hstart : start ≤ now)
    (htimes : (now :: (events.filterMap ChainEvent.time? ++ [stop])).Pairwise (· ≤ ·))
    (hmends : ∀ op, .call op ∈ events → ¬ op.Mends k)
    (hwidth : ∀ front, front <+: events →
      (run (Watched.step k) s front).traffic.underWay ≤ width) :
    WithinBound cfg.failuresDead.toNat cfg.deadCooldownSeconds width start stop
      (run (Watched.step k) s events).traffic
      (((run (Watched.step k) s events).breaker.peek k).phase cfg) := by
  induction events generalizing s now with
  | nil =>
    have hstop : now ≤ stop := (List.pairwise_cons.mp htimes).1 stop (List.mem_singleton_self stop)
    exact h.later hstop
  | cons event rest ih =>
    have hnext : ∃ next, now ≤ next ∧ (∀ t, event.time? = some t → t = next) ∧
        (next :: (rest.filterMap ChainEvent.time? ++ [stop])).Pairwise (· ≤ ·) := by
      cases htime : event.time? with
      | none =>
        rw [List.filterMap_cons_none htime] at htimes
        exact ⟨now, le_rfl, fun t ht ↦ absurd ht.symm (Option.some_ne_none t), htimes⟩
      | some t =>
        rw [List.filterMap_cons_some htime, List.cons_append] at htimes
        obtain ⟨hfirst, hrest⟩ := List.pairwise_cons.mp htimes
        exact ⟨t, hfirst t List.mem_cons_self, fun u hu ↦ (Option.some.inj hu).symm, hrest⟩
    obtain ⟨next, hle, hreads, hrest⟩ := hnext
    have hleads := s.breaker.leads_after hk
      (fun op hop ↦ hmends op (hop ▸ List.mem_cons_self)) hreads
    rw [hconfig] at hleads
    have hafter : (s.breaker.after event).config = cfg := by
      rw [CircuitBreaker.config_after, hconfig]
    have hstep := (h.later hle).step (hstart.trans hle) (hwidth [] List.nil_prefix) hleads
    refine ih hafter hstep (hstart.trans hle) hrest ?_ ?_
    · exact fun op hop ↦ hmends op (List.mem_cons_of_mem event hop)
    · exact fun front hfront ↦ hwidth (event :: front) (List.cons_prefix_cons.mpr ⟨rfl, hfront⟩)

end Run

/-- A request that fails, and another one behind it. -/
def failingRequests : List ChainEvent :=
  let k : Key := ⟨"deepseek", "", "pi"⟩
  [.forward 0 k, .call (.recordFailure 1 k (some .providerTimeoutError) none), .forward 2 k]

/-- The last failure of a key in a run, with no success behind it. -/
def LastFailed (k : Key) (ops : List Op) (t : Time) : Prop :=
  ∃ front errorType reason back, ops = front ++ .recordFailure t k errorType reason :: back ∧
    ∀ op ∈ back, op.fails k = false ∧ ¬ op.Mends k

/-- Calls that neither fail nor mend the key leave its last failure the last one. -/
theorem LastFailed.append {k : Key} {ops : List Op} {t : Time} (h : LastFailed k ops t) {op : Op}
    (hfails : op.fails k = false) (hmends : ¬ op.Mends k) : LastFailed k (ops ++ [op]) t := by
  obtain ⟨front, errorType, reason, back, rfl, hback⟩ := h
  refine ⟨front, errorType, reason, back ++ [op], by simp, ?_⟩
  intro later hlater
  rcases List.mem_append.mp hlater with hmem | hmem
  · exact hback later hmem
  · obtain rfl := List.mem_singleton.mp hmem
    exact ⟨hfails, hmends⟩

/-- A failure that has just been recorded is the last one. -/
theorem lastFailed_concat (k : Key) (ops : List Op) (t : Time) (errorType : Option ErrorType)
    (reason : Option String) : LastFailed k (ops ++ [.recordFailure t k errorType reason]) t :=
  ⟨ops, errorType, reason, [], rfl, by simp⟩

/-- The longest cooldown. -/
def CbConfig.longest (cfg : CbConfig) : Rat :=
  max cfg.degradedCooldownSeconds cfg.deadCooldownSeconds

/-- A failure trips the entry for a cooldown from now on; one that trips nothing leaves an entry
that had not been tripped before. -/
theorem Health.WellFormed.trippedUntil_failed {cfg : CbConfig} {h : Health}
    (hwf : h.WellFormed cfg) {now u : Time} {errorType : Option ErrorType}
    {reason : Option String} (hu : (h.failed cfg now errorType reason).trippedUntil = some u) :
    u ≤ now + cfg.longest := by
  unfold Health.failed at hu
  dsimp only at hu
  split_ifs at hu with hdead hdegraded
  · obtain rfl := Option.some.inj hu
    exact (add_le_add_iff_left now).mpr (le_max_right _ _)
  · obtain rfl := Option.some.inj hu
    exact (add_le_add_iff_left now).mpr (le_max_left _ _)
  · push_cast at hdead hdegraded
    cases hs : h.status with
    | healthy =>
      have hnone := (hwf.healthy hs).1
      exact absurd (hu.symm.trans hnone) (Option.some_ne_none u)
    | degraded =>
      have hcount := (hwf.cooling u hs hu).1
      omega
    | dead =>
      have hcount := (hwf.dead hs).1
      omega

/-- A probe keeps the cooldown or ends it. -/
theorem Health.trippedUntil_probe {h : Health} {now u : Time}
    (hu : (h.probe now).trippedUntil = some u) : h.trippedUntil = some u := by
  unfold Health.probe at hu
  split at hu
  · exact hu
  · split at hu
    · exact absurd hu.symm (Option.some_ne_none u)
    · exact hu
  · split at hu
    · exact absurd hu.symm (Option.some_ne_none u)
    · exact hu

/-- What trips an entry is the last failure of its key. -/
theorem lastFailed_of_tripped {cfg : CbConfig} (hdead : 0 < cfg.failuresDead) (k : Key)
    (ops : List Op) (hauto : ∀ op ∈ ops, op.Automatic) {h : Health} {u : Time}
    (hentry : (run CircuitBreaker.step (CircuitBreaker.new cfg) ops).health.get? k = some h)
    (hu : h.trippedUntil = some u) :
    ∃ t, LastFailed k ops t ∧ u ≤ t + cfg.longest := by
  induction ops using List.reverseRecOn generalizing h u with
  | nil => exact absurd hentry.symm (by simp [run, CircuitBreaker.new])
  | append_singleton ops op ih =>
    have hops : ∀ op ∈ ops, op.Automatic :=
      fun op hop ↦ hauto op (List.mem_append_left _ hop)
    have hwf := CircuitBreaker.wellFormed_run cfg hdead ops hops
    rw [run_append, run, run, CircuitBreaker.health_step, CircuitBreaker.config_run] at hentry
    generalize hbefore :
      (run CircuitBreaker.step (CircuitBreaker.new cfg) ops).health.get? k = before at hentry
    have hkept (hsame : before = some h) (hfails : op.fails k = false) (hmends : ¬ op.Mends k) :
        ∃ t, LastFailed k (ops ++ [op]) t ∧ u ≤ t + cfg.longest := by
      obtain ⟨t, hlast, hle⟩ := ih hops (hbefore.trans hsame) hu
      exact ⟨t, hlast.append hfails hmends, hle⟩
    cases op with
    | isAvailable now k' =>
      rw [entryAfter] at hentry
      split_ifs at hentry with hkey
      · obtain ⟨h₀, rfl, rfl⟩ := Option.map_eq_some_iff.mp hentry
        obtain ⟨t, hlast, hle⟩ := ih hops hbefore (Health.trippedUntil_probe hu)
        exact ⟨t, hlast.append rfl id, hle⟩
      · exact hkept hentry rfl id
    | recordSuccess now k' =>
      rw [entryAfter] at hentry
      split_ifs at hentry with hkey
      · obtain rfl := Option.some.inj hentry
        exact absurd hu.symm (Option.some_ne_none u)
      · exact hkept hentry rfl hkey
    | recordFailure now k' errorType reason =>
      rw [entryAfter] at hentry
      split_ifs at hentry with hkey
      · subst hkey
        obtain rfl := Option.some.inj hentry
        have hpeek : (before.getD defaultHealth).WellFormed cfg := by
          cases before with
          | none => exact Health.wellFormed_default hdead
          | some h₀ =>
            have hgood := hwf k' h₀ hbefore
            rwa [CircuitBreaker.config_run] at hgood
        exact ⟨now, lastFailed_concat k' ops now errorType reason, hpeek.trippedUntil_failed hu⟩
      · exact hkept hentry (by simpa [Op.fails] using hkey) id
    | statusOf k' => exact (hauto _ (List.mem_append_right _ (List.mem_singleton_self _))).elim
    | reset k' => exact (hauto _ (List.mem_append_right _ (List.mem_singleton_self _))).elim
    | forceStatus now k' action =>
      exact (hauto _ (List.mem_append_right _ (List.mem_singleton_self _))).elim
    | forgetProvider provider =>
      exact (hauto _ (List.mem_append_right _ (List.mem_singleton_self _))).elim

/-- In every run of the calls that the request path makes, a provider is refused only while a
cooldown from its own last failure runs, with no success since. -/
theorem lastFailed_of_refused {cfg : CbConfig} (hdead : 0 < cfg.failuresDead) (ops : List Op)
    (hauto : ∀ op ∈ ops, op.Automatic) {now : Time} {k : Key}
    (hrefused : ((run CircuitBreaker.step (CircuitBreaker.new cfg) ops).isAvailable now k).1 =
      false) :
    ∃ t, LastFailed k ops t ∧ now < t + cfg.longest := by
  have hwf := CircuitBreaker.wellFormed_run cfg hdead ops hauto
  rw [CircuitBreaker.isAvailable_fst, Bool.or_eq_false_iff] at hrefused
  have hunavailable := hrefused.2
  rw [CircuitBreaker.peek] at hunavailable
  cases hentry : (run CircuitBreaker.step (CircuitBreaker.new cfg) ops).health.get? k with
  | none =>
    rw [hentry] at hunavailable
    simp [defaultHealth, Health.available] at hunavailable
  | some h =>
    rw [hentry] at hunavailable
    obtain ⟨u, hu, hlt⟩ := (hwf k h hentry).unavailable hunavailable
    obtain ⟨t, hlast, hle⟩ := lastFailed_of_tripped hdead k ops hauto hentry hu
    exact ⟨t, hlast, hlt.trans_le hle⟩

/-- A provider with two rejected keys is refused a minute later, for the last of them. -/
theorem lastFailed_of_refused_twoAuthFailures :
    let k : Key := ⟨"deepseek", "", "pi"⟩
    let ops : List Op := [.recordFailure 0 k (some .providerAuthError) (some "HTTP 401"),
      .recordFailure 1 k (some .providerAuthError) (some "HTTP 401"), .isAvailable 30 k]
    ∃ t, LastFailed k ops t ∧ 60 < t + defaultCbConfig.longest := by
  intro k ops
  exact lastFailed_of_refused (by decide) ops (by simp [ops, Op.Automatic]) (by decide +kernel)

end LcpGateway.Breaker
