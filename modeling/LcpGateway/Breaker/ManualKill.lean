import LcpGateway.Breaker.Machine

/-!
# Manual kill

Library `Breaker`. `force_status(…, "kill")` is documented as dead until a manual resume
(`src/api/circuit_breaker.py:371–373,384–387`). The automatic bookkeeping writes the same
fields, so a killed key stays dead exactly over the runs whose steps avoid its transitions:
a recorded success, a count between the two thresholds, and a cooldown that a later
failure armed.
-/

namespace LcpGateway.Breaker
open LcpGateway.Base

/-- The call is not a manual action that lifts a kill of `k`. -/
def Op.LeavesKill (k : Key) : Op → Prop
  | .reset k' => k' ≠ k
  | .forceStatus _ k' .degrade => k' ≠ k
  | .forceStatus _ k' .resume => k' ≠ k
  | .forgetProvider p => k.provider ≠ p
  | _ => True

namespace CircuitBreaker

/-- `k` is dead after the call, and the call does not report it otherwise. -/
def StaysKilled (k : Key) (cb : CircuitBreaker) (op : Op) : Prop :=
  (cb.step op).statusOf k = .dead ∧
  (∀ now, op = .isAvailable now k → (cb.apply op).1 = .available false) ∧
  (op = .statusOf k → (cb.apply op).1 = .status .dead)

/-- No automatic transition out of dead is enabled: the provider is addressable, a probe
does not meet an expired cooldown, no success is recorded, and a failure does not count
to the degraded band. -/
def NoTransition (k : Key) (cb : CircuitBreaker) (op : Op) : Prop :=
  k.provider ≠ "" ∧
  match op with
  | .isAvailable now k' => k' = k → cooledDown (cb.peek k) now = false
  | .recordSuccess _ k' => k' ≠ k
  | .recordFailure _ k' errorType _ => k' = k →
    let n : Int := (cb.peek k).consecutiveFailures + errorWeight errorType
    cb.config.failuresDegraded ≤ n → cb.config.failuresDead ≤ n
  | _ => True

/-- A killed or otherwise dead entry is tracked for `k`. -/
def TracksDead (k : Key) (cb : CircuitBreaker) : Prop :=
  ∃ h, cb.health.get? k = some h ∧ h.status = .dead

variable {cb : CircuitBreaker} {k : Key}

private theorem statusOf_of_get? {h : Health} (hp : k.provider ≠ "")
    (hk : cb.health.get? k = some h) : cb.statusOf k = h.status := by
  simp [statusOf, hp, peek, hk]

private theorem peek_of_get? {h : Health} (hk : cb.health.get? k = some h) : cb.peek k = h := by
  simp [peek, hk]

/-- A failure keeps a dead entry dead unless its count lands in the degraded band. -/
theorem status_failed_iff {h : Health} (hdead : h.status = .dead) (cfg : CbConfig) (now : Time)
    (errorType : Option ErrorType) (reason : Option String) :
    (h.failed cfg now errorType reason).status = .dead ↔
      (cfg.failuresDegraded ≤ (h.consecutiveFailures : Int) + errorWeight errorType →
        cfg.failuresDead ≤ (h.consecutiveFailures : Int) + errorWeight errorType) := by
  unfold Health.failed
  push_cast
  split
  · next hn => simp [hn]
  · next hn =>
    split
    · next hm => simp [hn, hm]
    · next hm => simp [hdead, hm]

/-- The entry of a dead key after one call stays dead exactly when no transition is
enabled. -/
theorem tracksDead_step_iff (htracks : cb.TracksDead k) (hp : k.provider ≠ "") (op : Op)
    (hleaves : op.LeavesKill k) : (cb.step op).TracksDead k ↔ cb.NoTransition k op := by
  obtain ⟨h, hk, hdead⟩ := htracks
  have hpeek := peek_of_get? hk
  unfold TracksDead NoTransition
  rw [health_step, hk]
  cases op with
  | isAvailable now k' =>
    by_cases hkk : k' = k
    · cases hcool : cooledDown h now <;>
        simp [entryAfter, hkk, hp, Health.probe, hdead, hpeek, hcool, Health.promote]
    · simp [entryAfter, hkk, hp, hdead]
  | statusOf k' => simp [entryAfter, hp, hdead]
  | recordSuccess now k' =>
    by_cases hkk : k' = k <;> simp [entryAfter, hkk, hp, hdead, Health.succeeded]
  | recordFailure now k' errorType reason =>
    by_cases hkk : k' = k
    · simp [entryAfter, hkk, hp, hpeek, status_failed_iff hdead]
    · simp [entryAfter, hkk, hp, hdead]
  | reset k' =>
    have hkk : k' ≠ k := hleaves
    simp [entryAfter, hkk, hp, hdead]
  | forceStatus now k' action =>
    by_cases hkk : k' = k
    · cases action with
      | degrade => exact absurd hkk hleaves
      | resume => exact absurd hkk hleaves
      | kill => simp [entryAfter, hkk, hp, Health.forced]
      | unknown s => simp [entryAfter, hkk, hp, Health.forced, hdead]
    · simp [entryAfter, hkk, hp, hdead]
  | forgetProvider p =>
    have hpp : k.provider ≠ p := hleaves
    simp [entryAfter, hpp, hp, hdead]

/-- Step lemma: a dead key stays killed over one call exactly when no transition is
enabled in front of it. -/
theorem staysKilled_iff (htracks : cb.TracksDead k) (op : Op) (hleaves : op.LeavesKill k) :
    cb.StaysKilled k op ↔ cb.NoTransition k op := by
  by_cases hp : k.provider = ""
  · simp [StaysKilled, NoTransition, statusOf, hp]
  · obtain ⟨h, hk, hdead⟩ := htracks
    constructor
    · rintro ⟨hstatus, -, -⟩
      rw [← tracksDead_step_iff ⟨h, hk, hdead⟩ hp op hleaves]
      cases he : (cb.step op).health.get? k with
      | none => simp [statusOf, hp, peek, he, defaultHealth] at hstatus
      | some h' => exact ⟨h', he, by rwa [statusOf_of_get? hp he] at hstatus⟩
    · intro hno
      obtain ⟨h', hk', hdead'⟩ := (tracksDead_step_iff ⟨h, hk, hdead⟩ hp op hleaves).mpr hno
      refine ⟨by rw [statusOf_of_get? hp hk', hdead'], ?_, ?_⟩
      · rintro now rfl
        have hcool : cooledDown (cb.peek k) now = false := hno.2 rfl
        rw [peek_of_get? hk] at hcool
        simp [apply, isAvailable_fst, hp, peek_of_get? hk, Health.available, hdead, hcool]
      · rintro rfl
        simp [apply, statusOf_of_get? hp hk, hdead]

/-- After a kill the entry is tracked and dead. -/
theorem tracksDead_kill (cb : CircuitBreaker) (now : Time) (k : Key) :
    (cb.step (.forceStatus now k .kill)).TracksDead k := by
  refine ⟨{ cb.peek k with status := .dead, trippedUntil := none, manualOverride := some .dead },
    ?_, rfl⟩
  simp [health_step, entryAfter, Health.forced, peek]

/-- Over every run without a lifting manual action, a killed key stays dead and is never
reported available exactly when no step of the run enables an automatic transition. -/
theorem kill_holds_iff (cb : CircuitBreaker) (now : Time) (k : Key) (ops : List Op)
    (hleaves : ∀ op ∈ ops, op.LeavesKill k) :
    let killed := cb.step (.forceStatus now k .kill)
    (∀ p ∈ steps CircuitBreaker.step killed ops, p.1.StaysKilled k p.2) ↔
      ∀ p ∈ steps CircuitBreaker.step killed ops, p.1.NoTransition k p.2 := by
  intro killed
  have hsafe : ∀ (cb : CircuitBreaker) (op : Op), cb.TracksDead k → op.LeavesKill k →
      (cb.StaysKilled k op ↔ cb.NoTransition k op) :=
    fun _ op htracks hop ↦ staysKilled_iff htracks op hop
  have hkeep : ∀ (cb : CircuitBreaker) (op : Op), cb.TracksDead k → op.LeavesKill k →
      cb.NoTransition k op → (cb.step op).TracksDead k :=
    fun _ op htracks hop hno ↦ (tracksDead_step_iff htracks hno.1 op hop).mpr hno
  exact steps_safe_iff hsafe hkeep killed ops (tracksDead_kill cb now k) hleaves

/-- A killed key, probed at any time and hit by one late failure, stays killed. -/
theorem kill_holds_iff_lateFailure :
    let k : Key := ⟨"deepseek", "", "pi"⟩
    let ops : List Op := [.isAvailable 1000 k, .recordFailure 1001 k none none, .statusOf k]
    let killed := (new defaultCbConfig).step (.forceStatus 0 k .kill)
    (∀ p ∈ steps CircuitBreaker.step killed ops, p.1.StaysKilled k p.2) ↔
      ∀ p ∈ steps CircuitBreaker.step killed ops, p.1.NoTransition k p.2 :=
  kill_holds_iff (new defaultCbConfig) 0 ⟨"deepseek", "", "pi"⟩ _ (by simp [Op.LeavesKill])

/-- The result of a request that was in flight when the key was killed lifts the kill. -/
theorem kill_lifted_by_success :
    ¬ ∀ (cb : CircuitBreaker) (k : Key) (ops : List Op), (∀ op ∈ ops, op.LeavesKill k) →
      ∀ p ∈ steps CircuitBreaker.step (cb.step (.forceStatus 0 k .kill)) ops,
        p.1.StaysKilled k p.2 := by
  intro hall
  have hstays := hall (new defaultCbConfig) ⟨"deepseek", "", "pi"⟩
    [.recordSuccess 1 ⟨"deepseek", "", "pi"⟩] (by simp [Op.LeavesKill])
    _ (List.mem_singleton.mpr rfl)
  exact absurd hstays.1 (by decide)

end CircuitBreaker
end LcpGateway.Breaker
