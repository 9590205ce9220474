import LcpGateway.Breaker.Machine
import Mathlib.Algebra.Order.Ring.Unbundled.Rat

/-!
# The entry invariant of automatic bookkeeping

Library `Breaker`. What `is_available`, `record_success` and `record_failure`
(`src/api/circuit_breaker.py:190–300`) keep true of every tracked entry, over runs of any
length and at any clock values. The status, the counter and the cooldown constrain each
other; the promoted probe is the degraded entry that carries no cooldown and keeps a
counter at or above the dead threshold.
-/

namespace LcpGateway.Breaker
open LcpGateway.Base

/-- The calls the request path makes by itself. -/
def Op.Automatic : Op → Prop
  | .isAvailable _ _ => True
  | .recordSuccess _ _ => True
  | .recordFailure _ _ _ _ => True
  | _ => False

/-- A promoted probe: degraded without a cooldown; `circuit_breaker.py:214–216`. -/
def Health.IsProbe (h : Health) : Prop := h.status = .degraded ∧ h.trippedUntil = none

/-- The shape of an entry under automatic bookkeeping. -/
structure Health.WellFormed (cfg : CbConfig) (h : Health) : Prop where
  healthy : h.status = .healthy →
    h.trippedUntil = none ∧ (h.consecutiveFailures : Int) < cfg.failuresDead
  cooling : ∀ u, h.status = .degraded → h.trippedUntil = some u →
    cfg.failuresDegraded ≤ h.consecutiveFailures ∧
      (h.consecutiveFailures : Int) < cfg.failuresDead
  probe : h.IsProbe → cfg.failuresDead ≤ h.consecutiveFailures
  dead : h.status = .dead →
    cfg.failuresDead ≤ h.consecutiveFailures ∧ ∃ u, h.trippedUntil = some u

namespace Health

variable {cfg : CbConfig} {h : Health}

/-- The default entry is well formed. -/
theorem wellFormed_default (hdead : 0 < cfg.failuresDead) : defaultHealth.WellFormed cfg where
  healthy := fun _ ↦ ⟨rfl, by simpa [defaultHealth] using hdead⟩
  cooling := fun u hs ↦ by simp [defaultHealth] at hs
  probe := fun hp ↦ by simp [IsProbe, defaultHealth] at hp
  dead := fun hs ↦ by simp [defaultHealth] at hs

/-- A success leaves a healthy entry with no failures. -/
theorem wellFormed_succeeded (hdead : 0 < cfg.failuresDead) (now : Time) :
    (h.succeeded now).WellFormed cfg where
  healthy := fun _ ↦ ⟨rfl, by simpa [succeeded] using hdead⟩
  cooling := fun u hs ↦ by simp [succeeded] at hs
  probe := fun hp ↦ by simp [IsProbe, succeeded] at hp
  dead := fun hs ↦ by simp [succeeded] at hs

/-- A dead entry is promoted to a probe, a cooling one to healthy. -/
theorem WellFormed.probed (hwf : h.WellFormed cfg) (now : Time) :
    (h.probe now).WellFormed cfg := by
  unfold Health.probe
  cases hs : h.status with
  | healthy => exact hwf
  | dead =>
    obtain ⟨hcount, -⟩ := hwf.dead hs
    dsimp only
    split
    · exact {
        healthy := fun hs' ↦ by simp [promote] at hs'
        cooling := fun u _ hu ↦ by simp [promote] at hu
        probe := fun _ ↦ hcount
        dead := fun hs' ↦ by simp [promote] at hs' }
    · exact hwf
  | degraded =>
    dsimp only
    split
    · next hcooled =>
      cases hu : h.trippedUntil with
      | none => simp [CircuitBreaker.cooledDown, hu] at hcooled
      | some u =>
        obtain ⟨-, hcount⟩ := hwf.cooling u hs hu
        exact {
          healthy := fun _ ↦ ⟨rfl, hcount⟩
          cooling := fun u hs' ↦ by simp [promote] at hs'
          probe := fun hp ↦ by simp [IsProbe, promote] at hp
          dead := fun hs' ↦ by simp [promote] at hs' }
    · exact hwf

/-- A failure counts up and trips at its thresholds. Below both of them the entry was
healthy, since a tripped entry has already counted to its own threshold. -/
theorem WellFormed.failed (hwf : h.WellFormed cfg) (now : Time) (errorType : Option ErrorType)
    (reason : Option String) : (h.failed cfg now errorType reason).WellFormed cfg := by
  unfold Health.failed
  dsimp only
  split
  · next hn =>
    exact {
      healthy := fun hs ↦ by simp at hs
      cooling := fun u hs ↦ by simp at hs
      probe := fun hp ↦ by simp [IsProbe] at hp
      dead := fun _ ↦ ⟨hn, _, rfl⟩ }
  · next hdead =>
    split
    · next hdegraded =>
      exact {
        healthy := fun hs ↦ by simp at hs
        cooling := fun u _ _ ↦ ⟨hdegraded, by simpa using hdead⟩
        probe := fun hp ↦ by simp [IsProbe] at hp
        dead := fun hs ↦ by simp at hs }
    · next hdegraded =>
      push_cast at hdead hdegraded
      exact {
        healthy := fun hs ↦ ⟨(hwf.healthy hs).1, by push_cast; omega⟩
        cooling := fun u hs hu ↦ by
          have := hwf.cooling u hs hu
          push_cast
          omega
        probe := fun hp ↦ by
          have := hwf.probe hp
          push_cast
          omega
        dead := fun hs ↦ by
          have := (hwf.dead hs).1
          exact ⟨by push_cast; omega, (hwf.dead hs).2⟩ }

/-- A refused probe has a cooldown that is still running. -/
theorem WellFormed.unavailable (hwf : h.WellFormed cfg) {now : Time}
    (hun : h.available now = false) : ∃ u, h.trippedUntil = some u ∧ now < u := by
  unfold Health.available CircuitBreaker.cooledDown at hun
  cases hs : h.status with
  | healthy => simp [hs] at hun
  | dead =>
    obtain ⟨-, u, hu⟩ := hwf.dead hs
    simp only [hs, hu, decide_eq_false_iff_not, not_le] at hun
    exact ⟨u, hu, hun⟩
  | degraded =>
    cases hu : h.trippedUntil with
    | none => simp [hs, hu] at hun
    | some u =>
      simp only [hs, hu, Option.isNone_some, Bool.or_false, decide_eq_false_iff_not,
        not_le] at hun
      exact ⟨u, rfl, hun⟩

/-- One failure of a probe trips it back to dead. -/
theorem WellFormed.probe_failed (hwf : h.WellFormed cfg) (hprobe : h.IsProbe) (now : Time)
    (errorType : Option ErrorType) (reason : Option String) :
    (h.failed cfg now errorType reason).status = .dead := by
  have hcount := hwf.probe hprobe
  have hn : cfg.failuresDead ≤ ((h.consecutiveFailures + errorWeight errorType : Nat) : Int) := by
    push_cast
    omega
  simp only [Health.failed, hn, if_true]

end Health

namespace CircuitBreaker

/-- Every tracked entry of the breaker is well formed. -/
def WellFormed (cb : CircuitBreaker) : Prop :=
  ∀ k h, cb.health.get? k = some h → h.WellFormed cb.config

/-- Step lemma: an automatic call keeps every entry well formed. -/
theorem WellFormed.step {cb : CircuitBreaker} (hwf : cb.WellFormed)
    (hdead : 0 < cb.config.failuresDead) (op : Op) (hauto : op.Automatic) :
    (cb.step op).WellFormed := by
  intro k h hk
  rw [config_step]
  rw [health_step] at hk
  have hpeek : ((cb.health.get? k).getD defaultHealth).WellFormed cb.config := by
    cases he : cb.health.get? k with
    | none => exact Health.wellFormed_default hdead
    | some h₀ => exact hwf k h₀ he
  cases op with
  | isAvailable now k' =>
    simp only [entryAfter] at hk
    split at hk
    · obtain ⟨h₀, he, rfl⟩ := Option.map_eq_some_iff.mp hk
      exact (hwf k h₀ he).probed now
    · exact hwf k h hk
  | recordSuccess now k' =>
    simp only [entryAfter] at hk
    split at hk
    · obtain rfl := Option.some.inj hk
      exact Health.wellFormed_succeeded hdead now
    · exact hwf k h hk
  | recordFailure now k' errorType reason =>
    simp only [entryAfter] at hk
    split at hk
    · obtain rfl := Option.some.inj hk
      exact hpeek.failed now errorType reason
    · exact hwf k h hk
  | statusOf k' => exact hauto.elim
  | reset k' => exact hauto.elim
  | forceStatus now k' action => exact hauto.elim
  | forgetProvider p => exact hauto.elim

/-- Run lemma: from a fresh breaker, automatic calls only ever leave well-formed entries. -/
theorem wellFormed_run (cfg : CbConfig) (hdead : 0 < cfg.failuresDead) (ops : List Op)
    (hauto : ∀ op ∈ ops, op.Automatic) : (run CircuitBreaker.step (new cfg) ops).WellFormed := by
  have hinv : ∀ (cb : CircuitBreaker) (op : Op), (cb.config = cfg ∧ cb.WellFormed) →
      op.Automatic → ((cb.step op).config = cfg ∧ (cb.step op).WellFormed) := by
    rintro cb op ⟨rfl, hwf⟩ hop
    exact ⟨config_step cb op, hwf.step hdead op hop⟩
  exact (run_invariant hinv (new cfg) ops ⟨rfl, fun k h hk ↦ by simp [new] at hk⟩ hauto).2

/-- The half-open ladder: every entry a run of automatic calls reaches is well formed, a
refusal always has a cooldown that is still running, a failed probe is dead again, and one
success makes an entry healthy with no failures. -/
theorem automatic_run_ladder (cfg : CbConfig) (hdegraded : 0 < cfg.failuresDegraded)
    (hle : cfg.failuresDegraded ≤ cfg.failuresDead) (ops : List Op)
    (hauto : ∀ op ∈ ops, op.Automatic) :
    let cb := run CircuitBreaker.step (new cfg) ops
    (∀ k h, cb.health.get? k = some h → h.WellFormed cfg) ∧
    (∀ now k, (cb.isAvailable now k).1 = false →
      ∃ h u, cb.health.get? k = some h ∧ h.trippedUntil = some u ∧ now < u) ∧
    (∀ now k h errorType reason, cb.health.get? k = some h → h.IsProbe →
      ∃ h', (cb.recordFailure now k errorType reason).health.get? k = some h' ∧
        h'.status = .dead) ∧
    (∀ now k, ∃ h', (cb.recordSuccess now k).health.get? k = some h' ∧
      h'.status = .healthy ∧ h'.consecutiveFailures = 0) := by
  intro cb
  have hdead : 0 < cfg.failuresDead := by omega
  have hconfig : cb.config = cfg := config_run (new cfg) ops
  have hwf : ∀ k h, cb.health.get? k = some h → h.WellFormed cfg := fun k h hk ↦
    hconfig ▸ wellFormed_run cfg hdead ops hauto k h hk
  refine ⟨hwf, ?_, ?_, ?_⟩
  · intro now k hun
    rw [isAvailable_fst, Bool.or_eq_false_iff] at hun
    cases he : cb.health.get? k with
    | none => simp [peek, he, defaultHealth, Health.available] at hun
    | some h =>
      have hav : h.available now = false := by simpa [peek, he] using hun.2
      obtain ⟨u, hu, hlt⟩ := (hwf k h he).unavailable hav
      exact ⟨h, u, rfl, hu, hlt⟩
  · intro now k h errorType reason he hprobe
    refine ⟨h.failed cfg now errorType reason, ?_,
      (hwf k h he).probe_failed hprobe now errorType reason⟩
    have := health_step cb k (.recordFailure now k errorType reason)
    simpa [step, apply, entryAfter, he, hconfig] using this
  · intro now k
    refine ⟨(cb.peek k).succeeded now, ?_, rfl, rfl⟩
    have := health_step cb k (.recordSuccess now k)
    simpa [step, apply, entryAfter, peek] using this

/-- The ladder over two rejected keys in a row, the cooldown, and the probe after it. -/
theorem automatic_run_ladder_twoAuthFailures :
    let k : Key := ⟨"deepseek", "", "pi"⟩
    let ops : List Op := [.recordFailure 0 k (some .providerAuthError) (some "HTTP 401"),
      .recordFailure 1 k (some .providerAuthError) (some "HTTP 401"), .isAvailable 60 k,
      .isAvailable 130 k]
    let cb := run CircuitBreaker.step (new defaultCbConfig) ops
    (∀ k h, cb.health.get? k = some h → h.WellFormed defaultCbConfig) ∧
    (∀ now k, (cb.isAvailable now k).1 = false →
      ∃ h u, cb.health.get? k = some h ∧ h.trippedUntil = some u ∧ now < u) ∧
    (∀ now k h errorType reason, cb.health.get? k = some h → h.IsProbe →
      ∃ h', (cb.recordFailure now k errorType reason).health.get? k = some h' ∧
        h'.status = .dead) ∧
    (∀ now k, ∃ h', (cb.recordSuccess now k).health.get? k = some h' ∧
      h'.status = .healthy ∧ h'.consecutiveFailures = 0) :=
  automatic_run_ladder defaultCbConfig (by decide) (by decide) _ (by simp [Op.Automatic])

end CircuitBreaker
end LcpGateway.Breaker
