import LcpGateway.Breaker.Persistence

/-!
# Forgotten providers

Library `Breaker`. Sources `src/api/circuit_breaker.py:43–88,151–162,306–347`. Forgetting a provider
drops its entries and its rows; a later call that records for it creates them again, because the
write path creates the entry it does not find.
-/

namespace LcpGateway.Breaker
open LcpGateway.Base

/-- The key whose entry the call creates when there is none. -/
def Op.creates : Op → Option Key
  | .recordSuccess _ k => some k
  | .recordFailure _ k _ _ => some k
  | .reset k => some k
  | .forceStatus _ k _ => some k
  | _ => none

namespace CircuitBreaker

/-- The breaker of a new process on the same database. -/
def restarted (cb : CircuitBreaker) : CircuitBreaker :=
  match cb.engine with
  | some table => (new cb.config).attachEngine table
  | none => new cb.config

/-- No entry of the provider is listed, in memory or after a restart. -/
def Forgotten (cb : CircuitBreaker) (provider : String) : Prop :=
  ∀ k : Key, k.provider = provider →
    cb.health.get? k = none ∧ cb.restarted.health.get? k = none

/-- The row of a key. -/
def row? (cb : CircuitBreaker) (k : Key) : Option ProviderHealth := cb.engine.bind (·.get? k)

variable {cb : CircuitBreaker} {provider : String}

/-- A new process lists the rows. -/
theorem get?_restarted (k : Key) :
    cb.restarted.health.get? k = (cb.row? k).map ProviderHealth.toHealth := by
  unfold restarted row?
  cases cb.engine with
  | none => exact Dict.get?_empty k
  | some table => exact get?_attachEngine cb.config table k

/-- A new process keeps the rows. -/
theorem row?_restarted (k : Key) : cb.restarted.row? k = cb.row? k := by
  unfold restarted row?
  cases cb.engine <;> rfl

/-- A provider is forgotten when it has neither an entry nor a row. -/
theorem forgotten_iff : cb.Forgotten provider ↔
    ∀ k : Key, k.provider = provider → cb.health.get? k = none ∧ cb.row? k = none := by
  simp only [Forgotten, get?_restarted, Option.map_eq_none_iff]

/-- A written entry leaves the other rows alone. -/
theorem row?_write {k k' : Key} (h : Health) (hne : k' ≠ k) :
    (cb.write k' h).row? k = cb.row? k := by
  rw [row?, row?, engine_write]
  cases cb.engine with
  | none => rfl
  | some table => simp [Dict.get?_set, hne]

/-- Tracking a key leaves the rows alone. -/
theorem row?_getHealth (k k' : Key) : (cb.getHealth k').2.row? k = cb.row? k := by
  rw [row?, row?, engine_getHealth]

/-- A key without an entry and a row has none after a call that does not create it. -/
theorem untracked_step {k : Key} (op : Op) (hentry : cb.health.get? k = none)
    (hrow : cb.row? k = none) (hop : op.creates ≠ some k) :
    (cb.step op).health.get? k = none ∧ (cb.step op).row? k = none := by
  rw [health_step, hentry]
  cases op with
  | isAvailable now k' =>
    refine ⟨by simp [entryAfter], ?_⟩
    by_cases hk : k' = k
    · subst hk
      have hsame : (cb.isAvailable now k').2 = cb := by
        simp [isAvailable, peek, hentry, defaultHealth]
      rw [step, apply, hsame, hrow]
    · simp only [step, apply, isAvailable]
      split
      · exact hrow
      · split
        · exact hrow
        · split
          · rw [row?_write _ hk, hrow]
          · exact hrow
        · split
          · rw [row?_write _ hk, hrow]
          · exact hrow
  | statusOf k' => exact ⟨rfl, hrow⟩
  | recordSuccess now k' =>
    have hk : k' ≠ k := fun heq ↦ hop (congrArg some heq)
    refine ⟨by simp [entryAfter, hk], ?_⟩
    rw [step, apply, recordSuccess, row?_write _ hk, row?_getHealth, hrow]
  | recordFailure now k' errorType reason =>
    have hk : k' ≠ k := fun heq ↦ hop (congrArg some heq)
    refine ⟨by simp [entryAfter, hk], ?_⟩
    rw [step, apply, recordFailure, row?_write _ hk, row?_getHealth, hrow]
  | reset k' =>
    have hk : k' ≠ k := fun heq ↦ hop (congrArg some heq)
    refine ⟨by simp [entryAfter, hk], ?_⟩
    rw [step, apply, reset, row?_write _ hk, row?_getHealth, hrow]
  | forceStatus now k' action =>
    have hk : k' ≠ k := fun heq ↦ hop (congrArg some heq)
    refine ⟨by simp [entryAfter, hk], ?_⟩
    cases action <;>
      simp [step, apply, forceStatus, Health.forced, row?_write _ hk, row?_getHealth, hrow]
  | forgetProvider p =>
    refine ⟨by simp [entryAfter], ?_⟩
    rw [row?, Option.bind_eq_none_iff] at hrow ⊢
    intro rows hrows
    simp only [step, apply, forgetProvider] at hrows
    cases htable : cb.engine with
    | none => simp [htable] at hrows
    | some table =>
      simp only [htable, Option.some.injEq] at hrows
      rw [← hrows, Dict.get?_filterKeys, hrow table htable]
      split <;> rfl

/-- A call that creates a key leaves an entry. -/
theorem isSome_step_of_creates (cb : CircuitBreaker) {op : Op} {k : Key}
    (hop : op.creates = some k) :
    ((cb.step op).health.get? k).isSome := by
  rw [health_step]
  cases op with
  | recordSuccess now k' => simp [entryAfter, Option.some.inj hop]
  | recordFailure now k' errorType reason => simp [entryAfter, Option.some.inj hop]
  | reset k' => simp [entryAfter, Option.some.inj hop]
  | forceStatus now k' action =>
    cases action <;> simp [entryAfter, Option.some.inj hop, Health.forced]
  | _ => simp [Op.creates] at hop

/-- A forgotten provider stays forgotten exactly when the call creates no key of it. -/
theorem Forgotten.step_iff (h : cb.Forgotten provider) (op : Op) :
    (cb.step op).Forgotten provider ↔ ∀ k, op.creates = some k → k.provider ≠ provider := by
  constructor
  · intro hstep k hop hk
    have hsome := isSome_step_of_creates cb hop
    rw [(hstep k hk).1] at hsome
    exact nomatch hsome
  · intro hop
    refine forgotten_iff.mpr fun k hk ↦ ?_
    obtain ⟨hentry, hrow⟩ := forgotten_iff.mp h k hk
    exact untracked_step op hentry hrow fun hcreates ↦ hop k hcreates hk

/-- Forgetting a provider leaves nothing of it. -/
theorem forgotten_forgetProvider (cb : CircuitBreaker) (provider : String) :
    (cb.forgetProvider provider).2.Forgotten provider := by
  refine forgotten_iff.mpr fun k hk ↦ ⟨?_, ?_⟩
  · have hstep := cb.health_step k (.forgetProvider provider)
    rw [entryAfter, if_pos hk] at hstep
    exact hstep
  · unfold row? forgetProvider
    cases cb.engine with
    | none => rfl
    | some table => simp [Dict.get?_filterKeys, hk]

/-- Forgetting a provider brings nothing of another one back. -/
theorem Forgotten.forgetProvider (h : cb.Forgotten provider) (other : String) :
    (cb.forgetProvider other).2.Forgotten provider :=
  (h.step_iff (.forgetProvider other)).mpr fun _ hop ↦ nomatch hop

/-- A restart brings nothing back. -/
theorem Forgotten.restarted (h : cb.Forgotten provider) : cb.restarted.Forgotten provider :=
  forgotten_iff.mpr fun k hk ↦
    ⟨(h k hk).2, by rw [row?_restarted, (forgotten_iff.mp h k hk).2]⟩

end CircuitBreaker
end LcpGateway.Breaker
