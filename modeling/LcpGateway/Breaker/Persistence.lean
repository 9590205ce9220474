import LcpGateway.Breaker.Machine

/-!
# The table mirrors the memory

Library `Breaker`. `_persist` and `_load_health` (`src/api/circuit_breaker.py:56–133`) as a
refinement: the entries in memory are the abstract state, the table is its stored form, and
attaching a fresh breaker to the table is the retrieval. Every operation keeps the two in
step, except a refused `force_status`, which has tracked its key by the time it raises.
-/

namespace LcpGateway.Breaker
open LcpGateway.Base

namespace CircuitBreaker

/-- Attaching any fresh breaker to the table gives back the entries held in memory. -/
def Mirrored (cb : CircuitBreaker) : Prop :=
  ∃ table, cb.engine = some table ∧
    ∀ cfg k, ((new cfg).attachEngine table).health.get? k = cb.health.get? k

/-- The call leaves memory and table in step, and a raising call leaves them as they were. -/
def KeepsMirror (cb : CircuitBreaker) (op : Op) : Prop :=
  (cb.step op).Mirrored ∧ ∀ message, (cb.apply op).1 = .raised message → cb.step op = cb

/-- The call is not an unknown manual action on a key that is not tracked yet. -/
def RefusalTracked (cb : CircuitBreaker) : Op → Prop
  | .forceStatus _ k (.unknown _) => (cb.health.get? k).isSome
  | _ => True

variable {cb : CircuitBreaker}

/-- What a fresh breaker loads is the table read row by row. -/
theorem get?_attachEngine (cfg : CbConfig) (table : HealthTable) (k : Key) :
    ((new cfg).attachEngine table).health.get? k = (table.get? k).map ProviderHealth.toHealth := by
  simp only [attachEngine, new, Dict.get?_update, Dict.get?_mapValues, Dict.get?_empty,
    Option.or_none]

/-- The mirror, row by row. -/
theorem mirrored_iff : cb.Mirrored ↔ ∃ table, cb.engine = some table ∧
    ∀ k, (table.get? k).map ProviderHealth.toHealth = cb.health.get? k := by
  constructor
  · rintro ⟨table, hengine, hrow⟩
    exact ⟨table, hengine, fun k ↦ by rw [← hrow cb.config k, get?_attachEngine]⟩
  · rintro ⟨table, hengine, hrow⟩
    exact ⟨table, hengine, fun cfg k ↦ by rw [get?_attachEngine, hrow]⟩

/-- A freshly attached breaker mirrors its table. -/
theorem mirrored_attachEngine (cfg : CbConfig) (table : HealthTable) :
    ((new cfg).attachEngine table).Mirrored :=
  ⟨table, rfl, fun cfg' k ↦ by rw [get?_attachEngine, get?_attachEngine]⟩

/-- Writing one entry through restores the mirror at its key, so it is enough that the two
agree everywhere else. -/
theorem mirrored_write {k : Key} {h : Health} {table : HealthTable}
    (hengine : cb.engine = some table)
    (hother : ∀ k', k ≠ k' → (table.get? k').map ProviderHealth.toHealth = cb.health.get? k') :
    (cb.write k h).Mirrored := by
  rw [mirrored_iff]
  refine ⟨table.set k (.ofHealth h), by rw [engine_write, hengine]; rfl, fun k' ↦ ?_⟩
  rw [health_write, Dict.get?_set]
  by_cases hk : k = k'
  · simp [hk, ProviderHealth.toHealth_ofHealth]
  · simpa [hk] using hother k' hk

/-- Looking an entry up and writing it through keeps the mirror. -/
theorem Mirrored.write_getHealth (hm : cb.Mirrored) (k : Key) (h : Health) :
    ((cb.getHealth k).2.write k h).Mirrored := by
  obtain ⟨table, hengine, hrow⟩ := mirrored_iff.mp hm
  refine mirrored_write (by rw [engine_getHealth, hengine]) fun k' hk ↦ ?_
  rw [health_getHealth, if_neg hk, hrow k']

/-- Writing an entry through keeps the mirror. -/
theorem Mirrored.write (hm : cb.Mirrored) (k : Key) (h : Health) : (cb.write k h).Mirrored := by
  obtain ⟨table, hengine, hrow⟩ := mirrored_iff.mp hm
  exact mirrored_write hengine fun k' _ ↦ hrow k'

/-- A probe persists the promotion it makes. -/
theorem Mirrored.isAvailable (hm : cb.Mirrored) (now : Time) (k : Key) :
    (cb.isAvailable now k).2.Mirrored := by
  unfold CircuitBreaker.isAvailable
  split
  · exact hm
  · dsimp only
    split
    · exact hm
    · split
      · exact hm.write k _
      · exact hm
    · split
      · exact hm.write k _
      · exact hm

/-- Forgetting a provider deletes the same keys on both sides. -/
theorem Mirrored.forgetProvider (hm : cb.Mirrored) (provider : String) :
    (cb.forgetProvider provider).2.Mirrored := by
  obtain ⟨table, hengine, hrow⟩ := mirrored_iff.mp hm
  rw [mirrored_iff]
  simp only [CircuitBreaker.forgetProvider, hengine]
  refine ⟨_, rfl, fun k ↦ ?_⟩
  rw [Dict.get?_filterKeys, Dict.get?_filterKeys, ← hrow k]
  split <;> rfl

/-- Looking up a tracked entry on the write path changes nothing. -/
theorem getHealth_of_tracked {k : Key} (htracked : (cb.health.get? k).isSome) :
    (cb.getHealth k).2 = cb := by
  obtain ⟨h, hk⟩ := Option.isSome_iff_exists.mp htracked
  simp [getHealth, hk]

/-- A refused action that tracked a new key breaks the mirror: the entry has no row. -/
theorem not_mirrored_getHealth (hm : cb.Mirrored) {k : Key} (hk : cb.health.get? k = none) :
    ¬ (cb.getHealth k).2.Mirrored := by
  obtain ⟨table, hengine, hrow⟩ := mirrored_iff.mp hm
  rw [mirrored_iff, engine_getHealth, hengine]
  rintro ⟨table', ht, hrow'⟩
  obtain rfl := Option.some.inj ht
  have := (hrow k).symm.trans (hrow' k)
  simp [health_getHealth, hk] at this

/-- Step lemma: on a mirrored breaker a call keeps memory and table in step, and changes
neither when it raises, exactly when it is not a refused action on an untracked key. -/
theorem Mirrored.keepsMirror_iff (hm : cb.Mirrored) (op : Op) :
    cb.KeepsMirror op ↔ cb.RefusalTracked op := by
  cases op with
  | isAvailable now k => simp [KeepsMirror, RefusalTracked, step, apply, hm.isAvailable]
  | statusOf k => simp [KeepsMirror, RefusalTracked, step, apply, hm]
  | recordSuccess now k =>
    simp [KeepsMirror, RefusalTracked, step, apply, recordSuccess, hm.write_getHealth]
  | recordFailure now k errorType reason =>
    simp [KeepsMirror, RefusalTracked, step, apply, recordFailure, hm.write_getHealth]
  | reset k => simp [KeepsMirror, RefusalTracked, step, apply, reset, hm.write_getHealth]
  | forgetProvider p => simp [KeepsMirror, RefusalTracked, step, apply, hm.forgetProvider]
  | forceStatus now k action =>
    cases action with
    | unknown s =>
      have hstep : cb.step (.forceStatus now k (.unknown s)) = (cb.getHealth k).2 := rfl
      constructor
      · rintro ⟨hmirror, -⟩
        rw [hstep] at hmirror
        by_contra htracked
        simp only [RefusalTracked, Bool.not_eq_true, Option.isSome_eq_false_iff,
          Option.isNone_iff_eq_none] at htracked
        exact not_mirrored_getHealth hm htracked hmirror
      · intro htracked
        rw [KeepsMirror, hstep, getHealth_of_tracked htracked]
        exact ⟨hm, fun _ _ ↦ rfl⟩
    | degrade =>
      simp [KeepsMirror, RefusalTracked, step, apply, forceStatus, Health.forced,
        hm.write_getHealth]
    | kill =>
      simp [KeepsMirror, RefusalTracked, step, apply, forceStatus, Health.forced,
        hm.write_getHealth]
    | resume =>
      simp [KeepsMirror, RefusalTracked, step, apply, forceStatus, Health.forced,
        hm.write_getHealth]

/-- Over every run from an attached breaker, reloading gives back the memory after each
call, and raising calls change nothing, exactly when each refused manual action of the run
meets a key that is already tracked. -/
theorem reload_run_iff (cfg : CbConfig) (table : HealthTable) (ops : List Op) :
    (∀ p ∈ steps CircuitBreaker.step ((new cfg).attachEngine table) ops, p.1.KeepsMirror p.2) ↔
      ∀ p ∈ steps CircuitBreaker.step ((new cfg).attachEngine table) ops,
        p.1.RefusalTracked p.2 := by
  have hsafe : ∀ (cb : CircuitBreaker) (op : Op), cb.Mirrored → True →
      (cb.KeepsMirror op ↔ cb.RefusalTracked op) := fun _ op hm _ ↦ hm.keepsMirror_iff op
  have hkeep : ∀ (cb : CircuitBreaker) (op : Op), cb.Mirrored → True →
      cb.RefusalTracked op → (cb.step op).Mirrored :=
    fun _ op hm _ htracked ↦ ((hm.keepsMirror_iff op).mpr htracked).1
  exact steps_safe_iff hsafe hkeep _ ops (mirrored_attachEngine cfg table) (fun _ _ ↦ trivial)

/-- An action the breaker does not know, on a key it has not seen, leaves an entry in
memory that no restart gives back. -/
theorem reload_lost_after_refusal :
    ¬ ∀ (cfg : CbConfig) (table : HealthTable) (ops : List Op),
      ∀ p ∈ steps CircuitBreaker.step ((new cfg).attachEngine table) ops,
        p.1.KeepsMirror p.2 := by
  intro hall
  have hkeeps := hall defaultCbConfig Dict.empty
    [.forceStatus 0 ⟨"deepseek", "", "pi"⟩ (.unknown "pause")] _ (List.mem_singleton.mpr rfl)
  have htracked : (((new defaultCbConfig).attachEngine Dict.empty).health.get?
      ⟨"deepseek", "", "pi"⟩).isSome := (mirrored_attachEngine _ _).keepsMirror_iff _ |>.mp hkeeps
  exact absurd htracked (by decide)

end CircuitBreaker
end LcpGateway.Breaker
