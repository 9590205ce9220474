import LcpGateway.Breaker.CircuitBreaker

/-!
# The breaker as a machine

Library `Breaker`. One operation of `src/api/circuit_breaker.py` is one input of a
deterministic machine. Key by key the breaker is a small machine on the optional entry of
that key, `entryAfter`: an operation on one key never reads or writes another. Every
invariant of the breaker is proved on that machine and carried back by `health_step`.
-/

namespace LcpGateway.Breaker
open LcpGateway.Base

/-- One call of a breaker operation, with the clock it reads. -/
inductive Op where
  | isAvailable (now : Time) (k : Key)
  | statusOf (k : Key)
  | recordSuccess (now : Time) (k : Key)
  | recordFailure (now : Time) (k : Key) (errorType : Option ErrorType)
      (errorReason : Option String)
  | reset (k : Key)
  | forceStatus (now : Time) (k : Key) (action : ForceAction)
  | forgetProvider (provider : String)
  deriving DecidableEq, Repr

/-- What a call returns or raises. -/
inductive Reply where
  | available (b : Bool)
  | status (s : Status)
  | forgotten (n : Nat)
  | done
  | raised (message : String)
  deriving DecidableEq, Repr

namespace CircuitBreaker

/-- One call: its reply and the breaker it leaves. -/
def apply (cb : CircuitBreaker) : Op → Reply × CircuitBreaker
  | .isAvailable now k => ((.available (cb.isAvailable now k).1), (cb.isAvailable now k).2)
  | .statusOf k => (.status (cb.statusOf k), cb)
  | .recordSuccess now k => (.done, cb.recordSuccess now k)
  | .recordFailure now k errorType reason => (.done, cb.recordFailure now k errorType reason)
  | .reset k => (.done, cb.reset k)
  | .forceStatus now k action =>
    match cb.forceStatus now k action with
    | (.ok s, cb') => (.status s, cb')
    | (.error message, cb') => (.raised message, cb')
  | .forgetProvider p => (.forgotten (cb.forgetProvider p).1, (cb.forgetProvider p).2)

/-- The breaker one call leaves. -/
def step (cb : CircuitBreaker) (op : Op) : CircuitBreaker := (cb.apply op).2

end CircuitBreaker

/-! ### The machine of one key -/

/-- The entry after a successful or refused probe; `circuit_breaker.py:203–217`. -/
def Health.probe (h : Health) (now : Time) : Health :=
  match h.status with
  | .healthy => h
  | .dead => if CircuitBreaker.cooledDown h now then h.promote .degraded else h
  | .degraded => if CircuitBreaker.cooledDown h now then h.promote .healthy else h

/-- The answer of a probe. -/
def Health.available (h : Health) (now : Time) : Bool :=
  match h.status with
  | .healthy => true
  | .dead => CircuitBreaker.cooledDown h now
  | .degraded => CircuitBreaker.cooledDown h now || h.trippedUntil.isNone

/-- The entry of `k` after a call, from the entry before it. -/
def entryAfter (cfg : CbConfig) (k : Key) (e : Option Health) : Op → Option Health
  | .isAvailable now k' => if k' = k ∧ k.provider ≠ "" then e.map (Health.probe · now) else e
  | .statusOf _ => e
  | .recordSuccess now k' => if k' = k then some ((e.getD defaultHealth).succeeded now) else e
  | .recordFailure now k' errorType reason =>
    if k' = k then some ((e.getD defaultHealth).failed cfg now errorType reason) else e
  | .reset k' => if k' = k then some (e.getD defaultHealth).cleared else e
  | .forceStatus now k' action =>
    if k' = k then
      match (e.getD defaultHealth).forced cfg now action with
      | .ok h => some h
      -- the entry was created by the lookup before the action was refused
      | .error _ => some (e.getD defaultHealth)
    else e
  | .forgetProvider p => if k.provider = p then none else e

namespace CircuitBreaker

variable (cb : CircuitBreaker) (k k' : Key)

/-- The reply of `is_available` is the probe's answer on the peeked entry. -/
theorem isAvailable_fst (now : Time) :
    (cb.isAvailable now k).1 = (k.provider = "" || (cb.peek k).available now) := by
  unfold isAvailable Health.available
  by_cases hp : k.provider = ""
  · simp [hp]
  · simp only [hp, if_false, decide_false, Bool.false_or]
    cases (cb.peek k).status with
    | healthy => rfl
    | dead => cases cooledDown (cb.peek k) now <;> rfl
    | degraded => cases hc : cooledDown (cb.peek k) now <;> simp

/-- A probe rewrites at most the entry it asks about. -/
theorem health_isAvailable (now : Time) :
    (cb.isAvailable now k').2.health.get? k =
      if k' = k ∧ k.provider ≠ "" then (cb.health.get? k).map (Health.probe · now)
      else cb.health.get? k := by
  by_cases hk : k' = k
  · subst hk
    by_cases hp : k'.provider = ""
    · simp [isAvailable, hp]
    · cases he : cb.health.get? k' with
      | none => simp [isAvailable, hp, peek, he, defaultHealth]
      | some h =>
        cases hs : h.status <;> cases hc : cooledDown h now <;>
          simp [isAvailable, hp, peek, he, hs, hc, Health.probe, health_write]
  · unfold isAvailable
    simp only [hk, false_and, if_false]
    split
    · rfl
    · split
      · rfl
      · split <;> simp [health_write, hk]
      · split <;> simp [health_write, hk]

/-- Every call leaves the configuration alone. -/
@[simp] theorem config_step (op : Op) : (cb.step op).config = cb.config := by
  cases op with
  | isAvailable now k =>
    simp only [step, apply, isAvailable]
    split
    · rfl
    · split
      · rfl
      · split <;> simp
      · split <;> simp
  | statusOf k => rfl
  | recordSuccess now k => simp [step, apply, recordSuccess]
  | recordFailure now k errorType reason => simp [step, apply, recordFailure]
  | reset k => simp [step, apply, reset]
  | forceStatus now k action =>
    cases action <;> simp [step, apply, forceStatus, Health.forced]
  | forgetProvider p =>
    simp only [step, apply, forgetProvider]
    split <;> rfl

/-- The configuration is fixed over a run. -/
@[simp] theorem config_run (ops : List Op) : (run step cb ops).config = cb.config := by
  induction ops generalizing cb with
  | nil => rfl
  | cons op rest ih => rw [run, ih, config_step]

/-- Key by key, a call is one step of the machine of that key. -/
theorem health_step (op : Op) :
    (cb.step op).health.get? k = entryAfter cb.config k (cb.health.get? k) op := by
  have hpeek : (cb.health.get? k).getD defaultHealth = cb.peek k := rfl
  cases op with
  | isAvailable now k' => exact health_isAvailable cb k k' now
  | statusOf k' => rfl
  | recordSuccess now k' =>
    simp only [step, apply, recordSuccess, fst_getHealth, health_write, health_getHealth,
      entryAfter]
    by_cases hk : k' = k
    · subst hk
      simp [hpeek]
    · simp [hk]
  | recordFailure now k' errorType reason =>
    simp only [step, apply, recordFailure, fst_getHealth, health_write, health_getHealth,
      config_getHealth, entryAfter]
    by_cases hk : k' = k
    · subst hk
      simp [hpeek]
    · simp [hk]
  | reset k' =>
    simp only [step, apply, reset, fst_getHealth, health_write, health_getHealth, entryAfter]
    by_cases hk : k' = k
    · subst hk
      simp [hpeek]
    · simp [hk]
  | forceStatus now k' action =>
    by_cases hk : k' = k
    · subst hk
      cases action <;>
        simp [step, apply, forceStatus, entryAfter, Health.forced, health_write,
          health_getHealth, hpeek]
    · cases action <;>
        simp [step, apply, forceStatus, entryAfter, Health.forced, health_write,
          health_getHealth, hk]
  | forgetProvider p =>
    have hkept : (cb.step (.forgetProvider p)).health =
        cb.health.filterKeys (fun k ↦ k.provider ≠ p) := by
      simp only [step, apply, forgetProvider]
      split <;> rfl
    rw [hkept, Dict.get?_filterKeys]
    by_cases hp : k.provider = p <;> simp [entryAfter, hp]

end CircuitBreaker
end LcpGateway.Breaker
