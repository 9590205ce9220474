import LcpGateway.Base.Dict
import LcpGateway.Base.Run
import Mathlib.Data.Rat.Defs

/-!
# The circuit breaker

Library `Breaker`. Source `src/api/circuit_breaker.py:25–404` and the table
`provider_health` of `src/api/models.py:142–170`. Provider health is tracked per
(provider, base URL, profile); a mutation changes one entry in memory and writes it
through to its row. Database writes are taken to succeed. The clock is an argument of
every operation that reads it, and ISO timestamps are kept as the time they print.
-/

namespace LcpGateway.Breaker
open LcpGateway.Base

/-- `time.time()`, in seconds. -/
abbrev Time := Rat

/-- `_key`; `circuit_breaker.py:135–136`. -/
structure Key where
  provider : String
  baseUrl : String
  profile : String
  deriving DecidableEq, Repr

/-- The `status` strings of a health entry. -/
inductive Status where
  | healthy
  | degraded
  | dead
  deriving DecidableEq, Repr

/-- The `error_type` names of `_ERROR_WEIGHTS`, and any other class name. -/
inductive ErrorType where
  | providerAuthError
  | providerCreditsError
  | providerTimeoutError
  | providerRateLimitError
  | providerInternalError
  | providerBadRequestError
  | other (name : String)
  deriving DecidableEq, Repr

/-- `_ERROR_WEIGHTS.get(error_type or "", 1)`; `circuit_breaker.py:25–32,268`. -/
def errorWeight : Option ErrorType → Nat
  | some .providerAuthError => 3
  | some .providerCreditsError => 3
  | some .providerTimeoutError => 1
  | some .providerRateLimitError => 1
  | some .providerInternalError => 1
  | some .providerBadRequestError => 1
  | some (.other _) => 1
  | none => 1

/-- The `circuit_breaker` section of the gateway configuration. -/
structure CbConfig where
  failuresDegraded : Int
  failuresDead : Int
  degradedCooldownSeconds : Rat
  deadCooldownSeconds : Rat
  deriving Repr

/-- The built-in section; `config.py:188–194`. -/
def defaultCbConfig : CbConfig where
  failuresDegraded := 3
  failuresDead := 6
  degradedCooldownSeconds := 30
  deadCooldownSeconds := 120

/-- One health entry; `circuit_breaker.py:138–149`. -/
structure Health where
  consecutiveFailures : Nat
  lastFailure : Option Time
  lastFailureReason : Option String
  lastSuccess : Option Time
  status : Status
  trippedUntil : Option Time
  manualOverride : Option Status
  deriving DecidableEq, Repr

/-- `_default_health`; `circuit_breaker.py:138–149`. -/
def defaultHealth : Health where
  consecutiveFailures := 0
  lastFailure := none
  lastFailureReason := none
  lastSuccess := none
  status := .healthy
  trippedUntil := none
  manualOverride := none

/-- A `provider_health` row without its key columns; `models.py:159–170`. -/
structure ProviderHealth where
  status : Status
  consecutiveFailures : Nat
  lastFailure : Option Time
  lastFailureReason : Option String
  lastSuccess : Option Time
  trippedUntil : Option Time
  manualOverride : Option Status
  deriving DecidableEq, Repr

/-- The columns `_persist` writes; `circuit_breaker.py:106–130`. -/
def ProviderHealth.ofHealth (h : Health) : ProviderHealth where
  status := h.status
  consecutiveFailures := h.consecutiveFailures
  lastFailure := h.lastFailure
  lastFailureReason := h.lastFailureReason
  lastSuccess := h.lastSuccess
  trippedUntil := h.trippedUntil
  manualOverride := h.manualOverride

/-- The entry `_load_health` materializes from a row; `circuit_breaker.py:76–85`. -/
def ProviderHealth.toHealth (row : ProviderHealth) : Health where
  consecutiveFailures := row.consecutiveFailures
  lastFailure := row.lastFailure
  lastFailureReason := row.lastFailureReason
  lastSuccess := row.lastSuccess
  status := row.status
  trippedUntil := row.trippedUntil
  manualOverride := row.manualOverride

/-- Writing an entry to its row and loading it back changes nothing. -/
theorem ProviderHealth.toHealth_ofHealth (h : Health) : (ofHealth h).toHealth = h := rfl

/-- Loading a row and writing it back changes nothing. -/
theorem ProviderHealth.ofHealth_toHealth (row : ProviderHealth) : ofHealth row.toHealth = row := rfl

/-- The table behind the engine, unique by (provider, base_url, profile). -/
abbrev HealthTable := Dict Key ProviderHealth

/-- The breaker: configuration, in-memory entries and the optional engine;
`circuit_breaker.py:38–41`. -/
structure CircuitBreaker where
  config : CbConfig
  health : Dict Key Health
  engine : Option HealthTable

/-! ### What one operation does to one entry -/

/-- `_promote` on the live entry; `circuit_breaker.py:219–223`. -/
def Health.promote (h : Health) (newStatus : Status) : Health :=
  { h with status := newStatus, trippedUntil := none }

/-- The entry after `record_success`; `circuit_breaker.py:234–241`. -/
def Health.succeeded (h : Health) (now : Time) : Health :=
  { h with
    status := .healthy
    consecutiveFailures := 0
    lastSuccess := some now
    trippedUntil := none
    lastFailureReason := none
    manualOverride := none }

/-- The reason kept by `record_failure`: an empty or missing text changes nothing. -/
def Health.reasonAfter (h : Health) : Option String → Option String
  | some reason => if reason = "" then h.lastFailureReason else some reason
  | none => h.lastFailureReason

/-- The entry after `record_failure`; `circuit_breaker.py:266–285`. -/
def Health.failed (h : Health) (cfg : CbConfig) (now : Time) (errorType : Option ErrorType)
    (errorReason : Option String) : Health :=
  let n := h.consecutiveFailures + errorWeight errorType
  let counted := { h with
    consecutiveFailures := n
    lastFailure := some now
    lastFailureReason := h.reasonAfter errorReason }
  if cfg.failuresDead ≤ n then
    { counted with status := .dead, trippedUntil := some (now + cfg.deadCooldownSeconds) }
  else if cfg.failuresDegraded ≤ n then
    { counted with status := .degraded, trippedUntil := some (now + cfg.degradedCooldownSeconds) }
  else counted

/-- The entry after `reset`, and after a manual `resume`; `circuit_breaker.py:352–357,392–398`. -/
def Health.cleared (h : Health) : Health :=
  { h with
    status := .healthy
    consecutiveFailures := 0
    lastFailure := none
    lastFailureReason := none
    trippedUntil := none
    manualOverride := none }

/-- The `action` strings of `force_status`, and any other string. -/
inductive ForceAction where
  | degrade
  | kill
  | resume
  | unknown (action : String)
  deriving DecidableEq, Repr

/-- The entry an action leaves, or the `ValueError` text; `circuit_breaker.py:379–402`. -/
def Health.forced (h : Health) (cfg : CbConfig) (now : Time) : ForceAction → Except String Health
  | .degrade => .ok { h with
      status := .degraded
      trippedUntil := some (now + cfg.degradedCooldownSeconds)
      manualOverride := some .degraded }
  | .kill => .ok { h with
      status := .dead
      trippedUntil := none
      manualOverride := some .dead }
  | .resume => .ok h.cleared
  | .unknown action => .error s!"unknown circuit breaker action: {action}"

namespace CircuitBreaker

/-! ### The operations -/

/-- `CircuitBreaker(config)`; `circuit_breaker.py:38–41`. -/
def new (config : CbConfig) : CircuitBreaker := ⟨config, Dict.empty, none⟩

/-- `attach_engine` with `_load_health`; `circuit_breaker.py:43–88`. -/
def attachEngine (cb : CircuitBreaker) (table : HealthTable) : CircuitBreaker :=
  { cb with
    engine := some table
    health := cb.health.update (table.mapValues ProviderHealth.toHealth) }

/-- `_persist`: upsert the row of a tracked entry; `circuit_breaker.py:90–133`. -/
def persist (cb : CircuitBreaker) (k : Key) : CircuitBreaker :=
  match cb.engine, cb.health.get? k with
  | some table, some h => { cb with engine := some (table.set k (ProviderHealth.ofHealth h)) }
  | _, _ => cb

/-- Store an entry and write it through. -/
def write (cb : CircuitBreaker) (k : Key) (h : Health) : CircuitBreaker :=
  persist { cb with health := cb.health.set k h } k

/-- `get_health`: the write path creates a missing entry; `circuit_breaker.py:151–162`. -/
def getHealth (cb : CircuitBreaker) (k : Key) : Health × CircuitBreaker :=
  match cb.health.get? k with
  | some h => (h, cb)
  | none => (defaultHealth, { cb with health := cb.health.set k defaultHealth })

/-- `peek`: the read path creates nothing; `circuit_breaker.py:164–177`. -/
def peek (cb : CircuitBreaker) (k : Key) : Health := (cb.health.get? k).getD defaultHealth

/-- `status_of`; `circuit_breaker.py:179–188`. -/
def statusOf (cb : CircuitBreaker) (k : Key) : Status :=
  if k.provider = "" then .healthy else (cb.peek k).status

/-- The cooldown of an entry has run out at `now`. -/
def cooledDown (h : Health) (now : Time) : Bool :=
  match h.trippedUntil with
  | some u => u ≤ now
  | none => false

/-- `is_available`, with the promotion it makes when a cooldown is over;
`circuit_breaker.py:190–217`. -/
def isAvailable (cb : CircuitBreaker) (now : Time) (k : Key) : Bool × CircuitBreaker :=
  if k.provider = "" then (true, cb) else
    let h := cb.peek k
    match h.status with
    | .healthy => (true, cb)
    | .dead => if cooledDown h now then (true, cb.write k (h.promote .degraded)) else (false, cb)
    | .degraded =>
      if cooledDown h now then (true, cb.write k (h.promote .healthy))
      -- a promoted probe carries no cooldown and is available for its probe request
      else (h.trippedUntil.isNone, cb)

/-- `record_success`; `circuit_breaker.py:232–251`. -/
def recordSuccess (cb : CircuitBreaker) (now : Time) (k : Key) : CircuitBreaker :=
  let (h, cb) := cb.getHealth k
  cb.write k (h.succeeded now)

/-- `record_failure`; `circuit_breaker.py:253–300`. -/
def recordFailure (cb : CircuitBreaker) (now : Time) (k : Key) (errorType : Option ErrorType)
    (errorReason : Option String) : CircuitBreaker :=
  let (h, cb) := cb.getHealth k
  cb.write k (h.failed cb.config now errorType errorReason)

/-- `reset`; `circuit_breaker.py:349–364`. -/
def reset (cb : CircuitBreaker) (k : Key) : CircuitBreaker :=
  let (h, cb) := cb.getHealth k
  cb.write k h.cleared

/-- `force_status`. An unknown action raises `ValueError` after the entry was looked up
on the write path; `circuit_breaker.py:366–404`. -/
def forceStatus (cb : CircuitBreaker) (now : Time) (k : Key) (action : ForceAction) :
    Except String Status × CircuitBreaker :=
  let (h, cb) := cb.getHealth k
  match h.forced cb.config now action with
  | .ok h' => (.ok h'.status, cb.write k h')
  | .error message => (.error message, cb)

/-- `forget_provider`, in memory and on disk; `circuit_breaker.py:306–347`. -/
def forgetProvider (cb : CircuitBreaker) (provider : String) : Nat × CircuitBreaker :=
  let kept := cb.health.filterKeys (fun k ↦ k.provider ≠ provider)
  let inMemory := cb.health.size - kept.size
  match cb.engine with
  | none => (inMemory, { cb with health := kept })
  | some table =>
    let rows := table.filterKeys (fun k ↦ k.provider ≠ provider)
    (max (table.size - rows.size) inMemory, { cb with health := kept, engine := some rows })

/-! ### Storing one entry -/

variable (cb : CircuitBreaker) (k k' : Key) (h : Health)

/-- Storing an entry never touches the configuration. -/
@[simp] theorem config_write : (cb.write k h).config = cb.config := by
  unfold write persist
  split <;> rfl

/-- A stored entry is read back under its key; every other key is unchanged. -/
theorem health_write :
    (cb.write k h).health.get? k' = if k = k' then some h else cb.health.get? k' := by
  have hw : (cb.write k h).health = cb.health.set k h := by
    unfold write persist
    split <;> rfl
  rw [hw, Dict.get?_set]

/-- A stored entry reaches its row. -/
theorem engine_write :
    (cb.write k h).engine = cb.engine.map (fun table ↦ table.set k (.ofHealth h)) := by
  unfold write persist
  cases cb.engine with
  | none => simp
  | some table => simp

/-- Looking an entry up on the write path never touches the configuration. -/
@[simp] theorem config_getHealth : (cb.getHealth k).2.config = cb.config := by
  unfold getHealth
  split <;> rfl

/-- Looking an entry up on the write path never touches the table. -/
@[simp] theorem engine_getHealth : (cb.getHealth k).2.engine = cb.engine := by
  unfold getHealth
  split <;> rfl

/-- The write path reads the entry `peek` reads. -/
@[simp] theorem fst_getHealth : (cb.getHealth k).1 = cb.peek k := by
  unfold getHealth peek
  cases cb.health.get? k <;> rfl

/-- The write path tracks its key and leaves every other key alone. -/
theorem health_getHealth :
    (cb.getHealth k).2.health.get? k' =
      if k = k' then some (cb.peek k) else cb.health.get? k' := by
  unfold getHealth peek
  cases htracked : cb.health.get? k with
  | none => simp [Dict.get?_set]
  | some h =>
    by_cases hk : k = k'
    · subst hk
      simp [htracked]
    · simp [hk]

end CircuitBreaker
end LcpGateway.Breaker
