import LcpGateway.Base.Double

/-!
# Retries of one request

Library `Pipeline`. Source `src/api/request_pipeline.py:709–756`. `call_with_retry` calls the
request until an outcome is final or the attempts are used up, and sleeps in between. The backoff
is a power that is capped only after it was raised, so it can leave the range of a float, and
`time.sleep` refuses a delay that is negative, not a number or out of its range; the error of the
backoff then takes the place of the provider's.
-/

namespace LcpGateway.Pipeline
open LcpGateway.Base

universe u v

/-- A number of the settings; a boolean is an integer. -/
inductive Number where
  | int (i : Int)
  | float (literal : PyFloat)
  deriving DecidableEq, Repr

namespace Number

/-- `int(value)`; `none` is a `ValueError` or an `OverflowError`. -/
def toInt : Number → Option Int
  | .int i => some i
  | .float literal => literal.ofLiteral.truncate

/-- `float(value)`; `none` is an `OverflowError`. -/
def toFloat : Number → Option PyFloat
  | .int i => PyFloat.ofInt i
  | .float literal => some literal.ofLiteral

/-- A converted number is a double. -/
theorem isDouble_toFloat {n : Number} {x : PyFloat} (h : n.toFloat = some x) : x.IsDouble := by
  cases n with
  | int i => exact PyFloat.isDouble_ofInt h
  | float literal =>
    obtain rfl := Option.some.inj h
    exact PyFloat.isDouble_ofLiteral literal

end Number

/-- `retry_cfg`, a dict of numbers; `none` is a missing key. -/
structure RetryCfg where
  maxAttempts : Option Number
  backoffBase : Option Number
  backoffMultiplier : Option Number
  maxBackoff : Option Number
  jitter : Option Bool
  deriving DecidableEq, Repr

/-- How the request function ends. -/
inductive Requested (T : Type u) (E : Type v) where
  | returned (value : T)
  | providerInternalError (e : E)
  | providerRateLimitError (e : E)
  | raised (e : E)
  deriving DecidableEq, Repr

/-- The two errors that are retried. -/
def Requested.retryable {T : Type u} {E : Type v} : Requested T E → Bool
  | .providerInternalError _ => true
  | .providerRateLimitError _ => true
  | _ => false

/-- A value of `random.uniform(0.5, 1.5)`. -/
abbrev Draw := {x : Rat // 1 / 2 ≤ x ∧ x ≤ 3 / 2}

/-- What `call_with_retry` does to its surroundings. -/
inductive RetryEvent where
  | call
  | sleep (seconds : Rat)
  deriving DecidableEq, Repr

/-- How `call_with_retry` ends: with an outcome of the request, with an error of the conversions or
of the backoff, or behind the loop. -/
inductive RetryEnd (T : Type u) (E : Type v) where
  | requested (outcome : Requested T E)
  | settingsError
  | backoffError
  | retryLoopExited
  deriving DecidableEq, Repr

/-- The converted settings. -/
structure RetrySettings where
  maxAttempts : Nat
  backoffBase : PyFloat
  backoffMultiplier : PyFloat
  maxBackoff : PyFloat
  jitter : Bool
  one_le_maxAttempts : 1 ≤ maxAttempts
  maxBackoff_isDouble : maxBackoff.IsDouble

/-- `time.sleep(seconds)` goes through: its nanoseconds fit in 64 bits and are not negative. -/
def sleeps (seconds : Rat) : Bool :=
  0 ≤ seconds && match (PyFloat.fin seconds).times (.fin (10 ^ 9)) with
    | .fin nanoseconds => ⌈nanoseconds⌉ < 2 ^ 63
    | _ => false

/-- `int(max_attempts)`, or of its default. -/
def RetryCfg.attemptLimit (cfg : RetryCfg) : Option Int := (cfg.maxAttempts.getD (.int 1)).toInt

/-- The conversions; `none` is an error of one of them. -/
def RetryCfg.settings (cfg : RetryCfg) : Option RetrySettings := do
  let maxAttempts ← cfg.attemptLimit
  let backoffBase ← (cfg.backoffBase.getD (.float (.fin (1 / 2)))).toFloat
  let backoffMultiplier ← (cfg.backoffMultiplier.getD (.int 2)).toFloat
  match h : (cfg.maxBackoff.getD (.int 10)).toFloat with
  | none => none
  | some maxBackoff =>
    some
      { maxAttempts := (max 1 maxAttempts).toNat
        backoffBase, backoffMultiplier, maxBackoff
        jitter := cfg.jitter.getD true
        one_le_maxAttempts := by omega
        maxBackoff_isDouble := Number.isDouble_toFloat h }

namespace RetrySettings

variable (s : RetrySettings) (draw : Draw) (attempt : Nat)

/-- `min(backoff_base * (backoff_multiplier ** (attempt - 1)), max_backoff)`; `none` is an
`OverflowError`. -/
def delay : Option PyFloat :=
  (s.backoffMultiplier.power (attempt - 1)).map
    (fun p ↦ (s.backoffBase.times p).least s.maxBackoff)

/-- The delay with its jitter. -/
def jittered (d : PyFloat) : PyFloat := if s.jitter then d.times (.fin draw) else d

/-- The seconds slept behind an attempt; `none` is an error of the backoff, of the milliseconds in
the log line or of the sleep. -/
def pause : Option Rat := do
  let d ← s.delay attempt
  let d := s.jittered draw d
  let _ ← (d.times (.fin 1000)).truncate
  match d with
  | .fin seconds => if sleeps seconds then some seconds else none
  | _ => none

variable {T : Type u} {E : Type v} (outcome : Nat → Requested T E) (draws : Nat → Draw)

/-- The loop, with the attempts that are left and the number of the next one. -/
def attempts : Nat → Nat → List RetryEvent × RetryEnd T E
  | 0, _ => ([], .retryLoopExited)
  | left + 1, attempt =>
    if !(outcome attempt).retryable || s.maxAttempts ≤ attempt then
      ([.call], .requested (outcome attempt))
    else
      match s.pause (draws attempt) attempt with
      | none => ([.call], .backoffError)
      | some seconds =>
        let rest := attempts left (attempt + 1)
        (.call :: .sleep seconds :: rest.1, rest.2)

end RetrySettings

variable {T : Type u} {E : Type v}

/-- `retry_cfg or {}`. -/
def RetryCfg.orEmpty (retryCfg : Option RetryCfg) : RetryCfg :=
  retryCfg.getD ⟨none, none, none, none, none⟩

/-- `call_with_retry`: what it does, and how it ends. Outcomes and draws are numbered from one. -/
def callWithRetry (outcome : Nat → Requested T E) (retryCfg : Option RetryCfg)
    (draws : Nat → Draw) : List RetryEvent × RetryEnd T E :=
  match (RetryCfg.orEmpty retryCfg).settings with
  | none => ([], .settingsError)
  | some s => s.attempts outcome draws s.maxAttempts 1

/-- The position of the last call: that of the first outcome that is final, or the limit. -/
structure LastCall (limit : Option Int) (outcome : Nat → Requested T E) (k : Nat) : Prop where
  one_le : 1 ≤ k
  before : ∀ j, 1 ≤ j → j < k → (outcome j).retryable = true
  within : ∀ n, limit = some n → (k : Int) ≤ max 1 n
  stops : (outcome k).retryable = false ∨ ∃ n, limit = some n ∧ (k : Int) = max 1 n

/-- The calls with the sleeps between them. -/
def callsBetween (slept : List Rat) : List RetryEvent :=
  .call :: slept.flatMap (fun seconds ↦ [.sleep seconds, .call])

/-- What a run has to be: as many calls as the outcomes ask for, a sleep between each two of them,
and the last outcome for an end. -/
structure Conforms (cfg : RetryCfg) (outcome : Nat → Requested T E)
    (run : List RetryEvent × RetryEnd T E) : Prop where
  runs : ∃ k slept, LastCall cfg.attemptLimit outcome k ∧ slept.length = k - 1 ∧
    run.1 = callsBetween slept ∧ run.2 = .requested (outcome k)
  capped : ∀ s, cfg.settings = some s → s.backoffBase.Nonneg → s.backoffMultiplier.Nonneg →
    s.maxBackoff.Nonneg → ∀ seconds, .sleep seconds ∈ run.1 →
      ((PyFloat.fin (3 / 2)).times s.maxBackoff).Bounds seconds
  exits : run.2 ≠ .retryLoopExited

/-- The backoff behind an attempt is a number of seconds that can be slept: the power stays in the
range of a float, and the delay is neither negative nor past the range of a sleep. -/
def RetrySettings.Sleepable (s : RetrySettings) (draw : Draw) (attempt : Nat) : Prop :=
  ∃ p seconds, s.backoffMultiplier.power (attempt - 1) = some p ∧
    s.jittered draw ((s.backoffBase.times p).least s.maxBackoff) = .fin seconds ∧
    sleeps seconds = true

/-- The settings convert, and each backoff that a retry asks for can be slept. -/
def RetryCfg.Affordable (cfg : RetryCfg) (outcome : Nat → Requested T E) (draws : Nat → Draw) :
    Prop :=
  ∃ s, cfg.settings = some s ∧ ∀ attempt, 1 ≤ attempt → attempt < s.maxAttempts →
    (∀ j, 1 ≤ j → j ≤ attempt → (outcome j).retryable = true) →
    s.Sleepable (draws attempt) attempt

/-- Seconds that can be slept are in range for the log line. -/
theorem truncate_times_of_sleeps {seconds : Rat} (h : sleeps seconds = true) :
    ∃ ms, ((PyFloat.fin seconds).times (.fin 1000)).truncate = some ms := by
  simp only [sleeps, PyFloat.times, Bool.and_eq_true, decide_eq_true_eq] at h
  obtain ⟨hnonneg, hrange⟩ := h
  have hin : InRange (seconds * 10 ^ 9) := by
    by_contra hout
    simp [PyFloat.rounded, hout] at hrange
  have hsmaller : InRange (seconds * 1000) := by
    refine lt_of_le_of_lt ?_ hin
    rw [abs_of_nonneg (by positivity), abs_of_nonneg (by positivity)]
    gcongr
    norm_num
  simp [PyFloat.times, PyFloat.rounded, hsmaller, PyFloat.truncate]

namespace RetrySettings

variable {s : RetrySettings} {draw : Draw} {attempt : Nat} {seconds : Rat}

/-- What a pause sleeps is the jittered delay. -/
theorem pause_eq_some_iff : s.pause draw attempt = some seconds ↔
    ∃ p, s.backoffMultiplier.power (attempt - 1) = some p ∧
      s.jittered draw ((s.backoffBase.times p).least s.maxBackoff) = .fin seconds ∧
      sleeps seconds = true := by
  unfold pause delay
  cases hpower : s.backoffMultiplier.power (attempt - 1) with
  | none => simp
  | some p =>
    simp only [Option.map_some, Option.bind_eq_bind, Option.bind_some, Option.some.injEq,
      exists_eq_left']
    generalize s.jittered draw ((s.backoffBase.times p).least s.maxBackoff) = d
    cases d with
    | fin r =>
      simp only [PyFloat.fin.injEq, Option.bind_eq_some_iff]
      constructor
      · rintro ⟨ms, -, hsleeps⟩
        split_ifs at hsleeps with h
        obtain rfl := Option.some.inj hsleeps
        exact ⟨rfl, h⟩
      · rintro ⟨rfl, h⟩
        exact (truncate_times_of_sleeps h).imp (fun ms hms ↦ ⟨hms, by simp [h]⟩)
    | inf negative => simp
    | nan => simp

/-- A backoff that can be slept is one that is slept. -/
theorem sleepable_iff :
    s.Sleepable draw attempt ↔ ∃ seconds, s.pause draw attempt = some seconds := by
  simp only [Sleepable, pause_eq_some_iff]
  exact exists_comm

/-- A pause is bounded by one and a half times the cap. -/
theorem pause_bounded (hcap : s.maxBackoff.Nonneg) (h : s.pause draw attempt = some seconds) :
    ((PyFloat.fin (3 / 2)).times s.maxBackoff).Bounds seconds := by
  obtain ⟨p, -, hjittered, -⟩ := pause_eq_some_iff.mp h
  have hdouble := s.maxBackoff_isDouble
  cases hmax : s.maxBackoff with
  | fin cap =>
    rw [hmax] at hcap hdouble hjittered
    have hproduct : (0 : Rat) ≤ 3 / 2 * cap := mul_nonneg (by norm_num) hcap
    refine PyFloat.bounds_rounded hproduct ?_
    unfold jittered at hjittered
    split_ifs at hjittered
    · -- with jitter the factor is one and a half at most
      obtain ⟨d, u, hd, hu, rfl⟩ := PyFloat.times_eq_fin hjittered
      obtain rfl : draw.1 = u := PyFloat.fin.inj hu
      have hle : d ≤ cap := PyFloat.least_eq_fin hd
      have hfactor : 0 ≤ draw.1 := by linarith [draw.2.1]
      rcases le_total 0 d with hpos | hneg
      · refine toDouble_mono (mul_nonneg hpos hfactor) ?_
        calc d * draw.1 ≤ cap * (3 / 2) := mul_le_mul hle draw.2.2 hfactor hcap
          _ = 3 / 2 * cap := mul_comm _ _
      · exact (toDouble_nonpos (mul_nonpos_of_nonpos_of_nonneg hneg hfactor)).trans
          (toDouble_nonneg hproduct)
    · calc seconds ≤ cap := PyFloat.least_eq_fin hjittered
        _ = toDouble cap := hdouble.symm
        _ ≤ toDouble (3 / 2 * cap) := toDouble_mono hcap (by linarith [show 0 ≤ cap from hcap])
  | inf negative =>
    rw [hmax] at hcap
    obtain rfl : negative = false := hcap
    norm_num [PyFloat.times, PyFloat.mul, PyFloat.Bounds]
  | nan =>
    rw [hmax] at hcap
    cases hcap

variable {outcome : Nat → Requested T E} {draws : Nat → Draw}

/-- A loop with attempts left goes on to its last call where each backoff on the way can be
slept. -/
theorem attempts_of_sleepable (left : Nat) :
    ∀ attempt, attempt + left = s.maxAttempts →
    (∀ i, attempt ≤ i → i < s.maxAttempts →
      (∀ j, attempt ≤ j → j ≤ i → (outcome j).retryable = true) → s.Sleepable (draws i) i) →
    ∃ k slept, attempt ≤ k ∧ k ≤ s.maxAttempts ∧
      (∀ j, attempt ≤ j → j < k → (outcome j).retryable = true) ∧
      ((outcome k).retryable = false ∨ k = s.maxAttempts) ∧ slept.length = k - attempt ∧
      (∀ seconds ∈ slept, ∃ i, s.pause (draws i) i = some seconds) ∧
      s.attempts outcome draws (left + 1) attempt =
        (callsBetween slept, .requested (outcome k)) := by
  induction left with
  | zero =>
    intro attempt hlast hsleep
    refine ⟨attempt, [], le_refl _, by omega, by omega, Or.inr (by omega), by simp, by simp, ?_⟩
    have hmax : s.maxAttempts ≤ attempt := by omega
    simp [attempts, hmax, callsBetween]
  | succ left ih =>
    intro attempt hlast hsleep
    by_cases hretry : (outcome attempt).retryable = true
    · have hmax : ¬ s.maxAttempts ≤ attempt := by omega
      have hone : ∀ j, attempt ≤ j → j ≤ attempt → (outcome j).retryable = true := by
        intro j hlow hhigh
        obtain rfl : j = attempt := by omega
        exact hretry
      obtain ⟨seconds, hpause⟩ :=
        sleepable_iff.mp (hsleep attempt (le_refl _) (by omega) hone)
      obtain ⟨k, slept, hle, hk, hbefore, hstops, hlength, hpauses, hrest⟩ :=
        ih (attempt + 1) (by omega) (by
          intro i hlow hhigh hall
          refine hsleep i (by omega) hhigh ?_
          intro j hj hji
          rcases hj.eq_or_lt with rfl | hlt
          · exact hretry
          · exact hall j hlt hji)
      refine ⟨k, seconds :: slept, by omega, hk, ?_, hstops, ?_, ?_, ?_⟩
      · intro j hj hjk
        rcases hj.eq_or_lt with rfl | hlt
        · exact hretry
        · exact hbefore j hlt hjk
      · rw [List.length_cons, hlength]
        omega
      · intro t ht
        rcases List.mem_cons.mp ht with rfl | ht
        · exact ⟨attempt, hpause⟩
        · exact hpauses t ht
      · rw [attempts, hrest]
        simp [hretry, hmax, hpause, callsBetween]
    · rw [Bool.not_eq_true] at hretry
      refine ⟨attempt, [], le_refl _, by omega, by omega, Or.inl hretry, by simp, by simp, ?_⟩
      simp [attempts, hretry, callsBetween]

/-- A loop that ends with an outcome has slept each backoff on the way. -/
theorem sleepable_of_attempts (left : Nat) :
    ∀ attempt, attempt + left = s.maxAttempts →
    (∃ o, (s.attempts outcome draws (left + 1) attempt).2 = .requested o) →
    ∀ i, attempt ≤ i → i < s.maxAttempts →
      (∀ j, attempt ≤ j → j ≤ i → (outcome j).retryable = true) → s.Sleepable (draws i) i := by
  induction left with
  | zero =>
    intro attempt hlast _ i hlow hhigh
    omega
  | succ left ih =>
    rintro attempt hlast ⟨o, hend⟩ i hlow hhigh hall
    have hretry := hall attempt (le_refl _) hlow
    have hmax : ¬ s.maxAttempts ≤ attempt := by omega
    rw [attempts] at hend
    cases hpause : s.pause (draws attempt) attempt with
    | none => simp [hretry, hmax, hpause] at hend
    | some seconds =>
      simp only [hretry, hmax, hpause, Bool.not_true, Bool.false_or, decide_false,
        Bool.false_eq_true, ↓reduceIte] at hend
      rcases hlow.eq_or_lt with rfl | hlt
      · exact sleepable_iff.mpr ⟨seconds, hpause⟩
      · exact ih (attempt + 1) (by omega) ⟨o, hend⟩ i hlt hhigh
          (fun j hj ↦ hall j (by omega))

/-- The loop does not run past its last attempt. -/
theorem attempts_ne_exited (left : Nat) : ∀ attempt, attempt + left = s.maxAttempts →
    (s.attempts outcome draws (left + 1) attempt).2 ≠ .retryLoopExited := by
  induction left with
  | zero =>
    intro attempt hlast
    have hmax : s.maxAttempts ≤ attempt := by omega
    simp [attempts, hmax]
  | succ left ih =>
    intro attempt hlast
    rw [attempts]
    split_ifs with hstop
    · simp
    · cases s.pause (draws attempt) attempt with
      | none => simp
      | some seconds => exact ih (attempt + 1) (by omega)

end RetrySettings

/-- The converted limit. -/
theorem RetryCfg.attemptLimit_of_settings {cfg : RetryCfg} {s : RetrySettings}
    (h : cfg.settings = some s) :
    ∃ n, cfg.attemptLimit = some n ∧ (s.maxAttempts : Int) = max 1 n := by
  simp only [RetryCfg.settings, Option.bind_eq_bind, Option.bind_eq_some_iff] at h
  obtain ⟨n, hlimit, base, -, multiplier, -, hrest⟩ := h
  split at hrest
  · cases hrest
  · obtain rfl := Option.some.inj hrest
    exact ⟨n, hlimit, by simp only; omega⟩

/-- A run sleeps what it paused for. -/
theorem mem_callsBetween {slept : List Rat} {seconds : Rat} :
    RetryEvent.sleep seconds ∈ callsBetween slept ↔ seconds ∈ slept := by
  simp [callsBetween]

/-- The error behind the loop is never raised. -/
theorem callWithRetry_ne_exited (outcome : Nat → Requested T E) (retryCfg : Option RetryCfg)
    (draws : Nat → Draw) : (callWithRetry outcome retryCfg draws).2 ≠ .retryLoopExited := by
  unfold callWithRetry
  split
  · simp
  · next s hsettings =>
    obtain ⟨left, hleft⟩ : ∃ left, s.maxAttempts = left + 1 :=
      ⟨s.maxAttempts - 1, by have := s.one_le_maxAttempts; omega⟩
    rw [hleft]
    exact RetrySettings.attempts_ne_exited left 1 (by omega)

/-- Under settings that convert a call conforms exactly when each backoff it asks for can be
slept. -/
theorem conforms_iff_sleepable {outcome : Nat → Requested T E} {retryCfg : Option RetryCfg}
    {draws : Nat → Draw} {s : RetrySettings}
    (hsettings : (RetryCfg.orEmpty retryCfg).settings = some s) :
    Conforms (RetryCfg.orEmpty retryCfg) outcome (callWithRetry outcome retryCfg draws) ↔
      ∀ attempt, 1 ≤ attempt → attempt < s.maxAttempts →
        (∀ j, 1 ≤ j → j ≤ attempt → (outcome j).retryable = true) →
        s.Sleepable (draws attempt) attempt := by
  unfold callWithRetry
  generalize RetryCfg.orEmpty retryCfg = cfg at hsettings ⊢
  simp only [hsettings]
  obtain ⟨left, hleft⟩ : ∃ left, s.maxAttempts = left + 1 :=
    ⟨s.maxAttempts - 1, by have := s.one_le_maxAttempts; omega⟩
  obtain ⟨n, hlimit, hmax⟩ := RetryCfg.attemptLimit_of_settings hsettings
  constructor
  · rintro ⟨⟨k, slept, -, -, -, hend⟩, -, -⟩
    rw [hleft] at hend
    exact RetrySettings.sleepable_of_attempts left 1 (by omega) ⟨_, hend⟩
  · intro hsleep
    obtain ⟨k, slept, hone, hk, hbefore, hstops, hlength, hpauses, hrun⟩ :=
      RetrySettings.attempts_of_sleepable left 1 (by omega) hsleep
    rw [hleft, hrun]
    refine ⟨⟨k, slept, ⟨hone, hbefore, ?_, ?_⟩, hlength, rfl, rfl⟩, ?_, by simp⟩
    · intro m hm
      obtain rfl : n = m := Option.some.inj (hlimit.symm.trans hm)
      omega
    · exact hstops.imp_right (fun heq ↦ ⟨n, hlimit, by omega⟩)
    · intro t ht _ _ hcap seconds hmem
      obtain rfl : s = t := Option.some.inj (hsettings.symm.trans ht)
      obtain ⟨i, hpause⟩ := hpauses seconds (mem_callsBetween.mp hmem)
      exact RetrySettings.pause_bounded hcap hpause

/-- A call conforms exactly when its settings convert and each backoff it asks for can be slept. -/
theorem callWithRetry_conforms_iff (outcome : Nat → Requested T E) (retryCfg : Option RetryCfg)
    (draws : Nat → Draw) :
    Conforms (RetryCfg.orEmpty retryCfg) outcome (callWithRetry outcome retryCfg draws) ↔
      (RetryCfg.orEmpty retryCfg).Affordable outcome draws := by
  cases hsettings : (RetryCfg.orEmpty retryCfg).settings with
  | none =>
    constructor
    · unfold callWithRetry
      rw [hsettings]
      rintro ⟨⟨k, slept, -, -, -, hend⟩, -, -⟩
      cases hend
    · rintro ⟨s, hsome, -⟩
      cases hsettings.symm.trans hsome
  | some s =>
    rw [conforms_iff_sleepable hsettings]
    constructor
    · exact fun hsleep ↦ ⟨s, hsettings, hsleep⟩
    · rintro ⟨t, ht, hsleep⟩
      obtain rfl : s = t := Option.some.inj (hsettings.symm.trans ht)
      exact hsleep

/-- Settings of which only the power of the backoff can go wrong: finite numbers that are not
negative, with a cap of at most four thousand million seconds. -/
structure RetrySettings.Moderate (s : RetrySettings) (multiplier : Rat) : Prop where
  base : ∃ b, s.backoffBase = .fin b ∧ 0 ≤ b
  multiplier_eq : s.backoffMultiplier = .fin multiplier
  multiplier_nonneg : 0 ≤ multiplier
  cap : ∃ c, s.maxBackoff = .fin c ∧ 0 ≤ c ∧ c ≤ 4 * 10 ^ 9

/-- Six thousand million seconds can be slept, and less. -/
theorem sleeps_of_le {seconds : Rat} (hnonneg : 0 ≤ seconds) (h : seconds ≤ 6 * 10 ^ 9) :
    sleeps seconds = true := by
  have hproduct : seconds * 10 ^ 9 ≤ 6 * 10 ^ 18 := by linarith
  have hin : InRange (seconds * 10 ^ 9) := by
    rw [InRange, abs_of_nonneg (by positivity)]
    exact hproduct.trans_lt (by decide +kernel)
  have hround : toDouble (seconds * 10 ^ 9) ≤ (6 * 10 ^ 18 : Int) := by
    calc toDouble (seconds * 10 ^ 9) ≤ toDouble (6 * 10 ^ 18) :=
          toDouble_mono (by positivity) hproduct
      _ = 6 * 10 ^ 18 := by decide +kernel
      _ = (6 * 10 ^ 18 : Int) := by norm_num
  have hceil := Int.ceil_le.mpr hround
  simp only [sleeps, PyFloat.times, PyFloat.rounded, hin, ↓reduceIte, hnonneg, decide_true,
    Bool.true_and, decide_eq_true_eq]
  omega

/-- Under moderate settings a backoff can be slept when its power is in range. -/
theorem RetrySettings.Moderate.sleepable_iff {s : RetrySettings} {multiplier : Rat}
    (h : s.Moderate multiplier) (draw : Draw) (attempt : Nat) :
    s.Sleepable draw attempt ↔ InRange (multiplier ^ (attempt - 1)) := by
  obtain ⟨b, hbase, hb⟩ := h.base
  obtain ⟨c, hcap, hc, hsmall⟩ := h.cap
  have hpower := PyFloat.power_fin multiplier (attempt - 1)
  unfold Sleepable
  rw [h.multiplier_eq, hbase, hcap, hpower]
  constructor
  · rintro ⟨p, -, hsome, -⟩
    by_contra hout
    rw [if_neg hout] at hsome
    cases hsome
  intro hin
  have hpow : 0 ≤ toDouble (multiplier ^ (attempt - 1)) :=
    toDouble_nonneg (pow_nonneg h.multiplier_nonneg _)
  obtain ⟨d, hleast, hd, hdc⟩ := PyFloat.exists_least
    (x := (PyFloat.fin b).times (.fin (toDouble (multiplier ^ (attempt - 1)))))
    (PyFloat.nonneg_rounded (mul_nonneg hb hpow)) hc
  suffices hslept : ∃ seconds, s.jittered draw (.fin d) = .fin seconds ∧ sleeps seconds = true by
    obtain ⟨seconds, hjittered, hsleeps⟩ := hslept
    exact ⟨_, seconds, if_pos hin, by rwa [hleast], hsleeps⟩
  unfold jittered
  split_ifs
  · have hfactor : 0 ≤ draw.1 := by linarith [draw.2.1]
    have hlow : 0 ≤ d * draw.1 := mul_nonneg hd hfactor
    have hhigh : d * draw.1 ≤ 6 * 10 ^ 9 := by
      calc d * draw.1 ≤ c * (3 / 2) := mul_le_mul hdc draw.2.2 hfactor hc
        _ ≤ 6 * 10 ^ 9 := by linarith
    have hrange : InRange (d * draw.1) := by
      rw [InRange, abs_of_nonneg hlow]
      exact hhigh.trans_lt (by decide +kernel)
    refine ⟨toDouble (d * draw.1), by simp [PyFloat.times, PyFloat.rounded, hrange], ?_⟩
    refine sleeps_of_le (toDouble_nonneg hlow) ?_
    calc toDouble (d * draw.1) ≤ toDouble (6 * 10 ^ 9) := toDouble_mono hlow hhigh
      _ = 6 * 10 ^ 9 := by decide +kernel
  · exact ⟨d, rfl, sleeps_of_le hd (by linarith)⟩

/-- Under moderate settings a call conforms exactly when the powers that it raises are in range. -/
theorem callWithRetry_conforms_iff_of_moderate (outcome : Nat → Requested T E)
    (retryCfg : Option RetryCfg) (draws : Nat → Draw) {s : RetrySettings} {multiplier : Rat}
    (hsettings : (RetryCfg.orEmpty retryCfg).settings = some s) (h : s.Moderate multiplier) :
    Conforms (RetryCfg.orEmpty retryCfg) outcome (callWithRetry outcome retryCfg draws) ↔
      ∀ attempt, 1 ≤ attempt → attempt < s.maxAttempts →
        (∀ j, 1 ≤ j → j ≤ attempt → (outcome j).retryable = true) →
        InRange (multiplier ^ (attempt - 1)) := by
  rw [conforms_iff_sleepable hsettings]
  constructor
  · intro hsleep attempt hlow hhigh hall
    exact (h.sleepable_iff _ attempt).mp (hsleep attempt hlow hhigh hall)
  · intro hin attempt hlow hhigh hall
    exact (h.sleepable_iff _ attempt).mpr (hin attempt hlow hhigh hall)

/-- Settings whose numbers convert. -/
theorem RetryCfg.exists_settings {cfg : RetryCfg} {n : Int} {base multiplier cap : PyFloat}
    (hlimit : cfg.attemptLimit = some n)
    (hbase : (cfg.backoffBase.getD (.float (.fin (1 / 2)))).toFloat = some base)
    (hmultiplier : (cfg.backoffMultiplier.getD (.int 2)).toFloat = some multiplier)
    (hcap : (cfg.maxBackoff.getD (.int 10)).toFloat = some cap) :
    ∃ s, cfg.settings = some s ∧ s.maxAttempts = (max 1 n).toNat ∧ s.backoffBase = base ∧
      s.backoffMultiplier = multiplier ∧ s.maxBackoff = cap := by
  simp only [RetryCfg.settings, hlimit, hbase, hmultiplier, Option.bind_eq_bind, Option.bind_some]
  split
  · next hnone => cases hcap.symm.trans hnone
  · next found hfound =>
    obtain rfl : cap = found := Option.some.inj (hcap.symm.trans hfound)
    exact ⟨_, rfl, rfl, rfl, rfl, rfl⟩

/-- The settings that the gateway ships with; `config.py:195–201`. -/
def shippedRetry : RetryCfg where
  maxAttempts := some (.int 3)
  backoffBase := some (.float (.fin (1 / 2)))
  backoffMultiplier := some (.int 2)
  maxBackoff := some (.int 10)
  jitter := some true

/-- Under the settings that the gateway ships with every call conforms. -/
theorem callWithRetry_conforms_shipped (outcome : Nat → Requested T E) (draws : Nat → Draw) :
    Conforms shippedRetry outcome (callWithRetry outcome (some shippedRetry) draws) := by
  obtain ⟨s, hsettings, hlimit, hbase, hmultiplier, hcap⟩ :
      ∃ s, shippedRetry.settings = some s ∧ s.maxAttempts = (max 1 3 : Int).toNat ∧
        s.backoffBase = .fin (1 / 2) ∧ s.backoffMultiplier = .fin 2 ∧ s.maxBackoff = .fin 10 :=
    RetryCfg.exists_settings rfl (by decide +kernel) (by decide +kernel) (by decide +kernel)
  have hmoderate : s.Moderate 2 :=
    ⟨⟨1 / 2, hbase, by norm_num⟩, hmultiplier, by norm_num, 10, hcap, by norm_num, by norm_num⟩
  refine (callWithRetry_conforms_iff_of_moderate outcome (some shippedRetry) draws hsettings
    hmoderate).mpr ?_
  intro attempt hlow hhigh _
  have hthree : attempt < 3 := by simpa [hlimit] using hhigh
  obtain rfl | rfl : attempt = 1 ∨ attempt = 2 := by omega
  · decide +kernel
  · decide +kernel

/-- Two hundred attempts with a hundredfold backoff under the default cap. -/
def manyAttempts : RetryCfg where
  maxAttempts := some (.int 200)
  backoffBase := none
  backoffMultiplier := some (.int 100)
  maxBackoff := none
  jitter := some false

/-- A provider that is down. -/
def unavailable (_ : Nat) : Requested String String := .providerInternalError "503"

/-- A draw that leaves the delay as it is. -/
def evenDraw (_ : Nat) : Draw := ⟨1, by norm_num, by norm_num⟩

/-- The power leaves the range of a float behind the call number 156. -/
theorem not_conforms_manyAttempts :
    ¬ Conforms (RetryCfg.orEmpty (some manyAttempts)) unavailable
      (callWithRetry unavailable (some manyAttempts) evenDraw) := by
  obtain ⟨s, hsettings, hlimit, hbase, hmultiplier, hcap⟩ :
      ∃ s, manyAttempts.settings = some s ∧ s.maxAttempts = (max 1 200 : Int).toNat ∧
        s.backoffBase = .fin (1 / 2) ∧ s.backoffMultiplier = .fin 100 ∧ s.maxBackoff = .fin 10 :=
    RetryCfg.exists_settings rfl (by decide +kernel) (by decide +kernel) (by decide +kernel)
  have hmoderate : s.Moderate 100 :=
    ⟨⟨1 / 2, hbase, by norm_num⟩, hmultiplier, by norm_num, 10, hcap, by norm_num, by norm_num⟩
  intro hconforms
  have hpower := (callWithRetry_conforms_iff_of_moderate unavailable (some manyAttempts) evenDraw
    hsettings hmoderate).mp hconforms 156 (by norm_num) (by rw [hlimit]; decide)
    (fun _ _ _ ↦ rfl)
  exact absurd hpower (by decide +kernel)

end LcpGateway.Pipeline
