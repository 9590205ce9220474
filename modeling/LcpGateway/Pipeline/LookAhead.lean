import LcpGateway.Pipeline.TryChain

/-!
# The look-ahead past a routed chain

Library `Pipeline`. `chain_len` is stored before the router may replace the chain
(`src/api/request_pipeline.py:790–827`), and the look-ahead after a failure trusts it
(`:1014–1018,1032–1034`). The walk therefore ends in an `IndexError` exactly when the
walked chain is shorter than the configured one and its last step fails.
-/

namespace LcpGateway.Pipeline
open LcpGateway.Base LcpGateway.Breaker LcpGateway.Chat LcpGateway.Config

namespace Session

variable {R : Type} (s : Session R)

/-- The step is passed over: a gate is closed, or its call falls through. -/
def PassedOver (later : List Step) (i : Nat) (step : Step) (w : Walk) : Prop :=
  s.gateOf later i step w ≠ .forward ∨ (s.calls i).outcome.fallsThrough

/-- The loop passes over every step but the last, and forwards to the last one, whose call
falls through. -/
def LastStepFails : List Step → Nat → Walk → Prop
  | [], _, _ => False
  | [step], i, w => s.gateOf [] i step w = .forward ∧ (s.calls i).outcome.fallsThrough
  | step :: next :: rest, i, w =>
    s.PassedOver (next :: rest) i step w ∧
      LastStepFails (next :: rest) (i + 1) (s.attempt (next :: rest) i step w).1

/-- Inside the chain an iteration continues exactly over a passed step. -/
theorem attempt_snd_eq_none_iff (next : Step) (rest : List Step) (i : Nat) (step : Step)
    (w : Walk) :
    (s.attempt (next :: rest) i step w).2 = none ↔ s.PassedOver (next :: rest) i step w := by
  rw [attempt_snd, PassedOver]
  by_cases hopen : s.gateOf (next :: rest) i step w = .forward
  · cases houtcome : (s.calls i).outcome <;> simp [hopen, Outcome.fallsThrough]
  · simp [hopen]

/-- Inside the chain an iteration never reads past the end. -/
theorem attempt_snd_ne_indexError (next : Step) (rest : List Step) (i : Nat) (step : Step)
    (w : Walk) : (s.attempt (next :: rest) i step w).2 ≠ some .indexError := by
  rw [attempt_snd]
  split
  · split
    · simp
    · simp
    · simp
  · simp

/-- The last iteration reads past the end exactly when the stored length exceeds its
position and its call falls through. -/
theorem attempt_snd_last (i : Nat) (step : Step) (w : Walk) :
    (s.attempt [] i step w).2 = some .indexError ↔
      i + 1 < s.chainLen ∧ s.gateOf [] i step w = .forward ∧
        (s.calls i).outcome.fallsThrough = true := by
  rw [attempt_snd]
  by_cases hopen : s.gateOf [] i step w = .forward
  · cases houtcome : (s.calls i).outcome <;> simp [hopen, Outcome.fallsThrough]
  · simp [hopen]

/-- Run lemma: a walk from position `i` ends in an `IndexError` exactly when the stored
length exceeds the end of the walked chain and the last step is forwarded to and fails. -/
theorem walkChain_eq_indexError_iff (walked : List Step) (i : Nat) (w : Walk) :
    (s.walkChain walked i w).2 = .indexError ↔
      i + walked.length < s.chainLen ∧ s.LastStepFails walked i w := by
  induction walked generalizing i w with
  | nil => simp [walkChain, LastStepFails]
  | cons step later ih =>
    cases later with
    | nil =>
      have hlast := s.attempt_snd_last i step w
      simp only [walkChain, LastStepFails, List.length_cons, List.length_nil, Nat.zero_add]
      rw [← hlast]
      cases s.attempt [] i step w with
      | mk w' result => cases result <;> simp
    | cons next rest =>
      have hnone := s.attempt_snd_eq_none_iff next rest i step w
      have hne := s.attempt_snd_ne_indexError next rest i step w
      rw [walkChain, LastStepFails, ← hnone]
      cases hattempt : s.attempt (next :: rest) i step w with
      | mk w' result =>
        rw [hattempt] at hne
        cases result with
        | some r => simpa using hne
        | none =>
          dsimp only
          rw [ih]
          simp only [List.length_cons, true_and]
          have harith : i + 1 + (rest.length + 1) = i + (rest.length + 1 + 1) := by omega
          rw [harith]

end Session

/-- `try_chain` returns a response or raises `AllProvidersFailedError` exactly when the
walked chain is at least as long as the configured one, or the walk does not end by
forwarding to the last step and failing there. -/
theorem tryChain_declared_iff {R : Type} (cfg : GatewayConfig) (profile : String)
    (chain : List Step) (inject : Option (List Message → List Message))
    (router : Option Router) (calls : Nat → Call R) (cb : CircuitBreaker) (body : Body) :
    (tryChain cfg profile chain inject router calls cb body).2.Declared ↔
      chain.length ≤ (route router chain cb (injectMemory inject body)).1.length ∨
        ¬ (⟨cfg, profile, chain.length, calls⟩ : Session R).LastStepFails
          (route router chain cb (injectMemory inject body)).1 0
          (Walk.start (route router chain cb (injectMemory inject body)).2
            (injectMemory inject body)) := by
  have hdeclared : ∀ r : Result R, r.Declared ↔ r ≠ .indexError := by
    intro r
    cases r <;> simp [Result.Declared]
  rw [hdeclared, Ne, tryChain, Session.walkChain_eq_indexError_iff, Nat.zero_add, not_and_or,
    Nat.not_lt]

/-- Three configured steps of which the router keeps the last two, and both fail. -/
theorem tryChain_indexError_of_shorter_route :
    ¬ ∀ (cfg : GatewayConfig) (chain walked : List Step) (calls : Nat → Call Unit)
        (cb : CircuitBreaker) (body : Body),
      (tryChain cfg "pi" chain none (some fun cb _ ↦ (some walked, cb)) calls cb body).2.Declared
    := by
  intro hall
  have hdeclared := hall ⟨Dict.empty, Dict.empty, Dict.empty, fun _ model ↦ model⟩
    [⟨"llamacpp", "qwen3.6-27b", none⟩, ⟨"opencode", "deepseek-v4-flash", none⟩,
      ⟨"deepseek", "deepseek-v4-pro", none⟩]
    [⟨"deepseek", "deepseek-v4-pro", none⟩, ⟨"opencode", "deepseek-v4-flash", none⟩]
    (fun _ ↦ ⟨0, 1, fun _ ↦ none, .failed .internal "HTTP 503"⟩)
    (CircuitBreaker.new defaultCbConfig) ⟨none, some [], .absent, false⟩
  exact hdeclared

end LcpGateway.Pipeline
