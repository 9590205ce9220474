import LcpGateway.Breaker.CircuitBreaker
import LcpGateway.Chat.Reasoning

/-!
# The provider chain walk

Library `Pipeline`. Source `src/api/request_pipeline.py:759–1045`. `try_chain` walks a list
of steps, each behind three gates, and rewrites one shared body at every forwarded step.
Clock readings, reasoning lookups and provider outcomes are given step by step; an outcome
is what `call_with_retry` returns or raises. The near-limit pre-flight only warns and has a
module of its own.
-/

namespace LcpGateway.Pipeline
open LcpGateway.Base LcpGateway.Breaker LcpGateway.Chat LcpGateway.Config

/-- A chain step. -/
structure Step where
  provider : String
  model : String
  baseUrl : Option String
  deriving DecidableEq, Repr

/-- The provider errors that fall through to the next step; `request_pipeline.py:1004–1005`. -/
inductive ProviderFailure where
  | timeout
  | auth
  | credits
  | rateLimit
  | internal
  deriving DecidableEq, Repr

namespace ProviderFailure

/-- The breaker's name for the error class. -/
def errorType : ProviderFailure → ErrorType
  | .timeout => .providerTimeoutError
  | .auth => .providerAuthError
  | .credits => .providerCreditsError
  | .rateLimit => .providerRateLimitError
  | .internal => .providerInternalError

/-- `type(e).__name__`. -/
def className : ProviderFailure → String
  | .timeout => "ProviderTimeoutError"
  | .auth => "ProviderAuthError"
  | .credits => "ProviderCreditsError"
  | .rateLimit => "ProviderRateLimitError"
  | .internal => "ProviderInternalError"

end ProviderFailure

/-- How a forwarded call ends. -/
inductive Outcome (R : Type) where
  | response (resp : R) (status : Nat)
  | badRequest (message : String)
  | failed (failure : ProviderFailure) (message : String)
  | configError (message : String)

/-- The outcome sends the walk to the next step. -/
def Outcome.fallsThrough {R : Type} : Outcome R → Bool
  | .failed _ _ => true
  | .configError _ => true
  | _ => false

/-- What the surroundings answer while one step is tried. -/
structure Call (R : Type) where
  askedAt : Time
  doneAt : Time
  stored : String → Option String
  outcome : Outcome R

/-- One `record_failover` call. -/
structure Failover where
  fromProvider : String
  toProvider : String
  reason : String
  errorMessage : String
  deriving DecidableEq, Repr

/-- One forwarded request. -/
structure Forward where
  index : Nat
  step : Step
  body : Body

/-- The state of the walk. -/
structure Walk where
  cb : CircuitBreaker
  body : Body
  errors : List String
  failovers : List Failover
  forwarded : List Forward

/-- How `try_chain` ends. `rejected` and `exhausted` are the two texts of
`AllProvidersFailedError`; `indexError` is the uncaught exception of the look-ahead. -/
inductive Result (R : Type) where
  | response (resp : R) (status : Nat) (provider model : String)
  | rejected (message : String)
  | exhausted (message : String)
  | indexError
  deriving DecidableEq

/-- A response, or `AllProvidersFailedError`. -/
def Result.Declared {R : Type} : Result R → Prop
  | .indexError => False
  | _ => True

/-- What stays fixed over one walk. `chainLen` is the stored `chain_len`. -/
structure Session (R : Type) where
  cfg : GatewayConfig
  profile : String
  chainLen : Nat
  calls : Nat → Call R

/-- The gates of a step, in order. -/
inductive Gate where
  | noVision
  | breakerOpen
  | degradedSkipped
  | forward
  deriving DecidableEq, Repr

/-- The breaker key of a step. -/
def keyOf (cfg : GatewayConfig) (profile : String) (step : Step) : Key :=
  ⟨step.provider, cfg.resolveBaseUrl step.provider step.baseUrl, profile⟩

/-- `_has_healthy_alternative` on the steps after the current one;
`request_pipeline.py:759–771`. -/
def hasHealthyAlternative (cfg : GatewayConfig) (profile : String) (cb : CircuitBreaker)
    (later : List Step) : Bool :=
  later.any (fun step ↦ cb.statusOf (keyOf cfg profile step) = .healthy)

/-- The step can take the request's content; `request_pipeline.py:878–889`. -/
def supportsContent (cfg : GatewayConfig) (body : Body) (step : Step) : Bool :=
  !hasImageContent body.messageList || cfg.supportsVision step.model

/-- The gates in front of a forward, with the breaker they leave; `request_pipeline.py:878–910`. -/
def gate (cfg : GatewayConfig) (profile : String) (cb : CircuitBreaker) (body : Body)
    (later : List Step) (step : Step) (now : Time) : Gate × CircuitBreaker :=
  if !supportsContent cfg body step then (.noVision, cb) else
    let (available, cb) := cb.isAvailable now (keyOf cfg profile step)
    if !available then (.breakerOpen, cb)
    else if cb.statusOf (keyOf cfg profile step) = .degraded ∧
        hasHealthyAlternative cfg profile cb later then (.degradedSkipped, cb)
    else (.forward, cb)

/-- The messages forwarded at a step; `request_pipeline.py:929–949`. -/
def prepareMessages (cfg : GatewayConfig) (model : String) (stored : String → Option String)
    (messages : List Message) : List Message :=
  ensureThinkingReasoningContent cfg model stored
    (sanitizeMessages (normalizeMessagesForCache messages))

/-- The tools forwarded at a step; `request_pipeline.py:931–932`. -/
def prepareTools : DictField (List Tool) → DictField (List Tool)
  | .value tools => if tools.isEmpty then .value tools else .value (normalizeToolsForCache tools)
  | tools => tools

/-- The body rewrites in front of a forward; `request_pipeline.py:912–949`. -/
def prepareBody (cfg : GatewayConfig) (step : Step) (stored : String → Option String)
    (body : Body) : Body :=
  { body with
    model := some (cfg.apiModel step.provider step.model)
    messages := body.messages.map (prepareMessages cfg step.model stored)
    tools := prepareTools body.tools }

namespace Session

variable {R : Type} (s : Session R)

/-- `chain[i + 1]["provider"]`, read when `i + 1 < chain_len`; the walk stops with an
`IndexError` when the walked chain ends there. -/
def lookAhead (later : List Step) (i : Nat) (step : Step) (reason message : String) (w : Walk) :
    Walk × Option (Result R) :=
  if i + 1 < s.chainLen then
    match later with
    | next :: _ =>
      ({ w with failovers := w.failovers ++ [⟨step.provider, next.provider, reason, message⟩] },
        none)
    | [] => (w, some .indexError)
  else (w, none)

/-- The `try` statement around the call; `request_pipeline.py:964–1043`. -/
def settle (later : List Step) (i : Nat) (step : Step) (w : Walk) : Walk × Option (Result R) :=
  let k := keyOf s.cfg s.profile step
  let provider := step.provider
  match (s.calls i).outcome with
  | .response resp status =>
    ({ w with cb := w.cb.recordSuccess (s.calls i).doneAt k },
      some (.response resp status provider step.model))
  | .badRequest message =>
    (w, some (.rejected s!"Provider {provider} rejected the request as invalid: {message}"))
  | .failed failure message =>
    s.lookAhead later i step failure.className message
      { w with
        cb := w.cb.recordFailure (s.calls i).doneAt k (some failure.errorType) (some message)
        errors := w.errors ++ [s!"{provider}: {message}"] }
  | .configError message =>
    s.lookAhead later i step "ConfigError" message
      { w with errors := w.errors ++ [s!"{provider}: {message}"] }

/-- One iteration of the loop; `request_pipeline.py:863–1043`. -/
def attempt (later : List Step) (i : Nat) (step : Step) (w : Walk) : Walk × Option (Result R) :=
  let provider := step.provider
  let model := step.model
  match gate s.cfg s.profile w.cb w.body later step (s.calls i).askedAt with
  | (.noVision, cb) =>
    ({ w with
      cb
      errors := w.errors ++ [s!"{provider}/{model}: model does not support vision/image input"] },
      none)
  | (.breakerOpen, cb) =>
    ({ w with cb, errors := w.errors ++ [s!"{provider}: circuit breaker open"] }, none)
  | (.degradedSkipped, cb) =>
    ({ w with
      cb
      errors := w.errors ++ [s!"{provider}: degraded (healthy alternative available)"] }, none)
  | (.forward, cb) =>
    let body := prepareBody s.cfg step (s.calls i).stored w.body
    s.settle later i step { w with cb, body, forwarded := w.forwarded ++ [⟨i, step, body⟩] }

/-- The loop; `request_pipeline.py:863–1045`. -/
def walkChain : List Step → Nat → Walk → Walk × Result R
  | [], _, w =>
    let profile := s.profile
    let errors := "; ".intercalate w.errors
    (w, .exhausted s!"All providers failed for {profile}: {errors}")
  | step :: later, i, w =>
    match s.attempt later i step w with
    | (w', some result) => (w', result)
    | (w', none) => walkChain later (i + 1) w'

/-- A step the loop reached, with the steps behind it and the state it met. -/
structure Visit where
  index : Nat
  step : Step
  later : List Step
  walk : Walk

/-- Every step the loop reached, in order. -/
def visits : List Step → Nat → Walk → List Visit
  | [], _, _ => []
  | step :: later, i, w =>
    ⟨i, step, later, w⟩ ::
      match s.attempt later i step w with
      | (_, some _) => []
      | (w', none) => visits later (i + 1) w'

/-- The gate decision of an iteration. -/
def gateOf (later : List Step) (i : Nat) (step : Step) (w : Walk) : Gate :=
  (gate s.cfg s.profile w.cb w.body later step (s.calls i).askedAt).1

/-- The gate of a visited step. -/
def gateAt (v : Visit) : Gate := s.gateOf v.later v.index v.step v.walk

/-- The request a visited step forwards when its gates are open. -/
def forwardAt (v : Visit) : Forward :=
  ⟨v.index, v.step, prepareBody s.cfg v.step (s.calls v.index).stored v.walk.body⟩

end Session

/-- The chain walked after the router answered; `request_pipeline.py:818–827`. -/
def walkedChain (configured : List Step) (routed : Option (List Step)) : List Step :=
  match routed with
  | some (step :: rest) => step :: rest
  | _ => configured

/-- The state in front of the loop. -/
def Walk.start (cb : CircuitBreaker) (body : Body) : Walk := ⟨cb, body, [], [], []⟩

/-- A routing service: it may answer a chain, and its availability probes move the breaker. -/
abbrev Router := CircuitBreaker → Body → Option (List Step) × CircuitBreaker

/-- The request after memory injection; `request_pipeline.py:796–809`. `inject` is the recall
harness when it is switched on. -/
def injectMemory (inject : Option (List Message → List Message)) (body : Body) : Body :=
  match inject with
  | some f => { body with messages := some (f body.messageList) }
  | none => body

/-- The chain and breaker the loop starts from; `router` is absent when dynamic routing is
off for the profile; `request_pipeline.py:811–827`. -/
def route (router : Option Router) (chain : List Step) (cb : CircuitBreaker) (body : Body) :
    List Step × CircuitBreaker :=
  match router with
  | some select =>
    if chain = [] then (chain, cb)
    else (walkedChain chain (select cb body).1, (select cb body).2)
  | none => (chain, cb)

/-- `try_chain`; `request_pipeline.py:774–1045`. -/
def tryChain {R : Type} (cfg : GatewayConfig) (profile : String) (chain : List Step)
    (inject : Option (List Message → List Message)) (router : Option Router)
    (calls : Nat → Call R) (cb : CircuitBreaker) (body : Body) : Walk × Result R :=
  let s : Session R := ⟨cfg, profile, chain.length, calls⟩
  let body := injectMemory inject body
  let (walked, cb) := route router chain cb body
  s.walkChain walked 0 (Walk.start cb body)

/-! ### What one iteration does -/

namespace Session

variable {R : Type} (s : Session R) (later : List Step) (i : Nat) (step : Step) (w : Walk)

/-- The look-ahead logs a failover or stops the walk; it leaves everything else alone. -/
theorem lookAhead_fst (reason message : String) :
    ∃ failovers, (s.lookAhead later i step reason message w).1 = { w with failovers } := by
  unfold lookAhead
  split
  · split
    · exact ⟨_, rfl⟩
    · exact ⟨w.failovers, rfl⟩
  · exact ⟨w.failovers, rfl⟩

/-- The look-ahead ends the walk only past the end of a chain shorter than the stored length. -/
theorem lookAhead_snd (reason message : String) :
    (s.lookAhead later i step reason message w).2 =
      if i + 1 < s.chainLen ∧ later = [] then some .indexError else none := by
  unfold lookAhead
  split
  · next h => cases later <;> simp [h]
  · next h => simp [h]

/-- Settling a call keeps the prepared body and the log of forwards. -/
theorem settle_body_forwarded :
    (s.settle later i step w).1.body = w.body ∧
      (s.settle later i step w).1.forwarded = w.forwarded := by
  unfold settle
  dsimp only
  split
  · exact ⟨rfl, rfl⟩
  · exact ⟨rfl, rfl⟩
  · next failure message _ =>
    obtain ⟨failovers, h⟩ := s.lookAhead_fst later i step
      { w with
        cb := w.cb.recordFailure (s.calls i).doneAt (keyOf s.cfg s.profile step)
          (some failure.errorType) (some message)
        errors := w.errors ++ [s!"{step.provider}: {message}"] } failure.className message
    rw [h]
    exact ⟨rfl, rfl⟩
  · next message _ =>
    obtain ⟨failovers, h⟩ := s.lookAhead_fst later i step
      { w with errors := w.errors ++ [s!"{step.provider}: {message}"] } "ConfigError" message
    rw [h]
    exact ⟨rfl, rfl⟩

/-- How a settled call ends the walk. -/
theorem settle_snd :
    (s.settle later i step w).2 =
      match (s.calls i).outcome with
      | .response resp status => some (.response resp status step.provider step.model)
      | .badRequest message => some (.rejected
          s!"Provider {step.provider} rejected the request as invalid: {message}")
      | _ => if i + 1 < s.chainLen ∧ later = [] then some .indexError else none := by
  unfold settle
  cases (s.calls i).outcome <;> simp [lookAhead_snd]

/-- A step behind a closed gate is passed over with the body and the log as they were. -/
theorem attempt_of_closed (h : s.gateOf later i step w ≠ .forward) :
    (s.attempt later i step w).2 = none ∧ (s.attempt later i step w).1.body = w.body ∧
      (s.attempt later i step w).1.forwarded = w.forwarded := by
  unfold gateOf at h
  unfold attempt
  cases hg : gate s.cfg s.profile w.cb w.body later step (s.calls i).askedAt with
  | mk g cb =>
    rw [hg] at h
    cases g with
    | forward => exact absurd rfl h
    | noVision | breakerOpen | degradedSkipped => exact ⟨rfl, rfl, rfl⟩

/-- A step behind open gates forwards the prepared body and settles the call. -/
theorem attempt_of_open (h : s.gateOf later i step w = .forward) :
    ∃ cb, s.attempt later i step w =
      s.settle later i step { w with
        cb
        body := prepareBody s.cfg step (s.calls i).stored w.body
        forwarded := w.forwarded ++
          [⟨i, step, prepareBody s.cfg step (s.calls i).stored w.body⟩] } := by
  unfold gateOf at h
  unfold attempt
  cases hg : gate s.cfg s.profile w.cb w.body later step (s.calls i).askedAt with
  | mk g cb =>
    rw [hg] at h
    obtain rfl : g = .forward := h
    exact ⟨cb, rfl⟩

/-- The log after an iteration. -/
theorem attempt_forwarded :
    (s.attempt later i step w).1.forwarded =
      w.forwarded ++ if s.gateOf later i step w = .forward
        then [⟨i, step, prepareBody s.cfg step (s.calls i).stored w.body⟩] else [] := by
  split
  · next h =>
    obtain ⟨cb, hattempt⟩ := s.attempt_of_open later i step w h
    rw [hattempt, (s.settle_body_forwarded later i step _).2]
  · next h => rw [(s.attempt_of_closed later i step w h).2.2, List.append_nil]

/-- The body after an iteration. -/
theorem attempt_body :
    (s.attempt later i step w).1.body =
      if s.gateOf later i step w = .forward
        then prepareBody s.cfg step (s.calls i).stored w.body else w.body := by
  split
  · next h =>
    obtain ⟨cb, hattempt⟩ := s.attempt_of_open later i step w h
    rw [hattempt, (s.settle_body_forwarded later i step _).1]
  · next h => exact (s.attempt_of_closed later i step w h).2.1

/-- How an iteration ends the walk. -/
theorem attempt_snd :
    (s.attempt later i step w).2 =
      if s.gateOf later i step w = .forward then
        match (s.calls i).outcome with
        | .response resp status => some (.response resp status step.provider step.model)
        | .badRequest message => some (.rejected
            s!"Provider {step.provider} rejected the request as invalid: {message}")
        | _ => if i + 1 < s.chainLen ∧ later = [] then some .indexError else none
      else none := by
  split
  · next h =>
    obtain ⟨cb, hattempt⟩ := s.attempt_of_open later i step w h
    rw [hattempt, settle_snd]
  · next h => exact (s.attempt_of_closed later i step w h).1

end Session

/-! ### What a whole walk does -/

namespace Session

variable {R : Type} (s : Session R)

/-- The log of a walk is the forwards of its visits whose gates are open. -/
theorem walkChain_forwarded (walked : List Step) (i : Nat) (w : Walk) :
    (s.walkChain walked i w).1.forwarded = w.forwarded ++
      ((s.visits walked i w).filter (fun v ↦ s.gateAt v = .forward)).map s.forwardAt := by
  induction walked generalizing i w with
  | nil => simp [walkChain, visits]
  | cons step later ih =>
    have hlog := s.attempt_forwarded later i step w
    have hgate : s.gateAt ⟨i, step, later, w⟩ = s.gateOf later i step w := rfl
    simp only [walkChain, visits]
    cases hattempt : s.attempt later i step w with
    | mk w' result =>
      rw [hattempt] at hlog
      dsimp only at hlog
      cases result with
      | some r =>
        simp only [hlog, List.filter_cons, hgate]
        by_cases hopen : s.gateOf later i step w = .forward <;> simp [hopen, forwardAt]
      | none =>
        simp only [ih, hlog, List.filter_cons, hgate]
        by_cases hopen : s.gateOf later i step w = .forward <;> simp [hopen, forwardAt]

/-- An exhausted walk reached every step. -/
theorem visits_of_exhausted {walked : List Step} {i : Nat} {w : Walk} {message : String}
    (h : (s.walkChain walked i w).2 = .exhausted message) :
    (s.visits walked i w).map Visit.step = walked := by
  induction walked generalizing i w with
  | nil => rfl
  | cons step later ih =>
    simp only [walkChain, visits] at h ⊢
    have hend := s.attempt_snd later i step w
    cases hattempt : s.attempt later i step w with
    | mk w' result =>
      rw [hattempt] at h hend
      cases result with
      | none => simpa using ih h
      | some r =>
        -- an iteration never ends a walk as exhausted
        obtain rfl : r = .exhausted message := h
        split at hend
        · split at hend
          · simp at hend
          · simp at hend
          · split at hend <;> simp at hend
        · simp at hend

/-- Every visit is a suffix of the walked chain at its index. -/
theorem mem_visits {walked : List Step} {i : Nat} {w : Walk} {v : Visit}
    (h : v ∈ s.visits walked i w) :
    ∃ earlier, walked = earlier ++ v.step :: v.later ∧ v.index = i + earlier.length := by
  induction walked generalizing i w with
  | nil => simp [visits] at h
  | cons step later ih =>
    simp only [visits, List.mem_cons] at h
    rcases h with rfl | h
    · exact ⟨[], rfl, rfl⟩
    · split at h
      · simp at h
      · obtain ⟨earlier, hsplit, hindex⟩ := ih h
        exact ⟨step :: earlier, by rw [hsplit, List.cons_append], by
          simp only [hindex, List.length_cons]; omega⟩

end Session
end LcpGateway.Pipeline
