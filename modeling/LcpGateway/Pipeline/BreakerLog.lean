import LcpGateway.Breaker.Machine
import LcpGateway.Pipeline.TryChain

/-!
# What a walk tells the breaker

Library `Pipeline`. The calls of `src/api/circuit_breaker.py` that one `try_chain` makes,
status reads left out. The breaker a walk leaves is the breaker machine run over these calls,
and a walk that answers has recorded a success of the answering provider.
-/

namespace LcpGateway.Pipeline
open LcpGateway.Base LcpGateway.Breaker LcpGateway.Chat LcpGateway.Config

namespace Session

variable {R : Type} (s : Session R)

/-- The breaker call after a forward; `request_pipeline.py:971,1006–1008`. -/
def settleOps (i : Nat) (step : Step) : List Op :=
  match (s.calls i).outcome with
  | .response _ _ => [.recordSuccess (s.calls i).doneAt (keyOf s.cfg s.profile step)]
  | .failed failure message =>
    [.recordFailure (s.calls i).doneAt (keyOf s.cfg s.profile step) (some failure.errorType)
      (some message)]
  | _ => []

/-- The breaker calls of one iteration. -/
def attemptOps (later : List Step) (i : Nat) (step : Step) (w : Walk) : List Op :=
  if !supportsContent s.cfg w.body step then []
  else .isAvailable (s.calls i).askedAt (keyOf s.cfg s.profile step) ::
    if s.gateOf later i step w = .forward then s.settleOps i step else []

/-- The breaker calls of a walk, in order. -/
def walkOps : List Step → Nat → Walk → List Op
  | [], _, _ => []
  | step :: later, i, w =>
    s.attemptOps later i step w ++
      match s.attempt later i step w with
      | (_, some _) => []
      | (w', none) => walkOps later (i + 1) w'

/-- Settling a call makes its breaker call. -/
theorem settle_cb (later : List Step) (i : Nat) (step : Step) (w : Walk) :
    (s.settle later i step w).1.cb = run CircuitBreaker.step w.cb (s.settleOps i step) := by
  unfold settle settleOps
  dsimp only
  cases (s.calls i).outcome with
  | response resp status => rfl
  | badRequest message => rfl
  | failed failure message =>
    obtain ⟨failovers, h⟩ := s.lookAhead_fst later i step
      { w with
        cb := w.cb.recordFailure (s.calls i).doneAt (keyOf s.cfg s.profile step)
          (some failure.errorType) (some message)
        errors := w.errors ++ [s!"{step.provider}: {message}"] } failure.className message
    rw [h]
    rfl
  | configError message =>
    obtain ⟨failovers, h⟩ := s.lookAhead_fst later i step
      { w with errors := w.errors ++ [s!"{step.provider}: {message}"] } "ConfigError" message
    rw [h]
    rfl

/-- An iteration makes its breaker calls and no others. -/
theorem attempt_cb (later : List Step) (i : Nat) (step : Step) (w : Walk) :
    (s.attempt later i step w).1.cb =
      run CircuitBreaker.step w.cb (s.attemptOps later i step w) := by
  unfold attempt attemptOps gateOf gate
  by_cases hcontent : supportsContent s.cfg w.body step
  case neg => simp [hcontent, run]
  simp only [hcontent, Bool.not_true, Bool.false_eq_true, if_false, run]
  cases hcall : w.cb.isAvailable (s.calls i).askedAt (keyOf s.cfg s.profile step) with
  | mk available cb =>
    have hstep :
        w.cb.step (.isAvailable (s.calls i).askedAt (keyOf s.cfg s.profile step)) = cb := by
      simp only [CircuitBreaker.step, CircuitBreaker.apply, hcall]
    rw [hstep]
    cases available with
    | false => simp [run]
    | true =>
      simp only [Bool.not_true, Bool.false_eq_true, if_false]
      by_cases hdegraded : cb.statusOf (keyOf s.cfg s.profile step) = .degraded ∧
          hasHealthyAlternative s.cfg s.profile cb later
      · simp [hdegraded, run]
      · simp only [hdegraded, if_false, if_true]
        exact s.settle_cb later i step _

/-- The breaker after a walk is the breaker machine run over the walk's calls. -/
theorem walkChain_cb (walked : List Step) (i : Nat) (w : Walk) :
    (s.walkChain walked i w).1.cb = run CircuitBreaker.step w.cb (s.walkOps walked i w) := by
  induction walked generalizing i w with
  | nil => rfl
  | cons step later ih =>
    have hcb := s.attempt_cb later i step w
    simp only [walkChain, walkOps]
    cases hattempt : s.attempt later i step w with
    | mk w' result =>
      rw [hattempt] at hcb
      cases result with
      | some r => simpa using hcb
      | none =>
        dsimp only at hcb ⊢
        rw [ih, run_append, hcb]

/-- A walk that answers has recorded a success of the answering provider. -/
theorem recordSuccess_mem_walkOps {walked : List Step} {i : Nat} {w : Walk} {resp : R}
    {status : Nat} {provider model : String}
    (h : (s.walkChain walked i w).2 = .response resp status provider model) :
    ∃ now k, .recordSuccess now k ∈ s.walkOps walked i w ∧ k.provider = provider := by
  induction walked generalizing i w with
  | nil => simp [walkChain] at h
  | cons step later ih =>
    have hend := s.attempt_snd later i step w
    simp only [walkChain, walkOps] at h ⊢
    cases hattempt : s.attempt later i step w with
    | mk w' result =>
      rw [hattempt] at h hend
      cases result with
      | none =>
        obtain ⟨now, k, hmem, hk⟩ := ih h
        exact ⟨now, k, List.mem_append_right _ hmem, hk⟩
      | some r =>
        obtain rfl : r = .response resp status provider model := h
        -- only an open gate and a response end a walk this way
        by_cases hopen : s.gateOf later i step w = .forward
        case neg => simp [hopen] at hend
        have hcontent : supportsContent s.cfg w.body step := by
          by_contra hno
          rw [Bool.not_eq_true] at hno
          simp [gateOf, gate, hno] at hopen
        cases houtcome : (s.calls i).outcome with
        | response resp' status' =>
          simp only [hopen, if_true, houtcome, Option.some.injEq, Result.response.injEq] at hend
          refine ⟨(s.calls i).doneAt, keyOf s.cfg s.profile step, ?_, hend.2.2.1.symm⟩
          simp [attemptOps, hcontent, hopen, settleOps, houtcome]
        | badRequest message => simp [hopen, houtcome] at hend
        | failed failure message => simp [hopen, houtcome] at hend
        | configError message => simp [hopen, houtcome] at hend

end Session

/-- The breaker calls of `try_chain`. -/
def tryChainOps {R : Type} (cfg : GatewayConfig) (profile : String) (chain : List Step)
    (inject : Option (List Message → List Message)) (router : Option Router)
    (calls : Nat → Call R) (cb : CircuitBreaker) (body : Body) : List Op :=
  let s : Session R := ⟨cfg, profile, chain.length, calls⟩
  let body := injectMemory inject body
  let (walked, cb) := route router chain cb body
  s.walkOps walked 0 (Walk.start cb body)

/-- A chain that answers has recorded a success of the answering provider. -/
theorem recordSuccess_mem_tryChainOps {R : Type} {cfg : GatewayConfig} {profile : String}
    {chain : List Step} {inject : Option (List Message → List Message)} {router : Option Router}
    {calls : Nat → Call R} {cb : CircuitBreaker} {body : Body} {resp : R} {status : Nat}
    {provider model : String}
    (h : (tryChain cfg profile chain inject router calls cb body).2 =
      .response resp status provider model) :
    ∃ now k, .recordSuccess now k ∈ tryChainOps cfg profile chain inject router calls cb body ∧
      k.provider = provider :=
  Session.recordSuccess_mem_walkOps _ h

end LcpGateway.Pipeline
