import LcpGateway.Pipeline.TryChain

/-!
# What an exhausted walk tried

Library `Pipeline`. When `try_chain` ends because every step failed
(`src/api/request_pipeline.py:1045`), each step that supports the request's content and was
available when the loop reached it was forwarded to, with one deliberate exception: a
degraded provider is passed over while a later step's provider is healthy (`:901–910`),
whatever happens to that later step.
-/

namespace LcpGateway.Pipeline
open LcpGateway.Base LcpGateway.Breaker LcpGateway.Chat LcpGateway.Config

/-- The prepared messages carry the same image content. -/
theorem hasImageContent_prepareBody (cfg : GatewayConfig) (step : Step)
    (stored : String → Option String) (body : Body) :
    hasImageContent (prepareBody cfg step stored body).messageList =
      hasImageContent body.messageList := by
  cases hm : body.messages with
  | none => simp [prepareBody, Body.messageList, hm]
  | some messages => simp [prepareBody, Body.messageList, hm, prepareMessages]

/-- The gate decision of a step that supports the content. -/
theorem gate_of_supports {cfg : GatewayConfig} {profile : String} {cb : CircuitBreaker}
    {body : Body} {step : Step} {now : Time} (later : List Step)
    (hsupports : supportsContent cfg body step = true)
    (havailable : (cb.isAvailable now (keyOf cfg profile step)).1 = true) :
    (gate cfg profile cb body later step now).1 = .forward ∨
      (cb.isAvailable now (keyOf cfg profile step)).2.statusOf (keyOf cfg profile step) =
          .degraded ∧
        ∃ alternative ∈ later, (cb.isAvailable now (keyOf cfg profile step)).2.statusOf
          (keyOf cfg profile alternative) = .healthy := by
  simp only [gate, hsupports, Bool.not_true, Bool.false_eq_true, if_false]
  cases hask : cb.isAvailable now (keyOf cfg profile step) with
  | mk available cb' =>
    rw [hask] at havailable
    obtain rfl : available = true := havailable
    simp only [Bool.not_true, Bool.false_eq_true, if_false]
    split
    · next h => exact .inr ⟨h.1, by simpa [hasHealthyAlternative] using h.2⟩
    · exact .inl rfl

namespace Session

variable {R : Type} (s : Session R)

/-- An iteration keeps the image content of the request. -/
theorem hasImageContent_attempt (later : List Step) (i : Nat) (step : Step) (w : Walk) :
    hasImageContent (s.attempt later i step w).1.body.messageList =
      hasImageContent w.body.messageList := by
  rw [attempt_body]
  split
  · exact hasImageContent_prepareBody _ _ _ _
  · rfl

/-- Run lemma: every step of the walk sees the image content of the original request. -/
theorem hasImageContent_visits {walked : List Step} {i : Nat} {w : Walk} {v : Visit}
    (h : v ∈ s.visits walked i w) :
    hasImageContent v.walk.body.messageList = hasImageContent w.body.messageList := by
  induction walked generalizing i w with
  | nil => simp [visits] at h
  | cons step later ih =>
    have hkeep := s.hasImageContent_attempt later i step w
    simp only [visits, List.mem_cons] at h
    rcases h with rfl | h
    · rfl
    · cases hattempt : s.attempt later i step w with
      | mk w' result =>
        rw [hattempt] at h hkeep
        cases result with
        | some r => simp at h
        | none => rw [ih h, hkeep]

/-- Every step supports the content it meets exactly when it supports the original. -/
theorem supportsContent_visits {walked : List Step} {i : Nat} {w : Walk} {v : Visit}
    (h : v ∈ s.visits walked i w) :
    supportsContent s.cfg v.walk.body v.step = supportsContent s.cfg w.body v.step := by
  rw [supportsContent, supportsContent, s.hasImageContent_visits h]

end Session

/-- When `try_chain` ends with every step failed, the loop reached every step of the walked
chain, and each step that supports the content and was available when reached was forwarded
to, unless it was degraded at that moment while a later step was healthy. -/
theorem exhausted_tried_all {R : Type} (cfg : GatewayConfig) (profile : String)
    (chain : List Step) (inject : Option (List Message → List Message))
    (router : Option Router) (calls : Nat → Call R) (cb : CircuitBreaker) (body : Body)
    (message : String)
    (hexhausted : (tryChain cfg profile chain inject router calls cb body).2 =
      .exhausted message) :
    let s : Session R := ⟨cfg, profile, chain.length, calls⟩
    let request := injectMemory inject body
    let start := route router chain cb request
    let visits := s.visits start.1 0 (Walk.start start.2 request)
    visits.map Session.Visit.step = start.1 ∧
    ∀ v ∈ visits,
      let asked := v.walk.cb.isAvailable (calls v.index).askedAt (keyOf cfg profile v.step)
      supportsContent cfg request v.step = true → asked.1 = true →
      s.forwardAt v ∈ (tryChain cfg profile chain inject router calls cb body).1.forwarded ∨
      asked.2.statusOf (keyOf cfg profile v.step) = .degraded ∧
        ∃ alternative ∈ v.later, asked.2.statusOf (keyOf cfg profile alternative) = .healthy := by
  intro s request start visits
  refine ⟨s.visits_of_exhausted hexhausted, fun v hv ↦ ?_⟩
  intro asked hsupports havailable
  have hsupports' : supportsContent cfg v.walk.body v.step = true := by
    rw [← hsupports]
    exact s.supportsContent_visits hv
  rcases gate_of_supports v.later hsupports' havailable with hopen | hskipped
  · refine .inl ?_
    have hlog := s.walkChain_forwarded start.1 0 (Walk.start start.2 request)
    have hmem : v ∈ visits.filter (fun v ↦ s.gateAt v = .forward) :=
      List.mem_filter.mpr ⟨hv, decide_eq_true hopen⟩
    change s.forwardAt v ∈ (s.walkChain start.1 0 (Walk.start start.2 request)).1.forwarded
    rw [hlog]
    exact List.mem_append_right _ (List.mem_map_of_mem hmem)
  · exact .inr hskipped

/-- Two failing steps: the exhausted walk tried both. -/
theorem exhausted_tried_all_twoSteps :
    let cfg : GatewayConfig := ⟨Dict.empty, Dict.empty, Dict.empty, fun _ model ↦ model⟩
    let chain : List Step := [⟨"opencode", "deepseek-v4-flash", none⟩,
      ⟨"deepseek", "deepseek-v4-pro", none⟩]
    let calls : Nat → Call Unit := fun _ ↦ ⟨0, 1, fun _ ↦ none, .configError "no API key"⟩
    let s : Session Unit := ⟨cfg, "pi", chain.length, calls⟩
    let request : Body := injectMemory none ⟨none, some [], .absent, false⟩
    let start := route none chain (CircuitBreaker.new defaultCbConfig) request
    let visits := s.visits start.1 0 (Walk.start start.2 request)
    visits.map Session.Visit.step = start.1 ∧
    ∀ v ∈ visits,
      let asked := v.walk.cb.isAvailable (calls v.index).askedAt (keyOf cfg "pi" v.step)
      supportsContent cfg request v.step = true → asked.1 = true →
      s.forwardAt v ∈ (tryChain cfg "pi" chain none none calls
        (CircuitBreaker.new defaultCbConfig) ⟨none, some [], .absent, false⟩).1.forwarded ∨
      asked.2.statusOf (keyOf cfg "pi" v.step) = .degraded ∧
        ∃ alternative ∈ v.later, asked.2.statusOf (keyOf cfg "pi" alternative) = .healthy :=
  exhausted_tried_all _ "pi" _ none none _ _ _
    "All providers failed for pi: opencode: no API key; deepseek: no API key" (by decide)

/-- A degraded provider is skipped for a healthy one that then fails: the walk is exhausted
without ever trying the degraded probe. -/
theorem exhausted_skips_degraded_probe :
    ¬ ∀ (cfg : GatewayConfig) (chain : List Step) (calls : Nat → Call Unit)
        (cb : CircuitBreaker) (body : Body) (message : String),
      (tryChain cfg "pi" chain none none calls cb body).2 = .exhausted message →
      let s : Session Unit := ⟨cfg, "pi", chain.length, calls⟩
      ∀ v ∈ s.visits chain 0 (Walk.start cb body),
        supportsContent cfg body v.step = true →
        (v.walk.cb.isAvailable (calls v.index).askedAt (keyOf cfg "pi" v.step)).1 = true →
        v.index ∈ (tryChain cfg "pi" chain none none calls cb body).1.forwarded.map
          Forward.index := by
  intro hall
  have hskipped := hall ⟨Dict.empty, Dict.empty, Dict.empty, fun _ model ↦ model⟩
    [⟨"opencode", "deepseek-v4-flash", none⟩, ⟨"deepseek", "deepseek-v4-pro", none⟩]
    (fun _ ↦ ⟨0, 1, fun _ ↦ none, .failed .internal "HTTP 503"⟩)
    ⟨defaultCbConfig, Dict.empty.set ⟨"opencode", "", "pi"⟩
      { defaultHealth with status := .degraded, consecutiveFailures := 6 }, none⟩
    ⟨none, some [], .absent, false⟩
    ("All providers failed for pi: opencode: degraded (healthy alternative available); " ++
      "deepseek: HTTP 503")
    (by decide) _ List.mem_cons_self (by decide) (by decide)
  exact absurd hskipped (by decide)

end LcpGateway.Pipeline
