import LcpGateway.Pipeline.Forwarded
import LcpGateway.Router.ClientContext

/-!
# The near-limit pre-flight

Library `Pipeline`. Source `src/api/request_pipeline.py:829–861` and `src/api/router.py:975–987`.
The pre-flight counts a copy of the messages without client context; the walk forwards the
messages themselves, normalized and sanitized. It warns of every forward that is too large
exactly when the two counts leave no room for a window between them.
-/

namespace LcpGateway.Pipeline
open LcpGateway.Base LcpGateway.Breaker LcpGateway.Chat LcpGateway.Config LcpGateway.Router

/-- `body.get("tools")`. -/
def requestTools (body : Body) : List Tool := body.tools.toOption.getD []

/-- `_max_routable_context`; `router.py:975–987`. -/
def maxRoutableContext (cfg : GatewayConfig) (chain : List Step) : Int :=
  let windows := chain.map (fun step ↦
    cfg.contextWindowFor (cfg.registry.logicalModelName step.model))
  windows.max?.getD GatewayConfig.defaultContextWindow

/-- The near-limit warning; `request_pipeline.py:853–857`. -/
def contextWarning (tokens : Nat) (window : Int) (profile : String) : String :=
  s!"[lcp] request {tokens} tokens is at/near the {window}-token context limit for profile '{profile}'; history may be truncated and the model may forget earlier turns"

section PreFlight

variable (norm : MessageNorm) (tok : Tokenizer) (cfg : GatewayConfig)

/-- The size and the largest window the pre-flight warns of; `request_pipeline.py:840–846`. -/
def nearLimit (walked : List Step) (request : Body) : Option (Nat × Int) :=
  let tokens := requestTokenCount norm tok request.messageList (requestTools request)
  let window := maxRoutableContext cfg walked
  if 0 < tokens ∧ window < tokens + GatewayConfig.contextOutputReserve then some (tokens, window)
  else none

/-- What `try_chain` puts in its warning sink. -/
def warnings (profile : String) (chain : List Step)
    (inject : Option (List Message → List Message)) (router : Option Router)
    (cb : CircuitBreaker) (body : Body) : List String :=
  let request := injectMemory inject body
  let walked := (route router chain cb request).1
  ((nearLimit norm tok cfg walked request).map (fun near ↦
    contextWarning near.1 near.2 profile)).toList

end PreFlight

/-! ### What is sent -/

/-- The size of what a forward sends. -/
def Forward.tokenCount (tok : Tokenizer) (fwd : Forward) : Nat :=
  tok.countTokens fwd.body.messageList (requestTools fwd.body)

/-- The size of a request as every forward sends it. -/
def sentTokenCount (tok : Tokenizer) (request : Body) : Nat :=
  tok.countTokens (settledMessages request.messageList) (requestTools request)

/-- A forward keeps the content of a settled message. -/
theorem content_forwardedMessage (cfg : GatewayConfig) (before : List Attempt) (here : Attempt)
    (msg : Message) : (forwardedMessage cfg before here msg).content = msg.content := by
  have hreason : ∀ a msg, (reasonAt cfg a msg).content = msg.content := by
    intro a msg
    unfold reasonAt
    split
    · obtain ⟨r, hr⟩ := fillReasoning_eq a.stored msg
      rw [hr]
    · rfl
  have hreasons : ∀ msg, (reasons cfg before msg).content = msg.content := by
    induction before with
    | nil => intro msg; rfl
    | cons a rest ih =>
      intro msg
      rw [reasons, List.foldl_cons, ← reasons, ih, hreason]
  have hidle : msg.dropIdle.content = msg.content := by
    unfold Message.dropIdle
    split <;> rfl
  rw [forwardedMessage, hreason, hreasons]
  split
  · rfl
  · exact hidle

/-- Messages with the same contents and tools in another order have the same size. -/
theorem countTokens_congr (tok : Tokenizer) {messages : List Message} {f : Message → Message}
    (hcontent : ∀ msg ∈ messages, (f msg).content = msg.content) {tools tools' : List Tool}
    (htools : tools'.Perm tools) :
    tok.countTokens (messages.map f) tools' = tok.countTokens messages tools := by
  have hmessages : (messages.map f).map (fun msg ↦ 4 + tok.countContent msg.contentOr) =
      messages.map (fun msg ↦ 4 + tok.countContent msg.contentOr) := by
    rw [List.map_map]
    refine List.map_congr_left fun msg hmsg ↦ ?_
    simp only [Function.comp_apply, Message.contentOr, hcontent msg hmsg]
  rw [Tokenizer.countTokens, Tokenizer.countTokens, hmessages,
    (htools.map (fun tool ↦ tok.countText (tok.toolText tool))).sum_eq]

/-- Every forward of a walk has the size of the settled request. -/
theorem tokenCount_forwarded {R : Type} {cfg : GatewayConfig} {profile : String}
    {chain : List Step} {inject : Option (List Message → List Message)} {router : Option Router}
    {calls : Nat → Call R} {cb : CircuitBreaker} {body : Body} (tok : Tokenizer) {fwd : Forward}
    (hfwd : fwd ∈ (tryChain cfg profile chain inject router calls cb body).1.forwarded) :
    fwd.tokenCount tok = sentTokenCount tok (injectMemory inject body) := by
  obtain ⟨-, attempts, -, hbody⟩ := exists_attempts_of_forwarded hfwd
  have hmessages := messages_forwardedBody cfg attempts
    ⟨fwd.step, (calls fwd.index).stored⟩ (injectMemory inject body)
  have htools := tools_forwardedBody cfg attempts
    ⟨fwd.step, (calls fwd.index).stored⟩ (injectMemory inject body)
  rw [← hbody] at hmessages htools
  have hperm : (requestTools fwd.body).Perm (requestTools (injectMemory inject body)) := by
    rw [requestTools, requestTools, htools]
    cases (injectMemory inject body).tools with
    | absent | null => exact List.Perm.refl _
    | value tools =>
      cases tools with
      | nil => exact List.Perm.refl _
      | cons tool rest => exact List.perm_insertionSort _ _
  have hlist : fwd.body.messageList = (settledMessages (injectMemory inject body).messageList).map
      (forwardedMessage cfg attempts ⟨fwd.step, (calls fwd.index).stored⟩) := by
    rw [Body.messageList, Body.messageList, hmessages]
    cases (injectMemory inject body).messages <;> rfl
  rw [Forward.tokenCount, hlist, sentTokenCount]
  exact countTokens_congr tok (fun msg _ ↦ content_forwardedMessage cfg attempts _ msg) hperm

/-! ### Whether anything is sent -/

/-- Some step's gates are open when the steps in front of it were passed over. -/
def someGateOpen (cfg : GatewayConfig) (profile : String) (askedAt : Nat → Time) (body : Body) :
    List Step → Nat → CircuitBreaker → Bool
  | [], _, _ => false
  | step :: later, i, cb =>
    let (decision, cb) := gate cfg profile cb body later step (askedAt i)
    decision = .forward || someGateOpen cfg profile askedAt body later (i + 1) cb

/-- A step that is passed over leaves the breaker its gates leave. -/
theorem cb_attempt_of_closed {R : Type} (s : Session R) (later : List Step) (i : Nat)
    (step : Step) (w : Walk) (h : s.gateOf later i step w ≠ .forward) :
    (s.attempt later i step w).1.cb =
      (gate s.cfg s.profile w.cb w.body later step (s.calls i).askedAt).2 := by
  unfold Session.gateOf at h
  unfold Session.attempt
  cases hg : gate s.cfg s.profile w.cb w.body later step (s.calls i).askedAt with
  | mk g cb =>
    rw [hg] at h
    cases g with
    | forward => exact absurd rfl h
    | noVision | breakerOpen | degradedSkipped => rfl

/-- A walk forwards something exactly when some step's gates are open. -/
theorem walkChain_forwarded_ne_nil_iff {R : Type} (s : Session R) (walked : List Step) (i : Nat)
    (w : Walk) (hlog : w.forwarded = []) :
    (s.walkChain walked i w).1.forwarded ≠ [] ↔
      someGateOpen s.cfg s.profile (fun j ↦ (s.calls j).askedAt) w.body walked i w.cb := by
  induction walked generalizing i w with
  | nil => simp [Session.walkChain, someGateOpen, hlog]
  | cons step later ih =>
    by_cases hopen : s.gateOf later i step w = .forward
    · have hsome : someGateOpen s.cfg s.profile (fun j ↦ (s.calls j).askedAt) w.body
          (step :: later) i w.cb = true := by
        unfold Session.gateOf at hopen
        simp [someGateOpen, hopen]
      simp [hsome, s.walkChain_forwarded, Session.visits, Session.gateAt, hopen]
    · obtain ⟨hend, hbody, hforwarded⟩ := s.attempt_of_closed later i step w hopen
      have hcb := cb_attempt_of_closed s later i step w hopen
      have hrest := ih (i + 1) (s.attempt later i step w).1 (hforwarded.trans hlog)
      have hwalk : s.walkChain (step :: later) i w =
          s.walkChain later (i + 1) (s.attempt later i step w).1 := by
        rw [Session.walkChain]
        split
        · next heq => simp [heq] at hend
        · next heq => rw [heq]
      unfold Session.gateOf at hopen
      rw [hwalk, hrest, hbody, hcb]
      simp [someGateOpen, hopen]

/-! ### When the warning is enough -/

/-- Whenever a forward and the output reserve exceed the largest window of the walked chain, a
warning is in the sink. -/
def WarnsOfOverflow {R : Type} (norm : MessageNorm) (tok : Tokenizer) (cfg : GatewayConfig)
    (profile : String) (chain : List Step) (inject : Option (List Message → List Message))
    (router : Option Router) (calls : Nat → Call R) (cb : CircuitBreaker) (body : Body) : Prop :=
  ∀ fwd ∈ (tryChain cfg profile chain inject router calls cb body).1.forwarded,
    maxRoutableContext cfg (route router chain cb (injectMemory inject body)).1 <
        fwd.tokenCount tok + GatewayConfig.contextOutputReserve →
      warnings norm tok cfg profile chain inject router cb body ≠ []

/-- The window is large enough for the size that is counted, or that size is zero, and too small
for the size that is sent. -/
def InGap (counted sent : Nat) (window : Int) : Prop :=
  (counted = 0 ∨ counted + GatewayConfig.contextOutputReserve ≤ window) ∧
    window < sent + GatewayConfig.contextOutputReserve

/-- The sink stays empty exactly when nothing is counted or the window holds what is. -/
theorem warnings_eq_nil_iff (norm : MessageNorm) (tok : Tokenizer) (cfg : GatewayConfig)
    (profile : String) (chain : List Step) (inject : Option (List Message → List Message))
    (router : Option Router) (cb : CircuitBreaker) (body : Body) :
    let request := injectMemory inject body
    let counted := requestTokenCount norm tok request.messageList (requestTools request)
    warnings norm tok cfg profile chain inject router cb body = [] ↔
      counted = 0 ∨ counted + GatewayConfig.contextOutputReserve ≤
        maxRoutableContext cfg (route router chain cb request).1 := by
  intro request counted
  have hnear : warnings norm tok cfg profile chain inject router cb body = [] ↔
      ¬ (0 < counted ∧ maxRoutableContext cfg (route router chain cb request).1 <
        counted + GatewayConfig.contextOutputReserve) := by
    unfold warnings nearLimit
    dsimp only
    split
    · next h => simpa using h
    · next h => simpa using h
  rw [hnear]
  omega

/-- The warnings of one run are enough exactly when nothing is sent or the largest window is
outside the gap between the two counts. -/
theorem warnsOfOverflow_iff {R : Type} (norm : MessageNorm) (tok : Tokenizer)
    (cfg : GatewayConfig) (profile : String) (chain : List Step)
    (inject : Option (List Message → List Message)) (router : Option Router)
    (calls : Nat → Call R) (cb : CircuitBreaker) (body : Body) :
    let request := injectMemory inject body
    let routed := route router chain cb request
    WarnsOfOverflow norm tok cfg profile chain inject router calls cb body ↔
      ¬ (someGateOpen cfg profile (fun i ↦ (calls i).askedAt) request routed.1 0 routed.2 ∧
        InGap (requestTokenCount norm tok request.messageList (requestTools request))
          (sentTokenCount tok request) (maxRoutableContext cfg routed.1)) := by
  intro request routed
  have hsent := walkChain_forwarded_ne_nil_iff ⟨cfg, profile, chain.length, calls⟩ routed.1 0
    (Walk.start routed.2 request) rfl
  have hnil := warnings_eq_nil_iff norm tok cfg profile chain inject router cb body
  constructor
  · rintro hwarns ⟨hopen, hquiet, hover⟩
    obtain ⟨fwd, hfwd⟩ := List.exists_mem_of_ne_nil _ (hsent.mpr hopen)
    refine hwarns fwd hfwd ?_ (hnil.mpr hquiet)
    rwa [tokenCount_forwarded tok hfwd]
  · intro hgap fwd hfwd hover hempty
    refine hgap ⟨hsent.mp (List.ne_nil_of_mem hfwd), hnil.mp hempty, ?_⟩
    rwa [tokenCount_forwarded tok hfwd] at hover

/-! ### Every chain -/

/-- A configuration of one model that takes images, with a given context window. -/
def windowConfig (window : Int) : GatewayConfig :=
  ⟨Dict.empty, Dict.empty.set "qwen3.6-27b"
    [("context_window", .int window), ("supports_vision", .bool true)], Dict.empty,
    fun _ model ↦ model⟩

/-- A chain of that model. -/
def windowChain : List Step := [⟨"llamacpp", "qwen3.6-27b", none⟩]

/-- The largest window of the chain is the given one. -/
theorem maxRoutableContext_window {window : Int} (hwindow : window ≠ 0) :
    maxRoutableContext (windowConfig window) windowChain = window := by
  have hlogical : (windowConfig window).registry.logicalModelName "qwen3.6-27b" =
      "qwen3.6-27b" := rfl
  have hlimits : (windowConfig window).getModelLimits "qwen3.6-27b" =
      some [("context_window", .int window), ("supports_vision", .bool true)] := rfl
  have hcontext : GatewayConfig.contextOf
      (some [("context_window", .int window), ("supports_vision", .bool true)]) = some window := by
    simp [GatewayConfig.contextOf, GatewayConfig.coerceContext, hwindow]
  simp [maxRoutableContext, windowChain, hlogical, GatewayConfig.contextWindowFor, hlimits,
    hcontext]

/-- A fresh breaker lets the model's step through, whatever the request holds. -/
theorem someGateOpen_window (window : Int) (body : Body) :
    someGateOpen (windowConfig window) "pi" (fun _ ↦ 0) body windowChain 0
      (CircuitBreaker.new defaultCbConfig) = true := by
  have hvision : supportsContent (windowConfig window) body
      ⟨"llamacpp", "qwen3.6-27b", none⟩ = true := by
    have hsupports : (windowConfig window).supportsVision "qwen3.6-27b" = true := rfl
    simp [supportsContent, hsupports]
  have hgate : (gate (windowConfig window) "pi" (CircuitBreaker.new defaultCbConfig) body []
      ⟨"llamacpp", "qwen3.6-27b", none⟩ 0).1 = .forward := by
    rw [gate, hvision]
    rfl
  simp [windowChain, someGateOpen, hgate]

/-- The pre-flight warns of a run whenever something too large is sent, exactly when the run
sends nothing or its largest window is outside the gap between the two counts; and it does so
for a request on every chain, configuration and breaker exactly when the size it counts is
positive and at least the size that is sent. -/
theorem preFlight_warns_iff (t : CharTable)
    (extractIntentText : List Message → String × IntentMeta) (tok : Tokenizer)
    (inject : Option (List Message → List Message)) (body : Body) :
    let norm := messageNorm t extractIntentText
    let request := injectMemory inject body
    let counted := requestTokenCount norm tok request.messageList (requestTools request)
    (∀ (R : Type) (cfg : GatewayConfig) (profile : String) (chain : List Step)
        (router : Option Router) (calls : Nat → Call R) (cb : CircuitBreaker),
      let routed := route router chain cb request
      WarnsOfOverflow norm tok cfg profile chain inject router calls cb body ↔
        ¬ (someGateOpen cfg profile (fun i ↦ (calls i).askedAt) request routed.1 0 routed.2 ∧
          InGap counted (sentTokenCount tok request) (maxRoutableContext cfg routed.1))) ∧
    ((∀ (R : Type) (cfg : GatewayConfig) (profile : String) (chain : List Step)
        (router : Option Router) (calls : Nat → Call R) (cb : CircuitBreaker),
      WarnsOfOverflow norm tok cfg profile chain inject router calls cb body) ↔
        0 < counted ∧ sentTokenCount tok request ≤ counted) := by
  intro norm request counted
  refine ⟨fun R cfg profile chain router calls cb ↦
    warnsOfOverflow_iff norm tok cfg profile chain inject router calls cb body, ?_, ?_⟩
  · intro hall
    by_contra hless
    -- the window that the counted size just fits in, or the smallest one when nothing is counted
    have hgap : ∃ window : Int, window ≠ 0 ∧
        InGap counted (sentTokenCount tok request) window := by
      unfold InGap GatewayConfig.contextOutputReserve
      by_cases hzero : counted = 0
      · exact ⟨1, by omega, .inl hzero, by omega⟩
      · exact ⟨counted + 8192, by omega, .inr (Int.le_refl _), by omega⟩
    obtain ⟨window, hwindow, hgap⟩ := hgap
    let calls : Nat → Call Unit := fun _ ↦ ⟨0, 1, fun _ ↦ none, .configError ""⟩
    have hwarns := (warnsOfOverflow_iff norm tok (windowConfig window) "pi" windowChain inject none
      calls (CircuitBreaker.new defaultCbConfig) body).mp
        (hall Unit _ _ _ none calls (CircuitBreaker.new defaultCbConfig))
    refine hwarns ⟨someGateOpen_window window request, ?_⟩
    have hmax := maxRoutableContext_window hwindow
    rw [← hmax] at hgap
    exact hgap
  · rintro ⟨hpos, hle⟩ R cfg profile chain router calls cb
    refine (warnsOfOverflow_iff norm tok cfg profile chain inject router calls cb body).mpr ?_
    rintro ⟨-, hquiet, hover⟩
    have hfits : (counted : Int) + GatewayConfig.contextOutputReserve ≤
        maxRoutableContext cfg (route router chain cb request).1 :=
      hquiet.resolve_left (Nat.ne_of_gt hpos)
    have hover' : maxRoutableContext cfg (route router chain cb request).1 <
        sentTokenCount tok request + GatewayConfig.contextOutputReserve := hover
    omega

/-- The character classes of ASCII. -/
def asciiTable : CharTable := ⟨fun c ↦ c.isAlphanum || c = '_', Char.isDigit⟩

/-- A tokenizer at its fallback, four characters a token; `cost_estimator.py:44–45`. -/
def fallbackTokenizer : Tokenizer := ⟨fun text ↦ max (text.length / 4) 1, fun _ ↦ ""⟩

/-- A conversation in which a tool has returned a page of markup. -/
def pageRequest : Body where
  model := none
  messages := some
    [⟨.value "user", some (.str "hi"), .absent, .absent, .absent, .absent⟩,
      ⟨.value "assistant", none,
        .value [⟨.value "call_1", .absent, .null, .obj [("id", .str "call_1")]⟩], .absent, .absent,
        .absent⟩,
      ⟨.value "tool", some (.str "<html></html>"), .absent, .value "call_1", .absent, .absent⟩]
  tools := .absent
  stream := false

/-- The page is forwarded but not counted: a request over the largest window goes out without
a warning. -/
theorem preFlight_misses_toolOutput :
    ¬ ∀ (t : CharTable) (extractIntentText : List Message → String × IntentMeta)
        (tok : Tokenizer) (cfg : GatewayConfig) (profile : String) (chain : List Step)
        (inject : Option (List Message → List Message)) (router : Option Router)
        (calls : Nat → Call Unit) (cb : CircuitBreaker) (body : Body),
      WarnsOfOverflow (messageNorm t extractIntentText) tok cfg profile chain inject router calls
        cb body := by
  intro hall
  let calls : Nat → Call Unit := fun _ ↦ ⟨0, 1, fun _ ↦ none, .response () 200⟩
  have hwarns := hall asciiTable (fun _ ↦ ("", ⟨"", 0, 0, 0, 0, false⟩)) fallbackTokenizer
    (windowConfig 8201) "pi" windowChain none none calls (CircuitBreaker.new defaultCbConfig)
    pageRequest
  have hcounted : requestTokenCount (messageNorm asciiTable
      (fun _ ↦ ("", ⟨"", 0, 0, 0, 0, false⟩))) fallbackTokenizer pageRequest.messageList
      (requestTools pageRequest) = 9 := by decide +kernel
  have hsent : sentTokenCount fallbackTokenizer pageRequest = 16 := by decide +kernel
  have hmax := maxRoutableContext_window (show (8201 : Int) ≠ 0 by decide)
  refine (warnsOfOverflow_iff _ fallbackTokenizer (windowConfig 8201) "pi" windowChain none none
    calls (CircuitBreaker.new defaultCbConfig) pageRequest).mp hwarns
      ⟨someGateOpen_window 8201 pageRequest, ?_⟩
  change InGap (requestTokenCount _ _ pageRequest.messageList (requestTools pageRequest))
    (sentTokenCount _ pageRequest) (maxRoutableContext (windowConfig 8201) windowChain)
  rw [hcounted, hsent, hmax]
  exact ⟨.inr (by decide), by decide⟩

end LcpGateway.Pipeline
