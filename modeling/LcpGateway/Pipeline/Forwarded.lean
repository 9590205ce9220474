import LcpGateway.Pipeline.Gating

/-!
# What a forward depends on

Library `Pipeline`. `try_chain` rewrites one mutable body at every forwarded step
(`src/api/request_pipeline.py:912–949`). Normalization and sanitization settle after the
first forward, so the body a step receives is a function of the original request and of the
steps attempted before it; it is independent of them exactly when sanitization emptied no
tool turn and no earlier thinking step adds reasoning that the step itself would not.
-/

namespace LcpGateway.Pipeline
open LcpGateway.Base LcpGateway.Breaker LcpGateway.Chat LcpGateway.Config

/-- A step whose request was forwarded, with the reasoning store it met. -/
structure Attempt where
  step : Step
  stored : String → Option String

/-- The rewrite one attempt makes to the shared body. -/
def rewrite (cfg : GatewayConfig) (body : Body) (a : Attempt) : Body :=
  prepareBody cfg a.step a.stored body

/-- The body forwarded at `here` after the attempts `before`. -/
def forwardedBody (cfg : GatewayConfig) (before : List Attempt) (here : Attempt) (body : Body) :
    Body :=
  rewrite cfg (before.foldl (rewrite cfg) body) here

/-- The steps a walk may attempt among `earlier`, which starts at position `i`. -/
def attemptable (cfg : GatewayConfig) (stored : Nat → String → Option String) (request : Body)
    (earlier : List Step) (i : Nat) : List Attempt :=
  ((earlier.zipIdx i).filter (fun p ↦ supportsContent cfg request p.1)).map
    (fun p ↦ ⟨p.1, stored p.2⟩)

/-! ### Re-entering the rewrites -/

/-- The reasoning pass of an attempt, on one message. -/
def reasonAt (cfg : GatewayConfig) (a : Attempt) (msg : Message) : Message :=
  if cfg.supportsThinking a.step.model then fillReasoning a.stored msg else msg

/-- The messages the first forward starts its reasoning pass from. -/
def settledMessages (messages : List Message) : List Message :=
  sanitizeMessages (normalizeMessagesForCache messages)

/-- Settled messages that declare what they answer. -/
structure Steady (messages : List Message) : Prop where
  settled : ∀ msg ∈ messages, msg.Settled
  matched : Matched messages

/-- One preparation is the settling followed by the reasoning pass. -/
theorem prepareMessages_eq (cfg : GatewayConfig) (a : Attempt) (messages : List Message) :
    prepareMessages cfg a.step.model a.stored messages =
      (settledMessages messages).map (reasonAt cfg a) := by
  rw [prepareMessages, ensureThinkingReasoningContent_eq, settledMessages]
  unfold reasonAt
  split <;> simp

/-- The first settling leaves steady messages. -/
theorem steady_settledMessages (messages : List Message) : Steady (settledMessages messages) where
  settled := settled_sanitizeMessages fun msg hmsg ↦ by
    obtain ⟨m, -, rfl⟩ := List.mem_map.mp hmsg
    exact settled_normalizeMessage m
  matched := matched_sanitizeMessages _

/-- Settling steady messages only drops idle tool calls. -/
theorem Steady.settledMessages_eq {messages : List Message} (h : Steady messages) :
    settledMessages messages = messages.map Message.dropIdle := by
  have hnormal : normalizeMessagesForCache messages = messages.map Message.dropIdle :=
    List.map_congr_left fun msg hmsg ↦ h.settled msg hmsg
  rw [settledMessages, hnormal, sanitizeMessages_of_matched (matched_map_dropIdle h.matched)]

/-- Dropping idle tool calls twice drops them once. -/
@[simp] theorem dropIdle_dropIdle (msg : Message) : msg.dropIdle.dropIdle = msg.dropIdle := by
  unfold Message.dropIdle
  split
  · simp
  · rfl

/-- A settled message stays settled without its idle tool calls. -/
theorem settled_dropIdle {msg : Message} (h : msg.Settled) : msg.dropIdle.Settled := by
  have hnormal : normalizeMessage msg = msg.dropIdle := h
  rw [← hnormal]
  exact settled_normalizeMessage msg

/-- The reasoning pass and the dropping of idle tool calls do not interfere. -/
theorem dropIdle_reasonAt (cfg : GatewayConfig) (a : Attempt) (msg : Message) :
    (reasonAt cfg a msg).dropIdle = reasonAt cfg a msg.dropIdle := by
  unfold reasonAt
  split
  · exact dropIdle_fillReasoning a.stored msg
  · rfl

/-- Steady messages stay steady without their idle tool calls. -/
theorem Steady.dropIdle {messages : List Message} (h : Steady messages) :
    Steady (messages.map Message.dropIdle) where
  settled := fun msg hmsg ↦ by
    obtain ⟨m, hm, rfl⟩ := List.mem_map.mp hmsg
    exact settled_dropIdle (h.settled m hm)
  matched := matched_map_dropIdle h.matched

/-- Steady messages stay steady under a reasoning pass. -/
theorem Steady.reasonAt {messages : List Message} (h : Steady messages) (cfg : GatewayConfig)
    (a : Attempt) : Steady (messages.map (Pipeline.reasonAt cfg a)) := by
  by_cases hthinking : cfg.supportsThinking a.step.model
  · have hfill : messages.map (Pipeline.reasonAt cfg a) =
        messages.map (fillReasoning a.stored) :=
      List.map_congr_left fun msg _ ↦ by rw [Pipeline.reasonAt, if_pos hthinking]
    rw [hfill]
    exact {
      settled := fun msg hmsg ↦ by
        obtain ⟨m, hm, rfl⟩ := List.mem_map.mp hmsg
        exact (h.settled m hm).fillReasoning a.stored
      matched := matched_map_fillReasoning a.stored h.matched }
  · have hid : messages.map (Pipeline.reasonAt cfg a) = messages := by
      conv_rhs => rw [← List.map_id messages]
      exact List.map_congr_left fun msg _ ↦ by rw [Pipeline.reasonAt, if_neg hthinking]; rfl
    rwa [hid]

/-- The reasoning passes of a list of attempts, in order. -/
def reasons (cfg : GatewayConfig) (attempts : List Attempt) (msg : Message) : Message :=
  attempts.foldl (fun m a ↦ reasonAt cfg a m) msg

/-- Run lemma: from steady messages, any attempts up to and including `here` drop the idle
tool calls once and run the reasoning passes in order. -/
theorem Steady.foldl_prepareMessages {messages : List Message} (h : Steady messages)
    (cfg : GatewayConfig) (rest : List Attempt) (here : Attempt) :
    (rest ++ [here]).foldl (fun ms a ↦ prepareMessages cfg a.step.model a.stored ms) messages =
      messages.map (fun msg ↦ Pipeline.reasonAt cfg here (reasons cfg rest msg.dropIdle)) := by
  induction rest generalizing messages with
  | nil =>
    rw [List.nil_append, List.foldl_cons, List.foldl_nil, prepareMessages_eq,
      h.settledMessages_eq, List.map_map]
    rfl
  | cons b rest ih =>
    rw [List.cons_append, List.foldl_cons, prepareMessages_eq, h.settledMessages_eq,
      ih (h.dropIdle.reasonAt cfg b), List.map_map, List.map_map]
    refine List.map_congr_left fun msg _ ↦ ?_
    simp only [Function.comp_apply, dropIdle_reasonAt, dropIdle_dropIdle]
    rfl

/-- Folding the rewrite over attempts folds the preparation of the messages. -/
theorem messages_foldl_rewrite (cfg : GatewayConfig) (attempts : List Attempt) (body : Body) :
    (attempts.foldl (rewrite cfg) body).messages = body.messages.map (fun messages ↦
      attempts.foldl (fun ms a ↦ prepareMessages cfg a.step.model a.stored ms) messages) := by
  induction attempts generalizing body with
  | nil => simp
  | cons a rest ih =>
    rw [List.foldl_cons, ih, rewrite, prepareBody, Option.map_map]
    rfl

/-- The message a forward at `here` makes of a settled message, after the attempts `before`. -/
def forwardedMessage (cfg : GatewayConfig) (before : List Attempt) (here : Attempt)
    (msg : Message) : Message :=
  reasonAt cfg here (reasons cfg before (if before.isEmpty then msg else msg.dropIdle))

/-- The forwarded messages, after any attempts. -/
theorem messages_forwardedBody (cfg : GatewayConfig) (before : List Attempt) (here : Attempt)
    (body : Body) :
    (forwardedBody cfg before here body).messages = body.messages.map (fun messages ↦
      (settledMessages messages).map (forwardedMessage cfg before here)) := by
  have hfold : forwardedBody cfg before here body =
      (before ++ [here]).foldl (rewrite cfg) body := by
    rw [List.foldl_append]
    rfl
  rw [hfold, messages_foldl_rewrite]
  cases body.messages with
  | none => rfl
  | some messages =>
    simp only [Option.map_some, Option.some.injEq]
    have hsteady := steady_settledMessages messages
    cases before with
    | nil =>
      rw [List.nil_append, List.foldl_cons, List.foldl_nil, prepareMessages_eq]
      rfl
    | cons a rest =>
      rw [List.cons_append, List.foldl_cons, prepareMessages_eq,
        (hsteady.reasonAt cfg a).foldl_prepareMessages, List.map_map]
      refine List.map_congr_left fun msg _ ↦ ?_
      simp only [Function.comp_apply, dropIdle_reasonAt]
      rfl

/-- The forwarded tools do not depend on the attempts. -/
theorem tools_forwardedBody (cfg : GatewayConfig) (before : List Attempt) (here : Attempt)
    (body : Body) : (forwardedBody cfg before here body).tools = prepareTools body.tools := by
  have hidem : ∀ tools, prepareTools (prepareTools tools) = prepareTools tools := by
    intro tools
    cases tools with
    | absent | null => rfl
    | value ts =>
      cases ts with
      | nil => rfl
      | cons t rest =>
        have hsorted := normalizeToolsForCache_idem (t :: rest)
        cases hts : normalizeToolsForCache (t :: rest) with
        | nil => simp [prepareTools, hts]
        | cons t' rest' =>
          rw [hts] at hsorted
          simp [prepareTools, hts, hsorted]
  have hfold : (before.foldl (rewrite cfg) body).tools = body.tools ∨
      (before.foldl (rewrite cfg) body).tools = prepareTools body.tools := by
    induction before generalizing body with
    | nil => exact .inl rfl
    | cons a rest ih =>
      rw [List.foldl_cons]
      have hhead : (rewrite cfg body a).tools = prepareTools body.tools := rfl
      rcases ih (rewrite cfg body a) with h | h
      · exact .inr (h.trans hhead)
      · exact .inr (by rw [h, hhead, hidem])
  change prepareTools (before.foldl (rewrite cfg) body).tools = _
  rcases hfold with h | h
  · rw [h]
  · rw [h, hidem]

/-! ### When the attempts do not matter -/

/-- Sanitization emptied no tool turn, and each thinking step in front would reason about
every message as `here` does. -/
def HistoryNeutral (cfg : GatewayConfig) (before : List Attempt) (here : Attempt)
    (body : Body) : Prop :=
  before = [] ∨ ∀ messages, body.messages = some messages →
    ∀ msg ∈ settledMessages messages,
      (msg.calls.isEmpty → msg.toolCalls.present = false) ∧
      ∀ a ∈ before, cfg.supportsThinking a.step.model →
        fillReasoning a.stored msg = reasonAt cfg here msg

/-- A message keeps its `tool_calls` key exactly when that key is not idle. -/
theorem dropIdle_eq_self_iff (msg : Message) :
    msg.dropIdle = msg ↔ (msg.calls.isEmpty → msg.toolCalls.present = false) := by
  obtain ⟨role, content, toolCalls, toolCallId, reasoningContent, name⟩ := msg
  cases toolCalls with
  | absent => simp [Message.dropIdle, DictField.present]
  | null => simp [Message.dropIdle, Message.calls, DictField.toOption, DictField.present]
  | value calls =>
    cases calls <;> simp [Message.dropIdle, Message.calls, DictField.toOption, DictField.present]

/-- A reasoning pass keeps the tool calls. -/
theorem toolCalls_reasonAt (cfg : GatewayConfig) (a : Attempt) (msg : Message) :
    (reasonAt cfg a msg).toolCalls = msg.toolCalls := by
  unfold reasonAt
  split
  · obtain ⟨r, hr⟩ := fillReasoning_eq a.stored msg
    rw [hr]
  · rfl

/-- A filled message passes through any later reasoning pass. -/
theorem reasonAt_fillReasoning (cfg : GatewayConfig) (a : Attempt)
    (stored : String → Option String) (msg : Message) :
    reasonAt cfg a (fillReasoning stored msg) = fillReasoning stored msg := by
  unfold reasonAt
  split
  · exact fillReasoning_fillReasoning stored a.stored msg
  · rfl

/-- Attempts that reason as `here` does leave its forward alone. -/
theorem reasonAt_reasons {cfg : GatewayConfig} {here : Attempt} {msg : Message}
    {before : List Attempt} (h : ∀ a ∈ before, cfg.supportsThinking a.step.model →
      fillReasoning a.stored msg = reasonAt cfg here msg) :
    reasonAt cfg here (reasons cfg before msg) = reasonAt cfg here msg := by
  induction before with
  | nil => rfl
  | cons a rest ih =>
    have hrest := ih fun b hb ↦ h b (List.mem_cons_of_mem a hb)
    rw [reasons, List.foldl_cons, ← reasons]
    by_cases hthinking : cfg.supportsThinking a.step.model
    · have hfill := h a List.mem_cons_self hthinking
      -- the first thinking attempt decides: every later pass finds the reasoning in place
      have hstay : ∀ attempts, reasons cfg attempts (fillReasoning a.stored msg) =
          fillReasoning a.stored msg := by
        intro attempts
        induction attempts with
        | nil => rfl
        | cons b more ihmore =>
          rw [reasons, List.foldl_cons, reasonAt_fillReasoning, ← reasons, ihmore]
      have hhead : reasonAt cfg a msg = fillReasoning a.stored msg := if_pos hthinking
      rw [hhead, hstay, reasonAt_fillReasoning, hfill]
    · have hhead : reasonAt cfg a msg = msg := if_neg hthinking
      rw [hhead, hrest]

/-- The forward of a message is the same after any of the attempts exactly when the message
is neutral. -/
theorem forwardedMessage_eq_iff {cfg : GatewayConfig} {before : List Attempt} {here : Attempt}
    {msg : Message} (hbefore : before ≠ []) :
    (∀ attempts, attempts.Sublist before →
      forwardedMessage cfg attempts here msg = reasonAt cfg here msg) ↔
    msg.dropIdle = msg ∧ ∀ a ∈ before, cfg.supportsThinking a.step.model →
      fillReasoning a.stored msg = reasonAt cfg here msg := by
  constructor
  · intro hall
    have hone : ∀ a ∈ before, reasonAt cfg here (reasonAt cfg a msg.dropIdle) =
        reasonAt cfg here msg := fun a ha ↦ hall [a] (List.singleton_sublist.mpr ha)
    have hidle : msg.dropIdle = msg := by
      obtain ⟨a, ha⟩ := List.exists_mem_of_ne_nil before hbefore
      have hcalls := congrArg Message.toolCalls (hone a ha)
      simp only [toolCalls_reasonAt] at hcalls
      unfold Message.dropIdle at hcalls ⊢
      split
      · next hempty =>
        rw [if_pos hempty] at hcalls
        obtain ⟨role, content, toolCalls, toolCallId, reasoningContent, name⟩ := msg
        obtain rfl : DictField.absent = toolCalls := hcalls
        rfl
      · rfl
    refine ⟨hidle, fun a ha hthinking ↦ ?_⟩
    have heq := hone a ha
    have hhead : reasonAt cfg a msg = fillReasoning a.stored msg := if_pos hthinking
    rwa [hidle, hhead, reasonAt_fillReasoning] at heq
  · rintro ⟨hidle, hreason⟩ attempts hsub
    have hkeep : (if attempts.isEmpty then msg else msg.dropIdle) = msg := by
      rw [hidle, ite_self]
    rw [forwardedMessage, hkeep]
    exact reasonAt_reasons fun a ha ↦ hreason a (hsub.subset ha)

/-- The forward after any two sets of attempts is the same exactly on a neutral history. -/
theorem forwardedBody_independent_iff (cfg : GatewayConfig) (before : List Attempt)
    (here : Attempt) (body : Body) :
    (∀ attempts attempts', attempts.Sublist before → attempts'.Sublist before →
      (forwardedBody cfg attempts here body).messages =
          (forwardedBody cfg attempts' here body).messages ∧
        (forwardedBody cfg attempts here body).tools =
          (forwardedBody cfg attempts' here body).tools ∧
        (forwardedBody cfg attempts here body).model =
          (forwardedBody cfg attempts' here body).model) ↔
    HistoryNeutral cfg before here body := by
  by_cases hbefore : before = []
  · simp only [HistoryNeutral, hbefore, true_or, iff_true, List.sublist_nil]
    rintro attempts attempts' rfl rfl
    exact ⟨rfl, rfl, rfl⟩
  · have hmodel : ∀ attempts, (forwardedBody cfg attempts here body).model =
        some (cfg.apiModel here.step.provider here.step.model) := fun _ ↦ rfl
    simp only [tools_forwardedBody, hmodel, and_self, and_true, HistoryNeutral, hbefore,
      false_or, messages_forwardedBody]
    cases body.messages with
    | none => simp
    | some messages =>
      simp only [Option.map_some, Option.some.injEq, forall_eq', List.map_inj_left]
      constructor
      · intro hall msg hmsg
        rw [← dropIdle_eq_self_iff, ← forwardedMessage_eq_iff hbefore]
        exact fun attempts hsub ↦ hall attempts [] hsub (List.nil_sublist before) msg hmsg
      · intro hneutral attempts attempts' hsub hsub' msg hmsg
        have hmsg' := hneutral msg hmsg
        rw [← dropIdle_eq_self_iff, ← forwardedMessage_eq_iff hbefore] at hmsg'
        rw [hmsg' attempts hsub, hmsg' attempts' hsub']

/-! ### The forwards of a run -/

/-- Run lemma: the body a visited step meets is the request rewritten by some of the steps in
front of it that support its content. -/
theorem body_of_mem_visits {R : Type} (s : Session R) (request : Body)
    {walked : List Step} {i : Nat} {w : Walk} {v : Session.Visit}
    (hcontent : hasImageContent w.body.messageList = hasImageContent request.messageList)
    (hv : v ∈ s.visits walked i w) :
    ∃ (earlier : List Step) (attempts : List Attempt),
      walked = earlier ++ v.step :: v.later ∧ v.index = i + earlier.length ∧
      attempts.Sublist
        (attemptable s.cfg (fun j ↦ (s.calls j).stored) request earlier i) ∧
      v.walk.body = attempts.foldl (rewrite s.cfg) w.body := by
  induction walked generalizing i w with
  | nil => simp [Session.visits] at hv
  | cons step later ih =>
    have hbody := s.attempt_body later i step w
    have hkeep := s.hasImageContent_attempt later i step w
    simp only [Session.visits, List.mem_cons] at hv
    rcases hv with rfl | hv
    · exact ⟨[], [], rfl, rfl, List.nil_sublist _, rfl⟩
    · cases hattempt : s.attempt later i step w with
      | mk w' result =>
        rw [hattempt] at hv hbody hkeep
        cases result with
        | some r => simp at hv
        | none =>
          obtain ⟨earlier, attempts, hsplit, hindex, hsub, hfold⟩ :=
            ih (hkeep.trans hcontent) hv
          have hsplit' : step :: later = (step :: earlier) ++ v.step :: v.later := by
            rw [hsplit, List.cons_append]
          have hindex' : v.index = i + (step :: earlier).length := by
            rw [hindex, List.length_cons]
            omega
          by_cases hopen : s.gateOf later i step w = .forward
          · refine ⟨step :: earlier, ⟨step, (s.calls i).stored⟩ :: attempts, hsplit', hindex',
              ?_, ?_⟩
            · have hsupports : supportsContent s.cfg request step = true := by
                have hopen' := hopen
                simp only [Session.gateOf, gate] at hopen'
                cases hs : supportsContent s.cfg w.body step with
                | false => simp [hs] at hopen'
                | true => rw [← hs, supportsContent, supportsContent, hcontent]
              have hhead : attemptable s.cfg (fun j ↦ (s.calls j).stored) request
                  (step :: earlier) i = ⟨step, (s.calls i).stored⟩ ::
                    attemptable s.cfg (fun j ↦ (s.calls j).stored) request earlier (i + 1) := by
                simp [attemptable, List.zipIdx_cons, hsupports]
              rw [hhead]
              exact hsub.cons_cons _
            · rw [hfold, List.foldl_cons]
              dsimp only at hbody
              rw [hbody, if_pos hopen]
              rfl
          · refine ⟨step :: earlier, attempts, hsplit', hindex', ?_, ?_⟩
            · refine hsub.trans ?_
              unfold attemptable
              rw [List.zipIdx_cons, List.filter_cons]
              split
              · exact List.sublist_cons_self _ _
              · exact List.Sublist.refl _
            · dsimp only at hbody
              rw [hfold, hbody, if_neg hopen]

/-- What `try_chain` forwards to a step is the request rewritten by some attempts in front of
it. -/
theorem exists_attempts_of_forwarded {R : Type} {cfg : GatewayConfig} {profile : String}
    {chain : List Step} {inject : Option (List Message → List Message)} {router : Option Router}
    {calls : Nat → Call R} {cb : CircuitBreaker} {body : Body} {fwd : Forward}
    (hfwd : fwd ∈ (tryChain cfg profile chain inject router calls cb body).1.forwarded) :
    let request := injectMemory inject body
    let walked := (route router chain cb request).1
    let stored := fun i ↦ (calls i).stored
    walked[fwd.index]? = some fwd.step ∧
      ∃ attempts, attempts.Sublist
          (attemptable cfg stored request (walked.take fwd.index) 0) ∧
        fwd.body = forwardedBody cfg attempts ⟨fwd.step, stored fwd.index⟩ request := by
  intro request walked stored
  let s : Session R := ⟨cfg, profile, chain.length, calls⟩
  let start := Walk.start (route router chain cb request).2 request
  have hlog := s.walkChain_forwarded walked 0 start
  change fwd ∈ (s.walkChain walked 0 start).1.forwarded at hfwd
  rw [hlog] at hfwd
  have hnil : start.forwarded = [] := rfl
  rw [hnil, List.nil_append] at hfwd
  obtain ⟨v, hv, rfl⟩ := List.mem_map.mp hfwd
  obtain ⟨earlier, attempts, hsplit, hindex, hsub, hfold⟩ :=
    body_of_mem_visits s request rfl (List.mem_filter.mp hv).1
  have hlength : v.index = earlier.length := by omega
  have htake : walked.take v.index = earlier := by rw [hsplit, hlength, List.take_left]
  refine ⟨?_, attempts, ?_, ?_⟩
  · change walked[v.index]? = some v.step
    rw [hsplit, hlength, List.getElem?_append_right (Nat.le_refl _), Nat.sub_self]
    rfl
  · change attempts.Sublist (attemptable cfg stored request (walked.take v.index) 0)
    rw [htake]
    exact hsub
  · change prepareBody cfg v.step (stored v.index) v.walk.body = _
    rw [hfold]
    rfl

/-- What `try_chain` forwards to a step is the request rewritten by some attempts in front of
it, and it is the same for any two sets of attempts exactly when the history is neutral
towards that step. -/
theorem forwarded_body_iff {R : Type} (cfg : GatewayConfig) (profile : String)
    (chain : List Step) (inject : Option (List Message → List Message))
    (router : Option Router) (calls : Nat → Call R) (cb : CircuitBreaker) (body : Body) :
    let request := injectMemory inject body
    let walked := (route router chain cb request).1
    let stored := fun i ↦ (calls i).stored
    (∀ fwd ∈ (tryChain cfg profile chain inject router calls cb body).1.forwarded,
      walked[fwd.index]? = some fwd.step ∧
      ∃ attempts, attempts.Sublist
          (attemptable cfg stored request (walked.take fwd.index) 0) ∧
        fwd.body = forwardedBody cfg attempts ⟨fwd.step, stored fwd.index⟩ request) ∧
    ∀ k step, walked[k]? = some step →
      let before := attemptable cfg stored request (walked.take k) 0
      let here : Attempt := ⟨step, stored k⟩
      ((∀ attempts attempts', attempts.Sublist before → attempts'.Sublist before →
        (forwardedBody cfg attempts here request).messages =
            (forwardedBody cfg attempts' here request).messages ∧
          (forwardedBody cfg attempts here request).tools =
            (forwardedBody cfg attempts' here request).tools ∧
          (forwardedBody cfg attempts here request).model =
            (forwardedBody cfg attempts' here request).model) ↔
      HistoryNeutral cfg before here request) := by
  intro request walked stored
  exact ⟨fun fwd hfwd ↦ exists_attempts_of_forwarded hfwd,
    fun k step _ ↦ forwardedBody_independent_iff _ _ _ _⟩

/-- A thinking step that fails leaves its placeholder in the body of the next provider, which
is not a thinking model; skipping it does not. -/
theorem forwarded_body_depends_on_attempts :
    ¬ ∀ (cfg : GatewayConfig) (chain : List Step) (calls : Nat → Call Unit)
        (cb cb' : CircuitBreaker) (body : Body) (k : Nat) (fwd fwd' : Forward),
      (tryChain cfg "pi" chain none none calls cb body).1.forwarded.find? (·.index = k) =
        some fwd →
      (tryChain cfg "pi" chain none none calls cb' body).1.forwarded.find? (·.index = k) =
        some fwd' →
      fwd.body.messages = fwd'.body.messages := by
  intro hall
  have heq := hall
    ⟨Dict.empty, (Dict.empty.set "deepseek-v4-pro" [("supports_thinking", .bool true)]).set
      "qwen3.6-27b" [("supports_thinking", .bool false)], Dict.empty, fun _ model ↦ model⟩
    [⟨"deepseek", "deepseek-v4-pro", none⟩, ⟨"llamacpp", "qwen3.6-27b", none⟩]
    (fun _ ↦ ⟨0, 1, fun _ ↦ none, .failed .internal "HTTP 503"⟩)
    (CircuitBreaker.new defaultCbConfig)
    ⟨defaultCbConfig, Dict.empty.set ⟨"deepseek", "", "pi"⟩
      { defaultHealth with status := .dead, manualOverride := some .dead }, none⟩
    ⟨none, some
      [⟨.value "assistant", none,
        .value [⟨.value "call_1", .absent, .null, .obj [("id", .str "call_1")]⟩], .absent, .absent,
        .absent⟩,
      ⟨.value "tool", some (.str "ok"), .absent, .value "call_1", .absent, .absent⟩],
      .absent, false⟩
    1 _ _ rfl rfl
  have hreasoning := congrArg (Option.map (List.map Message.reasoningContent)) heq
  exact absurd hreasoning (by decide)

end LcpGateway.Pipeline
