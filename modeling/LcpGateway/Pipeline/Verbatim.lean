import LcpGateway.Chat.Document
import LcpGateway.Pipeline.Forwarded

/-!
# Requests that are forwarded verbatim

Library `Pipeline`. Source `src/api/memory/harness.py:42–58,99–142` and
`src/api/request_pipeline.py:795–809,912–949`. A run that ends in a reply leaves in the shared body
what its forwards made of the messages. These are the messages of the client exactly when memory
adds nothing, every message is canonical, the tool calls are matched, and no thinking step of the
run finds a tool turn without reasoning.
-/

namespace LcpGateway.Pipeline
open LcpGateway.Base LcpGateway.Breaker LcpGateway.Chat LcpGateway.Config

/-! ### The memory harness -/

/-- What the harness reads of a recalled memory. -/
structure Memory where
  content : Option String
  host : Option String

/-- The line of one memory; `harness.py:46–53`. -/
def memoryLine (memory : Memory) : Option String :=
  let content := strip (memory.content.getD "")
  if content = "" then none
  else
    match memory.host.filter (· ≠ "") with
    | some host => some s!"- [{host}] {content}"
    | none => some s!"- {content}"

/-- The first line of a context block. -/
def contextHeader : String :=
  "The following facts were recalled from this profile's memory and may be relevant:\n"

/-- `_build_context_block`; `harness.py:42–58`. -/
def buildContextBlock (memories : List Memory) : String :=
  let lines := memories.filterMap memoryLine
  if lines.isEmpty then "" else contextHeader ++ "\n".intercalate lines

/-- A system message of the block alone. -/
def contextMessage (block : String) : Message where
  role := .value "system"
  content := some (.str block)
  toolCalls := .absent
  toolCallId := .absent
  reasoningContent := .absent
  name := .absent

/-- The block in front of a system prompt. -/
def mergeContext (block existing : String) : String :=
  if existing ≠ "" then block ++ "\n\n" ++ existing else block

/-- The messages with a block merged into the system prompt, or in front; `harness.py:131–142`. -/
def withContext (block : String) (messages : List Message) : List Message :=
  match messages with
  | [] => [contextMessage block]
  | first :: rest =>
    match first.hasRole "system", first.contentOr with
    | true, .str existing =>
      { first with content := some (.str (mergeContext block existing)) } :: rest
    | _, _ => contextMessage block :: first :: rest

/-- `inject_memory_context`; `harness.py:99–142`. `memories` is `recall_for_request`. -/
def injectMemoryContext (memories : List Message → List Memory) (messages : List Message) :
    List Message :=
  let block := buildContextBlock (memories messages)
  if block = "" then messages else withContext block messages

/-- What memory adds to the messages; nothing while the harness is switched off. -/
def recalledBlock (memories : Option (List Message → List Memory)) (messages : List Message) :
    String :=
  (memories.map (fun memories ↦ buildContextBlock (memories messages))).getD ""

/-- A block opens with its header. -/
theorem buildContextBlock_eq {memories : List Memory} (h : buildContextBlock memories ≠ "") :
    ∃ rest, (buildContextBlock memories).toList = 'T' :: rest := by
  unfold buildContextBlock at h ⊢
  dsimp only at h ⊢
  split
  · next hnil => simp [hnil] at h
  · exact ⟨_, by simp [contextHeader]; rfl⟩

/-- The messages of a request behind the harness. -/
theorem messages_injectMemory (memories : Option (List Message → List Memory)) {body : Body}
    {messages : List Message} (h : body.messages = some messages) :
    (injectMemory (memories.map injectMemoryContext) body).messages =
      some (if recalledBlock memories messages = "" then messages
        else withContext (recalledBlock memories messages) messages) := by
  cases memories with
  | none => simp [injectMemory, recalledBlock, h]
  | some memories =>
    have hlist : body.messageList = messages := by simp [Body.messageList, h]
    simp only [injectMemory, Option.map_some, hlist]
    rfl

/-- A merged prompt is not the prompt it was merged into, once trailing white space is gone. -/
theorem rstrip_mergeContext_ne {block existing : String} {c : Char} {rest : List Char}
    (hblock : block.toList = c :: rest) (hc : isSpace c = false)
    (htrim : rstrip existing = existing) :
    rstrip (mergeContext block existing) ≠ existing := by
  intro h
  unfold mergeContext at h
  split at h
  · next hne =>
    have hlast : ∀ hl : existing.toList ≠ [], ¬ isSpace (existing.toList.getLast hl) := by
      refine List.rdropWhile_eq_self_iff.mp ?_
      have hlist := congrArg String.toList htrim
      rwa [rstrip, String.toList_ofList] at hlist
    -- the prompt ends as before, so nothing is stripped off the longer text
    have hlist := congrArg String.toList h
    have hnil : existing.toList ≠ [] := fun hnil ↦ hne (String.toList_eq_nil_iff.mp hnil)
    rw [rstrip, String.toList_ofList, String.toList_append,
      List.rdropWhile_eq_self_iff.mpr fun hl ↦ by
        rw [List.getLast_append_of_ne_nil hl hnil]
        exact hlast hnil] at hlist
    have hlength := congrArg List.length hlist
    simp only [String.toList_append, List.length_append, String.length_toList] at hlength
    have hgap : 0 < ("\n\n" : String).length := by decide
    omega
  · next hempty =>
    have hnil : existing = "" := by simpa using hempty
    rw [hnil] at h
    have hlist := congrArg String.toList h
    rw [rstrip, String.toList_ofList, hblock] at hlist
    have hall := List.rdropWhile_eq_nil_iff.mp hlist
    exact absurd (hall c List.mem_cons_self) (by simp [hc])

/-- A block declares and answers nothing. -/
theorem matched_withContext_iff (block : String) (messages : List Message) :
    Matched (withContext block messages) ↔ Matched messages := by
  have hblock :
      declaredBy (contextMessage block) = [] ∧ referencedBy (contextMessage block) = none :=
    ⟨rfl, rfl⟩
  cases messages with
  | nil => simp [withContext, Matched, declaredIds, referencedIds, hblock]
  | cons first rest =>
    rw [withContext]
    split
    · have hd : ∀ c, declaredBy { first with content := some c } = declaredBy first := fun _ ↦ rfl
      have hr : ∀ c, referencedBy { first with content := some c } = referencedBy first :=
        fun _ ↦ rfl
      simp [Matched, declaredIds, referencedIds, List.filterMap_cons, hd, hr]
    · simp [Matched, declaredIds, referencedIds, hblock]

/-- Messages with a block are faithful. -/
theorem faithful_withContext (block : String) {messages : List Message}
    (h : ∀ msg ∈ messages, msg.Faithful) : ∀ msg ∈ withContext block messages, msg.Faithful := by
  have hblock : (contextMessage block).Faithful :=
    ⟨fun c hc ↦ Option.some.inj hc ▸ .str block, nofun⟩
  cases messages with
  | nil => simpa [withContext] using hblock
  | cons first rest =>
    rw [withContext]
    split
    · refine List.forall_mem_cons.mpr ⟨?_, (List.forall_mem_cons.mp h).2⟩
      exact (h first List.mem_cons_self).of_calls (fun c hc ↦ Option.some.inj hc ▸ .str _)
        (List.Subset.refl _)
    · exact List.forall_mem_cons.mpr ⟨hblock, h⟩

/-! ### Reasoning passes that change nothing -/

/-- The pass at a step after the passes in front of it. -/
theorem reasons_append (cfg : GatewayConfig) (before : List Attempt) (here : Attempt)
    (msg : Message) :
    reasons cfg (before ++ [here]) msg = reasonAt cfg here (reasons cfg before msg) := by
  rw [reasons, List.foldl_append]
  rfl

/-- A tool turn with reasoning, and any other message, is left alone. -/
theorem reasonAt_of_reasoned {cfg : GatewayConfig} {a : Attempt} {msg : Message}
    (h : msg.isToolTurn → msg.reasoningContent.present) : reasonAt cfg a msg = msg := by
  unfold reasonAt fillReasoning
  split
  · split
    · next hneeds =>
      simp only [Bool.and_eq_true, Bool.not_eq_true'] at hneeds
      exact absurd (h hneeds.1) (by simp [hneeds.2])
    · rfl
  · rfl

/-- A filled tool turn has reasoning. -/
theorem present_fillReasoning {stored : String → Option String} {msg : Message}
    (h : msg.isToolTurn) : (fillReasoning stored msg).reasoningContent.present := by
  unfold fillReasoning
  split
  · rfl
  · next hneeds => simpa [h] using hneeds

/-- The passes leave a message alone exactly when no thinking step has reasoning to add. -/
theorem reasons_eq_self_iff (cfg : GatewayConfig) (attempts : List Attempt) (msg : Message) :
    reasons cfg attempts msg = msg ↔
      ((∃ a ∈ attempts, cfg.supportsThinking a.step.model) →
        msg.isToolTurn → msg.reasoningContent.present) := by
  have hstay : ∀ {msg : Message}, (msg.isToolTurn → msg.reasoningContent.present) →
      ∀ attempts, reasons cfg attempts msg = msg := by
    intro msg h attempts
    induction attempts with
    | nil => rfl
    | cons a rest ih => rw [reasons, List.foldl_cons, reasonAt_of_reasoned h, ← reasons, ih]
  constructor
  · intro h hthinks hturn
    -- the first thinking step fills the reasoning in, and the later ones keep it
    induction attempts with
    | nil => simp at hthinks
    | cons a rest ih =>
      rw [reasons, List.foldl_cons, ← reasons] at h
      by_cases hthinking : cfg.supportsThinking a.step.model
      · have hpresent : (fillReasoning a.stored msg).reasoningContent.present :=
          present_fillReasoning hturn
        rw [reasonAt, if_pos hthinking, hstay fun _ ↦ hpresent] at h
        exact h ▸ hpresent
      · rw [reasonAt, if_neg hthinking] at h
        refine ih h ?_
        simpa [hthinking] using hthinks
  · intro h
    by_cases hthinks : ∃ a ∈ attempts, cfg.supportsThinking a.step.model
    · exact hstay (h hthinks) attempts
    · clear h
      induction attempts with
      | nil => rfl
      | cons a rest ih =>
        simp only [List.mem_cons, exists_eq_or_imp, not_or] at hthinks
        rw [reasons, List.foldl_cons, reasonAt, if_neg hthinks.1, ← reasons, ih hthinks.2]

/-- A reasoning pass keeps the content. -/
theorem content_reasons (cfg : GatewayConfig) (attempts : List Attempt) (msg : Message) :
    (reasons cfg attempts msg).content = msg.content := by
  induction attempts generalizing msg with
  | nil => rfl
  | cons a rest ih =>
    rw [reasons, List.foldl_cons, ← reasons, ih]
    unfold reasonAt
    split
    · obtain ⟨r, hr⟩ := fillReasoning_eq a.stored msg
      rw [hr]
    · rfl

/-- Steady messages stay steady under the passes. -/
theorem Steady.reasons {messages : List Message} (h : Steady messages) (cfg : GatewayConfig)
    (attempts : List Attempt) : Steady (messages.map (Pipeline.reasons cfg attempts)) := by
  induction attempts generalizing messages with
  | nil =>
    have hid : messages.map (Pipeline.reasons cfg []) = messages := List.map_id messages
    rwa [hid]
  | cons a rest ih =>
    have hmap : messages.map (Pipeline.reasons cfg (a :: rest)) =
        (messages.map (Pipeline.reasonAt cfg a)).map (Pipeline.reasons cfg rest) := by
      rw [List.map_map]
      rfl
    rw [hmap]
    exact ih (h.reasonAt cfg a)

/-- A settled message stays settled under the passes. -/
theorem settled_reasons {msg : Message} (h : msg.Settled) (cfg : GatewayConfig)
    (attempts : List Attempt) : (reasons cfg attempts msg).Settled := by
  induction attempts generalizing msg with
  | nil => exact h
  | cons a rest ih =>
    rw [reasons, List.foldl_cons, ← reasons]
    refine ih ?_
    unfold reasonAt
    split
    · exact h.fillReasoning a.stored
    · exact h

/-- The passes and the dropping of idle tool calls do not interfere. -/
theorem dropIdle_reasons (cfg : GatewayConfig) (attempts : List Attempt) (msg : Message) :
    (reasons cfg attempts msg).dropIdle = reasons cfg attempts msg.dropIdle := by
  induction attempts generalizing msg with
  | nil => rfl
  | cons a rest ih =>
    rw [reasons, List.foldl_cons, ← reasons, ih, dropIdle_reasonAt]
    rfl

/-- The forward of a message without idle tool calls. -/
theorem forwardedMessage_of_dropIdle {cfg : GatewayConfig} {before : List Attempt} {here : Attempt}
    {msg : Message} (h : msg.dropIdle = msg) :
    forwardedMessage cfg before here msg = reasons cfg (before ++ [here]) msg := by
  rw [forwardedMessage, h, ite_self, reasons_append]

/-! ### When nothing changes -/

/-- Nothing between the client and the provider changes the messages: memory adds no block, every
message is canonical, the tool calls are matched, and a thinking step finds its reasoning. -/
structure Verbatim (cfg : GatewayConfig) (steps : List Step) (block : String)
    (messages : List Message) : Prop where
  unrecalled : block = ""
  canonical : ∀ msg ∈ messages, msg.Canonical
  matched : Matched messages
  reasoned : (∃ step ∈ steps, cfg.supportsThinking step.model) →
    ∀ msg ∈ messages, msg.isToolTurn → msg.reasoningContent.present

section Fixed

variable (cfg : GatewayConfig) (before : List Attempt) (here : Attempt)

/-- The messages a run forwards last, once memory has answered. -/
def lastForwarded (block : String) (messages : List Message) : List Message :=
  (settledMessages (if block = "" then messages else withContext block messages)).map
    (forwardedMessage cfg before here)

/-- Matched messages are only normalized and filled. -/
theorem lastForwarded_of_matched {block : String} {messages : List Message}
    (h : Matched messages) :
    lastForwarded cfg before here block messages =
      (if block = "" then messages else withContext block messages).map (fun msg ↦
        reasons cfg (before ++ [here]) (normalizeMessage msg)) := by
  have hmatched : Matched (if block = "" then messages else withContext block messages) := by
    split
    · exact h
    · exact (matched_withContext_iff block messages).mpr h
  rw [lastForwarded, settledMessages,
    sanitizeMessages_of_matched ((matched_normalize_iff _).mpr hmatched), normalizeMessagesForCache,
    List.map_map]
  refine List.map_congr_left fun msg _ ↦ ?_
  exact forwardedMessage_of_dropIdle (dropIdle_normalizeMessage msg)

/-- What is forwarded last is matched. -/
theorem matched_lastForwarded (block : String) (messages : List Message) :
    Matched (lastForwarded cfg before here block messages) := by
  have hsteady := steady_settledMessages
    (if block = "" then messages else withContext block messages)
  unfold lastForwarded
  cases before with
  | nil => exact (hsteady.reasonAt cfg here).matched
  | cons a rest =>
    have hmap := ((hsteady.dropIdle.reasons cfg (a :: rest)).reasonAt cfg here).matched
    rw [List.map_map, List.map_map] at hmap
    exact hmap

/-- A block changes the messages it is added to. -/
theorem map_withContext_ne {block : String} {c : Char} {rest : List Char}
    (hblock : block.toList = c :: rest) (hc : isSpace c = false) (attempts : List Attempt)
    (messages : List Message) :
    (withContext block messages).map (fun msg ↦ reasons cfg attempts (normalizeMessage msg)) ≠
      messages := by
  intro h
  cases messages with
  | nil => exact nomatch h
  | cons first more =>
    rw [withContext] at h
    split at h
    · next existing hsystem hexisting =>
      rw [List.map_cons, List.cons.injEq] at h
      have hcontent := congrArg Message.content h.1
      have hrole : first.role = .value "system" := by simpa [Message.hasRole] using hsystem
      rw [content_reasons, content_normalizeMessage] at hcontent
      dsimp only [Message.contentOr, Option.getD_some] at hcontent
      rw [hrole, DictField.orDefault_value, normalizeContent, if_pos rfl] at hcontent
      -- the prompt of the client is the stripped text it was merged into
      rw [Message.contentOr, ← hcontent, Option.getD_some] at hexisting
      have hsame := Json.str.inj hexisting
      exact rstrip_mergeContext_ne hblock hc (by rw [← hsame, rstrip_rstrip]) hsame
    · have hlength := congrArg List.length h
      simp at hlength

/-- What is forwarded last is read off the objects it is written to. -/
theorem faithful_lastForwarded (block : String) {messages : List Message}
    (h : ∀ msg ∈ messages, msg.Faithful) :
    ∀ msg ∈ lastForwarded cfg before here block messages, msg.Faithful := by
  have hreason : ∀ {a : Attempt} {msg : Message}, msg.Faithful → (reasonAt cfg a msg).Faithful := by
    intro a msg hmsg
    unfold reasonAt
    split
    · exact hmsg.fillReasoning a.stored
    · exact hmsg
  have hreasons : ∀ {attempts : List Attempt} {msg : Message}, msg.Faithful →
      (reasons cfg attempts msg).Faithful := by
    intro attempts
    induction attempts with
    | nil => exact id
    | cons a rest ih => exact fun hmsg ↦ ih (hreason hmsg)
  have hcontext : ∀ msg ∈ (if block = "" then messages else withContext block messages),
      msg.Faithful := by
    split
    · exact h
    · exact faithful_withContext block h
  intro msg hmsg
  obtain ⟨settled, hsettled, rfl⟩ := List.mem_map.mp hmsg
  have hfaithful : settled.Faithful := by
    refine faithful_sanitizeMessages (fun msg hmsg ↦ ?_) settled hsettled
    obtain ⟨original, horiginal, rfl⟩ := List.mem_map.mp hmsg
    exact (hcontext original horiginal).normalizeMessage
  refine hreason (hreasons ?_)
  split
  · exact hfaithful
  · unfold Message.dropIdle
    split
    · exact hfaithful.of_calls hfaithful.content (List.nil_subset _)
    · exact hfaithful

/-- A run forwards the messages of the client exactly when nothing changes them. -/
theorem lastForwarded_eq_self_iff (memories : Option (List Message → List Memory))
    (messages : List Message) :
    let block := recalledBlock memories messages
    lastForwarded cfg before here block messages = messages ↔
      Verbatim cfg ((before ++ [here]).map Attempt.step) block messages := by
  intro block
  have hthinks : (∃ a ∈ before ++ [here], cfg.supportsThinking a.step.model) ↔
      ∃ step ∈ (before ++ [here]).map Attempt.step, cfg.supportsThinking step.model := by
    simp only [List.mem_map, exists_exists_and_eq_and]
  have hmap : ∀ f : Message → Message,
      messages.map f = messages ↔ ∀ msg ∈ messages, f msg = msg := by
    intro f
    conv_lhs => rhs; rw [← List.map_id messages]
    exact List.map_inj_left
  constructor
  · intro h
    have hmatched : Matched messages := h ▸ matched_lastForwarded cfg before here block messages
    rw [lastForwarded_of_matched cfg before here hmatched] at h
    have hblock : block = "" := by
      by_contra hne
      rw [if_neg hne] at h
      obtain ⟨rest, hrest⟩ : ∃ rest, block.toList = 'T' :: rest := by
        cases memories with
        | none => exact absurd rfl hne
        | some memories => exact buildContextBlock_eq hne
      exact map_withContext_ne cfg hrest (by decide) (before ++ [here]) messages h
    rw [if_pos hblock] at h
    have hfixed := (hmap _).mp h
    have hcanonical : ∀ msg ∈ messages, normalizeMessage msg = msg := by
      intro msg hmsg
      have hsettled := settled_reasons (settled_normalizeMessage msg) cfg (before ++ [here])
      rw [Message.Settled, dropIdle_reasons, dropIdle_normalizeMessage, hfixed msg hmsg] at hsettled
      exact hsettled
    refine ⟨hblock, fun msg hmsg ↦ (normalizeMessage_eq_self_iff msg).mp (hcanonical msg hmsg),
      hmatched, fun hthinking msg hmsg ↦ ?_⟩
    have hself := hfixed msg hmsg
    rw [hcanonical msg hmsg] at hself
    exact (reasons_eq_self_iff cfg _ msg).mp hself (hthinks.mpr hthinking)
  · intro h
    rw [lastForwarded_of_matched cfg before here h.matched, if_pos h.unrecalled]
    refine (hmap _).mpr fun msg hmsg ↦ ?_
    rw [(normalizeMessage_eq_self_iff msg).mpr (h.canonical msg hmsg)]
    exact (reasons_eq_self_iff cfg _ msg).mpr fun hthinking ↦
      h.reasoned (hthinks.mp hthinking) msg hmsg

end Fixed

/-! ### Runs that end in a reply -/

/-- Run lemma: a walk that ends in a reply rewrote the body at the steps it forwarded to, the last
of which gave the reply. -/
theorem Session.walkChain_answered {R : Type} (s : Session R) {walked : List Step} {i : Nat}
    {w w' : Walk} {resp : R} {status : Nat} {provider model : String}
    (h : s.walkChain walked i w = (w', .response resp status provider model)) :
    ∃ before here, w'.body = forwardedBody s.cfg before here w.body ∧
      w'.forwarded.map Forward.step =
        w.forwarded.map Forward.step ++ (before ++ [here]).map Attempt.step ∧
      here.step.model = model := by
  induction walked generalizing i w with
  | nil => simp [Session.walkChain] at h
  | cons step later ih =>
    have hbody := s.attempt_body later i step w
    have hlog := s.attempt_forwarded later i step w
    rw [Session.walkChain] at h
    by_cases hopen : s.gateOf later i step w = .forward
    · rw [if_pos hopen] at hbody hlog
      split at h
      · next w₁ result hattempt =>
        obtain ⟨rfl, rfl⟩ := Prod.mk.inj h
        rw [hattempt] at hbody hlog
        refine ⟨[], ⟨step, (s.calls i).stored⟩, hbody, ?_, ?_⟩
        · rw [hlog, List.map_append]
          rfl
        · obtain ⟨cb, hsettle⟩ := s.attempt_of_open later i step w hopen
          have hend := congrArg Prod.snd (hsettle.symm.trans hattempt)
          rw [s.settle_snd] at hend
          split at hend
          · exact (Result.response.inj (Option.some.inj hend)).2.2.2
          · simp at hend
          · split at hend
            · simp at hend
            · simp at hend
      · next w₁ hattempt =>
        rw [hattempt] at hbody hlog
        obtain ⟨before, here, hbody', hlog', hmodel⟩ := ih h
        refine ⟨⟨step, (s.calls i).stored⟩ :: before, here, ?_, ?_, hmodel⟩
        · rw [hbody', hbody]
          rfl
        · rw [hlog', hlog, List.map_append, List.append_assoc]
          rfl
    · obtain ⟨hend, hbody', hlog'⟩ := s.attempt_of_closed later i step w hopen
      split at h
      · next hattempt => exact absurd hend (by simp [hattempt])
      · next w₁ hattempt =>
        rw [hattempt] at hbody' hlog'
        obtain ⟨before, here, hwalk, hsteps, hmodel⟩ := ih h
        exact ⟨before, here, hbody' ▸ hwalk, hlog' ▸ hsteps, hmodel⟩

/-- A run that ends in a reply leaves the body as its last forward sent it. -/
theorem tryChain_answered {R : Type} {cfg : GatewayConfig} {profile : String} {chain : List Step}
    {inject : Option (List Message → List Message)} {router : Option Router} {calls : Nat → Call R}
    {cb : CircuitBreaker} {body : Body} {w : Walk} {resp : R} {status : Nat}
    {provider model : String}
    (h : tryChain cfg profile chain inject router calls cb body =
      (w, .response resp status provider model)) :
    ∃ before here, w.body = forwardedBody cfg before here (injectMemory inject body) ∧
      w.forwarded.map Forward.step = (before ++ [here]).map Attempt.step ∧
      here.step.model = model := by
  obtain ⟨before, here, hbody, hlog, hmodel⟩ := Session.walkChain_answered _ h
  exact ⟨before, here, hbody, hlog, hmodel⟩

end LcpGateway.Pipeline
