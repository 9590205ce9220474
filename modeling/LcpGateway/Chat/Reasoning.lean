import LcpGateway.Chat.Sanitize
import LcpGateway.Config.Gateway

/-!
# Reasoning rehydration

Library `Chat`. Source `src/api/reasoning_store.py:60–100` and
`src/api/request_pipeline.py:287–333`. A thinking model needs `reasoning_content` on every
tool turn: first from the store, by tool-call id, then as an empty placeholder. `stored` is
the store's lookup at the moment of the attempt.
-/

namespace LcpGateway.Chat
open LcpGateway.Base LcpGateway.Config

/-- The stored reasoning `rehydrate` attaches: the first non-empty hit in call order. -/
def recalled (stored : String → Option String) (calls : List ToolCall) : Option String :=
  calls.findSome? (fun tc ↦ (tc.tcId.bind stored).filter (· ≠ ""))

/-- The loop body of `rehydrate`; `reasoning_store.py:82–99`. -/
def rehydrateMessage (stored : String → Option String) (msg : Message) : Message :=
  if !msg.isToolTurn then msg
  else if msg.reasoningContent.present then msg
  else match recalled stored msg.calls with
    | some rc => { msg with reasoningContent := .value rc }
    | none => msg

/-- The placeholder loop of `ensure_thinking_reasoning_content`; `request_pipeline.py:327–332`. -/
def placeholderMessage (msg : Message) : Message :=
  if msg.isToolTurn && !msg.reasoningContent.present
  then { msg with reasoningContent := .value "" } else msg

/-- `ensure_thinking_reasoning_content`; `request_pipeline.py:287–333`. -/
def ensureThinkingReasoningContent (cfg : GatewayConfig) (model : String)
    (stored : String → Option String) (messages : List Message) : List Message :=
  if cfg.supportsThinking model
  then (messages.map (rehydrateMessage stored)).map placeholderMessage
  else messages

/-- Both layers on one message: a tool turn without reasoning gets one. -/
def fillReasoning (stored : String → Option String) (msg : Message) : Message :=
  if msg.isToolTurn && !msg.reasoningContent.present
  then { msg with reasoningContent := .value ((recalled stored msg.calls).getD "") } else msg

/-- The two layers are one fill. -/
theorem placeholder_rehydrate (stored : String → Option String) (msg : Message) :
    placeholderMessage (rehydrateMessage stored msg) = fillReasoning stored msg := by
  unfold fillReasoning rehydrateMessage
  cases hturn : msg.isToolTurn with
  | false => simp [placeholderMessage, hturn]
  | true =>
    cases hpresent : msg.reasoningContent.present with
    | true => simp [placeholderMessage, hpresent]
    | false =>
      cases recalled stored msg.calls with
      | none => simp [placeholderMessage, hturn, hpresent]
      | some rc => simp [placeholderMessage, DictField.present]

/-- On a thinking model the pass is one fill per message. -/
theorem ensureThinkingReasoningContent_eq (cfg : GatewayConfig) (model : String)
    (stored : String → Option String) (messages : List Message) :
    ensureThinkingReasoningContent cfg model stored messages =
      if cfg.supportsThinking model then messages.map (fillReasoning stored) else messages := by
  simp only [ensureThinkingReasoningContent, List.map_map, Function.comp_def,
    placeholder_rehydrate]

/-! ### What a fill keeps -/

variable (stored stored' : String → Option String) (msg : Message)

/-- A fill changes the reasoning only. -/
theorem fillReasoning_eq : ∃ r, fillReasoning stored msg = { msg with reasoningContent := r } := by
  unfold fillReasoning
  split
  · exact ⟨_, rfl⟩
  · exact ⟨msg.reasoningContent, rfl⟩

/-- A filled message needs no further fill, from any store. -/
theorem fillReasoning_fillReasoning :
    fillReasoning stored' (fillReasoning stored msg) = fillReasoning stored msg := by
  cases hneeds : msg.isToolTurn && !msg.reasoningContent.present with
  | false => simp [fillReasoning, hneeds]
  | true =>
    simp only [fillReasoning, hneeds, if_true]
    simp [DictField.present]

/-- A settled message stays settled under a fill. -/
theorem Message.Settled.fillReasoning {msg : Message} (hs : msg.Settled) :
    (Chat.fillReasoning stored msg).Settled := by
  unfold Chat.fillReasoning
  split
  · next h =>
    simp only [Message.isToolTurn, Message.hasRole, Bool.and_eq_true, decide_eq_true_eq] at h
    exact hs.withReasoning h.1.1 _
  · exact hs

/-- A fill and the dropping of idle tool calls do not interfere. -/
theorem dropIdle_fillReasoning :
    (fillReasoning stored msg).dropIdle = fillReasoning stored msg.dropIdle := by
  cases hcalls : msg.calls with
  | nil =>
    have hturn : msg.isToolTurn = false := by simp [Message.isToolTurn, hcalls]
    have hturn' : ({ msg with toolCalls := .absent } : Message).isToolTurn = false := by
      simp [Message.isToolTurn, Message.calls]
    simp [fillReasoning, hturn, Message.dropIdle, hcalls, hturn']
  | cons tc rest =>
    obtain ⟨r, hr⟩ := fillReasoning_eq stored msg
    have hcalls' : ({ msg with reasoningContent := r } : Message).calls = tc :: rest := hcalls
    rw [hr, Message.dropIdle, Message.dropIdle, hcalls, hcalls']
    simpa using hr.symm

/-- A fill declares and answers the same ids. -/
theorem matched_map_fillReasoning {messages : List Message} (h : Matched messages) :
    Matched (messages.map (fillReasoning stored)) := by
  have hd : ∀ m, declaredBy (fillReasoning stored m) = declaredBy m := fun m ↦ by
    obtain ⟨r, hr⟩ := fillReasoning_eq stored m
    rw [hr]
    rfl
  have hr : ∀ m, referencedBy (fillReasoning stored m) = referencedBy m := fun m ↦ by
    obtain ⟨r, hr⟩ := fillReasoning_eq stored m
    rw [hr]
    rfl
  simpa only [Matched, declaredIds, referencedIds, List.flatMap_map, List.filterMap_map,
    Function.comp_def, hd, hr] using h

/-- Dropping idle tool calls declares and answers the same ids. -/
theorem matched_map_dropIdle {messages : List Message} (h : Matched messages) :
    Matched (messages.map Message.dropIdle) := by
  have hd : ∀ m : Message, declaredBy m.dropIdle = declaredBy m := fun m ↦ by
    unfold Message.dropIdle
    split
    · next hidle =>
      have hcalls : m.calls = [] := by simpa using hidle
      have hnone : declaredBy m = [] := by simp [declaredBy, hcalls]
      rw [hnone]
      simp [declaredBy, Message.calls]
    · rfl
  have hr : ∀ m : Message, referencedBy m.dropIdle = referencedBy m := fun m ↦ by
    unfold Message.dropIdle
    split <;> rfl
  simpa only [Matched, declaredIds, referencedIds, List.flatMap_map, List.filterMap_map,
    Function.comp_def, hd, hr] using h

/-- The pass keeps the image content of a request. -/
@[simp] theorem hasImageContent_ensureThinking (cfg : GatewayConfig) (model : String)
    (messages : List Message) :
    hasImageContent (ensureThinkingReasoningContent cfg model stored messages) =
      hasImageContent messages := by
  rw [ensureThinkingReasoningContent_eq]
  split
  · have hc : ∀ m, contentHasImage (fillReasoning stored m).content = contentHasImage m.content :=
      fun m ↦ by
        obtain ⟨r, hr⟩ := fillReasoning_eq stored m
        rw [hr]
    simp only [hasImageContent, List.any_map, Function.comp_def, hc]
  · rfl

end LcpGateway.Chat
