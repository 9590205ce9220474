import LcpGateway.Chat.Normalize

/-!
# Tool-call sanitization

Library `Chat`. Source `src/api/request_pipeline.py:336–406`. Declared ids without an answer
and answers without a declaration are removed together, so what is left declares exactly the
ids it answers: a sanitized history is a fixed point, whatever its other fields become.
-/

namespace LcpGateway.Chat
open LcpGateway.Base

/-- The ids a message declares; `request_pipeline.py:353–360`. -/
def declaredBy (msg : Message) : List String :=
  if msg.isToolTurn then msg.calls.filterMap ToolCall.tcId else []

/-- The id a tool message answers; `request_pipeline.py:362–366`. -/
def referencedBy (msg : Message) : Option String :=
  if msg.hasRole "tool" then msg.toolCallId.text else none

/-- `declared_ids`. -/
def declaredIds (messages : List Message) : List String := messages.flatMap declaredBy

/-- `referenced_ids`. -/
def referencedIds (messages : List Message) : List String := messages.filterMap referencedBy

/-- `id not in ids`. -/
def outside (ids : List String) (id : String) : Bool := id ∉ ids

/-- The ids a set filter keeps. -/
@[simp] theorem outside_iff {ids : List String} {id : String} : outside ids id ↔ id ∉ ids := by
  simp [outside]

/-- `ids_to_remove`: dangling declarations and orphaned answers; `request_pipeline.py:368–376`. -/
def idsToRemove (messages : List Message) : List String :=
  let declared := declaredIds messages
  let referenced := referencedIds messages
  declared.filter (outside referenced) ++ referenced.filter (outside declared)

/-- The rewriting loop, one message; `request_pipeline.py:379–395`. -/
def sanitizeMessage (removed : List String) (msg : Message) : Option Message :=
  if msg.hasRole "tool" ∧ ∃ id ∈ msg.toolCallId.text, id ∈ removed then
    -- an orphaned answer becomes a user message, its text is kept
    some { role := .value "user", content := some msg.contentOr, toolCalls := .absent,
           toolCallId := .absent, reasoningContent := .absent, name := .absent }
  else if msg.isToolTurn then
    let keptCalls := msg.calls.filter (fun tc ↦ tc.tcId.all (outside removed))
    if !keptCalls.isEmpty then some { msg with toolCalls := .value keptCalls }
    else if msg.contentOr.truthy then some { msg with toolCalls := .null }
    else none
  else some msg

/-- `sanitize_messages`; `request_pipeline.py:336–406`. -/
def sanitizeMessages (messages : List Message) : List Message :=
  if (idsToRemove messages).isEmpty then messages
  else messages.filterMap (sanitizeMessage (idsToRemove messages))

/-- Declared and answered ids are the same. -/
def Matched (messages : List Message) : Prop :=
  ∀ id, id ∈ declaredIds messages ↔ id ∈ referencedIds messages

/-- There is nothing to remove exactly when declarations and answers match. -/
theorem idsToRemove_eq_nil_iff (messages : List Message) :
    idsToRemove messages = [] ↔ Matched messages := by
  simp only [idsToRemove, List.append_eq_nil_iff, List.filter_eq_nil_iff, outside_iff, not_not,
    Matched]
  exact ⟨fun h id ↦ ⟨h.1 id, h.2 id⟩, fun h ↦ ⟨fun id ↦ (h id).mp, fun id ↦ (h id).mpr⟩⟩

/-- A matched history is left alone. -/
theorem sanitizeMessages_of_matched {messages : List Message} (h : Matched messages) :
    sanitizeMessages messages = messages := by
  simp [sanitizeMessages, (idsToRemove_eq_nil_iff messages).mpr h]

/-! ### What one rewritten message still declares and answers -/

private theorem filterMap_tcId_filter (removed : List String) (calls : List ToolCall) :
    (calls.filter (fun tc ↦ tc.tcId.all (outside removed))).filterMap ToolCall.tcId =
      (calls.filterMap ToolCall.tcId).filter (outside removed) := by
  induction calls with
  | nil => rfl
  | cons tc rest ih =>
    cases htc : tc.tcId with
    | none => simp [htc, ih]
    | some id =>
      cases hid : outside removed id <;> simp [htc, hid, ih]

private theorem not_tool_of_isToolTurn {msg : Message} (h : msg.isToolTurn = true) :
    msg.hasRole "tool" = false := by
  simp only [Message.isToolTurn, Message.hasRole, Bool.and_eq_true, decide_eq_true_eq] at h
  simp [Message.hasRole, h.1]

/-- A rewritten message declares what it declared, less the removed ids. -/
theorem declaredBy_sanitizeMessage (removed : List String) (msg : Message) :
    ((sanitizeMessage removed msg).toList.flatMap declaredBy) =
      (declaredBy msg).filter (outside removed) := by
  unfold sanitizeMessage
  split
  · next h =>
    have hturn : msg.isToolTurn = false := by
      by_contra hne
      simp [not_tool_of_isToolTurn (by simpa using hne)] at h
    simp [declaredBy, hturn]
    simp [Message.isToolTurn, Message.calls]
  · split
    · next hturn =>
      have hids := filterMap_tcId_filter removed msg.calls
      have hrole : msg.hasRole "assistant" = true := by
        simp only [Message.isToolTurn, Bool.and_eq_true] at hturn
        exact hturn.1
      rw [declaredBy, if_pos hturn, ← hids]
      cases hkept : msg.calls.filter (fun tc ↦ tc.tcId.all (outside removed)) with
      | nil =>
        simp only [List.isEmpty_nil, Bool.not_true, Bool.false_eq_true, if_false,
          List.filterMap_nil]
        split <;> simp [Message.isToolTurn, Message.calls, DictField.toOption, declaredBy]
      | cons tc rest =>
        have hrole' : msg.role = .value "assistant" := by simpa [Message.hasRole] using hrole
        simp [declaredBy, Message.isToolTurn, Message.calls, DictField.toOption, Message.hasRole,
          hrole']
    · next hturn => simp [declaredBy, hturn]

/-- A rewritten message answers what it answered, unless that id was removed. -/
theorem referencedBy_sanitizeMessage (removed : List String) (msg : Message) :
    ((sanitizeMessage removed msg).toList.filterMap referencedBy) =
      (referencedBy msg).toList.filter (outside removed) := by
  unfold sanitizeMessage
  split
  · next h =>
    obtain ⟨htool, id, hid, hmem⟩ := h
    have hid' : msg.toolCallId.text = some id := hid
    simp [referencedBy, hid', hmem, Message.hasRole]
  · next h =>
    split
    · next hturn =>
      have htool := not_tool_of_isToolTurn hturn
      have hkeep : ∀ calls, referencedBy { msg with toolCalls := calls } = none := fun _ ↦ by
        simpa [referencedBy, Message.hasRole] using fun hr ↦ by simp [Message.hasRole, hr] at htool
      have hnone : referencedBy msg = none := hkeep msg.toolCalls
      dsimp only
      rw [hnone]
      split
      · simp [hkeep]
      · split <;> simp [hkeep]
    · cases hr : referencedBy msg with
      | none => simp [hr]
      | some id =>
        have hid : id ∉ removed := by
          intro hmem
          by_cases htool : msg.hasRole "tool"
          · refine h ⟨htool, id, ?_, hmem⟩
            simpa [referencedBy, htool] using hr
          · simp [referencedBy, htool] at hr
        simp [hr, hid]

/-- The declared ids of a rewritten history. -/
theorem declaredIds_filterMap (removed : List String) (messages : List Message) :
    declaredIds (messages.filterMap (sanitizeMessage removed)) =
      (declaredIds messages).filter (outside removed) := by
  induction messages with
  | nil => rfl
  | cons msg rest ih =>
    have hmsg := declaredBy_sanitizeMessage removed msg
    simp only [declaredIds, List.flatMap_cons, List.filter_append] at ih ⊢
    rw [← hmsg, ← ih]
    cases h : sanitizeMessage removed msg <;> simp [h]

/-- The answered ids of a rewritten history. -/
theorem referencedIds_filterMap (removed : List String) (messages : List Message) :
    referencedIds (messages.filterMap (sanitizeMessage removed)) =
      (referencedIds messages).filter (outside removed) := by
  induction messages with
  | nil => rfl
  | cons msg rest ih =>
    have hmsg := referencedBy_sanitizeMessage removed msg
    have hcons : referencedIds (msg :: rest) = (referencedBy msg).toList ++ referencedIds rest := by
      cases h : referencedBy msg <;> simp [referencedIds, h]
    rw [hcons, List.filter_append, ← hmsg, ← ih]
    cases h : sanitizeMessage removed msg with
    | none => simp [h, referencedIds]
    | some msg' =>
      cases hr : referencedBy msg' <;> simp [h, referencedIds, hr]

/-- A sanitized history declares exactly the ids it answers. -/
theorem matched_sanitizeMessages (messages : List Message) :
    Matched (sanitizeMessages messages) := by
  unfold sanitizeMessages
  split
  · next h => exact (idsToRemove_eq_nil_iff messages).mp (by simpa using h)
  · intro id
    rw [declaredIds_filterMap, referencedIds_filterMap]
    simp only [idsToRemove, List.mem_filter, List.mem_append, outside_iff, not_or, not_and, not_not]
    constructor
    · rintro ⟨hd, hkept⟩
      exact ⟨hkept.1 hd, hkept⟩
    · rintro ⟨hr, hkept⟩
      exact ⟨hkept.2 hr, hkept⟩

/-- Sanitizing twice is sanitizing once. -/
theorem sanitizeMessages_idem (messages : List Message) :
    sanitizeMessages (sanitizeMessages messages) = sanitizeMessages messages :=
  sanitizeMessages_of_matched (matched_sanitizeMessages messages)

/-! ### What sanitization keeps of the other rewrites -/

/-- A rewritten settled message is settled. -/
theorem settled_sanitizeMessage {removed : List String} {msg msg' : Message}
    (hs : msg.Settled) (h : sanitizeMessage removed msg = some msg') : msg'.Settled := by
  unfold sanitizeMessage at h
  split at h
  · obtain rfl := Option.some.inj h
    cases hc : msg.contentOr <;>
      simp [Message.Settled, normalizeMessage, Message.dropIdle, Message.calls,
        Message.contentOr, normalizeContent]
  · split at h
    · next hturn =>
      have hrole : msg.role = .value "assistant" := by
        simp only [Message.isToolTurn, Message.hasRole, Bool.and_eq_true,
          decide_eq_true_eq] at hturn
        exact hturn.1
      have hkeep := hs.withCalls hrole
      dsimp only at h
      split at h
      · obtain rfl := Option.some.inj h
        exact hkeep _
      · split at h
        · obtain rfl := Option.some.inj h
          exact hkeep _
        · cases h
    · obtain rfl := Option.some.inj h
      exact hs

/-- Sanitizing settled messages leaves settled messages. -/
theorem settled_sanitizeMessages {messages : List Message} (hs : ∀ msg ∈ messages, msg.Settled) :
    ∀ msg ∈ sanitizeMessages messages, msg.Settled := by
  unfold sanitizeMessages
  split
  · exact hs
  · intro msg' hmem
    obtain ⟨msg, hmsg, h⟩ := List.mem_filterMap.mp hmem
    exact settled_sanitizeMessage (hs msg hmsg) h

private theorem contentHasImage_of_not_truthy {msg : Message} (h : msg.contentOr.truthy = false) :
    contentHasImage msg.content = false := by
  cases hc : msg.content with
  | none => rfl
  | some c =>
    cases c with
    | arr blocks =>
      cases blocks with
      | nil => rfl
      | cons b rest => simp [Message.contentOr, hc, Json.truthy] at h
    | null | bool | int | float | str | obj => rfl

private theorem contentHasImage_contentOr (msg : Message) :
    contentHasImage (some msg.contentOr) = contentHasImage msg.content := by
  cases hc : msg.content <;> simp [Message.contentOr, hc, contentHasImage]

/-- A rewritten message keeps its image blocks, and a dropped one had none. -/
theorem contentHasImage_sanitizeMessage (removed : List String) (msg : Message) :
    (sanitizeMessage removed msg).toList.any (fun m ↦ contentHasImage m.content) =
      contentHasImage msg.content := by
  unfold sanitizeMessage
  split
  · simp [contentHasImage_contentOr]
  · split
    · dsimp only
      split
      · simp
      · split
        · simp
        · next h => simp [contentHasImage_of_not_truthy (by simpa using h)]
    · simp

/-- Sanitization keeps the image content of a request. -/
@[simp] theorem hasImageContent_sanitize (messages : List Message) :
    hasImageContent (sanitizeMessages messages) = hasImageContent messages := by
  unfold sanitizeMessages
  split
  · rfl
  · next h =>
    clear h
    generalize idsToRemove messages = removed
    unfold hasImageContent
    induction messages with
    | nil => rfl
    | cons msg rest ih =>
      rw [List.any_cons, ← contentHasImage_sanitizeMessage removed msg, ← ih]
      cases h : sanitizeMessage removed msg <;> simp [h]

/-! ### What normalization keeps of the ids -/

/-- A normalized message declares the same ids. -/
theorem declaredBy_normalizeMessage (msg : Message) :
    declaredBy (normalizeMessage msg) = declaredBy msg := by
  obtain ⟨role, content, toolCalls, toolCallId, reasoning, name⟩ := msg
  by_cases hassistant : role = .value "assistant"
  · subst hassistant
    cases hcalls : toolCalls.toOption.getD [] with
    | nil => simp [declaredBy, normalizeMessage, Message.isToolTurn, Message.calls, hcalls]
    | cons tc rest =>
      simp [declaredBy, normalizeMessage, Message.isToolTurn, Message.calls, hcalls,
        Message.hasRole]
  · have hrole : role.orDefault "user" ≠ .value "assistant" := by
      cases role with
      | absent => decide
      | null => exact hassistant
      | value r => exact hassistant
    by_cases htool : role.orDefault "user" = .value "tool" <;>
      simp [declaredBy, normalizeMessage, Message.isToolTurn, Message.hasRole, hassistant, hrole,
        htool]

/-- A normalized message answers the same id. -/
theorem referencedBy_normalizeMessage (msg : Message) :
    referencedBy (normalizeMessage msg) = referencedBy msg := by
  obtain ⟨role, content, toolCalls, toolCallId, reasoning, name⟩ := msg
  by_cases htool : role = .value "tool"
  · subst htool
    have htext : (toolCallId.orDefault "").text = toolCallId.text := by cases toolCallId <;> rfl
    simp [referencedBy, normalizeMessage, Message.hasRole, htext]
  · have hrole : role.orDefault "user" ≠ .value "tool" := by
      cases role with
      | absent => decide
      | null => exact htool
      | value r => exact htool
    have hkeep : ∀ msg : Message, msg.role = role.orDefault "user" → referencedBy msg = none :=
      fun msg hmsg ↦ by simp [referencedBy, Message.hasRole, hmsg, hrole]
    have hnone : referencedBy ⟨role, content, toolCalls, toolCallId, reasoning, name⟩ = none := by
      simp [referencedBy, Message.hasRole, htool]
    rw [hnone]
    unfold normalizeMessage
    dsimp only
    split
    · exact hkeep _ rfl
    · split <;> exact hkeep _ rfl

/-- Normalized messages match exactly when the messages do. -/
theorem matched_normalize_iff (messages : List Message) :
    Matched (normalizeMessagesForCache messages) ↔ Matched messages := by
  simp only [Matched, declaredIds, referencedIds, normalizeMessagesForCache, List.flatMap_map,
    List.filterMap_map, Function.comp_def, declaredBy_normalizeMessage,
    referencedBy_normalizeMessage]

end LcpGateway.Chat
