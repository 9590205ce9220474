import LcpGateway.Base.Splits
import LcpGateway.Chat.Sanitize

/-!
# Calls and answers in order

Library `Chat`. Source `src/api/request_pipeline.py:153–205,336–406`. Sanitization compares the
declared and the answered ids as sets over the whole history. A provider reads them in order: an
answer comes behind the turn that made the call.
-/

namespace LcpGateway.Chat
open LcpGateway.Base

/-- A message that is no answer and makes no call. -/
def Message.isPlain (msg : Message) : Bool := !msg.hasRole "tool" && !msg.isToolTurn

/-- Every answer names a call that an earlier turn declares. -/
def AnswersDeclared : List Message → Prop :=
  EveryPlace fun before msg _ ↦ msg.hasRole "tool" = true →
    ∃ id, msg.toolCallId.text = some id ∧ id ∈ declaredIds before

/-- Every call has an id that a later message answers. -/
def CallsAnswered : List Message → Prop :=
  EveryPlace fun _ msg after ↦ msg.isToolTurn = true → ∀ tc ∈ msg.calls,
    ∃ id, tc.tcId = some id ∧ id ∈ referencedIds after

/-- A history that providers take, made from a given one: its plain messages stay, in order and
with the content that normalization gives them, and nothing is left to repair. -/
structure Repaired (given result : List Message) : Prop where
  answers : AnswersDeclared result
  calls : CallsAnswered result
  plain : ∃ f : Message → Option Message, result = given.filterMap f ∧
    ∀ msg ∈ given, msg.isPlain = true → ∃ kept, f msg = some kept ∧
      kept.role = msg.role.orDefault "user" ∧
        kept.content = some (normalizeContent msg.role msg.contentOr)
  settled : sanitizeMessages (normalizeMessagesForCache result) = result

/-- The histories that are repaired: an answer has an id that is declared in front of it, if at
all; a call has an id that is answered behind it, if at all; and a turn with a text has a call that
is answered or has no id. -/
structure Repairable (given : List Message) : Prop where
  answers : EveryPlace (fun before msg _ ↦ msg.hasRole "tool" = true →
    ∃ id, msg.toolCallId.text = some id ∧ (id ∈ declaredIds given → id ∈ declaredIds before)) given
  calls : EveryPlace (fun _ msg after ↦ msg.isToolTurn = true → ∀ tc ∈ msg.calls,
    ∃ id, tc.tcId = some id ∧ (id ∈ referencedIds given → id ∈ referencedIds after)) given
  texts : ∀ msg ∈ given, msg.isToolTurn = true → msg.contentOr.truthy = true →
    ∃ tc ∈ msg.calls, ∀ id, tc.tcId = some id → id ∈ referencedIds given

/-! ### The two passes, message by message -/

/-- Where nothing is removed every message is left alone. -/
theorem sanitizeMessage_nil (msg : Message) : sanitizeMessage [] msg = some msg := by
  unfold sanitizeMessage
  rw [if_neg (by simp)]
  split
  · next hturn =>
    have hall : ∀ tc ∈ msg.calls, tc.tcId.all (outside []) = true := by
      intro tc _
      cases tc.tcId <;> simp [outside]
    simp only [Message.isToolTurn, Bool.and_eq_true] at hturn
    rw [List.filter_eq_self.mpr hall]
    dsimp only
    rw [if_pos hturn.2]
    obtain ⟨role, content, toolCalls, toolCallId, reasoning, name⟩ := msg
    cases toolCalls with
    | value calls => rfl
    | absent | null => simp [Message.calls, DictField.toOption] at hturn
  · rfl

/-- The rewriting loop, whether or not there is something to remove. -/
theorem sanitizeMessages_eq_filterMap (messages : List Message) :
    sanitizeMessages messages = messages.filterMap (sanitizeMessage (idsToRemove messages)) := by
  unfold sanitizeMessages
  split
  · next h =>
    rw [List.isEmpty_iff.mp h]
    simp [funext sanitizeMessage_nil]
  · rfl

/-- Both passes on one message. -/
def repairMessage (removed : List String) (msg : Message) : Option Message :=
  sanitizeMessage removed (normalizeMessage msg)

theorem declaredIds_normalize (messages : List Message) :
    declaredIds (normalizeMessagesForCache messages) = declaredIds messages := by
  simp only [declaredIds, normalizeMessagesForCache, List.flatMap_map, declaredBy_normalizeMessage]

theorem referencedIds_normalize (messages : List Message) :
    referencedIds (normalizeMessagesForCache messages) = referencedIds messages := by
  simp only [referencedIds, normalizeMessagesForCache, List.filterMap_map, Function.comp_def,
    referencedBy_normalizeMessage]

/-- Both passes on a history; `request_pipeline.py:153–205,336–406`. -/
theorem sanitize_normalize_eq (messages : List Message) :
    sanitizeMessages (normalizeMessagesForCache messages) =
      messages.filterMap (repairMessage (idsToRemove messages)) := by
  have hremoved : idsToRemove (normalizeMessagesForCache messages) = idsToRemove messages := by
    simp only [idsToRemove, declaredIds_normalize, referencedIds_normalize]
  rw [sanitizeMessages_eq_filterMap, hremoved, normalizeMessagesForCache, List.filterMap_map]
  rfl

/-- The declared ids of a repaired history. -/
theorem declaredIds_repair (removed : List String) (messages : List Message) :
    declaredIds (messages.filterMap (repairMessage removed)) =
      (declaredIds messages).filter (outside removed) := by
  rw [← declaredIds_normalize messages, ← declaredIds_filterMap, normalizeMessagesForCache,
    List.filterMap_map]
  rfl

/-- The answered ids of a repaired history. -/
theorem referencedIds_repair (removed : List String) (messages : List Message) :
    referencedIds (messages.filterMap (repairMessage removed)) =
      (referencedIds messages).filter (outside removed) := by
  rw [← referencedIds_normalize messages, ← referencedIds_filterMap, normalizeMessagesForCache,
    List.filterMap_map]
  rfl

/-! ### One message -/

/-- The role of a normalized message. -/
theorem role_normalizeMessage (msg : Message) :
    (normalizeMessage msg).role = msg.role.orDefault "user" := by
  unfold normalizeMessage
  dsimp only
  split
  · rfl
  · split <;> rfl

/-- The calls of a normalized message. -/
theorem calls_normalizeMessage (msg : Message) :
    (normalizeMessage msg).calls = if msg.role.orDefault "user" = .value "assistant" then msg.calls
      else [] := by
  unfold normalizeMessage
  dsimp only
  split
  · next htool => rw [if_neg (by simp [htool])]; rfl
  · split
    · next hturn => rw [if_pos hturn.1]; rfl
    · next hturn =>
      split
      · next hassistant =>
        have hidle : msg.calls = [] := by simpa [hassistant] using hturn
        rw [hidle]
        rfl
      · rfl

/-- The default role is none of the two that the pairing reads. -/
private theorem hasRole_orDefault {msg msg' : Message} {role : String} (hrole : role ≠ "user")
    (h : msg'.role = msg.role.orDefault "user") : msg'.hasRole role = msg.hasRole role := by
  unfold Message.hasRole
  rw [h]
  cases msg.role with
  | absent => simp [DictField.orDefault, Ne.symm hrole]
  | null => rfl
  | value r => rfl

/-- Normalization makes no tool message and loses none. -/
theorem hasRole_tool_normalize (msg : Message) :
    (normalizeMessage msg).hasRole "tool" = msg.hasRole "tool" :=
  hasRole_orDefault (by decide) (role_normalizeMessage msg)

/-- Normalization makes no tool turn and loses none. -/
theorem isToolTurn_normalize (msg : Message) :
    (normalizeMessage msg).isToolTurn = msg.isToolTurn := by
  unfold Message.isToolTurn
  rw [hasRole_orDefault (by decide) (role_normalizeMessage msg), calls_normalizeMessage]
  by_cases hrole : msg.hasRole "assistant" = true
  · have hvalue : msg.role = .value "assistant" := by simpa [Message.hasRole] using hrole
    rw [hvalue, DictField.orDefault_value, if_pos rfl]
  · simp [hrole]

/-- A tool turn keeps its calls and its content. -/
theorem normalizeMessage_of_isToolTurn {msg : Message} (h : msg.isToolTurn = true) :
    (normalizeMessage msg).calls = msg.calls ∧
      (normalizeMessage msg).contentOr = msg.contentOr := by
  have hrole : msg.role = .value "assistant" := by
    simp only [Message.isToolTurn, Message.hasRole, Bool.and_eq_true, decide_eq_true_eq] at h
    exact h.1
  have hcontent : normalizeContent (.value "assistant") msg.contentOr = msg.contentOr := by
    cases msg.contentOr <;> rfl
  constructor
  · rw [calls_normalizeMessage, hrole, DictField.orDefault_value, if_pos rfl]
  · rw [Message.contentOr, content_normalizeMessage, hrole, DictField.orDefault_value,
      Option.getD_some, hcontent]

/-- The id of an answer is kept. -/
theorem toolCallId_normalize {msg : Message} (h : msg.hasRole "tool" = true) :
    (normalizeMessage msg).toolCallId.text = msg.toolCallId.text := by
  obtain ⟨role, content, toolCalls, toolCallId, reasoning, name⟩ := msg
  obtain rfl : role = .value "tool" := by simpa [Message.hasRole] using h
  cases toolCallId <;> rfl

/-- A message is an answer, a tool turn or plain. -/
theorem kind_cases (msg : Message) :
    (msg.hasRole "tool" = true ∧ msg.isToolTurn = false) ∨
      (msg.hasRole "tool" = false ∧ msg.isToolTurn = true) ∨ msg.isPlain = true := by
  by_cases htool : msg.hasRole "tool" = true
  · have hrole : msg.role = .value "tool" := by simpa [Message.hasRole] using htool
    left
    exact ⟨htool, by simp [Message.isToolTurn, Message.hasRole, hrole]⟩
  · by_cases hturn : msg.isToolTurn = true
    · exact .inr (.inl ⟨by simpa using htool, hturn⟩)
    · right
      right
      simp [Message.isPlain, htool, hturn]

/-- A plain message is only normalized. -/
theorem repairMessage_of_isPlain {removed : List String} {msg : Message}
    (h : msg.isPlain = true) : repairMessage removed msg = some (normalizeMessage msg) := by
  simp only [Message.isPlain, Bool.and_eq_true, Bool.not_eq_true'] at h
  unfold repairMessage sanitizeMessage
  rw [if_neg (by simp [hasRole_tool_normalize, h.1]), if_neg (by simp [isToolTurn_normalize, h.2])]

/-- An answer becomes a user text, or it is only normalized. -/
theorem repairMessage_of_answer (removed : List String) {msg : Message}
    (htool : msg.hasRole "tool" = true) (hturn : msg.isToolTurn = false) :
    ((∃ id, msg.toolCallId.text = some id ∧ id ∈ removed) ∧
        ∃ kept, repairMessage removed msg = some kept ∧ kept.hasRole "tool" = false ∧
          kept.isToolTurn = false ∧ kept.dropIdle = kept) ∨
      ((∀ id, msg.toolCallId.text = some id → id ∉ removed) ∧
        repairMessage removed msg = some (normalizeMessage msg)) := by
  unfold repairMessage sanitizeMessage
  rw [hasRole_tool_normalize, toolCallId_normalize htool, isToolTurn_normalize, hturn]
  by_cases hid : ∃ id, msg.toolCallId.text = some id ∧ id ∈ removed
  · left
    rw [if_pos ⟨htool, by simpa using hid⟩]
    exact ⟨hid, _, rfl, rfl, rfl, rfl⟩
  · right
    rw [if_neg fun h ↦ hid (by simpa using h.2), if_neg nofun]
    exact ⟨fun id htext hmem ↦ hid ⟨id, htext, hmem⟩, rfl⟩

/-- A tool turn keeps the calls whose id stays. With none left it keeps its text, and its key
for the calls. -/
theorem repairMessage_of_turn {removed : List String} {msg : Message}
    (htool : msg.hasRole "tool" = false) (hturn : msg.isToolTurn = true) :
    repairMessage removed msg =
      if msg.calls.filter (fun tc ↦ tc.tcId.all (outside removed)) ≠ [] then
        some { normalizeMessage msg with
               toolCalls := .value (msg.calls.filter (fun tc ↦ tc.tcId.all (outside removed))) }
      else if msg.contentOr.truthy then some { normalizeMessage msg with toolCalls := .null }
      else none := by
  obtain ⟨hcalls, hcontent⟩ := normalizeMessage_of_isToolTurn hturn
  unfold repairMessage sanitizeMessage
  rw [if_neg (by simp [hasRole_tool_normalize, htool]),
    if_pos (by rw [isToolTurn_normalize, hturn]), hcalls, hcontent]
  simp

/-! ### What is asked of a kept message, asked of the given one -/

private theorem role_of_isToolTurn {msg : Message} (h : msg.isToolTurn = true) :
    msg.role = .value "assistant" := by
  simp only [Message.isToolTurn, Message.hasRole, Bool.and_eq_true, decide_eq_true_eq] at h
  exact h.1

/-- A kept answer has a wanted id when the answer has one that is removed or wanted. -/
theorem answer_repair_iff (removed : List String) (msg : Message) (wanted : String → Prop) :
    (∀ kept, repairMessage removed msg = some kept → kept.hasRole "tool" = true →
        ∃ id, kept.toolCallId.text = some id ∧ wanted id) ↔
      (msg.hasRole "tool" = true →
        ∃ id, msg.toolCallId.text = some id ∧ (id ∈ removed ∨ wanted id)) := by
  obtain ⟨htool, hturn⟩ | ⟨htool, hturn⟩ | hplain := kind_cases msg
  · obtain ⟨⟨id, htext, hmem⟩, kept, hkept, hrole, -⟩ | ⟨hstays, hkept⟩ :=
      repairMessage_of_answer removed htool hturn
    · have hleft : ∀ kept', repairMessage removed msg = some kept' →
          kept'.hasRole "tool" = false := by
        intro kept' h
        rw [hkept] at h
        exact Option.some.inj h ▸ hrole
      exact ⟨fun _ _ ↦ ⟨id, htext, .inl hmem⟩, fun _ kept' h h' ↦ by simp [hleft kept' h] at h'⟩
    · rw [hkept]
      simp only [Option.some.injEq, forall_eq', hasRole_tool_normalize, toolCallId_normalize htool]
      refine forall_congr' fun _ ↦ exists_congr fun id ↦ and_congr_right fun htext ↦ ?_
      exact ⟨.inr, fun h ↦ h.resolve_left (hstays id htext)⟩
  · have hkeep : ∀ kept, repairMessage removed msg = some kept → kept.hasRole "tool" = false := by
      intro kept h
      have hrole := role_of_isToolTurn hturn
      rw [repairMessage_of_turn htool hturn] at h
      split at h
      · obtain rfl := Option.some.inj h
        simp [Message.hasRole, role_normalizeMessage, hrole]
      · split at h
        · obtain rfl := Option.some.inj h
          simp [Message.hasRole, role_normalizeMessage, hrole]
        · cases h
    exact ⟨fun _ h ↦ by simp [htool] at h, fun _ kept h h' ↦ by simp [hkeep kept h] at h'⟩
  · have htool : msg.hasRole "tool" = false := by
      simp only [Message.isPlain, Bool.and_eq_true, Bool.not_eq_true'] at hplain
      exact hplain.1
    rw [repairMessage_of_isPlain hplain]
    simp [hasRole_tool_normalize, htool]

/-- The calls of a kept turn have wanted ids when each call has an id that is removed or wanted. -/
theorem call_repair_iff (removed : List String) (msg : Message) (wanted : String → Prop) :
    (∀ kept, repairMessage removed msg = some kept → kept.isToolTurn = true → ∀ tc ∈ kept.calls,
        ∃ id, tc.tcId = some id ∧ wanted id) ↔
      (msg.isToolTurn = true → ∀ tc ∈ msg.calls,
        ∃ id, tc.tcId = some id ∧ (id ∈ removed ∨ wanted id)) := by
  obtain ⟨htool, hturn⟩ | ⟨htool, hturn⟩ | hplain := kind_cases msg
  · have hkeep : ∀ kept, repairMessage removed msg = some kept → kept.isToolTurn = false := by
      intro kept h
      obtain ⟨-, kept', hkept, -, hturn', -⟩ | ⟨-, hkept⟩ :=
        repairMessage_of_answer removed htool hturn
      · rw [hkept] at h
        exact Option.some.inj h ▸ hturn'
      · rw [hkept] at h
        rw [← Option.some.inj h, isToolTurn_normalize, hturn]
    exact ⟨fun _ h ↦ by simp [hturn] at h, fun _ kept h h' ↦ by simp [hkeep kept h] at h'⟩
  · have hcall : ∀ tc : ToolCall, (tc.tcId.all (outside removed) = true →
          ∃ id, tc.tcId = some id ∧ wanted id) ↔
        ∃ id, tc.tcId = some id ∧ (id ∈ removed ∨ wanted id) := by
      intro tc
      cases htc : tc.tcId with
      | none => simp
      | some id =>
        by_cases hmem : id ∈ removed <;> simp [hmem]
    have hassistant := role_of_isToolTurn hturn
    have hkept : (∀ kept, repairMessage removed msg = some kept → kept.isToolTurn = true →
          ∀ tc ∈ kept.calls, ∃ id, tc.tcId = some id ∧ wanted id) ↔
        ∀ tc ∈ msg.calls.filter (fun tc ↦ tc.tcId.all (outside removed)),
          ∃ id, tc.tcId = some id ∧ wanted id := by
      rw [repairMessage_of_turn htool hturn]
      generalize msg.calls.filter (fun tc ↦ tc.tcId.all (outside removed)) = kept
      cases kept with
      | nil =>
        cases msg.contentOr.truthy <;>
          simp [Message.isToolTurn, Message.calls, DictField.toOption]
      | cons tc rest =>
        simp [Message.isToolTurn, Message.hasRole, Message.calls, DictField.toOption,
          role_normalizeMessage, hassistant]
    rw [hkept]
    simp only [List.mem_filter, and_imp, hturn, true_implies]
    exact forall₂_congr fun tc _ ↦ hcall tc
  · have hturn : msg.isToolTurn = false := by
      simp only [Message.isPlain, Bool.and_eq_true, Bool.not_eq_true'] at hplain
      exact hplain.2
    rw [repairMessage_of_isPlain hplain]
    simp [isToolTurn_normalize, hturn]

/-- A kept message has no idle key unless it is a turn that keeps its text and loses its calls. -/
theorem idle_repair_iff (removed : List String) (msg : Message) :
    (∀ kept, repairMessage removed msg = some kept → kept.dropIdle = kept) ↔
      (msg.isToolTurn = true → msg.contentOr.truthy = true →
        ∃ tc ∈ msg.calls, ∀ id, tc.tcId = some id → id ∉ removed) := by
  obtain ⟨htool, hturn⟩ | ⟨htool, hturn⟩ | hplain := kind_cases msg
  · rw [hturn]
    refine iff_of_true (fun kept h ↦ ?_) nofun
    obtain ⟨-, kept', hkept, -, -, hdrop⟩ | ⟨-, hkept⟩ :=
      repairMessage_of_answer removed htool hturn
    · rw [hkept] at h
      exact Option.some.inj h ▸ hdrop
    · rw [hkept] at h
      exact Option.some.inj h ▸ dropIdle_normalizeMessage msg
  · have hkept : (∃ tc ∈ msg.calls, ∀ id, tc.tcId = some id → id ∉ removed) ↔
        msg.calls.filter (fun tc ↦ tc.tcId.all (outside removed)) ≠ [] := by
      rw [Ne, List.eq_nil_iff_forall_not_mem, not_forall_not]
      simp only [List.mem_filter]
      refine exists_congr fun tc ↦ and_congr_right fun _ ↦ ?_
      cases tc.tcId <;> simp
    rw [hkept, repairMessage_of_turn htool hturn]
    generalize msg.calls.filter (fun tc ↦ tc.tcId.all (outside removed)) = kept
    cases kept with
    | nil =>
      cases htext : msg.contentOr.truthy <;>
        simp [hturn, Message.dropIdle, Message.calls, DictField.toOption]
    | cons tc rest => simp [Message.dropIdle, Message.calls, DictField.toOption]
  · have hturn : msg.isToolTurn = false := by
      simp only [Message.isPlain, Bool.and_eq_true, Bool.not_eq_true'] at hplain
      exact hplain.2
    rw [repairMessage_of_isPlain hplain]
    simp [dropIdle_normalizeMessage, hturn]

/-! ### The whole history -/

/-- An answered id is removed when it is not declared. -/
theorem mem_idsToRemove_of_referenced {messages : List Message} {id : String}
    (h : id ∈ referencedIds messages) :
    id ∈ idsToRemove messages ↔ id ∉ declaredIds messages := by
  simp [idsToRemove, h]

/-- A declared id is removed when it is not answered. -/
theorem mem_idsToRemove_of_declared {messages : List Message} {id : String}
    (h : id ∈ declaredIds messages) :
    id ∈ idsToRemove messages ↔ id ∉ referencedIds messages := by
  simp [idsToRemove, h]

/-- The id of an answer is an answered id. -/
theorem mem_referencedIds {messages : List Message} {msg : Message} {id : String}
    (hmem : msg ∈ messages) (htool : msg.hasRole "tool" = true)
    (htext : msg.toolCallId.text = some id) : id ∈ referencedIds messages :=
  List.mem_filterMap.mpr ⟨msg, hmem, by rw [referencedBy, if_pos htool, htext]⟩

/-- The id of a call is a declared id. -/
theorem mem_declaredIds {messages : List Message} {msg : Message} {tc : ToolCall} {id : String}
    (hmem : msg ∈ messages) (hturn : msg.isToolTurn = true) (htc : tc ∈ msg.calls)
    (hid : tc.tcId = some id) : id ∈ declaredIds messages := by
  refine List.mem_flatMap.mpr ⟨msg, hmem, ?_⟩
  rw [declaredBy, if_pos hturn]
  exact List.mem_filterMap.mpr ⟨tc, htc, hid⟩

/-- What is kept answers earlier turns when the given answers do, or are removed. -/
theorem answersDeclared_repair_iff (given : List Message) :
    AnswersDeclared (given.filterMap (repairMessage (idsToRemove given))) ↔
      EveryPlace (fun before msg _ ↦ msg.hasRole "tool" = true →
        ∃ id, msg.toolCallId.text = some id ∧
          (id ∈ declaredIds given → id ∈ declaredIds before)) given := by
  unfold AnswersDeclared
  rw [everyPlace_filterMap_iff]
  apply everyPlace_congr
  intro before msg after hsplit
  have hmem : msg ∈ given := by simp [hsplit]
  rw [answer_repair_iff]
  refine forall_congr' fun htool ↦ exists_congr fun id ↦ and_congr_right fun htext ↦ ?_
  have hremoved := mem_idsToRemove_of_referenced (mem_referencedIds hmem htool htext)
  rw [declaredIds_repair, List.mem_filter, outside_iff, hremoved]
  tauto

/-- What is kept is answered later when the given calls are, or are removed. -/
theorem callsAnswered_repair_iff (given : List Message) :
    CallsAnswered (given.filterMap (repairMessage (idsToRemove given))) ↔
      EveryPlace (fun _ msg after ↦ msg.isToolTurn = true → ∀ tc ∈ msg.calls,
        ∃ id, tc.tcId = some id ∧
          (id ∈ referencedIds given → id ∈ referencedIds after)) given := by
  unfold CallsAnswered
  rw [everyPlace_filterMap_iff]
  apply everyPlace_congr
  intro before msg after hsplit
  have hmem : msg ∈ given := by simp [hsplit]
  rw [call_repair_iff]
  refine forall_congr' fun hturn ↦ forall₂_congr fun tc htc ↦ exists_congr fun id ↦
    and_congr_right fun hid ↦ ?_
  have hremoved := mem_idsToRemove_of_declared (mem_declaredIds hmem hturn htc hid)
  rw [referencedIds_repair, List.mem_filter, outside_iff, hremoved]
  tauto

/-- A history of settled, matching messages is left alone when no message has an idle key. -/
theorem again_eq_self_iff {messages : List Message} (hsettled : ∀ msg ∈ messages, msg.Settled)
    (hmatched : Matched messages) :
    sanitizeMessages (normalizeMessagesForCache messages) = messages ↔
      ∀ msg ∈ messages, msg.dropIdle = msg := by
  rw [sanitizeMessages_of_matched ((matched_normalize_iff messages).mpr hmatched),
    normalizeMessagesForCache]
  have hdrop : messages.map normalizeMessage = messages.map Message.dropIdle :=
    List.map_congr_left hsettled
  rw [hdrop]
  nth_rewrite 2 [← List.map_id messages]
  rw [List.map_inj_left]
  rfl

/-- The passes change nothing the second time when every turn with a text keeps a call. -/
theorem again_repair_iff (given : List Message) :
    sanitizeMessages (normalizeMessagesForCache
        (sanitizeMessages (normalizeMessagesForCache given))) =
          sanitizeMessages (normalizeMessagesForCache given) ↔
      ∀ msg ∈ given, msg.isToolTurn = true → msg.contentOr.truthy = true →
        ∃ tc ∈ msg.calls, ∀ id, tc.tcId = some id → id ∈ referencedIds given := by
  have hsettled : ∀ msg ∈ normalizeMessagesForCache given, msg.Settled := by
    intro msg hmem
    obtain ⟨m, -, rfl⟩ := List.mem_map.mp hmem
    exact settled_normalizeMessage m
  rw [again_eq_self_iff (settled_sanitizeMessages hsettled) (matched_sanitizeMessages _),
    sanitize_normalize_eq]
  have hplaces : (∀ kept ∈ given.filterMap (repairMessage (idsToRemove given)),
        kept.dropIdle = kept) ↔
      ∀ msg ∈ given, ∀ kept, repairMessage (idsToRemove given) msg = some kept →
        kept.dropIdle = kept := by
    simp only [List.mem_filterMap]
    exact ⟨fun h msg hmem kept hkept ↦ h kept ⟨msg, hmem, hkept⟩,
      fun h kept ⟨msg, hmem, hkept⟩ ↦ h msg hmem kept hkept⟩
  rw [hplaces]
  refine forall₂_congr fun msg hmem ↦ ?_
  rw [idle_repair_iff]
  refine forall₂_congr fun hturn _ ↦ exists_congr fun tc ↦ and_congr_right fun htc ↦ ?_
  refine forall₂_congr fun id hid ↦ ?_
  rw [mem_idsToRemove_of_declared (mem_declaredIds hmem hturn htc hid), not_not]

/-- Normalization and sanitization repair exactly the repairable histories. -/
theorem repaired_iff (given : List Message) :
    Repaired given (sanitizeMessages (normalizeMessagesForCache given)) ↔ Repairable given := by
  have hplain : ∃ f : Message → Option Message,
      given.filterMap (repairMessage (idsToRemove given)) = given.filterMap f ∧
        ∀ msg ∈ given, msg.isPlain = true → ∃ kept, f msg = some kept ∧
          kept.role = msg.role.orDefault "user" ∧
            kept.content = some (normalizeContent msg.role msg.contentOr) := by
    refine ⟨_, rfl, fun msg _ hplain ↦ ⟨_, repairMessage_of_isPlain hplain,
      role_normalizeMessage msg, ?_⟩⟩
    rw [content_normalizeMessage]
    have hrole : (msg.role.orDefault "user" = .value "system") ↔ msg.role = .value "system" := by
      cases msg.role <;> simp [DictField.orDefault]
    cases msg.contentOr <;> simp [normalizeContent, hrole]
  constructor
  · intro h
    have hagain := (again_repair_iff given).mp h.settled
    rw [sanitize_normalize_eq] at h
    exact ⟨(answersDeclared_repair_iff given).mp h.answers,
      (callsAnswered_repair_iff given).mp h.calls, hagain⟩
  · intro h
    have hagain := (again_repair_iff given).mpr h.texts
    rw [sanitize_normalize_eq given] at hagain ⊢
    exact ⟨(answersDeclared_repair_iff given).mpr h.answers,
      (callsAnswered_repair_iff given).mpr h.calls, hplain, hagain⟩

/-- A call whose answer came without an id. -/
def unnamedAnswer : List Message :=
  [⟨.value "user", some (.str "read it"), .absent, .absent, .absent, .absent⟩,
   ⟨.value "assistant", some (.str ""),
    .value [⟨.value "call_1", .absent, .null, .null⟩], .absent, .absent, .absent⟩,
   ⟨.value "tool", some (.str "42"), .absent, .absent, .absent, .absent⟩]

/-- The call is dropped, and the answer stays with an empty id. -/
theorem not_repaired_unnamedAnswer :
    ¬ Repaired unnamedAnswer (sanitizeMessages (normalizeMessagesForCache unnamedAnswer)) := by
  intro h
  have hresult : sanitizeMessages (normalizeMessagesForCache unnamedAnswer) =
      [⟨.value "user", some (.str "read it"), .absent, .absent, .absent, .absent⟩] ++
        ⟨.value "tool", some (.str "42"), .absent, .value "", .absent, .absent⟩ :: [] := rfl
  obtain ⟨id, hid, -⟩ := h.answers _ _ _ hresult rfl
  cases hid

end LcpGateway.Chat
