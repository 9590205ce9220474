import LcpGateway.Base.Text
import LcpGateway.Chat.Message
import Mathlib.Data.List.Sort

/-!
# Prefix-cache normalization

Library `Chat`. Source `src/api/request_pipeline.py:153–223`. Normalization rebuilds each
message from the fields a provider needs, so it is a function of one message at a time;
tools are sorted by name, and Python's sort is stable.
-/

namespace LcpGateway.Chat
open LcpGateway.Base

/-- The content kept for a message: system text loses its trailing white space. -/
def normalizeContent (role : DictField String) (content : Json) : Json :=
  match content with
  | .str s => if role = .value "system" then .str (rstrip s) else .str s
  | c => c

/-- `name`, when it is truthy. -/
def normalizeName (name : DictField String) : DictField String :=
  match name.text with
  | some s => .value s
  | none => .absent

/-- The loop body of `normalize_messages_for_cache`; `request_pipeline.py:166–205`. -/
def normalizeMessage (msg : Message) : Message :=
  let role := msg.role.orDefault "user"
  let content := normalizeContent role msg.contentOr
  if role = .value "tool" then
    { role, content := some content, toolCallId := msg.toolCallId.orDefault "",
      toolCalls := .absent, reasoningContent := .absent, name := .absent }
  else if role = .value "assistant" ∧ !msg.calls.isEmpty then
    { role, content := some content, toolCalls := msg.toolCalls, toolCallId := .absent,
      reasoningContent := msg.reasoningContent, name := normalizeName msg.name }
  else
    { role, content := some content, toolCalls := .absent, toolCallId := .absent,
      reasoningContent := if role = .value "assistant" then msg.reasoningContent else .absent,
      name := normalizeName msg.name }

/-- `normalize_messages_for_cache`; `request_pipeline.py:153–205`. -/
def normalizeMessagesForCache (messages : List Message) : List Message :=
  messages.map normalizeMessage

/-- `normalize_tools_for_cache`; `request_pipeline.py:208–212`. -/
def normalizeToolsForCache (tools : List Tool) : List Tool :=
  tools.insertionSort (fun s t ↦ s.key ≤ t.key)

/-- A content block with `type == "image_url"`. -/
def isImageBlock (block : Json) : Bool :=
  match block.get? "type" with
  | some t => t.isStr "image_url"
  | none => false

/-- The content holds an image block. -/
def contentHasImage (content : Option Json) : Bool :=
  match content with
  | some (.arr blocks) => blocks.any isImageBlock
  | _ => false

/-- `has_image_content`; `request_pipeline.py:215–223`. -/
def hasImageContent (messages : List Message) : Bool :=
  messages.any (fun msg ↦ contentHasImage msg.content)

/-! ### What normalization keeps -/

/-- The content of a role is a fixed point of its own normalization. -/
@[simp] theorem normalizeContent_idem (role : DictField String) (c : Json) :
    normalizeContent role (normalizeContent role c) = normalizeContent role c := by
  cases c with
  | str s =>
    by_cases hrole : role = .value "system" <;> simp [normalizeContent, hrole]
  | null | bool | int | float | arr | obj => rfl

/-- No name is made up. -/
@[simp] theorem normalizeName_absent : normalizeName .absent = .absent := rfl

/-- A kept name is kept again. -/
@[simp] theorem normalizeName_idem (name : DictField String) :
    normalizeName (normalizeName name) = normalizeName name := by
  cases name with
  | absent | null => rfl
  | value s =>
    by_cases hs : s = "" <;> simp [normalizeName, DictField.text, hs]

/-- Tool sorting is idempotent. -/
@[simp] theorem normalizeToolsForCache_idem (tools : List Tool) :
    normalizeToolsForCache (normalizeToolsForCache tools) = normalizeToolsForCache tools := by
  unfold normalizeToolsForCache
  have htotal : Std.Total (fun s t : Tool ↦ s.key ≤ t.key) := ⟨fun s t ↦ le_total s.key t.key⟩
  have htrans : IsTrans Tool (fun s t : Tool ↦ s.key ≤ t.key) :=
    ⟨fun _ _ _ hst htu ↦ le_trans hst htu⟩
  exact (List.pairwise_insertionSort (fun s t : Tool ↦ s.key ≤ t.key) tools).insertionSort_eq

/-- A message without its `tool_calls` key, when that key holds nothing. -/
def Message.dropIdle (msg : Message) : Message :=
  if msg.calls.isEmpty then { msg with toolCalls := .absent } else msg

/-- Normalizing the message drops at most an idle `tool_calls` key. -/
def Message.Settled (msg : Message) : Prop := normalizeMessage msg = msg.dropIdle

/-- An assistant message is settled when its content, name and ids are; the tool calls and
the reasoning are carried through. -/
theorem settled_assistant_iff {msg : Message} (hrole : msg.role = .value "assistant") :
    msg.Settled ↔ msg.content = some (normalizeContent msg.role msg.contentOr) ∧
      msg.toolCallId = .absent ∧ normalizeName msg.name = msg.name := by
  obtain ⟨role, content, toolCalls, toolCallId, reasoningContent, name⟩ := msg
  obtain rfl : role = .value "assistant" := hrole
  cases hidle : toolCalls.toOption.getD [] with
  | nil =>
    simp [Message.Settled, normalizeMessage, Message.dropIdle, Message.calls, hidle,
      DictField.orDefault, Message.contentOr, eq_comm]
  | cons tc rest =>
    simp [Message.Settled, normalizeMessage, Message.dropIdle, Message.calls, hidle,
      DictField.orDefault, Message.contentOr, eq_comm]

/-- The tool calls of a settled assistant message may change. -/
theorem Message.Settled.withCalls {msg : Message} (hs : msg.Settled)
    (hrole : msg.role = .value "assistant") (calls : DictField (List ToolCall)) :
    ({ msg with toolCalls := calls } : Message).Settled := by
  have hrole' : ({ msg with toolCalls := calls } : Message).role = .value "assistant" := hrole
  exact (settled_assistant_iff hrole').mpr ((settled_assistant_iff hrole).mp hs)

/-- The reasoning of a settled assistant message may change. -/
theorem Message.Settled.withReasoning {msg : Message} (hs : msg.Settled)
    (hrole : msg.role = .value "assistant") (reasoning : DictField String) :
    ({ msg with reasoningContent := reasoning } : Message).Settled := by
  have hrole' : ({ msg with reasoningContent := reasoning } : Message).role =
    .value "assistant" := hrole
  exact (settled_assistant_iff hrole').mpr ((settled_assistant_iff hrole).mp hs)

/-- Normalization of a message is idempotent. -/
@[simp] theorem normalizeMessage_idem (msg : Message) :
    normalizeMessage (normalizeMessage msg) = normalizeMessage msg := by
  obtain ⟨role, content, toolCalls, toolCallId, reasoningContent, name⟩ := msg
  by_cases htool : role.orDefault "user" = .value "tool"
  · simp [normalizeMessage, htool, Message.contentOr]
  · by_cases hassistant : role.orDefault "user" = .value "assistant"
    · cases hcalls : toolCalls.toOption.getD [] with
      | nil =>
        simp [normalizeMessage, hassistant, Message.calls, hcalls, Message.contentOr]
      | cons tc rest =>
        simp [normalizeMessage, hassistant, Message.calls, hcalls, Message.contentOr]
    · simp [normalizeMessage, htool, hassistant, Message.contentOr]

/-- A normalized message carries no idle `tool_calls` key. -/
theorem dropIdle_normalizeMessage (msg : Message) :
    (normalizeMessage msg).dropIdle = normalizeMessage msg := by
  unfold normalizeMessage
  dsimp only
  split
  · simp [Message.dropIdle]
  · split
    · next h => simp [Message.dropIdle, Message.calls] at h ⊢; exact fun hidle ↦ absurd hidle h.2
    · simp [Message.dropIdle]

/-- A normalized message is settled. -/
theorem settled_normalizeMessage (msg : Message) : (normalizeMessage msg).Settled := by
  rw [Message.Settled, normalizeMessage_idem, dropIdle_normalizeMessage]

/-- Normalization keeps the image blocks of a message. -/
theorem contentHasImage_normalizeMessage (msg : Message) :
    contentHasImage (normalizeMessage msg).content = contentHasImage msg.content := by
  have hkeep : ∀ role, contentHasImage (some (normalizeContent role msg.contentOr)) =
      contentHasImage msg.content := by
    intro role
    cases hc : msg.content with
    | none =>
      simp only [Message.contentOr, hc, Option.getD_none, normalizeContent]
      split <;> rfl
    | some c =>
      cases c with
      | str s =>
        simp only [Message.contentOr, hc, Option.getD_some, normalizeContent]
        split <;> rfl
      | null | bool | int | float | arr | obj => simp [Message.contentOr, hc, normalizeContent]
  unfold normalizeMessage
  dsimp only
  split
  · exact hkeep _
  · split <;> exact hkeep _

/-- Normalization keeps the image content of a request. -/
@[simp] theorem hasImageContent_normalize (messages : List Message) :
    hasImageContent (normalizeMessagesForCache messages) = hasImageContent messages := by
  simp only [hasImageContent, normalizeMessagesForCache, List.any_map, Function.comp_def,
    contentHasImage_normalizeMessage]

/-! ### Messages that normalization leaves alone -/

/-- A message with the keys its role calls for and no other, and no white space behind a system
text. -/
structure Message.Canonical (msg : Message) : Prop where
  role : msg.role.present
  content : msg.content.isSome
  trimmed : ∀ s, msg.role = .value "system" → msg.content = some (.str s) → rstrip s = s
  answers : msg.toolCallId.present ↔ msg.role = .value "tool"
  calls : msg.toolCalls.present → msg.role = .value "assistant" ∧ msg.calls ≠ []
  reasons : msg.reasoningContent.present → msg.role = .value "assistant"
  named : msg.name.present → msg.role ≠ .value "tool" ∧ msg.name.text.isSome

/-- A content is left alone unless it is a system text with white space at its end. -/
theorem normalizeContent_eq_self_iff (role : DictField String) (c : Json) :
    normalizeContent role c = c ↔ ∀ s, role = .value "system" → c = .str s → rstrip s = s := by
  cases c with
  | str s =>
    by_cases hrole : role = .value "system" <;> simp [normalizeContent, hrole]
  | null | bool | int | float | arr | obj => simp [normalizeContent]

/-- A name is left alone when it is missing or not empty. -/
theorem normalizeName_eq_self_iff (name : DictField String) :
    normalizeName name = name ↔ (name.present → name.text.isSome) := by
  cases name with
  | absent => simp [DictField.present]
  | null => simp [normalizeName, DictField.text, DictField.present]
  | value s => by_cases hs : s = "" <;> simp [normalizeName, DictField.text, DictField.present, hs]

/-- A field is missing exactly when it is not present. -/
theorem DictField.present_eq_false_iff {α : Type} (f : DictField α) :
    f.present = false ↔ f = .absent := by
  cases f <;> simp [DictField.present]

/-- A default leaves exactly the present fields alone. -/
theorem DictField.orDefault_eq_self_iff {α : Type} (f : DictField α) (d : α) :
    f.orDefault d = f ↔ f.present := by
  cases f <;> simp [DictField.present, DictField.orDefault]

/-- The content of a normalized message. -/
theorem content_normalizeMessage (msg : Message) :
    (normalizeMessage msg).content =
      some (normalizeContent (msg.role.orDefault "user") msg.contentOr) := by
  unfold normalizeMessage
  dsimp only
  split
  · rfl
  · split <;> rfl

/-- A normalized message is canonical. -/
theorem canonical_normalizeMessage (msg : Message) : (normalizeMessage msg).Canonical := by
  have hrole : (msg.role.orDefault "user").present := by cases msg.role <;> rfl
  have htrimmed : ∀ s, msg.role.orDefault "user" = .value "system" →
      some (normalizeContent (msg.role.orDefault "user") msg.contentOr) = some (.str s) →
      rstrip s = s := fun s hsystem hs ↦
    (normalizeContent_eq_self_iff _ _).mp (normalizeContent_idem _ msg.contentOr) s hsystem
      (Option.some.inj hs)
  have hname : (normalizeName msg.name).present → (normalizeName msg.name).text.isSome :=
    (normalizeName_eq_self_iff _).mp (normalizeName_idem msg.name)
  unfold normalizeMessage
  dsimp only
  split
  · next htool =>
    have hanswer : (msg.toolCallId.orDefault "").present := by cases msg.toolCallId <;> rfl
    exact ⟨hrole, rfl, htrimmed, iff_of_true hanswer htool, nofun, nofun, nofun⟩
  · next htool =>
    split
    · next hturn =>
      refine ⟨hrole, rfl, htrimmed, iff_of_false nofun htool, fun _ ↦ ⟨hturn.1, ?_⟩,
        fun _ ↦ hturn.1, fun hpresent ↦ ⟨htool, hname hpresent⟩⟩
      simpa [Message.calls] using hturn.2
    · refine ⟨hrole, rfl, htrimmed, iff_of_false nofun htool, nofun, fun hpresent ↦ ?_,
        fun hpresent ↦ ⟨htool, hname hpresent⟩⟩
      dsimp only at hpresent ⊢
      split at hpresent
      · assumption
      · exact nomatch hpresent

/-- Normalization leaves exactly the canonical messages alone. -/
theorem normalizeMessage_eq_self_iff (msg : Message) :
    normalizeMessage msg = msg ↔ msg.Canonical := by
  constructor
  · intro h
    exact h ▸ canonical_normalizeMessage msg
  · intro h
    have hrole := (DictField.orDefault_eq_self_iff msg.role "user").mpr h.role
    obtain ⟨c, hc⟩ := Option.isSome_iff_exists.mp h.content
    have hcontent : normalizeContent msg.role msg.contentOr = c := by
      rw [Message.contentOr, hc, Option.getD_some]
      exact (normalizeContent_eq_self_iff msg.role c).mpr fun s hsystem hs ↦
        h.trimmed s hsystem (hs ▸ hc)
    have habsent : ∀ {α : Type} {f : DictField α}, ¬ f.present → f = .absent := fun {_ f} hf ↦
      (DictField.present_eq_false_iff f).mp (by simpa using hf)
    unfold normalizeMessage
    rw [hrole]
    dsimp only
    rw [hcontent, ← hc]
    obtain ⟨role, content, toolCalls, toolCallId, reasoning, name⟩ := msg
    split
    · next htool =>
      obtain rfl : role = .value "tool" := htool
      have hother : DictField.value "tool" ≠ DictField.value "assistant" := by decide
      obtain rfl : toolCalls = .absent := habsent fun hpresent ↦ hother (h.calls hpresent).1
      obtain rfl : reasoning = .absent := habsent fun hpresent ↦ hother (h.reasons hpresent)
      obtain rfl : name = .absent := habsent fun hpresent ↦ (h.named hpresent).1 rfl
      have hanswer := (DictField.orDefault_eq_self_iff toolCallId "").mpr (h.answers.mpr rfl)
      rw [hanswer]
    · next htool =>
      obtain rfl : toolCallId = .absent := habsent fun hpresent ↦ htool (h.answers.mp hpresent)
      rw [(normalizeName_eq_self_iff name).mpr fun hpresent ↦ (h.named hpresent).2]
      split
      · rfl
      · next hturn =>
        obtain rfl : toolCalls = .absent := habsent fun hpresent ↦
          hturn ⟨(h.calls hpresent).1, by simpa using (h.calls hpresent).2⟩
        split
        · rfl
        · next hassistant =>
          obtain rfl : reasoning = .absent := habsent fun hpresent ↦
            hassistant (h.reasons hpresent)
          rfl

end LcpGateway.Chat
