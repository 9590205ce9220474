import LcpGateway.Base.ReadBack
import LcpGateway.Chat.Reasoning

/-!
# Request documents

Library `Chat`. The JSON object of a request (`src/server/handler.py:293–313`), the body that is
read off it, and the object the body is written back to. A document keeps its keys in order, since
a dictionary has none. A message that `normalize_messages_for_cache` rebuilt is the six keys of
`Message` and no other, so reading and writing rebuilt messages are inverse.
-/

namespace LcpGateway.Chat
open LcpGateway.Base

/-! ### One field -/

/-- `fields.get(key)` as a field whose values `read` takes. -/
def readField {α : Type} (read : Json → Option α) (key : String) (fields : Fields) :
    Option (DictField α) :=
  match fields.lookup key with
  | none => some .absent
  | some .null => some .null
  | some v => (read v).map .value

/-- The value of a field, as it stands in an object. -/
def DictField.json? {α : Type} (write : α → Json) : DictField α → Option Json
  | .absent => none
  | .null => some .null
  | .value a => some (write a)

/-- The entry of an optional field. -/
def entryOf (key : String) (value : Option Json) : Fields :=
  (value.map (fun v ↦ (key, v))).toList

/-- An optional field has an entry under its own key only. -/
@[simp] theorem lookup_entryOf (key key' : String) (value : Option Json) :
    (entryOf key value).lookup key' = if key' = key then value else none := by
  cases value with
  | none => simp [entryOf]
  | some v =>
    by_cases h : key' = key
    · simp [entryOf, h]
    · have hne : (key' == key) = false := by simpa using h
      simp [entryOf, List.lookup_cons, h, hne]

/-- A field whose value was written is read back. -/
theorem readField_of_lookup {α : Type} {read : Json → Option α} {write : α → Json} {key : String}
    {fields : Fields} {f : DictField α} (hlookup : fields.lookup key = f.json? write)
    (hread : ∀ a, f = .value a → write a ≠ .null ∧ read (write a) = some a) :
    readField read key fields = some f := by
  unfold readField
  rw [hlookup]
  cases f with
  | absent | null => rfl
  | value a =>
    obtain ⟨hne, ha⟩ := hread a rfl
    simp only [DictField.json?]
    rw [ha]
    rfl

/-- A field of strings is read back. -/
theorem readField_text {key : String} {fields : Fields} {f : DictField String}
    (hlookup : fields.lookup key = f.json? .str) : readField Json.text? key fields = some f :=
  readField_of_lookup hlookup fun _ _ ↦ ⟨nofun, rfl⟩

/-! ### Tool calls, messages and tools -/

/-- An entry of `tool_calls`. -/
def ToolCall.ofJson (entry : Json) : Option ToolCall := do
  let fields ← entry.fields?
  let id ← readField Json.text? "id" fields
  let toolCallId ← readField Json.text? "tool_call_id" fields
  return { id, toolCallId, function := (fields.lookup "function").getD .null, entry }

/-- The entries of `tool_calls`. -/
def readCalls (v : Json) : Option (List ToolCall) := v.items?.bind (·.mapM ToolCall.ofJson)

/-- The list of the entries. -/
def writeCalls (calls : List ToolCall) : Json := .arr (calls.map ToolCall.entry)

/-- A message. -/
def Message.ofJson (v : Json) : Option Message := do
  let fields ← v.fields?
  let role ← readField Json.text? "role" fields
  let toolCalls ← readField readCalls "tool_calls" fields
  let toolCallId ← readField Json.text? "tool_call_id" fields
  let reasoningContent ← readField Json.text? "reasoning_content" fields
  let name ← readField Json.text? "name" fields
  return { role, content := fields.lookup "content", toolCalls, toolCallId, reasoningContent, name }

/-- The object of a message that was rebuilt. -/
def Message.toJson (msg : Message) : Json :=
  .obj (entryOf "content" msg.content ++ (entryOf "name" (msg.name.json? .str) ++
    (entryOf "reasoning_content" (msg.reasoningContent.json? .str) ++
      (entryOf "role" (msg.role.json? .str) ++
        (entryOf "tool_call_id" (msg.toolCallId.json? .str) ++
          entryOf "tool_calls" (msg.toolCalls.json? writeCalls))))))

/-- A tool definition; its name is `tool.get("function", {}).get("name")`. -/
def Tool.ofJson (definition : Json) : Option Tool := do
  let fields ← definition.fields?
  let function ← ((fields.lookup "function").getD (.obj [])).fields?
  match function.lookup "name" with
  | none => return { functionName := none, definition }
  | some (.str name) => return { functionName := some name, definition }
  | some _ => none

/-- The value a tool was read off. -/
theorem Tool.definition_of_ofJson {v : Json} {tool : Tool} (h : Tool.ofJson v = some tool) :
    tool.definition = v := by
  simp only [Tool.ofJson, Option.bind_eq_bind, Option.bind_eq_some_iff] at h
  obtain ⟨fields, -, function, -, h⟩ := h
  split at h
  · rw [← Option.some.inj h]
  · rw [← Option.some.inj h]
  · exact nomatch h

/-- The value a tool call was read off. -/
theorem ToolCall.entry_of_ofJson {v : Json} {tc : ToolCall} (h : ToolCall.ofJson v = some tc) :
    tc.entry = v := by
  simp only [ToolCall.ofJson, Option.bind_eq_bind, Option.bind_eq_some_iff] at h
  obtain ⟨fields, -, id, -, toolCallId, -, h⟩ := h
  rw [← Option.some.inj h]

/-- A tool call that is read off its own entry, whose keys are in order. -/
structure ToolCall.Faithful (tc : ToolCall) : Prop where
  reads : ToolCall.ofJson tc.entry = some tc
  ordered : tc.entry.Ordered

/-- A tool that is read off its own definition, whose keys are in order. -/
structure Tool.Faithful (tool : Tool) : Prop where
  reads : Tool.ofJson tool.definition = some tool
  ordered : tool.definition.Ordered

/-- A message whose content has its keys in order and whose calls are read off their entries. -/
structure Message.Faithful (msg : Message) : Prop where
  content : ∀ c ∈ msg.content, c.Ordered
  calls : ∀ tc ∈ msg.calls, tc.Faithful

/-- Calls that are read off their entries are read back. -/
theorem readCalls_writeCalls {calls : List ToolCall} (h : ∀ tc ∈ calls, tc.Faithful) :
    readCalls (writeCalls calls) = some calls :=
  mapM_map_of_forall fun tc htc ↦ (h tc htc).reads

/-- A faithful message is read off the object it is written to. -/
theorem Message.ofJson_toJson {msg : Message} (h : msg.Faithful) :
    Message.ofJson msg.toJson = some msg := by
  have hcalls : ∀ calls, msg.toolCalls = .value calls →
      writeCalls calls ≠ .null ∧ readCalls (writeCalls calls) = some calls := fun calls heq ↦
    ⟨nofun, readCalls_writeCalls fun tc htc ↦
      h.calls tc (by simpa [Message.calls, heq, DictField.toOption] using htc)⟩
  simp only [Message.ofJson, Message.toJson, Json.fields?, Option.bind_eq_bind, Option.bind_some]
  rw [readField_text (f := msg.role) (by simp [List.lookup_append]),
    readField_of_lookup (f := msg.toolCalls) (by simp [List.lookup_append]) hcalls,
    readField_text (f := msg.toolCallId) (by simp [List.lookup_append]),
    readField_text (f := msg.reasoningContent) (by simp [List.lookup_append]),
    readField_text (f := msg.name) (by simp [List.lookup_append])]
  simp [List.lookup_append]

/-- The values of an optional field. -/
theorem mem_entryOf {key : String} {value : Option Json} {e : String × Json} :
    e ∈ entryOf key value ↔ e.1 = key ∧ value = some e.2 := by
  obtain ⟨k, v⟩ := e
  cases value with
  | none => simp [entryOf]
  | some w => simp [entryOf, eq_comm]

/-- A field of strings has its keys in order. -/
theorem DictField.ordered_text {f : DictField String} {v : Json} (h : f.json? .str = some v) :
    v.Ordered := by
  cases f with
  | absent => exact nomatch h
  | null => exact Option.some.inj h ▸ .null
  | value s => exact Option.some.inj h ▸ .str s

/-- An optional field adds its key, or none. -/
theorem keys_entryOf (key : String) (value : Option Json) :
    ((entryOf key value).map Prod.fst).Sublist [key] := by
  cases value with
  | none => exact List.nil_sublist _
  | some v => exact List.Sublist.refl _

/-- The object of a faithful message has its keys in order. -/
theorem Message.ordered_toJson {msg : Message} (h : msg.Faithful) : msg.toJson.Ordered := by
  refine .obj ?_ fun e he ↦ ?_
  · have hkeys : ["content", "name", "reasoning_content", "role", "tool_call_id",
        "tool_calls"].Pairwise (· ≤ ·) := by decide
    refine List.pairwise_map.mp (hkeys.sublist ?_)
    simp only [List.map_append]
    exact (keys_entryOf _ _).append ((keys_entryOf _ _).append ((keys_entryOf _ _).append
      ((keys_entryOf _ _).append ((keys_entryOf _ _).append (keys_entryOf _ _)))))
  · simp only [List.mem_append, mem_entryOf] at he
    rcases he with ⟨-, hv⟩ | ⟨-, hv⟩ | ⟨-, hv⟩ | ⟨-, hv⟩ | ⟨-, hv⟩ | ⟨-, hv⟩
    · exact h.content e.2 hv
    · exact DictField.ordered_text hv
    · exact DictField.ordered_text hv
    · exact DictField.ordered_text hv
    · exact DictField.ordered_text hv
    · cases hcalls : msg.toolCalls with
      | absent => simp [hcalls, DictField.json?] at hv
      | null =>
        rw [hcalls] at hv
        exact Option.some.inj hv ▸ .null
      | value calls =>
        rw [hcalls] at hv
        rw [← Option.some.inj hv]
        refine .arr fun v hmem ↦ ?_
        obtain ⟨tc, htc, rfl⟩ := List.mem_map.mp hmem
        exact (h.calls tc (by simpa [Message.calls, hcalls, DictField.toOption] using htc)).ordered

/-- The items of a list whose keys are in order. -/
theorem ordered_of_mem_items {items : List Json} (h : (Json.arr items).Ordered) :
    ∀ v ∈ items, v.Ordered := by
  cases h with
  | arr h => exact h

/-- The value of a field of an object whose keys are in order. -/
theorem ordered_of_lookup {fields : Fields} (h : (Json.obj fields).Ordered) {key : String}
    {v : Json} (hv : fields.lookup key = some v) : v.Ordered := by
  cases h with
  | obj _ h => exact h (key, v) (mem_of_lookup hv)

/-- A field that was read holds what its value was read to. -/
theorem readField_value {α : Type} {read : Json → Option α} {key : String} {fields : Fields} {a : α}
    (h : readField read key fields = some (.value a)) :
    ∃ v, fields.lookup key = some v ∧ read v = some a := by
  unfold readField at h
  split at h
  · exact nomatch h
  · exact nomatch h
  · next v _ hlookup =>
    obtain ⟨b, hb, heq⟩ := Option.map_eq_some_iff.mp h
    obtain rfl := DictField.value.inj heq
    exact ⟨v, hlookup, hb⟩

/-- A call read off an entry whose keys are in order. -/
theorem ToolCall.faithful_of_ofJson {v : Json} {tc : ToolCall} (hv : v.Ordered)
    (h : ToolCall.ofJson v = some tc) : tc.Faithful := by
  have hentry := ToolCall.entry_of_ofJson h
  exact ⟨hentry.symm ▸ h, hentry.symm ▸ hv⟩

/-- A message read off an object whose keys are in order is faithful. -/
theorem Message.faithful_of_ofJson {v : Json} {msg : Message} (hv : v.Ordered)
    (h : Message.ofJson v = some msg) : msg.Faithful := by
  simp only [Message.ofJson, Option.bind_eq_bind, Option.bind_eq_some_iff] at h
  obtain ⟨fields, hfields, role, -, toolCalls, hcalls, toolCallId, -, reasoning, -, name, -, h⟩ := h
  obtain rfl := fields?_eq_some_iff.mp hfields
  obtain rfl := Option.some.inj h
  refine ⟨fun c hc ↦ ordered_of_lookup hv hc, fun tc htc ↦ ?_⟩
  cases toolCalls with
  | absent | null => exact nomatch htc
  | value calls =>
    obtain ⟨w, hw, hread⟩ := readField_value hcalls
    obtain ⟨items, hitems, hmap⟩ := Option.bind_eq_some_iff.mp hread
    cases w with
    | arr items' =>
      obtain rfl := Option.some.inj hitems
      obtain ⟨x, hx, hxtc⟩ := exists_of_mem_mapM hmap htc
      exact ToolCall.faithful_of_ofJson (ordered_of_mem_items (ordered_of_lookup hv hw) x hx) hxtc
    | _ => exact nomatch hitems

/-! ### The rewrites keep messages faithful -/

/-- A message with other content and some of the calls. -/
theorem Message.Faithful.of_calls {msg msg' : Message} (h : msg.Faithful)
    (hcontent : ∀ c ∈ msg'.content, c.Ordered) (hcalls : msg'.calls ⊆ msg.calls) :
    msg'.Faithful :=
  ⟨hcontent, fun tc htc ↦ h.calls tc (hcalls htc)⟩

/-- The content a message has, or the empty text. -/
theorem Message.Faithful.contentOr {msg : Message} (h : msg.Faithful) : msg.contentOr.Ordered := by
  cases hc : msg.content with
  | none => simpa [Message.contentOr, hc] using Json.Ordered.str ""
  | some c => simpa [Message.contentOr, hc] using h.content c hc

/-- A normalized message is faithful. -/
theorem Message.Faithful.normalizeMessage {msg : Message} (h : msg.Faithful) :
    (normalizeMessage msg).Faithful := by
  have hcontent : ∀ role, (normalizeContent role msg.contentOr).Ordered := by
    intro role
    have hor := h.contentOr
    unfold normalizeContent
    split
    · split
      · exact .str _
      · exact .str _
    · exact hor
  unfold Chat.normalizeMessage
  dsimp only
  split
  · exact h.of_calls (fun c hc ↦ Option.some.inj hc ▸ hcontent _) (List.nil_subset _)
  · split
    · exact h.of_calls (fun c hc ↦ Option.some.inj hc ▸ hcontent _) (List.Subset.refl _)
    · exact h.of_calls (fun c hc ↦ Option.some.inj hc ▸ hcontent _) (List.nil_subset _)

/-- A message that sanitization keeps is faithful. -/
theorem Message.Faithful.sanitizeMessage {removed : List String} {msg msg' : Message}
    (h : msg.Faithful) (hkept : sanitizeMessage removed msg = some msg') : msg'.Faithful := by
  unfold Chat.sanitizeMessage at hkept
  split at hkept
  · obtain rfl := Option.some.inj hkept
    exact h.of_calls (fun c hc ↦ Option.some.inj hc ▸ h.contentOr) (List.nil_subset _)
  · split at hkept
    · dsimp only at hkept
      split at hkept
      · obtain rfl := Option.some.inj hkept
        exact h.of_calls h.content (List.filter_subset_self _)
      · split at hkept
        · obtain rfl := Option.some.inj hkept
          exact h.of_calls h.content (List.nil_subset _)
        · exact nomatch hkept
    · obtain rfl := Option.some.inj hkept
      exact h

/-- A message with its reasoning filled in is faithful. -/
theorem Message.Faithful.fillReasoning {msg : Message} (h : msg.Faithful)
    (stored : String → Option String) : (fillReasoning stored msg).Faithful := by
  obtain ⟨r, hr⟩ := fillReasoning_eq stored msg
  rw [hr]
  exact h.of_calls h.content (List.Subset.refl _)

/-- Sanitized messages are faithful. -/
theorem faithful_sanitizeMessages {messages : List Message} (h : ∀ msg ∈ messages, msg.Faithful) :
    ∀ msg ∈ sanitizeMessages messages, msg.Faithful := by
  unfold sanitizeMessages
  split
  · exact h
  · intro msg' hmem
    obtain ⟨msg, hmsg, hkept⟩ := List.mem_filterMap.mp hmem
    exact (h msg hmsg).sanitizeMessage hkept

/-! ### Documents -/

/-- `body.get("messages")`, when it is a list. -/
def readMessages (fields : Fields) : Option (Option (List Message)) :=
  match fields.lookup "messages" with
  | some (.arr items) => (items.mapM Message.ofJson).map some
  | _ => some none

/-- The entries of `tools`. -/
def readTools (v : Json) : Option (List Tool) := v.items?.bind (·.mapM Tool.ofJson)

/-- The body that is read off a request; `none` when a field has a value of another type. -/
def Body.ofFields (fields : Fields) : Option Body := do
  let messages ← readMessages fields
  let tools ← readField readTools "tools" fields
  return { model := (fields.lookup "model").bind Json.text?, messages, tools,
           stream := ((fields.lookup "stream").getD (.bool false)).truthy }

/-- A request object with its keys in order, and the body it is read as. -/
structure Document where
  fields : Fields
  ordered : (Json.obj fields).Ordered
  body : Body
  reads : Body.ofFields fields = some body

namespace Document

/-- The document of a decoded request. -/
def ofJson (v : Json) : Option Document :=
  match hsorted : sortKeys v with
  | .obj fields =>
    match hbody : Body.ofFields fields with
    | some body => some ⟨fields, hsorted ▸ ordered_sortKeys v, body, hbody⟩
    | none => none
  | _ => none

/-- `body["messages"] = messages`, for messages that were rebuilt. -/
def writeMessages (messages : Option (List Message)) (fields : Fields) : Fields :=
  match messages with
  | some messages => setField "messages" (.arr (messages.map Message.toJson)) fields
  | none => fields

/-- `body["tools"] = tools`. -/
def writeTools (tools : DictField (List Tool)) (fields : Fields) : Fields :=
  match tools with
  | .value tools => setField "tools" (.arr (tools.map Tool.definition)) fields
  | _ => fields

/-- `body["model"] = model`. -/
def writeModel (model : Option String) (fields : Fields) : Fields :=
  match model with
  | some model => setField "model" (.str model) fields
  | none => fields

/-- The request object after a forward has assigned the fields it rewrote. -/
def rewritten (doc : Document) (body : Body) : Fields :=
  writeTools body.tools (writeMessages body.messages (writeModel body.model doc.fields))

variable (doc : Document)

/-- Where the messages of a document come from. -/
theorem lookup_messages {messages : List Message} (h : doc.body.messages = some messages) :
    ∃ items, doc.fields.lookup "messages" = some (.arr items) ∧
      items.mapM Message.ofJson = some messages := by
  have hreads := doc.reads
  simp only [Body.ofFields, Option.bind_eq_bind, Option.bind_eq_some_iff] at hreads
  obtain ⟨read, hread, tools, -, hbody⟩ := hreads
  obtain rfl : read = some messages := by rw [← h, ← Option.some.inj hbody]
  unfold readMessages at hread
  split at hread
  · next items hlookup =>
    obtain ⟨read, hmap, heq⟩ := Option.map_eq_some_iff.mp hread
    obtain rfl := Option.some.inj heq
    exact ⟨items, hlookup, hmap⟩
  · exact nomatch hread

/-- The tools of a document. -/
theorem readField_tools :
    readField readTools "tools" doc.fields = some doc.body.tools := by
  have hreads := doc.reads
  simp only [Body.ofFields, Option.bind_eq_bind, Option.bind_eq_some_iff] at hreads
  obtain ⟨messages, -, tools, htools, hbody⟩ := hreads
  rw [htools, ← Option.some.inj hbody]

/-- The tools of a document stand in it as they were read. -/
theorem lookup_tools :
    doc.fields.lookup "tools" =
      doc.body.tools.json? (fun tools ↦ .arr (tools.map Tool.definition)) := by
  have hread := doc.readField_tools
  unfold readField at hread
  split at hread
  · next hlookup => rw [hlookup, ← Option.some.inj hread]; rfl
  · next hlookup => rw [hlookup, ← Option.some.inj hread]; rfl
  · next v _ hlookup =>
    obtain ⟨tools, htools, heq⟩ := Option.map_eq_some_iff.mp hread
    obtain ⟨items, hitems, hmap⟩ := Option.bind_eq_some_iff.mp htools
    obtain rfl : v = .arr items := by
      cases v with
      | arr items' => rw [Option.some.inj hitems]
      | _ => exact nomatch hitems
    have hdefinitions := map_of_mapM (fun _ _ ↦ Tool.definition_of_ofJson) hmap
    rw [hlookup, ← heq]
    exact congrArg (fun items ↦ some (Json.arr items)) hdefinitions.symm

/-- The tools of a document are faithful. -/
theorem faithful_tools {tools : List Tool} (h : doc.body.tools = .value tools) :
    ∀ tool ∈ tools, tool.Faithful := by
  intro tool htool
  obtain ⟨v, hlookup, hread⟩ := readField_value (h ▸ doc.readField_tools)
  obtain ⟨items, hitems, hmap⟩ := Option.bind_eq_some_iff.mp hread
  obtain ⟨item, hmem, hitem⟩ := exists_of_mem_mapM hmap htool
  have hdefinition := Tool.definition_of_ofJson hitem
  cases v with
  | arr items' =>
    obtain rfl := Option.some.inj hitems
    have hordered := ordered_of_mem_items (ordered_of_lookup doc.ordered hlookup) item hmem
    exact ⟨hdefinition.symm ▸ hitem, hdefinition.symm ▸ hordered⟩
  | _ => exact nomatch hitems

/-- The messages of a document are faithful. -/
theorem faithful_messages {messages : List Message} (h : doc.body.messages = some messages) :
    ∀ msg ∈ messages, msg.Faithful := by
  obtain ⟨items, hlookup, hmap⟩ := doc.lookup_messages h
  intro msg hmsg
  obtain ⟨item, hitem, hread⟩ := exists_of_mem_mapM hmap hmsg
  exact Message.faithful_of_ofJson
    (ordered_of_mem_items (ordered_of_lookup doc.ordered hlookup) item hitem) hread

/-! ### What is written -/

/-- Writing the messages leaves the other fields alone. -/
theorem lookup_writeMessages_of_ne {messages : Option (List Message)} {fields : Fields}
    {key : String} (h : key ≠ "messages") :
    (writeMessages messages fields).lookup key = fields.lookup key := by
  cases messages with
  | none => rfl
  | some messages => rw [writeMessages, lookup_setField, if_neg h.symm]

/-- Writing the tools leaves the other fields alone. -/
theorem lookup_writeTools_of_ne {tools : DictField (List Tool)} {fields : Fields} {key : String}
    (h : key ≠ "tools") : (writeTools tools fields).lookup key = fields.lookup key := by
  cases tools with
  | absent | null => rfl
  | value tools => rw [writeTools, lookup_setField, if_neg h.symm]

/-- Writing the model leaves the other fields alone. -/
theorem lookup_writeModel_of_ne {model : Option String} {fields : Fields} {key : String}
    (h : key ≠ "model") : (writeModel model fields).lookup key = fields.lookup key := by
  cases model with
  | none => rfl
  | some model => rw [writeModel, lookup_setField, if_neg h.symm]

/-- The tools that are written, or those that stood there. -/
theorem lookup_writeTools (tools : DictField (List Tool)) (fields : Fields) :
    (writeTools tools fields).lookup "tools" =
      (tools.toOption.map (fun tools ↦ Json.arr (tools.map Tool.definition))).or
        (fields.lookup "tools") := by
  cases tools with
  | absent | null => rfl
  | value tools => rw [writeTools, lookup_setField, if_pos rfl]; rfl

/-- A forward leaves the other fields of a request alone. -/
theorem lookup_rewritten_of_ne (body : Body) {key : String}
    (h : key ∉ ["model", "messages", "tools"]) :
    (doc.rewritten body).lookup key = doc.fields.lookup key := by
  simp only [List.mem_cons, List.not_mem_nil, or_false, not_or] at h
  rw [rewritten, lookup_writeTools_of_ne h.2.2, lookup_writeMessages_of_ne h.2.1,
    lookup_writeModel_of_ne h.1]

/-- The messages behind a forward are the ones it rebuilt. -/
theorem lookup_rewritten_messages {body : Body} {messages : List Message}
    (h : body.messages = some messages) :
    (doc.rewritten body).lookup "messages" = some (.arr (messages.map Message.toJson)) := by
  rw [rewritten, lookup_writeTools_of_ne (by decide), h, writeMessages, lookup_setField, if_pos rfl]

/-- The tools behind a forward are the ones it sorted, or those that stood there. -/
theorem lookup_rewritten_tools (body : Body) :
    (doc.rewritten body).lookup "tools" =
      (body.tools.toOption.map (fun tools ↦ Json.arr (tools.map Tool.definition))).or
        (doc.fields.lookup "tools") := by
  rw [rewritten, lookup_writeTools, lookup_writeMessages_of_ne (by decide),
    lookup_writeModel_of_ne (by decide)]

end Document

end LcpGateway.Chat
