import LcpGateway.Conversation.Transcript

/-!
# Capturing served requests

Library `Conversation`. Source `src/api/conv_store.py:503–582`. A capture appends the messages
of a request and the text of the reply. The rollup of the `conversations` table is left out.
-/

namespace LcpGateway.Conversation
open LcpGateway.Base LcpGateway.Chat

/-- A message of a request, with the `tool_name` key that only the capture reads. -/
structure ClientMessage extends Message where
  toolName : DictField String

/-- `isinstance(p, dict) and p.get("type") == "text"`. -/
def isTextPart (part : Json) : Bool :=
  match part.get? "type" with
  | some kind => kind.isStr "text"
  | none => false

/-- `p.get("text", "")`; `none` is a value `"".join` refuses. -/
def partText (part : Json) : Option String :=
  match part.get? "text" with
  | none => some ""
  | some (.str s) => some s
  | some _ => none

/-- The text of multimodal content, with a note of the parts left out; `conv_store.py:518–523`. -/
def flattenParts (parts : List Json) : Option String :=
  let texts := parts.filter isTextPart
  let extra := parts.length - texts.length
  (texts.mapM partText).map (fun words ↦
    String.join words ++ if extra = 0 then "" else "\n[" ++ toString extra ++ " non-text part(s)]")

/-- The content a message is stored with. -/
def extractContent : Option Json → Option (Option Json)
  | some (.arr parts) => (flattenParts parts).map (fun text ↦ some (.str text))
  | content => some content

/-- `m.get("name") or m.get("tool_name")`. -/
def ClientMessage.namedTool (m : ClientMessage) : Option String :=
  match m.name.text with
  | some name => some name
  | none => m.toolName.toOption

/-- One message of `_extract_messages`; `none` is a `TypeError`. -/
def extractMessage (r : Rendering) (m : ClientMessage) : Option Incoming :=
  (extractContent m.content).map (fun content ↦
    { role := m.role.toOption
      content := content
      toolName := m.namedTool
      toolCallId := m.toolCallId.toOption
      toolCalls := if m.calls.isEmpty then none else some (r.dump m.calls)
      reasoning := none
      ts := none
      active := .absent
      compacted := .absent })

/-- `_extract_messages`: the system turns are dropped; `conv_store.py:503–533`. -/
def extractMessages (r : Rendering) (messages : List ClientMessage) : Option (List Incoming) :=
  (messages.filter (fun m ↦ !m.hasRole "system")).mapM (extractMessage r)

/-- `{"role": "assistant", "content": reply, …}`. -/
def assistantText (reply : String) : Incoming where
  role := some "assistant"
  content := some (.str reply)
  toolName := none
  toolCallId := none
  toolCalls := none
  reasoning := none
  ts := none
  active := .absent
  compacted := .absent

/-- The assistant turn of a capture: none when the reply is `None` or empty. -/
def replyTurn : Option String → List Incoming
  | none => []
  | some reply => if reply = "" then [] else [assistantText reply]

/-- `m.setdefault("ts", ts)`: no message of a capture has a time of its own. -/
def Incoming.at (ts : String) (m : Incoming) : Incoming := { m with ts := some ts }

/-- `capture_request`: the store it leaves and the number it returns; `conv_store.py:544–582`. -/
def captureRequest (r : Rendering) (now : String) (s : MessageStore) (cid : Option String)
    (messages : List ClientMessage) (reply ts : Option String) : MessageStore × Nat :=
  let cid := cid.getD ""
  if cid = "" then (s, 0)
  else
    match extractMessages r messages with
    -- the exception is caught: nothing is stored
    | none => (s, 0)
    | some extracted =>
      let turns := (extracted ++ replyTurn reply).map (Incoming.at (ts.getD now))
      (s.append r cid turns "capture", (appendMessages r s.table cid turns "capture").2)

/-! ### A client and its conversation -/

/-- The text of a reply the handler captures: its content when that is a string. -/
def replyText (reply : ClientMessage) : String :=
  match reply.content with
  | some (.str text) => text
  | _ => ""

/-- One exchange of a client: the messages it adds to its list, the reply it receives, and the
time of the capture. -/
structure Exchange where
  asked : List ClientMessage
  reply : ClientMessage
  isAssistant : reply.role = .value "assistant"
  now : String

/-- The store and the message list of the client. -/
structure Dialogue where
  store : MessageStore
  history : List ClientMessage

/-- A request: the client's list so far and its new messages. The reply joins the list. -/
def exchangeStep (r : Rendering) (cid : String) (d : Dialogue) (e : Exchange) : Dialogue where
  store := (captureRequest r e.now d.store (some cid) (d.history ++ e.asked)
    (some (replyText e.reply)) none).1
  history := d.history ++ e.asked ++ [e.reply]

/-- A row but for its time and origin. -/
def Row.said (row : Row) : Row := { row with ts := none, origin := "" }

/-- The rows of a message list, system turns excluded, but for time and origin. -/
def storedForm (r : Rendering) (messages : List ClientMessage) : Option (List Row) :=
  (extractMessages r messages).map (List.map (prepare r ""))

/-- The transcript is the client's list, each message once, in order, with its tool calls. -/
def Mirrors (r : Rendering) (cid : String) (d : Dialogue) : Prop :=
  storedForm r d.history = some ((d.store.transcript cid).map Row.said)

/-- A reply that is text and nothing else. -/
def PlainReply (reply : ClientMessage) : Prop :=
  replyText reply ≠ "" ∧ reply.calls = [] ∧ reply.namedTool = none ∧
    reply.toolCallId.toOption = none

/-- Every text part of multimodal content holds a string. -/
def Storable (r : Rendering) (messages : List ClientMessage) : Prop :=
  (extractMessages r messages).isSome

/-- Extraction goes message by message. -/
theorem extractMessages_append (r : Rendering) (xs ys : List ClientMessage) :
    extractMessages r (xs ++ ys) =
      (extractMessages r xs).bind (fun us ↦ (extractMessages r ys).map (us ++ ·)) := by
  rw [extractMessages, List.filter_append, List.mapM_append]
  cases h : (xs.filter (fun m ↦ !m.hasRole "system")).mapM (extractMessage r) <;>
    cases h' : (ys.filter (fun m ↦ !m.hasRole "system")).mapM (extractMessage r) <;>
    simp [extractMessages, h, h']

/-- A captured row says what its message says. -/
@[simp] theorem said_prepare (r : Rendering) (origin ts : String) (m : Incoming)
    (hts : m.ts = none) : (prepare r origin (m.at ts)).said = prepare r "" m := by
  obtain ⟨role, content, toolName, toolCallId, toolCalls, reasoning, time, active, compacted⟩ := m
  cases hts
  rfl

private theorem ts_extractMessage {r : Rendering} {m : ClientMessage} {x : Incoming}
    (h : extractMessage r m = some x) : x.ts = none := by
  obtain ⟨content, _, rfl⟩ := Option.map_eq_some_iff.mp h
  rfl

private theorem ts_mapM {r : Rendering} {ms : List ClientMessage} {xs : List Incoming}
    (h : ms.mapM (extractMessage r) = some xs) : ∀ x ∈ xs, x.ts = none := by
  induction ms generalizing xs with
  | nil =>
    cases h
    simp
  | cons m rest ih =>
    rw [List.mapM_cons] at h
    cases hm : extractMessage r m with
    | none => simp [hm] at h
    | some y =>
      cases hrest : rest.mapM (extractMessage r) with
      | none => simp [hm, hrest] at h
      | some ys =>
        simp only [hm, hrest, Option.bind_eq_bind, Option.bind_some, Option.pure_def,
          Option.some.injEq] at h
        subst h
        rw [List.forall_mem_cons]
        exact ⟨ts_extractMessage hm, ih hrest⟩

private theorem ts_turns {r : Rendering} {messages : List ClientMessage} {xs : List Incoming}
    (h : extractMessages r messages = some xs) (reply : Option String) :
    ∀ x ∈ xs ++ replyTurn reply, x.ts = none := by
  intro x hx
  rcases List.mem_append.mp hx with hx | hx
  · exact ts_mapM h x hx
  · cases reply with
    | none => simp [replyTurn] at hx
    | some text =>
      by_cases htext : text = ""
      · simp [replyTurn, htext] at hx
      · obtain rfl : x = assistantText text := by simpa [replyTurn, htext] using hx
        rfl

private theorem map_said_prepare (r : Rendering) (origin ts : String) (xs : List Incoming)
    (h : ∀ x ∈ xs, x.ts = none) :
    ((xs.map (Incoming.at ts)).map (prepare r origin)).map Row.said = xs.map (prepare r "") := by
  rw [List.map_map, List.map_map]
  exact List.map_congr_left (fun x hx ↦ said_prepare r origin ts x (h x hx))

/-- When the stored rows say what the first messages of a request say, the capture adds exactly
the messages behind them. -/
theorem transcript_append_extension (r : Rendering) (s : MessageStore) (cid ts : String)
    (xs ys : List Incoming) (hts : ∀ x ∈ ys, x.ts = none)
    (hstored : (s.transcript cid).map Row.said = xs.map (prepare r "")) :
    ((s.append r cid ((xs ++ ys).map (Incoming.at ts)) "capture").transcript cid).map Row.said =
      (xs ++ ys).map (prepare r "") := by
  have hhashes : storedHashes s.table cid = incomingHashes r xs := by
    have h := congrArg (List.map Row.msgHash) hstored
    rw [List.map_map, map_msgHash_prepare] at h
    exact h
  have hincoming : incomingHashes r ((xs ++ ys).map (Incoming.at ts)) =
      incomingHashes r xs ++ incomingHashes r ys := by
    rw [incomingHashes, List.map_map, List.map_append]
    rfl
  have hcommon : commonPrefix (storedHashes s.table cid)
      (incomingHashes r ((xs ++ ys).map (Incoming.at ts))) = xs.length := by
    rw [hhashes, hincoming, commonPrefix_eq_left (List.prefix_append _ _), incomingHashes,
      List.length_map]
  have hrows : unmatched (storedHashes s.table cid)
      (((xs ++ ys).map (Incoming.at ts)).map (prepare r "capture")) =
        (ys.map (Incoming.at ts)).map (prepare r "capture") := by
    rw [unmatched, map_msgHash_prepare, hcommon, List.map_append, List.map_append,
      List.drop_left' (by simp)]
  rw [MessageStore.transcript_append, if_pos rfl, List.map_append, hstored, hrows,
    map_said_prepare r _ _ ys hts, List.map_append]

/-- A plain reply, and no other, is stored as the message it is. -/
theorem storedForm_reply_iff (r : Rendering) (reply : ClientMessage)
    (hrole : reply.role = .value "assistant") :
    storedForm r [reply] = some ((replyTurn (some (replyText reply))).map (prepare r "")) ↔
      PlainReply reply := by
  have hform : storedForm r [reply] =
      (extractMessage r reply).map (fun x ↦ [prepare r "" x]) := by
    have hsystem : reply.hasRole "system" = false := by simp [Message.hasRole, hrole]
    simp only [storedForm, extractMessages, List.filter_cons, hsystem, List.filter_nil,
      Bool.not_false, if_true]
    cases h : extractMessage r reply <;> simp [h]
  rw [hform]
  by_cases htext : replyText reply = ""
  · -- nothing is stored, while the reply is a message of the list
    have hnone : ¬ PlainReply reply := fun h ↦ h.1 htext
    simp only [replyTurn, htext, if_true, List.map_nil, hnone, iff_false]
    cases extractMessage r reply <;> simp
  · have hcontent : reply.content = some (.str (replyText reply)) := by
      unfold replyText at htext ⊢
      split at htext
      · next h => simp [h]
      · exact absurd rfl htext
    have hextract : extractMessage r reply = some
        { assistantText (replyText reply) with
          toolName := reply.namedTool
          toolCallId := reply.toolCallId.toOption
          toolCalls := if reply.calls.isEmpty then none else some (r.dump reply.calls) } := by
      simp [extractMessage, hcontent, extractContent, hrole, assistantText, DictField.toOption]
    rw [hextract]
    simp only [replyTurn, htext, if_false, Option.map_some, List.map_cons, List.map_nil,
      Option.some.injEq, List.cons.injEq, and_true]
    constructor
    · intro h
      have hname := congrArg Row.toolName h
      have hid := congrArg Row.toolCallId h
      have hcalls := congrArg Row.toolCalls h
      refine ⟨htext, ?_, hname, hid⟩
      by_contra hne
      simp [prepare, assistantText, hne] at hcalls
    · rintro ⟨_, hcalls, hname, hid⟩
      rw [hcalls, hname, hid]
      rfl

/-- One exchange keeps the transcript equal to the client's list exactly when its messages can
be stored and its reply is plain. -/
theorem mirrors_exchangeStep_iff (r : Rendering) (cid : String) (hcid : cid ≠ "") (d : Dialogue)
    (e : Exchange) (hd : Mirrors r cid d) :
    Mirrors r cid (exchangeStep r cid d e) ↔ Storable r e.asked ∧ PlainReply e.reply := by
  obtain ⟨xs, hxs, hstored⟩ := Option.map_eq_some_iff.mp hd
  have hhistory : extractMessages r (exchangeStep r cid d e).history =
      (extractMessages r e.asked).bind (fun ys ↦
        (extractMessages r [e.reply]).map (xs ++ ys ++ ·)) := by
    rw [exchangeStep, extractMessages_append, extractMessages_append, hxs]
    cases extractMessages r e.asked <;> rfl
  cases hasked : extractMessages r e.asked with
  | none =>
    rw [hasked] at hhistory
    simp [Mirrors, storedForm, hhistory, Storable, hasked]
  | some ys =>
    have hrequest : extractMessages r (d.history ++ e.asked) = some (xs ++ ys) := by
      rw [extractMessages_append, hxs, hasked]
      rfl
    have hstore : ((exchangeStep r cid d e).store.transcript cid).map Row.said =
        (xs ++ ys).map (prepare r "") ++
          (replyTurn (some (replyText e.reply))).map (prepare r "") := by
      have hafter := transcript_append_extension r d.store cid e.now xs
        (ys ++ replyTurn (some (replyText e.reply))) (ts_turns hasked _) hstored.symm
      rw [← List.append_assoc] at hafter
      rw [← List.map_append, ← hafter, exchangeStep, captureRequest]
      simp [hcid, hrequest]
    rw [Mirrors, hstore, storedForm, hhistory, hasked, Option.bind_some, ← storedForm_reply_iff r
      e.reply e.isAssistant, storedForm]
    simp only [Storable, hasked, Option.isSome_some, true_and]
    cases extractMessages r [e.reply] <;> simp

/-- A message with text content. -/
def textMessage (role text : String) (calls : DictField (List ToolCall)) : ClientMessage where
  role := .value role
  content := some (.str text)
  toolCalls := calls
  toolCallId := .absent
  reasoningContent := .absent
  name := .absent
  toolName := .absent

/-- A rendering with the digests and the dump of the two dialogues below. -/
def dialogueRendering : Rendering where
  sha1 := fun text ↦
    (["user\x00hi\x00\x00\x00", "assistant\x00ok\x00\x00\x00"].zip
      ["9ab58868d415bc16da06e591827c32b271346def",
        "f2860fb4d35c6d426183dab5207be35f1aef0cb1"]).lookup
        text |>.getD ""
  str := fun _ ↦ ""
  dump := fun _ ↦
    "[\x7b\"id\": \"call_1\", \"function\": \x7b\"name\": \"ls\", \"arguments\": \"\"\x7d\x7d]"

/-- A question, and an answer with the tool calls given. -/
def askHi (calls : DictField (List ToolCall)) : Exchange where
  asked := [textMessage "user" "hi" .absent]
  reply := textMessage "assistant" "ok" calls
  isAssistant := rfl
  now := "2026-01-01T00:00:00+00:00"

/-- The call of a reply that runs a tool. -/
def listCall : ToolCall where
  id := .value "call_1"
  toolCallId := .absent
  function := .obj [("name", .str "ls"), ("arguments", .str "")]
  entry := .obj [("id", .str "call_1"),
    ("function", .obj [("name", .str "ls"), ("arguments", .str "")])]

end LcpGateway.Conversation
