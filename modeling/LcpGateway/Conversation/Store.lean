import LcpGateway.Base.PositionalLog
import LcpGateway.Chat.Message

/-!
# The conversation message store

Library `Conversation`. Source `src/api/conv_store.py:34–240,379–440`. The table
`conv_messages` is unique in `(conversation_id, seq)`; `INSERT OR REPLACE` on that key is a
dictionary write. The autoincrement `id` is read by no function here and left out.
-/

namespace LcpGateway.Conversation
open LcpGateway.Base LcpGateway.Chat

/-- The renderings the store takes from the interpreter: the SHA-1 hex digest of the UTF-8
bytes of a text, `str(value)`, and `json.dumps` of a list of tool calls. -/
structure Rendering where
  sha1 : String → String
  str : Json → String
  dump : List ToolCall → String

/-- `MESSAGE_CAP`; `conv_store.py:39`. -/
def messageCap : Nat := 64 * 1024

/-- The keys of an incoming message that `_prepare` reads. -/
structure Incoming where
  role : Option String
  content : Option Json
  toolName : Option String
  toolCallId : Option String
  toolCalls : Option String
  reasoning : Option String
  ts : Option String
  active : DictField Int
  compacted : DictField Int

/-- A row of `conv_messages` without its key; `conv_store.py:41–61`. -/
structure Row where
  role : Option String
  content : String
  contentLen : Nat
  truncated : Bool
  toolName : Option String
  toolCallId : Option String
  toolCalls : Option String
  reasoning : Option String
  ts : Option String
  active : Int
  compacted : Int
  msgHash : String
  origin : String
  deriving DecidableEq, Repr

/-- The table `conv_messages`, by `(conversation_id, seq)`. -/
abbrev ConvMessages : Type := Dict (String × Nat) Row

/-- `content_hash`: every part is followed by a NUL; `conv_store.py:132–145`. -/
def contentHash (r : Rendering) (role : Option String) (content : String)
    (toolName toolCallId : Option String) : String :=
  r.sha1 (String.join ([role.getD "", content, toolName.getD "", toolCallId.getD ""].map
    (· ++ "\x00")))

/-- The body of a message: `raw if isinstance(raw, str) else ("" if raw is None else str(raw))`. -/
def bodyText (r : Rendering) : Option Json → String
  | none => ""
  | some .null => ""
  | some (.str s) => s
  | some v => r.str v

/-- `int(message.get(key, default) or 0)`. -/
def flagOr (default : Int) : DictField Int → Int
  | .absent => default
  | .null => 0
  | .value n => n

/-- `_prepare`, with the `origin` column; `conv_store.py:148–172`. The hash is over the capped
body. -/
def prepare (r : Rendering) (origin : String) (message : Incoming) : Row :=
  let full := bodyText r message.content
  let truncated := messageCap < full.length
  let body := if truncated then String.ofList (full.toList.take messageCap) else full
  { role := message.role
    content := body
    contentLen := full.length
    truncated := truncated
    toolName := message.toolName
    toolCallId := message.toolCallId
    toolCalls := message.toolCalls
    reasoning := message.reasoning
    ts := message.ts
    active := flagOr 1 message.active
    compacted := flagOr 0 message.compacted
    msgHash := contentHash r message.role body message.toolName message.toolCallId
    origin := origin }

/-- `SELECT msg_hash … ORDER BY seq`; `conv_store.py:196–200`. -/
def storedHashes (t : ConvMessages) (cid : String) : List String := (log t cid).map Row.msgHash

/-- What a call inserts after it has read the hashes: the incoming rows past the common
prefix; `conv_store.py:203–218`. -/
def unmatched (stored : List String) (prepared : List Row) : List Row :=
  prepared.drop (commonPrefix stored (prepared.map Row.msgHash))

/-- `append_messages`: the table it leaves and the number of rows it reports;
`conv_store.py:175–230`. -/
def appendMessages (r : Rendering) (t : ConvMessages) (cid : String) (messages : List Incoming)
    (origin : String) : ConvMessages × Nat :=
  let prepared := messages.map (prepare r origin)
  if prepared.isEmpty then (t, 0)
  else
    let stored := storedHashes t cid
    if commonPrefix stored (prepared.map Row.msgHash) = prepared.length then (t, 0)
    else
      let rows := unmatched stored prepared
      (writeFrom t cid stored.length rows, rows.length)

/-- SQLite's `LIMIT`: a negative one is none. -/
def limited {α : Type} (limit : Int) (rows : List α) : List α :=
  if limit < 0 then rows else rows.take limit.toNat

/-- Python's `xs[:stop]`: a negative stop counts from the end. -/
def upTo {α : Type} (xs : List α) (stop : Int) : List α :=
  if stop < 0 then xs.take (xs.length + stop).toNat else xs.take stop.toNat

/-- `read_messages`: the rows with their `seq`; `conv_store.py:379–406`. -/
def readMessages (t : ConvMessages) (cid : String) (limit : Int) (includeInactive newest : Bool) :
    List (Nat × Row) :=
  let rows := (numbered t cid).filter (fun row ↦ includeInactive || row.2.active == 1)
  if newest then (limited limit rows.reverse).reverse else limited limit rows

/-- `message_count`; `conv_store.py:433–440`. -/
def messageCount (t : ConvMessages) (cid : String) : Nat := (numbered t cid).length

/-- What `messages_view` returns. -/
structure View where
  id : String
  messages : List (Nat × Row)
  truncated : Bool
  total : Nat
  newest : Bool

/-- `messages_view`; `conv_store.py:409–430`. -/
def messagesView (t : ConvMessages) (cid : String) (limit : Int) (includeInactive newest : Bool) :
    View :=
  let messages := readMessages t cid (limit + 1) includeInactive newest
  let truncated : Bool := limit < messages.length
  let kept := if truncated && newest then messages.drop 1 else upTo messages limit
  { id := cid, messages := kept, truncated := truncated, total := messageCount t cid
    newest := newest }

/-- A call writes the unmatched rows behind the stored ones, the early returns included. -/
theorem appendMessages_eq (r : Rendering) (t : ConvMessages) (cid : String)
    (messages : List Incoming) (origin : String) :
    appendMessages r t cid messages origin =
      (writeFrom t cid (log t cid).length
          (unmatched (storedHashes t cid) (messages.map (prepare r origin))),
        (unmatched (storedHashes t cid) (messages.map (prepare r origin))).length) := by
  unfold appendMessages
  by_cases hempty : (messages.map (prepare r origin)).isEmpty
  · have hnil : messages.map (prepare r origin) = [] := List.isEmpty_iff.mp hempty
    simp [hnil, unmatched, writeFrom]
  · rw [if_neg hempty]
    dsimp only
    split
    · next hall =>
      have hnone : unmatched (storedHashes t cid) (messages.map (prepare r origin)) = [] := by
        rw [unmatched, hall, List.drop_length]
      simp [hnone, writeFrom]
    · simp [storedHashes]

/-! ### Stores without a gap -/

/-- A message store as the appends keep it: the rows of every conversation are numbered from
zero on. -/
structure MessageStore where
  table : ConvMessages
  owns : ∀ cid, Owns table cid (log table cid)

namespace MessageStore

/-- The store before the first message. -/
def empty : MessageStore :=
  ⟨Dict.empty, fun cid ↦ owns_log ⟨[], owns_empty cid⟩⟩

/-- The stored rows of a conversation, in order. -/
def transcript (s : MessageStore) (cid : String) : List Row := log s.table cid

/-- `append_messages` keeps the numbering. -/
theorem owns_appendMessages (s : MessageStore) (r : Rendering) (cid : String)
    (messages : List Incoming) (origin : String) (cid' : String) :
    Owns (appendMessages r s.table cid messages origin).1 cid'
      (if cid' = cid then
        s.transcript cid ++
          unmatched (storedHashes s.table cid) (messages.map (prepare r origin))
      else s.transcript cid') := by
  rw [appendMessages_eq]
  by_cases hcid : cid' = cid
  · subst hcid
    rw [if_pos rfl]
    exact (s.owns cid').append _
  · rw [if_neg hcid]
    exact (s.owns cid').writeFrom_of_ne (Ne.symm hcid) _ _

/-- `append_messages` on a store. -/
def append (s : MessageStore) (r : Rendering) (cid : String) (messages : List Incoming)
    (origin : String) : MessageStore :=
  ⟨(appendMessages r s.table cid messages origin).1,
    fun cid' ↦ owns_log ⟨_, s.owns_appendMessages r cid messages origin cid'⟩⟩

/-- Two stores with one table are one store. -/
theorem ext {s s' : MessageStore} (h : s.table = s'.table) : s = s' := by
  cases s
  cases s'
  cases h
  rfl

/-- An append extends the transcript of its conversation and no other one. -/
theorem transcript_append (s : MessageStore) (r : Rendering) (cid : String)
    (messages : List Incoming) (origin : String) (cid' : String) :
    (s.append r cid messages origin).transcript cid' =
      if cid' = cid then
        s.transcript cid ++
          unmatched (storedHashes s.table cid) (messages.map (prepare r origin))
      else s.transcript cid' :=
  (s.owns_appendMessages r cid messages origin cid').log_eq

/-- A row is found under its position in the transcript. -/
theorem get?_table (s : MessageStore) (cid : String) (n : Nat) :
    s.table.get? (cid, n) = (s.transcript cid)[n]? :=
  s.owns cid n

/-- The numbered rows of a conversation. -/
theorem numbered_table (s : MessageStore) (cid : String) :
    numbered s.table cid = (s.transcript cid).zipIdx.map Prod.swap :=
  (s.owns cid).numbered_eq

end MessageStore
end LcpGateway.Conversation
