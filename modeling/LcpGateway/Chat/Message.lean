import LcpGateway.Base.Json

/-!
# Chat messages and request bodies

Library `Chat`. The fields of a chat message, a tool call, a tool definition and a request
body that the pipeline reads or writes (`src/api/request_pipeline.py`). A missing key and a
`null` value differ in Python's `dict.get`, so an optional field has three states. Keys that
no modelled function reads are left out: `normalize_messages_for_cache` drops them.
-/

namespace LcpGateway.Chat
open LcpGateway.Base

/-- A dictionary field: missing, `None`, or a value. -/
inductive DictField (α : Type) where
  | absent
  | null
  | value (a : α)
  deriving DecidableEq, Repr

namespace DictField

variable {α : Type}

/-- `key in d`. -/
def present : DictField α → Bool
  | .absent => false
  | _ => true

/-- `d.get(key, default)`, stored back under its key. -/
def orDefault (f : DictField α) (d : α) : DictField α :=
  match f with
  | .absent => .value d
  | f => f

/-- The value, when there is one. -/
def toOption : DictField α → Option α
  | .value a => some a
  | _ => none

/-- A present value ignores the default. -/
@[simp] theorem orDefault_value (a d : α) : (DictField.value a).orDefault d = .value a := rfl

/-- A missing field holds no value. -/
@[simp] theorem toOption_absent : (DictField.absent : DictField α).toOption = none := rfl

/-- A field with a default is never missing. -/
@[simp] theorem orDefault_orDefault (f : DictField α) (d e : α) :
    (f.orDefault d).orDefault e = f.orDefault d := by
  cases f <;> rfl

/-- A non-empty string: the truthiness of a string field. -/
def text (f : DictField String) : Option String :=
  match f with
  | .value s => if s = "" then none else some s
  | _ => none

end DictField

/-- One entry of `tool_calls`, with the fields read off it. -/
structure ToolCall where
  id : DictField String
  toolCallId : DictField String
  function : Json
  entry : Json
  deriving Repr

/-- `tc.get("id", tc.get("tool_call_id"))`, when it is truthy. -/
def ToolCall.tcId (tc : ToolCall) : Option String :=
  match tc.id with
  | .absent => tc.toolCallId.text
  | id => id.text

/-- A chat message. Content blocks are objects. -/
structure Message where
  role : DictField String
  content : Option Json
  toolCalls : DictField (List ToolCall)
  toolCallId : DictField String
  reasoningContent : DictField String
  name : DictField String
  deriving Repr

namespace Message

/-- `msg.get("role") == role`. -/
def hasRole (msg : Message) (role : String) : Bool := msg.role = .value role

/-- `msg.get("tool_calls") or []`. -/
def calls (msg : Message) : List ToolCall := msg.toolCalls.toOption.getD []

/-- An assistant turn that performed a tool call: `msg.get("role") == "assistant" and
msg.get("tool_calls")`. -/
def isToolTurn (msg : Message) : Bool := msg.hasRole "assistant" && !msg.calls.isEmpty

/-- The content of `msg.get("content", "")`. -/
def contentOr (msg : Message) : Json := msg.content.getD (.str "")

end Message

/-- A tool definition, with `tool.get("function", {}).get("name")` read off. -/
structure Tool where
  functionName : Option String
  definition : Json
  deriving Repr

/-- `t.get("function", {}).get("name", "")`. -/
def Tool.key (t : Tool) : String := t.functionName.getD ""

/-- A request body. -/
structure Body where
  model : Option String
  messages : Option (List Message)
  tools : DictField (List Tool)
  stream : Bool
  deriving Repr

/-- `body.get("messages", [])`. -/
def Body.messageList (body : Body) : List Message := body.messages.getD []

end LcpGateway.Chat
