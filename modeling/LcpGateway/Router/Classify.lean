import LcpGateway.Base.Number
import LcpGateway.Chat.Message

/-!
# Task classification

Library `Router`. Source `src/api/router.py:121–322` and `src/api/cost_estimator.py:30–70`.
The text helpers of `src/api/message_norm.py`, the BPE tokenizer and the embedding model are
given functions: every result here holds for all of them. What is modelled is the order of
the stages and what each of them records, the token count in particular.
-/

namespace LcpGateway.Router
open LcpGateway.Base LcpGateway.Chat

/-- `intent_meta` of `_extract_intent_text`; `message_norm.py:523–524`. -/
structure IntentMeta where
  source : String
  skippedTool : Nat
  skippedCont : Nat
  skippedContext : Nat
  skippedPreamble : Nat
  preamble : Bool
  deriving DecidableEq, Repr

/-- The text helpers of `message_norm.py`. -/
structure MessageNorm where
  contentText : Message → String
  isClientContext : String → Bool
  contextTail : String → Option String
  stripChatMentions : String → String
  extractIntentText : List Message → String × IntentMeta

/-- The tokenizer: `len(encode(text))` on a non-empty text, and `str(tool)`. -/
structure Tokenizer where
  encodedLength : String → Nat
  toolText : Tool → String

/-- The semantic classifier, when the embedder is up. -/
structure SemanticClassifier where
  minScore : Rat
  topScores : String → List (String × Rat)

/-- `ClassifyResult.path`. -/
inductive ClassifyPath where
  | semantic
  | agenticPrompt
  | preamble
  | toolCount
  | tokenCount
  | casual
  | default
  | intentNarrowed
  | intentDeclared
  deriving DecidableEq, Repr

/-- `ClassifyResult`; `router.py:129–147`. -/
structure ClassifyResult where
  task : String
  path : ClassifyPath
  keyword : Option String
  intentText : String
  intentMeta : IntentMeta
  semantic : Option (List (String × Rat))
  minScore : Option Rat
  semAvailable : Bool
  toolCount : Nat
  tokenCount : Nat

/-- `_CONTINUATIONS`; `message_norm.py:145–150`. -/
def continuations : List String :=
  ["continue", "please continue", "continue please", "yes", "yeah", "yep", "ok", "okay", "go on",
    "keep going", "and then", "next", "proceed", "sounds good", "thanks", "thank you", "perfect",
    "great", "go ahead", "sure", "alright", "got it", "cool", "more", "ok then"]

/-- `TASK_SIGNALS["agentic_multi_step"]`; `message_norm.py:35–39`. -/
def agenticSignals : List String :=
  ["you are an ai agent", "you are a coding agent", "autonomous", "multi-step", "multi step",
    "tools:", "function call", "tool call"]

/-- `CASUAL_SIGNALS`; `router.py:123–126`. -/
def casualSignals : List String :=
  ["hello", "hi ", "hey", "thanks", "thank you", "how are you", "what's up", "good morning",
    "good night"]

/-- `s.lstrip()`. -/
def lstrip (s : String) : String := String.ofList (s.toList.dropWhile isSpace)

/-- A tail that is an instruction: `tail and tail.lower().lstrip() not in _CONTINUATIONS`. -/
def isInstruction (tail : String) : Bool :=
  tail ≠ "" ∧ lstrip (lower tail) ∉ continuations

namespace Tokenizer

variable (tok : Tokenizer)

/-- `_count_text`; `cost_estimator.py:30–45`. -/
def countText (text : String) : Nat := if text = "" then 0 else tok.encodedLength text

/-- The text of a content block of type `text`. -/
def blockText (block : Json) : Option String :=
  if (block.get? "type").any (Json.isStr · "text") then
    match block.get? "text" with
    | some (.str s) => some s
    | _ => some ""
  else none

/-- The tokens of one message's content; `cost_estimator.py:58–64`. -/
def countContent (content : Json) : Nat :=
  match content with
  | .str s => tok.countText s
  | .arr blocks => ((blocks.filterMap blockText).map tok.countText).sum
  | _ => 0

/-- `count_tokens`; `cost_estimator.py:48–70`. -/
def countTokens (messages : List Message) (tools : List Tool) : Nat :=
  (messages.map (fun msg ↦ 4 + tok.countContent msg.contentOr)).sum +
    (tools.map (fun tool ↦ tok.countText (tok.toolText tool))).sum

end Tokenizer

namespace MessageNorm

variable (norm : MessageNorm)

/-- The chunk a message adds to the scanned text, if any; `router.py:193–210`. -/
def chunkOf (msg : Message) : Option String :=
  if msg.hasRole "system" then none else
    let text := norm.contentText msg
    if norm.isClientContext text then
      match norm.contextTail text with
      | some tail => if isInstruction tail
          then some (lower (norm.stripChatMentions tail) ++ " ") else none
      | none => none
    else some (lower (norm.stripChatMentions text) ++ " ")

/-- The full conversation text without client context: `combined`. -/
def combinedText (messages : List Message) : String :=
  String.join (messages.filterMap norm.chunkOf)

/-- The part of it the user wrote: `user_text`. -/
def userText (messages : List Message) : String :=
  String.join ((messages.filter (·.hasRole "user")).filterMap norm.chunkOf)

end MessageNorm

/-- The leading system prompt, lowered: `system_text`; `router.py:212–216`. -/
def systemText (messages : List Message) : String :=
  match messages with
  | msg :: _ =>
    match msg.hasRole "system", msg.contentOr with
    | true, .str s => lower s
    | _, _ => ""
  | [] => ""

/-- `_strip_client_context_from_messages`; `message_norm.py:351–371`. -/
def MessageNorm.stripClientContext (norm : MessageNorm) (messages : List Message) : List Message :=
  messages.filterMap (fun msg ↦
    let text := norm.contentText msg
    if norm.isClientContext text then
      match norm.contextTail text with
      | some tail => if isInstruction tail
          then some { msg with content := some (.str tail) } else none
      | none => none
    else some msg)

/-- The semantic stage: the recorded scores and, when the gate is passed, the task;
`router.py:251–271`. -/
def semanticStage (clf : Option SemanticClassifier) (intent : String) :
    Option (List (String × Rat)) × Option Rat × Bool × Option String :=
  match clf with
  | some clf =>
    if intent = "" then (none, none, false, none) else
      match clf.topScores intent with
      | [] => (none, some clf.minScore, true, none)
      | (task, score) :: rest =>
        (some (((task, score) :: rest).map (fun p ↦ (p.1, roundDigits 4 p.2))),
          some clf.minScore, true, if clf.minScore ≤ score then some task else none)
  | none => (none, none, false, none)

/-- The estimate of the request's size, client context removed: what the token-count stage
measures and the near-limit check reports. -/
def requestTokenCount (norm : MessageNorm) (tok : Tokenizer) (messages : List Message)
    (tools : List Tool) : Nat :=
  tok.countTokens (norm.stripClientContext messages) tools

/-- `classify_task_detail`; `router.py:175–322`. -/
def classifyTaskDetail (norm : MessageNorm) (tok : Tokenizer) (clf : Option SemanticClassifier)
    (messages : List Message) (tools : List Tool) : ClassifyResult :=
  let userText := norm.userText messages
  let combined := norm.combinedText messages
  let systemText := systemText messages
  let (intentRaw, intentMeta) := norm.extractIntentText messages
  let intentLc := if lower (strip intentRaw) = "" then strip userText else lower (strip intentRaw)
  let intentText := if strip intentRaw = "" then strip userText else strip intentRaw
  let toolCount := tools.length
  if intentMeta.preamble then
    { task := "agentic_multi_step", path := .preamble, keyword := none, intentText, intentMeta,
      semantic := none, minScore := none, semAvailable := false, toolCount, tokenCount := 0 }
  else
    let (semantic, minScore, semAvailable, semanticTask) := semanticStage clf (strip intentLc)
    let result := fun task path keyword tokenCount ↦
      ({ task, path, keyword, intentText, intentMeta, semantic, minScore, semAvailable,
         toolCount, tokenCount } : ClassifyResult)
    match semanticTask with
    | some task => result task .semantic none 0
    | none =>
      match agenticSignals.find? (fun kw ↦ isInfix kw systemText) with
      | some kw => result "agentic_multi_step" .agenticPrompt (some kw) 0
      | none =>
        if 5 < toolCount then result "agentic_multi_step" .toolCount none 0
        else
          let tokenCount := requestTokenCount norm tok messages tools
          if 8000 < tokenCount then result "research_deep" .tokenCount none tokenCount
          else match casualSignals.find? (fun kw ↦ isInfix kw combined) with
            | some kw => result "casual_chat" .casual (some kw) 0
            | none => result "code_generation" .default none 0

/-- The token count is recorded on the token-count path only, and there it is the request's. -/
theorem tokenCount_classifyTaskDetail (norm : MessageNorm) (tok : Tokenizer)
    (clf : Option SemanticClassifier) (messages : List Message) (tools : List Tool) :
    (classifyTaskDetail norm tok clf messages tools).tokenCount =
      if (classifyTaskDetail norm tok clf messages tools).path = .tokenCount
        then requestTokenCount norm tok messages tools else 0 := by
  unfold classifyTaskDetail
  dsimp only
  split
  · rfl
  · split
    · rfl
    · split
      · rfl
      · split
        · rfl
        · split
          · rfl
          · split <;> rfl

/-- On the token-count path the request is long. -/
theorem lt_requestTokenCount (norm : MessageNorm) (tok : Tokenizer)
    (clf : Option SemanticClassifier) (messages : List Message) (tools : List Tool)
    (hpath : (classifyTaskDetail norm tok clf messages tools).path = .tokenCount) :
    8000 < requestTokenCount norm tok messages tools := by
  unfold classifyTaskDetail at hpath
  dsimp only at hpath
  split at hpath
  · cases hpath
  · split at hpath
    · cases hpath
    · split at hpath
      · cases hpath
      · split at hpath
        · cases hpath
        · split at hpath
          · assumption
          · split at hpath <;> cases hpath

end LcpGateway.Router
