import LcpGateway.Base.Splits
import LcpGateway.Router.ClientContext

/-!
# The current intent

Library `Router`. Source `src/api/message_norm.py:34–75,152–160,189–208,404–584`. The walk goes
backward over the conversation and takes the first message that it does not skip. Whether a
message is skipped depends on the message and on the one in front of it, so what is appended
behind a conversation changes nothing about the messages in it.
-/

namespace LcpGateway.Router
open LcpGateway.Base LcpGateway.Chat

/-! ## Signals -/

/-- `TASK_SIGNALS` of the tasks in `_SPECIFIC_TASKS`; `message_norm.py:40–80`. -/
def specificSignals : List (List String) :=
  [["unit test", "unit tests", "write tests", "write a test", "test case", "test cases",
      "test suite", "add tests", "create tests", "pytest", "unittest", "test coverage",
      "mocking", "mock object", "mock the"],
    ["debug", "error", "exception", "traceback", "stack trace", "why does this fail",
      "not working", "bug", "fix this", "what's wrong"],
    ["write a function", "implement", "create a script", "write code", "def ", "class ",
      "import ", "write a program", "in python", "in javascript", "in rust", "in go", "html",
      "css", "react"],
    ["design", "architecture", "architect", "system design", "how should i structure",
      "roadmap", "data model", "schema", "tech stack", "plan the", "make a plan",
      "create a plan"],
    ["solve", "proof", "prove", "calculate", "logic puzzle", "step by step", "mathematical",
      "equation", "theorem"],
    ["explain", "analyze", "compare and contrast", "research", "literature review",
      "in detail", "comprehensive", "thorough"]]

/-- `_SHORT_INSTRUCTION_STARTERS`; `message_norm.py:154–158`. -/
def shortInstructionStarters : List String :=
  ["fix", "write", "make", "create", "do", "explain", "plan", "debug", "run", "show", "give",
    "add", "change", "update", "remove", "help", "implement", "test", "review", "refactor",
    "analyze", "solve", "design"]

/-- `_PREAMBLE_MIN_LEN`; `message_norm.py:413`. -/
def preambleMinLen : Nat := 120

/-! ## Texts -/

/-- `text.lower()` on characters; the capital I with a dot becomes two of them. -/
def lowerChars (text : String) : List Char :=
  text.toList.flatMap fun c ↦ if c.toNat = 0x130 then ['i', '\u0307'] else [lowerChar c]

/-- `re.sub(r"\s+", " ", s)`. -/
def collapseSpaces : List Char → List Char
  | [] => []
  | c :: rest =>
    if isSpace c then
      if rest.head?.any isSpace then collapseSpaces rest else ' ' :: collapseSpaces rest
    else c :: collapseSpaces rest

/-- `s.split()`. -/
def splitWords (s : List Char) : List (List Char) := (s.splitOnP isSpace).filter (· ≠ [])

/-- `_is_continuation`; `message_norm.py:501–519`. -/
def isContinuation (text : String) : Bool :=
  let kept := fun c : Char ↦ ('a' ≤ c && c ≤ 'z') || ('0' ≤ c && c ≤ '9') || isSpace c
  let norm := CharTable.stripSpace (collapseSpaces ((lowerChars (strip text)).filter kept))
  let words := splitWords norm
  continuations.contains (String.ofList norm) ||
    (words.length ≤ 3 &&
      -- a keyword or an instruction starter makes a short message an intent
      !(specificSignals.flatten.any fun kw ↦ isInfix kw (String.ofList norm)) &&
      !(words.any fun w ↦ shortInstructionStarters.contains (String.ofList w)))

/-- `re.split(r"\n\s*\n", raw, maxsplit=1)`: what is in front of the first blank line, and what is
behind it. -/
def splitBlankLine (raw : List Char) : List Char × Option (List Char) :=
  match (Pattern.chain [.lit "\n", CharTable.spaces, .lit "\n"]).search raw with
  | some (front, found) => (front, some found.rest)
  | none => (raw, none)

/-- `_preamble_head`; `message_norm.py:416–422`. -/
def preambleHead (text : String) : String :=
  strip (String.ofList (splitBlankLine (strip text).toList).1)

/-- `_is_preamble_like`; `message_norm.py:425–451`. Of the keywords the long ones and those of
several words count. -/
def isPreambleLike (text : String) : Bool :=
  let head := preambleHead text
  let norm := collapseSpaces (lowerChars head)
  head ≠ "" && preambleMinLen ≤ norm.length && !isContinuation head &&
    !(specificSignals.flatten.any fun kw ↦
      (kw.toList.contains ' ' || 6 < kw.length) && isInfix kw (String.ofList norm))

/-- The type of a content block is one of these. -/
def hasBlockOf (types : List String) (msg : Message) : Bool :=
  match msg.content with
  | some (.arr blocks) =>
    blocks.any fun b ↦ types.any fun type ↦ (b.get? "type").any (Json.isStr · type)
  | _ => false

/-- `_message_has_tool_calls`; `message_norm.py:189–200`. -/
def messageHasToolCalls (msg : Message) : Bool :=
  !msg.calls.isEmpty || hasBlockOf ["tool_use", "tool_call"] msg

namespace CharTable

variable (t : CharTable)

/-- `_preamble_tail`; `message_norm.py:454–467`. -/
def preambleTail (text : String) : Option String :=
  if !isPreambleLike text then none
  else (splitBlankLine (strip text).toList).2.bind fun rest ↦ instruction (stripMarks rest)

/-- `_is_tool_result`, with the message in front; `message_norm.py:470–487`. -/
def isToolResult (msg : Message) (previous : Option Message) : Bool :=
  msg.toolCallId.toOption.isSome || hasBlockOf ["tool_result"] msg ||
    previous.any (fun p ↦ p.hasRole "assistant" && messageHasToolCalls p) ||
    t.matchesToolResultPatterns (contentText msg)

/-- `(stripped or text).strip()` behind both mention strippers; `message_norm.py:575–576`. -/
def plainIntent (text : String) : String :=
  let stripped := t.stripChatMentions (stripMention text.toList)
  strip (if stripped = [] then text else String.ofList stripped)

end CharTable

/-! ## The walk -/

/-- What the walk carries: `meta`, `first_user_text` and `last_preamble_text`. -/
structure Walk where
  info : IntentMeta
  firstUserText : String
  lastPreambleText : String

/-- The walk before its first message; `message_norm.py:537–543`. -/
def Walk.fresh : Walk := ⟨⟨"none", 0, 0, 0, 0, false⟩, "", ""⟩

/-- What a round does: it continues, or it returns. -/
inductive Round where
  | goesOn (w : Walk)
  | returns (text : String) (info : IntentMeta)

/-- `meta` behind a round. -/
def Round.info : Round → IntentMeta
  | .goesOn w => w.info
  | .returns _ info => info

namespace CharTable

variable (t : CharTable)

/-- What stands when every message was skipped; `message_norm.py:577–584`. -/
def fallback (w : Walk) : String × IntentMeta :=
  if w.lastPreambleText ≠ "" then
    (strip w.lastPreambleText, { w.info with source := "preamble" })
  else (t.plainIntent w.firstUserText, { w.info with source := "first_user_fallback" })

/-- A round of `_extract_intent_text` at the text of a message that is no tool result;
`message_norm.py:560–576`. -/
def textRound (w : Walk) (text : String) : Round :=
  if t.isClientContext text then
    match (t.contextTail text).filter isInstruction with
    | some tail => .returns tail { w.info with source := "last_instruction" }
    | none => .goesOn { w with info.skippedContext := w.info.skippedContext + 1 }
  else if isPreambleLike text then
    match (preambleTail text).filter isInstruction with
    | some tail => .returns tail { w.info with source := "last_instruction" }
    | none =>
      .goesOn
        { w with
          info.skippedPreamble := w.info.skippedPreamble + 1
          info.preamble := true
          lastPreambleText := text }
  else if isContinuation text then
    .goesOn { w with info.skippedCont := w.info.skippedCont + 1 }
  else .returns (t.plainIntent text) { w.info with source := "last_instruction" }

/-- One round of `_extract_intent_text`, with the message in front; `message_norm.py:545–576`. -/
def round (w : Walk) (msg : Message) (previous : Option Message) : Round :=
  let text := contentText msg
  if msg.hasRole "system" || msg.hasRole "assistant" then .goesOn w
  else if msg.hasRole "tool" then
    .goesOn { w with info.skippedTool := w.info.skippedTool + 1 }
  else
    let w := if strip text ≠ "" && !t.isClientContext text && !isPreambleLike text then
      { w with firstUserText := text } else w
    if t.isToolResult msg previous then
      .goesOn { w with info.skippedTool := w.info.skippedTool + 1 }
    else t.textRound w text

/-- The loop of `_extract_intent_text`, the newest message first; `message_norm.py:544–584`. -/
def walkBack (w : Walk) : List Message → String × IntentMeta
  | [] => t.fallback w
  | msg :: older =>
    match t.round w msg older.head? with
    | .goesOn w => walkBack w older
    | .returns text info => (text, info)

/-- `_extract_intent_text`; `message_norm.py:522–584`. -/
def extractIntentText (messages : List Message) : String × IntentMeta :=
  if messages = [] then ("", Walk.fresh.info) else t.walkBack Walk.fresh messages.reverse

/-- The text helpers with the walk. -/
def norm : MessageNorm := messageNorm t t.extractIntentText

/-! ## What is skipped -/

/-- A text without an instruction, looked at as a wrapper first and then as a preamble. -/
inductive SkippedText (text : String) : Prop
  | wrapper (h : t.isClientContext text = true) (htail : t.contextTail text = none)
  | preamble (hplain : t.isClientContext text = false) (h : isPreambleLike text = true)
      (htail : preambleTail text = none)
  | continuation (hplain : t.isClientContext text = false) (hbrief : isPreambleLike text = false)
      (h : isContinuation text = true)

/-- A message that the walk skips behind a given one: by its role, as a tool result, or by its
text. -/
inductive Skipped (msg : Message) (previous : Option Message) : Prop
  | system (h : msg.hasRole "system" = true)
  | assistant (h : msg.hasRole "assistant" = true)
  | tool (h : msg.hasRole "tool" = true)
  | toolResult (h : t.isToolResult msg previous = true)
  | text (h : t.SkippedText (contentText msg))

/-- A text that is a preamble and nothing else. -/
structure PreambleOnly (text : String) : Prop where
  plain : t.isClientContext text = false
  like : isPreambleLike text = true
  bare : preambleTail text = none

/-- A message behind a given one that the walk takes for a user's preamble: every role but the
three of the others is taken for a user's. -/
structure SeenPreamble (msg : Message) (previous : Option Message) : Prop where
  notSystem : msg.hasRole "system" = false
  notAssistant : msg.hasRole "assistant" = false
  notTool : msg.hasRole "tool" = false
  notResult : t.isToolResult msg previous = false
  text : t.PreambleOnly (contentText msg)

/-- The instruction in a text: the tail of a wrapper or of a preamble, or the text without
mentions. -/
def instructionIn (text : String) : String :=
  if t.isClientContext text then (t.contextTail text).getD ""
  else if isPreambleLike text then (preambleTail text).getD ""
  else t.plainIntent text

/-- Every message of a conversation behind a given one is skipped at its position. -/
def SkippedBehind (front behind : List Message) : Prop :=
  EveryPlace (fun before msg _ ↦ t.Skipped msg (front ++ before).getLast?) behind

/-- One of the messages of a conversation behind a given one is taken for a user's preamble. -/
def PreambleBehind (front behind : List Message) : Prop :=
  ∃ before msg after, behind = before ++ msg :: after ∧
    t.SeenPreamble msg (front ++ before).getLast?

/-- The message is not skipped, and all that come behind it are. -/
structure Newest (messages before : List Message) (msg : Message) (behind : List Message) :
    Prop where
  split : messages = before ++ msg :: behind
  genuine : ¬ t.Skipped msg before.getLast?
  later : t.SkippedBehind (before ++ [msg]) behind

/-! ## Where the walk ends -/

variable {t}

/-- What a tail-finder returns is an instruction. -/
theorem isInstruction_of_instruction {rest : List Char} {tail : String}
    (h : instruction rest = some tail) : isInstruction tail = true := by
  unfold instruction at h
  split at h
  · next hinstruction =>
    obtain rfl := Option.some.inj h
    exact hinstruction
  · cases h

/-- The tail of a wrapper is an instruction. -/
theorem isInstruction_of_contextTail {text tail : String} (h : t.contextTail text = some tail) :
    isInstruction tail = true := by
  unfold contextTail at h
  split at h
  · cases h
  · dsimp only at h
    split at h
    · exact isInstruction_of_instruction h
    · split at h
      · split at h
        · cases h
        · exact isInstruction_of_instruction h
      · exact isInstruction_of_instruction h

/-- The tail of a preamble is an instruction. -/
theorem isInstruction_of_preambleTail {text tail : String} (h : preambleTail text = some tail) :
    isInstruction tail = true := by
  unfold preambleTail at h
  split at h
  · cases h
  · obtain ⟨rest, -, hrest⟩ := Option.bind_eq_some_iff.mp h
    exact isInstruction_of_instruction hrest

/-- A round goes on at a text that is skipped, and returns the instruction in one that is not. -/
theorem textRound_cases (w : Walk) (text : String) :
    t.SkippedText text ∧ (∃ w', t.textRound w text = .goesOn w') ∨
      ¬ t.SkippedText text ∧ ∃ info : IntentMeta, t.textRound w text =
        .returns (t.instructionIn text) { info with source := "last_instruction" } := by
  unfold textRound instructionIn
  cases hcontext : t.isClientContext text with
  | true =>
    rw [if_pos rfl, if_pos rfl]
    cases htail : t.contextTail text with
    | none =>
      refine .inl ⟨.wrapper hcontext htail, ?_⟩
      rw [Option.filter_none]
      exact ⟨_, rfl⟩
    | some tail =>
      rw [Option.filter_some, if_pos (isInstruction_of_contextTail htail)]
      refine .inr ⟨?_, w.info, rfl⟩
      rintro (⟨-, h⟩ | ⟨h, -, -⟩ | ⟨h, -, -⟩)
      · rw [htail] at h
        cases h
      · rw [hcontext] at h
        cases h
      · rw [hcontext] at h
        cases h
  | false =>
    rw [if_neg Bool.false_ne_true, if_neg Bool.false_ne_true]
    cases hlike : isPreambleLike text with
    | true =>
      rw [if_pos rfl, if_pos rfl]
      cases htail : preambleTail text with
      | none =>
        refine .inl ⟨.preamble hcontext hlike htail, ?_⟩
        rw [Option.filter_none]
        exact ⟨_, rfl⟩
      | some tail =>
        rw [Option.filter_some, if_pos (isInstruction_of_preambleTail htail)]
        refine .inr ⟨?_, w.info, rfl⟩
        rintro (⟨h, -⟩ | ⟨-, -, h⟩ | ⟨-, h, -⟩)
        · rw [hcontext] at h
          cases h
        · rw [htail] at h
          cases h
        · rw [hlike] at h
          cases h
    | false =>
      rw [if_neg Bool.false_ne_true, if_neg Bool.false_ne_true]
      cases hcont : isContinuation text with
      | true => exact .inl ⟨.continuation hcontext hlike hcont, _, rfl⟩
      | false =>
        refine .inr ⟨?_, w.info, rfl⟩
        rintro (⟨h, -⟩ | ⟨-, h, -⟩ | ⟨-, -, h⟩)
        · rw [hcontext] at h
          cases h
        · rw [hlike] at h
          cases h
        · rw [hcont] at h
          cases h

/-- A round goes on at a message that is skipped, and returns the instruction in one that is
not. -/
theorem round_cases (w : Walk) (msg : Message) (previous : Option Message) :
    t.Skipped msg previous ∧ (∃ w', t.round w msg previous = .goesOn w') ∨
      ¬ t.Skipped msg previous ∧ ∃ info : IntentMeta, t.round w msg previous =
        .returns (t.instructionIn (contentText msg))
          { info with source := "last_instruction" } := by
  unfold round
  dsimp only
  by_cases hsystem : msg.hasRole "system" = true
  · refine .inl ⟨.system hsystem, w, ?_⟩
    rw [hsystem, Bool.true_or, if_pos rfl]
  by_cases hassistant : msg.hasRole "assistant" = true
  · refine .inl ⟨.assistant hassistant, w, ?_⟩
    rw [hassistant, Bool.or_true, if_pos rfl]
  rw [if_neg (by simp [hsystem, hassistant])]
  by_cases htool : msg.hasRole "tool" = true
  · refine .inl ⟨.tool htool, ?_⟩
    rw [if_pos htool]
    exact ⟨_, rfl⟩
  rw [if_neg htool]
  by_cases hresult : t.isToolResult msg previous = true
  · refine .inl ⟨.toolResult hresult, ?_⟩
    rw [if_pos hresult]
    exact ⟨_, rfl⟩
  rw [if_neg hresult]
  obtain ⟨hskipped, hround⟩ | ⟨hnot, hround⟩ := t.textRound_cases _ (contentText msg)
  · exact .inl ⟨.text hskipped, hround⟩
  · refine .inr ⟨?_, hround⟩
    rintro (h | h | h | h | h)
    exacts [hsystem h, hassistant h, htool h, hresult h, hnot h]

/-- A round at a text raises the flag at a preamble and leaves it at every other text. -/
theorem preamble_textRound (w : Walk) (text : String) :
    (t.textRound w text).info.preamble = true ↔
      w.info.preamble = true ∨ t.PreambleOnly text := by
  unfold textRound
  cases hcontext : t.isClientContext text with
  | true =>
    have hnot : ¬ t.PreambleOnly text := fun h ↦ by
      rw [h.plain] at hcontext
      cases hcontext
    rw [if_pos rfl, or_iff_left hnot]
    cases (t.contextTail text).filter isInstruction <;> exact Iff.rfl
  | false =>
    rw [if_neg Bool.false_ne_true]
    cases hlike : isPreambleLike text with
    | true =>
      rw [if_pos rfl]
      cases htail : preambleTail text with
      | none =>
        rw [Option.filter_none]
        exact iff_of_true rfl (.inr ⟨hcontext, hlike, htail⟩)
      | some tail =>
        have hnot : ¬ t.PreambleOnly text := fun h ↦ by
          rw [h.bare] at htail
          cases htail
        rw [Option.filter_some, if_pos (isInstruction_of_preambleTail htail), or_iff_left hnot]
        exact Iff.rfl
    | false =>
      have hnot : ¬ t.PreambleOnly text := fun h ↦ by
        rw [h.like] at hlike
        cases hlike
      rw [if_neg Bool.false_ne_true, or_iff_left hnot]
      split <;> exact Iff.rfl

/-- A round raises the flag at a user's preamble and leaves it at every other message. -/
theorem preamble_round (w : Walk) (msg : Message) (previous : Option Message) :
    (t.round w msg previous).info.preamble = true ↔
      w.info.preamble = true ∨ t.SeenPreamble msg previous := by
  unfold round
  dsimp only
  cases hsystem : msg.hasRole "system" with
  | true =>
    have hnot : ¬ t.SeenPreamble msg previous := fun h ↦ by
      rw [h.notSystem] at hsystem
      cases hsystem
    rw [Bool.true_or, if_pos rfl, or_iff_left hnot, Round.info]
  | false =>
  cases hassistant : msg.hasRole "assistant" with
  | true =>
    have hnot : ¬ t.SeenPreamble msg previous := fun h ↦ by
      rw [h.notAssistant] at hassistant
      cases hassistant
    rw [Bool.or_true, if_pos rfl, or_iff_left hnot, Round.info]
  | false =>
  rw [Bool.or_self, if_neg Bool.false_ne_true]
  cases htool : msg.hasRole "tool" with
  | true =>
    have hnot : ¬ t.SeenPreamble msg previous := fun h ↦ by
      rw [h.notTool] at htool
      cases htool
    rw [if_pos rfl, or_iff_left hnot, Round.info]
  | false =>
  rw [if_neg Bool.false_ne_true]
  cases hresult : t.isToolResult msg previous with
  | true =>
    have hnot : ¬ t.SeenPreamble msg previous := fun h ↦ by
      rw [h.notResult] at hresult
      cases hresult
    rw [if_pos rfl, or_iff_left hnot, Round.info]
    split <;> exact Iff.rfl
  | false =>
    have hseen : t.SeenPreamble msg previous ↔ t.PreambleOnly (contentText msg) :=
      ⟨SeenPreamble.text, fun h ↦ ⟨hsystem, hassistant, htool, hresult, h⟩⟩
    rw [if_neg Bool.false_ne_true, preamble_textRound, hseen]
    split <;> exact Iff.rfl

/-- A preamble behind a given conversation is the last message or stands in front of it. -/
theorem preambleBehind_concat_iff (front init : List Message) (msg : Message) :
    t.PreambleBehind front (init ++ [msg]) ↔
      t.PreambleBehind front init ∨ t.SeenPreamble msg (front ++ init).getLast? := by
  have hplaces := everyPlace_concat_iff
    (P := fun before msg ↦ ¬ t.SeenPreamble msg (front ++ before).getLast?) init msg
  have hbehind (l : List Message) : ¬ t.PreambleBehind front l ↔
      EveryPlace (fun before msg _ ↦ ¬ t.SeenPreamble msg (front ++ before).getLast?) l :=
    ⟨fun h before msg after hsplit hseen ↦ h ⟨before, msg, after, hsplit, hseen⟩,
      fun h ⟨before, msg, after, hsplit, hseen⟩ ↦ h before msg after hsplit hseen⟩
  rw [← not_iff_not, not_or, hbehind, hbehind]
  exact hplaces

/-- The walk goes back over messages that are skipped, to those in front of them, and the flag
tells of the preambles among them. -/
theorem walkBack_of_skippedBehind {front behind : List Message}
    (h : t.SkippedBehind front behind) (w : Walk) :
    ∃ w', t.walkBack w (front ++ behind).reverse = t.walkBack w' front.reverse ∧
      (w'.info.preamble = true ↔ w.info.preamble = true ∨ t.PreambleBehind front behind) := by
  induction behind using List.reverseRecOn generalizing w with
  | nil =>
    have hnone : ¬ t.PreambleBehind front [] := by
      rintro ⟨before, msg, after, hsplit, -⟩
      simp at hsplit
    exact ⟨w, by rw [List.append_nil], (or_iff_left hnone).symm⟩
  | append_singleton init msg ih =>
    obtain ⟨hinit, hmsg⟩ := (everyPlace_concat_iff init msg).mp h
    rw [← List.append_assoc, List.reverse_append, List.reverse_singleton, List.singleton_append,
      walkBack, List.head?_reverse]
    have hflag := t.preamble_round w msg (front ++ init).getLast?
    obtain ⟨-, w₁, hround⟩ | ⟨hnot, -⟩ := t.round_cases w msg (front ++ init).getLast?
    · rw [hround, Round.info] at hflag
      obtain ⟨w', hwalk, hw'⟩ := ih hinit w₁
      rw [hround]
      refine ⟨w', hwalk, ?_⟩
      rw [hw', hflag, preambleBehind_concat_iff, or_assoc, or_comm (b := t.PreambleBehind _ _)]
    · exact absurd hmsg hnot

/-- The walk ends at the newest message that is not skipped, and the flag tells of the preambles
behind it. -/
theorem walkBack_of_newest {messages before behind : List Message} {msg : Message}
    (h : t.Newest messages before msg behind) (w : Walk) :
    ∃ info : IntentMeta, t.walkBack w messages.reverse =
        (t.instructionIn (contentText msg), { info with source := "last_instruction" }) ∧
      (info.preamble = true ↔
        w.info.preamble = true ∨ t.PreambleBehind (before ++ [msg]) behind) := by
  have hsplit : messages = (before ++ [msg]) ++ behind := by
    rw [h.split, List.append_assoc, List.singleton_append]
  obtain ⟨w', hwalk, hw'⟩ := walkBack_of_skippedBehind h.later w
  rw [hsplit, hwalk, List.reverse_append, List.reverse_singleton, List.singleton_append, walkBack,
    List.head?_reverse]
  have hflag := t.preamble_round w' msg before.getLast?
  obtain ⟨hskipped, -⟩ | ⟨-, info, hround⟩ := t.round_cases w' msg before.getLast?
  · exact absurd hskipped h.genuine
  · have hunseen : ¬ t.SeenPreamble msg before.getLast? := fun hseen ↦
      h.genuine (.text (.preamble hseen.text.plain hseen.text.like hseen.text.bare))
    rw [hround, Round.info, or_iff_left hunseen, hw'] at hflag
    rw [hround]
    exact ⟨info, rfl, hflag⟩

/-- A conversation with a message that is not skipped has a newest one. -/
theorem skipped_or_newest (t : CharTable) (messages : List Message) :
    t.SkippedBehind [] messages ∨ ∃ before msg behind, t.Newest messages before msg behind := by
  obtain h | ⟨before, msg, behind, hsplit, hmsg, hbehind⟩ :=
    everyPlace_or_exists_last (fun before msg ↦ t.Skipped msg before.getLast?) messages
  · exact .inl h
  · refine .inr ⟨before, msg, behind, hsplit, hmsg, fun between later after hplace ↦ ?_⟩
    have hlater : t.Skipped later (before ++ msg :: between).getLast? :=
      hbehind between later after hplace
    rwa [← List.singleton_append, ← List.append_assoc] at hlater

/-- Where every message is skipped no instruction is reported, and the flag tells of the
preambles. -/
theorem extractIntentText_of_all_skipped {messages : List Message}
    (h : t.SkippedBehind [] messages) :
    (t.extractIntentText messages).2.source ≠ "last_instruction" ∧
      ((t.extractIntentText messages).2.preamble = true ↔ t.PreambleBehind [] messages) := by
  unfold extractIntentText
  split
  · next hnil =>
    have hnone : ¬ t.PreambleBehind [] messages := by
      rintro ⟨before, msg, after, hsplit, -⟩
      rw [hnil] at hsplit
      simp at hsplit
    exact ⟨by decide, iff_of_false (by decide) hnone⟩
  · obtain ⟨w', hwalk, hw'⟩ := walkBack_of_skippedBehind h Walk.fresh
    rw [List.nil_append] at hwalk
    rw [or_iff_right (show ¬ Walk.fresh.info.preamble = true by decide)] at hw'
    rw [hwalk, List.reverse_nil, walkBack, fallback]
    split
    · refine ⟨?_, hw'⟩
      show "preamble" ≠ "last_instruction"
      decide
    · refine ⟨?_, hw'⟩
      show "first_user_fallback" ≠ "last_instruction"
      decide

/-- The walk over a conversation with an instruction. -/
theorem extractIntentText_of_newest {messages before behind : List Message} {msg : Message}
    (h : t.Newest messages before msg behind) :
    (t.extractIntentText messages).1 = t.instructionIn (contentText msg) ∧
      (t.extractIntentText messages).2.source = "last_instruction" ∧
      ((t.extractIntentText messages).2.preamble = true ↔
        t.PreambleBehind (before ++ [msg]) behind) := by
  have hne : messages ≠ [] := by
    rw [h.split]
    exact List.append_ne_nil_of_right_ne_nil _ (List.cons_ne_nil _ _)
  obtain ⟨info, hwalk, hflag⟩ := walkBack_of_newest h Walk.fresh
  rw [or_iff_right (show ¬ Walk.fresh.info.preamble = true by decide)] at hflag
  unfold extractIntentText
  rw [if_neg hne, hwalk]
  dsimp only
  exact ⟨rfl, rfl, hflag⟩

/-- Messages that are skipped behind a conversation leave its newest instruction the newest. -/
theorem Newest.append {messages before behind appended : List Message} {msg : Message}
    (h : t.Newest messages before msg behind) (happended : t.SkippedBehind messages appended) :
    t.Newest (messages ++ appended) before msg (behind ++ appended) := by
  have hfront : messages = before ++ [msg] ++ behind := by
    rw [h.split, List.append_assoc, List.singleton_append]
  refine ⟨by rw [h.split, List.append_assoc, List.cons_append], h.genuine, ?_⟩
  refine (everyPlace_append_iff (P := fun between later ↦
    t.Skipped later (before ++ [msg] ++ between).getLast?) behind appended).mpr ⟨h.later, ?_⟩
  intro between later after hplace
  have hlater : t.Skipped later (messages ++ between).getLast? :=
    happended between later after hplace
  rwa [hfront, List.append_assoc] at hlater

/-- Appending messages that are skipped at their positions changes nothing about the intent of a
conversation with an instruction; and an intent that is reported as the last instruction is the
one of the newest message that is not skipped. -/
theorem extractIntentText_newest (t : CharTable) (messages : List Message) :
    (∀ appended, (∃ before msg behind, messages = before ++ msg :: behind ∧
        ¬ t.Skipped msg before.getLast?) → t.SkippedBehind messages appended →
      (t.extractIntentText (messages ++ appended)).1 = (t.extractIntentText messages).1) ∧
    ((t.extractIntentText messages).2.source = "last_instruction" →
      ∃ before msg behind, t.Newest messages before msg behind ∧
        (t.extractIntentText messages).1 = t.instructionIn (contentText msg)) := by
  constructor
  · rintro appended ⟨front, genuine, back, hsplit, hgenuine⟩ happended
    obtain h | ⟨before, msg, behind, h⟩ := skipped_or_newest t messages
    · exact absurd (h front genuine back hsplit) hgenuine
    · rw [(extractIntentText_of_newest h).1,
        (extractIntentText_of_newest (h.append happended)).1]
  · intro hsource
    obtain h | ⟨before, msg, behind, h⟩ := skipped_or_newest t messages
    · exact absurd hsource (extractIntentText_of_all_skipped h).1
    · exact ⟨before, msg, behind, h, (extractIntentText_of_newest h).1⟩

end CharTable

/-- The character classes on ASCII texts. -/
def asciiClasses : CharTable := ⟨fun c ↦ c.isAlphanum || c = '_', Char.isDigit⟩

/-- A message of a role that says a text. -/
def saying (role text : String) : Message :=
  ⟨.value role, some (.str text), .absent, .absent, .absent, .absent⟩

/-- An acknowledged request is still the intent. -/
theorem extractIntentText_acknowledged :
    (asciiClasses.extractIntentText
        ([saying "user" "fix it"] ++ [saying "assistant" "done", saying "user" "ok"])).1 =
      (asciiClasses.extractIntentText [saying "user" "fix it"]).1 := by
  apply (CharTable.extractIntentText_newest asciiClasses [saying "user" "fix it"]).1
  · refine ⟨[], saying "user" "fix it", [], rfl, ?_⟩
    rintro (h | h | h | h | ⟨h, -⟩ | ⟨-, h, -⟩ | ⟨-, -, h⟩)
    all_goals exact absurd h (by decide +kernel)
  · intro before later after hplace
    obtain _ | ⟨first, _ | ⟨second, rest⟩⟩ := before
    · obtain rfl := List.head_eq_of_cons_eq hplace
      exact .assistant rfl
    · obtain ⟨rfl, hrest⟩ := List.cons.inj hplace
      obtain rfl := List.head_eq_of_cons_eq hrest
      exact .text (.continuation (by decide +kernel) (by decide +kernel) (by decide +kernel))
    · simp at hplace

end LcpGateway.Router
