import LcpGateway.Base.Pattern
import LcpGateway.Router.Classify

/-!
# Client context

Library `Router`. Source `src/api/message_norm.py:96–134,145–150,163–186,211–398`. A client wraps
its request in tags and brackets; what starts with one of them is taken for a wrapper, whatever
the role of the message.
-/

namespace LcpGateway.Router
open LcpGateway.Base LcpGateway.Chat

/-- The classes `\w` and `\d` of the patterns. -/
structure CharTable where
  isWord : Char → Bool
  isDecimal : Char → Bool

/-- `_TOOL_RESULT_PREFIXES`; `message_norm.py:97–106`. -/
def toolResultPrefixes : List String :=
  ["[tool", "[tool result", "[function result", "[file result", "<tool_result", "<result>",
    "tool result", "tool ran without output", "tool call:", "[tool_call", "tool output:",
    "tool response:", "terminal output:"]

/-- `_CLIENT_CONTEXT_PHRASES`; `message_norm.py:121–124`. -/
def clientContextPhrases : List String :=
  ["you just executed tool calls but returned an empty response"]

/-- `text.strip(" \n\t:-")`. -/
def stripMarks (s : List Char) : List Char :=
  let isMark := fun c ↦ c = ' ' || c = '\n' || c = '\t' || c = ':' || c = '-'
  (s.dropWhile isMark).rdropWhile isMark

/-! ### The text of a message -/

/-- The texts of a `tool_result` block. -/
def toolResultTexts (block : Json) : List String :=
  if (block.get? "type").any (Json.isStr · "tool_result") then
    match block.get? "content" with
    | some (.str s) => [s]
    | some (.arr subs) => subs.filterMap (fun sub ↦
        match sub.get? "text" with
        | some (.str s) => some s
        | _ => none)
    | _ => []
  else []

/-- The texts of a content block. -/
def blockTexts (block : Json) : List String :=
  match block.get? "text" with
  | some (.str s) => [s]
  | _ => toolResultTexts block

/-- `_content_text`; `message_norm.py:163–186`. -/
def contentText (msg : Message) : String :=
  match msg.content with
  | some (.str s) => s
  | some (.arr blocks) => " ".intercalate (blocks.flatMap blockTexts)
  | _ => ""

/-! ### The patterns -/

namespace CharTable

variable (t : CharTable)

/-- `[a-zA-Z_]`. -/
def isNameStart (c : Char) : Bool := c.isAlpha || c = '_'

/-- `[\w.-]`. -/
def isNameChar (c : Char) : Bool := t.isWord c || c = '.' || c = '-'

/-- A letter of a pattern that ignores case; `s` folds with the long s. -/
def sameLetter (c d : Char) : Bool := c = lowerChar d || (c = 's' && d.toNat = 0x17f)

/-- `\s*`. -/
def spaces : Pattern := .many isSpace false

/-- `tests?`. -/
def testWord : Pattern := .chain [.lit "test", .optional (.lit "s")]

/-- `_TOOL_RESULT_PATTERNS`; `message_norm.py:132–138`. -/
def toolResultPatterns : List Pattern :=
  let digits := Pattern.many1 t.isDecimal
  [.chain [.lit "ran ", digits, .lit " ", testWord],
    .chain [digits, .lit "/", digits, .lit " ", testWord],
    .chain [.lit "all ", testWord, .lit " passed"],
    .chain [digits, .lit " ", testWord, .lit " ",
      .alt (.lit "passed") (.alt (.lit "failed") (.lit "skipped"))],
    .lit "traceback (most recent call last)",
    .chain [.lit "exit code", .char (fun c ↦ c = ':' || isSpace c), .char t.isDecimal],
    .lit "command finished",
    .chain [digits, .lit " passed"],
    .chain [digits, .lit " failed"]]

/-- `_MENTION_PREFIX_RE` behind its `^`. -/
def mentionPrefix : Pattern :=
  .chain [.lit "[", .many1 (· ≠ ']'), .lit "]", .many1 isSpace]

/-- `user[\s_-]*request`. -/
def userRequestName : Pattern :=
  .chain [.text sameLetter "user", .many (fun c ↦ isSpace c || c = '_' || c = '-') false,
    .text sameLetter "request"]

/-- `_USER_REQUEST_RE`; `message_norm.py:261–264`. -/
def userRequest : Pattern :=
  .chain [.lit "<", spaces, userRequestName, .boundary t.isWord, .many (· ≠ '>') false, .lit ">",
    .group (.many (fun _ ↦ true) true),
    .lit "<", spaces, .lit "/", spaces, userRequestName, spaces, .lit ">"]

/-- `<\s*[a-zA-Z_][\w.-]*\b[^>]*`, the front of a tag. -/
def tagFront : Pattern :=
  .chain [.lit "<", spaces, .char isNameStart, .many t.isNameChar false, .boundary t.isWord,
    .many (· ≠ '>') false]

/-- `_INNER_TAG_PAIR_RE`; `message_norm.py:270–273`. -/
def innerTagPair : Pattern :=
  .chain [t.tagFront, .lit ">", .many (· ≠ '<') false, .lit "<", spaces, .lit "/", spaces,
    .char isNameStart, .many t.isNameChar false, spaces, .lit ">"]

/-- `_SELF_CLOSING_TAG_RE`. -/
def selfClosingTag : Pattern := .chain [t.tagFront, .lit "/", spaces, .lit ">"]

/-- `_OPENING_TAG_RE`. -/
def openingTag : Pattern := .chain [t.tagFront, .lit ">"]

/-- `_CHAT_MENTION_RE`. -/
def chatMention : Pattern :=
  .chain [.lit "@", .char Char.isAlpha, .many (fun c ↦ t.isWord c || c = '-') false, .lit ":",
    .many1 (fun c ↦ !isSpace c)]

/-- `_ATTACHMENT_REF_RE`. -/
def attachmentRef : Pattern := .chain [.lit "#attachment:", .many (· ≠ '\n') false]

/-! ### Wrappers -/

/-- `_matches_tool_result_patterns`; `message_norm.py:211–229`. -/
def matchesToolResultPatterns (text : String) : Bool :=
  let lowered := (lower (strip text)).toList
  !lowered.isEmpty &&
    (toolResultPrefixes.any (fun p ↦ p.toList.isPrefixOf lowered) ||
      t.toolResultPatterns.any (fun r ↦ (r.search lowered).isSome) ||
      "diff --git".toList.isPrefixOf (lowered.dropWhile isSpace) ||
      (lowered.head? = some '[' && lowered.getLast? = some ']' && lowered.contains '"'))

/-- `_is_client_context`; `message_norm.py:232–252`. -/
def isClientContext (text : String) : Bool :=
  let lowered := (lower (strip text)).toList
  match lowered with
  | [] => false
  | '<' :: _ => true
  | '[' :: _ => !t.matchesToolResultPatterns text
  | _ => clientContextPhrases.any (fun p ↦ p.toList.isPrefixOf lowered)

/-- One round of `_strip_complete_pairs`. -/
def stripPairs (raw : List Char) : List Char := t.selfClosingTag.erase (t.innerTagPair.erase raw)

/-- `_strip_complete_pairs`; `message_norm.py:284–297`. -/
def stripCompletePairs (raw : List Char) : List Char := untilStable t.stripPairs raw.length raw

/-- A round takes only characters away. -/
theorem stripPairs_sublist (raw : List Char) : (t.stripPairs raw).Sublist raw :=
  (t.selfClosingTag.erase_sublist _).trans (t.innerTagPair.erase_sublist raw)

/-- The rounds end where a further one changes nothing. -/
theorem stripPairs_stripCompletePairs (raw : List Char) :
    t.stripPairs (t.stripCompletePairs raw) = t.stripCompletePairs raw :=
  untilStable_stable t.stripPairs_sublist (Nat.le_refl _)

/-- `_strip_bracket_segments`, in one pass; the segment being read comes back when it is not
closed. `message_norm.py:300–308`. -/
def stripBracketSegments : Option (List Char) → List Char → List Char
  | none, '[' :: rest => stripBracketSegments (some ('[' :: rest)) rest
  | none, raw => raw
  | some segment, [] => segment
  | some _, ']' :: rest => stripBracketSegments none rest
  | some segment, _ :: rest => stripBracketSegments (some segment) rest

/-- `text.strip()` on characters. -/
def stripSpace (s : List Char) : List Char := (s.dropWhile isSpace).rdropWhile isSpace

/-- `_strip_mention`; `message_norm.py:374–378`. -/
def stripMention (text : List Char) : List Char :=
  stripSpace (((mentionPrefix.matchAt [] text).map Place.rest).getD text)

/-- `_strip_chat_mentions`; `message_norm.py:393–398`. -/
def stripChatMentions (text : List Char) : List Char :=
  if text.contains '@' || isInfix "#attachment" (String.ofList text) then
    stripSpace (attachmentRef.erase (t.chatMention.erase text))
  else text

/-- `rest if rest and rest.lower().lstrip() not in _CONTINUATIONS else None`. -/
def instruction (rest : List Char) : Option String :=
  if isInstruction (String.ofList rest) then some (String.ofList rest) else none

/-- `_context_tail`; `message_norm.py:311–348`. -/
def contextTail (text : String) : Option String :=
  if !t.isClientContext text then none
  else
    let raw := (strip text).toList
    match t.userRequest.search raw with
    | some (_, found) =>
      instruction (t.stripChatMentions (stripMention (stripMarks found.captured)))
    | none =>
      if raw.head? = some '[' then
        let stripped := stripBracketSegments none raw
        if stripped = raw then none
        else instruction (stripMarks (t.stripChatMentions stripped))
      else
        let rest := t.stripCompletePairs raw
        -- what follows a tag that is not closed is the body of a truncated wrapper
        let rest := ((t.openingTag.search rest).map Prod.fst).getD rest
        instruction (stripMarks (t.stripChatMentions rest))

end CharTable

/-- The text helpers over a table of character classes. -/
def messageNorm (t : CharTable) (extractIntentText : List Message → String × IntentMeta) :
    MessageNorm where
  contentText := contentText
  isClientContext := t.isClientContext
  contextTail := t.contextTail
  stripChatMentions := fun text ↦ String.ofList (t.stripChatMentions text.toList)
  extractIntentText := extractIntentText

end LcpGateway.Router
