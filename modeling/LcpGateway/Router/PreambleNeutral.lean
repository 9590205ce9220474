import LcpGateway.Router.IntentText

/-!
# The neutral path

Library `Router`. Source `src/api/router.py:218–241` and `src/api/message_norm.py:522–584`. The
walk raises a flag at every preamble it goes back over, and the classifier looks at the flag
alone. Where an older instruction is found behind a preamble, the flag is up all the same.
-/

namespace LcpGateway.Router
open LcpGateway.Base LcpGateway.Chat

/-! ## What the classifier makes of the flag -/

/-- What the semantic stage says of an instruction, or of what the user wrote where the instruction
is blank. -/
def semanticOf (norm : MessageNorm) (clf : Option SemanticClassifier) (messages : List Message)
    (text : String) : Option (List (String × Rat)) × Option Rat × Bool × Option String :=
  semanticStage clf
    (strip (if lower (strip text) = "" then strip (norm.userText messages) else lower (strip text)))

/-- A result classified from an instruction: its intent is the instruction, or what the user wrote
where the instruction is blank, and what the semantic stage says of it is recorded and followed. -/
structure ClassifiedFrom (norm : MessageNorm) (clf : Option SemanticClassifier)
    (messages : List Message) (text : String) (result : ClassifyResult) : Prop where
  path_ne : result.path ≠ .preamble
  intentText : result.intentText =
    if strip text = "" then strip (norm.userText messages) else strip text
  semantic : semanticOf norm clf messages text =
    (result.semantic, result.minScore, result.semAvailable,
      if result.path = .semantic then some result.task else none)

section Flag

variable (norm : MessageNorm) (tok : Tokenizer) (clf : Option SemanticClassifier)
  (messages : List Message) (tools : List Tool)

/-- With the flag down the result is classified from the text that the walk returns. -/
theorem classifiedFrom_of_preamble_eq_false
    (h : (norm.extractIntentText messages).2.preamble = false) :
    ClassifiedFrom norm clf messages (norm.extractIntentText messages).1
      (classifyTaskDetail norm tok clf messages tools) := by
  unfold classifyTaskDetail
  generalize norm.extractIntentText messages = walked at h ⊢
  obtain ⟨text, info⟩ := walked
  dsimp only at h ⊢
  rw [h, if_neg Bool.false_ne_true]
  generalize hintent : (if strip text = "" then strip (norm.userText messages)
    else strip text) = intentText
  rcases hstage : semanticStage clf (strip (if lower (strip text) = ""
    then strip (norm.userText messages) else lower (strip text))) with
    ⟨semantic, minScore, semAvailable, semanticTask⟩
  have hsemanticOf : semanticOf norm clf messages text =
    (semantic, minScore, semAvailable, semanticTask) := hstage
  cases semanticTask with
  | some task => exact ⟨nofun, hintent.symm, hsemanticOf⟩
  | none =>
    -- the stages behind the semantic one choose the task, the path and what belongs to them
    have hlater (task : String) (path : ClassifyPath) (keyword : Option String)
        (tokenCount : Nat) (hpath : path ≠ .preamble) (hsemantic : path ≠ .semantic) :
        ClassifiedFrom norm clf messages text
          { task, path, keyword, intentText, semantic, minScore, semAvailable, tokenCount
            intentMeta := info
            toolCount := tools.length } := by
      refine ⟨hpath, hintent.symm, ?_⟩
      rw [hsemanticOf, if_neg hsemantic]
    dsimp only
    split
    · refine hlater _ .agenticPrompt _ _ ?_ ?_ <;> nofun
    · split
      · refine hlater _ .toolCount _ _ ?_ ?_ <;> nofun
      · split
        · refine hlater _ .tokenCount _ _ ?_ ?_ <;> nofun
        · split
          · refine hlater _ .casual _ _ ?_ ?_ <;> nofun
          · refine hlater _ .default _ _ ?_ ?_ <;> nofun

/-- The neutral path is taken exactly where the flag is up. -/
theorem path_eq_preamble_iff :
    (classifyTaskDetail norm tok clf messages tools).path = .preamble ↔
      (norm.extractIntentText messages).2.preamble = true := by
  cases hflag : (norm.extractIntentText messages).2.preamble with
  | true =>
    refine iff_of_true ?_ rfl
    unfold classifyTaskDetail
    dsimp only
    rw [if_pos hflag]
  | false =>
    have hfrom := classifiedFrom_of_preamble_eq_false norm tok clf messages tools hflag
    exact iff_of_false hfrom.path_ne Bool.false_ne_true

end Flag

/-! ## Conversations -/

namespace CharTable

variable (t : CharTable) (tok : Tokenizer) (clf : Option SemanticClassifier)
  (messages : List Message) (tools : List Tool)

/-- The neutral path is for conversations without an instruction in which a preamble was seen; with
an instruction the newest one is what the result is classified from. -/
structure NeutralWithoutInstruction : Prop where
  neutral_iff : (classifyTaskDetail t.norm tok clf messages tools).path = .preamble ↔
    t.SkippedBehind [] messages ∧ t.PreambleBehind [] messages
  fromInstruction : ∀ before msg behind, t.Newest messages before msg behind →
    ClassifiedFrom t.norm clf messages (t.instructionIn (contentText msg))
      (classifyTaskDetail t.norm tok clf messages tools)

variable {t} {messages}

/-- A conversation whose messages are all skipped has no newest instruction. -/
theorem Newest.not_skippedBehind {before behind : List Message} {msg : Message}
    (h : t.Newest messages before msg behind) : ¬ t.SkippedBehind [] messages :=
  fun hskipped ↦ h.genuine (hskipped before msg behind h.split)

/-- The neutral path, at a conversation with an instruction: a preamble came behind it. -/
theorem Newest.path_eq_preamble_iff {before behind : List Message} {msg : Message}
    (h : t.Newest messages before msg behind) :
    (classifyTaskDetail t.norm tok clf messages tools).path = .preamble ↔
      t.PreambleBehind (before ++ [msg]) behind :=
  (Router.path_eq_preamble_iff t.norm tok clf messages tools).trans
    (extractIntentText_of_newest h).2.2

variable (t) (messages)

/-- The classifier is neutral without an instruction only, exactly when no preamble comes behind
the newest instruction. -/
theorem neutralWithoutInstruction_iff :
    t.NeutralWithoutInstruction tok clf messages tools ↔
      ∀ before msg behind, t.Newest messages before msg behind →
        ¬ t.PreambleBehind (before ++ [msg]) behind := by
  constructor
  · intro h before msg behind hnewest hpreamble
    apply (h.fromInstruction before msg behind hnewest).path_ne
    exact (hnewest.path_eq_preamble_iff tok clf tools).mpr hpreamble
  · intro h
    refine ⟨?_, fun before msg behind hnewest ↦ ?_⟩
    · obtain hskipped | ⟨before, msg, behind, hnewest⟩ := skipped_or_newest t messages
      · rw [path_eq_preamble_iff, and_iff_right hskipped]
        exact (extractIntentText_of_all_skipped hskipped).2
      · rw [hnewest.path_eq_preamble_iff]
        exact iff_of_false (h before msg behind hnewest)
          (fun hall ↦ hnewest.not_skippedBehind hall.1)
    · obtain ⟨htext, -, hflag⟩ := extractIntentText_of_newest hnewest
      have hdown : (t.norm.extractIntentText messages).2.preamble = false :=
        Bool.eq_false_iff.mpr (mt hflag.mp (h before msg behind hnewest))
      have hfrom := classifiedFrom_of_preamble_eq_false t.norm tok clf messages tools hdown
      rwa [show (t.norm.extractIntentText messages).1 = t.instructionIn (contentText msg)
        from htext] at hfrom

/-- Every pattern of a tool result has a digit, an a or an x. -/
theorem search_toolResultPatterns {t : CharTable} {s : List Char}
    (hdigits : ∀ c ∈ s, t.isDecimal c = false) (ha : 'a' ∉ s) (hx : 'x' ∉ s) {r : Pattern}
    (hr : r ∈ t.toolResultPatterns) : r.search s = none := by
  have hnumber {patterns : List Pattern} (hmem : Pattern.many1 t.isDecimal ∈ patterns) :
      (Pattern.chain patterns).search s = none :=
    ((Pattern.needs_many1 _).chain hmem).search_eq_none hdigits
  have hword {w : String} {c : Char} (hc : c ∈ w.toList) (hs : c ∉ s) :
      (Pattern.lit w).Needs (fun d ↦ c = d) ∧ ∀ d ∈ s, decide (c = d) = false := by
    refine ⟨Pattern.needs_lit hc, fun d hd ↦ decide_eq_false ?_⟩
    rintro rfl
    exact hs hd
  have hran := hword (w := "ran ") (c := 'a') (by decide) ha
  have hall := hword (w := "all ") (c := 'a') (by decide) ha
  have htraceback := hword (w := "traceback (most recent call last)") (c := 'a') (by decide) ha
  have hexit := hword (w := "exit code") (c := 'x') (by decide) hx
  have hcommand := hword (w := "command finished") (c := 'a') (by decide) ha
  simp only [toolResultPatterns, List.mem_cons, List.not_mem_nil, or_false] at hr
  rcases hr with rfl | rfl | rfl | rfl | rfl | rfl | rfl | rfl | rfl
  · exact (hran.1.chain List.mem_cons_self).search_eq_none hran.2
  · exact hnumber List.mem_cons_self
  · exact (hall.1.chain List.mem_cons_self).search_eq_none hall.2
  · exact hnumber List.mem_cons_self
  · exact htraceback.1.search_eq_none htraceback.2
  · exact (hexit.1.chain List.mem_cons_self).search_eq_none hexit.2
  · exact hcommand.1.search_eq_none hcommand.2
  · exact hnumber List.mem_cons_self
  · exact hnumber List.mem_cons_self

end CharTable

/-- A text without a blank line is in front of one. -/
theorem splitBlankLine_of_search {raw : List Char}
    (h : (Pattern.chain [.lit "\n", CharTable.spaces, .lit "\n"]).search raw = none) :
    splitBlankLine raw = (raw, none) := by
  unfold splitBlankLine
  rw [h]

/-- A text without a blank line has no tail. -/
theorem preambleTail_of_split {text : String}
    (h : (splitBlankLine (strip text).toList).2 = none) : CharTable.preambleTail text = none := by
  unfold CharTable.preambleTail
  rw [h, Option.bind_none, ite_self]

/-- A text that begins with no wrapper is no client context. -/
theorem isClientContext_of_lowered {t : CharTable} {text : String} {c : Char} {rest : List Char}
    (h : (lower (strip text)).toList = c :: rest) (htag : c ≠ '<') (hbracket : c ≠ '[')
    (hphrase : clientContextPhrases.any (fun p ↦ p.toList.isPrefixOf (c :: rest)) = false) :
    t.isClientContext text = false := by
  unfold CharTable.isClientContext
  rw [h]
  dsimp only
  split
  · next hnil => cases hnil
  · next hcons => exact absurd (List.cons.inj hcons).1 htag
  · next hcons => exact absurd (List.cons.inj hcons).1 hbracket
  · exact hphrase

/-- The characters of a long text with no keyword. -/
def briefChars : List Char :=
  'b' :: 'e' :: (List.replicate 17 [' ', 'b', 'r', 'i', 'e', 'f', ',']).flatten

/-- Its words, with the spaces between them. -/
def briefWords : List Char :=
  'b' :: 'e' :: (List.replicate 17 [' ', 'b', 'r', 'i', 'e', 'f']).flatten

/-- The text of a preamble. -/
def brief : String := String.ofList briefChars

/-- The characters of the text. -/
def briefLetters : List Char := [' ', 'b', 'r', 'i', 'e', 'f', ',']

theorem mem_brief {c : Char} (h : c ∈ brief.toList) : c ∈ briefLetters := by
  rw [brief, String.toList_ofList, briefChars] at h
  simp only [briefLetters, List.mem_cons, List.mem_flatten, List.mem_replicate] at h ⊢
  rcases h with rfl | rfl | ⟨part, ⟨-, rfl⟩, hpart⟩
  · simp
  · simp
  · simp only [List.mem_cons] at hpart
    tauto

/-- What holds of the characters holds along the text. -/
theorem all_brief {p : Char → Bool} (hp : briefLetters.all p = true) :
    ∀ c ∈ brief.toList, p c = true :=
  fun c hc ↦ List.all_eq_true.mp hp c (mem_brief hc)

theorem strip_brief : strip brief = brief := by
  rw [strip_eq_self_iff, brief, String.toList_ofList]
  constructor
  · rintro c ⟨⟩
    rfl
  · intro c hc
    have hlast : briefChars.getLast? = some ',' := rfl
    obtain rfl := Option.some.inj (hlast.symm.trans hc)
    rfl

theorem lower_brief : lower brief = brief := by
  have hsame := all_brief (p := fun c ↦ lowerChar c = c) (by decide)
  have hmap : brief.toList.map lowerChar = brief.toList.map fun c ↦ c :=
    List.map_congr_left fun c hc ↦ of_decide_eq_true (hsame c hc)
  rw [lower, hmap, List.map_id', String.ofList_toList]

theorem lowerChars_brief : lowerChars brief = briefChars := by
  have hsame := all_brief
    (p := fun c ↦ (if c.toNat = 0x130 then ['i', '\u0307'] else [lowerChar c]) = [c]) (by decide)
  rw [lowerChars, List.flatMap_congr fun c hc ↦ of_decide_eq_true (hsame c hc),
    List.flatMap_singleton', brief, String.toList_ofList]

theorem splitBlankLine_brief : splitBlankLine brief.toList = (brief.toList, none) := by
  have hline : (Pattern.lit "\n").Needs (fun d ↦ '\n' = d) := Pattern.needs_lit (by decide)
  have hnone := all_brief (p := fun c ↦ !decide ('\n' = c)) (by decide)
  exact splitBlankLine_of_search ((hline.chain List.mem_cons_self).search_eq_none
    fun c hc ↦ by simpa using hnone c hc)

/-- It has too many words for an acknowledgement. -/
theorem isContinuation_brief : isContinuation brief = false := by
  have hkept : briefChars.filter (fun c : Char ↦
      ('a' ≤ c && c ≤ 'z') || ('0' ≤ c && c ≤ '9') || isSpace c) = briefWords := by
    decide +kernel
  have hnorm : CharTable.stripSpace (collapseSpaces briefWords) = briefWords := by decide +kernel
  have hlong : ¬ (splitWords briefWords).length ≤ 3 := by decide +kernel
  have hother : continuations.contains (String.ofList briefWords) = false := by decide +kernel
  unfold isContinuation
  dsimp only
  rw [strip_brief, lowerChars_brief, hkept, hnorm, hother, decide_eq_false hlong]
  rfl

/-- Every keyword that counts has a character that the text does not have. -/
theorem keyword_letter : ∀ kw ∈ specificSignals.flatten,
    (kw.toList.contains ' ' || decide (6 < kw.length)) = true →
      kw.toList.any (fun c ↦ !briefLetters.contains c) = true := by
  decide +kernel

theorem isPreambleLike_brief : isPreambleLike brief = true := by
  have hhead : preambleHead brief = brief := by
    unfold preambleHead
    rw [strip_brief, splitBlankLine_brief]
    dsimp only
    rw [String.ofList_toList, strip_brief]
  have hkeywords : (specificSignals.flatten.any fun kw ↦
      (kw.toList.contains ' ' || 6 < kw.length) && isInfix kw brief) = false := by
    rw [List.any_eq_false]
    intro kw hkw hinfix
    obtain ⟨hcounts, hinfix⟩ := Bool.and_eq_true_iff.mp hinfix
    obtain ⟨c, hc, hother⟩ := List.any_eq_true.mp (keyword_letter kw hkw hcounts)
    have hnot : c ∉ brief.toList := fun hmem ↦ by simp [mem_brief hmem] at hother
    rw [isInfix_eq_false hc hnot] at hinfix
    cases hinfix
  unfold isPreambleLike
  dsimp only
  rw [hhead, lowerChars_brief, isContinuation_brief,
    show collapseSpaces briefChars = briefChars by decide +kernel, ← brief, hkeywords]
  decide +kernel

theorem isToolResult_brief :
    asciiClasses.isToolResult (saying "user" brief) (some (saying "user" "fix it")) = false := by
  have hpatterns : asciiClasses.matchesToolResultPatterns brief = false := by
    unfold CharTable.matchesToolResultPatterns
    have hsearch : (asciiClasses.toolResultPatterns.any fun r ↦ (r.search brief.toList).isSome) =
        false := by
      rw [List.any_eq_false]
      intro r hr hfound
      have hdigits := all_brief (p := fun c ↦ !asciiClasses.isDecimal c) (by decide)
      have hletters := all_brief (p := fun c ↦ c ≠ 'a' && c ≠ 'x') (by decide)
      have ha : 'a' ∉ brief.toList := fun hmem ↦ absurd (hletters 'a' hmem) (by decide)
      have hx : 'x' ∉ brief.toList := fun hmem ↦ absurd (hletters 'x' hmem) (by decide)
      rw [CharTable.search_toolResultPatterns (fun c hc ↦ by simpa using hdigits c hc) ha hx hr] at hfound
      cases hfound
    rw [strip_brief, lower_brief]
    dsimp only
    rw [hsearch, brief, String.toList_ofList]
    decide +kernel
  unfold CharTable.isToolResult
  rw [show contentText (saying "user" brief) = brief from rfl, hpatterns]
  rfl

/-- It is a preamble and nothing else. -/
theorem preambleOnly_brief : asciiClasses.PreambleOnly brief := by
  have hsplit : (splitBlankLine (strip brief).toList).2 = none := by
    rw [strip_brief, splitBlankLine_brief]
  have hlowered : (lower (strip brief)).toList = briefChars := by
    rw [strip_brief, lower_brief, brief, String.toList_ofList]
  refine ⟨?_, isPreambleLike_brief, preambleTail_of_split hsplit⟩
  exact isClientContext_of_lowered hlowered (by decide) (by decide) (by decide +kernel)

/-- Behind a request it is taken for a preamble. -/
theorem seenPreamble_brief :
    asciiClasses.SeenPreamble (saying "user" brief) (some (saying "user" "fix it")) :=
  ⟨rfl, rfl, rfl, isToolResult_brief, preambleOnly_brief⟩

/-- The request is an instruction, and the one the walk returns; the path is the neutral one. -/
theorem not_neutralWithoutInstruction_prompted :
    ¬ asciiClasses.NeutralWithoutInstruction ⟨String.length, fun _ ↦ ""⟩ none
      [saying "user" "fix it", saying "user" brief] [] := by
  have hgenuine : ¬ asciiClasses.Skipped (saying "user" "fix it") none := by
    rintro (h | h | h | h | ⟨h, -⟩ | ⟨-, h, -⟩ | ⟨-, -, h⟩)
    all_goals exact absurd h (by decide +kernel)
  have hnewest : asciiClasses.Newest [saying "user" "fix it", saying "user" brief] []
      (saying "user" "fix it") [saying "user" brief] := by
    refine ⟨rfl, hgenuine, fun before msg after hsplit ↦ ?_⟩
    obtain _ | ⟨first, rest⟩ := before
    · obtain rfl := List.head_eq_of_cons_eq hsplit
      obtain ⟨hplain, hlike, hbare⟩ := preambleOnly_brief
      exact .text (.preamble hplain hlike hbare)
    · simp at hsplit
  intro h
  apply (h.fromInstruction _ _ _ hnewest).path_ne
  rw [hnewest.path_eq_preamble_iff]
  exact ⟨[], saying "user" brief, [], rfl, seenPreamble_brief⟩

end LcpGateway.Router
