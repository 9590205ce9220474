import LcpGateway.Base.Casing
import LcpGateway.Router.IntentText

/-!
# Wrappers behind wrappers

Library `Router`. Source `src/api/message_norm.py:232–371`. What stands behind a wrapper is taken
as it is: none of the three ways to find it looks at it again. It can begin with a wrapper of its
own, and stripping the messages a second time then takes that one away too.
-/

namespace LcpGateway.Router
open LcpGateway.Base LcpGateway.Chat

/-! ## Bracketed segments -/

/-- A bracketed segment ends with its first closing bracket. -/
def IsSegment (s : List Char) : Prop := ∃ body, ']' ∉ body ∧ s = '[' :: (body ++ [']'])

/-- A text that does not begin with a bracketed segment. -/
def NoSegment (rest : List Char) : Prop := ∀ s after, IsSegment s → rest ≠ s ++ after

namespace CharTable

/-- Inside a segment the pass goes on to the closing bracket. -/
theorem stripBracketSegments_some (segment body rest : List Char) (h : ']' ∉ body) :
    stripBracketSegments (some segment) (body ++ ']' :: rest) =
      stripBracketSegments none rest := by
  induction body with
  | nil => rfl
  | cons c body ih =>
    obtain ⟨hc, hbody⟩ := not_or.mp (mt List.mem_cons.mpr h)
    have hstep : stripBracketSegments (some segment) (c :: (body ++ ']' :: rest)) =
        stripBracketSegments (some segment) (body ++ ']' :: rest) := by
      rw [stripBracketSegments]
      exact fun heq ↦ hc heq.symm
    rw [List.cons_append, hstep, ih hbody]

/-- A segment that is not closed comes back. -/
theorem stripBracketSegments_unclosed (segment rest : List Char) (h : ']' ∉ rest) :
    stripBracketSegments (some segment) rest = segment := by
  induction rest with
  | nil => rw [stripBracketSegments]
  | cons c rest ih =>
    obtain ⟨hc, hrest⟩ := not_or.mp (mt List.mem_cons.mpr h)
    rw [stripBracketSegments]
    · exact ih hrest
    · exact fun heq ↦ hc heq.symm

/-- The pass takes a segment off the front. -/
theorem stripBracketSegments_segment {s : List Char} (hs : IsSegment s) (rest : List Char) :
    stripBracketSegments none (s ++ rest) = stripBracketSegments none rest := by
  obtain ⟨body, hbody, rfl⟩ := hs
  rw [List.cons_append, List.append_assoc, List.singleton_append, stripBracketSegments]
  exact stripBracketSegments_some _ body rest hbody

/-- A text that begins with no segment stays. -/
theorem stripBracketSegments_of_noSegment {rest : List Char} (h : NoSegment rest) :
    stripBracketSegments none rest = rest := by
  by_cases hopen : ∃ tail, rest = '[' :: tail
  · obtain ⟨tail, rfl⟩ := hopen
    have hunclosed : ']' ∉ tail := by
      intro hmem
      obtain ⟨body, after, hsplit, hbody⟩ := List.eq_append_cons_of_mem hmem
      refine h ('[' :: (body ++ [']'])) after ⟨body, hbody, rfl⟩ ?_
      rw [hsplit, List.cons_append, List.append_assoc, List.singleton_append]
    rw [stripBracketSegments]
    exact stripBracketSegments_unclosed _ tail hunclosed
  · rw [stripBracketSegments]
    exact fun tail heq ↦ hopen ⟨tail, heq⟩

/-- The pass takes off the segments that stand at the front without anything between them. -/
theorem stripBracketSegments_flatten {segments : List (List Char)} {rest : List Char}
    (hall : ∀ s ∈ segments, IsSegment s) (hrest : NoSegment rest) :
    stripBracketSegments none (segments.flatten ++ rest) = rest := by
  induction segments with
  | nil => exact stripBracketSegments_of_noSegment hrest
  | cons s segments ih =>
    rw [List.flatten_cons, List.append_assoc,
      stripBracketSegments_segment (hall s List.mem_cons_self)]
    exact ih fun s' hs' ↦ hall s' (List.mem_cons_of_mem s hs')

/-- Every text is the segments at its front and what is behind them. -/
theorem exists_segments (raw : List Char) : ∃ segments rest,
    raw = List.flatten segments ++ rest ∧ (∀ s ∈ segments, IsSegment s) ∧ NoSegment rest := by
  induction hlength : raw.length using Nat.strong_induction_on generalizing raw with
  | _ n ih =>
    by_cases hnone : NoSegment raw
    · exact ⟨[], raw, rfl, fun s hs ↦ absurd hs List.not_mem_nil, hnone⟩
    · unfold NoSegment at hnone
      push Not at hnone
      obtain ⟨s, after, hs, rfl⟩ := hnone
      have hpos : 0 < s.length := by
        obtain ⟨body, -, rfl⟩ := hs
        exact Nat.succ_pos _
      rw [List.length_append] at hlength
      obtain ⟨segments, rest, rfl, hall, hrest⟩ := ih after.length (by omega) after rfl
      refine ⟨s :: segments, rest, ?_, ?_, hrest⟩
      · rw [List.flatten_cons, List.append_assoc]
      · exact List.forall_mem_cons.mpr ⟨hs, hall⟩

/-- Segments at the front of a text begin with a bracket. -/
theorem head?_flatten_of_segments {segments : List (List Char)} (rest : List Char)
    (hsome : segments ≠ []) (hall : ∀ s ∈ segments, IsSegment s) :
    (segments.flatten ++ rest).head? = some '[' := by
  obtain ⟨s, others, rfl⟩ := List.exists_cons_of_ne_nil hsome
  obtain ⟨body, -, rfl⟩ := hall s List.mem_cons_self
  rfl

/-! ## What stands behind a wrapper -/

variable (t : CharTable)

/-- What is left of a text when rounds without its tag pairs and its self-closing tags have come to
rest. -/
def LeftOfPairs (raw left : List Char) : Prop :=
  (∃ rounds, t.stripPairs^[rounds] raw = left) ∧ t.stripPairs left = left

/-- What is taken for the instruction in a wrapper: the content of the first request container,
the text behind the segments at the front, or what is left in front of an open tag. -/
inductive Behind (raw : List Char) : List Char → Prop
  | container (front : List Char) (found : Place)
      (h : t.userRequest.search raw = some (front, found)) :
      Behind raw (t.stripChatMentions (stripMention (stripMarks found.captured)))
  | brackets (segments : List (List Char)) (rest : List Char)
      (hnone : t.userRequest.search raw = none) (hraw : raw = segments.flatten ++ rest)
      (hsome : segments ≠ []) (hall : ∀ s ∈ segments, IsSegment s) (hrest : NoSegment rest) :
      Behind raw (stripMarks (t.stripChatMentions rest))
  | tags (left : List Char)
      (hnone : t.userRequest.search raw = none) (hbracket : raw.head? ≠ some '[')
      (hleft : t.LeftOfPairs raw left) :
      Behind raw (stripMarks (t.stripChatMentions
        (((t.openingTag.search left).map Prod.fst).getD left)))

/-- A wrapper behind which another one begins. -/
structure Nested (text : String) : Prop where
  wrapper : t.isClientContext text = true
  inner : ∃ rest, t.Behind (strip text).toList rest ∧
    t.isClientContext (String.ofList rest) = true

variable {t}

/-- The rounds of the code come to rest at what is left of a text. -/
theorem leftOfPairs_iff {raw left : List Char} :
    t.LeftOfPairs raw left ↔ left = t.stripCompletePairs raw := by
  have hstable := t.stripPairs_stripCompletePairs raw
  obtain ⟨rounds, hrounds⟩ := exists_iterate_eq_untilStable t.stripPairs raw.length raw
  rw [← show _ = t.stripCompletePairs raw from hrounds] at hstable ⊢
  constructor
  · rintro ⟨⟨others, rfl⟩, hleft⟩
    exact iterate_eq_of_stable hleft hstable
  · rintro rfl
    exact ⟨⟨rounds, rfl⟩, hstable⟩

section Routes

variable {raw : List Char}

/-- Behind a request container there is its content. -/
theorem behind_iff_of_container {front : List Char} {found : Place}
    (h : t.userRequest.search raw = some (front, found)) (rest : List Char) :
    t.Behind raw rest ↔
      rest = t.stripChatMentions (stripMention (stripMarks found.captured)) := by
  constructor
  · intro hbehind
    cases hbehind with
    | container front' found' h' =>
      obtain ⟨-, rfl⟩ := Prod.mk.inj (Option.some.inj (h'.symm.trans h))
      rfl
    | brackets _ _ hnone =>
      rw [h] at hnone
      cases hnone
    | tags _ hnone =>
      rw [h] at hnone
      cases hnone
  · rintro rfl
    exact .container front found h

/-- Behind segments there is what the pass leaves, where it takes one off. -/
theorem behind_iff_of_bracket (hnone : t.userRequest.search raw = none)
    (hbracket : raw.head? = some '[') (rest : List Char) :
    t.Behind raw rest ↔ stripBracketSegments none raw ≠ raw ∧
      rest = stripMarks (t.stripChatMentions (stripBracketSegments none raw)) := by
  constructor
  · intro hbehind
    cases hbehind with
    | container front found h =>
      rw [hnone] at h
      cases h
    | brackets segments rest _ hraw hsome hall hrest =>
      have hstripped : stripBracketSegments none raw = rest := by
        rw [hraw]
        exact stripBracketSegments_flatten hall hrest
      rw [hstripped]
      refine ⟨fun heq ↦ ?_, rfl⟩
      have hnil : segments.flatten = [] := List.self_eq_append_left.mp (heq.trans hraw)
      have hhead := head?_flatten_of_segments [] hsome hall
      rw [hnil] at hhead
      cases hhead
    | tags _ _ hother => exact absurd hbracket hother
  · rintro ⟨hne, rfl⟩
    obtain ⟨segments, rest, hraw, hall, hrest⟩ := exists_segments raw
    have hstripped : stripBracketSegments none raw = rest := by
      rw [hraw]
      exact stripBracketSegments_flatten hall hrest
    rw [hstripped] at hne ⊢
    refine .brackets segments rest hnone hraw ?_ hall hrest
    rintro rfl
    exact hne hraw.symm

/-- Behind tags there is what is left of them, in front of an open one. -/
theorem behind_iff_of_tags (hnone : t.userRequest.search raw = none)
    (hbracket : raw.head? ≠ some '[') (rest : List Char) :
    t.Behind raw rest ↔ rest = stripMarks (t.stripChatMentions
      (((t.openingTag.search (t.stripCompletePairs raw)).map Prod.fst).getD
        (t.stripCompletePairs raw))) := by
  constructor
  · intro hbehind
    cases hbehind with
    | container front found h =>
      rw [hnone] at h
      cases h
    | brackets segments rest _ hraw hsome hall =>
      rw [hraw] at hbracket
      exact absurd (head?_flatten_of_segments rest hsome hall) hbracket
    | tags left _ _ hleft => rw [leftOfPairs_iff.mp hleft]
  · rintro rfl
    exact .tags _ hnone hbracket (leftOfPairs_iff.mpr rfl)

end Routes

/-- The tail of a wrapper is the instruction behind it. -/
theorem contextTail_eq_some_iff {text tail : String} (hwrapper : t.isClientContext text = true) :
    t.contextTail text = some tail ↔
      ∃ rest, t.Behind (strip text).toList rest ∧ instruction rest = some tail := by
  unfold contextTail
  rw [if_neg (by rw [hwrapper]; exact Bool.false_ne_true)]
  generalize (strip text).toList = raw
  dsimp only
  cases hsearch : t.userRequest.search raw with
  | some place =>
    simp only [behind_iff_of_container hsearch, exists_eq_left]
  | none =>
    dsimp only
    split
    · next hbracket =>
      simp only [behind_iff_of_bracket hsearch hbracket, and_assoc, exists_and_left, exists_eq_left]
      split
      · next heq => exact iff_of_false nofun fun h ↦ h.1 heq
      · next hne => rw [and_iff_right hne]
    · next hbracket => simp only [behind_iff_of_tags hsearch hbracket, exists_eq_left]

/-- No acknowledgement begins like a wrapper. -/
theorem continuations_no_wrapper : ∀ k ∈ continuations,
    (k.toList.rdropWhile isSpace).head? ≠ some '<' ∧
      (k.toList.rdropWhile isSpace).head? ≠ some '[' ∧
      clientContextPhrases.any (fun p ↦ p.toList.isPrefixOf (k.toList.rdropWhile isSpace)) =
        false := by
  decide +kernel

/-- Client context is no acknowledgement. -/
theorem isInstruction_of_isClientContext {text : String} (h : t.isClientContext text = true) :
    isInstruction text = true := by
  have hstrip (hmem : lstrip (lower text) ∈ continuations) :
      (lower (strip text)).toList = (lstrip (lower text)).toList.rdropWhile isSpace := by
    rw [← strip_lower, strip, lstrip, String.toList_ofList, String.toList_ofList]
  unfold isInstruction
  rw [decide_eq_true_iff]
  constructor
  · rintro rfl
    rw [show t.isClientContext "" = false from rfl] at h
    cases h
  · intro hmem
    obtain ⟨htag, hbracket, hphrase⟩ := continuations_no_wrapper _ hmem
    rw [← hstrip hmem] at htag hbracket hphrase
    unfold isClientContext at h
    dsimp only at h
    split at h
    · cases h
    · next heq => exact htag (congrArg List.head? heq)
    · next heq => exact hbracket (congrArg List.head? heq)
    · rw [hphrase] at h
      cases h

/-- A message with a wrapper behind its wrapper is one whose tail is client context. -/
theorem nested_iff {text : String} :
    t.Nested text ↔ ∃ tail, t.contextTail text = some tail ∧ t.isClientContext tail = true := by
  constructor
  · rintro ⟨hwrapper, rest, hbehind, hinner⟩
    refine ⟨String.ofList rest, (contextTail_eq_some_iff hwrapper).mpr ⟨rest, hbehind, ?_⟩, hinner⟩
    rw [instruction, if_pos (isInstruction_of_isClientContext hinner)]
  · rintro ⟨tail, htail, hinner⟩
    cases hwrapper : t.isClientContext text with
    | false =>
      rw [contextTail, hwrapper] at htail
      cases htail
    | true =>
      obtain ⟨rest, hbehind, hrest⟩ := (contextTail_eq_some_iff hwrapper).mp htail
      unfold instruction at hrest
      split at hrest
      · obtain rfl := Option.some.inj hrest
        exact ⟨hwrapper, rest, hbehind, hinner⟩
      · cases hrest

/-! ## Notices -/

/-- A character that no trimming takes away. -/
def Stays (c : Char) : Prop := isSpace c = false ∧ c ≠ ':' ∧ c ≠ '-'

/-- A front of a text that begins and ends with characters that stay, without the signs of tags and
mentions. -/
structure PlainFront (front : List Char) : Prop where
  first : ∃ c, front.head? = some c ∧ Stays c
  last : ∃ c, front.getLast? = some c ∧ Stays c
  noTag : '<' ∉ front
  noMention : '@' ∉ front
  noAttachment : '#' ∉ front

/-- The patterns of the tags begin with an angle bracket. -/
theorem beginsIn_tagFront : t.tagFront.BeginsIn (fun c ↦ '<' = c) :=
  ((Pattern.beginsIn_char _).seq _).seq _

/-- A character that does not occur is none of the characters. -/
theorem decide_eq_false_of_notMem {front : List Char} {x : Char} (h : x ∉ front) :
    ∀ c ∈ front, decide (x = c) = false :=
  fun _ hc ↦ decide_eq_false fun heq ↦ h (by rwa [heq])

namespace PlainFront

variable {front l : List Char}

theorem prefix_stripSpace (h : PlainFront front) (hl : front <+: l) : front <+: stripSpace l := by
  obtain ⟨c, hhead, hc, -⟩ := h.first
  obtain ⟨d, hlast, hd, -⟩ := h.last
  exact prefix_trim hhead hlast hc hd hl

theorem prefix_stripMarks (h : PlainFront front) (hl : front <+: l) : front <+: stripMarks l := by
  have hmark (x : Char) (hx : Stays x) :
      decide (x = ' ' || x = '\n' || x = '\t' || x = ':' || x = '-') = false := by
    obtain ⟨hspace, hcolon, hdash⟩ := hx
    rw [decide_eq_false_iff_not]
    intro h
    simp only [Bool.or_eq_true, decide_eq_true_eq] at h
    obtain (((rfl | rfl) | rfl) | h) | h := h
    · exact absurd hspace (by decide)
    · exact absurd hspace (by decide)
    · exact absurd hspace (by decide)
    · exact hcolon h
    · exact hdash h
  obtain ⟨c, hhead, hc⟩ := h.first
  obtain ⟨d, hlast, hd⟩ := h.last
  exact prefix_trim hhead hlast (by simpa using hmark c hc) (by simpa using hmark d hd) hl

/-- The rounds without tags leave the front. -/
theorem prefix_stripCompletePairs (h : PlainFront front) (hl : front <+: l) :
    front <+: t.stripCompletePairs l := by
  have hround (l : List Char) (hl : front <+: l) : front <+: t.stripPairs l :=
    (beginsIn_tagFront.seq _).prefix_erase (decide_eq_false_of_notMem h.noTag)
      ((beginsIn_tagFront.seq _).prefix_erase (decide_eq_false_of_notMem h.noTag) hl)
  obtain ⟨rounds, hrounds⟩ := exists_iterate_eq_untilStable t.stripPairs l.length l
  rw [stripCompletePairs, ← hrounds]
  exact Function.Iterate.rec (front <+: ·) hl hround rounds

/-- The front stands in front of an open tag. -/
theorem prefix_openingTag (h : PlainFront front) (hl : front <+: l) :
    front <+: ((t.openingTag.search l).map Prod.fst).getD l := by
  cases hsearch : t.openingTag.search l with
  | none => exact hl
  | some place =>
    obtain ⟨before, found⟩ := place
    exact (beginsIn_tagFront.seq _).prefix_search (decide_eq_false_of_notMem h.noTag) hl hsearch

theorem prefix_stripChatMentions (h : PlainFront front) (hl : front <+: l) :
    front <+: t.stripChatMentions l := by
  unfold stripChatMentions
  split
  · have hmention : t.chatMention.BeginsIn (fun c ↦ '@' = c) :=
      ((Pattern.beginsIn_char _).seq _).seq _
    have hattachment : attachmentRef.BeginsIn (fun c ↦ '#' = c) :=
      ((Pattern.beginsIn_char _).seq _).seq _
    have hmentions := hmention.prefix_erase (decide_eq_false_of_notMem h.noMention) hl
    have hattachments :=
      hattachment.prefix_erase (decide_eq_false_of_notMem h.noAttachment) hmentions
    exact h.prefix_stripSpace hattachments
  · exact hl

end PlainFront

/-- A notice is a text from a letter to a letter, without the signs of tags and mentions. -/
theorem phrase_shape : ∀ phrase ∈ clientContextPhrases,
    phrase.toList.head? = some 'y' ∧ phrase.toList.getLast? = some 'e' ∧
      '<' ∉ phrase.toList ∧ '@' ∉ phrase.toList ∧ '#' ∉ phrase.toList := by
  decide +kernel

/-- A notice in any case is a plain front. -/
theorem plainFront_of_notice {front : List Char} {phrase : String}
    (hphrase : phrase ∈ clientContextPhrases) (h : front.map lowerChar = phrase.toList) :
    PlainFront front := by
  obtain ⟨hhead, hlast, htag, hmention, hattachment⟩ := phrase_shape phrase hphrase
  rw [← h] at hhead hlast htag hmention hattachment
  rw [List.head?_map] at hhead
  rw [List.getLast?_map] at hlast
  have hnot (x : Char) (hx : lowerChar x = x) (hmem : x ∉ front.map lowerChar) : x ∉ front :=
    fun hfront ↦ hmem (List.mem_map.mpr ⟨x, hfront, hx⟩)
  have hstays (x y : Char) (hx : lowerChar x = y) (hspace : isSpace y = false)
      (hcolon : lowerChar ':' ≠ y) (hdash : lowerChar '-' ≠ y) : Stays x := by
    refine ⟨by rw [← isSpace_lowerChar, hx, hspace], ?_, ?_⟩
    · rintro rfl
      exact hcolon hx
    · rintro rfl
      exact hdash hx
  obtain ⟨c, hc, hlower⟩ := Option.map_eq_some_iff.mp hhead
  obtain ⟨d, hd, hlower'⟩ := Option.map_eq_some_iff.mp hlast
  exact ⟨⟨c, hc, hstays c 'y' hlower (by decide) (by decide) (by decide)⟩,
    ⟨d, hd, hstays d 'e' hlower' (by decide) (by decide) (by decide)⟩,
    hnot '<' rfl htag, hnot '@' rfl hmention, hnot '#' rfl hattachment⟩

/-- A text that begins with a notice is client context. -/
theorem isClientContext_of_notice {text phrase : String} (hphrase : phrase ∈ clientContextPhrases)
    (hbegins : phrase.toList <+: (lower (strip text)).toList) : t.isClientContext text = true := by
  obtain ⟨rest, hrest⟩ := List.head?_eq_some_iff.mp (phrase_shape phrase hphrase).1
  have hany : clientContextPhrases.any (fun p ↦ p.toList.isPrefixOf (lower (strip text)).toList) =
      true := List.any_eq_true.mpr ⟨phrase, hphrase, List.isPrefixOf_iff_prefix.mpr hbegins⟩
  obtain ⟨more, hmore⟩ := hbegins
  rw [hrest, List.cons_append] at hmore
  unfold isClientContext
  rw [← hmore] at hany ⊢
  exact hany

/-- A notice without a request container is its own tail: it is client context, and what is taken
for the instruction in it begins with it. -/
theorem nested_of_notice {text phrase : String} (hphrase : phrase ∈ clientContextPhrases)
    (hbegins : phrase.toList <+: (lower (strip text)).toList)
    (hnone : t.userRequest.search (strip text).toList = none) : t.Nested text := by
  have hcontext : t.isClientContext text = true := isClientContext_of_notice hphrase hbegins
  rw [lower, String.toList_ofList] at hbegins
  obtain ⟨more, hmore⟩ := hbegins
  obtain ⟨front, later, hraw, hfront, -⟩ := List.map_eq_append_iff.mp hmore.symm
  have hplain : PlainFront front := plainFront_of_notice hphrase hfront
  have hleft : front <+: t.stripCompletePairs (strip text).toList :=
    hplain.prefix_stripCompletePairs ⟨later, hraw.symm⟩
  have hrest := hplain.prefix_stripMarks (hplain.prefix_stripChatMentions (t := t)
    (hplain.prefix_openingTag (t := t) hleft))
  have hbracket : (strip text).toList.head? ≠ some '[' := by
    intro h
    have hfirst : ((strip text).toList.map lowerChar).head? = some 'y' := by
      rw [← hmore, List.head?_append, (phrase_shape phrase hphrase).1, Option.some_or]
    rw [List.head?_map, h] at hfirst
    exact absurd hfirst (by decide)
  refine ⟨hcontext, _, (behind_iff_of_tags hnone hbracket _).mpr rfl, ?_⟩
  apply isClientContext_of_notice hphrase
  rw [← hfront, strip, lower, String.toList_ofList, String.toList_ofList, String.toList_ofList]
  exact (hplain.prefix_stripSpace hrest).map lowerChar

/-! ## Stripping the messages -/

variable (t) (messages : List Message)

/-- Stripping the messages a second time changes nothing: what survives is no client context, and
no tail begins with a wrapper, nor with a bracket that does not belong to a tool's echo. -/
structure StripsClean : Prop where
  again : t.norm.stripClientContext (t.norm.stripClientContext messages) =
    t.norm.stripClientContext messages
  survivors : ∀ msg ∈ t.norm.stripClientContext messages,
    t.isClientContext (contentText msg) = false
  tails : ∀ msg ∈ messages, ∀ tail, t.contextTail (contentText msg) = some tail →
    t.isClientContext tail = false
  brackets : ∀ msg ∈ messages, ∀ tail, t.contextTail (contentText msg) = some tail →
    (strip tail).toList.head? = some '[' → t.matchesToolResultPatterns tail = true

variable {t} {messages}

/-- A bracket in front of a text that is no client context belongs to a tool's echo. -/
theorem matchesToolResultPatterns_of_bracket {text : String}
    (h : t.isClientContext text = false) (hbracket : (strip text).toList.head? = some '[') :
    t.matchesToolResultPatterns text = true := by
  obtain ⟨rest, hrest⟩ := List.head?_eq_some_iff.mp hbracket
  have hlowered : (lower (strip text)).toList = '[' :: rest.map lowerChar := by
    rw [lower, String.toList_ofList, hrest]
    rfl
  unfold isClientContext at h
  rw [hlowered] at h
  simpa using h

/-- A message with a text for its content says this text. -/
theorem contentText_str (msg : Message) (text : String) :
    contentText { msg with content := some (.str text) } = text := rfl

/-- A survivor is a message that is no client context, or has the tail of a wrapper for its
content. -/
theorem mem_stripClientContext {msg : Message} (h : msg ∈ t.norm.stripClientContext messages) :
    (msg ∈ messages ∧ t.isClientContext (contentText msg) = false) ∨
      ∃ wrapped ∈ messages, t.contextTail (contentText wrapped) = some (contentText msg) := by
  unfold MessageNorm.stripClientContext norm messageNorm at h
  obtain ⟨old, hold, hkept⟩ := List.mem_filterMap.mp h
  dsimp only at hkept
  split at hkept
  · split at hkept
    · next tail htail =>
      split at hkept
      · obtain rfl := Option.some.inj hkept
        rw [contentText_str]
        exact .inr ⟨old, hold, htail⟩
      · cases hkept
    · cases hkept
  · next hplain =>
    obtain rfl := Option.some.inj hkept
    exact .inl ⟨hold, Bool.eq_false_iff.mpr hplain⟩

/-- Messages that are no client context stay as they are. -/
theorem stripClientContext_of_plain
    (h : ∀ msg ∈ messages, t.isClientContext (contentText msg) = false) :
    t.norm.stripClientContext messages = messages := by
  unfold MessageNorm.stripClientContext norm messageNorm
  dsimp only
  refine (List.filterMap_congr fun msg hmsg ↦ ?_).trans List.filterMap_some
  have hplain : ¬ t.isClientContext (contentText msg) = true := Bool.eq_false_iff.mp (h msg hmsg)
  rw [if_neg hplain]

variable (t) (messages)

/-- Stripping the messages is clean exactly when no message has a wrapper behind its wrapper. -/
theorem stripsClean_iff :
    t.StripsClean messages ↔ ∀ msg ∈ messages, ¬ t.Nested (contentText msg) := by
  constructor
  · intro h msg hmsg hnested
    obtain ⟨tail, htail, hinner⟩ := nested_iff.mp hnested
    rw [h.tails msg hmsg tail htail] at hinner
    cases hinner
  · intro h
    have htails : ∀ msg ∈ messages, ∀ tail, t.contextTail (contentText msg) = some tail →
        t.isClientContext tail = false := fun msg hmsg tail htail ↦
      Bool.eq_false_iff.mpr fun hinner ↦ h msg hmsg (nested_iff.mpr ⟨tail, htail, hinner⟩)
    have hsurvivors : ∀ msg ∈ t.norm.stripClientContext messages,
        t.isClientContext (contentText msg) = false := by
      intro msg hmsg
      obtain ⟨-, hplain⟩ | ⟨wrapped, hwrapped, htail⟩ := mem_stripClientContext hmsg
      · exact hplain
      · exact htails wrapped hwrapped _ htail
    exact ⟨stripClientContext_of_plain hsurvivors, hsurvivors, htails,
      fun msg hmsg tail htail ↦ matchesToolResultPatterns_of_bracket (htails msg hmsg tail htail)⟩

end CharTable

/-- Two bracketed segments with a space between them: the second one survives. -/
theorem not_stripsClean_brackets :
    ¬ asciiClasses.StripsClean [saying "user" "[a] [b] hi"] := by
  intro h
  have hplain := h.tails _ List.mem_cons_self "[b] hi" (by decide +kernel)
  exact absurd hplain (by decide +kernel)

end LcpGateway.Router
