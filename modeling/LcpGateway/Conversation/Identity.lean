import LcpGateway.Conversation.Store

/-!
# The identity of a message

Library `Conversation`. Source `src/api/conv_store.py:132–172`. The hash of a message is over its
role, the cap of its body, its tool name and its tool-call id, each as bytes with a NUL behind it.
Two messages have one hash when the NULs separate the same words in both, so long bodies, absent
fields, contents that are no text, NULs and lone surrogates are told apart in part only.
-/

namespace LcpGateway.Conversation
open LcpGateway.Base LcpGateway.Chat

/-! ### Texts that end with a separator -/

section Separated

variable {α : Type} [BEq α] [LawfulBEq α] {sep : α}

/-- Texts one behind another, each with a separator behind it, are split into their words. -/
theorem splitOn_terminated (texts : List (List α)) :
    (texts.flatMap (· ++ [sep])).splitOn sep = texts.flatMap (·.splitOn sep) ++ [[]] := by
  induction texts with
  | nil => rfl
  | cons text rest ih =>
    rw [List.flatMap_cons, List.append_assoc, List.singleton_append,
      List.splitOn_append_cons_self, ih, List.flatMap_cons, List.append_assoc]

/-- Such texts are the same when their words are. -/
theorem terminated_inj_iff (texts texts' : List (List α)) :
    texts.flatMap (· ++ [sep]) = texts'.flatMap (· ++ [sep]) ↔
      texts.flatMap (·.splitOn sep) = texts'.flatMap (·.splitOn sep) := by
  constructor
  · intro h
    have hsplit := congrArg (·.splitOn sep) h
    rw [splitOn_terminated, splitOn_terminated] at hsplit
    exact List.append_cancel_right hsplit
  · intro h
    calc texts.flatMap (· ++ [sep])
        = [sep].intercalate ((texts.flatMap (· ++ [sep])).splitOn sep) :=
          (List.intercalate_splitOn sep).symm
      _ = [sep].intercalate ((texts'.flatMap (· ++ [sep])).splitOn sep) := by
          rw [splitOn_terminated, splitOn_terminated, h]
      _ = texts'.flatMap (· ++ [sep]) := List.intercalate_splitOn sep

end Separated

/-! ### Texts of the interpreter -/

/-- A character of a `str`; the surrogates are characters too. -/
abbrev CodePoint : Type := Fin 0x110000

/-- A `str`. -/
abbrev PyText : Type := List CodePoint

/-- A character behind `encode("utf-8", "replace")`: a lone surrogate becomes a question mark. -/
def CodePoint.encoded (c : CodePoint) : Char :=
  if 0xd800 ≤ c.val ∧ c.val ≤ 0xdfff then '?' else Char.ofNat c.val

/-- A text behind `encode("utf-8", "replace")`. -/
def PyText.encoded (t : PyText) : String := String.ofList (t.map CodePoint.encoded)

/-- The content of a message: a text, or another value. -/
inductive RawContent (V : Type) where
  | text (t : PyText)
  | value (v : V)

/-- The fields of a message that its identity is made of; a field that is absent is none. -/
structure RawMessage (V : Type) where
  role : Option PyText
  content : Option (RawContent V)
  toolName : Option PyText
  toolCallId : Option PyText

namespace RawMessage

variable {V : Type} (r : Rendering) (str : V → PyText) (m m' : RawMessage V)

/-- `raw if isinstance(raw, str) else ("" if raw is None else str(raw))`. -/
def body : PyText :=
  match m.content with
  | none => []
  | some (.text t) => t
  | some (.value v) => str v

/-- The body, capped; `conv_store.py:152–155`. -/
def cappedBody : PyText :=
  if messageCap < (m.body str).length then (m.body str).take messageCap else m.body str

/-- `msg_hash`; `conv_store.py:171`. -/
def msgHash : String :=
  contentHash r (m.role.map PyText.encoded) (PyText.encoded (m.cappedBody str))
    (m.toolName.map PyText.encoded) (m.toolCallId.map PyText.encoded)

/-- The texts that are hashed. -/
def parts : List PyText :=
  [m.role.getD [], m.cappedBody str, m.toolName.getD [], m.toolCallId.getD []]

/-- The words that the NULs separate in the texts that are hashed. -/
def words : List (List Char) :=
  (m.parts str).flatMap (fun t ↦ (t.map CodePoint.encoded).splitOn '\x00')

/-- The messages have the same role, content, tool name and tool-call id. -/
structure SameFields : Prop where
  role : m.role = m'.role
  content : m.content = m'.content
  toolName : m.toolName = m'.toolName
  toolCallId : m.toolCallId = m'.toolCallId

/-- The messages have one hash only if they have the same fields. -/
def Separated : Prop := m.msgHash r str = m'.msgHash r str → m.SameFields m'

variable {r str m m'}

/-- The text that is digested has a NUL behind every part. -/
theorem toList_hashed (role content toolName toolCallId : String) :
    (String.join ([role, content, toolName, toolCallId].map (· ++ "\x00"))).toList =
      [role.toList, content.toList, toolName.toList, toolCallId.toList].flatMap
        (· ++ ['\x00']) := by
  simp [String.join]

/-- A field that may be absent is the empty text then. -/
theorem getD_map_encoded (field : Option PyText) :
    (field.map PyText.encoded).getD "" = PyText.encoded (field.getD []) := by
  cases field <;> rfl

/-- A digest without collisions is the same for two messages when their words are. -/
theorem msgHash_eq_iff (hsha1 : Function.Injective r.sha1) :
    m.msgHash r str = m'.msgHash r str ↔ m.words str = m'.words str := by
  have hhashed : ∀ m : RawMessage V, m.msgHash r str = r.sha1 (String.join
      ([PyText.encoded (m.role.getD []), PyText.encoded (m.cappedBody str),
        PyText.encoded (m.toolName.getD []), PyText.encoded (m.toolCallId.getD [])].map
          (· ++ "\x00"))) := by
    intro m
    rw [msgHash, contentHash, getD_map_encoded, getD_map_encoded, getD_map_encoded]
  have hwords : ∀ m : RawMessage V, m.words str =
      ((m.parts str).map (·.map CodePoint.encoded)).flatMap (·.splitOn '\x00') := fun m ↦
    (List.flatMap_map ..).symm
  rw [hhashed, hhashed, hsha1.eq_iff, ← String.toList_inj, toList_hashed, toList_hashed,
    terminated_inj_iff, hwords, hwords]
  simp only [PyText.encoded, String.toList_ofList, parts, List.map_cons, List.map_nil]

/-- Two messages are told apart exactly when they have the same fields or other words. -/
theorem separated_iff (hsha1 : Function.Injective r.sha1) :
    m.Separated r str m' ↔ m.SameFields m' ∨ m.words str ≠ m'.words str := by
  rw [Separated, msgHash_eq_iff hsha1]
  tauto

/-! ### Messages that are told apart -/

/-- A text without NULs and lone surrogates. -/
def Ordinary (t : PyText) : Prop := ∀ c ∈ t, c.val ≠ 0 ∧ ¬ (0xd800 ≤ c.val ∧ c.val ≤ 0xdfff)

/-- An ordinary character is encoded as itself. -/
theorem toNat_encoded {c : CodePoint} (h : ¬ (0xd800 ≤ c.val ∧ c.val ≤ 0xdfff)) :
    c.encoded.toNat = c.val := by
  have hvalid : c.val.isValidChar := by
    have hbound := c.isLt
    unfold Nat.isValidChar
    omega
  rw [CodePoint.encoded, if_neg h, Char.ofNat, dif_pos hvalid]
  rfl

/-- Ordinary texts are encoded differently. -/
theorem map_encoded_inj {t t' : PyText} (h : Ordinary t) (h' : Ordinary t')
    (heq : t.map CodePoint.encoded = t'.map CodePoint.encoded) : t = t' := by
  induction t generalizing t' with
  | nil => exact (List.map_eq_nil_iff.mp heq.symm).symm
  | cons c rest ih =>
    cases t' with
    | nil => exact nomatch heq
    | cons c' rest' =>
      obtain ⟨hc, hrest⟩ := List.forall_mem_cons.mp h
      obtain ⟨hc', hrest'⟩ := List.forall_mem_cons.mp h'
      obtain ⟨hhead, htail⟩ := List.cons.inj heq
      have hval := congrArg Char.toNat hhead
      rw [toNat_encoded hc.2, toNat_encoded hc'.2] at hval
      rw [Fin.ext hval, ih hrest hrest' htail]

/-- An ordinary text is one word. -/
theorem splitOn_ordinary {t : PyText} (h : Ordinary t) :
    (t.map CodePoint.encoded).splitOn '\x00' = [t.map CodePoint.encoded] := by
  refine List.splitOn_eq_singleton fun hmem ↦ ?_
  obtain ⟨c, hc, hzero⟩ := List.mem_map.mp hmem
  have hval := congrArg Char.toNat hzero
  rw [toNat_encoded (h c hc).2] at hval
  exact (h c hc).1 hval

/-- A field that is absent or an ordinary text that is not empty. -/
def PlainField (field : Option PyText) : Prop := ∀ t, field = some t → t ≠ [] ∧ Ordinary t

/-- The text of such a field is ordinary. -/
theorem PlainField.getD {field : Option PyText} (h : PlainField field) :
    Ordinary (field.getD []) := by
  cases field with
  | none => exact nofun
  | some t => exact (h t rfl).2

/-- Such fields have different texts. -/
theorem PlainField.inj {field field' : Option PyText} (h : PlainField field)
    (h' : PlainField field') (heq : field.getD [] = field'.getD []) : field = field' := by
  cases field with
  | none =>
    cases field' with
    | none => rfl
    | some t' => exact absurd heq.symm (h' t' rfl).1
  | some t =>
    cases field' with
    | none => exact absurd heq (h t rfl).1
    | some t' => exact congrArg some heq

/-- A message of plain fields whose content is an ordinary text within the cap. -/
structure Plain (m : RawMessage V) : Prop where
  role : PlainField m.role
  content : ∃ t, m.content = some (.text t) ∧ t.length ≤ messageCap ∧ Ordinary t
  toolName : PlainField m.toolName
  toolCallId : PlainField m.toolCallId

/-- The body of a plain message is hashed as it is. -/
theorem cappedBody_of_le {t : PyText} (hcontent : m.content = some (.text t))
    (hlength : t.length ≤ messageCap) : m.cappedBody str = t := by
  have hbody : m.body str = t := by rw [body, hcontent]
  rw [cappedBody, hbody, if_neg (Nat.not_lt_of_le hlength)]

/-- The words of a plain message are its fields. -/
theorem Plain.words (h : m.Plain) : ∃ t, m.content = some (.text t) ∧ Ordinary t ∧
    m.words str = [(m.role.getD []).map CodePoint.encoded, t.map CodePoint.encoded,
      (m.toolName.getD []).map CodePoint.encoded,
      (m.toolCallId.getD []).map CodePoint.encoded] := by
  obtain ⟨t, hcontent, hlength, hordinary⟩ := h.content
  refine ⟨t, hcontent, hordinary, ?_⟩
  simp only [RawMessage.words, parts, cappedBody_of_le hcontent hlength, List.flatMap_cons,
    List.flatMap_nil, splitOn_ordinary h.role.getD, splitOn_ordinary hordinary,
    splitOn_ordinary h.toolName.getD, splitOn_ordinary h.toolCallId.getD, List.cons_append,
    List.nil_append]

/-- Plain messages are told apart. -/
theorem separated_of_plain (hsha1 : Function.Injective r.sha1) (hm : m.Plain) (hm' : m'.Plain) :
    m.Separated r str m' := by
  intro hhash
  obtain ⟨t, hcontent, hordinary, hwords⟩ := hm.words
  obtain ⟨t', hcontent', hordinary', hwords'⟩ := hm'.words
  have heq := (msgHash_eq_iff hsha1).mp hhash
  rw [hwords, hwords'] at heq
  simp only [List.cons.injEq, and_true] at heq
  obtain ⟨hrole, htext, hname, hid⟩ := heq
  refine ⟨hm.role.inj hm'.role (map_encoded_inj hm.role.getD hm'.role.getD hrole), ?_,
    hm.toolName.inj hm'.toolName (map_encoded_inj hm.toolName.getD hm'.toolName.getD hname),
    hm.toolCallId.inj hm'.toolCallId (map_encoded_inj hm.toolCallId.getD hm'.toolCallId.getD hid)⟩
  rw [hcontent, hcontent', map_encoded_inj hordinary hordinary' htext]

/-! ### The messages of the store -/

/-- A character is a code point. -/
def codePoint (c : Char) : CodePoint :=
  ⟨c.toNat, by
    have hvalid : c.toNat.isValidChar := c.valid
    unfold Nat.isValidChar at hvalid
    omega⟩

/-- The characters of a text without surrogates. -/
def codePoints (s : String) : PyText := s.toList.map codePoint

/-- A character is encoded as itself. -/
theorem encoded_codePoint (c : Char) : (codePoint c).encoded = c := by
  have hvalid : c.toNat.isValidChar := c.valid
  have hordinary : ¬ (0xd800 ≤ (codePoint c).val ∧ (codePoint c).val ≤ 0xdfff) := by
    unfold Nat.isValidChar at hvalid
    change ¬ (0xd800 ≤ c.toNat ∧ c.toNat ≤ 0xdfff)
    omega
  rw [CodePoint.encoded, if_neg hordinary]
  exact Char.ofNat_toNat c

/-- Characters are encoded as themselves. -/
theorem map_encoded_codePoint (cs : List Char) :
    (cs.map codePoint).map CodePoint.encoded = cs := by
  rw [List.map_map]
  exact List.map_id'' encoded_codePoint cs

/-- A message of the store. -/
def ofIncoming (m : Incoming) : RawMessage Json where
  role := m.role.map codePoints
  content := match m.content with
    | none => none
    | some .null => none
    | some (.str s) => some (.text (codePoints s))
    | some v => some (.value v)
  toolName := m.toolName.map codePoints
  toolCallId := m.toolCallId.map codePoints

/-- The body of a message of the store. -/
theorem body_ofIncoming (r : Rendering) (m : Incoming) :
    (ofIncoming m).body (fun v ↦ codePoints (r.str v)) = codePoints (bodyText r m.content) := by
  unfold body ofIncoming bodyText
  cases m.content with
  | none => rfl
  | some v => cases v <;> rfl

/-- The hash of a row is the one of the message it was made of. -/
theorem msgHash_prepare (r : Rendering) (origin : String) (m : Incoming) :
    (prepare r origin m).msgHash = (ofIncoming m).msgHash r (fun v ↦ codePoints (r.str v)) := by
  have hfield : ∀ field : Option String,
      (field.map codePoints).map PyText.encoded = field := by
    intro field
    cases field with
    | none => rfl
    | some s =>
      refine congrArg some ?_
      rw [PyText.encoded, codePoints, map_encoded_codePoint, String.ofList_toList]
  have hbody : PyText.encoded ((ofIncoming m).cappedBody (fun v ↦ codePoints (r.str v))) =
      if messageCap < (bodyText r m.content).length
      then String.ofList ((bodyText r m.content).toList.take messageCap)
      else bodyText r m.content := by
    rw [cappedBody, body_ofIncoming]
    have hlength : (codePoints (bodyText r m.content)).length = (bodyText r m.content).length := by
      rw [codePoints, List.length_map, String.length_toList]
    rw [hlength]
    split
    · rw [PyText.encoded, codePoints, ← List.map_take, map_encoded_codePoint]
    · rw [PyText.encoded, codePoints, map_encoded_codePoint, String.ofList_toList]
  rw [msgHash, hbody]
  simp only [ofIncoming, hfield]
  rfl

/-! ### Two long bodies -/

/-- A rendering whose digest is the text itself. -/
def textRendering : Rendering := ⟨id, fun _ ↦ "", fun _ ↦ ""⟩

/-- A tool result with a body. -/
def toolResult (text : PyText) : RawMessage Json :=
  ⟨some (codePoints "tool"), some (.text text), none, some (codePoints "call_1")⟩

/-- Bodies that begin alike up to the cap. -/
theorem cappedBody_append (str : Json → PyText) {header : PyText} (tail : PyText)
    (hlength : header.length = messageCap) :
    (toolResult (header ++ tail)).cappedBody str = header := by
  have hbody : (toolResult (header ++ tail)).body str = header ++ tail := rfl
  rw [cappedBody, hbody]
  split
  · exact List.take_left' hlength
  · next hshort =>
    rw [List.length_append, hlength] at hshort
    have htail : tail = [] := List.length_eq_zero_iff.mp (by omega)
    rw [htail, List.append_nil]

/-- What is behind the cap is not hashed. -/
theorem msgHash_append (r : Rendering) (str : Json → PyText) {header : PyText}
    (tail tail' : PyText) (hlength : header.length = messageCap) :
    (toolResult (header ++ tail)).msgHash r str = (toolResult (header ++ tail')).msgHash r str := by
  rw [msgHash, msgHash, cappedBody_append str tail hlength, cappedBody_append str tail' hlength]
  rfl

/-- Two tool results that differ behind the cap have one hash. -/
theorem long_results_not_separated :
    ¬ (toolResult (List.replicate messageCap (codePoint '=') ++ codePoints "ok")).Separated
      textRendering (fun v ↦ codePoints (textRendering.str v))
      (toolResult (List.replicate messageCap (codePoint '=') ++ codePoints "no")) := by
  intro hseparated
  have hlength : (List.replicate messageCap (codePoint '=')).length = messageCap :=
    List.length_replicate
  have hfields := hseparated (msgHash_append _ _ _ _ hlength)
  have hcontent := RawContent.text.inj (Option.some.inj hfields.content)
  exact absurd (List.append_cancel_left hcontent) (by decide)

/-- Two short messages are told apart. -/
theorem separated_iff_short :
    (toolResult (codePoints "ok")).Separated textRendering
      (fun v ↦ codePoints (textRendering.str v)) (toolResult (codePoints "no")) :=
  (separated_iff Function.injective_id).mpr (.inr (by decide))

end RawMessage

end LcpGateway.Conversation
