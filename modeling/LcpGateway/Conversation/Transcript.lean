import LcpGateway.Base.Run
import LcpGateway.Conversation.Store

/-!
# Transcripts under appends

Library `Conversation`. Source `src/api/conv_store.py:175–230,379–430`. What one append does
to a transcript, what a sequence of appends leaves, and when a repeated append writes nothing.
-/

namespace LcpGateway.Conversation
open LcpGateway.Base LcpGateway.Chat

/-- The hash an incoming message is compared by; it does not depend on the origin. -/
def Incoming.hash (r : Rendering) (message : Incoming) : String := (prepare r "" message).msgHash

/-- The hashes of an incoming list. -/
def incomingHashes (r : Rendering) (messages : List Incoming) : List String :=
  messages.map (Incoming.hash r)

/-- The rows a call prepares carry the hashes of its messages. -/
@[simp] theorem map_msgHash_prepare (r : Rendering) (origin : String) (messages : List Incoming) :
    (messages.map (prepare r origin)).map Row.msgHash = incomingHashes r messages := by
  rw [List.map_map]
  rfl

/-- The hashes of the rows a call inserts. -/
theorem map_msgHash_unmatched (r : Rendering) (stored : List String) (origin : String)
    (messages : List Incoming) :
    (unmatched stored (messages.map (prepare r origin))).map Row.msgHash =
      (incomingHashes r messages).drop (commonPrefix stored (incomingHashes r messages)) := by
  rw [unmatched, List.map_drop, map_msgHash_prepare]

/-- A call inserts nothing exactly when its list is stored as a prefix. -/
theorem unmatched_eq_nil_iff (r : Rendering) (stored : List String) (origin : String)
    (messages : List Incoming) :
    unmatched stored (messages.map (prepare r origin)) = [] ↔
      incomingHashes r messages <+: stored := by
  have hle := commonPrefix_le stored (incomingHashes r messages)
  rw [← commonPrefix_eq_length_iff, unmatched, List.drop_eq_nil_iff, map_msgHash_prepare]
  simp only [List.length_map, incomingHashes] at hle ⊢
  omega

namespace MessageStore

/-- The stored hashes after an append. -/
theorem storedHashes_append (s : MessageStore) (r : Rendering) (cid : String)
    (messages : List Incoming) (origin : String) :
    storedHashes (s.append r cid messages origin).table cid =
      storedHashes s.table cid ++ (incomingHashes r messages).drop
        (commonPrefix (storedHashes s.table cid) (incomingHashes r messages)) := by
  have h := s.transcript_append r cid messages origin cid
  rw [if_pos rfl] at h
  rw [storedHashes, show log _ cid = _ from h, List.map_append, map_msgHash_unmatched]
  rfl

/-- An append that reports no row leaves the store as it is. -/
theorem append_eq_self (s : MessageStore) (r : Rendering) (cid : String)
    (messages : List Incoming) (origin : String)
    (h : (appendMessages r s.table cid messages origin).2 = 0) :
    s.append r cid messages origin = s := by
  apply MessageStore.ext
  rw [appendMessages_eq] at h
  have hnone := List.eq_nil_of_length_eq_zero h
  change (appendMessages r s.table cid messages origin).1 = s.table
  rw [appendMessages_eq, hnone]
  rfl

/-- An append reports no row exactly when its list is stored as a prefix. -/
theorem written_eq_zero_iff (s : MessageStore) (r : Rendering) (cid : String)
    (messages : List Incoming) (origin : String) :
    (appendMessages r s.table cid messages origin).2 = 0 ↔
      incomingHashes r messages <+: storedHashes s.table cid := by
  rw [appendMessages_eq, List.length_eq_zero_iff, unmatched_eq_nil_iff]

end MessageStore

/-! ### Appending a list twice -/

/-- A second append of the same list writes nothing exactly when the stored and the incoming
hashes did not part: one of the two sequences extends the other. -/
theorem append_twice_iff (r : Rendering) (s : MessageStore) (cid : String)
    (messages : List Incoming) (origin : String) :
    ((appendMessages r (s.append r cid messages origin).table cid messages origin).2 = 0 ∧
        (s.append r cid messages origin).append r cid messages origin =
          s.append r cid messages origin) ↔
      storedHashes s.table cid <+: incomingHashes r messages ∨
        incomingHashes r messages <+: storedHashes s.table cid := by
  rw [← prefix_append_drop_iff, ← s.storedHashes_append r cid messages origin,
    ← MessageStore.written_eq_zero_iff _ r cid messages origin]
  constructor
  · intro h
    exact h.1
  · intro h
    exact ⟨h, MessageStore.append_eq_self _ r cid messages origin h⟩

/-- The incoming message of a user. -/
def userText (text : String) : Incoming where
  role := some "user"
  content := some (.str text)
  toolName := none
  toolCallId := none
  toolCalls := none
  reasoning := none
  ts := none
  active := .absent
  compacted := .absent

/-- A rendering with the SHA-1 digests of three short user messages. -/
def userDigests : Rendering where
  sha1 := fun text ↦
    (["first", "second", "third"].map (fun body ↦ "user\x00" ++ body ++ "\x00\x00\x00")
      |>.zip ["ebc12ca47ad8e279b365b69ab928cafdeb5161c3",
        "07fb427b25b093d05e5d1028b68fd226c51bfcb7",
        "0b56a2a546e722e07f290424c73e60f44945a6cf"]).lookup text |>.getD ""
  str := fun _ ↦ ""
  dump := fun _ ↦ ""

/-- A client that edits its second message: the edited list is appended again and again. -/
theorem append_twice_after_edit :
    let s := MessageStore.empty.append userDigests "c" [userText "first", userText "second"]
      "capture"
    let edited := [userText "first", userText "third"]
    (appendMessages userDigests (s.append userDigests "c" edited "capture").table "c" edited
      "capture").2 = 1 := by
  decide

/-! ### Sequences of appends -/

/-- The arguments of one `append_messages` call. -/
structure AppendCall where
  cid : String
  messages : List Incoming
  origin : String

/-- The table after a call. -/
def appendStep (r : Rendering) (t : ConvMessages) (call : AppendCall) : ConvMessages :=
  (appendMessages r t call.cid call.messages call.origin).1

/-- The number of rows a call reports. -/
def written (r : Rendering) (t : ConvMessages) (call : AppendCall) : Nat :=
  (appendMessages r t call.cid call.messages call.origin).2

/-- What a sequence of appends leaves of a store without gaps is one. -/
theorem exists_store_run (r : Rendering) (s : MessageStore) (calls : List AppendCall) :
    ∃ s' : MessageStore, s'.table = run (appendStep r) s.table calls := by
  induction calls generalizing s with
  | nil => exact ⟨s, rfl⟩
  | cons call rest ih => exact ih (s.append r call.cid call.messages call.origin)

/-- A sequence of appends starts from the empty store. -/
theorem exists_store (r : Rendering) (calls : List AppendCall) :
    ∃ s : MessageStore, s.table = run (appendStep r) Dict.empty calls :=
  exists_store_run r MessageStore.empty calls

namespace MessageStore

variable (s : MessageStore) (r : Rendering) (call : AppendCall)

/-- The positions of a conversation. -/
theorem map_fst_numbered (cid : String) :
    (numbered s.table cid).map Prod.fst = List.range (messageCount s.table cid) := by
  rw [messageCount, numbered_table, List.map_map, List.length_map, List.length_zipIdx,
    List.range_eq_range']
  exact List.zipIdx_map_snd 0 (s.transcript cid)

/-- The count of a conversation is the length of its transcript. -/
theorem messageCount_eq (cid : String) : messageCount s.table cid = (s.transcript cid).length := by
  rw [messageCount, numbered_table, List.length_map, List.length_zipIdx]

/-- A call leaves every row where it was. -/
theorem get?_appendStep {key : String × Nat} {row : Row} (h : s.table.get? key = some row) :
    (appendStep r s.table call).get? key = some row := by
  obtain ⟨cid, n⟩ := key
  have hcall := s.owns_appendMessages r call.cid call.messages call.origin cid n
  rw [s.get?_table] at h
  rw [appendStep, hcall]
  split
  · next hcid =>
    subst hcid
    obtain ⟨hlt, _⟩ := List.getElem?_eq_some_iff.mp h
    rw [List.getElem?_append_left hlt, h]
  · exact h

/-- A call adds the rows it reports to its conversation and none to another. -/
theorem messageCount_appendStep (cid : String) :
    messageCount (appendStep r s.table call) cid =
      messageCount s.table cid + if cid = call.cid then written r s.table call else 0 := by
  have hstep : appendStep r s.table call =
      (s.append r call.cid call.messages call.origin).table := rfl
  rw [hstep, messageCount_eq, messageCount_eq, transcript_append]
  split
  · next hcid => rw [hcid, List.length_append, written, appendMessages_eq]
  · rfl

end MessageStore

/-- A row survives every later sequence of calls. -/
theorem get?_run_appendStep (r : Rendering) (s : MessageStore) (later : List AppendCall)
    {key : String × Nat} {row : Row} (h : s.table.get? key = some row) :
    (run (appendStep r) s.table later).get? key = some row := by
  induction later generalizing s with
  | nil => exact h
  | cons call rest ih =>
    exact ih (s.append r call.cid call.messages call.origin) (s.get?_appendStep r call h)

/-! ### Views -/

/-- The newest rows that a positive limit lets through. -/
theorem limited_reverse {α : Type} (rows : List α) (limit : Nat) :
    (limited limit rows.reverse).reverse = rows.drop (rows.length - limit) := by
  rw [limited, if_neg (by omega), Int.toNat_natCast, List.reverse_take, List.length_reverse,
    List.reverse_reverse]

/-- The newest-first view: the last rows that are visible, and whether there are more. -/
theorem messagesView_newest (t : ConvMessages) (cid : String) (limit : Nat)
    (includeInactive : Bool) :
    let visible := (numbered t cid).filter (fun row ↦ includeInactive || row.2.active == 1)
    (messagesView t cid limit includeInactive true).messages =
        visible.drop (visible.length - limit) ∧
      ((messagesView t cid limit includeInactive true).truncated ↔ limit < visible.length) := by
  intro visible
  have hread : readMessages t cid (limit + 1) includeInactive true =
      visible.drop (visible.length - (limit + 1)) := limited_reverse visible (limit + 1)
  have hlength : (readMessages t cid (limit + 1) includeInactive true).length =
      min (limit + 1) visible.length := by
    rw [hread, List.length_drop]
    omega
  by_cases hmore : limit < visible.length
  · have htruncated : ((limit : Int) <
        ((readMessages t cid (limit + 1) includeInactive true).length : Int)) := by
      rw [hlength]
      omega
    simp only [messagesView, htruncated, decide_true, Bool.and_self, if_true, hmore, and_true]
    rw [hread, List.drop_drop]
    congr 1
    omega
  · have htruncated : ¬ ((limit : Int) <
        ((readMessages t cid (limit + 1) includeInactive true).length : Int)) := by
      rw [hlength]
      omega
    simp only [messagesView, htruncated, decide_false, Bool.false_and, Bool.false_eq_true,
      if_false, hmore, iff_self, and_true]
    rw [hread, upTo, if_neg (by omega), Int.toNat_natCast]
    have hall : visible.length - (limit + 1) = visible.length - limit := by omega
    rw [hall, List.take_of_length_le]
    rw [List.length_drop]
    omega

/-- After every sequence of appends from the empty table: positions are numbered from zero
without a gap, no later call changes or removes a row, a call adds the rows it reports to its
own conversation, and the newest-first view is the contiguous tail of the transcript. -/
theorem appends_append_only (r : Rendering) (calls later : List AppendCall) (call : AppendCall)
    (cid : String) :
    let t := run (appendStep r) Dict.empty calls
    let n := messageCount t cid
    (numbered t cid).map Prod.fst = List.range n ∧
      (∀ key row, t.get? key = some row →
        (run (appendStep r) Dict.empty (calls ++ later)).get? key = some row) ∧
      messageCount (appendStep r t call) cid =
        n + (if cid = call.cid then written r t call else 0) ∧
      ∀ limit : Nat,
        (messagesView t cid limit true true).messages = (numbered t cid).drop (n - limit) ∧
        (messagesView t cid limit true true).messages.map Prod.fst =
          List.range' (n - limit) (min limit n) ∧
        ((messagesView t cid limit true true).truncated ↔ limit < n) := by
  obtain ⟨s, hs⟩ := exists_store r calls
  intro t n
  have ht : t = s.table := hs.symm
  have hpositions : (numbered t cid).map Prod.fst = List.range n := by
    simp only [n, ht]
    exact s.map_fst_numbered cid
  refine ⟨hpositions, ?_, ?_, ?_⟩
  · intro key row hrow
    rw [run_append]
    simp only [t] at ht
    rw [ht]
    exact get?_run_appendStep r s later (ht ▸ hrow)
  · simp only [n, ht]
    exact s.messageCount_appendStep r call cid
  · intro limit
    obtain ⟨hmessages, htruncated⟩ := messagesView_newest t cid limit true
    simp only [Bool.true_or, List.filter_true] at hmessages htruncated
    refine ⟨hmessages, ?_, htruncated⟩
    rw [hmessages, List.map_drop, hpositions]
    change (List.range n).drop (n - limit) = _
    rw [List.range_eq_range', List.drop_range']
    congr 1 <;> omega

end LcpGateway.Conversation
