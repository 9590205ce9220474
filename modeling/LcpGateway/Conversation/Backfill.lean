import LcpGateway.Base.Bursts
import LcpGateway.Base.Run
import LcpGateway.Base.Table
import LcpGateway.Conversation.Rollup
import LcpGateway.Conversation.Stamping
import Mathlib.Algebra.Order.Ring.Rat
import Mathlib.Data.Prod.Lex
import Mathlib.Tactic.NormNum

/-!
# Backfilled conversations

Library `Conversation`. Source `src/api/work_conversations.py:73–85,274–341`. Requests without a
conversation id are grouped into bursts of their profile and model; the id of a burst is made from
its first row. A run sees the rows that have no id yet, so what it groups depends on the runs
before it.
-/

namespace LcpGateway.Conversation
open LcpGateway.Base

/-- What a burst is made from. -/
structure Moment where
  profile : String
  model : String
  timestamp : String
  deriving DecidableEq

/-- The columns of a request that the grouping reads. -/
def RequestRow.moment (r : RequestRow) : Moment := ⟨r.profile, r.model, r.timestamp⟩

/-- The readings of a time text: seconds as `datetime.fromisoformat` gives them, none for a
`ValueError`, and SQLite's `datetime` and `julianday`. -/
structure Clock where
  seconds : String → Option Rat
  datetime : String → Option Int
  julianday : String → Option Rat

/-- `_BURST_GAP_SECONDS`. -/
def burstGapSeconds : Rat := 300

/-- The text the backfill hashes. -/
def Moment.text (m : Moment) : String := m.profile ++ "|" ++ m.model ++ "|" ++ m.timestamp

/-- `_backfill_id`, on the SHA-1 hex digest of a text; `work_conversations.py:82–85`. -/
def backfillId (sha1 : String → String) (m : Moment) : String :=
  "c" ++ String.ofList ((sha1 m.text).toList.take 10)

/-- The seconds between two rows; `work_conversations.py:294–301`. -/
def gapSeconds (clock : Clock) (row prev : Moment) : Rat :=
  match clock.seconds row.timestamp, clock.seconds prev.timestamp with
  | some t, some t' => t - t'
  | _, _ => burstGapSeconds + 1

/-- `_burstable` for a row behind another one; `work_conversations.py:73–79`. -/
def burstable (clock : Clock) (row prev : Moment) : Bool :=
  row.profile ≠ prev.profile ∨ row.model ≠ prev.model ∨ burstGapSeconds < gapSeconds clock row prev

/-- The loop over the rows behind the first one: the ids to write;
`work_conversations.py:291–306`. -/
def stampsFrom (clock : Clock) (sha1 : String → String) (prev : Moment) (curId : String) :
    List RequestRow → List (Nat × String)
  | [] => []
  | r :: rest =>
    let curId := if burstable clock r.moment prev then backfillId sha1 r.moment else curId
    (r.id, curId) :: stampsFrom clock sha1 r.moment curId rest

/-- The ids to write. -/
def stamps (clock : Clock) (sha1 : String → String) : List RequestRow → List (Nat × String)
  | [] => []
  | r :: rest =>
    (r.id, backfillId sha1 r.moment) ::
      stampsFrom clock sha1 r.moment (backfillId sha1 r.moment) rest

/-- The order of the query: profile, model, timestamp. -/
def Moment.sortKey (m : Moment) : (String ×ₗ String) ×ₗ String :=
  toLex (toLex (m.profile, m.model), m.timestamp)

/-- `SELECT … WHERE conversation_id IS NULL ORDER BY profile, model, timestamp`. -/
def unstamped (rows : List RequestRow) : List RequestRow :=
  (rows.filter (fun r ↦ r.conversationId = none)).insertionSort
    (fun a b ↦ a.moment.sortKey ≤ b.moment.sortKey)

/-- `UPDATE requests SET conversation_id=? WHERE id=?`. -/
def RequestRow.withId (r : RequestRow) (update : Nat × String) : RequestRow :=
  if r.id = update.1 then { r with conversationId := some update.2 } else r

/-- The first half of `backfill_conversations`; `work_conversations.py:283–309`. -/
def backfillRequests (clock : Clock) (sha1 : String → String) (rows : List RequestRow) :
    List RequestRow :=
  (stamps clock sha1 (unstamped rows)).foldl
    (fun rows update ↦ rows.map (fun r ↦ r.withId update)) rows

/-- The conversation of the nearest request of a decision's profile, at most ten minutes away;
`work_conversations.py:317–326`. -/
def nearestConversation (clock : Clock) (requests : List RequestRow) (d : DecisionRow) :
    Option String :=
  ((requests.filter (fun r ↦ r.profile = d.profile ∧ r.conversationId ≠ none ∧
    nearby clock.datetime 600 d.ts r.timestamp)).argmin (fun r ↦
      |(clock.julianday r.timestamp).getD 0 - (clock.julianday d.ts).getD 0|)).bind
        RequestRow.conversationId

/-- The second half of `backfill_conversations`: a decision far from every request gets an id of
its own; `work_conversations.py:311–334`. -/
def backfillDecisions (clock : Clock) (sha1 : String → String) (requests : List RequestRow)
    (decisions : List DecisionRow) : List DecisionRow :=
  decisions.map (fun d ↦
    if d.conversationId = none then
      { d with conversationId := some ((nearestConversation clock requests d).getD
          (backfillId sha1 ⟨d.profile, "__routing__", d.ts⟩)) }
    else d)

/-- The two log tables. -/
structure LogTables where
  requests : List RequestRow
  decisions : List DecisionRow

/-- `backfill_conversations`, with the numbers of rows it returns;
`work_conversations.py:274–341`. -/
def backfillConversations (clock : Clock) (sha1 : String → String) (t : LogTables) :
    LogTables × Nat × Nat :=
  let requests := backfillRequests clock sha1 t.requests
  (⟨requests, backfillDecisions clock sha1 requests t.decisions⟩,
    (unstamped t.requests).length, t.decisions.countP (fun d ↦ d.conversationId = none))

/-! ## One run -/

/-- Rows of one profile and model lie in a burst when no gap between them is above the bound. -/
def spacing (clock : Clock) : Spacing RequestRow (String ×ₗ String) Rat where
  key r := toLex (r.profile, r.model)
  time r := (clock.seconds r.timestamp).getD 0
  gap := burstGapSeconds
  gap_nonneg := by norm_num [burstGapSeconds]

/-- The timestamps are in one ISO format: each is a time, and the order of the texts is the order of
the times. -/
structure OneFormat (clock : Clock) (rows : List RequestRow) : Prop where
  parses : ∀ r ∈ rows, (clock.seconds r.timestamp).isSome
  le_iff : ∀ r ∈ rows, ∀ r' ∈ rows, r.timestamp ≤ r'.timestamp ↔
    (clock.seconds r.timestamp).getD 0 ≤ (clock.seconds r'.timestamp).getD 0

variable {clock : Clock} {sha1 : String → String} {rows : List RequestRow}

/-- Fewer rows are in the format too. -/
theorem OneFormat.mono {rows' : List RequestRow} (h : OneFormat clock rows)
    (hrows : ∀ r ∈ rows', r ∈ rows) : OneFormat clock rows' :=
  ⟨fun r hr ↦ h.parses r (hrows r hr), fun r hr r' hr' ↦ h.le_iff r (hrows r hr) r' (hrows r' hr')⟩

/-- Two rows with one key and one time are one moment. -/
theorem OneFormat.moment_eq (h : OneFormat clock rows) {r r' : RequestRow} (hr : r ∈ rows)
    (hr' : r' ∈ rows) (hkey : (spacing clock).key r = (spacing clock).key r')
    (htime : (spacing clock).time r = (spacing clock).time r') : r.moment = r'.moment := by
  have hts : r.timestamp = r'.timestamp :=
    le_antisymm ((h.le_iff r hr r' hr').mpr htime.le) ((h.le_iff r' hr' r hr).mpr htime.ge)
  obtain ⟨hprofile, hmodel⟩ := Prod.mk.inj (toLex.injective hkey)
  rw [RequestRow.moment, RequestRow.moment, hprofile, hmodel, hts]

/-- Of the texts of two rows of one key, only the timestamps can differ. -/
theorem timestamp_eq_of_text {r r' : RequestRow}
    (hkey : (spacing clock).key r = (spacing clock).key r')
    (htext : r.moment.text = r'.moment.text) : r.timestamp = r'.timestamp := by
  obtain ⟨hprofile, hmodel⟩ := Prod.mk.inj (toLex.injective hkey)
  simp only [Moment.text, RequestRow.moment, hprofile, hmodel] at htext
  exact (String.append_right_inj _).mp htext

/-- A row is burstable when it starts a burst. -/
theorem burstable_eq_starts {prev r : RequestRow} (hprev : (clock.seconds prev.timestamp).isSome)
    (hr : (clock.seconds r.timestamp).isSome) :
    burstable clock r.moment prev.moment = (spacing clock).starts prev r := by
  obtain ⟨t, ht⟩ := Option.isSome_iff_exists.mp hr
  obtain ⟨t', ht'⟩ := Option.isSome_iff_exists.mp hprev
  have hgap : gapSeconds clock r.moment prev.moment = t - t' := by
    simp only [gapSeconds, RequestRow.moment, ht, ht']
  rw [burstable, Spacing.starts, hgap]
  refine decide_eq_decide.mpr ?_
  simp only [spacing, RequestRow.moment, ht, ht', Option.getD_some, ne_eq,
    EmbeddingLike.apply_eq_iff_eq, Prod.mk.injEq]
  tauto

private theorem stampsFrom_eq (rest : List RequestRow) {prev : RequestRow} (head : RequestRow)
    (hprev : (clock.seconds prev.timestamp).isSome)
    (hrest : ∀ r ∈ rest, (clock.seconds r.timestamp).isSome) :
    stampsFrom clock sha1 prev.moment (backfillId sha1 head.moment) rest =
      ((spacing clock).leadersFrom prev head rest).map
        (fun q ↦ (q.1.id, backfillId sha1 q.2.moment)) := by
  induction rest generalizing prev head with
  | nil => rfl
  | cons r rest ih =>
    obtain ⟨hr, hrest⟩ := List.forall_mem_cons.mp hrest
    rw [stampsFrom, Spacing.leadersFrom, burstable_eq_starts hprev hr]
    split
    · rw [List.map_cons, ← ih r hr hrest]
    · rw [List.map_cons, ← ih head hr hrest]

/-- The ids written are the ones of the leaders. -/
theorem stamps_eq (hparses : ∀ r ∈ rows, (clock.seconds r.timestamp).isSome) :
    stamps clock sha1 rows =
      ((spacing clock).leaders rows).map (fun q ↦ (q.1.id, backfillId sha1 q.2.moment)) := by
  cases rows with
  | nil => rfl
  | cons r rest =>
    obtain ⟨hr, hrest⟩ := List.forall_mem_cons.mp hparses
    rw [stamps, Spacing.leaders, List.map_cons, stampsFrom_eq rest r hr hrest]

/-- The order of the query is the order of the pass. -/
theorem pairwise_unstamped (h : OneFormat clock rows) :
    (unstamped rows).Pairwise (spacing clock).Before := by
  have hmem : ∀ r ∈ unstamped rows, r ∈ rows := fun r hr ↦
    List.mem_of_mem_filter ((List.perm_insertionSort _ _).mem_iff.mp hr)
  have : Std.Total (fun a b : RequestRow ↦ a.moment.sortKey ≤ b.moment.sortKey) :=
    ⟨fun a b ↦ le_total a.moment.sortKey b.moment.sortKey⟩
  have : IsTrans RequestRow (fun a b ↦ a.moment.sortKey ≤ b.moment.sortKey) :=
    ⟨fun _ _ _ hab hbc ↦ le_trans hab hbc⟩
  refine (List.pairwise_insertionSort _ _).imp_of_mem fun {a b} ha hb hle ↦ ?_
  rcases Prod.Lex.le_iff.mp hle with hlt | ⟨heq, hts⟩
  · exact .inl hlt
  · exact .inr ⟨heq, (h.le_iff a (hmem a ha) b (hmem b hb)).mp hts⟩

/-- The updates reach every row by itself. -/
theorem foldl_map_withId (updates : List (Nat × String)) (rows : List RequestRow) :
    updates.foldl (fun rows update ↦ rows.map (fun r ↦ r.withId update)) rows =
      rows.map (fun r ↦ updates.foldl RequestRow.withId r) := by
  induction updates generalizing rows with
  | nil => simp
  | cons update rest ih => simp only [List.foldl_cons, ih, List.map_map, Function.comp_def]

/-- Updates of other rows leave a row. -/
theorem foldl_withId_of_notMem {updates : List (Nat × String)} {r : RequestRow}
    (h : r.id ∉ updates.map Prod.fst) : updates.foldl RequestRow.withId r = r := by
  induction updates with
  | nil => rfl
  | cons update rest ih =>
    rw [List.map_cons, List.mem_cons, not_or] at h
    rw [List.foldl_cons, RequestRow.withId, if_neg h.1, ih h.2]

/-- The one update of a row is written. -/
theorem foldl_withId_of_mem {updates : List (Nat × String)} {r : RequestRow} {cid : String}
    (hnodup : (updates.map Prod.fst).Nodup) (h : (r.id, cid) ∈ updates) :
    updates.foldl RequestRow.withId r = { r with conversationId := some cid } := by
  induction updates with
  | nil => simp at h
  | cons update rest ih =>
    rw [List.map_cons, List.nodup_cons] at hnodup
    rw [List.foldl_cons]
    rcases List.mem_cons.mp h with rfl | h
    · rw [RequestRow.withId, if_pos rfl]
      exact foldl_withId_of_notMem hnodup.1
    · have hne : r.id ≠ update.1 := fun heq ↦
        hnodup.1 (heq ▸ List.mem_map.mpr ⟨(r.id, cid), h, rfl⟩)
      rw [RequestRow.withId, if_neg hne, ih hnodup.2 h]

/-- The row with the id of a burst led by another one. -/
def RequestRow.ledBy (sha1 : String → String) (r head : RequestRow) : RequestRow :=
  { r with conversationId := some (backfillId sha1 head.moment) }

variable (sha1) in
/-- A run that finds some rows with an id and a batch without leaves the former, and gives every
row of the batch the id of its leader in the batch. -/
theorem backfillRequests_append {given batch : List RequestRow}
    (hids : ((given ++ batch).map RequestRow.id).Nodup)
    (hgiven : ∀ r ∈ given, r.conversationId ≠ none) (hbatch : ∀ r ∈ batch, r.conversationId = none)
    (hformat : OneFormat clock batch) :
    ∃ stamp : RequestRow → RequestRow,
      backfillRequests clock sha1 (given ++ batch) = given ++ batch.map stamp ∧
      ∀ r ∈ batch, ∃ head, (spacing clock).Leads batch head r ∧ stamp r = r.ledBy sha1 head := by
  have hrows : unstamped (given ++ batch) = unstamped batch := by
    have hnone : given.filter (fun r ↦ r.conversationId = none) = [] := by
      rw [List.filter_eq_nil_iff]
      simpa using hgiven
    rw [unstamped, unstamped, List.filter_append, hnone, List.nil_append]
  have hperm : (unstamped batch).Perm batch := by
    have hall : batch.filter (fun r ↦ r.conversationId = none) = batch := by
      rw [List.filter_eq_self]
      simpa using hbatch
    rw [unstamped, hall]
    exact List.perm_insertionSort _ _
  have hstamps : stamps clock sha1 (unstamped batch) =
      ((spacing clock).leaders (unstamped batch)).map
        (fun q ↦ (q.1.id, backfillId sha1 q.2.moment)) :=
    stamps_eq fun r hr ↦ hformat.parses r (hperm.mem_iff.mp hr)
  have hkeys : (stamps clock sha1 (unstamped batch)).map Prod.fst =
      (unstamped batch).map RequestRow.id := by
    rw [hstamps, List.map_map]
    conv_rhs => rw [← (spacing clock).map_fst_leaders (unstamped batch), List.map_map]
    rfl
  have hnodup : ((stamps clock sha1 (unstamped batch)).map Prod.fst).Nodup := by
    rw [hkeys, (hperm.map _).nodup_iff]
    exact (List.nodup_append.mp (List.map_append ▸ hids)).2.1
  refine ⟨fun r ↦ (stamps clock sha1 (unstamped batch)).foldl RequestRow.withId r, ?_, ?_⟩
  · rw [backfillRequests, hrows, foldl_map_withId, List.map_append]
    congr 1
    conv_rhs => rw [← List.map_id given]
    refine List.map_congr_left fun r hr ↦ foldl_withId_of_notMem ?_
    rw [hkeys, (hperm.map _).mem_iff]
    intro hmem
    rw [List.map_append] at hids
    exact (List.nodup_append.mp hids).2.2 _ (List.mem_map_of_mem hr) _ hmem rfl
  · intro r hr
    have hr' : r ∈ ((spacing clock).leaders (unstamped batch)).map Prod.fst := by
      rw [Spacing.map_fst_leaders]
      exact hperm.mem_iff.mpr hr
    obtain ⟨⟨r', head⟩, hq, rfl⟩ := List.mem_map.mp hr'
    have hleads := Spacing.leads_of_mem_leaders (pairwise_unstamped hformat) _ hq
    refine ⟨head, hleads.mono (fun z hz ↦ hperm.mem_iff.mp hz)
      (fun z hz ↦ hleads.first z (hperm.mem_iff.mpr hz)), ?_⟩
    exact foldl_withId_of_mem hnodup (hstamps ▸ List.mem_map.mpr ⟨_, hq, rfl⟩)

/-! ## Runs between inserts -/

/-- The tables after a schedule: rows are inserted, then the backfill runs, and so on. -/
def backfillRuns (clock : Clock) (sha1 : String → String) (t : LogTables)
    (batches : List LogTables) : LogTables :=
  run (fun t batch ↦ (backfillConversations clock sha1
    ⟨t.requests ++ batch.requests, t.decisions ++ batch.decisions⟩).1) t batches

/-- The requests inserted in a schedule. -/
def insertedRequests (batches : List LogTables) : List RequestRow :=
  batches.flatMap LogTables.requests

/-- The conversation of the request with an id. -/
def LogTables.conversationOf (t : LogTables) (id : Nat) : Option String :=
  (t.requests.find? (fun r ↦ r.id = id)).bind RequestRow.conversationId

/-- Legacy rows: under keys of their own, without a conversation id, in one time format; and the
ids made from them are as different as the texts hashed. -/
structure Legacy (clock : Clock) (sha1 : String → String) (rows : List RequestRow) : Prop where
  ids : (rows.map RequestRow.id).Nodup
  unstamped : ∀ r ∈ rows, r.conversationId = none
  format : OneFormat clock rows
  hash : ∀ r ∈ rows, ∀ r' ∈ rows, backfillId sha1 r.moment = backfillId sha1 r'.moment →
    r.moment.text = r'.moment.text

/-- Rows that continue none and have one text are of one profile and model. -/
def DistinctTexts (clock : Clock) (rows : List RequestRow) : Prop :=
  ∀ r ∈ rows, ∀ r' ∈ rows, (∀ z ∈ rows, ¬ (spacing clock).Precedes z r) →
    (∀ z ∈ rows, ¬ (spacing clock).Precedes z r') → r.moment.text = r'.moment.text →
    (spacing clock).key r = (spacing clock).key r'

variable (sha1) in
/-- A run of the schedule keeps the rows that have an id, and gives the rows of its batch the ids
of their leaders in the batch. -/
theorem backfillRuns_spec (batches : List LogTables) {t : LogTables}
    (hids : ((t.requests ++ insertedRequests batches).map RequestRow.id).Nodup)
    (hgiven : ∀ r ∈ t.requests, r.conversationId ≠ none)
    (hnone : ∀ r ∈ insertedRequests batches, r.conversationId = none)
    (hformat : OneFormat clock (insertedRequests batches)) :
    ((backfillRuns clock sha1 t batches).requests.map RequestRow.id =
        (t.requests ++ insertedRequests batches).map RequestRow.id) ∧
      (∀ r ∈ t.requests, r ∈ (backfillRuns clock sha1 t batches).requests) ∧
      ∀ batch ∈ batches, ∀ r ∈ batch.requests, ∃ head,
        (spacing clock).Leads batch.requests head r ∧
          r.ledBy sha1 head ∈ (backfillRuns clock sha1 t batches).requests := by
  induction batches generalizing t with
  | nil => simp [backfillRuns, run, insertedRequests]
  | cons batch rest ih =>
    have hcons : insertedRequests (batch :: rest) = batch.requests ++ insertedRequests rest := by
      rw [insertedRequests, List.flatMap_cons, insertedRequests]
    rw [hcons, ← List.append_assoc] at hids
    rw [hcons] at hnone hformat
    have hbatch : ∀ r ∈ batch.requests, r.conversationId = none := fun r hr ↦
      hnone r (List.mem_append_left _ hr)
    obtain ⟨stamp, hrun, hstamp⟩ := backfillRequests_append sha1
      (List.nodup_append.mp (List.map_append ▸ hids)).1 hgiven hbatch
      (hformat.mono fun r hr ↦ List.mem_append_left _ hr)
    have hstampId : (batch.requests.map stamp).map RequestRow.id =
        batch.requests.map RequestRow.id := by
      rw [List.map_map]
      refine List.map_congr_left fun r hr ↦ ?_
      obtain ⟨head, -, heq⟩ := hstamp r hr
      rw [Function.comp_apply, heq, RequestRow.ledBy]
    let t' := (backfillConversations clock sha1
      ⟨t.requests ++ batch.requests, t.decisions ++ batch.decisions⟩).1
    have ht' : t'.requests = t.requests ++ batch.requests.map stamp := hrun
    have hkeys : (t'.requests ++ insertedRequests rest).map RequestRow.id =
        (t.requests ++ batch.requests ++ insertedRequests rest).map RequestRow.id := by
      rw [ht', List.map_append, List.map_append, hstampId, ← List.map_append, ← List.map_append]
    obtain ⟨hids', hkept, hled⟩ := ih (t := t') (hkeys ▸ hids)
      (by
        rw [ht', List.forall_mem_append]
        refine ⟨hgiven, List.forall_mem_map.mpr fun r hr ↦ ?_⟩
        obtain ⟨head, -, heq⟩ := hstamp r hr
        rw [heq, RequestRow.ledBy]
        exact Option.some_ne_none _)
      (fun r hr ↦ hnone r (List.mem_append_right _ hr))
      (hformat.mono fun r hr ↦ List.mem_append_right _ hr)
    change ((backfillRuns clock sha1 t' rest).requests.map RequestRow.id = _) ∧
      (∀ r ∈ t.requests, r ∈ (backfillRuns clock sha1 t' rest).requests) ∧
      ∀ b ∈ batch :: rest, ∀ r ∈ b.requests, ∃ head, (spacing clock).Leads b.requests head r ∧
        r.ledBy sha1 head ∈ (backfillRuns clock sha1 t' rest).requests
    refine ⟨?_, fun r hr ↦ hkept r (ht' ▸ List.mem_append_left _ hr), ?_⟩
    · rw [hids', hkeys, hcons, List.append_assoc]
    · rw [List.forall_mem_cons]
      refine ⟨fun r hr ↦ ?_, hled⟩
      obtain ⟨head, hleads, heq⟩ := hstamp r hr
      refine ⟨head, hleads, hkept _ (ht' ▸ List.mem_append_right _ ?_)⟩
      exact heq ▸ List.mem_map_of_mem hr

/-- Every row of a schedule ends with the id of a row that leads it in its batch. -/
theorem conversationOf_backfillRuns {batches : List LogTables}
    (h : Legacy clock sha1 (insertedRequests batches)) {batch : LogTables}
    (hbatch : batch ∈ batches)
    {r : RequestRow} (hr : r ∈ batch.requests) :
    ∃ head, (spacing clock).Leads batch.requests head r ∧
      (backfillRuns clock sha1 ⟨[], []⟩ batches).conversationOf r.id =
        some (backfillId sha1 head.moment) := by
  obtain ⟨hids, -, hled⟩ := backfillRuns_spec sha1 batches (t := ⟨[], []⟩) h.ids
    (by simp) h.unstamped h.format
  obtain ⟨head, hleads, hmem⟩ := hled batch hbatch r hr
  have hnodup : ((backfillRuns clock sha1 ⟨[], []⟩ batches).requests.map RequestRow.id).Nodup :=
    hids ▸ h.ids
  have hfind := find?_of_mem_of_nodup hnodup hmem (a := r.id) rfl
  refine ⟨head, hleads, ?_⟩
  rw [LogTables.conversationOf, hfind, Option.bind_some, RequestRow.ledBy]

/-- Two rows end in one conversation. -/
def LogTables.Shares (t : LogTables) (r r' : RequestRow) : Prop :=
  ∃ cid, t.conversationOf r.id = some cid ∧ t.conversationOf r'.id = some cid

/-- The batches' rows are the rows inserted. -/
theorem flatten_requests (batches : List LogTables) :
    (batches.map LogTables.requests).flatten = insertedRequests batches :=
  List.flatMap_def.symm

/-- One batch. -/
@[simp] theorem insertedRequests_singleton (batch : LogTables) :
    insertedRequests [batch] = batch.requests := by
  simp [insertedRequests]

/-- An inserted row is one of a batch. -/
theorem mem_insertedRequests {batches : List LogTables} {r : RequestRow} :
    r ∈ insertedRequests batches ↔ ∃ batch ∈ batches, r ∈ batch.requests :=
  List.mem_flatMap

/-- Rows share an id exactly when their leaders' texts agree. -/
theorem shares_iff_of_leads {batches : List LogTables}
    (h : Legacy clock sha1 (insertedRequests batches)) {batch batch' : LogTables}
    (hbatch : batch ∈ batches) (hbatch' : batch' ∈ batches) {r r' head head' : RequestRow}
    (hleads : (spacing clock).Leads batch.requests head r)
    (hleads' : (spacing clock).Leads batch'.requests head' r') :
    (backfillRuns clock sha1 ⟨[], []⟩ batches).Shares r r' ↔
      head.moment.text = head'.moment.text := by
  have hid : ∀ b ∈ batches, ∀ x k, (spacing clock).Leads b.requests k x →
      (backfillRuns clock sha1 ⟨[], []⟩ batches).conversationOf x.id =
        some (backfillId sha1 k.moment) := by
    intro b hb x k hk
    obtain ⟨k', hk', hx'⟩ := conversationOf_backfillRuns h hb hk.mem_right
    have hkey : (spacing clock).key k' = (spacing clock).key k :=
      hk'.linked.key_eq.trans hk.linked.key_eq.symm
    have hmoment : k'.moment = k.moment := h.format.moment_eq
      (mem_insertedRequests.mpr ⟨b, hb, hk'.mem⟩) (mem_insertedRequests.mpr ⟨b, hb, hk.mem⟩)
      hkey (hk'.time_eq hk .refl)
    rw [hx', hmoment]
  rw [LogTables.Shares, hid batch hbatch r head hleads, hid batch' hbatch' r' head' hleads']
  constructor
  · rintro ⟨cid, hcid, hcid'⟩
    exact h.hash head (mem_insertedRequests.mpr ⟨batch, hbatch, hleads.mem⟩) head'
      (mem_insertedRequests.mpr ⟨batch', hbatch', hleads'.mem⟩)
      (Option.some.inj (hcid.trans hcid'.symm))
  · intro htext
    exact ⟨_, rfl, by rw [backfillId, backfillId, htext]⟩

/-- Where no burst is split and the first rows of bursts have texts of their own, the rows that
share an id are the rows of a burst. -/
theorem shares_iff_linked {batches : List LogTables}
    (h : Legacy clock sha1 (insertedRequests batches))
    (hunsplit : (spacing clock).Unsplit (batches.map LogTables.requests))
    (hdistinct : DistinctTexts clock (insertedRequests batches)) {r r' : RequestRow}
    (hr : r ∈ insertedRequests batches) (hr' : r' ∈ insertedRequests batches) :
    (backfillRuns clock sha1 ⟨[], []⟩ batches).Shares r r' ↔
      (spacing clock).Linked (insertedRequests batches) r r' := by
  obtain ⟨batch, hbatch, hr⟩ := mem_insertedRequests.mp hr
  obtain ⟨batch', hbatch', hr'⟩ := mem_insertedRequests.mp hr'
  obtain ⟨head, hleads, -⟩ := conversationOf_backfillRuns h hbatch hr
  obtain ⟨head', hleads', -⟩ := conversationOf_backfillRuns h hbatch' hr'
  rw [shares_iff_of_leads h hbatch hbatch' hleads hleads']
  have hall := hleads.flatten hunsplit (List.mem_map_of_mem hbatch)
  have hall' := hleads'.flatten hunsplit (List.mem_map_of_mem hbatch')
  rw [flatten_requests] at hall hall'
  constructor
  · intro htext
    have hkey := hdistinct head hall.mem head' hall'.mem hall.first hall'.first htext
    have hnear : (spacing clock).Near head head' := by
      have htime : (spacing clock).time head = (spacing clock).time head' := by
        simp only [spacing, timestamp_eq_of_text hkey htext]
      exact ⟨hkey, htime.le.trans (le_add_of_nonneg_right (spacing clock).gap_nonneg),
        htime.ge.trans (le_add_of_nonneg_right (spacing clock).gap_nonneg)⟩
    exact (hall.linked.symm.tail ⟨hall.mem, hall'.mem, hnear⟩).trans hall'.linked
  · intro hlinked
    have hkey : (spacing clock).key head = (spacing clock).key head' :=
      (hall.linked.key_eq.trans hlinked.key_eq).trans hall'.linked.key_eq.symm
    rw [h.format.moment_eq hall.mem hall'.mem hkey (hall.time_eq hall' hlinked)]

/-- The batches of a schedule inserted as one. -/
def single (batches : List LogTables) : List LogTables :=
  [⟨insertedRequests batches, batches.flatMap LogTables.decisions⟩]

/-- Backfills between the inserts give the bursts of all rows, as one backfill at the end does,
exactly when no run starts a burst at a row that continues an earlier one and no two bursts of
different profiles or models start with one text. -/
theorem backfill_grouping_iff {batches : List LogTables}
    (h : Legacy clock sha1 (insertedRequests batches)) :
    (∀ r ∈ insertedRequests batches, ∀ r' ∈ insertedRequests batches,
      ((backfillRuns clock sha1 ⟨[], []⟩ batches).Shares r r' ↔
          (backfillRuns clock sha1 ⟨[], []⟩ (single batches)).Shares r r') ∧
        ((backfillRuns clock sha1 ⟨[], []⟩ batches).Shares r r' ↔
          (spacing clock).Linked (insertedRequests batches) r r')) ↔
      (spacing clock).Unsplit (batches.map LogTables.requests) ∧
        DistinctTexts clock (insertedRequests batches) := by
  constructor
  · intro hgrouped
    constructor
    · refine Spacing.unsplit_of_time_eq ?_ ?_
      · rw [List.forall_mem_map]
        intro batch hbatch r hr
        obtain ⟨head, hleads, -⟩ := conversationOf_backfillRuns h hbatch hr
        exact ⟨head, hleads⟩
      · rw [List.forall_mem_map]
        intro batch hbatch
        rw [List.forall_mem_map]
        intro batch' hbatch' r r' head head' hleads hleads' hlinked
        rw [flatten_requests] at hlinked
        have hshares := (hgrouped r (mem_insertedRequests.mpr ⟨batch, hbatch, hleads.mem_right⟩) r'
          (mem_insertedRequests.mpr ⟨batch', hbatch', hleads'.mem_right⟩)).2.mpr hlinked
        rw [shares_iff_of_leads h hbatch hbatch' hleads hleads'] at hshares
        have hkey : (spacing clock).key head = (spacing clock).key head' :=
          (hleads.linked.key_eq.trans hlinked.key_eq).trans hleads'.linked.key_eq.symm
        simp only [spacing, timestamp_eq_of_text hkey hshares]
    · intro r hr r' hr' hfirst hfirst' htext
      obtain ⟨batch, hbatch, hrb⟩ := mem_insertedRequests.mp hr
      obtain ⟨batch', hbatch', hrb'⟩ := mem_insertedRequests.mp hr'
      have hself : ∀ b ∈ batches, ∀ x ∈ b.requests,
          (∀ z ∈ insertedRequests batches, ¬ (spacing clock).Precedes z x) →
          (spacing clock).Leads b.requests x x := fun b hb x hx hf ↦
        ⟨hx, .refl, fun z hz ↦ hf z (mem_insertedRequests.mpr ⟨b, hb, hz⟩)⟩
      have hshares := (shares_iff_of_leads h hbatch hbatch' (hself batch hbatch r hrb hfirst)
        (hself batch' hbatch' r' hrb' hfirst')).mpr htext
      exact ((hgrouped r hr r' hr').2.mp hshares).key_eq
  · rintro ⟨hunsplit, hdistinct⟩ r hr r' hr'
    have hone : insertedRequests (single batches) = insertedRequests batches :=
      insertedRequests_singleton _
    have hunsplit' : (spacing clock).Unsplit ((single batches).map LogTables.requests) := by
      intro batch hbatch x hx
      rw [single, List.map_singleton, List.mem_singleton] at hbatch
      rw [flatten_requests, hone, hbatch]
      exact id
    have hscheduled := shares_iff_linked h hunsplit hdistinct hr hr'
    have hsingle := shares_iff_linked (hone ▸ h) hunsplit' (hone ▸ hdistinct) (hone ▸ hr)
      (hone ▸ hr')
    rw [hone] at hsingle
    exact ⟨hscheduled.trans hsingle.symm, hscheduled⟩

/-- The readings of two times. -/
def noonClock : Clock where
  seconds
    | "2026-10-01T12:00:00+00:00" => some 1790856000
    | "2026-10-01T12:01:40+00:00" => some 1790856100
    | _ => none
  datetime
    | "2026-10-01T12:00:00+00:00" => some 1790856000
    | "2026-10-01T12:01:40+00:00" => some 1790856100
    | _ => none
  julianday
    | "2026-10-01T12:00:00+00:00" => some 2461315
    | "2026-10-01T12:01:40+00:00" => some (2461315 + 100 / 86400)
    | _ => none

/-- The digests of the texts of two rows. -/
def noonSha1 : String → String
  | "hermes|glm-5|2026-10-01T12:00:00+00:00" => "3808c42bb9fe1d2d92c9d18157dca22e9e7736ea"
  | "hermes|glm-5|2026-10-01T12:01:40+00:00" => "9c440a0429e81d854f4b6f3091ac2c8ef75e5233"
  | _ => ""

/-- A row of one profile and model. -/
def noonRow (id : Nat) (timestamp : String) : RequestRow :=
  ⟨id, timestamp, "hermes", "glm-5", none, none, none, some 1, none⟩

/-- A request, a backfill, a request a hundred seconds later, a backfill. -/
def noonBatches : List LogTables :=
  [⟨[noonRow 1 "2026-10-01T12:00:00+00:00"], []⟩, ⟨[noonRow 2 "2026-10-01T12:01:40+00:00"], []⟩]

/-- The rows of both runs are legacy rows. -/
theorem legacy_noonBatches : Legacy noonClock noonSha1 (insertedRequests noonBatches) where
  ids := by decide +kernel
  unstamped := by decide +kernel
  format := ⟨by decide +kernel, by decide +kernel⟩
  hash := by decide +kernel

/-- The rows of two runs that split a burst. -/
theorem backfill_grouping_noon :
    (∀ r ∈ insertedRequests noonBatches, ∀ r' ∈ insertedRequests noonBatches,
      ((backfillRuns noonClock noonSha1 ⟨[], []⟩ noonBatches).Shares r r' ↔
          (backfillRuns noonClock noonSha1 ⟨[], []⟩ (single noonBatches)).Shares r r') ∧
        ((backfillRuns noonClock noonSha1 ⟨[], []⟩ noonBatches).Shares r r' ↔
          (spacing noonClock).Linked (insertedRequests noonBatches) r r')) ↔
      (spacing noonClock).Unsplit (noonBatches.map LogTables.requests) ∧
        DistinctTexts noonClock (insertedRequests noonBatches) :=
  backfill_grouping_iff legacy_noonBatches

/-- The second run starts a burst of its own at a row that continues the first one: with a backfill
between them the rows get two ids, with one at the end they share one. -/
theorem backfill_splits_burst :
    let scheduled := backfillRuns noonClock noonSha1 ⟨[], []⟩ noonBatches
    let once := backfillRuns noonClock noonSha1 ⟨[], []⟩ (single noonBatches)
    scheduled.conversationOf 1 = some "c3808c42bb9" ∧
      scheduled.conversationOf 2 = some "c9c440a0429" ∧
      once.conversationOf 1 = some "c3808c42bb9" ∧ once.conversationOf 2 = some "c3808c42bb9" ∧
      ¬ ∀ r ∈ insertedRequests noonBatches, ∀ r' ∈ insertedRequests noonBatches,
        (scheduled.Shares r r' ↔ once.Shares r r') ∧
          (scheduled.Shares r r' ↔
            (spacing noonClock).Linked (insertedRequests noonBatches) r r') := by
  refine ⟨by decide +kernel, by decide +kernel, by decide +kernel, by decide +kernel, fun h ↦ ?_⟩
  have hr := h (noonRow 1 "2026-10-01T12:00:00+00:00") (by decide)
    (noonRow 2 "2026-10-01T12:01:40+00:00") (by decide)
  obtain ⟨cid, h1, h2⟩ := hr.1.mpr ⟨"c3808c42bb9", by decide +kernel, by decide +kernel⟩
  rw [← h1] at h2
  exact absurd h2 (by decide +kernel)

end LcpGateway.Conversation
