import LcpGateway.Base.Grouping
import LcpGateway.Base.Rounding
import LcpGateway.Conversation.Store
import Mathlib.Data.List.MinMax
import Mathlib.Data.List.ReduceOption

/-!
# The conversations table

Library `Conversation`. Sources `src/api/work_conversations.py:118–241` and
`src/api/conv_store.py:444–500,585–656`. Three writers keep one row for each conversation:
`sync_conversations` from the requests, `upsert_conversation` and `recount_conversation` from the
stored messages. The first groups by conversation, profile and model, and writes every group to
the row of its conversation.
-/

namespace LcpGateway.Conversation
open LcpGateway.Base

/-- A row of `requests`, with the columns the conversations are made from. -/
structure RequestRow where
  id : Nat
  timestamp : String
  profile : String
  model : String
  promptTokens : Option Int
  completionTokens : Option Int
  cost : Option Rat
  success : Option Int
  conversationId : Option String
  deriving DecidableEq

/-- A row of `routing_decisions`, with the columns the conversations are made from. -/
structure DecisionRow where
  id : Nat
  ts : String
  profile : String
  task : String
  conversationId : Option String
  deriving DecidableEq

/-- A row of `conversations` without its key. -/
structure Rollup where
  name : Option String
  summary : Option String
  profile : Option String
  model : Option String
  firstSeen : Option String
  lastSeen : Option String
  calls : Option Int
  tokens : Option Int
  cost : Option Rat
  errors : Option Int
  generatedAt : Option String
  source : Option String
  startedAt : Option String
  endedAt : Option String
  messageCount : Option Int
  activeMessageCount : Option Int
  toolCallCount : Option Int
  inputTokens : Option Int
  outputTokens : Option Int
  deriving DecidableEq

/-- A row with its key only. -/
def Rollup.blank : Rollup :=
  ⟨none, none, none, none, none, none, none, none, none, none, none, none, none, none, none, none,
    none, none, none⟩

/-- The table `conversations`, by `conversation_id`. -/
abbrev Conversations : Type := Dict String Rollup

/-! ## The groups of requests -/

/-- `SUM` over a column: nulls are left out, and of nulls alone the sum is null. -/
def sqlSum {α : Type} [Add α] [Zero α] (column : List (Option α)) : Option α :=
  match column.reduceOption with
  | [] => none
  | values => some values.sum

/-- `prompt_tokens + completion_tokens`. -/
def RequestRow.tokens (r : RequestRow) : Option Int :=
  r.promptTokens.bind (fun p ↦ r.completionTokens.map (fun c ↦ p + c))

/-- A row of the grouped query. -/
structure Group where
  conversationId : String
  profile : String
  model : String
  calls : Nat
  tokens : Option Int
  cost : Option Rat
  errors : Nat
  firstSeen : Option String
  lastSeen : Option String

/-- The aggregates of the requests of one group; `work_conversations.py:160–168`. -/
def Group.of (key : String × String × String) (requests : List RequestRow) : Group where
  conversationId := key.1
  profile := key.2.1
  model := key.2.2
  calls := requests.length
  tokens := sqlSum (requests.map RequestRow.tokens)
  cost := sqlSum (requests.map RequestRow.cost)
  errors := requests.countP (fun r ↦ r.success = some 0)
  firstSeen := (requests.map RequestRow.timestamp).min?
  lastSeen := (requests.map RequestRow.timestamp).max?

/-- The requests of one conversation. -/
def carrying (requests : List RequestRow) (cid : String) : List RequestRow :=
  requests.filter (fun r ↦ r.conversationId = some cid)

/-- The requests that carry a conversation id, with it. -/
def identified (requests : List RequestRow) : List (String × RequestRow) :=
  requests.filterMap (fun r ↦ r.conversationId.map (fun cid ↦ (cid, r)))

/-- The order in which a query without `ORDER BY` answers its rows. -/
structure Answered (α : Type) where
  enumerate : List α → List α
  perm : ∀ rows, (enumerate rows).Perm rows

/-- The columns of the `GROUP BY`. -/
def groupKey (p : String × RequestRow) : String × String × String := (p.1, p.2.profile, p.2.model)

/-- `SELECT … GROUP BY conversation_id, profile, model`; `work_conversations.py:158–173`. -/
def groups (order : Answered Group) (requests : List RequestRow) : List Group :=
  order.enumerate <|
    (Dict.groupBy groupKey (identified requests)).entries.map
      (fun e ↦ Group.of e.1 (e.2.map Prod.snd))

/-! ## sync_conversations -/

/-- `'%.4f' % x` and its like: the nearest decimal fraction with that many digits. -/
def fixedText (digits : Nat) (x : Rat) : String :=
  let shown := (Nat.toDigits 10 (halfEven (|x| * 10 ^ digits)).toNat).leftpad (digits + 1) '0'
  String.ofList ((if x < 0 then ['-'] else []) ++ shown.take (shown.length - digits) ++
    '.' :: shown.drop (shown.length - digits))

/-- `_generate_name` without a first user turn, which the sync never has;
`work_conversations.py:126–141`. -/
def generateName (cid : String) (task lastSeen : Option String) : String :=
  match task.filter (· ≠ "") with
  | some label =>
    let date := String.ofList ((lastSeen.getD "").toList.take 10)
    if date = "" then label else label ++ " " ++ date
  | none => "Conversation " ++ cid

/-- The task of the newest routing decision of a conversation; `work_conversations.py:194–198`. -/
def latestTask (decisions : List DecisionRow) (cid : String) : Option String :=
  ((decisions.filter (fun d ↦ d.conversationId = some cid)).argmax DecisionRow.ts).map
    DecisionRow.task

/-- What a sync reads besides the requests and the table. -/
structure SyncContext where
  decisions : List DecisionRow
  force : Bool
  now : String

/-- The columns every group overwrites; `work_conversations.py:184–189`. -/
def Rollup.withGroup (row : Rollup) (g : Group) : Rollup :=
  { row with
    profile := some g.profile
    model := some g.model
    calls := some (g.calls : Int)
    tokens := some (g.tokens.getD 0)
    cost := some (g.cost.getD 0)
    errors := some (g.errors : Int)
    firstSeen := g.firstSeen
    lastSeen := g.lastSeen }

/-- The generated columns; `work_conversations.py:211–219`. -/
def Rollup.named (row : Rollup) (ctx : SyncContext) (g : Group) : Rollup :=
  { row with
    name := some (generateName g.conversationId (latestTask ctx.decisions g.conversationId)
      g.lastSeen)
    summary := some ("no user or assistant text captured · " ++ toString g.calls ++ " calls · $" ++
      fixedText 4 (g.cost.getD 0))
    generatedAt := some ctx.now }

/-- The row after one group: an existing row is renamed when that is forced. -/
def synced (ctx : SyncContext) (existing : Option Rollup) (g : Group) : Rollup :=
  match existing with
  | some row => if ctx.force then (row.withGroup g).named ctx g else row.withGroup g
  | none => (Rollup.blank.withGroup g).named ctx g

/-- The counts a sync returns. -/
structure SyncCounts where
  created : Nat
  updated : Nat
  deriving DecidableEq

/-- One iteration of the loop over the groups; `work_conversations.py:174–238`. -/
def syncGroup (ctx : SyncContext) (acc : Conversations × SyncCounts) (g : Group) :
    Conversations × SyncCounts :=
  let existing := acc.1.get? g.conversationId
  (acc.1.set g.conversationId (synced ctx existing g),
    if existing.isSome then { acc.2 with updated := acc.2.updated + 1 }
    else { acc.2 with created := acc.2.created + 1 })

/-- `sync_conversations`; `work_conversations.py:144–241`. -/
def syncConversations (order : Answered Group) (ctx : SyncContext) (requests : List RequestRow)
    (table : Conversations) : Conversations × SyncCounts :=
  (groups order requests).foldl (syncGroup ctx) (table, ⟨0, 0⟩)

/-! ## The writers of the capture path -/

/-- The arguments of `upsert_conversation`; `conv_store.py:585–596`. -/
structure Upsert where
  profile : Option String
  model : Option String
  name : Option String
  source : Option String
  startedAt : Option String
  endedAt : Option String
  messageCount : Option Int
  activeMessageCount : Option Int
  toolCallCount : Option Int
  inputTokens : Option Int
  outputTokens : Option Int
  lastMessageTs : Option String

/-- `CASE WHEN first_seen IS NULL OR ? < first_seen THEN ? ELSE first_seen END`. -/
def widenFirst (ts : Option String) (stored : Option String) : Option String :=
  match ts, stored with
  | some t, some f => if t < f then some t else some f
  | some t, none => some t
  | none, stored => stored

/-- `CASE WHEN last_seen IS NULL OR ? > last_seen THEN ? ELSE last_seen END`. -/
def widenLast (ts : Option String) (stored : Option String) : Option String :=
  match ts, stored with
  | some t, some l => if l < t then some t else some l
  | some t, none => some t
  | none, stored => stored

/-- The columns the arguments set, those of revision 024 where the table has them;
`conv_store.py:608–636`. -/
def Rollup.merged (row : Rollup) (migrated : Bool) (u : Upsert) : Rollup :=
  let row := { row with
    profile := u.profile.or row.profile
    model := u.model.or row.model
    name := u.name.or row.name }
  if migrated then
    { row with
      source := u.source.or row.source
      startedAt := u.startedAt.or row.startedAt
      endedAt := u.endedAt.or row.endedAt
      messageCount := u.messageCount.or row.messageCount
      activeMessageCount := u.activeMessageCount.or row.activeMessageCount
      toolCallCount := u.toolCallCount.or row.toolCallCount
      inputTokens := u.inputTokens.or row.inputTokens
      outputTokens := u.outputTokens.or row.outputTokens }
  else row

/-- The row with its activity window widened by two optional times. -/
def Rollup.widened (row : Rollup) (first last : Option String) : Rollup :=
  { row with
    firstSeen := widenFirst first row.firstSeen
    lastSeen := widenLast last row.lastSeen }

/-- A time that is neither missing nor empty. -/
def given (ts : Option String) : Option String := ts.filter (· ≠ "")

/-- `upsert_conversation`; `conv_store.py:585–656`. -/
def upsertConversation (migrated : Bool) (table : Conversations) (cid : String) (u : Upsert) :
    Conversations :=
  let row := ((table.get? cid).getD Rollup.blank).merged migrated u
  table.set cid (row.widened (given u.lastMessageTs) (given u.lastMessageTs))

/-- The row with the counts of its messages, where the table has the columns. -/
def Rollup.recounted (row : Rollup) (migrated : Bool) (messages : List Row) : Rollup :=
  if migrated then
    { row with
      messageCount := some (messages.length : Int)
      activeMessageCount := some (messages.countP (fun m ↦ m.active = 1) : Int)
      toolCallCount := some (messages.countP (fun m ↦ m.role = some "tool") : Int) }
  else row

/-- `recount_conversation`, with the numbers of messages and of active ones it returns;
`conv_store.py:444–500`. Without a row the update changes nothing. -/
def recountConversation (migrated : Bool) (messages : ConvMessages) (table : Conversations)
    (cid : String) : Conversations × Nat × Nat :=
  let rows := log messages cid
  let times := rows.filterMap Row.ts
  let table := match table.get? cid with
    | some row =>
      table.set cid ((row.recounted migrated rows).widened (given times.min?) (given times.max?))
    | none => table
  (table, rows.length, rows.countP (fun m ↦ m.active = 1))

/-! ## What a sync counts -/

/-- The row counts these requests and adds up their tokens, costs and errors. -/
structure Rollup.Tallies (row : Rollup) (requests : List RequestRow) : Prop where
  calls : row.calls = some (requests.length : Int)
  tokens : row.tokens = some (requests.map (fun r ↦ r.tokens.getD 0)).sum
  cost : row.cost = some (requests.map (fun r ↦ r.cost.getD 0)).sum
  errors : row.errors = some (requests.countP (fun r ↦ r.success = some 0) : Int)

/-- The row of a conversation tallies all of its requests; without a row there are none. -/
def Accounted (table : Conversations) (requests : List RequestRow) (cid : String) : Prop :=
  (table.get? cid).elim (carrying requests cid = []) (·.Tallies (carrying requests cid))

/-- All requests of a conversation have one profile and one model. -/
def OneGroup (requests : List RequestRow) (cid : String) : Prop :=
  ∀ r ∈ carrying requests cid, ∀ r' ∈ carrying requests cid,
    r.profile = r'.profile ∧ r.model = r'.model

/-- The sum of a column with its nulls as zeros. -/
theorem getD_sqlSum {α : Type} [AddMonoid α] (column : List (Option α)) :
    (sqlSum column).getD 0 = (column.map (·.getD 0)).sum := by
  have hsum : column.reduceOption.sum = (column.map (·.getD 0)).sum := by
    induction column with
    | nil => rfl
    | cons value rest ih => cases value <;> simp [ih]
  rw [← hsum, sqlSum]
  split
  · next hnil => rw [hnil, List.sum_nil, Option.getD_none]
  · rfl

/-- The groups of a conversation, each with its requests. -/
theorem mem_groups {order : Answered Group} {requests : List RequestRow} {g : Group} :
    g ∈ groups order requests ↔ ∃ cid profile model,
      g = Group.of (cid, profile, model)
        ((carrying requests cid).filter (fun r ↦ r.profile = profile ∧ r.model = model)) ∧
      ∃ r ∈ carrying requests cid, r.profile = profile ∧ r.model = model := by
  have hrows : ∀ cid profile model,
      ((identified requests).filter (fun p ↦ groupKey p = (cid, profile, model))).map Prod.snd =
        (carrying requests cid).filter (fun r ↦ r.profile = profile ∧ r.model = model) := by
    intro cid profile model
    rw [identified, carrying]
    induction requests with
    | nil => rfl
    | cons r rest ih =>
      cases hid : r.conversationId with
      | none => simpa [hid] using ih
      | some cid' =>
        by_cases hcid : cid' = cid
        · subst hcid
          by_cases hkey : r.profile = profile ∧ r.model = model <;>
            simpa [hid, hkey, groupKey] using ih
        · simpa [hid, hcid, groupKey] using ih
  have hkeys : ∀ cid profile model, (cid, profile, model) ∈ (identified requests).map groupKey ↔
      ∃ r ∈ carrying requests cid, r.profile = profile ∧ r.model = model := by
    intro cid profile model
    simp only [identified, carrying, groupKey, List.mem_map, List.mem_filterMap, List.mem_filter,
      Option.map_eq_some_iff, decide_eq_true_eq, Prod.exists, Prod.mk.injEq]
    constructor
    · rintro ⟨_, _, ⟨r, hr, _, hid, rfl, rfl⟩, rfl, hprofile, hmodel⟩
      exact ⟨r, ⟨hr, hid⟩, hprofile, hmodel⟩
    · rintro ⟨r, ⟨hr, hid⟩, hprofile, hmodel⟩
      exact ⟨cid, r, ⟨r, hr, cid, hid, rfl, rfl⟩, rfl, hprofile, hmodel⟩
  rw [groups, (order.perm _).mem_iff, List.mem_map]
  constructor
  · rintro ⟨⟨⟨cid, profile, model⟩, group⟩, he, rfl⟩
    rw [Dict.mem_entries_iff, Dict.get?_groupBy_eq_some_iff] at he
    exact ⟨cid, profile, model, by rw [he.1, hrows], (hkeys cid profile model).mp he.2⟩
  · rintro ⟨cid, profile, model, rfl, hkey⟩
    refine ⟨((cid, profile, model), _), ?_, by rw [← hrows]⟩
    rw [Dict.mem_entries_iff, Dict.get?_groupBy_eq_some_iff]
    exact ⟨rfl, (hkeys cid profile model).mpr hkey⟩

/-- The row of a conversation after a sync. -/
theorem get?_syncConversations (order : Answered Group) (ctx : SyncContext)
    (requests : List RequestRow) (table : Conversations) (cid : String) :
    (syncConversations order ctx requests table).1.get? cid =
      ((groups order requests).filter (fun g ↦ g.conversationId = cid)).foldl
        (fun row g ↦ some (synced ctx row g)) (table.get? cid) := by
  have hstep : ∀ (acc : Conversations × SyncCounts) (g : Group) (cid : String),
      (syncGroup ctx acc g).1.get? cid =
        if g.conversationId = cid then some (synced ctx (acc.1.get? cid) g)
        else acc.1.get? cid := by
    intro acc g cid
    by_cases hcid : g.conversationId = cid
    · subst hcid
      simp [syncGroup]
    · simp [syncGroup, Dict.get?_set, hcid]
  exact foldl_observe (fun (acc : Conversations × SyncCounts) cid ↦ acc.1.get? cid)
    Group.conversationId (fun row g ↦ some (synced ctx row g)) hstep (groups order requests)
    (table, ⟨0, 0⟩) cid

/-- What the sync writes of the last group of a conversation. -/
theorem tallies_synced_iff (ctx : SyncContext) (existing : Option Rollup) (g : Group)
    (requests : List RequestRow) :
    (synced ctx existing g).Tallies requests ↔ (Rollup.blank.withGroup g).Tallies requests := by
  have hcolumns : ∀ row row' : Rollup, row.calls = row'.calls → row.tokens = row'.tokens →
      row.cost = row'.cost → row.errors = row'.errors →
      row.Tallies requests → row'.Tallies requests := fun row row' h₁ h₂ h₃ h₄ h ↦
    ⟨h₁ ▸ h.calls, h₂ ▸ h.tokens, h₃ ▸ h.cost, h₄ ▸ h.errors⟩
  have hsame : (synced ctx existing g).calls = some g.calls ∧
      (synced ctx existing g).tokens = some (g.tokens.getD 0) ∧
      (synced ctx existing g).cost = some (g.cost.getD 0) ∧
      (synced ctx existing g).errors = some g.errors := by
    unfold synced
    cases existing with
    | none => exact ⟨rfl, rfl, rfl, rfl⟩
    | some row => cases hforce : ctx.force <;> exact ⟨rfl, rfl, rfl, rfl⟩
  obtain ⟨h₁, h₂, h₃, h₄⟩ := hsame
  exact ⟨hcolumns _ _ h₁ h₂ h₃ h₄, hcolumns _ _ h₁.symm h₂.symm h₃.symm h₄.symm⟩

/-- A group tallies the requests it is made of and, of a list they are chosen from, no other
list. -/
theorem tallies_group_iff {key : String × String × String} {requests : List RequestRow}
    {p : RequestRow → Bool} :
    (Rollup.blank.withGroup (Group.of key (requests.filter p))).Tallies requests ↔
      ∀ r ∈ requests, p r = true := by
  constructor
  · intro h
    have hcalls := h.calls
    simp only [Rollup.withGroup, Group.of, Option.some.injEq, Nat.cast_inj] at hcalls
    exact List.length_filter_eq_length_iff.mp hcalls
  · intro h
    rw [List.filter_eq_self.mpr h]
    exact ⟨rfl, by simp [Rollup.withGroup, Group.of, getD_sqlSum, List.map_map, Function.comp_def],
      by simp [Rollup.withGroup, Group.of, getD_sqlSum, List.map_map, Function.comp_def], rfl⟩

/-- After a sync the row of a conversation tallies all of its requests exactly when they have one
profile and one model and, where there are none, the row tallied none before. -/
theorem syncConversations_accounted_iff (order : Answered Group) (ctx : SyncContext)
    (requests : List RequestRow) (table : Conversations) (cid : String) :
    Accounted (syncConversations order ctx requests table).1 requests cid ↔
      OneGroup requests cid ∧ (carrying requests cid = [] → Accounted table requests cid) := by
  rw [Accounted, get?_syncConversations]
  rcases List.eq_nil_or_concat ((groups order requests).filter (fun g ↦ g.conversationId = cid))
    with hgroups | ⟨before, g, hgroups⟩
  · -- no request carries the id, and the row is left alone
    have hnone : carrying requests cid = [] := by
      by_contra hne
      obtain ⟨r, hr⟩ := List.exists_mem_of_ne_nil _ hne
      have hg : Group.of (cid, r.profile, r.model) _ ∈ groups order requests :=
        mem_groups.mpr ⟨cid, r.profile, r.model, rfl, r, hr, rfl, rfl⟩
      exact List.filter_eq_nil_iff.mp hgroups _ hg (by simp [Group.of])
    rw [hgroups, List.foldl_nil]
    exact ⟨fun h ↦ ⟨by simp [OneGroup, hnone], fun _ ↦ h⟩, fun h ↦ h.2 hnone⟩
  · -- the last group overwrites the ones before it
    have hmem : g ∈ (groups order requests).filter (fun g ↦ g.conversationId = cid) := by
      rw [hgroups]
      simp
    obtain ⟨hg, hcid⟩ := List.mem_filter.mp hmem
    obtain ⟨cid', profile, model, rfl, r, hr, hkey⟩ := mem_groups.mp hg
    obtain rfl : cid' = cid := of_decide_eq_true hcid
    have hne : carrying requests cid' ≠ [] := List.ne_nil_of_mem hr
    rw [hgroups, List.concat_eq_append, List.foldl_append, List.foldl_cons, List.foldl_nil,
      Option.elim_some, tallies_synced_iff, tallies_group_iff]
    simp only [decide_eq_true_eq]
    constructor
    · intro hall
      exact ⟨fun r₁ h₁ r₂ h₂ ↦ ⟨(hall r₁ h₁).1.trans (hall r₂ h₂).1.symm,
        (hall r₁ h₁).2.trans (hall r₂ h₂).2.symm⟩, fun hnil ↦ absurd hnil hne⟩
    · rintro ⟨hone, -⟩ r' hr'
      obtain ⟨hprofile, hmodel⟩ := hone r' hr' r hr
      exact ⟨hprofile.trans hkey.1, hmodel.trans hkey.2⟩

/-- The calls of an accounted row. -/
theorem Accounted.eq_length {table : Conversations} {requests : List RequestRow} {cid : String}
    (h : Accounted table requests cid) {n : Int}
    (hcalls : (table.get? cid).bind Rollup.calls = some n) :
    n = (carrying requests cid).length := by
  unfold Accounted at h
  cases hrow : table.get? cid with
  | none => simp [hrow] at hcalls
  | some row =>
    rw [hrow] at h hcalls
    exact Option.some.inj (hcalls.symm.trans h.calls)

/-- Groups in the order they were first met. -/
def firstMet {α : Type} : Answered α := ⟨id, fun _ ↦ .refl _⟩

/-- A request of a conversation. -/
def sessionRequest (id : Nat) (model : String) (cost : Rat) : RequestRow :=
  ⟨id, "2026-10-01T12:00:00+00:00", "hermes", model, some 10, some 5, some cost, some 1,
    some "session-1"⟩

/-- A conversation whose requests went to two models: its row counts those of one model. -/
theorem sync_counts_last_model :
    let requests := [sessionRequest 1 "deepseek-v4-pro" 2, sessionRequest 2 "kimi-k3" 3]
    let table := (syncConversations firstMet ⟨[], false, "2026-10-01T12:05:00Z"⟩ requests
      Dict.empty).1
    (table.get? "session-1").bind Rollup.calls = some 1 ∧
      (table.get? "session-1").bind Rollup.cost = some 3 ∧
      ¬ Accounted table requests "session-1" := by
  refine ⟨by decide +kernel, by decide +kernel, fun h ↦ ?_⟩
  exact absurd (h.eq_length (n := 1) (by decide +kernel)) (by decide +kernel)

end LcpGateway.Conversation
