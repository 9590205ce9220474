import LcpGateway.Accounting.Recording
import LcpGateway.Accounting.Repricing
import LcpGateway.Base.Grouping
import Mathlib.Algebra.Order.BigOperators.Group.List
import Mathlib.Data.List.Sort

/-!
# Tokens served locally

Library `Accounting`. Sources `src/api/cost_plugins/llamacpp.py:123–190` and
`src/api/request_pipeline.py:1099–1118`. The local plugin keeps one entry for a day and a model,
and every recorded request is added to it. The caller hands over the prompt with its misses added,
although the misses are part of the prompt.
-/

namespace LcpGateway.Accounting
open LcpGateway.Base LcpGateway.Config

/-! ## The accumulator -/

/-- An entry of `_daily`; `llamacpp.py:134–142`. -/
structure UsageEntry where
  promptTokens : Json
  completionTokens : Json
  cacheHitTokens : Int
  requestCount : Nat
  totalLatencyMs : Nat

/-- A fresh entry. -/
def UsageEntry.zero : UsageEntry := ⟨.int 0, .int 0, 0, 0, 0⟩

/-- The additions of `record_tokens`, one after the other; `llamacpp.py:143–147`. One that raises
leaves those behind it undone. -/
def UsageEntry.add (entry : UsageEntry) (prompt completion : Json) (hit : Int) (latency : Nat) :
    UsageEntry :=
  match addCounts entry.promptTokens prompt with
  | none => entry
  | some promptTokens =>
    match addCounts entry.completionTokens completion with
    | none => { entry with promptTokens }
    | some completionTokens =>
      { promptTokens, completionTokens
        cacheHitTokens := entry.cacheHitTokens + hit
        requestCount := entry.requestCount + 1
        totalLatencyMs := entry.totalLatencyMs + latency }

/-- `_daily`: the entries of a day by model. -/
abbrev DailyUsage := Dict String (Dict String UsageEntry)

/-- `record_tokens`; `llamacpp.py:123–148`. -/
def DailyUsage.recordTokens (daily : DailyUsage) (today model : String) (prompt completion : Json)
    (hit : Int) (latency : Nat) : DailyUsage :=
  daily.setIn today model
    (((daily.getIn today model).getD UsageEntry.zero).add prompt completion hit latency)

/-- A row of `fetch_usage`. -/
structure UsageRow where
  date : String
  model : String
  provider : String
  promptTokens : Json
  completionTokens : Json
  cacheHitTokens : Int
  cacheMissTokens : Json
  cost : PyFloat
  requestCount : Nat
  totalLatencyMs : Nat
  totalTokens : Json

/-- The row of an entry; `llamacpp.py:175–187`. -/
def usageRow (cell : String × String × UsageEntry) : Option UsageRow :=
  (addCounts cell.2.2.promptTokens cell.2.2.completionTokens).map fun totalTokens ↦
    { date := cell.1
      model := cell.2.1
      provider := "llamacpp"
      promptTokens := cell.2.2.promptTokens
      completionTokens := cell.2.2.completionTokens
      cacheHitTokens := cell.2.2.cacheHitTokens
      cacheMissTokens := cell.2.2.promptTokens
      cost := .fin 0
      requestCount := cell.2.2.requestCount
      totalLatencyMs := cell.2.2.totalLatencyMs
      totalTokens }

/-- The day is not skipped; `llamacpp.py:169–172`. An empty bound is none. -/
def inRange (startDate endDate : Option String) (day : String) : Bool :=
  (startDate.all fun start ↦ start = "" || !decide (day < start)) &&
    endDate.all fun stop ↦ stop = "" || !decide (stop < day)

/-- `fetch_usage`; `llamacpp.py:162–190`. `none` is an exception. -/
def DailyUsage.fetchUsage (daily : DailyUsage) (startDate endDate : Option String) :
    Option (List UsageRow) :=
  (Dict.cells ((daily.entries.insertionSort fun a b ↦ a.1 ≤ b.1).filter
    fun e ↦ inRange startDate endDate e.1)).mapM usageRow

/-! ## Recorded requests -/

/-- What a request is costed from: the usage that was reported for it or, for a stream without one,
the estimate from before it was sent; `handler.py:538–563,629–632`. -/
inductive CostSource where
  | reported (usage : Json)
  | estimated (inputTokens : Nat) (cost : PyFloat)

/-- One call of `record_cost`, and the day it falls on. -/
structure RecordCostCall where
  today : String
  ts : BillingTime
  profile : String
  provider : String
  model : String
  source : CostSource
  latencyMs : Nat
  success : Bool
  errorType : Option String
  toolsBlocked : List Json
  errorDetail : Option String

/-- The `cost_info` of the call. An estimate is all misses. -/
def RecordCostCall.costInfo (cfg : GatewayConfig) (book : PriceBook) (call : RecordCostCall) :
    Option CostInfo :=
  match call.source with
  | .reported usage => calculateCost cfg book call.ts call.provider call.model usage
  | .estimated inputTokens cost =>
    some ⟨.int inputTokens, .int 0, 0, .int inputTokens, cost, false⟩

/-- The plugin hook of `record_cost`; `request_pipeline.py:1099–1118`. Of the plugins the local one
alone has a `record_tokens`, and what it raises is logged. -/
def pluginHook (book : PriceBook) (daily : DailyUsage) (call : RecordCostCall) (info : CostInfo) :
    DailyUsage :=
  match book.plugins.lookup call.provider with
  | some .free =>
    match addCounts info.promptTokens info.cacheMissTokens with
    | some prompt =>
      daily.recordTokens call.today call.model prompt info.completionTokens info.cacheHitTokens
        call.latencyMs
    | none => daily
  | _ => daily

/-- What a request leaves in the accumulator. A request whose cost or row cannot be written has
raised in front of the hook. -/
def recordCall (cfg : GatewayConfig) (book : PriceBook) (daily : DailyUsage)
    (call : RecordCostCall) : DailyUsage :=
  match call.costInfo cfg book with
  | none => daily
  | some info =>
    match recordCost call.profile call.model call.provider info call.success call.errorType
        call.toolsBlocked call.errorDetail with
    | none => daily
    | some _ => if call.success then pluginHook book daily call info else daily

/-! ## What the rows should say -/

namespace RecordCostCall

/-- The request succeeded, it was served locally, and its row was written. -/
def servedLocally (cfg : GatewayConfig) (book : PriceBook) (call : RecordCostCall) : Bool :=
  call.success && (match book.plugins.lookup call.provider with
    | some .free => true
    | _ => false) &&
  ((call.costInfo cfg book).bind fun info ↦
    recordCost call.profile call.model call.provider info call.success call.errorType
      call.toolsBlocked call.errorDetail).isSome

/-- The prompt tokens that were reported. -/
def promptTokens (call : RecordCostCall) : Nat :=
  match call.source with
  | .reported usage => (Accounting.reported usage "prompt_tokens").getD 0
  | .estimated _ _ => 0

/-- The completion tokens that were reported. -/
def completionTokens (call : RecordCostCall) : Nat :=
  match call.source with
  | .reported usage => (Accounting.reported usage "completion_tokens").getD 0
  | .estimated _ _ => 0

/-- The prompt tokens that are counted: what was reported, or the estimate. -/
def countedTokens (call : RecordCostCall) : Nat :=
  match call.source with
  | .reported _ => call.promptTokens
  | .estimated inputTokens _ => inputTokens

/-- The hits that were reported. -/
def hitTokens (book : PriceBook) (call : RecordCostCall) : Nat :=
  match call.source with
  | .reported usage => (reportedHits usage (book.cacheFields call.provider)).getD 0
  | .estimated _ _ => 0

/-- The misses that are counted: what was reported, what the hits leave of the prompt, or the
estimate. -/
def missTokens (book : PriceBook) (call : RecordCostCall) : Nat :=
  match call.source with
  | .reported usage => (Accounting.reported usage "prompt_cache_miss_tokens").getD
      (call.promptTokens - call.hitTokens book)
  | .estimated inputTokens _ => inputTokens

/-- The requests that were served locally. -/
abbrev localCalls (cfg : GatewayConfig) (book : PriceBook) (calls : List RecordCostCall) :
    List RecordCostCall :=
  calls.filter (servedLocally cfg book)

/-- The requests of a model on a day. -/
def ofCell (calls : List RecordCostCall) (day model : String) : List RecordCostCall :=
  calls.filter fun call ↦ (call.today, call.model) = (day, model)

end RecordCostCall

/-- Where what is served locally reports a usage, the counts in it are whole. -/
def ReportWhole (cfg : GatewayConfig) (book : PriceBook) (calls : List RecordCostCall) : Prop :=
  ∀ call ∈ calls, call.servedLocally cfg book = true → ∀ usage,
    call.source = .reported usage → WholeCounts (book.cacheFields call.provider) usage

/-- The rows account for the requests: one row for the requests of a model on a day, with the
tokens that were reported for them. -/
structure AccountsFor (startDate endDate : Option String) (calls : List RecordCostCall)
    (rows : List UsageRow) : Prop where
  once : (rows.map fun row ↦ (row.date, row.model)).Nodup
  covered : ∀ call ∈ calls, inRange startDate endDate call.today = true →
    ∃ row ∈ rows, row.date = call.today ∧ row.model = call.model
  prompt : ∀ row ∈ rows, row.promptTokens =
    .int (((RecordCostCall.ofCell calls row.date row.model).map
      RecordCostCall.promptTokens).sum : Nat)
  completion : ∀ row ∈ rows, row.completionTokens =
    .int (((RecordCostCall.ofCell calls row.date row.model).map
      RecordCostCall.completionTokens).sum : Nat)

/-! ## What they say -/

/-- Integers are added. -/
@[simp] theorem addCounts_int (a b : Int) : addCounts (.int a) (.int b) = some (.int (a + b)) := rfl

section Run

variable {cfg : GatewayConfig} {book : PriceBook}

/-- The counts of an entry after a request of whole counts. -/
def UsageEntry.served (book : PriceBook) (entry : UsageEntry) (call : RecordCostCall) :
    UsageEntry :=
  entry.add (.int ((call.countedTokens + call.missTokens book : Nat)))
    (.int (call.completionTokens : Nat)) (call.hitTokens book : Nat) call.latencyMs

/-- The counts of the `cost_info` of a call. -/
theorem tokens_of_costInfo {call : RecordCostCall} {info : CostInfo}
    (hwhole : ∀ usage, call.source = .reported usage →
      WholeCounts (book.cacheFields call.provider) usage)
    (hinfo : call.costInfo cfg book = some info) :
    info.promptTokens = .int (call.countedTokens : Nat) ∧
      info.completionTokens = .int (call.completionTokens : Nat) ∧
      info.cacheHitTokens = (call.hitTokens book : Nat) ∧
      info.cacheMissTokens = .int (call.missTokens book : Nat) := by
  unfold RecordCostCall.costInfo at hinfo
  unfold RecordCostCall.countedTokens RecordCostCall.completionTokens RecordCostCall.missTokens
    RecordCostCall.hitTokens RecordCostCall.promptTokens
  cases hsource : call.source with
  | reported usage =>
    rw [hsource] at hinfo
    exact tokens_of_calculateCost (hwhole usage hsource) hinfo
  | estimated inputTokens cost =>
    rw [hsource] at hinfo
    obtain rfl := Option.some.inj hinfo
    exact ⟨rfl, rfl, rfl, rfl⟩

/-- What is counted covers what was reported. -/
theorem promptTokens_le_countedTokens (call : RecordCostCall) :
    call.promptTokens ≤ call.countedTokens := by
  unfold RecordCostCall.countedTokens
  cases hsource : call.source with
  | reported usage => exact le_rfl
  | estimated inputTokens cost =>
    unfold RecordCostCall.promptTokens
    rw [hsource]
    exact Nat.zero_le _

/-- Where no miss is counted, what is counted was reported. -/
theorem countedTokens_of_no_misses {call : RecordCostCall} (h : call.missTokens book = 0) :
    call.countedTokens = call.promptTokens := by
  unfold RecordCostCall.countedTokens
  cases hsource : call.source with
  | reported usage => rfl
  | estimated inputTokens cost =>
    unfold RecordCostCall.missTokens at h
    unfold RecordCostCall.promptTokens
    rw [hsource] at h ⊢
    exact h

/-- What is counted for requests, with the misses once more, is what was reported for them exactly
when no miss is counted. -/
theorem sum_countedTokens_iff (book : PriceBook) (own : List RecordCostCall) :
    (own.map RecordCostCall.countedTokens).sum + (own.map (RecordCostCall.missTokens book)).sum =
        (own.map RecordCostCall.promptTokens).sum ↔
      ∀ call ∈ own, call.missTokens book = 0 := by
  have hle : (own.map RecordCostCall.promptTokens).sum ≤
      (own.map RecordCostCall.countedTokens).sum :=
    List.sum_le_sum fun call _ ↦ promptTokens_le_countedTokens call
  constructor
  · intro hsum call hcall
    have hzero : (own.map (RecordCostCall.missTokens book)).sum = 0 := by omega
    exact List.sum_eq_zero_iff_forall_eq_nat.mp hzero _
      (List.mem_map_of_mem (f := RecordCostCall.missTokens book) hcall)
  · intro hmisses
    have hzero : (own.map (RecordCostCall.missTokens book)).sum = 0 :=
      List.sum_eq_zero_iff_forall_eq_nat.mpr (List.forall_mem_map.mpr hmisses)
    rw [hzero, Nat.add_zero, List.map_congr_left fun call hcall ↦
      countedTokens_of_no_misses (hmisses call hcall)]

/-- A request that is not served locally leaves the accumulator alone. -/
theorem recordCall_of_not_servedLocally (daily : DailyUsage) {call : RecordCostCall}
    (h : call.servedLocally cfg book = false) : recordCall cfg book daily call = daily := by
  unfold recordCall
  cases hinfo : call.costInfo cfg book with
  | none => rfl
  | some info =>
    dsimp only
    cases hrow : recordCost call.profile call.model call.provider info call.success call.errorType
      call.toolsBlocked call.errorDetail with
    | none => rfl
    | some row =>
      cases hsuccess : call.success with
      | false => rfl
      | true =>
        rw [hsuccess] at hrow
        simp only [RecordCostCall.servedLocally, hsuccess, hinfo, Option.bind_some, hrow,
          Option.isSome_some, Bool.true_and, Bool.and_true] at h
        simp only [if_true, pluginHook]
        split at h
        · cases h
        · rfl

/-- A request of whole counts that is served locally is added to its cell. -/
theorem recordCall_of_servedLocally (daily : DailyUsage) {call : RecordCostCall}
    (h : call.servedLocally cfg book = true)
    (hwhole : ∀ usage, call.source = .reported usage →
      WholeCounts (book.cacheFields call.provider) usage) :
    recordCall cfg book daily call = daily.setIn call.today call.model
      (((daily.getIn call.today call.model).getD UsageEntry.zero).served book call) := by
  unfold RecordCostCall.servedLocally at h
  simp only [Bool.and_eq_true] at h
  obtain ⟨⟨hsuccess, hplugin⟩, hrow⟩ := h
  obtain ⟨row, hrow⟩ := Option.isSome_iff_exists.mp hrow
  obtain ⟨info, hinfo, hrow⟩ := Option.bind_eq_some_iff.mp hrow
  have hfree : book.plugins.lookup call.provider = some .free := by
    split at hplugin
    · assumption
    · cases hplugin
  obtain ⟨hprompt, hcompletion, hhit, hmiss⟩ := tokens_of_costInfo hwhole hinfo
  unfold recordCall
  rw [hinfo]
  dsimp only
  rw [hrow]
  dsimp only
  rw [if_pos hsuccess, pluginHook, hfree]
  dsimp only
  rw [hprompt, hmiss, hcompletion, hhit, addCounts_int]
  rfl

/-- A run adds the requests that are served locally to their cells. -/
theorem foldl_recordCall {calls : List RecordCostCall}
    (hwhole : ReportWhole cfg book calls) (daily : DailyUsage) :
    calls.foldl (recordCall cfg book) daily =
      (RecordCostCall.localCalls cfg book calls).foldl (fun daily call ↦
        daily.setIn call.today call.model
          (((daily.getIn call.today call.model).getD UsageEntry.zero).served book call)) daily := by
  induction calls generalizing daily with
  | nil => rfl
  | cons call rest ih =>
    obtain ⟨hcall, hrest⟩ := List.forall_mem_cons.mp hwhole
    rw [List.foldl_cons, ih hrest]
    cases hserved : call.servedLocally cfg book with
    | false =>
      unfold RecordCostCall.localCalls
      rw [recordCall_of_not_servedLocally daily hserved,
        List.filter_cons_of_neg (by simp [hserved])]
    | true =>
      unfold RecordCostCall.localCalls
      rw [recordCall_of_servedLocally daily hserved (hcall hserved),
        List.filter_cons_of_pos hserved, List.foldl_cons]

/-- After a run a cell has an entry when one of the requests is its own, and the entry is made of
these. -/
theorem getIn_run {calls : List RecordCostCall}
    (hwhole : ReportWhole cfg book calls) (day model : String)
    (entry : UsageEntry) :
    (calls.foldl (recordCall cfg book) Dict.empty).getIn day model = some entry ↔
      RecordCostCall.ofCell (RecordCostCall.localCalls cfg book calls) day model ≠ [] ∧
        entry = (RecordCostCall.ofCell (RecordCostCall.localCalls cfg book calls) day
          model).foldl (UsageEntry.served book) UsageEntry.zero := by
  have hstep : ∀ (daily : DailyUsage) (call : RecordCostCall) (cell : String × String),
      (daily.setIn call.today call.model
        (((daily.getIn call.today call.model).getD UsageEntry.zero).served book call)).getIn
          cell.1 cell.2 =
        if (call.today, call.model) = cell then
          some (((daily.getIn cell.1 cell.2).getD UsageEntry.zero).served book call)
        else daily.getIn cell.1 cell.2 := by
    rintro daily call ⟨day, model⟩
    rw [Dict.getIn_setIn]
    split
    · next hcell =>
      obtain ⟨rfl, rfl⟩ := Prod.mk.inj hcell
      rfl
    · rfl
  have hfold := foldl_observe (fun (daily : DailyUsage) (cell : String × String) ↦
    daily.getIn cell.1 cell.2) (fun call : RecordCostCall ↦ (call.today, call.model))
    (fun found call ↦ some ((found.getD UsageEntry.zero).served book call)) hstep
    (RecordCostCall.localCalls cfg book calls) Dict.empty (day, model)
  dsimp only at hfold
  rw [foldl_recordCall hwhole, hfold, Dict.getIn_empty, foldl_setdefault, RecordCostCall.ofCell]
  split
  · next hnil => exact ⟨nofun, fun h ↦ absurd hnil h.1⟩
  · next hne =>
    exact ⟨fun h ↦ ⟨hne, (Option.some.inj h).symm⟩, fun h ↦ congrArg some h.2.symm⟩

/-- The tokens of an entry are those counted for its requests, and the misses once more. -/
theorem tokens_foldl_served (book : PriceBook) (calls : List RecordCostCall) (entry : UsageEntry)
    (prompt completion : Nat) (hprompt : entry.promptTokens = .int prompt)
    (hcompletion : entry.completionTokens = .int completion) :
    (calls.foldl (UsageEntry.served book) entry).promptTokens =
        .int ((prompt + (calls.map RecordCostCall.countedTokens).sum +
          (calls.map (RecordCostCall.missTokens book)).sum : Nat)) ∧
      (calls.foldl (UsageEntry.served book) entry).completionTokens =
        .int ((completion + (calls.map RecordCostCall.completionTokens).sum : Nat)) := by
  induction calls generalizing entry prompt completion with
  | nil => exact ⟨hprompt, hcompletion⟩
  | cons call rest ih =>
    have hserved : (entry.served book call).promptTokens =
          .int ((prompt + (call.countedTokens + call.missTokens book) : Nat)) ∧
        (entry.served book call).completionTokens =
          .int ((completion + call.completionTokens : Nat)) := by
      unfold UsageEntry.served UsageEntry.add
      rw [hprompt, hcompletion]
      exact ⟨rfl, rfl⟩
    obtain ⟨hrest, hrest'⟩ := ih _ _ _ hserved.1 hserved.2
    rw [List.foldl_cons, hrest, hrest']
    simp only [List.map_cons, List.sum_cons]
    constructor <;> congr 2 <;> omega

/-- The tokens of an entry that is made of requests. -/
theorem tokens_of_requests (book : PriceBook) (own : List RecordCostCall) :
    (own.foldl (UsageEntry.served book) UsageEntry.zero).promptTokens =
        .int ((own.map RecordCostCall.countedTokens).sum +
          (own.map (RecordCostCall.missTokens book)).sum : Nat) ∧
      (own.foldl (UsageEntry.served book) UsageEntry.zero).completionTokens =
        .int ((own.map RecordCostCall.completionTokens).sum : Nat) := by
  obtain ⟨hprompt, hcompletion⟩ := tokens_foldl_served book own UsageEntry.zero 0 0 rfl rfl
  rw [hprompt, hcompletion, Nat.zero_add, Nat.zero_add]
  exact ⟨rfl, rfl⟩

end Run

/-! ## What is fetched -/

section Fetched

variable {daily : DailyUsage} {startDate endDate : Option String} {rows : List UsageRow}

/-- The days that are not skipped. -/
theorem mem_days_iff (daily : DailyUsage) (startDate endDate : Option String)
    (e : String × Dict String UsageEntry) :
    e ∈ (daily.entries.insertionSort fun a b ↦ a.1 ≤ b.1).filter
        (fun e ↦ inRange startDate endDate e.1) ↔
      e ∈ daily.entries ∧ inRange startDate endDate e.1 = true := by
  rw [List.mem_filter, List.mem_insertionSort]

/-- The row of an entry keeps its day and its model. -/
theorem usageRow_eq_some {cell : String × String × UsageEntry} {row : UsageRow}
    (h : usageRow cell = some row) :
    cell = (row.date, row.model, cell.2.2) ∧ row.promptTokens = cell.2.2.promptTokens ∧
      row.completionTokens = cell.2.2.completionTokens := by
  obtain ⟨total, -, rfl⟩ := Option.map_eq_some_iff.mp h
  exact ⟨rfl, rfl, rfl⟩

/-- An entry whose counts can be added has a row. -/
theorem isSome_usageRow (day model : String) {entry : UsageEntry}
    (h : (addCounts entry.promptTokens entry.completionTokens).isSome = true) :
    (usageRow (day, model, entry)).isSome = true := by
  rw [usageRow, Option.isSome_map]
  exact h

/-- The rows are those of the cells in range. -/
theorem mem_fetchUsage_iff (h : daily.fetchUsage startDate endDate = some rows) (row : UsageRow) :
    row ∈ rows ↔ ∃ entry, daily.getIn row.date row.model = some entry ∧
      inRange startDate endDate row.date = true ∧
      usageRow (row.date, row.model, entry) = some row := by
  have hcells := Dict.mem_cells_iff (p := fun day ↦ inRange startDate endDate day = true)
    (mem_days_iff daily startDate endDate)
  rw [mem_mapM_iff h]
  constructor
  · rintro ⟨cell, hcell, hrow⟩
    obtain ⟨hkeys, -⟩ := usageRow_eq_some hrow
    rw [hkeys] at hcell hrow
    obtain ⟨hentry, hrange⟩ := (hcells row.date row.model cell.2.2).mp hcell
    exact ⟨cell.2.2, hentry, hrange, hrow⟩
  · rintro ⟨entry, hentry, hrange, hrow⟩
    exact ⟨_, (hcells _ _ _).mpr ⟨hentry, hrange⟩, hrow⟩

/-- A day and a model have one row. -/
theorem nodup_fetchUsage (h : daily.fetchUsage startDate endDate = some rows) :
    (rows.map fun row ↦ (row.date, row.model)).Nodup := by
  have hkeys : ∀ cell row, usageRow cell = some row → (row.date, row.model) = (cell.1, cell.2.1) :=
    fun cell row hrow ↦ by rw [(usageRow_eq_some hrow).1]
  rw [map_eq_of_mapM hkeys h]
  apply Dict.nodup_cells
  have hsorted := (List.perm_insertionSort (fun a b ↦ a.1 ≤ b.1) daily.entries).map Prod.fst
  exact (List.filter_sublist.map Prod.fst).nodup (hsorted.nodup_iff.mpr daily.nodup)

/-- Rows are fetched when the counts of every entry can be added. -/
theorem isSome_fetchUsage (startDate endDate : Option String)
    (h : ∀ day model entry, daily.getIn day model = some entry →
      (addCounts entry.promptTokens entry.completionTokens).isSome = true) :
    (daily.fetchUsage startDate endDate).isSome = true := by
  rw [DailyUsage.fetchUsage, isSome_mapM_iff]
  rintro ⟨day, model, entry⟩ hcell
  obtain ⟨hentry, -⟩ := (Dict.mem_cells_iff (p := fun day ↦ inRange startDate endDate day = true)
    (mem_days_iff daily startDate endDate) day model entry).mp hcell
  exact isSome_usageRow day model (h day model entry hentry)

end Fetched

section Accounts

variable {cfg : GatewayConfig} {book : PriceBook} {calls : List RecordCostCall}
  (startDate endDate : Option String)

/-- The rows of a run: one for the requests of a model on a day, with the tokens counted for these
requests and their misses once more. -/
theorem fetchUsage_run (hwhole : ReportWhole cfg book calls) :
    ∃ rows, (calls.foldl (recordCall cfg book) Dict.empty).fetchUsage startDate endDate =
        some rows ∧
      (rows.map fun row ↦ (row.date, row.model)).Nodup ∧
      (∀ call ∈ RecordCostCall.localCalls cfg book calls,
        inRange startDate endDate call.today = true →
          ∃ row ∈ rows, row.date = call.today ∧ row.model = call.model) ∧
      ∀ row ∈ rows, inRange startDate endDate row.date = true ∧
        row.promptTokens = .int (((RecordCostCall.ofCell
          (RecordCostCall.localCalls cfg book calls) row.date row.model).map
            RecordCostCall.countedTokens).sum + ((RecordCostCall.ofCell
          (RecordCostCall.localCalls cfg book calls) row.date row.model).map
            (RecordCostCall.missTokens book)).sum : Nat) ∧
        row.completionTokens = .int (((RecordCostCall.ofCell
          (RecordCostCall.localCalls cfg book calls) row.date row.model).map
            RecordCostCall.completionTokens).sum : Nat) := by
  have hadds : ∀ day model entry,
      (calls.foldl (recordCall cfg book) Dict.empty).getIn day model = some entry →
        (addCounts entry.promptTokens entry.completionTokens).isSome = true := by
    intro day model entry hentry
    obtain ⟨-, rfl⟩ := (getIn_run hwhole day model entry).mp hentry
    rw [(tokens_of_requests book _).1, (tokens_of_requests book _).2]
    rfl
  obtain ⟨rows, hrows⟩ := Option.isSome_iff_exists.mp (isSome_fetchUsage startDate endDate hadds)
  refine ⟨rows, hrows, nodup_fetchUsage hrows, fun call hcall hrange ↦ ?_, fun row hrow ↦ ?_⟩
  · have hown : call ∈ RecordCostCall.ofCell
        (RecordCostCall.localCalls cfg book calls) call.today call.model :=
      List.mem_filter.mpr ⟨hcall, by simp⟩
    have hentry := (getIn_run hwhole call.today call.model _).mpr
      ⟨List.ne_nil_of_mem hown, rfl⟩
    obtain ⟨row, hrow⟩ := Option.isSome_iff_exists.mp
      (isSome_usageRow call.today call.model (hadds _ _ _ hentry))
    obtain ⟨hdate, hmodel⟩ : call.today = row.date ∧ call.model = row.model := by
      obtain ⟨hkeys, -⟩ := usageRow_eq_some hrow
      exact ⟨congrArg Prod.fst hkeys, congrArg (fun cell ↦ cell.2.1) hkeys⟩
    rw [hdate, hmodel] at hentry hrow
    exact ⟨row, (mem_fetchUsage_iff hrows row).mpr ⟨_, hentry, hdate ▸ hrange, hrow⟩,
      hdate.symm, hmodel.symm⟩
  · obtain ⟨entry, hentry, hrange, hmade⟩ := (mem_fetchUsage_iff hrows row).mp hrow
    obtain ⟨-, hprompt, hcompletion⟩ := usageRow_eq_some hmade
    obtain ⟨-, rfl⟩ := (getIn_run hwhole row.date row.model entry).mp hentry
    obtain ⟨hprompts, hcompletions⟩ := tokens_of_requests book (RecordCostCall.ofCell
      (RecordCostCall.localCalls cfg book calls) row.date row.model)
    exact ⟨hrange, hprompt.trans hprompts, hcompletion.trans hcompletions⟩

end Accounts

/-- Of requests with whole counts the rows account for those in range exactly when none of them
counts a miss. -/
theorem fetchUsage_accounts_iff (cfg : GatewayConfig) (book : PriceBook)
    (calls : List RecordCostCall) (startDate endDate : Option String)
    (hwhole : ReportWhole cfg book calls) :
    (∃ rows, (calls.foldl (recordCall cfg book) Dict.empty).fetchUsage startDate endDate =
        some rows ∧
      AccountsFor startDate endDate (RecordCostCall.localCalls cfg book calls) rows) ↔
    ∀ call ∈ RecordCostCall.localCalls cfg book calls,
      inRange startDate endDate call.today = true → call.missTokens book = 0 := by
  obtain ⟨rows, hrows, honce, hcovered, htokens⟩ := fetchUsage_run startDate endDate hwhole
  constructor
  · rintro ⟨rows', hrows', haccounts⟩ call hcall hrange
    obtain rfl : rows' = rows := Option.some.inj (hrows'.symm.trans hrows)
    obtain ⟨row, hrow, hdate, hmodel⟩ := hcovered call hcall hrange
    have hprompt := (htokens row hrow).2.1.symm.trans (haccounts.prompt row hrow)
    have hown : call ∈ RecordCostCall.ofCell
        (RecordCostCall.localCalls cfg book calls) row.date row.model :=
      List.mem_filter.mpr ⟨hcall, by simp [hdate, hmodel]⟩
    exact (sum_countedTokens_iff book _).mp (Int.ofNat.inj (Json.int.inj hprompt)) call hown
  · intro hmisses
    refine ⟨rows, hrows, honce, hcovered, fun row hrow ↦ ?_, fun row hrow ↦ (htokens row hrow).2.2⟩
    obtain ⟨hrange, hprompt, -⟩ := htokens row hrow
    rw [hprompt]
    congr 2
    apply (sum_countedTokens_iff book _).mpr
    intro call hcall
    obtain ⟨hserved, hcell⟩ := List.mem_filter.mp hcall
    obtain ⟨hdate, -⟩ := Prod.mk.inj (of_decide_eq_true hcell)
    exact hmisses call hserved (hdate ▸ hrange)

/-- The local plugin alone. -/
def localBook : PriceBook := ⟨[("llamacpp", llamaCppCostPlugin)], [], Dict.empty⟩

/-- An answered request of the local model. -/
def localCall (usage : Json) : RecordCostCall :=
  ⟨"2026-01-01", ⟨0, 0⟩, "default", "llamacpp", "qwen", .reported usage, 12, true, none, [], none⟩

/-- A report of 100 prompt tokens, all found in the cache. -/
def warmReport : Json :=
  .obj [("prompt_tokens", .int 100), ("completion_tokens", .int 50),
    ("prompt_cache_hit_tokens", .int 100)]

/-- A report of 100 prompt tokens without cache fields. -/
def coldReport : Json := .obj [("prompt_tokens", .int 100), ("completion_tokens", .int 50)]

/-- A prompt that is found in the cache is accounted for. -/
theorem accountsFor_warmReport :
    ∃ rows, ([localCall warmReport].foldl (recordCall plainConfig localBook)
        Dict.empty).fetchUsage none none = some rows ∧
      AccountsFor none none (RecordCostCall.localCalls plainConfig localBook
        [localCall warmReport]) rows := by
  apply (fetchUsage_accounts_iff plainConfig localBook [localCall warmReport] none none ?_).mpr
  · intro call hcall _
    obtain rfl := List.mem_singleton.mp (List.mem_of_mem_filter hcall)
    have hhits : reportedHits warmReport (localBook.cacheFields "llamacpp") = some 100 := by
      change reportedHits warmReport cacheHitFields = some 100
      rw [reportedHits, cacheHitFields, List.findSome?_cons, splitPath_cacheHitFields.1]
      rfl
    change (reported warmReport "prompt_cache_miss_tokens").getD
      ((localCall warmReport).promptTokens -
        (reportedHits warmReport (localBook.cacheFields "llamacpp")).getD 0) = 0
    rw [hhits]
    rfl
  · intro call hcall _
    obtain rfl := List.mem_singleton.mp hcall
    rintro usage ⟨rfl⟩
    exact wholeCounts_of_flat rfl (.inr ⟨100, rfl⟩) (.inr ⟨50, rfl⟩) (.inl rfl) (.inr ⟨100, rfl⟩)
      rfl (.inl rfl)

/-- A prompt without cache fields is reported twice. -/
theorem not_accountsFor_coldReport :
    ¬ ∃ rows, ([localCall coldReport].foldl (recordCall plainConfig localBook)
        Dict.empty).fetchUsage none none = some rows ∧
      AccountsFor none none (RecordCostCall.localCalls plainConfig localBook
        [localCall coldReport]) rows := by
  have hserved : (localCall coldReport).servedLocally plainConfig localBook = true := by
    decide +kernel
  have hrows : ([localCall coldReport].foldl (recordCall plainConfig localBook)
      Dict.empty).fetchUsage none none = some [⟨"2026-01-01", "qwen", "llamacpp", .int 200,
        .int 50, 0, .int 200, .fin 0, 1, 12, .int 250⟩] := by
    rfl
  rintro ⟨rows, hfetched, haccounts⟩
  obtain rfl := Option.some.inj (hfetched.symm.trans hrows)
  have hprompt := haccounts.prompt _ List.mem_cons_self
  simp only [RecordCostCall.localCalls, List.filter_cons_of_pos hserved] at hprompt
  exact absurd (Json.int.inj hprompt) (by decide)

end LcpGateway.Accounting
