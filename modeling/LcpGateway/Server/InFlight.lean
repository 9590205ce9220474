import LcpGateway.Base.Dict
import LcpGateway.Base.Double
import LcpGateway.Base.LastWrite
import LcpGateway.Base.StableSort

/-!
# Requests in flight

Library `Server`. Source `src/api/inflight.py`. The handler threads register a request when it is
sent upstream and deregister it when it is over; the page of running requests sweeps the registry
and takes a snapshot. Each of these holds the lock, so that a history is a list of them in any
order. The times are those the callers have read before.
-/

namespace LcpGateway.Server.InFlight
open LcpGateway.Base

/-- A request that is under way, without its token; `inflight.py:53–63`. -/
structure Entry where
  profile : String
  model : String
  provider : String
  startedAt : Rat
  promptTokens : Int
  stream : Bool
  conversationId : Option String
  tools : Int
  deriving DecidableEq

/-- `_ENTRIES`. -/
abbrev Registry := Dict String Entry

/-- `MAX_AGE_S`. -/
def maxAgeS : Rat := 6 * 3600

/-- The entry of `begin`; `inflight.py:40–63`. -/
def entryOf (profile model provider : String) (now : Rat) (promptTokens : Int) (stream : Bool)
    (conversationId : Option String) (tools : Int) : Entry where
  profile := if profile = "" then "unknown" else profile
  model := if model = "" then "unknown" else model
  provider := if provider = "" then "unknown" else provider
  startedAt := now
  promptTokens := promptTokens
  stream := stream
  conversationId := conversationId
  tools := tools

/-- `begin`, behind the making of the token and the entry. -/
def begin (registry : Registry) (token : String) (entry : Entry) : Registry :=
  registry.set token entry

/-- `end`. -/
def finish (registry : Registry) (token : Option String) : Registry :=
  match token.filter (· ≠ "") with
  | none => registry
  | some token => registry.filterKeys (· ≠ token)

/-- An entry that a sweep drops. -/
def Entry.stale (entry : Entry) (now : Rat) : Bool := entry.startedAt < now - maxAgeS

/-- `sweep`. -/
def sweep (registry : Registry) (now : Rat) : Registry :=
  registry.filterKeys fun token ↦ !(registry.get? token).any (·.stale now)

/-- A row of a snapshot. -/
structure Row where
  id : String
  entry : Entry
  elapsed : Rat

/-- `round(now - v["started_at"], 1)`. -/
def Entry.elapsed (entry : Entry) (now : Rat) : Rat :=
  roundDigits 1 (toDouble (now - entry.startedAt))

/-- `snapshot`. -/
def snapshot (registry : Registry) (now : Rat) : List Row :=
  (registry.entries.map fun e ↦ ⟨e.1, e.2, e.2.elapsed now⟩).insertionSort
    fun a b ↦ b.elapsed ≤ a.elapsed

/-- `count`. -/
def count (registry : Registry) : Nat := registry.size

/-- What happens to the registry. -/
inductive Event where
  | begin (token : String) (entry : Entry)
  | finish (token : Option String)
  | sweep (now : Rat)

/-- One of the calls that hold the lock. -/
def step (registry : Registry) : Event → Registry
  | .begin token entry => InFlight.begin registry token entry
  | .finish token => InFlight.finish registry token
  | .sweep now => InFlight.sweep registry now

/-! ## What is registered -/

/-- The entry an event registers under a token. -/
def registers (token : String) : Event → Option Entry
  | .begin own entry => if own = token then some entry else none
  | _ => none

/-- The event leaves the entry of a token registered. -/
def Keeps (token : String) (entry : Entry) : Event → Prop
  | .begin own _ => own ≠ token
  | .finish own => own.filter (· ≠ "") ≠ some token
  | .sweep now => now - maxAgeS ≤ entry.startedAt

/-- The request was begun with this entry, and since then neither begun again nor ended nor
swept. -/
def UnderWay (events : List Event) (token : String) (entry : Entry) : Prop :=
  WrittenAndKept (registers token) (Keeps token) events entry

/-- The end of a request registers nothing. -/
@[simp] theorem registers_finish (token : String) (own : Option String) :
    registers token (.finish own) = none := rfl

/-- A sweep registers nothing. -/
@[simp] theorem registers_sweep (token : String) (now : Rat) :
    registers token (.sweep now) = none := rfl

/-- One call, on the entry of one token. -/
theorem get?_step_eq_some_iff (token : String) (registry : Registry) (event : Event)
    (entry : Entry) : (step registry event).get? token = some entry ↔
      registers token event = some entry ∨
        (registry.get? token = some entry ∧ registers token event = none ∧
          Keeps token entry event) := by
  cases event with
  | begin own other =>
    rw [step, InFlight.begin, Dict.get?_set, registers, Keeps]
    by_cases hown : own = token
    · simp [hown]
    · simp [hown]
  | finish own =>
    rw [step, InFlight.finish, Keeps]
    cases hown : own.filter (· ≠ "") with
    | none => simp
    | some own =>
      rw [Dict.get?_filterKeys]
      by_cases htoken : token = own
      · simp [htoken]
      · simp [htoken, Ne.symm htoken]
  | sweep now =>
    rw [step, InFlight.sweep, Dict.get?_filterKeys, Keeps]
    cases hentry : registry.get? token with
    | none => simp
    | some own =>
      simp only [Option.any_some, Entry.stale, registers_sweep, Option.some.injEq, true_and,
        reduceCtorEq, false_or]
      by_cases hstale : own.startedAt < now - maxAgeS
      · have hdropped : ∀ entry, own = entry → ¬ now - maxAgeS ≤ entry.startedAt := by
          rintro entry rfl
          exact not_le.mpr hstale
        simpa [hstale] using hdropped entry
      · have hkept : ∀ entry, own = entry → now - maxAgeS ≤ entry.startedAt := by
          rintro entry rfl
          exact not_lt.mp hstale
        simpa [hstale] using hkept entry

/-- What is registered is what is under way. -/
theorem get?_run_eq_some_iff (events : List Event) (token : String) (entry : Entry) :
    (run step Dict.empty events).get? token = some entry ↔ UnderWay events token entry := by
  have hwrites : ∀ (entry : Entry) (event : Event), registers token event ≠ none →
      ¬ Keeps token entry event := by
    intro entry event hregisters hkeeps
    cases event with
    | begin own other => exact hregisters (if_neg hkeeps)
    | finish own => exact hregisters rfl
    | sweep now => exact hregisters rfl
  have hrun := obs_run_eq_some_iff (fun registry : Registry ↦ registry.get? token)
    (get?_step_eq_some_iff token) hwrites Dict.empty events entry
  simpa [UnderWay] using hrun

/-! ## The page of running requests -/

/-- In any history of the handler threads, a snapshot has exactly one row for every request that is
under way, with its entry and the time it has taken. -/
theorem snapshot_iff (events : List Event) (now : Rat) :
    (∀ row : Row, row ∈ snapshot (run step Dict.empty events) now ↔
      UnderWay events row.id row.entry ∧ row.elapsed = row.entry.elapsed now) ∧
    ((snapshot (run step Dict.empty events) now).map Row.id).Nodup := by
  constructor
  · rintro ⟨id, entry, elapsed⟩
    rw [snapshot, List.mem_insertionSort, List.mem_map, ← get?_run_eq_some_iff,
      ← Dict.mem_entries_iff]
    constructor
    · rintro ⟨e, he, heq⟩
      cases heq
      exact ⟨he, rfl⟩
    · rintro ⟨he, helapsed⟩
      exact ⟨(id, entry), he, congrArg (Row.mk id entry) helapsed.symm⟩
  · have hperm := (List.perm_insertionSort (fun a b : Row ↦ b.elapsed ≤ a.elapsed)
      ((run step Dict.empty events).entries.map fun e ↦ ⟨e.1, e.2, e.2.elapsed now⟩)).map Row.id
    rw [snapshot, hperm.nodup_iff, List.map_map]
    exact (run step Dict.empty events).nodup

/-- A request that has run longer shows a time that is not shorter. -/
theorem elapsed_anti {a b : Entry} {now : Rat} (hab : a.startedAt ≤ b.startedAt)
    (hb : b.startedAt ≤ now) : b.elapsed now ≤ a.elapsed now :=
  roundDigits_mono 1 (toDouble_mono (sub_nonneg.mpr hb) (sub_le_sub_left hab now))

/-- Of two requests that began at times that have come, the one that began later is shown behind the
other, unless both show the same time. -/
theorem snapshot_order (events : List Event) (now : Rat) {a b : Row}
    (hpair : [a, b].Sublist (snapshot (run step Dict.empty events) now))
    (ha : a.entry.startedAt ≤ now) :
    a.entry.startedAt ≤ b.entry.startedAt ∨ a.elapsed = b.elapsed := by
  have hrows := (snapshot_iff events now).1
  have hsorted : (snapshot (run step Dict.empty events) now).Pairwise
      fun a b ↦ b.elapsed ≤ a.elapsed := List.pairwise_insertionSort _ _
  have hle : b.elapsed ≤ a.elapsed := List.pairwise_iff_forall_sublist.mp hsorted hpair
  have helapsed : ∀ row ∈ [a, b], row.elapsed = row.entry.elapsed now :=
    fun row hrow ↦ ((hrows row).mp (hpair.subset hrow)).2
  by_contra hnot
  rw [not_or, not_le] at hnot
  have hge := elapsed_anti hnot.1.le ha
  rw [← helapsed a (by simp), ← helapsed b (by simp)] at hge
  exact hnot.2 (le_antisymm hge hle)

/-- A request of one profile, by the time it began. -/
def sampleEntry (startedAt : Rat) : Entry := entryOf "pi" "" "deepseek" startedAt 12 true none 0

-- the request that began later is shown behind the other
theorem snapshot_order_two :
    let first : Row := ⟨"a", sampleEntry 1, (sampleEntry 1).elapsed 10⟩
    let later : Row := ⟨"b", sampleEntry 7, (sampleEntry 7).elapsed 10⟩
    first.entry.startedAt ≤ later.entry.startedAt ∨ first.elapsed = later.elapsed := by
  intro first later
  let events : List Event := [.begin "a" (sampleEntry 1), .begin "b" (sampleEntry 7)]
  have hpair : [first, later].Sublist (snapshot (run step Dict.empty events) 10) := by
    have hentries : (run step Dict.empty events).entries =
        [("a", sampleEntry 1), ("b", sampleEntry 7)] := rfl
    have hle : later.elapsed ≤ first.elapsed :=
      elapsed_anti (show (1 : Rat) ≤ 7 by decide) (show (7 : Rat) ≤ 10 by decide)
    have hsorted : [first, later].Pairwise fun a b ↦ b.elapsed ≤ a.elapsed :=
      List.pairwise_pair.mpr hle
    rw [snapshot, hentries]
    exact (hsorted.insertionSort_eq).symm ▸ List.Sublist.refl _
  exact snapshot_order events 10 hpair (show (1 : Rat) ≤ 10 by decide)

end LcpGateway.Server.InFlight
