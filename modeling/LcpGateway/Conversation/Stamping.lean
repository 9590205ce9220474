import LcpGateway.Base.Run

/-!
# Conversation ids on routing decisions

Library `Conversation`. Sources `src/api/work_conversations.py:344–372`,
`src/api/request_pipeline.py:1050–1097` and `src/api/router.py:684–717`. A request writes its
routing decisions while it is served and its own row at the end. The id of its conversation is
then written to every decision of its profile that has none and is less than half a minute away.
-/

namespace LcpGateway.Conversation
open LcpGateway.Base

variable {ι : Type} [DecidableEq ι]

/-- What a request to the gateway is known by: its profile, and the client's conversation
header when it sends one. -/
structure Served where
  profile : String
  conversationId : Option String

/-- A row of `routing_decisions`, with the request it was written during. -/
structure WrittenDecision (ι : Type) where
  ts : String
  profile : String
  conversationId : Option String
  writer : ι

/-- A row of `requests`, with the request it records. -/
structure RecordedRequest (ι : Type) where
  timestamp : String
  conversationId : Option String
  caller : ι

/-- The two tables, the newest row first. -/
structure Logs (ι : Type) where
  decisions : List (WrittenDecision ι)
  requests : List (RecordedRequest ι)

/-- No row is written. -/
def Logs.empty : Logs ι := ⟨[], []⟩

/-- What a request does to the tables; the steps of several requests come in any order, and one
that fails is left out. -/
inductive ServedEvent (ι : Type) where
  | decide (i : ι) (ts : String)
  | record (i : ι) (timestamp : String)
  | stamp (i : ι)

/-- `datetime(t) BETWEEN datetime(ts, '-… seconds') AND datetime(ts, '+… seconds')`, with SQLite's
`datetime` in whole seconds; a text that is no time compares with none. -/
def nearby (datetime : String → Option Int) (slack : Int) (ts t : String) : Bool :=
  (datetime t).any (fun a ↦ (datetime ts).any (fun b ↦ b - slack ≤ a ∧ a ≤ b + slack))

/-- The decision is one that the stamp of a request writes to; `work_conversations.py:364–367`. -/
def WrittenDecision.isStamped (datetime : String → Option Int) (profile ts : String)
    (d : WrittenDecision ι) : Bool :=
  d.conversationId.isNone && d.profile == profile && nearby datetime 30 ts d.ts

/-- The client's conversation id and the time of the row, of a request that is stamped:
`record_cost` has inserted its row and got a conversation id; `request_pipeline.py:1089–1093`. -/
def Logs.stamping (served : ι → Served) (s : Logs ι) (i : ι) : Option (String × String) :=
  ((served i).conversationId.filter (· ≠ "")).bind (fun cid ↦
    (s.requests.find? (fun r ↦ r.caller = i)).map (fun r ↦ (cid, r.timestamp)))

/-- `stamp_new`; `work_conversations.py:344–372`. -/
def Logs.stampNew (datetime : String → Option Int) (s : Logs ι) (i : ι) (profile : String)
    (stamping : String × String) : Logs ι where
  decisions := s.decisions.map (fun d ↦
    if d.isStamped datetime profile stamping.2 then { d with conversationId := some stamping.1 }
    else d)
  requests := s.requests.map (fun r ↦
    if r.caller = i ∧ r.conversationId = none then { r with conversationId := some stamping.1 }
    else r)

/-- The tables after one step of one request. -/
def logStep (datetime : String → Option Int) (served : ι → Served) (s : Logs ι) :
    ServedEvent ι → Logs ι
  | .decide i ts => { s with decisions := ⟨ts, (served i).profile, none, i⟩ :: s.decisions }
  | .record i timestamp => { s with requests := ⟨timestamp, none, i⟩ :: s.requests }
  | .stamp i =>
    match s.stamping served i with
    | some stamping => s.stampNew datetime i (served i).profile stamping
    | none => s

/-- Every decision with a conversation id has the id of the request it was written during. -/
def OwnIds (served : ι → Served) (s : Logs ι) : Prop :=
  ∀ d ∈ s.decisions, ∀ cid, d.conversationId = some cid →
    (served d.writer).conversationId = some cid

/-- A stamp finds no decision of a request of another conversation, or of none: one of its
profile, without an id and less than half a minute away. -/
def NoStranger (datetime : String → Option Int) (served : ι → Served) (s : Logs ι) :
    ServedEvent ι → Prop
  | .stamp i => ∀ cid ts, s.stamping served i = some (cid, ts) →
    ∀ d ∈ s.decisions, d.isStamped datetime (served i).profile ts = true →
      (served d.writer).conversationId = some cid
  | .decide _ _ => True
  | .record _ _ => True

/-- A step keeps every id right exactly when they were and it stamps no stranger's decision. -/
theorem ownIds_logStep_iff (datetime : String → Option Int) (served : ι → Served) (s : Logs ι)
    (event : ServedEvent ι) :
    OwnIds served (logStep datetime served s event) ↔
      OwnIds served s ∧ NoStranger datetime served s event := by
  cases event with
  | decide i ts =>
    rw [NoStranger, and_true, OwnIds, logStep, List.forall_mem_cons]
    exact and_iff_right (by simp)
  | record i timestamp => exact (and_iff_left trivial).symm
  | stamp i =>
    rw [logStep, NoStranger]
    cases hstamping : s.stamping served i with
    | none => simp
    | some stamping =>
      obtain ⟨cid, ts⟩ := stamping
      have hkept : ∀ d : WrittenDecision ι, ∀ c, d.conversationId = some c →
          d.isStamped datetime (served i).profile ts = false := by
        intro d c hc
        simp [WrittenDecision.isStamped, hc]
      simp only [OwnIds, Logs.stampNew, List.forall_mem_map]
      constructor
      · intro h
        refine ⟨fun d hd c hc ↦ ?_, fun cid' ts' heq d hd hstamped ↦ ?_⟩
        · have hd' := h d hd c
          rw [hkept d c hc] at hd'
          exact hd' hc
        · obtain ⟨rfl, rfl⟩ := Prod.mk.inj (Option.some.inj heq)
          have hd' := h d hd cid
          rw [if_pos hstamped] at hd'
          exact hd' rfl
      · rintro ⟨hown, hstranger⟩ d hd c hc
        by_cases hstamped : d.isStamped datetime (served i).profile ts = true
        · rw [if_pos hstamped] at hc ⊢
          obtain rfl := Option.some.inj hc
          exact hstranger cid ts rfl d hd hstamped
        · rw [if_neg hstamped] at hc ⊢
          exact hown d hd c hc

/-- At the end of any interleaving of requests every decision with a conversation id has the id of
the request it was written during, exactly when no stamp of the run found a stranger's decision. -/
theorem ownIds_run_iff (datetime : String → Option Int) (served : ι → Served)
    (events : List (ServedEvent ι)) :
    OwnIds served (run (logStep datetime served) Logs.empty events) ↔
      ∀ p ∈ steps (logStep datetime served) Logs.empty events,
        NoStranger datetime served p.1 p.2 := by
  rw [run_sound_iff (ownIds_logStep_iff datetime served), and_iff_right]
  simp [OwnIds, Logs.empty]

/-- Two conversations of one profile. -/
def twoConversations (first : Bool) : Served :=
  ⟨"hermes", some (if first then "session-1" else "session-2")⟩

/-- The seconds of two times. -/
def secondsOf : String → Option Int
  | "2026-10-01T12:00:05+00:00" => some 1790856005
  | "2026-10-01T12:00:10+00:00" => some 1790856010
  | _ => none

/-- The second request is routed shortly before the first one finishes: its decision gets the id of
the first one. -/
theorem stamp_takes_stranger :
    let events := [.decide false "2026-10-01T12:00:05+00:00",
      .record true "2026-10-01T12:00:10+00:00", .stamp true]
    (run (logStep secondsOf twoConversations) Logs.empty events).decisions.map
        (fun d ↦ (d.writer, d.conversationId)) = [(false, some "session-1")] ∧
      ¬ OwnIds twoConversations (run (logStep secondsOf twoConversations) Logs.empty events) := by
  refine ⟨by decide +kernel, fun h ↦ ?_⟩
  exact absurd (h _ List.mem_cons_self _ rfl) (by decide)

end LcpGateway.Conversation
