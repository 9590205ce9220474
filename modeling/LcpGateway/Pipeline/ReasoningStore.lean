import LcpGateway.Base.Dict
import LcpGateway.Base.Object
import LcpGateway.Base.Run
import LcpGateway.Chat.Reasoning
import LcpGateway.Server.Sse
import Mathlib.Algebra.Order.Ring.Rat
import Mathlib.Data.List.Sort

/-!
# The reasoning store

Library `Pipeline`. Source `src/api/reasoning_store.py` and
`src/api/request_pipeline.py:228–333`. One map of the process keeps the reasoning of tool calls
by id, and the last response with an id overwrites it. What is stored carries the source of the
response here, which no operation reads: the code's own store is the one with sources of one
value. The JSON decoder is a given function; ids and reasonings that are no text are left out.
-/

namespace LcpGateway.Pipeline
open LcpGateway.Base LcpGateway.Chat LcpGateway.Config LcpGateway.Server

/-- A stored reasoning, and whose response it was captured from. -/
structure Captured (σ : Type) where
  content : String
  storedAt : Rat
  source : σ

/-- `ReasoningStore`; `_by_tool_call_id` and `_stored_at` always have the same keys. -/
structure ReasoningStore (σ : Type) where
  entries : Dict String (Captured σ)
  ttl : Rat
  maxEntries : Nat

namespace ReasoningStore

variable {σ : Type} (store : ReasoningStore σ)

/-- `_forget`; `reasoning_store.py:102–104`. -/
def forget (id : String) : ReasoningStore σ :=
  { store with entries := store.entries.filterKeys (· ≠ id) }

/-- The ids `_prune` drops for space: the oldest ones; `reasoning_store.py:115–119`. -/
def oldest : List String :=
  ((store.entries.entries.insertionSort (fun a b ↦ a.2.storedAt ≤ b.2.storedAt)).map
    Prod.fst).take (store.entries.size - store.maxEntries)

/-- `_prune`; `reasoning_store.py:106–121`. -/
def prune (now : Rat) : ReasoningStore σ :=
  let alive := { store with
    entries := store.entries.filterKeys (fun id ↦
      (store.entries.get? id).any (fun e : Captured σ ↦ now - e.storedAt ≤ store.ttl)) }
  { alive with entries := alive.entries.filterKeys (· ∉ alive.oldest) }

/-- `capture`, the clock read once for the entries and once for the pruning;
`reasoning_store.py:39–58`. -/
def capture (ids : List String) (reasoning : String) (source : σ) (now pruned : Rat) :
    ReasoningStore σ :=
  if ids = [] then store else
    prune { store with
      entries := ids.foldl (fun entries id ↦
        if id = "" then entries else entries.set id ⟨reasoning, now, source⟩) store.entries } pruned

/-- `get_for_tool_call_id`; `reasoning_store.py:60–73`. -/
def getForToolCallId (id : String) (now : Rat) : ReasoningStore σ × Option (Captured σ) :=
  match store.entries.get? id with
  | none => (store, none)
  | some entry => if store.ttl < now - entry.storedAt then (store.forget id, none)
      else (store, some entry)

/-- The lookups for one message: the first one that finds a text; `reasoning_store.py:87–99`. -/
def recallCalls (store : ReasoningStore σ) (clock : Nat → Rat) :
    List ToolCall → ReasoningStore σ × Option (Captured σ)
  | [] => (store, none)
  | tc :: rest =>
    match tc.tcId with
    | none => recallCalls store (fun i ↦ clock (i + 1)) rest
    | some id =>
      let (store, found) := store.getForToolCallId id (clock 0)
      match found.filter (·.content ≠ "") with
      | some entry => (store, some entry)
      | none => recallCalls store (fun i ↦ clock (i + 1)) rest

/-- The loop body of `rehydrate`, with what was attached; `reasoning_store.py:82–99`. -/
def rehydrateOne (store : ReasoningStore σ) (clock : Nat → Rat) (msg : Message) :
    ReasoningStore σ × Message × Option (Captured σ) :=
  if !msg.isToolTurn || msg.reasoningContent.present then (store, msg, none) else
    let (store, found) := store.recallCalls clock msg.calls
    match found with
    | some entry => (store, { msg with reasoningContent := .value entry.content }, some entry)
    | none => (store, msg, none)

/-- `rehydrate`; `reasoning_store.py:75–100`. -/
def rehydrate (store : ReasoningStore σ) (clock : Nat → Nat → Rat) :
    List Message → ReasoningStore σ × List (Message × Option (Captured σ))
  | [] => (store, [])
  | msg :: rest =>
    let (store, filled) := store.rehydrateOne (clock 0) msg
    let (store, others) := rehydrate store (fun i ↦ clock (i + 1)) rest
    (store, filled :: others)

end ReasoningStore

/-! ### What is captured -/

/-- `tc.get("id", tc.get("tool_call_id"))` when it is a text; no result is an exception. -/
def callId (tc : Json) : Option (Option String) :=
  if !tc.isObj then none else
    some (((tc.get? "id").getD ((tc.get? "tool_call_id").getD .null)).text?.filter (· ≠ ""))

/-- The ids of `tool_calls or []`. -/
def callIds (calls : Option Json) : Option (List String) := do
  let items ← ((calls.getD .null).orElse (.arr [])).iterate
  let ids ← items.mapM callId
  return ids.reduceOption

/-- A reasoning that is a text. -/
def reasoningText (v : Option Json) : Option String := (v.bind Json.text?).filter (· ≠ "")

/-- `response_body.get("choices", [{}])[0].get("message", {})`. -/
def firstMessage (body : Fields) : Option Json :=
  match (body.lookup "choices").getD (.arr [.obj []]) with
  | .arr (first :: _) => if first.isObj then some ((first.get? "message").getD (.obj [])) else none
  | _ => none

/-- What `capture_reasoning_from_response` stores; `request_pipeline.py:236–246`. -/
def captureOfResponse (body : Fields) : Option (List String × String) := do
  let message ← firstMessage body
  if !message.isObj then none else
    let ids ← callIds (message.get? "tool_calls")
    let reasoning ← reasoningText (message.get? "reasoning_content")
    if ids = [] then none else some (ids, reasoning)

/-- The reasoning and the ids of one choice of a chunk; `request_pipeline.py:269–277`. -/
def deltaOf (choice : Json) : Option (List String × List String) :=
  if !choice.isObj then none else
    let delta := ((choice.get? "delta").getD .null).orElse (.obj [])
    if !delta.isObj then none else do
      let ids ← callIds (delta.get? "tool_calls")
      let reasoning := (delta.get? "reasoning_content").getD .null
      match reasoning with
      | .str text => some (if text = "" then [] else [text], ids)
      -- a truthy value that is no text makes the final join fail
      | other => if other.truthy then none else some ([], ids)

/-- One decoded chunk. -/
def chunkDeltas (chunk : Json) : Option (List String × List String) :=
  if !chunk.isObj then none else do
    let choices ← ((chunk.get? "choices").getD (.arr [])).iterate
    let deltas ← choices.mapM deltaOf
    return (deltas.flatMap Prod.fst, deltas.flatMap Prod.snd)

/-- What `capture_reasoning_from_sse` stores; `request_pipeline.py:258–284`. -/
def captureOfSse (loads : String → Loads) (text : String) : Option (List String × String) := do
  let chunks := (dataTexts text).filterMap (fun data ↦ (loads data).toOption)
  let deltas ← chunks.mapM chunkDeltas
  let reasoning := deltas.flatMap Prod.fst
  let ids := deltas.flatMap Prod.snd
  if ids = [] ∨ reasoning = [] then none else some (ids, String.join reasoning)

/-- What reaches the store: a response of a source, whole or as a stream, and a request of an
owner, with the clock at every lookup. -/
inductive ReasoningEvent (σ : Type) where
  | response (source : σ) (body : Fields) (now pruned : Rat)
  | sse (source : σ) (text : String) (now pruned : Rat)
  | request (owner : σ) (model : String) (messages : List Message) (clock : Nat → Nat → Rat)

namespace ReasoningEvent

variable {σ : Type} (cfg : GatewayConfig) (loads : String → Loads)

/-- The source, the ids and the reasoning of a response that is stored. -/
def capture : ReasoningEvent σ → Option (σ × List String × String)
  | .response source body _ _ => (captureOfResponse body).map (fun c ↦ (source, c))
  | .sse source text _ _ => (captureOfSse loads text).map (fun c ↦ (source, c))
  | .request _ _ _ _ => none

/-- The source of the last response of a history that was stored under an id. -/
def lastSource (history : List (ReasoningEvent σ)) (id : String) : Option σ :=
  history.foldl (fun last event ↦
    match event.capture loads with
    | some (source, ids, _) => if id ∈ ids ∧ id ≠ "" then some source else last
    | none => last) none

end ReasoningEvent

namespace ReasoningStore

variable {σ : Type} (cfg : GatewayConfig) (loads : String → Loads)

/-- `ReasoningStore()`. -/
def fresh (ttl : Rat) (maxEntries : Nat) : ReasoningStore σ := ⟨Dict.empty, ttl, maxEntries⟩

/-- What a request of a model is sent with, and what was attached to each message;
`request_pipeline.py:311–333`. -/
def ensureThinking (store : ReasoningStore σ) (model : String) (clock : Nat → Nat → Rat)
    (messages : List Message) : ReasoningStore σ × List (Message × Option (Captured σ)) :=
  if cfg.supportsThinking model then
    let (store, filled) := store.rehydrate clock messages
    (store, filled.map (fun p ↦ (placeholderMessage p.1, p.2)))
  else (store, messages.map (fun msg ↦ (msg, none)))

/-- The store after an event. -/
def step (store : ReasoningStore σ) (event : ReasoningEvent σ) : ReasoningStore σ :=
  match event with
  | .response source body now pruned =>
    match captureOfResponse body with
    | some (ids, reasoning) => store.capture ids reasoning source now pruned
    | none => store
  | .sse source text now pruned =>
    match captureOfSse loads text with
    | some (ids, reasoning) => store.capture ids reasoning source now pruned
    | none => store
  | .request _ model messages clock => (store.ensureThinking cfg model clock messages).1

/-- Nothing is attached to a message of a request but what was captured from a response of the
request's owner. -/
def Confined (store : ReasoningStore σ) (owner : σ) (model : String) (clock : Nat → Nat → Rat)
    (messages : List Message) : Prop :=
  ∀ p ∈ (store.ensureThinking cfg model clock messages).2, ∀ entry, p.2 = some entry →
    p.1.reasoningContent = .value entry.content ∧ entry.source = owner

/-- The ids that are looked up for a request were last stored for its owner. -/
def OwnCalls (history : List (ReasoningEvent σ)) (owner : σ) (messages : List Message) : Prop :=
  ∀ msg ∈ messages, msg.isToolTurn = true → msg.reasoningContent.present = false →
    ∀ tc ∈ msg.calls, ∀ id, tc.tcId = some id →
      ∀ source, ReasoningEvent.lastSource loads history id = some source → source = owner

/-- Every entry carries the source that was stored last under its id. -/
def Tagged (store : ReasoningStore σ) (last : String → Option σ) : Prop :=
  ∀ id entry, store.entries.get? id = some entry → last id = some entry.source

/-- Entries are only dropped. -/
def Shrinks (store store' : ReasoningStore σ) : Prop :=
  ∀ id entry, store'.entries.get? id = some entry → store.entries.get? id = some entry

variable {cfg loads} {store store' store'' : ReasoningStore σ}

theorem Shrinks.refl (store : ReasoningStore σ) : Shrinks store store := fun _ _ h ↦ h

theorem Shrinks.trans (h : Shrinks store store') (h' : Shrinks store' store'') :
    Shrinks store store'' := fun id entry hentry ↦ h id entry (h' id entry hentry)

/-- Keeping some keys only drops entries. -/
theorem shrinks_filterKeys (keep : String → Bool) :
    Shrinks store { store with entries := store.entries.filterKeys keep } := by
  intro id entry hentry
  rw [Dict.get?_filterKeys] at hentry
  split at hentry
  · exact hentry
  · cases hentry

/-- Pruning only drops entries. -/
theorem shrinks_prune (now : Rat) : Shrinks store (store.prune now) :=
  (shrinks_filterKeys _).trans (shrinks_filterKeys _)

/-- A lookup drops entries at most, and finds one that was there. -/
theorem getForToolCallId_spec (store : ReasoningStore σ) (id : String) (now : Rat) :
    Shrinks store (store.getForToolCallId id now).1 ∧
      ∀ entry, (store.getForToolCallId id now).2 = some entry →
        store.entries.get? id = some entry := by
  unfold getForToolCallId
  split
  · exact ⟨Shrinks.refl store, fun _ h ↦ absurd h (by simp)⟩
  · next entry hentry =>
    split
    · exact ⟨shrinks_filterKeys _, fun _ h ↦ absurd h (by simp)⟩
    · refine ⟨Shrinks.refl store, fun entry' h ↦ ?_⟩
      rw [hentry]
      exact h

/-- What the lookups for a message find is the entry of one of its ids. -/
theorem recallCalls_spec (store : ReasoningStore σ) (clock : Nat → Rat) (calls : List ToolCall) :
    Shrinks store (store.recallCalls clock calls).1 ∧
      ∀ entry, (store.recallCalls clock calls).2 = some entry →
        ∃ tc ∈ calls, ∃ id, tc.tcId = some id ∧ store.entries.get? id = some entry := by
  induction calls generalizing store clock with
  | nil => exact ⟨Shrinks.refl store, fun _ h ↦ absurd h (by simp [recallCalls])⟩
  | cons tc rest ih =>
    unfold recallCalls
    split
    · obtain ⟨hshrinks, hfound⟩ := ih store (fun i ↦ clock (i + 1))
      refine ⟨hshrinks, fun entry h ↦ ?_⟩
      obtain ⟨tc', htc', hid⟩ := hfound entry h
      exact ⟨tc', List.mem_cons_of_mem tc htc', hid⟩
    · next id hid =>
      obtain ⟨hshrinks, hfound⟩ := store.getForToolCallId_spec id (clock 0)
      dsimp only
      split
      · next entry hentry =>
        refine ⟨hshrinks, fun entry' h ↦ ?_⟩
        obtain rfl := Option.some.inj h
        exact ⟨tc, List.mem_cons_self, id, hid,
          hfound entry (Option.filter_eq_some_iff.mp hentry).1⟩
      · obtain ⟨hshrinks', hfound'⟩ := ih (store.getForToolCallId id (clock 0)).1
          (fun i ↦ clock (i + 1))
        refine ⟨hshrinks.trans hshrinks', fun entry h ↦ ?_⟩
        obtain ⟨tc', htc', id', hid', hentry⟩ := hfound' entry h
        exact ⟨tc', List.mem_cons_of_mem tc htc', id', hid', hshrinks id' entry hentry⟩

/-- The attached entry is that of one of the ids of a message that lacks its reasoning. -/
def FoundFor (store : ReasoningStore σ) (msg : Message) (entry : Captured σ) : Prop :=
  msg.isToolTurn = true ∧ msg.reasoningContent.present = false ∧
    ∃ tc ∈ msg.calls, ∃ id, tc.tcId = some id ∧ store.entries.get? id = some entry

/-- What is attached to a message is its reasoning from then on. -/
theorem rehydrateOne_spec (store : ReasoningStore σ) (clock : Nat → Rat) (msg : Message) :
    Shrinks store (store.rehydrateOne clock msg).1 ∧
      ∀ entry, (store.rehydrateOne clock msg).2.2 = some entry →
        (store.rehydrateOne clock msg).2.1.reasoningContent = .value entry.content ∧
          store.FoundFor msg entry := by
  unfold rehydrateOne
  split
  · exact ⟨Shrinks.refl store, fun _ h ↦ absurd h (by simp)⟩
  · next hneeds =>
    obtain ⟨hshrinks, hfound⟩ := store.recallCalls_spec clock msg.calls
    dsimp only
    split
    · next entry hentry =>
      refine ⟨hshrinks, fun entry' h ↦ ?_⟩
      obtain rfl := Option.some.inj h
      simp only [Bool.or_eq_true, Bool.not_eq_true', not_or, Bool.not_eq_false,
        Bool.not_eq_true] at hneeds
      exact ⟨rfl, hneeds.1, hneeds.2, hfound entry hentry⟩
    · exact ⟨hshrinks, fun _ h ↦ absurd h (by simp)⟩

/-- What is attached in a request comes from the store in front of it. -/
theorem rehydrate_spec (store : ReasoningStore σ) (clock : Nat → Nat → Rat)
    (messages : List Message) :
    Shrinks store (store.rehydrate clock messages).1 ∧
      ∀ p ∈ (store.rehydrate clock messages).2, ∀ entry, p.2 = some entry →
        p.1.reasoningContent = .value entry.content ∧
          ∃ msg ∈ messages, store.FoundFor msg entry := by
  induction messages generalizing store clock with
  | nil => exact ⟨Shrinks.refl store, by simp [rehydrate]⟩
  | cons msg rest ih =>
    obtain ⟨hshrinks, hfound⟩ := store.rehydrateOne_spec (clock 0) msg
    obtain ⟨hshrinks', hfound'⟩ := ih (store.rehydrateOne (clock 0) msg).1
      (fun i ↦ clock (i + 1))
    refine ⟨hshrinks.trans hshrinks', fun p hp entry hentry ↦ ?_⟩
    rcases List.mem_cons.mp hp with rfl | hp
    · obtain ⟨hcontent, hmsg⟩ := hfound entry hentry
      exact ⟨hcontent, msg, List.mem_cons_self, hmsg⟩
    · obtain ⟨hcontent, msg', hmsg', hturn, hlacks, tc, htc, id, hid, hget⟩ :=
        hfound' p hp entry hentry
      exact ⟨hcontent, msg', List.mem_cons_of_mem msg hmsg', hturn, hlacks, tc, htc, id, hid,
        hshrinks id entry hget⟩

/-- What is attached to a request before it is sent comes from the store in front of it. -/
theorem ensureThinking_spec (store : ReasoningStore σ) (model : String)
    (clock : Nat → Nat → Rat) (messages : List Message) :
    Shrinks store (store.ensureThinking cfg model clock messages).1 ∧
      ∀ p ∈ (store.ensureThinking cfg model clock messages).2, ∀ entry, p.2 = some entry →
        p.1.reasoningContent = .value entry.content ∧
          ∃ msg ∈ messages, store.FoundFor msg entry := by
  unfold ensureThinking
  split
  · obtain ⟨hshrinks, hfound⟩ := store.rehydrate_spec clock messages
    refine ⟨hshrinks, fun p hp entry hentry ↦ ?_⟩
    obtain ⟨q, hq, rfl⟩ := List.mem_map.mp hp
    obtain ⟨hcontent, hmsg⟩ := hfound q hq entry hentry
    exact ⟨by simp [placeholderMessage, hcontent, DictField.present], hmsg⟩
  · refine ⟨Shrinks.refl store, fun p hp entry hentry ↦ ?_⟩
    obtain ⟨msg, -, rfl⟩ := List.mem_map.mp hp
    simp at hentry

/-- A capture writes the entry of every id that has a text. -/
theorem get?_foldl_capture (new : Captured σ) (ids : List String)
    (entries : Dict String (Captured σ)) (id : String) :
    (ids.foldl (fun entries id ↦ if id = "" then entries else entries.set id new) entries).get? id =
      if id ∈ ids ∧ id ≠ "" then some new else entries.get? id := by
  induction ids generalizing entries with
  | nil => simp
  | cons first rest ih =>
    rw [List.foldl_cons, ih]
    by_cases hfirst : first = id
    · subst hfirst
      by_cases hempty : first = "" <;> simp [hempty]
    · have hskip : (if first = "" then entries else entries.set first new).get? id =
          entries.get? id := by
        split
        · rfl
        · rw [Dict.get?_set, if_neg hfirst]
      rw [hskip]
      simp [Ne.symm hfirst]

/-- After a capture every entry is a new one of the captured ids, or an old one of another id. -/
theorem capture_spec {ids : List String} {reasoning : String} {source : σ} {now pruned : Rat}
    {id : String} {entry : Captured σ}
    (h : (store.capture ids reasoning source now pruned).entries.get? id = some entry) :
    (id ∈ ids ∧ id ≠ "") ∧ entry.source = source ∨
      ¬(id ∈ ids ∧ id ≠ "") ∧ store.entries.get? id = some entry := by
  unfold capture at h
  split at h
  · next hempty => exact .inr ⟨by simp [hempty], h⟩
  · have hwritten := shrinks_prune pruned id entry h
    rw [get?_foldl_capture] at hwritten
    split at hwritten
    · next hid =>
      obtain rfl := Option.some.inj hwritten
      exact .inl ⟨hid, rfl⟩
    · next hid => exact .inr ⟨hid, hwritten⟩

/-- A captured response is the last one under its ids. -/
theorem lastSource_append_of_capture {history : List (ReasoningEvent σ)} {event : ReasoningEvent σ}
    {source : σ} {ids : List String} {reasoning : String}
    (h : event.capture loads = some (source, ids, reasoning)) (id : String) :
    ReasoningEvent.lastSource loads (history ++ [event]) id =
      if id ∈ ids ∧ id ≠ "" then some source else ReasoningEvent.lastSource loads history id := by
  simp only [ReasoningEvent.lastSource, List.foldl_append, List.foldl_cons, List.foldl_nil, h]

/-- An event without a capture changes no source. -/
theorem lastSource_append_of_none {history : List (ReasoningEvent σ)} {event : ReasoningEvent σ}
    (h : event.capture loads = none) :
    ReasoningEvent.lastSource loads (history ++ [event]) =
      ReasoningEvent.lastSource loads history := by
  funext id
  simp only [ReasoningEvent.lastSource, List.foldl_append, List.foldl_cons, List.foldl_nil, h]

/-- A capture tags the entries of its ids with its source. -/
theorem tagged_capture {history : List (ReasoningEvent σ)} {event : ReasoningEvent σ} {source : σ}
    {ids : List String} {reasoning : String} (now pruned : Rat)
    (hevent : event.capture loads = some (source, ids, reasoning))
    (h : store.Tagged (ReasoningEvent.lastSource loads history)) :
    (store.capture ids reasoning source now pruned).Tagged
      (ReasoningEvent.lastSource loads (history ++ [event])) := by
  intro id entry hentry
  rw [lastSource_append_of_capture hevent]
  rcases capture_spec hentry with ⟨hid, hsource⟩ | ⟨hid, hold⟩
  · rw [if_pos hid, hsource]
  · rw [if_neg hid]
    exact h id entry hold

/-- An event keeps the entries tagged with the sources stored last. -/
theorem tagged_step {history : List (ReasoningEvent σ)} (event : ReasoningEvent σ)
    (h : store.Tagged (ReasoningEvent.lastSource loads history)) :
    (step cfg loads store event).Tagged
      (ReasoningEvent.lastSource loads (history ++ [event])) := by
  cases event with
  | response source body now pruned =>
    cases hbody : captureOfResponse body with
    | none =>
      rw [lastSource_append_of_none (by simp [ReasoningEvent.capture, hbody])]
      simpa only [step, hbody] using h
    | some c =>
      simp only [step, hbody]
      exact tagged_capture now pruned (by simp [ReasoningEvent.capture, hbody]) h
  | sse source text now pruned =>
    cases htext : captureOfSse loads text with
    | none =>
      rw [lastSource_append_of_none (by simp [ReasoningEvent.capture, htext])]
      simpa only [step, htext] using h
    | some c =>
      simp only [step, htext]
      exact tagged_capture now pruned (by simp [ReasoningEvent.capture, htext]) h
  | request owner model messages clock =>
    rw [lastSource_append_of_none rfl]
    intro id entry hentry
    exact h id entry ((store.ensureThinking_spec model clock messages).1 id entry hentry)

/-- After any history every entry carries the source stored last under its id. -/
theorem tagged_run (ttl : Rat) (maxEntries : Nat) (history : List (ReasoningEvent σ)) :
    (run (step cfg loads) (fresh ttl maxEntries) history).Tagged
      (ReasoningEvent.lastSource loads history) := by
  induction history using List.reverseRecOn with
  | nil => exact fun id entry h ↦ absurd h (by simp [run, fresh])
  | append_singleton before event ih =>
    rw [run_append]
    exact tagged_step event ih

/-- A configuration with a thinking model. -/
def thinkingConfig : GatewayConfig :=
  ⟨Dict.empty, Dict.empty.set "deepseek-v4-flash" [("supports_thinking", .bool true)], Dict.empty,
    fun _ model ↦ model⟩

/-- A response that calls one tool. -/
def toolResponse (id reasoning : String) : Fields :=
  [("choices", .arr [.obj [("message", .obj [("reasoning_content", .str reasoning),
    ("tool_calls", .arr [.obj [("id", .str id)]])])]])]

/-- The turn of that response, sent back without its reasoning. -/
def strippedTurn (id : String) : Message :=
  ⟨.value "assistant", none, .value [⟨.value id, .absent, .null, .null⟩], .absent, .absent, .absent⟩

end ReasoningStore
end LcpGateway.Pipeline
