import LcpGateway.Base.Widening
import LcpGateway.Conversation.Rollup
import Mathlib.Order.WithBot

/-!
# The activity window of a conversation

Library `Conversation`. Sources `src/api/conv_store.py:444–500,585–656` and
`src/api/work_conversations.py:170–189`. Two writers widen the window of a conversation, the sync
assigns it. Windows are a join semilattice, and a writer that widens joins its own times.
-/

namespace LcpGateway.Conversation
open LcpGateway.Base

/-- The columns `first_seen` and `last_seen`. -/
structure Window where
  first : Option String
  last : Option String
  deriving DecidableEq, Repr

namespace Window

/-- No bound is set. -/
def unset : Window := ⟨none, none⟩

/-- Bounds once set do not move inwards. -/
structure Widens (w w' : Window) : Prop where
  first : ∀ f, w.first = some f → ∃ f', w'.first = some f' ∧ f' ≤ f
  last : ∀ l, w.last = some l → ∃ l', w'.last = some l' ∧ l ≤ l'

/-- A window as a value of a semilattice: the earlier start and the later end are above. -/
def extent (w : Window) : WithBot Stringᵒᵈ × WithBot String :=
  (w.first.elim ⊥ (fun f ↦ (OrderDual.toDual f : Stringᵒᵈ)), w.last.elim ⊥ (fun l ↦ (l : String)))

/-- Windows of one extent are one window. -/
theorem extent_injective : Function.Injective extent := by
  rintro ⟨f, l⟩ ⟨f', l'⟩ h
  obtain ⟨hfirst, hlast⟩ := Prod.mk.inj h
  cases f <;> cases f' <;> cases l <;> cases l' <;> simp_all

/-- A window widens when its extent grows. -/
theorem widens_iff {w w' : Window} : w.Widens w' ↔ w.extent ≤ w'.extent := by
  rw [Prod.le_def]
  constructor
  · intro h
    constructor
    · cases hw : w.first with
      | none => simp [extent, hw]
      | some f =>
        obtain ⟨f', hf', hle⟩ := h.first f hw
        simpa [extent, hw, hf'] using hle
    · cases hw : w.last with
      | none => simp [extent, hw]
      | some l =>
        obtain ⟨l', hl', hle⟩ := h.last l hw
        simpa [extent, hw, hl'] using hle
  · rintro ⟨hfirst, hlast⟩
    constructor
    · intro f hf
      cases hw' : w'.first with
      | none => simp [extent, hf, hw'] at hfirst
      | some f' => exact ⟨f', rfl, by simpa [extent, hf, hw'] using hfirst⟩
    · intro l hl
      cases hw' : w'.last with
      | none => simp [extent, hl, hw'] at hlast
      | some l' => exact ⟨l', rfl, by simpa [extent, hl, hw'] using hlast⟩

instance (w w' : Window) : Decidable (w.Widens w') := decidable_of_iff _ widens_iff.symm

/-- The guarded updates take the extent of the window and the one of the given times together. -/
theorem extent_widen (first last : Option String) (w : Window) :
    extent ⟨widenFirst first w.first, widenLast last w.last⟩ = w.extent ⊔ extent ⟨first, last⟩ := by
  refine Prod.ext ?_ ?_
  · change (widenFirst first w.first).elim ⊥ (fun f ↦ ((OrderDual.toDual f : Stringᵒᵈ) :
      WithBot Stringᵒᵈ)) = w.first.elim ⊥ _ ⊔ first.elim ⊥ _
    cases first with
    | none => simp [widenFirst]
    | some t =>
      cases w.first with
      | none => simp [widenFirst]
      | some f =>
        by_cases hlt : t < f
        · simp [widenFirst, hlt, hlt.le]
        · simp [widenFirst, hlt, not_lt.mp hlt]
  · change (widenLast last w.last).elim ⊥ (fun l ↦ (l : WithBot String)) =
      w.last.elim ⊥ _ ⊔ last.elim ⊥ _
    cases last with
    | none => simp [widenLast]
    | some t =>
      cases w.last with
      | none => simp [widenLast]
      | some l =>
        by_cases hlt : l < t
        · simp [widenLast, hlt, hlt.le]
        · simp [widenLast, hlt, not_lt.mp hlt]

end Window

/-- The window of a row. -/
def Rollup.window (row : Rollup) : Window := ⟨row.firstSeen, row.lastSeen⟩

/-- The stored window of a conversation. -/
def window (cid : String) (table : Conversations) : Window :=
  (table.get? cid).elim Window.unset Rollup.window

/-- A call of one of the writers, with the tables it reads. -/
inductive WriterCall where
  | sync (order : Answered Group) (ctx : SyncContext) (requests : List RequestRow)
  | upsert (args : Upsert)
  | recount (messages : ConvMessages)

/-- The table after a call on a conversation; a sync writes the other ones, too. -/
def writerStep (migrated : Bool) (cid : String) (table : Conversations) :
    WriterCall → Conversations
  | .sync order ctx requests => (syncConversations order ctx requests table).1
  | .upsert args => upsertConversation migrated table cid args
  | .recount messages => (recountConversation migrated messages table cid).1

/-- The group of a conversation that a sync writes last. -/
def lastGroup (cid : String) (order : Answered Group) (requests : List RequestRow) :
    Option Group :=
  ((groups order requests).filter (fun g ↦ g.conversationId = cid)).getLast?

/-- The times a call has for a conversation. -/
def WriterCall.times (cid : String) : WriterCall → Window
  | .sync order _ requests =>
    (lastGroup cid order requests).elim Window.unset (fun g ↦ ⟨g.firstSeen, g.lastSeen⟩)
  | .upsert args => ⟨given args.lastMessageTs, given args.lastMessageTs⟩
  | .recount messages =>
    let stored := (log messages cid).filterMap Row.ts
    ⟨given stored.min?, given stored.max?⟩

/-- When a call widens: a sync has times for the conversation that cover the stored window, or
none; a recount has no times or finds a row. -/
def CoversStored (cid : String) (table : Conversations) : WriterCall → Prop
  | .sync order ctx requests => lastGroup cid order requests ≠ none →
    (window cid table).Widens ((WriterCall.sync order ctx requests).times cid)
  | .upsert _ => True
  | .recount messages =>
    (WriterCall.recount messages).times cid = Window.unset ∨ table.contains cid = true

instance (cid : String) (table : Conversations) :
    (call : WriterCall) → Decidable (CoversStored cid table call)
  | .sync _ _ _ => inferInstanceAs (Decidable (_ → _))
  | .upsert _ => isTrue trivial
  | .recount _ => inferInstanceAs (Decidable (_ ∨ _))

/-- A sync leaves the window of the last group. -/
theorem window_sync (migrated : Bool) (cid : String) (table : Conversations)
    (order : Answered Group) (ctx : SyncContext) (requests : List RequestRow) :
    window cid (writerStep migrated cid table (.sync order ctx requests)) =
      (lastGroup cid order requests).elim (window cid table)
        (fun g ↦ ⟨g.firstSeen, g.lastSeen⟩) := by
  rw [writerStep, window, get?_syncConversations, lastGroup]
  rcases List.eq_nil_or_concat ((groups order requests).filter (fun g ↦ g.conversationId = cid))
    with hgroups | ⟨before, g, hgroups⟩
  · rw [hgroups]
    rfl
  · rw [hgroups, List.concat_eq_append, List.foldl_append, List.getLast?_concat]
    simp only [List.foldl_cons, List.foldl_nil, Option.elim_some, synced]
    split
    · cases ctx.force <;> rfl
    · rfl

/-- An upsert joins the time of its message. -/
theorem window_upsert (migrated : Bool) (cid : String) (table : Conversations) (args : Upsert) :
    (window cid (writerStep migrated cid table (.upsert args))).extent =
      (window cid table).extent ⊔ ((WriterCall.upsert args).times cid).extent := by
  have hmerged : ∀ row : Rollup, (row.merged migrated args).window = row.window := by
    intro row
    cases migrated <;> rfl
  have hstored : (((table.get? cid).getD Rollup.blank).merged migrated args).window =
      window cid table := by
    rw [hmerged, window]
    cases table.get? cid <;> rfl
  rw [WriterCall.times, ← hstored, ← Window.extent_widen, writerStep, upsertConversation, window,
    Dict.get?_set_self]
  rfl

/-- A recount joins the times of its messages when there is a row, and changes nothing else. -/
theorem window_recount (migrated : Bool) (cid : String) (table : Conversations)
    (messages : ConvMessages) :
    (window cid (writerStep migrated cid table (.recount messages))).extent =
      if table.contains cid then
        (window cid table).extent ⊔ ((WriterCall.recount messages).times cid).extent
      else Window.unset.extent := by
  have hrecounted : ∀ (row : Rollup) (rows : List Row),
      (row.recounted migrated rows).window = row.window := by
    intro row rows
    cases migrated <;> rfl
  rw [writerStep, recountConversation, Dict.contains]
  cases hrow : table.get? cid with
  | none => simp [window, hrow]
  | some row =>
    have hstored : (row.recounted migrated (log messages cid)).window = window cid table := by
      rw [hrecounted, window, hrow]
      rfl
    rw [WriterCall.times, ← hstored, Option.isSome_some, if_pos rfl, ← Window.extent_widen]
    simp only [window, Dict.get?_set_self]
    rfl

/-- The extent of the stored window of a conversation. -/
def extentOf (cid : String) (table : Conversations) : WithBot Stringᵒᵈ × WithBot String :=
  (window cid table).extent

/-- A call joins its times to the stored window exactly when it covers what is stored. -/
theorem joins_writerStep_iff (migrated : Bool) (cid : String) (table : Conversations)
    (call : WriterCall) :
    Joins (writerStep migrated cid) (extentOf cid) (fun call ↦ (call.times cid).extent) table call ↔
      CoversStored cid table call := by
  rw [Joins, extentOf, extentOf]
  have hunset : Window.unset.extent = ⊥ := rfl
  cases call with
  | sync order ctx requests =>
    rw [window_sync, CoversStored, Window.widens_iff, WriterCall.times]
    cases lastGroup cid order requests with
    | none => simp [hunset]
    | some g => simp [eq_comm]
  | upsert args => exact iff_of_true (window_upsert migrated cid table args) trivial
  | recount messages =>
    rw [window_recount, CoversStored]
    cases hrow : table.contains cid with
    | true => simp
    | false =>
      have hnone : window cid table = Window.unset := by
        rw [Dict.contains, Option.isSome_eq_false_iff, Option.isNone_iff_eq_none] at hrow
        rw [window, hrow]
        rfl
      rw [hnone, hunset, bot_sup_eq, if_neg (by simp), or_iff_left (by simp), eq_comm, ← hunset]
      exact Window.extent_injective.eq_iff

/-- Runs of the writers in which every sync covers the stored window and every recount with times
finds a row: no step narrows the window, and two orders of the same calls end with one window. -/
theorem activityWindow_only_widens (migrated : Bool) (cid : String) (table : Conversations)
    {calls calls' : List WriterCall} (hperm : calls.Perm calls')
    (h : ∀ p ∈ steps (writerStep migrated cid) table calls, CoversStored cid p.1 p.2)
    (h' : ∀ p ∈ steps (writerStep migrated cid) table calls', CoversStored cid p.1 p.2) :
    (∀ p ∈ steps (writerStep migrated cid) table calls,
      (window cid p.1).Widens (window cid (writerStep migrated cid p.1 p.2))) ∧
      window cid (run (writerStep migrated cid) table calls) =
        window cid (run (writerStep migrated cid) table calls') := by
  have hjoins : ∀ p ∈ steps (writerStep migrated cid) table calls,
      Joins (writerStep migrated cid) (extentOf cid) (fun call ↦ (call.times cid).extent) p.1 p.2 :=
    fun p hp ↦ (joins_writerStep_iff migrated cid p.1 p.2).mpr (h p hp)
  have hjoins' : ∀ p ∈ steps (writerStep migrated cid) table calls',
      Joins (writerStep migrated cid) (extentOf cid) (fun call ↦ (call.times cid).extent) p.1 p.2 :=
    fun p hp ↦ (joins_writerStep_iff migrated cid p.1 p.2).mpr (h' p hp)
  exact ⟨fun p hp ↦ Window.widens_iff.mpr (hjoins p hp).le,
    Window.extent_injective (obs_run_eq_of_perm hperm hjoins hjoins')⟩

/-- A captured message of a conversation. -/
def captured (ts : String) : WriterCall :=
  .upsert ⟨some "hermes", some "kimi-k3", none, some "live", none, none, none, none, none, none,
    none, some ts⟩

/-- A sync that finds two requests of a conversation. -/
def servedTwice (first last : String) : WriterCall :=
  .sync firstMet ⟨[], false, last⟩
    [{ sessionRequest 1 "kimi-k3" 2 with timestamp := first },
      { sessionRequest 2 "kimi-k3" 2 with timestamp := last }]

/-- Messages from within the time of the requests, captured and synced in either order. -/
theorem activityWindow_session :
    (∀ p ∈ steps (writerStep false "session-1") Dict.empty
        [captured "2026-10-02", servedTwice "2026-10-01" "2026-10-03"],
      (window "session-1" p.1).Widens
        (window "session-1" (writerStep false "session-1" p.1 p.2))) ∧
      window "session-1" (run (writerStep false "session-1") Dict.empty
          [captured "2026-10-02", servedTwice "2026-10-01" "2026-10-03"]) =
        window "session-1" (run (writerStep false "session-1") Dict.empty
          [servedTwice "2026-10-01" "2026-10-03", captured "2026-10-02"]) :=
  activityWindow_only_widens false "session-1" Dict.empty (.swap _ _ _) (by decide +kernel)
    (by decide +kernel)

/-- A message captured after the last request: the sync moves the end of the window back, and in
the other order it stays. -/
theorem sync_narrows_window :
    let before := run (writerStep false "session-1") Dict.empty [captured "2026-10-05"]
    let sync := servedTwice "2026-10-01" "2026-10-03"
    ¬ (window "session-1" before).Widens
        (window "session-1" (writerStep false "session-1" before sync)) ∧
      window "session-1" (run (writerStep false "session-1") Dict.empty
        [captured "2026-10-05", sync]) = ⟨some "2026-10-01", some "2026-10-03"⟩ ∧
      window "session-1" (run (writerStep false "session-1") Dict.empty
        [sync, captured "2026-10-05"]) = ⟨some "2026-10-01", some "2026-10-05"⟩ := by
  decide +kernel

end LcpGateway.Conversation
