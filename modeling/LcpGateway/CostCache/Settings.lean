import LcpGateway.Base.Dict
import LcpGateway.Base.Run
import Mathlib.Logic.Function.Basic

/-!
# The settings store

Library `CostCache`. Source `src/api/cost_cache.py:84–128,277–299`. The settings table is cached
whole: the first read loads it under the lock, a write commits to the table and then, under the
lock, to the cache. So a write is two steps of its thread, with steps of other threads in
between, and so is a load. Reads of a loaded cache are no steps. Failures of the database are
left out.
-/

namespace LcpGateway.CostCache
open LcpGateway.Base

/-- A write between its commit and its cache update: the key, and the text it set unless it
cleared the key. -/
structure PendingWrite where
  key : String
  text : Option String
  deriving DecidableEq, Repr

/-- The table, the store over it, and where every thread stands. -/
structure SettingsStore where
  table : Dict String String
  cache : Dict String String
  loaded : Bool
  -- the thread that holds the lock to load, with the rows it has read
  loader : Option (Nat × Dict String String)
  writes : Nat → Option PendingWrite

/-- A step of a thread. -/
inductive SettingsEvent where
  | set (thread : Nat) (key text : String)
  | clear (thread : Nat) (key : String)
  | finish (thread : Nat)
  | beginLoad (thread : Nat)
  | endLoad (thread : Nat)
  deriving DecidableEq, Repr

namespace SettingsStore

/-- `SettingsStore(engine)` over a table. -/
def fresh (table : Dict String String) : SettingsStore :=
  ⟨table, Dict.empty, false, none, fun _ ↦ none⟩

variable (s : SettingsStore)

/-- The thread is in no operation. -/
def idle (thread : Nat) : Bool := s.writes thread = none ∧ s.loader.all (fun l ↦ l.1 ≠ thread)

/-- The commit of a write; `cost_cache.py:118–125,280–284,293–297`. -/
def commit (thread : Nat) (write : PendingWrite) : SettingsStore :=
  { s with
    table := match write.text with
      | some text => s.table.set write.key text
      | none => s.table.filterKeys (· ≠ write.key)
    writes := Function.update s.writes thread (some write) }

/-- The cache update of a write; `cost_cache.py:126–128,285–286,298–299`. -/
def store (thread : Nat) (write : PendingWrite) : SettingsStore :=
  { s with
    cache := match write.text with
      | some text => s.cache.set write.key text
      | none => s.cache.filterKeys (· ≠ write.key)
    loaded := s.loaded || write.text.isSome
    writes := Function.update s.writes thread none }

/-- One step. An update of the cache waits for the lock, and so does a load, which the flag read
under the lock may call off; `cost_cache.py:97–109`. -/
def step : SettingsEvent → SettingsStore
  | .set thread key text => if s.idle thread then s.commit thread ⟨key, some text⟩ else s
  | .clear thread key => if s.idle thread then s.commit thread ⟨key, none⟩ else s
  | .finish thread =>
    match s.loader, s.writes thread with
    | none, some write => s.store thread write
    | _, _ => s
  | .beginLoad thread =>
    if s.idle thread ∧ !s.loaded ∧ s.loader = none then { s with loader := some (thread, s.table) }
    else s
  | .endLoad thread =>
    match s.loader with
    | some (holder, rows) =>
      if holder = thread then
        { s with cache := s.cache.update rows, loaded := true, loader := none }
      else s
    | none => s

/-- `get`, run alone: the cache, loaded first unless it is; `cost_cache.py:111–113`. -/
def get (key : String) : Option String :=
  if s.loaded then s.cache.get? key else (s.cache.update s.table).get? key

/-- A write of the key is in progress. -/
def Writing (key : String) : Prop := ∃ thread write, s.writes thread = some write ∧ write.key = key

/-- No operation is in progress. -/
def Quiet : Prop := s.loader = none ∧ ∀ thread, s.writes thread = none

/-- Outside the keys that are being written, a loaded cache is the table, an unloaded one is
empty, and rows being loaded are the table. -/
structure Coherent : Prop where
  unloaded : s.loaded = false → ∀ key, s.cache.get? key = none
  settled : s.loaded = true → ∀ key, ¬s.Writing key → s.cache.get? key = s.table.get? key
  loading : ∀ thread rows, s.loader = some (thread, rows) → s.loaded = false ∧
    ∀ key, ¬s.Writing key → rows.get? key = s.table.get? key

/-- Another thread is writing the key as well. -/
def WrittenElsewhere (thread : Nat) (key : String) : Prop :=
  ∃ other write, other ≠ thread ∧ s.writes other = some write ∧ write.key = key

/-- The cache update of a write is harmless: the last write of a key to update the cache of a
loaded store, or to load it, is the one the table holds; and a write that loads the store finds
no other key in the table, those being written apart. -/
structure Harmless (thread : Nat) (write : PendingWrite) : Prop where
  last : s.loaded = true ∨ write.text.isSome = true → ¬s.WrittenElsewhere thread write.key →
    s.table.get? write.key = write.text
  alone : s.loaded = false → write.text.isSome = true → ∀ key ≠ write.key, ¬s.Writing key →
    s.table.get? key = none

/-- The guard of a step: cache updates are harmless. -/
def Guard (event : SettingsEvent) : Prop :=
  ∀ thread write, event = .finish thread → s.loader = none → s.writes thread = some write →
    s.Harmless thread write

variable {s : SettingsStore}

/-- A fresh store is coherent with every table. -/
theorem coherent_fresh (table : Dict String String) : (fresh table).Coherent :=
  ⟨fun _ _ ↦ rfl, fun h ↦ absurd h (by simp [fresh]), fun _ _ h ↦ absurd h (by simp [fresh])⟩

/-- A write being committed joins the writes in progress. -/
theorem writing_commit {thread : Nat} {write : PendingWrite} (hidle : s.writes thread = none)
    {key : String} :
    (s.commit thread write).Writing key ↔ write.key = key ∨ s.Writing key := by
  constructor
  · rintro ⟨t, w, hw, hkey⟩
    by_cases ht : t = thread
    · subst ht
      obtain rfl : write = w := by simpa [commit] using hw
      exact .inl hkey
    · exact .inr ⟨t, w, by simpa [commit, ht] using hw, hkey⟩
  · rintro (hkey | ⟨t, w, hw, hkey⟩)
    · exact ⟨thread, write, by simp [commit], hkey⟩
    · have ht : t ≠ thread := by
        rintro rfl
        rw [hidle] at hw
        cases hw
      exact ⟨t, w, by simpa [commit, ht] using hw, hkey⟩

/-- A write that ends leaves the writes of the other threads. -/
theorem writing_store {thread : Nat} {write : PendingWrite} {key : String} :
    (s.store thread write).Writing key ↔ s.WrittenElsewhere thread key := by
  constructor
  · rintro ⟨t, w, hw, hkey⟩
    have ht : t ≠ thread := by
      rintro rfl
      simp [store] at hw
    exact ⟨t, w, ht, by simpa [store, ht] using hw, hkey⟩
  · rintro ⟨t, w, ht, hw, hkey⟩
    exact ⟨t, w, by simpa [store, ht] using hw, hkey⟩

/-- A commit touches its own key of the table. -/
theorem table_commit {thread : Nat} {write : PendingWrite} {key : String}
    (h : write.key ≠ key) : (s.commit thread write).table.get? key = s.table.get? key := by
  unfold commit
  cases write.text with
  | some text => simp [Dict.get?_set, h]
  | none => simp [Dict.get?_filterKeys, Ne.symm h]

/-- What a cache update leaves in the cache. -/
theorem cache_store {thread : Nat} {write : PendingWrite} {key : String} :
    (s.store thread write).cache.get? key =
      if write.key = key then write.text else s.cache.get? key := by
  unfold store
  cases write.text with
  | some text => simp [Dict.get?_set]
  | none =>
    by_cases hkey : write.key = key
    · simp [Dict.get?_filterKeys, hkey]
    · simp [Dict.get?_filterKeys, hkey, Ne.symm hkey]

/-- A commit keeps the store coherent: its key is being written. -/
theorem coherent_commit {thread : Nat} {write : PendingWrite} (h : s.Coherent)
    (hidle : s.writes thread = none) : (s.commit thread write).Coherent := by
  have hother : ∀ key, ¬(s.commit thread write).Writing key →
      ¬s.Writing key ∧ (s.commit thread write).table.get? key = s.table.get? key := by
    intro key hkey
    rw [writing_commit hidle, not_or] at hkey
    exact ⟨hkey.2, table_commit hkey.1⟩
  refine ⟨h.unloaded, fun hloaded key hkey ↦ ?_, fun t rows hloader ↦ ?_⟩
  · rw [(hother key hkey).2]
    exact h.settled hloaded key (hother key hkey).1
  · obtain ⟨hunloaded, hrows⟩ := h.loading t rows hloader
    refine ⟨hunloaded, fun key hkey ↦ ?_⟩
    rw [(hother key hkey).2]
    exact hrows key (hother key hkey).1

/-- A harmless cache update keeps the store coherent. -/
theorem coherent_store {thread : Nat} {write : PendingWrite} (h : s.Coherent)
    (hwrite : s.writes thread = some write) (hlock : s.loader = none)
    (hharmless : s.Harmless thread write) : (s.store thread write).Coherent := by
  refine ⟨fun hunloaded key ↦ ?_, fun hloaded key hkey ↦ ?_, fun t rows hloader ↦ ?_⟩
  · obtain ⟨hs, htext⟩ : s.loaded = false ∧ write.text = none := by
      simpa [store] using hunloaded
    rw [cache_store, htext, h.unloaded hs key, ite_self]
  · rw [writing_store] at hkey
    have hloaded : s.loaded = true ∨ write.text.isSome = true := by
      simpa [store] using hloaded
    rw [cache_store]
    split
    · next hsame =>
      subst hsame
      exact (hharmless.last hloaded hkey).symm
    · next hne =>
      have hquiet : ¬s.Writing key := by
        rintro ⟨t, w, hw, hwkey⟩
        by_cases ht : t = thread
        · subst ht
          rw [hwrite] at hw
          obtain rfl := Option.some.inj hw
          exact hne hwkey
        · exact hkey ⟨t, w, ht, hw, hwkey⟩
      cases hs : s.loaded with
      | true => exact h.settled hs key hquiet
      | false =>
        rw [h.unloaded hs key]
        have htext : write.text.isSome = true := by simpa [hs] using hloaded
        exact (hharmless.alone hs htext key (Ne.symm hne) hquiet).symm
  · have hloader : s.loader = some (t, rows) := hloader
    rw [hlock] at hloader
    cases hloader

/-- A guarded step keeps the store coherent. -/
theorem coherent_step {event : SettingsEvent} (h : s.Coherent) (hguard : s.Guard event) :
    (s.step event).Coherent := by
  cases event with
  | set thread key text =>
    simp only [step]
    split
    · next hidle => exact coherent_commit h (of_decide_eq_true hidle).1
    · exact h
  | clear thread key =>
    simp only [step]
    split
    · next hidle => exact coherent_commit h (of_decide_eq_true hidle).1
    · exact h
  | finish thread =>
    simp only [step]
    split
    · next write hlock hwrite =>
      exact coherent_store h hwrite hlock (hguard thread write rfl hlock hwrite)
    · exact h
  | beginLoad thread =>
    simp only [step]
    split
    · next hbegin =>
      obtain ⟨-, hunloaded, hlock⟩ := hbegin
      have hunloaded : s.loaded = false := by simpa using hunloaded
      refine ⟨h.unloaded, h.settled, fun t rows hloader ↦ ⟨hunloaded, fun key _ ↦ ?_⟩⟩
      obtain ⟨rfl, rfl⟩ := Prod.mk.inj (Option.some.inj hloader)
      rfl
    · exact h
  | endLoad thread =>
    simp only [step]
    split
    · next holder rows hloader =>
      split
      · obtain ⟨hunloaded, hrows⟩ := h.loading holder rows hloader
        refine ⟨fun hfalse ↦ absurd hfalse (by simp), fun _ key hkey ↦ ?_, fun _ _ hnone ↦ ?_⟩
        · rw [Dict.get?_update, h.unloaded hunloaded key, Option.or_none]
          exact hrows key hkey
        · cases hnone
      · exact h
    · exact h

/-- With no operation in progress a coherent store reads the table. -/
theorem get_of_quiet (h : s.Coherent) (hquiet : s.Quiet) (key : String) :
    s.get key = s.table.get? key := by
  have hnot : ¬s.Writing key := by
    rintro ⟨t, w, hw, -⟩
    rw [hquiet.2 t] at hw
    cases hw
  unfold get
  cases hs : s.loaded with
  | true => exact h.settled hs key hnot
  | false => simp [Dict.get?_update, h.unloaded hs key]

/-- From a fresh store over any table, in every run of any threads whose cache updates are all
harmless, whenever no operation is in progress every read is the table's. -/
theorem get_eq_table (table : Dict String String) (events : List SettingsEvent)
    (hguard : ∀ p ∈ steps step (fresh table) events, p.1.Guard p.2) (key : String) :
    (run step (fresh table) events).Quiet →
      (run step (fresh table) events).get key =
        (run step (fresh table) events).table.get? key := by
  intro hquiet
  have hcoherent : (run step (fresh table) events).Coherent :=
    run_invariant_of_guard (fun _ _ h hguard ↦ coherent_step h hguard) (fresh table) events
      (coherent_fresh table) hguard
  exact get_of_quiet hcoherent hquiet key

/-- The settings table of a running gateway. -/
def storedTable : Dict String String :=
  (Dict.empty.set "routing_enabled" "1").set "routing_policy" "cost_first"

/-- A store that is read before it is written reads the written row and the others. -/
theorem get_eq_table_read_first :
    (run step (fresh storedTable) [.beginLoad 0, .endLoad 0, .set 1 "routing_policy" "eager",
        .finish 1]).get "routing_policy" =
      (run step (fresh storedTable) [.beginLoad 0, .endLoad 0, .set 1 "routing_policy" "eager",
        .finish 1]).table.get? "routing_policy" := by
  refine get_eq_table storedTable _ ?_ "routing_policy" ⟨rfl, fun thread ↦ ?_⟩
  · simp only [steps, List.forall_mem_cons]
    refine ⟨fun _ _ h ↦ ?_, fun _ _ h ↦ ?_, fun _ _ h ↦ ?_, fun thread write h _ hwrite ↦ ?_, ?_⟩
    · cases h
    · cases h
    · cases h
    · -- the only cache update finds the store loaded and the table as it left it
      cases h
      obtain rfl : ⟨"routing_policy", some "eager"⟩ = write := Option.some.inj hwrite
      exact ⟨fun _ _ ↦ by decide +kernel, fun hunloaded ↦ absurd hunloaded (by decide +kernel)⟩
    · simp
  · by_cases h : thread = 1 <;> simp [run, step, idle, fresh, commit, store, h]

/-- The first operation is a write: the rows it did not write are hidden from every read. And of
two writes of one key the cache keeps the one the table lost. -/
theorem first_write_hides_table :
    let hidden := run step (fresh storedTable) [.set 0 "cost_cache_ttl_minutes" "5", .finish 0]
    let raced := run step (fresh storedTable) [.beginLoad 0, .endLoad 0,
      .set 0 "routing_enabled" "0", .set 1 "routing_enabled" "1", .finish 1, .finish 0]
    (hidden.Quiet ∧ hidden.get "routing_policy" = none ∧
      hidden.table.get? "routing_policy" = some "cost_first") ∧
    (raced.Quiet ∧ raced.get "routing_enabled" = some "0" ∧
      raced.table.get? "routing_enabled" = some "1") := by
  refine ⟨⟨⟨rfl, fun thread ↦ ?_⟩, by decide +kernel, by decide +kernel⟩,
    ⟨⟨rfl, fun thread ↦ ?_⟩, by decide +kernel, by decide +kernel⟩⟩
  · by_cases h : thread = 0 <;> simp [run, step, idle, fresh, commit, store, h]
  · by_cases h0 : thread = 0
    · simp [run, step, idle, fresh, commit, store, h0]
    · by_cases h1 : thread = 1 <;> simp [run, step, idle, fresh, commit, store, h0, h1]

end SettingsStore

end LcpGateway.CostCache
