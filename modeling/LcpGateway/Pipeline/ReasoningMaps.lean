import LcpGateway.Pipeline.ReasoningStore

/-!
# The two maps of the reasoning store

Library `Pipeline`. Source `src/api/reasoning_store.py:29–127`. The store keeps the reasoning of an
id in one map and the time it was captured in another; evictions count the entries of the first and
take their order from the second. The two are one map of pairs in every run, and what they hold
behind a capture are the last captures, as far as there is room.
-/

namespace LcpGateway.Pipeline
open LcpGateway.Base LcpGateway.Chat

/-- `ReasoningStore`, with the two maps it has. -/
structure ReasoningMaps where
  byToolCallId : Dict String String
  storedAt : Dict String Rat
  ttl : Rat
  maxEntries : Nat

namespace ReasoningMaps

/-- `ReasoningStore(ttl_seconds, max_entries)`. -/
def fresh (ttl : Rat) (maxEntries : Nat) : ReasoningMaps :=
  ⟨Dict.empty, Dict.empty, ttl, maxEntries⟩

variable (maps : ReasoningMaps)

/-- `_forget`; `reasoning_store.py:102–104`. -/
def forget (id : String) : ReasoningMaps :=
  { maps with
    byToolCallId := maps.byToolCallId.filterKeys (· ≠ id)
    storedAt := maps.storedAt.filterKeys (· ≠ id) }

/-- A loop of `_forget`. -/
def forgetAll (ids : List String) : ReasoningMaps := ids.foldl forget maps

/-- The expired ids; `reasoning_store.py:109–112`. -/
def expired (now : Rat) : List String :=
  (maps.storedAt.entries.filter (fun e ↦ maps.ttl < now - e.2)).map Prod.fst

/-- `sorted(self._stored_at, key=self._stored_at.get)[:overflow]`; `reasoning_store.py:115–118`. -/
def oldest : List String :=
  ((maps.storedAt.entries.insertionSort (fun a b ↦ a.2 ≤ b.2)).map Prod.fst).take
    (maps.byToolCallId.size - maps.maxEntries)

/-- `_prune`; `reasoning_store.py:106–120`. -/
def prune (now : Rat) : ReasoningMaps :=
  let maps := maps.forgetAll (maps.expired now)
  maps.forgetAll maps.oldest

/-- `capture`, the clock read for the entries and for the pruning; `reasoning_store.py:39–58`. -/
def capture (ids : List String) (reasoning : String) (now pruned : Rat) : ReasoningMaps :=
  if ids = [] then maps else
    (ids.foldl (fun maps id ↦
      if id = "" then maps else { maps with
        byToolCallId := maps.byToolCallId.set id reasoning
        storedAt := maps.storedAt.set id now }) maps).prune pruned

/-- `get_for_tool_call_id`; `reasoning_store.py:60–73`. -/
def getForToolCallId (id : String) (now : Rat) : ReasoningMaps × Option String :=
  if id = "" then (maps, none) else
    match maps.storedAt.get? id with
    | none => (maps, none)
    | some storedAt =>
      if maps.ttl < now - storedAt then (maps.forget id, none)
      else (maps, maps.byToolCallId.get? id)

/-- The lookups for one message; `reasoning_store.py:87–99`. -/
def recallCalls (maps : ReasoningMaps) (clock : Nat → Rat) :
    List ToolCall → ReasoningMaps × Option String
  | [] => (maps, none)
  | tc :: rest =>
    match tc.tcId with
    | none => recallCalls maps (fun i ↦ clock (i + 1)) rest
    | some id =>
      let (maps, found) := maps.getForToolCallId id (clock 0)
      match found.filter (· ≠ "") with
      | some rc => (maps, some rc)
      | none => recallCalls maps (fun i ↦ clock (i + 1)) rest

/-- The loop body of `rehydrate`; `reasoning_store.py:82–99`. -/
def rehydrateOne (maps : ReasoningMaps) (clock : Nat → Rat) (msg : Message) :
    ReasoningMaps × Message :=
  if !msg.isToolTurn || msg.reasoningContent.present then (maps, msg) else
    let (maps, found) := maps.recallCalls clock msg.calls
    match found with
    | some rc => (maps, { msg with reasoningContent := .value rc })
    | none => (maps, msg)

/-- `rehydrate`; `reasoning_store.py:75–100`. -/
def rehydrate (maps : ReasoningMaps) (clock : Nat → Nat → Rat) :
    List Message → ReasoningMaps × List Message
  | [] => (maps, [])
  | msg :: rest =>
    let (maps, filled) := maps.rehydrateOne (clock 0) msg
    let (maps, others) := rehydrate maps (fun i ↦ clock (i + 1)) rest
    (maps, filled :: others)

/-- `clear`; `reasoning_store.py:122–124`. -/
def clear : ReasoningMaps := { maps with byToolCallId := Dict.empty, storedAt := Dict.empty }

end ReasoningMaps

/-! ### The two maps are one -/

namespace ReasoningStore

/-- The maps of a store: the reasonings and the times of its entries. -/
def maps (store : ReasoningStore Unit) : ReasoningMaps :=
  ⟨store.entries.mapValues Captured.content, store.entries.mapValues Captured.storedAt, store.ttl,
    store.maxEntries⟩

variable {store : ReasoningStore Unit} {now : Rat}

/-- An id is forgotten in both maps. -/
theorem maps_forget (id : String) : (store.forget id).maps = store.maps.forget id := by
  simp [maps, forget, ReasoningMaps.forget, Dict.mapValues_filterKeys]

/-- Ids are forgotten in both maps. -/
theorem maps_forgetAll (ids : List String) :
    ({ store with entries := store.entries.filterKeys (· ∉ ids) } : ReasoningStore Unit).maps =
      store.maps.forgetAll ids := by
  induction ids generalizing store with
  | nil => simp [maps, ReasoningMaps.forgetAll, Dict.filterKeys]
  | cons id rest ih =>
    have hstep : store.maps.forgetAll (id :: rest) = (store.forget id).maps.forgetAll rest := by
      rw [maps_forget]
      rfl
    have hkeys : store.entries.filterKeys (· ∉ id :: rest) =
        (store.forget id).entries.filterKeys (· ∉ rest) := by
      simp [forget, Dict.filterKeys, List.filter_filter, Bool.and_comm]
    rw [hstep, ← ih, hkeys]
    rfl

/-- An entry is old in the one map when it is in the other. -/
theorem mem_expired_iff {id : String} {entry : Captured Unit}
    (hentry : store.entries.get? id = some entry) :
    id ∈ store.maps.expired now ↔ store.ttl < now - entry.storedAt := by
  have hexpired : id ∈ store.maps.expired now ↔
      ∃ e, store.entries.get? id = some e ∧ store.ttl < now - e.storedAt := by
    simp only [ReasoningMaps.expired, maps, Dict.mapValues, List.mem_map, List.mem_filter]
    constructor
    · rintro ⟨_, ⟨⟨e, he, rfl⟩, hold⟩, rfl⟩
      exact ⟨e.2, (store.entries.mem_entries_iff e.1 e.2).mp he, of_decide_eq_true hold⟩
    · rintro ⟨e, he, hold⟩
      exact ⟨_, ⟨⟨(id, e), (store.entries.mem_entries_iff id e).mpr he, rfl⟩,
        decide_eq_true hold⟩, rfl⟩
  rw [hexpired, hentry]
  simp

/-- The oldest ids are those of the map that has the times. -/
theorem maps_oldest : store.maps.oldest = store.oldest := by
  have hsize : store.maps.byToolCallId.size = store.entries.size := List.length_map _
  have hsort := List.map_insertionSort
    (fun a b : String × Captured Unit ↦ a.2.storedAt ≤ b.2.storedAt)
    (fun a b : String × Rat ↦ a.2 ≤ b.2) (fun e ↦ (e.1, e.2.storedAt)) store.entries.entries
    (fun _ _ _ _ ↦ Iff.rfl)
  rw [ReasoningMaps.oldest, oldest, hsize]
  change (((store.entries.entries.map (fun e ↦ (e.1, e.2.storedAt))).insertionSort _).map
    Prod.fst).take _ = _
  rw [← hsort, List.map_map]
  rfl

/-- Pruning drops the same entries from both maps. -/
theorem maps_prune (now : Rat) : (store.prune now).maps = store.maps.prune now := by
  have halive : store.entries.filterKeys (fun id ↦ (store.entries.get? id).any
      (fun e : Captured Unit ↦ now - e.storedAt ≤ store.ttl)) =
        store.entries.filterKeys (· ∉ store.maps.expired now) := by
    rw [Dict.filterKeys, Dict.filterKeys, Dict.mk.injEq]
    refine List.filter_congr fun e he ↦ ?_
    have hentry := (store.entries.mem_entries_iff e.1 e.2).mp he
    simp [hentry, mem_expired_iff hentry]
  simp only [prune, halive, ReasoningMaps.prune, ← maps_oldest, ← maps_forgetAll]

/-- A capture writes the same keys of both maps. -/
theorem maps_capture (ids : List String) (reasoning : String) (now pruned : Rat) :
    (store.capture ids reasoning () now pruned).maps =
      store.maps.capture ids reasoning now pruned := by
  have hwrites : ∀ entries : Dict String (Captured Unit),
      ({ store with entries := ids.foldl (fun entries id ↦
          if id = "" then entries else entries.set id ⟨reasoning, now, ()⟩) entries } :
        ReasoningStore Unit).maps = ids.foldl (fun maps id ↦
          if id = "" then maps else { maps with
            byToolCallId := maps.byToolCallId.set id reasoning
            storedAt := maps.storedAt.set id now })
          ({ store with entries := entries } : ReasoningStore Unit).maps := by
    intro entries
    induction ids generalizing entries with
    | nil => rfl
    | cons id rest ih =>
      rw [List.foldl_cons, List.foldl_cons, ih]
      split
      · rfl
      · simp only [maps, Dict.mapValues_set]
  rw [capture, ReasoningMaps.capture]
  split
  · rfl
  · rw [maps_prune, hwrites]

/-- A lookup of an id drops from both maps what it drops. -/
theorem maps_getForToolCallId (hnameless : store.entries.get? "" = none) (id : String) (now : Rat) :
    store.maps.getForToolCallId id now = ((store.getForToolCallId id now).1.maps,
      (store.getForToolCallId id now).2.map Captured.content) := by
  have htime : store.maps.storedAt.get? id = (store.entries.get? id).map Captured.storedAt :=
    Dict.get?_mapValues _ _ _
  have hcontent : store.maps.byToolCallId.get? id = (store.entries.get? id).map Captured.content :=
    Dict.get?_mapValues _ _ _
  by_cases hempty : id = ""
  · subst hempty
    simp [ReasoningMaps.getForToolCallId, getForToolCallId, hnameless]
  · rw [ReasoningMaps.getForToolCallId, if_neg hempty, htime, hcontent, getForToolCallId]
    cases store.entries.get? id with
    | none => rfl
    | some e =>
      simp only [Option.map_some]
      by_cases hold : store.ttl < now - e.storedAt
      · rw [if_pos hold, if_pos (show store.maps.ttl < now - e.storedAt from hold), maps_forget]
        rfl
      · rw [if_neg hold, if_neg (show ¬ store.maps.ttl < now - e.storedAt from hold)]
        rfl

/-! ### What a capture leaves -/

/-- The entries in the order of their times, up to what is too much and from there on. -/
theorem prune_space (store : ReasoningStore Unit) :
    ∃ old kept : List (String × Captured Unit), (old ++ kept).Perm store.entries.entries ∧
      (∀ a ∈ old, ∀ b ∈ kept, a.2.storedAt ≤ b.2.storedAt) ∧
      old.length = store.entries.size - store.maxEntries ∧
      (store.entries.filterKeys (· ∉ store.oldest)).entries.Perm kept := by
  let r : String × Captured Unit → String × Captured Unit → Prop :=
    fun a b ↦ a.2.storedAt ≤ b.2.storedAt
  have htotal : Std.Total r := ⟨fun a b ↦ le_total a.2.storedAt b.2.storedAt⟩
  have htrans : IsTrans _ r := ⟨fun _ _ _ ↦ le_trans⟩
  have hperm := List.perm_insertionSort r store.entries.entries
  have hsorted := List.pairwise_insertionSort r store.entries.entries
  have holdest : store.oldest = ((store.entries.entries.insertionSort r).take
      (store.entries.size - store.maxEntries)).map Prod.fst := (List.map_take).symm
  have hsplit := List.take_append_drop (store.entries.size - store.maxEntries)
    (store.entries.entries.insertionSort r)
  have hlength : ((store.entries.entries.insertionSort r).take
      (store.entries.size - store.maxEntries)).length = store.entries.size - store.maxEntries := by
    rw [List.length_take, List.length_insertionSort]
    exact Nat.min_eq_left (Nat.sub_le _ _)
  generalize (store.entries.entries.insertionSort r).take
    (store.entries.size - store.maxEntries) = old at holdest hsplit hlength
  generalize (store.entries.entries.insertionSort r).drop
    (store.entries.size - store.maxEntries) = kept at hsplit
  rw [← hsplit] at hperm hsorted
  refine ⟨old, kept, hperm, (List.pairwise_append.mp hsorted).2.2, hlength, ?_⟩
  have hnodup : ((old ++ kept).map Prod.fst).Nodup := (hperm.map Prod.fst).nodup_iff.mpr
    store.entries.nodup
  rw [List.map_append, List.nodup_append] at hnodup
  have hfilter : (old ++ kept).filter (fun e ↦ decide (e.1 ∉ store.oldest)) = kept := by
    rw [List.filter_append, List.filter_eq_nil_iff.mpr, List.filter_eq_self.mpr, List.nil_append]
    · intro e he
      refine decide_eq_true fun hold ↦ ?_
      rw [holdest] at hold
      exact hnodup.2.2 e.1 hold e.1 (List.mem_map_of_mem he) rfl
    · intro e he hnot
      refine of_decide_eq_true hnot ?_
      rw [holdest]
      exact List.mem_map_of_mem he
  have hdropped := (hperm.filter (fun e ↦ decide (e.1 ∉ store.oldest))).symm
  rwa [hfilter] at hdropped

/-- The entries are last captures; an id that has none has expired, or gave way to entries that
were captured no earlier and leave no room. -/
structure Remembers (store : ReasoningStore Unit) (now : Rat)
    (latest : String → Option (Rat × String)) : Prop where
  nameless : store.entries.get? "" = none
  past : ∀ id t c, latest id = some (t, c) → t ≤ now
  last : ∀ id e, store.entries.get? id = some e → latest id = some (e.storedAt, e.content)
  dropped : ∀ id t c, latest id = some (t, c) → store.entries.get? id = none →
    store.ttl < now - t ∨ (store.maxEntries ≤ store.entries.size ∧
      ∀ k e, store.entries.get? k = some e → t ≤ e.storedAt)

variable {latest : String → Option (Rat × String)}

/-- What is remembered is so later. -/
theorem Remembers.later {later : Rat} (h : store.Remembers now latest) (hlater : now ≤ later) :
    store.Remembers later latest := by
  refine ⟨h.nameless, fun id t c hlatest ↦ (h.past id t c hlatest).trans hlater, h.last,
    fun id t c hlatest hnone ↦ ?_⟩
  rcases h.dropped id t c hlatest hnone with hold | hgave
  · exact .inl (hold.trans_le (sub_le_sub_right hlater t))
  · exact .inr hgave

/-- Dropping entries that have expired. -/
theorem Remembers.filterKeys (h : store.Remembers now latest) {keep : String → Bool}
    (hkeep : ∀ k e, store.entries.get? k = some e → keep k = false →
      store.ttl < now - e.storedAt) :
    Remembers { store with entries := store.entries.filterKeys keep } now latest := by
  refine ⟨?_, h.past, fun id e hentry ↦ h.last id e (shrinks_filterKeys keep id e hentry),
    fun id t c hlatest hnone ↦ ?_⟩
  · rw [Dict.get?_filterKeys, h.nameless, ite_self]
  · by_cases hold : store.ttl < now - t
    · exact .inl hold
    · right
      cases hentry : store.entries.get? id with
      | some e =>
        rw [Dict.get?_filterKeys, hentry] at hnone
        have htime := h.last id e hentry
        rw [hlatest, Option.some.injEq, Prod.mk.injEq] at htime
        rw [htime.1] at hold
        exact absurd (hkeep id e hentry (by simpa using hnone)) hold
      | none =>
        obtain ⟨hfull, hfirst⟩ := (h.dropped id t c hlatest hentry).resolve_left hold
        -- the id has not expired, so no later entry has
        have hall : store.entries.filterKeys keep = store.entries := by
          rw [Dict.filterKeys]
          congr 1
          refine List.filter_eq_self.mpr fun e he ↦ ?_
          have he := (store.entries.mem_entries_iff e.1 e.2).mp he
          by_contra hdrop
          have hexpired := hkeep e.1 e.2 he (by simpa using hdrop)
          exact hold (hexpired.trans_le (sub_le_sub_left (hfirst e.1 e.2 he) now))
        rw [hall]
        exact ⟨hfull, hfirst⟩

/-- What is known behind a capture. -/
def recapture (latest : String → Option (Rat × String)) (ids : List String) (reasoning : String)
    (now : Rat) (id : String) : Option (Rat × String) :=
  if id ∈ ids ∧ id ≠ "" then some (now, reasoning) else latest id

/-- Writing more entries. -/
theorem size_le_size_foldl (new : Captured Unit) (ids : List String)
    (entries : Dict String (Captured Unit)) :
    entries.size ≤ (ids.foldl (fun entries id ↦
      if id = "" then entries else entries.set id new) entries).size := by
  induction ids generalizing entries with
  | nil => exact Nat.le_refl _
  | cons id rest ih =>
    refine Nat.le_trans ?_ (ih _)
    dsimp only
    split
    · exact Nat.le_refl _
    · rw [Dict.size_set]
      split
      · exact Nat.le_refl _
      · exact Nat.le_succ _

/-- Writing the entries of a capture. -/
theorem Remembers.write (h : store.Remembers now latest) (ids : List String) (reasoning : String) :
    Remembers { store with entries := ids.foldl (fun entries id ↦
        if id = "" then entries else entries.set id ⟨reasoning, now, ()⟩) store.entries }
      now (recapture latest ids reasoning now) := by
  refine ⟨?_, fun id t c hlatest ↦ ?_, fun id e hentry ↦ ?_, fun id t c hlatest hnone ↦ ?_⟩
  · rw [get?_foldl_capture, if_neg (by simp)]
    exact h.nameless
  · unfold recapture at hlatest
    split at hlatest
    · obtain ⟨rfl, -⟩ := Prod.mk.inj (Option.some.inj hlatest)
      exact le_refl _
    · exact h.past id t c hlatest
  · rw [get?_foldl_capture] at hentry
    unfold recapture
    split at hentry
    · next hid =>
      obtain rfl := Option.some.inj hentry
      rw [if_pos hid]
    · next hid =>
      rw [if_neg hid]
      exact h.last id e hentry
  · rw [get?_foldl_capture] at hnone
    unfold recapture at hlatest
    split at hnone
    · cases hnone
    · next hid =>
      rw [if_neg hid] at hlatest
      refine (h.dropped id t c hlatest hnone).imp_right fun hspare ↦ ?_
      obtain ⟨hfull, hfirst⟩ := hspare
      refine ⟨hfull.trans (size_le_size_foldl _ ids store.entries), fun k e hentry ↦ ?_⟩
      rw [get?_foldl_capture] at hentry
      split at hentry
      · obtain rfl := Option.some.inj hentry
        exact h.past id t c hlatest
      · exact hfirst k e hentry

/-- Dropping what is too much. -/
theorem Remembers.space (h : store.Remembers now latest) :
    Remembers { store with entries := store.entries.filterKeys (· ∉ store.oldest) } now latest ∧
      (store.entries.filterKeys (· ∉ store.oldest)).size ≤ store.maxEntries := by
  obtain ⟨old, kept, hperm, hsorted, hlength, hkept⟩ := store.prune_space
  have hsize : (store.entries.filterKeys (· ∉ store.oldest)).size = kept.length := hkept.length_eq
  have htotal : old.length + kept.length = store.entries.size := by
    rw [← List.length_append]
    exact hperm.length_eq
  have hmem : ∀ k e, (store.entries.filterKeys (· ∉ store.oldest)).get? k = some e →
      (k, e) ∈ kept := fun k e hentry ↦
    hkept.mem_iff.mp
      (((store.entries.filterKeys (· ∉ store.oldest)).mem_entries_iff k e).mpr hentry)
  refine ⟨⟨?_, h.past, fun id e hentry ↦ h.last id e (shrinks_filterKeys _ id e hentry),
    fun id t c hlatest hnone ↦ ?_⟩, by omega⟩
  · rw [Dict.get?_filterKeys, h.nameless, ite_self]
  · cases hentry : store.entries.get? id with
    | some e =>
      right
      -- the entry is among the oldest ones, so there were too many
      have htime := h.last id e hentry
      rw [hlatest, Option.some.injEq, Prod.mk.injEq] at htime
      have hold : (id, e) ∈ old := by
        have hthere := hperm.mem_iff.mpr ((store.entries.mem_entries_iff id e).mpr hentry)
        refine (List.mem_append.mp hthere).resolve_right fun hin ↦ ?_
        have hheld := hkept.mem_iff.mpr hin
        rw [Dict.mem_entries_iff, hnone] at hheld
        exact nomatch hheld
      have hpos := List.length_pos_of_mem hold
      refine ⟨?_, fun k e' hentry' ↦ ?_⟩
      · change store.maxEntries ≤ (store.entries.filterKeys (· ∉ store.oldest)).size
        omega
      · rw [htime.1]
        exact hsorted _ hold _ (hmem k e' hentry')
    | none =>
      refine (h.dropped id t c hlatest hentry).imp_right fun ⟨hfull, hfirst⟩ ↦ ⟨?_, ?_⟩
      · change store.maxEntries ≤ (store.entries.filterKeys (· ∉ store.oldest)).size
        omega
      · exact fun k e' hentry' ↦ hfirst k e' (shrinks_filterKeys _ k e' hentry')

/-- The entries have not expired and there is room for them. -/
structure Pruned (store : ReasoningStore Unit) (now : Rat) : Prop where
  fresh : ∀ id e, store.entries.get? id = some e → now - e.storedAt ≤ store.ttl
  size : store.entries.size ≤ store.maxEntries

/-- What is remembered stays so behind a pruning. -/
theorem Remembers.prune (h : store.Remembers now latest) :
    (store.prune now).Remembers now latest ∧ (store.prune now).Pruned now := by
  have hkeep : ∀ k e, store.entries.get? k = some e →
      ((store.entries.get? k).any (fun e : Captured Unit ↦ now - e.storedAt ≤ store.ttl)) = false →
        store.ttl < now - e.storedAt := by
    intro k e hentry hdrop
    rw [hentry, Option.any_some] at hdrop
    exact lt_of_not_ge (of_decide_eq_false hdrop)
  obtain ⟨hspace, hsize⟩ := (h.filterKeys hkeep).space
  refine ⟨hspace, fun id e hentry ↦ ?_, hsize⟩
  have halive := shrinks_filterKeys _ id e hentry
  rw [Dict.get?_filterKeys] at halive
  split at halive
  · next hfresh =>
    rw [halive, Option.any_some] at hfresh
    exact of_decide_eq_true hfresh
  · cases halive

/-- A capture leaves the last captures as far as there is room. -/
theorem Remembers.capture {pruned : Rat} (h : store.Remembers now latest) (ids : List String)
    (reasoning : String) (hpruned : now ≤ pruned) :
    (store.capture ids reasoning () now pruned).Remembers pruned
        (recapture latest ids reasoning now) ∧
      (ids ≠ [] → (store.capture ids reasoning () now pruned).Pruned pruned) := by
  unfold ReasoningStore.capture
  split
  · next hnone =>
    have hsame : recapture latest ids reasoning now = latest := by
      funext id
      rw [recapture, if_neg (by simp [hnone])]
    rw [hsame]
    exact ⟨h.later hpruned, fun hsome ↦ absurd hnone hsome⟩
  · obtain ⟨hremembers, hdone⟩ := ((h.write ids reasoning).later hpruned).prune
    exact ⟨hremembers, fun _ ↦ hdone⟩

/-- A lookup drops what has expired and finds the last capture. -/
theorem Remembers.getForToolCallId {later : Rat} (h : store.Remembers later latest)
    (hlater : now ≤ later) (id : String) :
    (store.getForToolCallId id now).1.Remembers later latest ∧
      ∀ e, (store.getForToolCallId id now).2 = some e →
        latest id = some (e.storedAt, e.content) ∧ now - e.storedAt ≤ store.ttl := by
  unfold ReasoningStore.getForToolCallId
  split
  · exact ⟨h, nofun⟩
  · next entry hentry =>
    split
    · next hold =>
      refine ⟨h.filterKeys fun k e hk hdrop ↦ ?_, nofun⟩
      obtain rfl : k = id := by simpa using hdrop
      obtain rfl := Option.some.inj (hentry.symm.trans hk)
      exact hold.trans_le (sub_le_sub_right hlater _)
    · next hfresh =>
      refine ⟨h, fun e he ↦ ?_⟩
      obtain rfl := Option.some.inj he
      exact ⟨h.last id entry hentry, le_of_not_gt hfresh⟩

/-- A lookup adds nothing and keeps the settings. -/
theorem size_getForToolCallId (store : ReasoningStore Unit) (id : String) (now : Rat) :
    (store.getForToolCallId id now).1.entries.size ≤ store.entries.size ∧
      (store.getForToolCallId id now).1.maxEntries = store.maxEntries ∧
      (store.getForToolCallId id now).1.ttl = store.ttl := by
  unfold ReasoningStore.getForToolCallId
  split
  · exact ⟨Nat.le_refl _, rfl, rfl⟩
  · split
    · exact ⟨List.length_filter_le _ _, rfl, rfl⟩
    · exact ⟨Nat.le_refl _, rfl, rfl⟩

end ReasoningStore

/-! ### Runs -/

namespace ReasoningMaps

/-- A call with the clock as it reads it. -/
inductive Call where
  | capture (ids : List String) (reasoning : String) (now pruned : Rat)
  | lookup (id : String) (now : Rat)
  | rehydrate (messages : List Message) (clock : Nat → Nat → Rat)
  | clear

/-- The clock is read between two times. -/
def Call.Between (first last : Rat) : Call → Prop
  | .capture _ _ now pruned => first ≤ now ∧ now ≤ pruned ∧ pruned ≤ last
  | .lookup _ now => first ≤ now ∧ now ≤ last
  | .rehydrate _ clock => first ≤ last ∧ ∀ i j, first ≤ clock i j ∧ clock i j ≤ last
  | .clear => first ≤ last

/-- A call whose clock is read between two times. -/
structure Timed where
  call : Call
  first : Rat
  last : Rat
  between : call.Between first last

/-- The maps, and the last capture of every id that was not cleared: when, and what. -/
structure Ledger where
  maps : ReasoningMaps
  latest : String → Option (Rat × String)

namespace Ledger

/-- The maps and the ledger behind a call. -/
def step (l : Ledger) : Call → Ledger
  | .capture ids reasoning now pruned =>
    ⟨l.maps.capture ids reasoning now pruned, ReasoningStore.recapture l.latest ids reasoning now⟩
  | .lookup id now => ⟨(l.maps.getForToolCallId id now).1, l.latest⟩
  | .rehydrate messages clock => ⟨(l.maps.rehydrate clock messages).1, l.latest⟩
  | .clear => ⟨l.maps.clear, fun _ ↦ none⟩

/-- A new store. -/
def init (ttl : Rat) (maxEntries : Nat) : Ledger := ⟨.fresh ttl maxEntries, fun _ ↦ none⟩

/-- The two maps have the same keys, in one order. -/
def SameKeys (maps : ReasoningMaps) : Prop :=
  maps.byToolCallId.entries.map Prod.fst = maps.storedAt.entries.map Prod.fst

/-- The maps hold the last captures that have not expired, as far as there is room: an id that is
left out has given way to as many as there is room for, none of which was captured earlier. -/
structure HoldsNewest (l : Ledger) (now : Rat) : Prop where
  size : l.maps.byToolCallId.size ≤ l.maps.maxEntries
  held : ∀ id rc, l.maps.byToolCallId.get? id = some rc →
    ∃ t, l.latest id = some (t, rc) ∧ now - t ≤ l.maps.ttl
  left : ∀ id t rc, l.latest id = some (t, rc) → now - t ≤ l.maps.ttl →
    l.maps.byToolCallId.get? id = none → l.maps.byToolCallId.size = l.maps.maxEntries ∧
      ∀ id' t' rc', l.maps.byToolCallId.get? id' = some rc' → l.latest id' = some (t', rc') → t ≤ t'

/-- A text that a lookup may return: the last one captured for its id, and not expired. -/
def Recalls (l : Ledger) (first last : Rat) (id rc : String) : Prop :=
  ∃ now t, first ≤ now ∧ now ≤ last ∧ l.latest id = some (t, rc) ∧ now - t ≤ l.maps.ttl

/-- A message behind `rehydrate`: as it was, or a tool turn that lacked its reasoning and has now
what a lookup of one of its calls returns. -/
def Rehydrated (l : Ledger) (first last : Rat) (msg out : Message) : Prop :=
  out = msg ∨ (msg.isToolTurn = true ∧ msg.reasoningContent.present = false ∧
    ∃ tc ∈ msg.calls, ∃ id rc, tc.tcId = some id ∧ l.Recalls first last id rc ∧
      out = { msg with reasoningContent := .value rc })

/-- What is promised of a call. -/
structure Keeps (l : Ledger) (c : Timed) : Prop where
  keys : SameKeys (l.step c.call).maps
  capture : ∀ ids reasoning now pruned, c.call = .capture ids reasoning now pruned → ids ≠ [] →
    (l.step c.call).HoldsNewest pruned
  lookup : ∀ id now rc, c.call = .lookup id now → (l.maps.getForToolCallId id now).2 = some rc →
    l.Recalls now now id rc
  rehydrate : ∀ messages clock, c.call = .rehydrate messages clock →
    List.Forall₂ (l.Rehydrated c.first c.last) messages (l.maps.rehydrate clock messages).2

/-- The maps are those of a store that remembers the last captures and has room. -/
def Holds (now : Rat) (l : Ledger) : Prop :=
  ∃ store : ReasoningStore Unit, store.maps = l.maps ∧ store.Remembers now l.latest ∧
    store.entries.size ≤ store.maxEntries

variable {l : Ledger} {now first last : Rat}

/-- The maps of a store have the same keys. -/
theorem sameKeys_maps (store : ReasoningStore Unit) : SameKeys store.maps := by
  simp [SameKeys, ReasoningStore.maps, Dict.mapValues]

/-- What holds does so later. -/
theorem Holds.later (h : l.Holds first) (hle : first ≤ last) : l.Holds last := by
  obtain ⟨store, hmaps, hremembers, hsize⟩ := h
  exact ⟨store, hmaps, hremembers.later hle, hsize⟩

/-- What is so behind some lookups: the maps hold, and their entries last as long. -/
def Looked (l : Ledger) (last : Rat) (maps : ReasoningMaps) : Prop :=
  Holds last ⟨maps, l.latest⟩ ∧ maps.ttl = l.maps.ttl

variable {maps : ReasoningMaps}

/-- A lookup keeps what holds, and returns the last capture. -/
theorem Looked.getForToolCallId (h : l.Looked last maps) (hfirst : first ≤ now)
    (hlast : now ≤ last) (id : String) :
    l.Looked last (maps.getForToolCallId id now).1 ∧
      ∀ rc, (maps.getForToolCallId id now).2 = some rc → l.Recalls first last id rc := by
  obtain ⟨⟨store, rfl, hremembers, hroom⟩, httl⟩ := h
  obtain ⟨hkept, hfound⟩ := hremembers.getForToolCallId hlast id
  obtain ⟨hsize, hmax, hsame⟩ := store.size_getForToolCallId id now
  rw [ReasoningStore.maps_getForToolCallId hremembers.nameless]
  refine ⟨⟨⟨_, rfl, hkept, hmax ▸ hsize.trans hroom⟩, hsame.trans httl⟩, fun rc hrc ↦ ?_⟩
  obtain ⟨e, he, rfl⟩ := Option.map_eq_some_iff.mp hrc
  obtain ⟨hlatest, hfresh⟩ := hfound e he
  exact ⟨now, e.storedAt, hfirst, hlast, hlatest, hfresh.trans_eq httl⟩

/-- The lookups for a message keep what holds, and return a last capture of one of its ids. -/
theorem Looked.recallCalls (h : l.Looked last maps) {clock : Nat → Rat}
    (hclock : ∀ i, first ≤ clock i ∧ clock i ≤ last) (calls : List ToolCall) :
    l.Looked last (maps.recallCalls clock calls).1 ∧
      ∀ rc, (maps.recallCalls clock calls).2 = some rc →
        ∃ tc ∈ calls, ∃ id, tc.tcId = some id ∧ l.Recalls first last id rc := by
  induction calls generalizing maps clock with
  | nil => exact ⟨h, nofun⟩
  | cons tc rest ih =>
    unfold ReasoningMaps.recallCalls
    split
    · obtain ⟨hkept, hfound⟩ := ih h (fun i ↦ hclock (i + 1))
      refine ⟨hkept, fun rc hrc ↦ ?_⟩
      obtain ⟨tc', htc', hid⟩ := hfound rc hrc
      exact ⟨tc', List.mem_cons_of_mem tc htc', hid⟩
    · next id hid =>
      obtain ⟨hkept, hfound⟩ := h.getForToolCallId (hclock 0).1 (hclock 0).2 id
      dsimp only
      split
      · next rc hrc =>
        refine ⟨hkept, fun rc' hrc' ↦ ?_⟩
        obtain rfl := Option.some.inj hrc'
        exact ⟨tc, List.mem_cons_self, id, hid, hfound rc (Option.filter_eq_some_iff.mp hrc).1⟩
      · obtain ⟨hkept', hfound'⟩ := ih hkept (fun i ↦ hclock (i + 1))
        refine ⟨hkept', fun rc hrc ↦ ?_⟩
        obtain ⟨tc', htc', hid'⟩ := hfound' rc hrc
        exact ⟨tc', List.mem_cons_of_mem tc htc', hid'⟩

/-- One message behind `rehydrate`. -/
theorem Looked.rehydrateOne (h : l.Looked last maps) {clock : Nat → Rat}
    (hclock : ∀ i, first ≤ clock i ∧ clock i ≤ last) (msg : Message) :
    l.Looked last (maps.rehydrateOne clock msg).1 ∧
      l.Rehydrated first last msg (maps.rehydrateOne clock msg).2 := by
  unfold ReasoningMaps.rehydrateOne
  split
  · exact ⟨h, .inl rfl⟩
  · next hneeds =>
    obtain ⟨hkept, hfound⟩ := h.recallCalls hclock msg.calls
    dsimp only
    split
    · next rc hrc =>
      simp only [Bool.or_eq_true, Bool.not_eq_true', not_or, Bool.not_eq_false,
        Bool.not_eq_true] at hneeds
      obtain ⟨tc, htc, id, hid, hrecalls⟩ := hfound rc hrc
      exact ⟨hkept, .inr ⟨hneeds.1, hneeds.2, tc, htc, id, rc, hid, hrecalls, rfl⟩⟩
    · exact ⟨hkept, .inl rfl⟩

/-- The messages behind `rehydrate`. -/
theorem Looked.rehydrate (h : l.Looked last maps) {clock : Nat → Nat → Rat}
    (hclock : ∀ i j, first ≤ clock i j ∧ clock i j ≤ last) (messages : List Message) :
    l.Looked last (maps.rehydrate clock messages).1 ∧
      List.Forall₂ (l.Rehydrated first last) messages (maps.rehydrate clock messages).2 := by
  induction messages generalizing maps clock with
  | nil => exact ⟨h, .nil⟩
  | cons msg rest ih =>
    obtain ⟨hkept, hmsg⟩ := h.rehydrateOne (hclock 0) msg
    obtain ⟨hkept', hrest⟩ := ih hkept (fun i ↦ hclock (i + 1))
    exact ⟨hkept', .cons hmsg hrest⟩

/-- The maps of a pruned store hold the last captures as far as there is room. -/
theorem holdsNewest_maps {store : ReasoningStore Unit} {latest : String → Option (Rat × String)}
    (h : store.Remembers now latest) (hpruned : store.Pruned now) :
    HoldsNewest ⟨store.maps, latest⟩ now := by
  have hsize : store.maps.byToolCallId.size = store.entries.size := List.length_map _
  have hget : ∀ id, store.maps.byToolCallId.get? id =
      (store.entries.get? id).map Captured.content := fun _ ↦ Dict.get?_mapValues _ _ _
  refine ⟨hsize ▸ hpruned.size, fun id rc hheld ↦ ?_, fun id t rc hlatest hfresh hnone ↦ ?_⟩
  · obtain ⟨e, hentry, rfl⟩ := Option.map_eq_some_iff.mp ((hget id).symm.trans hheld)
    exact ⟨e.storedAt, h.last id e hentry, hpruned.fresh id e hentry⟩
  · have hgone : store.entries.get? id = none :=
      Option.map_eq_none_iff.mp ((hget id).symm.trans hnone)
    obtain ⟨hfull, hfirst⟩ := (h.dropped id t rc hlatest hgone).resolve_left (not_lt_of_ge hfresh)
    refine ⟨hsize.trans (Nat.le_antisymm hpruned.size hfull), fun id' t' rc' hheld hlatest' ↦ ?_⟩
    obtain ⟨e, hentry, -⟩ := Option.map_eq_some_iff.mp ((hget id').symm.trans hheld)
    have hlast := hlatest'.symm.trans (h.last id' e hentry)
    rw [(Prod.mk.inj (Option.some.inj hlast)).1]
    exact hfirst id' e hentry

/-- A capture keeps what holds, and leaves the last captures. -/
theorem Holds.capture {pruned : Rat} (h : l.Holds now) (hpruned : now ≤ pruned)
    (ids : List String) (reasoning : String) :
    (l.step (.capture ids reasoning now pruned)).Holds pruned ∧
      (ids ≠ [] → (l.step (.capture ids reasoning now pruned)).HoldsNewest pruned) := by
  obtain ⟨maps, latest⟩ := l
  obtain ⟨store, rfl, hremembers, hroom⟩ := h
  obtain ⟨hkept, hdone⟩ := hremembers.capture ids reasoning hpruned
  rw [Ledger.step, ← ReasoningStore.maps_capture]
  refine ⟨⟨_, rfl, hkept, ?_⟩, fun hsome ↦ holdsNewest_maps hkept (hdone hsome)⟩
  by_cases hsome : ids = []
  · rwa [ReasoningStore.capture, if_pos hsome]
  · exact (hdone hsome).size

/-- What holds has the same keys in both maps. -/
theorem Holds.sameKeys (h : l.Holds now) : SameKeys l.maps := by
  obtain ⟨store, hmaps, -, -⟩ := h
  rw [← hmaps]
  exact sameKeys_maps store

/-- A call keeps what it promises, and what holds behind it. -/
theorem Holds.step {c : Timed} (h : l.Holds c.first) :
    (l.step c.call).Holds c.last ∧ l.Keeps c := by
  obtain ⟨call, first, last, between⟩ := c
  cases call with
  | capture ids reasoning now pruned =>
    obtain ⟨hfirst, hpruned, hlast⟩ := between
    obtain ⟨hkept, hnewest⟩ := (h.later hfirst).capture hpruned ids reasoning
    refine ⟨hkept.later hlast, hkept.sameKeys, ?_, nofun, nofun⟩
    rintro _ _ _ _ ⟨rfl⟩
    exact hnewest
  | lookup id now =>
    obtain ⟨hfirst, hlast⟩ := between
    have hlooked : l.Looked now l.maps := ⟨h.later hfirst, rfl⟩
    obtain ⟨⟨hkept, -⟩, hfound⟩ := hlooked.getForToolCallId (le_refl now) (le_refl now) id
    refine ⟨hkept.later hlast, hkept.sameKeys, nofun, ?_, nofun⟩
    rintro _ _ rc ⟨rfl⟩
    exact hfound rc
  | rehydrate messages clock =>
    obtain ⟨hle, hclock⟩ := between
    have hlooked : l.Looked last l.maps := ⟨h.later hle, rfl⟩
    obtain ⟨⟨hkept, -⟩, hmessages⟩ := hlooked.rehydrate hclock messages
    refine ⟨hkept, hkept.sameKeys, nofun, nofun, ?_⟩
    rintro _ _ ⟨rfl⟩
    exact hmessages
  | clear =>
    have hkept : (l.step .clear).Holds last := by
      refine ⟨.fresh l.maps.ttl l.maps.maxEntries, rfl, ⟨rfl, nofun, nofun, nofun⟩, Nat.zero_le _⟩
    exact ⟨hkept, hkept.sameKeys, nofun, nofun, nofun⟩

/-- A new store holds the last captures. -/
theorem holds_init (ttl : Rat) (maxEntries : Nat) (now : Rat) :
    (Ledger.init ttl maxEntries).Holds now :=
  ⟨.fresh ttl maxEntries, rfl, ⟨rfl, nofun, nofun, nofun⟩, Nat.zero_le _⟩

/-- In every run in the order of its times every call keeps what it promises. -/
theorem keeps_run (ttl : Rat) (maxEntries : Nat) (calls : List Timed)
    (horder : calls.Pairwise (fun c d ↦ c.last ≤ d.first)) :
    ∀ p ∈ steps (fun l c ↦ Ledger.step l c.call) (.init ttl maxEntries) calls,
      p.1.Keeps p.2 := by
  have hkeep : ∀ (l : Ledger) (c d : Timed), l.Holds c.first → True → c.last ≤ d.first →
      (l.step c.call).Holds d.first := fun _ _ _ h _ hle ↦ h.step.1.later hle
  have hsafe : ∀ (l : Ledger) (c : Timed), l.Holds c.first → (l.Keeps c ↔ True) :=
    fun _ _ h ↦ iff_true_intro h.step.2
  exact (ordered_steps_safe_iff hsafe hkeep _ calls
    (fun c _ ↦ holds_init ttl maxEntries c.first) horder).mpr fun _ _ ↦ trivial

/-- A capture of some ids at one time. -/
def captureAt (ids : List String) (now : Rat) : Timed :=
  ⟨.capture ids "a plan" now now, now, now, le_refl now, le_refl now, le_refl now⟩

/-- Two captures, and a third one for which there is no room. -/
theorem keeps_run_full :
    [captureAt ["a"] 0, captureAt ["b"] 1, captureAt ["c"] 2].Pairwise
        (fun c d ↦ c.last ≤ d.first) ∧
      ∀ p ∈ steps (fun l c ↦ Ledger.step l c.call) (.init 3600 2)
        [captureAt ["a"] 0, captureAt ["b"] 1, captureAt ["c"] 2], p.1.Keeps p.2 := by
  have horder : [captureAt ["a"] 0, captureAt ["b"] 1, captureAt ["c"] 2].Pairwise
      (fun c d ↦ c.last ≤ d.first) := by decide +kernel
  exact ⟨horder, keeps_run 3600 2 _ horder⟩

/-- The place of the last capture of an id in a run, from one on. -/
def lastPlace (calls : List Timed) (id : String) : Nat :=
  calls.length - calls.reverse.findIdx (fun c ↦
    match c.call with
    | .capture ids _ _ _ => ids.contains id
    | _ => false)

/-- The maps hold no id that has expired, and the ids of the last captures of the run. -/
structure HoldsLastCalls (l : Ledger) (calls : List Timed) (now : Rat) : Prop where
  fresh : ∀ id t rc, (l.maps.byToolCallId.get? id).isSome → l.latest id = some (t, rc) →
    now - t ≤ l.maps.ttl
  recent : ∀ id t rc, l.latest id = some (t, rc) → now - t ≤ l.maps.ttl →
    l.maps.byToolCallId.get? id = none → ∀ id', (l.maps.byToolCallId.get? id').isSome →
      lastPlace calls id < lastPlace calls id'

/-- The state behind a run. -/
def behind (ttl : Rat) (maxEntries : Nat) (calls : List Timed) : Ledger :=
  run (fun l c ↦ Ledger.step l c.call) (.init ttl maxEntries) calls

/-- Captures of one time: the second capture of an id counts as the first one. -/
def sameTime : List Timed :=
  [captureAt ["a"] 0, captureAt ["b"] 0, captureAt ["a"] 0, captureAt ["c"] 0]

/-- A capture without ids, when another one has expired. -/
def noIds : List Timed := [captureAt ["a"] 0, captureAt [] 3601]

/-- Behind captures of one time an id is gone that was captured after one that is held, and behind a
capture without ids an expired one is held. -/
theorem not_holdsLastCalls :
    ¬ (behind 3600 2 sameTime).HoldsLastCalls sameTime 0 ∧
      ¬ (behind 3600 2 noIds).HoldsLastCalls noIds 3601 := by
  constructor
  · intro h
    have hplace := h.recent "a" 0 "a plan" (by decide +kernel) (by decide +kernel)
      (by decide +kernel) "b" (by decide +kernel)
    exact absurd hplace (by decide)
  · intro h
    have hfresh := h.fresh "a" 0 "a plan" (by decide +kernel) (by decide +kernel)
    exact absurd hfresh (by decide +kernel)

end Ledger

end ReasoningMaps

end LcpGateway.Pipeline
