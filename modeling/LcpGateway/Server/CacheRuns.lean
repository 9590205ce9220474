import LcpGateway.Base.Run
import LcpGateway.Server.PromptCache

/-!
# Runs of the prompt cache

Library `Server`. Source `src/api/prompt_cache.py:19–73`. A run of lookups, stores and clearings in
the order of their times, with the last store under each key beside it. The cache answers from the
last stores that it has not dropped; it drops the reply of another key for a store that overwrites
one, since it looks at its size before it knows the key.
-/

namespace LcpGateway.Server
open LcpGateway.Base LcpGateway.Breaker

namespace PromptCache

/-- `PromptCache(ttl_seconds, max_entries)`. -/
def init (ttl : Time) (maxEntries : Nat) : PromptCache := ⟨Dict.empty, ttl, maxEntries, 0, 0⟩

/-- `clear`; `prompt_cache.py:71–73`. -/
def clear (cache : PromptCache) : PromptCache := { cache with entries := Dict.empty }

/-- A call, once its key is made. -/
inductive Call where
  | get (key : String)
  | set (key : String) (response : Json)
  | clear

/-- The cache after a call; one that raises leaves it as it is. -/
def after (cache : PromptCache) (now : Time) : Call → PromptCache
  | .get key => (cache.get key now).2
  | .set key response => (cache.set key now response).getD cache
  | .clear => cache.clear

/-- An entry that the call makes room with: it was there before and is not behind it. -/
def Drops (cache : PromptCache) (now : Time) (call : Call) (key : String) : Prop :=
  (cache.entries.get? key).isSome ∧ ((cache.after now call).entries.get? key).isNone

instance (cache : PromptCache) (now : Time) (call : Call) (key : String) :
    Decidable (cache.Drops now call key) := by
  unfold Drops
  infer_instance

/-- The cache, and under each key the last store that was neither cleared nor dropped for another
one: when it expires, and its reply. -/
structure Ledger where
  cache : PromptCache
  latest : String → Option (Time × Json)

namespace Ledger

/-- What is remembered of the stores behind a call. -/
def remember (l : Ledger) (now : Time) : Call → String → Option (Time × Json)
  | .get _, k => l.latest k
  | .set key response, k =>
    if k = key then some (now + l.cache.ttl, response)
    else if l.cache.Drops now (.set key response) k then none else l.latest k
  | .clear, _ => none

/-- One call at its time. -/
def step (l : Ledger) (call : Time × Call) : Ledger :=
  ⟨l.cache.after call.1 call.2, l.remember call.1 call.2⟩

/-- Before the first call. -/
def init (ttl : Time) (maxEntries : Nat) : Ledger := ⟨.init ttl maxEntries, fun _ ↦ none⟩

/-- A lookup answers the last store while it has not expired. -/
def Answers (l : Ledger) (now : Time) : Call → Prop
  | .get key => (l.cache.get key now).1 =
      ((l.latest key).filter (fun e ↦ now ≤ e.1)).map Prod.snd
  | _ => True

/-- A store drops an entry only for a key that is new and has no room, and then the one that
expires first. -/
def DropsFirst (l : Ledger) (now : Time) : Call → Prop
  | .set key response => ∀ k expires reply, l.cache.entries.get? k = some (expires, reply) →
      l.cache.Drops now (.set key response) k →
        l.cache.entries.get? key = none ∧ l.cache.maxEntries ≤ l.cache.entries.size ∧
          ∀ k' expires' reply', l.cache.entries.get? k' = some (expires', reply') →
            expires ≤ expires'
  | _ => True

/-- The call is one of a bounded map whose entries expire. -/
structure Bounded (l : Ledger) (call : Time × Call) : Prop where
  size : (l.step call).cache.entries.size ≤ l.cache.maxEntries
  answers : l.Answers call.1 call.2
  drops : l.DropsFirst call.1 call.2

/-- A store has room, or its key is new, or the entry that makes room is the one that it
overwrites. -/
def Fits (l : Ledger) (call : Time × Call) : Prop :=
  match call.2 with
  | .set key _ => l.cache.entries.size < l.cache.maxEntries ∨ l.cache.entries.get? key = none ∨
      l.cache.oldestKey = some key
  | _ => True

instance (l : Ledger) (call : Time × Call) : Decidable (l.Fits call) := by
  obtain ⟨now, call⟩ := call
  cases call <;> (unfold Fits; infer_instance)

/-- What a run keeps: the size, and an entry for every last store that has not expired. -/
structure Invariant (now : Time) (l : Ledger) : Prop where
  room : 1 ≤ l.cache.maxEntries
  size : l.cache.entries.size ≤ l.cache.maxEntries
  latest : ∀ k e, l.cache.entries.get? k = some e → l.latest k = some e
  entry : ∀ k e, l.latest k = some e → now ≤ e.1 → l.cache.entries.get? k = some e

end Ledger

variable {cache : PromptCache} {now : Time} {key : String} {response : Json}

/-- The entry that makes room is in the cache and expires first. -/
theorem oldestKey_eq_some {oldest : String} (h : cache.oldestKey = some oldest) :
    ∃ e, cache.entries.get? oldest = some e ∧
      ∀ k e', cache.entries.get? k = some e' → e.1 ≤ e'.1 := by
  obtain ⟨entry, hmin, rfl⟩ := Option.map_eq_some_iff.mp h
  refine ⟨entry.2, (cache.entries.mem_entries_iff _ _).mp (List.argmin_mem hmin), ?_⟩
  intro k e' hentry
  have hmem : (k, e') ∈ cache.entries.entries := (cache.entries.mem_entries_iff k e').mpr hentry
  have hle := List.le_of_mem_argmin hmem hmin
  exact hle

/-- How a store leaves a cache that can hold an entry. -/
theorem after_set (hroom : 1 ≤ cache.maxEntries) :
    (cache.entries.size < cache.maxEntries ∧ cache.after now (.set key response) =
      { cache with entries := cache.entries.set key (now + cache.ttl, response) }) ∨
    (cache.maxEntries ≤ cache.entries.size ∧ ∃ oldest, cache.oldestKey = some oldest ∧
      cache.after now (.set key response) = { cache with
        entries := (cache.entries.filterKeys (· ≠ oldest)).set key
          (now + cache.ttl, response) }) := by
  by_cases hsize : cache.entries.size < cache.maxEntries
  · left
    exact ⟨hsize, by simp [after, set, evict, hsize]⟩
  · right
    obtain ⟨cache', hset⟩ := Option.isSome_iff_exists.mp
      (isSome_set hroom : (cache.set key now response).isSome)
    refine ⟨Nat.le_of_not_lt hsize, ?_⟩
    simp only [set, evict, if_neg hsize, Option.map_map, Option.map_eq_some_iff] at hset
    obtain ⟨oldest, holdest, -⟩ := hset
    exact ⟨oldest, holdest, by simp [after, set, evict, hsize, holdest]⟩

/-- What stands under a key behind a store. -/
theorem get?_after_set (hroom : 1 ≤ cache.maxEntries) (k : String) :
    (cache.after now (.set key response)).entries.get? k =
      if k = key then some (now + cache.ttl, response)
      else if cache.maxEntries ≤ cache.entries.size ∧ cache.oldestKey = some k then none
      else cache.entries.get? k := by
  obtain ⟨hsize, hafter⟩ | ⟨hsize, oldest, holdest, hafter⟩ :=
    @after_set cache now key response hroom
  · have hnot : ¬ (cache.maxEntries ≤ cache.entries.size ∧ cache.oldestKey = some k) :=
      fun h ↦ absurd h.1 (Nat.not_le_of_lt hsize)
    rw [hafter, Dict.get?_set, if_congr eq_comm rfl rfl, if_neg hnot]
  · rw [hafter, Dict.get?_set, Dict.get?_filterKeys, if_congr eq_comm rfl rfl, holdest]
    by_cases hk : k = oldest
    · simp [hk, hsize]
    · simp [hk, Ne.symm hk]

/-- A store drops the entry that expires first when there is no room, but for its own. -/
theorem drops_set_iff (hroom : 1 ≤ cache.maxEntries) (k : String) :
    cache.Drops now (.set key response) k ↔
      cache.maxEntries ≤ cache.entries.size ∧ cache.oldestKey = some k ∧ k ≠ key := by
  rw [Drops, get?_after_set hroom]
  constructor
  · rintro ⟨hthere, hgone⟩
    by_cases hk : k = key
    · simp [hk] at hgone
    · by_cases hdropped : cache.maxEntries ≤ cache.entries.size ∧ cache.oldestKey = some k
      · exact ⟨hdropped.1, hdropped.2, hk⟩
      · rw [if_neg hk, if_neg hdropped] at hgone
        simp [Option.isNone_iff_eq_none.mp hgone] at hthere
  · rintro ⟨hsize, holdest, hk⟩
    obtain ⟨e, hentry, -⟩ := oldestKey_eq_some holdest
    rw [if_neg hk, if_pos ⟨hsize, holdest⟩, hentry]
    exact ⟨rfl, rfl⟩

/-- A store keeps to the size of a cache that can hold an entry. -/
theorem size_after_set (hroom : 1 ≤ cache.maxEntries)
    (hsize : cache.entries.size ≤ cache.maxEntries) :
    (cache.after now (.set key response)).entries.size ≤ cache.maxEntries := by
  obtain ⟨hlt, hafter⟩ | ⟨-, oldest, holdest, hafter⟩ := @after_set cache now key response hroom
  · rw [hafter, Dict.size_set]
    split
    · exact hsize
    · exact hlt
  · obtain ⟨e, hentry, -⟩ := oldestKey_eq_some holdest
    have hless := cache.entries.size_filterKeys_ne hentry
    rw [hafter, Dict.size_set]
    split
    · exact le_trans (Nat.le_of_succ_le hless.le) hsize
    · exact hless.trans_le hsize

/-- A lookup leaves the entries, but for an expired one under its key. -/
theorem after_get : (cache.after now (.get key)).entries = cache.entries ∨
    ∃ e, cache.entries.get? key = some e ∧ e.1 < now ∧
      (cache.after now (.get key)).entries = cache.entries.filterKeys (· ≠ key) := by
  cases hentry : cache.entries.get? key with
  | none => exact .inl (by simp [after, get, hentry])
  | some e =>
    by_cases hexpired : e.1 < now
    · exact .inr ⟨e, rfl, hexpired, by simp [after, get, hentry, hexpired]⟩
    · exact .inl (by simp [after, get, hentry, hexpired])

/-- A call keeps the capacity and the lifetime. -/
theorem settings_after (call : Call) :
    (cache.after now call).maxEntries = cache.maxEntries ∧
      (cache.after now call).ttl = cache.ttl := by
  cases call with
  | get key => exact ⟨maxEntries_get, ttl_get⟩
  | set key response =>
    rw [after]
    cases hset : cache.set key now response with
    | none => exact ⟨rfl, rfl⟩
    | some cache' =>
      obtain ⟨evicted, hevict, rfl⟩ := Option.map_eq_some_iff.mp hset
      unfold evict at hevict
      split at hevict
      · obtain rfl := Option.some.inj hevict
        exact ⟨rfl, rfl⟩
      · obtain ⟨oldest, -, rfl⟩ := Option.map_eq_some_iff.mp hevict
        exact ⟨rfl, rfl⟩
  | clear => exact ⟨rfl, rfl⟩

/-- A call keeps to the size of a cache that can hold an entry. -/
theorem size_after (hroom : 1 ≤ cache.maxEntries)
    (hsize : cache.entries.size ≤ cache.maxEntries) (call : Call) :
    (cache.after now call).entries.size ≤ cache.maxEntries := by
  cases call with
  | get key =>
    obtain hsame | ⟨e, hentry, -, hless⟩ := @after_get cache now key
    · rwa [hsame]
    · rw [hless]
      have hsize' := cache.entries.size_filterKeys_ne hentry
      omega
  | set key response => exact size_after_set hroom hsize
  | clear => exact Nat.zero_le _

namespace Ledger

variable {l : Ledger}

/-- A lookup answers the last store while it has not expired. -/
theorem Invariant.answers (h : l.Invariant now) (call : Call) : l.Answers now call := by
  cases call with
  | get key =>
    ext response
    rw [get_fst_eq_some_iff]
    constructor
    · rintro ⟨expires, hentry, hfresh⟩
      simp [h.latest key _ hentry, hfresh]
    · intro hanswer
      obtain ⟨e, hlatest, rfl⟩ := Option.map_eq_some_iff.mp hanswer
      obtain ⟨hlatest, hfresh⟩ := Option.filter_eq_some_iff.mp hlatest
      have hfresh : now ≤ e.1 := by simpa using hfresh
      exact ⟨e.1, h.entry key e hlatest hfresh, hfresh⟩
  | set key response => trivial
  | clear => trivial

/-- A store drops what it may drop when it fits. -/
theorem Invariant.dropsFirst_iff (h : l.Invariant now) (call : Call) :
    l.DropsFirst now call ↔ l.Fits (now, call) := by
  cases call with
  | get key => exact iff_of_true trivial trivial
  | clear => exact iff_of_true trivial trivial
  | set key response =>
    constructor
    · intro hdrops
      by_cases hsize : l.cache.entries.size < l.cache.maxEntries
      · exact .inl hsize
      · -- a full cache has an entry that makes room
        have hfull : l.cache.maxEntries ≤ l.cache.entries.size := Nat.le_of_not_lt hsize
        obtain ⟨hlt, -⟩ | ⟨-, oldest, holdest, -⟩ :=
          @after_set l.cache now key response h.room
        · exact absurd hlt hsize
        · by_cases hown : oldest = key
          · exact .inr (.inr (hown ▸ holdest))
          · obtain ⟨⟨expires, reply⟩, hentry, -⟩ := oldestKey_eq_some holdest
            have hdropped : l.cache.Drops now (.set key response) oldest :=
              (drops_set_iff h.room oldest).mpr ⟨hfull, holdest, hown⟩
            exact .inr (.inl (hdrops oldest expires reply hentry hdropped).1)
    · intro hfits k expires reply hentry hdropped
      obtain ⟨hsize, holdest, hown⟩ := (drops_set_iff h.room k).mp hdropped
      obtain ⟨e, hentry', hfirst⟩ := oldestKey_eq_some holdest
      obtain rfl := Option.some.inj (hentry.symm.trans hentry')
      rcases hfits with hlt | hnew | hself
      · exact absurd hsize (Nat.not_le_of_lt hlt)
      · exact ⟨hnew, hsize, fun k' expires' reply' hk' ↦ hfirst k' _ hk'⟩
      · exact absurd (Option.some.inj (holdest.symm.trans hself)) hown

/-- A call is one of a bounded map exactly when it fits. -/
theorem bounded_iff (call : Time × Call) (h : l.Invariant call.1) :
    l.Bounded call ↔ l.Fits call := by
  rw [← h.dropsFirst_iff call.2]
  constructor
  · exact fun hbounded ↦ hbounded.drops
  · exact fun hdrops ↦ ⟨size_after h.room h.size call.2, h.answers call.2, hdrops⟩

/-- What is remembered behind a store. -/
theorem remember_set (hroom : 1 ≤ l.cache.maxEntries) (k : String) :
    l.remember now (.set key response) k =
      if k = key then some (now + l.cache.ttl, response)
      else if l.cache.maxEntries ≤ l.cache.entries.size ∧ l.cache.oldestKey = some k then none
      else l.latest k := by
  rw [remember]
  by_cases hk : k = key
  · rw [if_pos hk, if_pos hk]
  · rw [if_neg hk, if_neg hk, if_congr (drops_set_iff hroom k) rfl rfl]
    simp only [ne_eq, hk, not_false_eq_true, and_true]

/-- What a run keeps is kept by a call, for the times behind it. -/
theorem Invariant.step {call : Time × Call} {later : Time} (h : l.Invariant call.1)
    (hlater : call.1 ≤ later) : (l.step call).Invariant later := by
  obtain ⟨now, call⟩ := call
  have hsettings := @settings_after l.cache now call
  have hsize := @size_after l.cache now h.room h.size call
  suffices hlatest : ∀ k e,
      ((l.cache.after now call).entries.get? k = some e → l.remember now call k = some e) ∧
        (l.remember now call k = some e → later ≤ e.1 →
          (l.cache.after now call).entries.get? k = some e) from
    ⟨hsettings.1 ▸ h.room, hsettings.1 ▸ hsize, fun k e ↦ (hlatest k e).1,
      fun k e ↦ (hlatest k e).2⟩
  intro k e
  cases call with
  | get key =>
    obtain hsame | ⟨expired, hentry, hexpired, hless⟩ := @after_get l.cache now key
    · rw [hsame]
      exact ⟨h.latest k e, fun hlatest hfresh ↦ h.entry k e hlatest (hlater.trans hfresh)⟩
    · rw [hless, Dict.get?_filterKeys]
      by_cases hk : k = key
      · subst hk
        -- what the lookup has dropped expired before it
        rw [if_neg (by simp)]
        refine ⟨fun hnone ↦ absurd hnone (by simp), fun hlatest hfresh ↦ ?_⟩
        obtain rfl := Option.some.inj (hlatest.symm.trans (h.latest k expired hentry))
        exact absurd (lt_of_lt_of_le hexpired hlater) (not_lt_of_ge hfresh)
      · rw [if_pos (by simpa using hk)]
        exact ⟨h.latest k e, fun hlatest hfresh ↦ h.entry k e hlatest (hlater.trans hfresh)⟩
  | set key response =>
    rw [get?_after_set h.room, remember_set h.room]
    split
    · exact ⟨id, fun hstored _ ↦ hstored⟩
    · split
      · constructor <;> intro hnone <;> cases hnone
      · exact ⟨h.latest k e, fun hlatest hfresh ↦ h.entry k e hlatest (hlater.trans hfresh)⟩
  | clear => constructor <;> intro hnone <;> cases hnone

/-- A new cache has what a run keeps. -/
theorem invariant_init {ttl : Time} {maxEntries : Nat} (hroom : 1 ≤ maxEntries) (now : Time) :
    (Ledger.init ttl maxEntries).Invariant now :=
  ⟨hroom, Nat.zero_le _, nofun, nofun⟩

/-- In every run in the order of its times the cache is a bounded map whose entries expire, exactly
when every store fits. -/
theorem bounded_run_iff (ttl : Time) {maxEntries : Nat} (hroom : 1 ≤ maxEntries)
    (calls : List (Time × Call)) (horder : calls.Pairwise (fun c d ↦ c.1 ≤ d.1)) :
    (∀ p ∈ steps Ledger.step (.init ttl maxEntries) calls, p.1.Bounded p.2) ↔
      ∀ p ∈ steps Ledger.step (.init ttl maxEntries) calls, p.1.Fits p.2 := by
  have hsafe : ∀ (l : Ledger) (call : Time × Call), l.Invariant call.1 →
      (l.Bounded call ↔ l.Fits call) := fun _ call h ↦ bounded_iff call h
  have hkeep : ∀ (l : Ledger) (call later : Time × Call), l.Invariant call.1 → l.Fits call →
      call.1 ≤ later.1 → (l.step call).Invariant later.1 := fun _ _ _ h _ hlater ↦ h.step hlater
  exact ordered_steps_safe_iff hsafe hkeep _ calls
    (fun call _ ↦ invariant_init hroom call.1) horder

/-- A cache for one entry, with stores under two keys: it is a bounded map. -/
theorem bounded_run_twoKeys :
    0 < 1 ∧ ∀ p ∈ steps Ledger.step (.init 10 1)
        [((0 : Time), .set "a" .null), (1, .set "b" .null), (2, .get "a"), (3, .clear)],
      p.1.Bounded p.2 := by
  have hroom : 0 < 1 := Nat.one_pos
  exact ⟨hroom, (bounded_run_iff 10 hroom _ (by decide +kernel)).mpr (by decide +kernel)⟩

/-- A cache for two entries: an overwritten reply costs the other one its place. -/
theorem overwriting_drops_another :
    ¬ ∀ p ∈ steps Ledger.step (.init 10 2)
        [((0 : Time), .set "a" .null), (1, .set "b" .null), (2, .set "b" (.bool true))],
      p.1.Bounded p.2 := by
  intro h
  simp only [steps, List.forall_mem_cons] at h
  obtain ⟨-, -, hlast, -⟩ := h
  have hdropped := hlast.drops "a" (0 + 10) .null rfl (by decide +kernel)
  cases hdropped.1

end Ledger

end PromptCache

end LcpGateway.Server
