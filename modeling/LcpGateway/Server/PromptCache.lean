import LcpGateway.Pipeline.Verbatim
import LcpGateway.Server.Authentication
import Mathlib.Data.List.MinMax

/-!
# The prompt cache

Library `Server`. Source `src/api/prompt_cache.py` and its two uses in
`src/server/handler.py:435–451,603–610`. A reply is stored under a digest of the profile, the model
and three fields of the request: the client's when it is looked up, the forwarded ones when it is
stored. The digest is a parameter, and so is how Python formats a list or an object.
-/

namespace LcpGateway.Server
open LcpGateway.Base LcpGateway.Breaker LcpGateway.Chat LcpGateway.Config LcpGateway.Pipeline

/-- `PromptCache`: under each key the time its reply expires, and the reply. -/
structure PromptCache where
  entries : Dict String (Time × Json)
  ttl : Time
  maxEntries : Nat
  hits : Nat
  misses : Nat

namespace PromptCache

/-- `PromptCache()`. -/
def new : PromptCache := ⟨Dict.empty, 3600, 1000, 0, 0⟩

variable (cache : PromptCache)

/-- `get`, once the key is made; `prompt_cache.py:36–56`. -/
def get (key : String) (now : Time) : Option Json × PromptCache :=
  match cache.entries.get? key with
  | none => (none, { cache with misses := cache.misses + 1 })
  | some (expires, response) =>
    if expires < now then
      (none, { cache with
        entries := cache.entries.filterKeys (· ≠ key)
        misses := cache.misses + 1 })
    else (some response, { cache with hits := cache.hits + 1 })

/-- The key of the entry that expires first. -/
def oldestKey : Option String :=
  (cache.entries.entries.argmin (fun e ↦ e.2.1)).map Prod.fst

/-- The eviction of a full cache; an empty one that is full is a `ValueError`. -/
def evict : Option PromptCache :=
  if cache.entries.size < cache.maxEntries then some cache
  else cache.oldestKey.map (fun key ↦
    { cache with entries := cache.entries.filterKeys (· ≠ key) })

/-- `set`, once the key is made; `prompt_cache.py:58–69`. -/
def set (key : String) (now : Time) (response : Json) : Option PromptCache :=
  cache.evict.map (fun cache ↦
    { cache with entries := cache.entries.set key (now + cache.ttl, response) })

end PromptCache

/-! ### Lookups and stores -/

namespace PromptCache

variable {cache cache' : PromptCache} {key : String} {now : Time} {response : Json}

/-- A lookup answers what is stored and has not expired. -/
theorem get_fst_eq_some_iff :
    (cache.get key now).1 = some response ↔
      ∃ expires, cache.entries.get? key = some (expires, response) ∧ now ≤ expires := by
  unfold get
  split
  · next hnone => simp [hnone]
  · next expires stored hsome =>
    split
    · next hexpired => simp [hsome, hexpired]
    · next hfresh => simp [hsome, le_of_not_gt hfresh, and_comm]

/-- A lookup that fails leaves nothing under its key. -/
theorem get?_of_missed (h : (cache.get key now).1 = none) :
    (cache.get key now).2.entries.get? key = none := by
  unfold get at h ⊢
  split at h
  · next hnone => simp [hnone]
  · next hsome =>
    split at h
    · next hexpired => simp [hexpired, Dict.get?_filterKeys]
    · simp at h

/-- A lookup by the time an entry expires keeps it, and makes no entry up. -/
theorem get?_get {key' : String} {entry : Option (Time × Json)} {last : Time}
    (hentry : cache.entries.get? key = entry) (hlast : ∀ e ∈ entry, last ≤ e.1)
    (hnow : now ≤ last) :
    (cache.get key' now).2.entries.get? key = entry := by
  unfold get
  split
  · exact hentry
  · next expires stored hsome =>
    split
    · next hexpired =>
      rw [Dict.get?_filterKeys]
      split
      · exact hentry
      · next hkey =>
        obtain rfl : key = key' := by simpa using hkey
        rw [hsome] at hentry
        have hbound := hlast _ hentry.symm
        exact absurd (lt_of_lt_of_le hexpired hnow) (not_lt_of_ge hbound)
    · exact hentry

/-- Lookups keep the lifetime of entries. -/
@[simp] theorem ttl_get : (cache.get key now).2.ttl = cache.ttl := by
  unfold get
  split
  · rfl
  · split <;> rfl

/-- A store writes its own key; under another key nothing appears. -/
theorem get?_set (h : cache.set key now response = some cache') :
    cache'.entries.get? key = some (now + cache.ttl, response) ∧
      ∀ key', key ≠ key' → cache.entries.get? key' = none → cache'.entries.get? key' = none := by
  obtain ⟨evicted, hevict, rfl⟩ := Option.map_eq_some_iff.mp h
  unfold evict at hevict
  split at hevict
  · obtain rfl := Option.some.inj hevict
    refine ⟨Dict.get?_set_self _ _ _, fun key' hne hnone ↦ ?_⟩
    rw [Dict.get?_set, if_neg hne, hnone]
  · obtain ⟨oldest, -, rfl⟩ := Option.map_eq_some_iff.mp hevict
    refine ⟨Dict.get?_set_self _ _ _, fun key' hne hnone ↦ ?_⟩
    rw [Dict.get?_set, if_neg hne, Dict.get?_filterKeys, hnone, ite_self]

/-- A cache with room for an entry can store. -/
theorem isSome_set (h : 0 < cache.maxEntries) : (cache.set key now response).isSome := by
  rw [set, Option.isSome_map]
  unfold evict
  split
  · rfl
  · next hfull =>
    rw [Option.isSome_map, oldestKey, Option.isSome_map, Option.isSome_iff_ne_none, ne_eq,
      List.argmin_eq_none]
    intro hnil
    exact hfull (by simpa [Dict.size, hnil] using h)

/-- Lookups keep the room of a cache. -/
@[simp] theorem maxEntries_get : (cache.get key now).2.maxEntries = cache.maxEntries := by
  unfold get
  split
  · rfl
  · split <;> rfl

/-- A store that evicts nothing leaves the other keys alone. -/
theorem get?_set_of_lt (hroom : cache.entries.size < cache.maxEntries)
    (h : cache.set key now response = some cache') {key' : String} (hne : key ≠ key') :
    cache'.entries.get? key' = cache.entries.get? key' := by
  rw [set, evict, if_pos hroom] at h
  obtain rfl := Option.some.inj h
  rw [Dict.get?_set, if_neg hne]

/-- Uses of the cache by other requests: lookups by the time `last`, and stores under other keys
than `key`, none of which evicts an entry. -/
inductive Undisturbed (key : String) (last : Time) : PromptCache → PromptCache → Prop
  | refl (cache : PromptCache) : Undisturbed key last cache cache
  | get {cache cache' : PromptCache} {key' : String} {now : Time}
      (before : Undisturbed key last cache cache') (intime : now ≤ last) :
      Undisturbed key last cache (cache'.get key' now).2
  | set {cache cache' cache'' : PromptCache} {key' : String} {now : Time} {response : Json}
      (before : Undisturbed key last cache cache') (room : cache'.entries.size < cache'.maxEntries)
      (other : key' ≠ key) (stored : cache'.set key' now response = some cache'') :
      Undisturbed key last cache cache''

/-- Run lemma: what stands under a key stays there, undisturbed, until it expires. -/
theorem Undisturbed.get? {last : Time} {entry : Option (Time × Json)}
    (h : Undisturbed key last cache cache') (hentry : cache.entries.get? key = entry)
    (hlast : ∀ e ∈ entry, last ≤ e.1) : cache'.entries.get? key = entry := by
  induction h with
  | refl => exact hentry
  | get _ intime ih => exact get?_get ih hlast intime
  | set _ room other stored ih => rw [get?_set_of_lt room stored other, ih]

end PromptCache

/-! ### The key -/

/-- How Python writes the values of a key: JSON floats, lists and objects in a format string, and
the digest of a text. -/
structure Formatting where
  float : FloatText
  container : Json → List Char
  digest : String → String

namespace Formatting

variable (fmt : Formatting)

/-- `f"{value}"`. -/
def formatted : Json → List Char
  | .null => "None".toList
  | .bool b => (if b then "True" else "False").toList
  | .int i => intText i
  | .float (.fin r) => fmt.float.repr r
  | .float (.inf negative) => (if negative then "-inf" else "inf").toList
  | .float .nan => "nan".toList
  | .str s => s.toList
  | v => fmt.container v

/-- The part of the key in front of the messages. -/
def limitText (profile model : String) (fields : Fields) : List Char :=
  profile.toList ++ '|' :: (model.toList ++
    '|' :: fmt.formatted ((fields.lookup "max_tokens").getD (.int 0)))

/-- `json.dumps(body.get("messages", []), sort_keys=True)`. -/
def messagesText (fields : Fields) : List Char :=
  dumps fmt.float ((fields.lookup "messages").getD (.arr []))

/-- The tools of the key, which are left out when there are none. -/
def toolsText (fields : Fields) : List Char :=
  match (fields.lookup "tools").filter Json.truthy with
  | some tools => dumps fmt.float tools
  | none => []

/-- The text that is digested; `prompt_cache.py:29–33`. -/
def keyText (profile model : String) (fields : Fields) : List Char :=
  (fmt.limitText profile model fields ++ '|' :: fmt.messagesText fields) ++
    '|' :: fmt.toolsText fields

/-- `_make_key`; `prompt_cache.py:27–34`. -/
def makeKey (profile model : String) (fields : Fields) : String :=
  fmt.digest (String.ofList (fmt.keyText profile model fields))

/-- The tools of a key are one text or none. -/
theorem chunk_toolsText (fields : Fields) : Base.Chunk (fmt.toolsText fields) := by
  unfold toolsText
  split
  · exact chunk_dumps _ _
  · exact .nil

/-- The parts of a key can be told apart, behind the first one. -/
theorem keyText_inj_iff {profile model profile' model' : String} {fields fields' : Fields} :
    fmt.keyText profile model fields = fmt.keyText profile' model' fields' ↔
      fmt.limitText profile model fields = fmt.limitText profile' model' fields' ∧
      fmt.messagesText fields = fmt.messagesText fields' ∧
      fmt.toolsText fields = fmt.toolsText fields' := by
  constructor
  · intro h
    obtain ⟨hfront, htools⟩ :=
      Base.Chunk.bar_inj (fmt.chunk_toolsText fields) (fmt.chunk_toolsText fields') h
    obtain ⟨hlimit, hmessages⟩ := Base.Chunk.bar_inj (chunk_dumps _ _) (chunk_dumps _ _) hfront
    exact ⟨hlimit, hmessages, htools⟩
  · rintro ⟨hlimit, hmessages, htools⟩
    rw [keyText, keyText, hlimit, hmessages, htools]

/-- Keys are equal exactly when their parts are, for a digest without collisions. -/
theorem makeKey_eq_iff (hdigest : Function.Injective fmt.digest)
    {profile model profile' model' : String} {fields fields' : Fields} :
    fmt.makeKey profile model fields = fmt.makeKey profile' model' fields' ↔
      fmt.limitText profile model fields = fmt.limitText profile' model' fields' ∧
      fmt.messagesText fields = fmt.messagesText fields' ∧
      fmt.toolsText fields = fmt.toolsText fields' := by
  rw [← keyText_inj_iff, makeKey, makeKey, hdigest.eq_iff, String.ofList_inj]

/-- The texts of messages are equal exactly when the messages are. -/
theorem messagesText_eq_iff {fields fields' : Fields}
    (h : ∀ v, fields.lookup "messages" = some v → v.Ordered)
    (h' : ∀ v, fields'.lookup "messages" = some v → v.Ordered) :
    fmt.messagesText fields = fmt.messagesText fields' ↔
      (fields.lookup "messages").getD (.arr []) = (fields'.lookup "messages").getD (.arr []) := by
  have hordered : ∀ {value : Option Json}, (∀ v, value = some v → v.Ordered) →
      (value.getD (.arr [])).Ordered := fun {value} hvalue ↦ by
    cases value with
    | none => exact .arr nofun
    | some v => exact hvalue v rfl
  exact ⟨dumps_inj (hordered h) (hordered h'), fun heq ↦ by rw [messagesText, heq]; rfl⟩

/-- The texts of tools are equal exactly when both have the same tools, or none. -/
theorem toolsText_eq_iff {fields fields' : Fields}
    (h : ∀ v, fields.lookup "tools" = some v → v.Ordered)
    (h' : ∀ v, fields'.lookup "tools" = some v → v.Ordered) :
    fmt.toolsText fields = fmt.toolsText fields' ↔
      (fields.lookup "tools").filter Json.truthy = (fields'.lookup "tools").filter Json.truthy := by
  unfold toolsText
  constructor
  · intro heq
    cases htools : (fields.lookup "tools").filter Json.truthy with
    | none =>
      cases htools' : (fields'.lookup "tools").filter Json.truthy with
      | none => rfl
      | some v => exact absurd (by simpa [htools, htools'] using heq) (dumps_ne_nil v).symm
    | some v =>
      cases htools' : (fields'.lookup "tools").filter Json.truthy with
      | none => exact absurd (by simpa [htools, htools'] using heq) (dumps_ne_nil v)
      | some v' =>
        rw [htools, htools'] at heq
        rw [dumps_inj (h v (Option.filter_eq_some_iff.mp htools).1)
          (h' v' (Option.filter_eq_some_iff.mp htools').1) heq]
  · intro heq
    rw [heq]

end Formatting

/-! ### The handler -/

/-- A request whose object could be read. -/
structure DocumentRequest where
  path : String
  authorization : String
  doc : Document

/-- The request as the checks in front of the cache see it. -/
def DocumentRequest.toChat (req : DocumentRequest) : ChatRequest :=
  ⟨req.path, req.authorization, .object ((req.doc.fields.lookup "model").getD .null) req.doc.body⟩

/-- `profile_cfg["chain"][0]["model"]`. -/
def ProfileConfig.primaryModel (config : ProfileConfig) : String :=
  (config.chain.head?.map Step.model).getD ""

/-- The request object behind `strip_forbidden_tools`. -/
def Admitted.strippedFields (a : Admitted) (doc : Document) : Fields :=
  Document.writeTools a.body.tools doc.fields

/-- The surroundings with the recall of memories given. -/
def Surroundings.recalling (env : Surroundings)
    (memories : Option (List Message → List Memory)) : Surroundings :=
  { env with inject := memories.map injectMemoryContext }

namespace Gateway

variable (gw : Gateway) (fmt : Formatting) (env : Surroundings)

/-- The key a request is looked up under; `handler.py:435–437`. -/
def lookupKey (a : Admitted) (doc : Document) : String :=
  fmt.makeKey a.profile a.config.primaryModel (a.strippedFields doc)

/-- The chain walk of a request for a full body. -/
def walkFull (a : Admitted) : Walk × Result Json :=
  tryChain gw.cfg a.profile a.config.chain env.inject env.router env.fullCalls env.breaker a.body

/-- The key and the reply that are stored when the chain has answered; `handler.py:603–610`. -/
def replyToStore (a : Admitted) (doc : Document) : Option (String × Json) :=
  match env.trouble, gw.walkFull env a with
  | none, (w, .response reply _ _ model) =>
    some (fmt.makeKey a.profile model (doc.rewritten w.body), reply)
  | _, _ => none

/-- The log of a request whose reply could not be stored. -/
def unstored (a : Admitted) : Served :=
  let t := Tail.conclude a.profile ⟨[], [], some .other⟩
  ⟨t.sent, t.rows, tryChainOps gw.cfg a.profile a.config.chain env.inject env.router env.fullCalls
    env.breaker a.body, none⟩

/-- `_serve_chat_completions` with the prompt cache it looks up and stores in. -/
def servePrompt (req : DocumentRequest) (askedAt storedAt : Time) (cache : PromptCache) :
    Served × PromptCache :=
  match gw.receive req.toChat with
  | .crashed => (⟨[], [], [], none⟩, cache)
  | .refused status text => (⟨[.error status text], [], [], none⟩, cache)
  | .admitted a =>
    if a.body.stream then (gw.exchange env a, cache)
    else
      match cache.get (lookupKey fmt a req.doc) askedAt with
      | (some body, cache) => (⟨[.cached body], [], [], none⟩, cache)
      | (none, cache) =>
        match gw.replyToStore fmt env a req.doc with
        | none => (gw.exchange env a, cache)
        | some (key, reply) =>
          match cache.set key storedAt reply with
          | some cache => (gw.exchange env a, cache)
          | none => (gw.unstored env a, cache)

/-- The answer of the cache to a request. -/
def cachedReply (req : DocumentRequest) (askedAt : Time) (cache : PromptCache) : Option Json :=
  match gw.receive req.toChat with
  | .admitted a => (cache.get (lookupKey fmt a req.doc) askedAt).1
  | _ => none

/-- With the cache's answer given the handler is the one that takes it as given. -/
theorem servePrompt_fst (req : DocumentRequest) (askedAt storedAt : Time) {cache : PromptCache}
    (hmax : 0 < cache.maxEntries) :
    (gw.servePrompt fmt env req askedAt storedAt cache).1 =
      gw.serveChatCompletions { env with cached := gw.cachedReply fmt req askedAt cache }
        req.toChat := by
  unfold servePrompt serveChatCompletions cachedReply
  cases hreceive : gw.receive req.toChat with
  | crashed => rfl
  | refused status text => rfl
  | admitted a =>
    dsimp only
    cases hstream : a.body.stream with
    | true => rfl
    | false =>
      have hmissed :
          (cache.get (lookupKey fmt a req.doc) askedAt).2.maxEntries = cache.maxEntries :=
        PromptCache.maxEntries_get
      simp only [Bool.false_eq_true, if_false]
      cases hget : cache.get (lookupKey fmt a req.doc) askedAt with
      | mk answer missed =>
        rw [hget] at hmissed
        cases answer with
        | some body => rfl
        | none =>
          dsimp only
          cases hreply : gw.replyToStore fmt env a req.doc with
          | none => rfl
          | some stored =>
            obtain ⟨key, reply⟩ := stored
            have hroom : 0 < missed.maxEntries := hmissed ▸ hmax
            have hisSome : (missed.set key storedAt reply).isSome := PromptCache.isSome_set hroom
            obtain ⟨after, hset⟩ := Option.isSome_iff_exists.mp hisSome
            simp only [hset]
            rfl

end Gateway

end LcpGateway.Server
