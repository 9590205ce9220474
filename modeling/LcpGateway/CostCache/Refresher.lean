import LcpGateway.Base.Dict
import LcpGateway.Base.Object
import LcpGateway.Base.Run
import Mathlib.Algebra.Order.Ring.Rat
import Mathlib.Data.Finset.Basic

/-!
# The cache refresher

Library `CostCache`. Source `src/api/cost_cache.py:383–478,498–718`. One thread makes passes over
the keys of the registered plugins while other threads call `request_refresh`. What the two share
lies under a lock, so a pass is a run of steps with at most one access to it each: the drain of the
pending set, the checks in front of a key, its backoff gate, and the end of its scrape.
The registry is filled before the refresher starts. `clear_cache`, which forgets the requests on
purpose, kinds that no plugin has and failures of the database are left out.
-/

namespace LcpGateway.CostCache
open LcpGateway.Base

/-- What a plugin can fetch; `cost_cache.py:50–54`. -/
inductive Kind where
  | subscription
  | balance
  deriving DecidableEq, Repr

/-- The name of a kind. -/
def Kind.name : Kind → String
  | .subscription => "subscription"
  | .balance => "balance"

/-- `KINDS`. -/
def kinds : List Kind := [.subscription, .balance]

/-- A provider and a kind. -/
abbrev Key := String × Kind

/-- The plugins by provider; a plugin is the kinds whose fetch it overrides. -/
structure PluginRegistry where
  plugins : Dict String (Kind → Bool)

/-- `plugin_supports`; `cost_cache.py:65–76`. -/
def pluginSupports (plugin : Option (Kind → Bool)) (kind : Kind) : Bool :=
  match plugin with
  | none => false
  | some supports => supports kind

namespace PluginRegistry

variable (r : PluginRegistry)

/-- `registry.providers`. -/
def providers : List String := r.plugins.entries.map Prod.fst

/-- `registry.for_provider(prov)`. -/
def forProvider (prov : String) : Option (Kind → Bool) := r.plugins.get? prov

/-- A plugin is registered for the provider and supports the kind. -/
def supports (key : Key) : Bool := pluginSupports (r.forProvider key.1) key.2

/-- The keys a pass visits, in its order; `cost_cache.py:629–639`. -/
def supportedKeys : List Key :=
  r.providers.flatMap fun prov ↦
    (kinds.filter (fun kind ↦ r.supports (prov, kind))).map (fun kind ↦ (prov, kind))

/-- `_providers_for`; `cost_cache.py:602–608`. -/
def providersFor : Option String → List String
  | some provider => if provider = "" then r.providers else [provider]
  | none => r.providers

/-- The keys `request_refresh` enqueues; `cost_cache.py:568–573`. -/
def requestKeys (provider : Option String) (kind : Option Kind) : List Key :=
  (r.providersFor provider).flatMap fun prov ↦
    ((kind.elim kinds (fun k ↦ [k])).filter (fun k ↦
      (r.forProvider prov).isNone || pluginSupports (r.forProvider prov) k)).map (fun k ↦ (prov, k))

/-- A pass visits the supported keys. -/
theorem mem_supportedKeys {key : Key} : key ∈ r.supportedKeys ↔ r.supports key = true := by
  obtain ⟨prov, kind⟩ := key
  have hkind : kind ∈ kinds := by cases kind <;> decide
  simp only [supportedKeys, List.mem_flatMap, List.mem_map, List.mem_filter, Prod.mk.injEq]
  constructor
  · rintro ⟨_, -, _, ⟨-, h⟩, rfl, rfl⟩
    exact h
  · intro h
    refine ⟨prov, ?_, kind, ⟨hkind, h⟩, rfl, rfl⟩
    cases hplugin : r.plugins.get? prov with
    | none => simp [supports, forProvider, hplugin, pluginSupports] at h
    | some plugin =>
      exact List.mem_map.mpr ⟨_, (r.plugins.mem_entries_iff prov plugin).mpr hplugin, rfl⟩

end PluginRegistry

/-- A row of the cost cache. -/
structure CacheEntry where
  payload : Json
  fetchedAt : Rat
  staleError : Option Json

/-- An error payload: `isinstance(payload, dict) and payload.get("_error")`. -/
def isError (payload : Json) : Bool :=
  payload.isObj && ((payload.get? "_error").getD .null).truthy

/-- Where a pass stands: between two keys, past the checks of a key and in front of its backoff
gate, or in its scrape. -/
inductive Stage where
  | between
  | gate (key : Key)
  | scraping (key : Key)
  deriving DecidableEq, Repr

/-- A pass under way: its start, what it drained, and the keys it has not visited. -/
structure Pass where
  now : Rat
  pending : Finset Key
  refreshAll : Bool
  rest : List Key
  stage : Stage

/-- The refresher over its cache. -/
structure Refresher where
  registry : PluginRegistry
  throttle : Rat
  backoffBase : Rat
  backoffCap : Rat
  cache : Dict Key CacheEntry
  pending : Finset Key
  refreshAll : Bool
  quiet : Finset Key
  lastAttempt : Dict Key Rat
  nextAttempt : Dict Key Rat
  failures : Dict Key Nat
  lastError : Dict Key Json
  pass : Option Pass

/-- What a plugin's fetch comes to: an exception with its text, an exception outside the fetch, or
a payload. -/
inductive Outcome where
  | raised (text : String)
  | crashed
  | returned (payload : Json)

/-- What the end of a scrape reads: the clock, the row's stamp, the provider's TTL in seconds and
the jitter as a fraction of its bound. -/
structure Moment where
  clock : Rat
  stamp : Rat
  ttl : Rat
  jitter : Rat

/-- A call or a step of the pass, with the values it reads. -/
inductive RefreshEvent where
  | request (provider : Option String) (kind : Option Kind)
  | invalidate (provider : Option String) (kind : Option Kind)
  | start (now : Rat)
  | visit (ttl clock : Rat)
  | gate
  | finish (outcome : Outcome) (moment : Moment)

/-- What a scrape is taken for. -/
inductive Verdict where
  | failed (errorKind detail : Json) (transient : Bool)
  | noData
  | success (payload : Json)

namespace Refresher

/-- `CacheRefresher(cache, …)`. -/
def fresh (registry : PluginRegistry) (throttle backoffBase backoffCap : Rat)
    (cache : Dict Key CacheEntry) : Refresher where
  registry := registry
  throttle := throttle
  backoffBase := backoffBase
  backoffCap := backoffCap
  cache := cache
  pending := ∅
  refreshAll := false
  quiet := ∅
  lastAttempt := Dict.empty
  nextAttempt := Dict.empty
  failures := Dict.empty
  lastError := Dict.empty
  pass := none

/-- A refresher over one plugin, which fetches a balance, under the default settings. -/
def onePlugin : Refresher :=
  fresh ⟨Dict.empty.set "deepseek" (fun kind ↦ kind = .balance)⟩ 10 60 1800 Dict.empty

variable (s : Refresher)

/-- `request_refresh`; `cost_cache.py:555–579`. -/
def requestRefresh (provider : Option String) (kind : Option Kind) : Refresher :=
  let keys := s.registry.requestKeys provider kind
  { s with
    pending := s.pending ∪ keys.toFinset
    nextAttempt := s.nextAttempt.filterKeys (· ∉ keys)
    failures := s.failures.filterKeys (· ∉ keys)
    lastError := s.lastError.filterKeys (· ∉ keys)
    quiet := s.quiet \ keys.toFinset }

/-- `invalidate`; `cost_cache.py:437–446`. -/
def invalidate (provider : Option String) (kind : Option Kind) : Refresher :=
  { s with
    cache := s.cache.filterKeys (fun key ↦
      !(provider.all (fun p ↦ p = "" || p = key.1) && kind.all (fun k ↦ k = key.2))) }

/-- `is_stale`; `cost_cache.py:470–478`. -/
def isStale (key : Key) (ttl clock : Rat) : Bool :=
  match s.cache.get? key with
  | none => true
  | some ent => ttl ≤ clock - ent.fetchedAt

/-- The start of a pass, which drains the requests; `cost_cache.py:619–629`. -/
def beginPass (now : Rat) : Refresher :=
  { s with
    pending := ∅
    refreshAll := false
    pass := some ⟨now, s.pending, s.refreshAll, s.registry.supportedKeys, .between⟩ }

/-- The pass was asked for the key; `cost_cache.py:640`. -/
def forced (p : Pass) (key : Key) : Bool := p.refreshAll || key ∈ p.pending

/-- The pass leaves the key out as quiet or fresh; `cost_cache.py:641–644`. -/
def skips (p : Pass) (key : Key) (ttl clock : Rat) : Bool :=
  !forced p key && (key ∈ s.quiet || !s.isStale key ttl clock)

/-- The key was scraped less than the throttle ago; `cost_cache.py:646`. -/
def throttled (now : Rat) (key : Key) : Bool := now - (s.lastAttempt.get? key).getD 0 < s.throttle

/-- The backoff of the key is not over; `cost_cache.py:651–653`. -/
def heldBack (now : Rat) (key : Key) : Bool := now < (s.nextAttempt.get? key).getD 0

/-- The checks in front of the backoff gate; `cost_cache.py:639–649`. -/
def visit (p : Pass) (key : Key) (rest : List Key) (ttl clock : Rat) : Refresher :=
  if s.skips p key ttl clock then { s with pass := some { p with rest } }
  else if s.throttled p.now key then
    { s with pending := insert key s.pending, pass := some { p with rest } }
  else { s with pass := some { p with rest, stage := .gate key } }

/-- The backoff gate; `cost_cache.py:650–655`. -/
def checkGate (p : Pass) (key : Key) : Refresher :=
  if s.heldBack p.now key then { s with pass := some { p with stage := .between } }
  else
    { s with
      lastAttempt := s.lastAttempt.set key p.now
      pass := some { p with stage := .scraping key } }

/-- How a scrape is classified; `cost_cache.py:662–690`. -/
def verdict (key : Key) : Outcome → Verdict
  | .raised text =>
    .failed (.str "api_error") (.str (if text = "" then "scrape failed" else text)) true
  | .crashed => .failed (.str "api_error") (.str "internal error") true
  | .returned .null =>
    if (s.cache.get? key).isSome then
      .failed (.str "api_error") (.str s!"{key.1} returned no {key.2.name} data") true
    else .noData
  | .returned payload =>
    if isError payload then
      let errorKind := (payload.get? "_error").getD .null
      let detail := ((payload.get? "detail").getD .null).orElse errorKind
      .failed errorKind detail
        (!(errorKind.isStr "auth_failed" || errorKind.isStr "no_subscription"))
    else .success payload

/-- The delay before the next attempt; `cost_cache.py:704–710`. -/
def delay (fails : Nat) (transient : Bool) (moment : Moment) : Rat :=
  if transient then
    let base := min (s.backoffBase * 2 ^ (fails - 1)) s.backoffCap
    base + moment.jitter * min (base * (1 / 5)) 30
  else moment.ttl

/-- The row of a key after a failed scrape; `cost_cache.py:714–718`. -/
def failedRow (key : Key) (errorKind detail : Json) (stamp : Rat) : CacheEntry :=
  match s.cache.get? key with
  | none => ⟨.obj [("_error", errorKind), ("detail", detail)], stamp, some detail⟩
  | some ent => { ent with staleError := some detail }

/-- `_record_failure`; `cost_cache.py:698–718`. -/
def recordFailure (key : Key) (errorKind detail : Json) (transient : Bool) (moment : Moment) :
    Refresher :=
  let fails := (s.failures.get? key).getD 0 + 1
  { s with
    failures := s.failures.set key fails
    lastError := s.lastError.set key detail
    nextAttempt := s.nextAttempt.set key (moment.clock + s.delay fails transient moment)
    cache := s.cache.set key (s.failedRow key errorKind detail moment.stamp) }

/-- The end of a scrape by its verdict; `cost_cache.py:662–696`. -/
def record (key : Key) (moment : Moment) : Verdict → Refresher
  | .failed errorKind detail transient => s.recordFailure key errorKind detail transient moment
  | .noData => { s with quiet := insert key s.quiet }
  | .success payload =>
    { s with
      cache := s.cache.set key ⟨payload, moment.stamp, none⟩
      failures := s.failures.filterKeys (· ≠ key)
      nextAttempt := s.nextAttempt.filterKeys (· ≠ key)
      lastError := s.lastError.filterKeys (· ≠ key) }

/-- The pass is between two keys: it and the keys ahead of it. -/
def atVisit : Option (Pass × List Key) :=
  s.pass.bind fun p ↦ if p.stage = .between then some (p, p.rest) else none

/-- The pass is in front of a backoff gate. -/
def atGate : Option (Pass × Key) :=
  s.pass.bind fun p ↦
    match p.stage with
    | .gate key => some (p, key)
    | _ => none

/-- The pass is in a scrape. -/
def atScrape : Option (Pass × Key) :=
  s.pass.bind fun p ↦
    match p.stage with
    | .scraping key => some (p, key)
    | _ => none

/-- A call or a step. A step the pass is not at is none; there is one pass at a time, and the
clock is not negative. -/
def step : RefreshEvent → Refresher
  | .request provider kind => s.requestRefresh provider kind
  | .invalidate provider kind => s.invalidate provider kind
  | .start now => if s.pass.isNone ∧ 0 ≤ now then s.beginPass now else s
  | .visit ttl clock =>
    match s.atVisit with
    | some (p, key :: rest) => s.visit p key rest ttl clock
    | some (_, []) => { s with pass := none }
    | none => s
  | .gate =>
    match s.atGate with
    | some (p, key) => s.checkGate p key
    | none => s
  | .finish outcome moment =>
    match s.atScrape with
    | some (p, key) =>
      { s.record key moment (s.verdict key outcome) with pass := some { p with stage := .between } }
    | none => s

end Refresher
end LcpGateway.CostCache
