import LcpGateway.Base.Number
import LcpGateway.Breaker.CircuitBreaker
import Mathlib.Data.List.Sort

/-!
# The health of the providers

Library `Server`. Source `src/server/endpoints.py:427–451,475–557`. Health is tracked per (provider,
base URL, profile), and both health endpoints list it under the provider and the profile joined by a
slash. The clock is read once for an answer, and ISO times are kept as the time they print.
-/

namespace LcpGateway.Server
open LcpGateway.Base LcpGateway.Breaker

/-! ### The requests table -/

/-- The outcome of a request in its row of the `requests` table. -/
structure OutcomeRow where
  timestamp : Time
  profile : String
  provider : String
  success : Option Int
  errorType : Option String

/-- The rows of a provider and profile in the last hours. -/
def requestWindow (rows : List OutcomeRow) (now : Time) (provider profile : String)
    (windowHours : Nat) : List OutcomeRow :=
  rows.filter (fun r ↦ r.provider = provider ∧ r.profile = profile ∧
    now - windowHours * 3600 ≤ r.timestamp)

/-- `_uptime_for`; `endpoints.py:475–502`. -/
def uptimeFor (rows : List OutcomeRow) (now : Time) (provider profile : String)
    (windowHours : Nat) : Rat :=
  let window := requestWindow rows now provider profile windowHours
  if window.length = 0 then 100
  else roundDigits 2 (window.countP (fun r ↦ r.success = some 1) / window.length * 100)

/-- `_failure_breakdown`; the groups come in the order of their types; `endpoints.py:504–517`. -/
def failureBreakdown (rows : List OutcomeRow) (now : Time) (provider profile : String)
    (windowHours : Nat) : Dict String Nat :=
  let types := ((requestWindow rows now provider profile windowHours).filter
    (fun r ↦ r.success = some 0)).map OutcomeRow.errorType
  let named := (types.reduceOption.dedup.insertionSort (· ≤ ·)).map some
  let groups : List (Option String) := (if types.contains none then [none] else []) ++ named
  Dict.ofEntries (groups.map (fun t ↦ ((t.filter (· ≠ "")).getD "unknown", types.count t)))

/-! ### The endpoints -/

/-- `f"{provider}/{profile}"`. -/
def healthLabel (key : Key) : String := key.provider ++ "/" ++ key.profile

/-- `datetime.fromtimestamp(t, tz=timezone.utc)`: a time to the microsecond, in the years 1 to
9999. -/
def fromTimestamp (t : Time) : Option Time :=
  let r := roundDigits 6 t
  if -62135596800 ≤ r ∧ r < 253402300800 then some r else none

/-- The time until which an entry is tripped, as it is printed; none for an exception;
`endpoints.py:533–537`. -/
def printedUntil (h : Health) : Option (Option Time) :=
  match h.trippedUntil with
  | some t => if t = 0 then some none else (fromTimestamp t).map some
  | none => some none

/-- The loop over the tracked entries: what is listed of each, under its label; none for an
exception. -/
def listHealth {α : Type} (view : Key → Health → Option Time → α) (cb : CircuitBreaker) :
    Option (Dict String α) :=
  cb.health.entries.foldlM (fun listed e ↦ (printedUntil e.2).map (fun tripped ↦
    listed.set (healthLabel e.1) (view e.1 e.2 tripped))) Dict.empty

/-- What `/health` lists of an entry, without its base URL and the reason of its last failure;
`endpoints.py:435–446`. -/
structure RedactedHealth where
  status : Status
  failures : Nat
  lastSuccess : Option Time
  lastFailure : Option Time
  trippedUntil : Option Time

/-- The redacted entry. -/
def redactedHealth (_ : Key) (h : Health) (tripped : Option Time) : RedactedHealth where
  status := h.status
  failures := h.consecutiveFailures
  lastSuccess := h.lastSuccess
  lastFailure := h.lastFailure
  trippedUntil := tripped

/-- `_serve_health`: the profiles and the entries; `endpoints.py:427–451`. -/
def serveHealth (profiles : List String) (cb : CircuitBreaker) :
    Option (List String × Dict String RedactedHealth) :=
  (listHealth redactedHealth cb).map (fun providers ↦ (profiles, providers))

/-- What the providers health API lists of an entry; `endpoints.py:538–553`. -/
structure HealthEntry where
  provider : String
  profile : String
  baseUrl : String
  status : Status
  manualOverride : Option Status
  failures : Nat
  lastSuccess : Option Time
  lastFailure : Option Time
  lastFailureReason : Option String
  trippedUntil : Option Time
  uptime24h : Rat
  uptime7d : Rat
  uptime30d : Rat
  failures24h : Dict String Nat

/-- The entry of a key. -/
def healthEntry (rows : List OutcomeRow) (now : Time) (key : Key) (h : Health)
    (tripped : Option Time) : HealthEntry where
  provider := key.provider
  profile := key.profile
  baseUrl := key.baseUrl
  status := h.status
  manualOverride := h.manualOverride
  failures := h.consecutiveFailures
  lastSuccess := h.lastSuccess
  lastFailure := h.lastFailure
  lastFailureReason := h.lastFailureReason
  trippedUntil := tripped
  uptime24h := uptimeFor rows now key.provider key.profile 24
  uptime7d := uptimeFor rows now key.provider key.profile (24 * 7)
  uptime30d := uptimeFor rows now key.provider key.profile (24 * 30)
  failures24h := failureBreakdown rows now key.provider key.profile 24

/-- The key an entry is about. -/
def HealthEntry.key (e : HealthEntry) : Key := ⟨e.provider, e.baseUrl, e.profile⟩

/-- The counts of the summary; `endpoints.py:522–532`. -/
structure HealthSummary where
  total : Nat
  healthy : Nat
  degraded : Nat
  dead : Nat

/-- The summary with one more entry. -/
def HealthSummary.count (summary : HealthSummary) (status : Status) : HealthSummary :=
  let counted := { summary with total := summary.total + 1 }
  match status with
  | .healthy => { counted with healthy := counted.healthy + 1 }
  | .degraded => { counted with degraded := counted.degraded + 1 }
  | .dead => { counted with dead := counted.dead + 1 }

/-- The answer of the providers health API. -/
structure HealthPayload where
  summary : HealthSummary
  providers : Dict String HealthEntry

/-- `_serve_providers_health_api`; none for an exception; `endpoints.py:519–557`. -/
def serveProvidersHealthApi (rows : List OutcomeRow) (now : Time) (cb : CircuitBreaker) :
    Option HealthPayload :=
  (listHealth (healthEntry rows now) cb).map (fun providers ↦
    ⟨cb.health.entries.foldl (fun summary e ↦ summary.count e.2.status) ⟨0, 0, 0, 0⟩, providers⟩)

/-! ### What is listed -/

/-- The entries that are listed, with the statuses they are listed with. -/
def HealthPayload.statuses (payload : HealthPayload) : List (Key × Status) :=
  payload.providers.entries.map (fun e ↦ (e.2.key, e.2.status))

/-- The answer lists every tracked entry with its status, and its counts are those of the list. -/
structure HealthPayload.Lists (payload : HealthPayload) (cb : CircuitBreaker) : Prop where
  listed : payload.statuses.Perm (cb.health.entries.map (fun e ↦ (e.1, e.2.status)))
  total : payload.summary.total = payload.statuses.length
  healthy : payload.summary.healthy = payload.statuses.countP (fun e ↦ e.2 = .healthy)
  degraded : payload.summary.degraded = payload.statuses.countP (fun e ↦ e.2 = .degraded)
  dead : payload.summary.dead = payload.statuses.countP (fun e ↦ e.2 = .dead)

variable {α : Type} {view : Key → Health → Option Time → α} {cb : CircuitBreaker}
  {rows : List OutcomeRow} {now : Time}

/-- The writes of the loop, when every time can be printed. -/
def healthWrites (view : Key → Health → Option Time → α) (cb : CircuitBreaker) :
    List (String × α) :=
  cb.health.entries.map (fun e ↦
    (healthLabel e.1, view e.1 e.2 ((printedUntil e.2).getD none)))

/-- The loop goes through exactly when every time can be printed, and writes the entries one after
another. -/
theorem listHealth_eq :
    listHealth view cb = if ∀ e ∈ cb.health.entries, (printedUntil e.2).isSome then
      some (Dict.ofEntries (healthWrites view cb)) else none := by
  have hloop : ∀ (es : List (Key × Health)) (listed : Dict String α),
      es.foldlM (fun listed e ↦ (printedUntil e.2).map (fun tripped ↦
          listed.set (healthLabel e.1) (view e.1 e.2 tripped))) listed =
        if ∀ e ∈ es, (printedUntil e.2).isSome then
          some ((es.map (fun e ↦ (healthLabel e.1, view e.1 e.2 ((printedUntil e.2).getD none)))).foldl
            (fun d e ↦ d.set e.1 e.2) listed) else none := by
    intro es
    induction es with
    | nil => intro listed; simp
    | cons e rest ih =>
      intro listed
      rw [List.foldlM_cons]
      cases hprinted : printedUntil e.2 with
      | none => simp [hprinted]
      | some tripped =>
        rw [Option.map_some, Option.bind_eq_bind, Option.bind_some, ih]
        simp only [List.forall_mem_cons, hprinted, Option.isSome_some, true_and, List.map_cons,
          List.foldl_cons, Option.getD_some]
  exact hloop cb.health.entries Dict.empty

/-- The summary counts the tracked entries. -/
theorem summary_foldl (es : List (Key × Health)) (s : HealthSummary) :
    es.foldl (fun summary e ↦ summary.count e.2.status) s =
      ⟨s.total + es.length, s.healthy + es.countP (fun e ↦ e.2.status = .healthy),
        s.degraded + es.countP (fun e ↦ e.2.status = .degraded),
        s.dead + es.countP (fun e ↦ e.2.status = .dead)⟩ := by
  induction es generalizing s with
  | nil => rfl
  | cons e rest ih =>
    rw [List.foldl_cons, ih]
    cases hstatus : e.2.status <;>
      simp [HealthSummary.count, hstatus] <;> omega

/-- Two entries are never listed in one place: the labels of different keys differ. -/
def LabelsApart (cb : CircuitBreaker) : Prop :=
  ∀ k k', (cb.health.get? k).isSome → (cb.health.get? k').isSome →
    healthLabel k = healthLabel k' → k = k'

/-- The labels of the tracked entries differ exactly when those of their keys do. -/
theorem labelsApart_iff :
    LabelsApart cb ↔ (cb.health.entries.map (fun e ↦ healthLabel e.1)).Nodup := by
  have hmem : ∀ k, (cb.health.get? k).isSome ↔ k ∈ cb.health.entries.map Prod.fst := by
    intro k
    rw [Option.isSome_iff_exists]
    simp [← Dict.mem_entries_iff]
  have hmap : cb.health.entries.map (fun e ↦ healthLabel e.1) =
      (cb.health.entries.map Prod.fst).map healthLabel := by
    rw [List.map_map]
    rfl
  rw [hmap, List.nodup_map_iff_inj_on cb.health.nodup, LabelsApart]
  simp only [hmem]
  exact ⟨fun h k hk k' hk' ↦ h k k' hk hk', fun h k k' hk hk' ↦ h k hk k' hk'⟩

/-- The loop lists as many entries as are tracked exactly when the times of all can be printed and no
two keys have one label. -/
theorem size_listHealth_iff :
    (∃ listed, listHealth view cb = some listed ∧ listed.size = cb.health.size) ↔
      (∀ e ∈ cb.health.entries, (printedUntil e.2).isSome) ∧ LabelsApart cb := by
  have hkeys : (healthWrites view cb).map Prod.fst =
      cb.health.entries.map (fun e ↦ healthLabel e.1) := by
    rw [healthWrites, List.map_map]
    rfl
  have hlength : (healthWrites view cb).length = cb.health.size := List.length_map _
  rw [listHealth_eq, labelsApart_iff, ← hkeys]
  constructor
  · rintro ⟨listed, hlisted, hsize⟩
    split at hlisted
    · next hprinted =>
      obtain rfl := Option.some.inj hlisted
      exact ⟨hprinted, Dict.nodup_of_size_ofEntries (hsize.trans hlength.symm)⟩
    · cases hlisted
  · rintro ⟨hprinted, hapart⟩
    rw [if_pos hprinted]
    refine ⟨_, rfl, ?_⟩
    rw [Dict.size, Dict.entries_ofEntries hapart, hlength]

/-- `/health` has a place for every tracked entry under the same condition. -/
theorem serveHealth_lists_iff (profiles : List String) (cb : CircuitBreaker) :
    (∃ listed, serveHealth profiles cb = some (profiles, listed) ∧ listed.size = cb.health.size) ↔
      (∀ e ∈ cb.health.entries, (printedUntil e.2).isSome) ∧ LabelsApart cb := by
  have hsize := @size_listHealth_iff _ redactedHealth cb
  simpa [serveHealth] using hsize

/-- The API lists every tracked entry exactly when the times of all can be printed and no two keys
have one label. -/
theorem serveProvidersHealthApi_lists_iff (rows : List OutcomeRow) (now : Time)
    (cb : CircuitBreaker) :
    (∃ payload, serveProvidersHealthApi rows now cb = some payload ∧ payload.Lists cb) ↔
      (∀ e ∈ cb.health.entries, (printedUntil e.2).isSome) ∧ LabelsApart cb := by
  rw [serveProvidersHealthApi]
  constructor
  · rintro ⟨payload, hserve, hlists⟩
    obtain ⟨listed, hlisted, rfl⟩ := Option.map_eq_some_iff.mp hserve
    have hlength := hlists.listed.length_eq
    rw [HealthPayload.statuses, List.length_map, List.length_map] at hlength
    exact size_listHealth_iff.mp ⟨listed, hlisted, hlength⟩
  · rintro ⟨hprinted, hapart⟩
    rw [listHealth_eq, if_pos hprinted, Option.map_some]
    refine ⟨_, rfl, ?_⟩
    have hkeys : ((healthWrites (healthEntry rows now) cb).map Prod.fst).Nodup := by
      rw [healthWrites, List.map_map]
      exact labelsApart_iff.mp hapart
    have hstatuses : ∀ summary, HealthPayload.statuses
        ⟨summary, Dict.ofEntries (healthWrites (healthEntry rows now) cb)⟩ =
          cb.health.entries.map (fun e ↦ (e.1, e.2.status)) := by
      intro summary
      rw [HealthPayload.statuses, Dict.entries_ofEntries hkeys, healthWrites, List.map_map]
      rfl
    refine ⟨by rw [hstatuses], ?_, ?_, ?_, ?_⟩ <;>
      simp [hstatuses, summary_foldl, List.countP_map, Function.comp_def]

/-- A provider with two base URLs under one profile: the first one is dead, the second one
healthy. -/
def twoBaseUrls : CircuitBreaker where
  config := defaultCbConfig
  health := Dict.ofEntries
    [(⟨"deepseek", "https://a.example/v1", "l2"⟩, { defaultHealth with status := .dead }),
      (⟨"deepseek", "https://b.example/v1", "l2"⟩, defaultHealth)]
  engine := none

/-- The dead entry is counted and not listed. -/
theorem dead_entry_hidden :
    ¬ ∃ payload, serveProvidersHealthApi [] 0 twoBaseUrls = some payload ∧
      payload.Lists twoBaseUrls := by
  rintro ⟨payload, hserve, hlists⟩
  have hone : (serveProvidersHealthApi [] 0 twoBaseUrls).map
      (fun payload ↦ payload.statuses.countP (fun e ↦ e.2 = .dead)) = some 0 := by decide +kernel
  have hdead : (serveProvidersHealthApi [] 0 twoBaseUrls).map
      (fun payload ↦ payload.summary.dead) = some 1 := by decide +kernel
  rw [hserve] at hone hdead
  have hcount : 1 = 0 :=
    (Option.some.inj hdead).symm.trans (hlists.dead.trans (Option.some.inj hone))
  cases hcount

end LcpGateway.Server
