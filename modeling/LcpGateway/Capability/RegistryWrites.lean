import LcpGateway.Capability.Manual

/-!
# Writes to the registry and the bundled scores

Library `Capability`. Sources `src/api/seed_capabilities.py:62–104,279–416` and
`src/server/endpoints.py:2830–2845,2913–3040`. The registry table is filled with curated defaults
when it is empty; entries are then written and removed over the API, and the bundled scores are
written over their own rows.
-/

namespace LcpGateway.Capability
open LcpGateway.Base LcpGateway.Config

/-- The tables that routing reads. -/
structure Database where
  capabilities : List CapabilityRow
  registry : ReleaseRegistry

namespace Database

/-- `load_capability_matrix` with no release asked for. -/
def matrix (db : Database) : Matrix := loadCapabilityMatrix db.capabilities db.registry none

end Database

/-! ## The bundled scores -/

/-- A row of `declared_capabilities.json`. -/
structure DeclaredRow where
  model : String
  taskType : String
  score : PyFloat
  source : String
  benchmarkCategory : Option String
  rawScore : Option PyFloat
  releaseLabel : Option String

namespace DeclaredRow

/-- `filter_by(model, task_type, source, release_label)`. -/
def isRow (d : DeclaredRow) (r : CapabilityRow) : Bool :=
  r.model = d.model ∧ r.taskType = d.taskType ∧ r.source = d.source ∧
    r.releaseLabel = d.releaseLabel

/-- An existing row with the bundled score. -/
def update (d : DeclaredRow) (now : String) (r : CapabilityRow) : CapabilityRow :=
  { r with score := d.score, rawScore := d.rawScore, benchmarkCategory := d.benchmarkCategory,
           updatedAt := now }

/-- A new row. -/
def row (d : DeclaredRow) (now : String) : CapabilityRow where
  model := d.model
  taskType := d.taskType
  score := d.score
  source := d.source
  benchmarkCategory := d.benchmarkCategory
  rawScore := d.rawScore
  releaseLabel := d.releaseLabel
  updatedAt := now

end DeclaredRow

/-- `seed_capabilities`; `seed_capabilities.py:62–104`. -/
def seedCapabilities (declared : List DeclaredRow) (now : String) (rows : List CapabilityRow) :
    List CapabilityRow :=
  declared.foldl (fun rows d ↦ upsertFirst d.isRow (d.update now) (d.row now) rows) rows

/-! ## The curated registry -/

/-- An entry of `DEFAULT_MODEL_REGISTRY` under its logical name. -/
def curated (logical benchmark : String) (mappings : List (String × String))
    (activeRelease : Option String) : String × ReleaseEntry :=
  (logical, { benchmarkKey := benchmark,
              providerMappings := mappings.foldl (fun d e ↦ d.set e.1 e.2) Dict.empty,
              activeRelease := activeRelease })

/-- `DEFAULT_MODEL_REGISTRY`; `seed_capabilities.py:282–369`. -/
def DEFAULT_MODEL_REGISTRY : List (String × ReleaseEntry) :=
  [curated "deepseek-v4-pro" "deepseek-v4-pro"
      [("deepseek", "deepseek-v4-pro"), ("opencode", "deepseek-v4-pro"),
        ("commandcode", "deepseek/deepseek-v4-pro")] (some "2026-08-13"),
    curated "deepseek-v4-flash" "deepseek-v4-flash"
      [("deepseek", "deepseek-v4-flash"), ("opencode", "deepseek-v4-flash"),
        ("commandcode", "deepseek/deepseek-v4-flash")] (some "2026-07-31"),
    curated "claude-sonnet-5" "claude-sonnet-5" [("commandcode", "claude-sonnet-5")] none,
    curated "claude-fable-5" "claude-fable-5" [("commandcode", "claude-fable-5")] none,
    curated "claude-opus-5" "claude-opus-5" [("commandcode", "claude-opus-5")] none,
    curated "gpt-5.6-sol" "gpt-5.6-sol" [] none,
    curated "gpt-5.6-terra" "gpt-5.6-terra" [("commandcode", "gpt-5.6-terra")] none,
    curated "gpt-5.6-luna" "gpt-5.6-luna" [("commandcode", "gpt-5.6-luna")] none,
    curated "kimi-k3" "kimi-k3" [("commandcode", "moonshotai/Kimi-K3")] none,
    curated "minimax-m3" "minimax-m3" [("commandcode", "MiniMaxAI/MiniMax-M3")] none,
    curated "qwen3.8-max" "qwen-3.8-max" [("commandcode", "Qwen/Qwen3.8-Max")] none,
    curated "grok-4.5" "grok-4.5" [] none,
    curated "gemini-3.6-flash" "gemini-3.6-flash" [] none,
    curated "qwen3.8-flash-next" "qwen3.8-flash-next" [("llamacpp", "qwen3.8-flash-next")]
      (some "2026-08-25")]

/-- `seed_model_registry`: entries that exist stay; `seed_capabilities.py:372–416`. -/
def seedModelRegistry (registry : ReleaseRegistry) : ReleaseRegistry :=
  DEFAULT_MODEL_REGISTRY.foldl
    (fun registry e ↦ if registry.contains e.1 then registry else registry.set e.1 e.2) registry

namespace ReleaseRegistry

/-- The registry after a lookup: an empty table is seeded; `router.py:428–432`. -/
def seeded (registry : ReleaseRegistry) : ReleaseRegistry :=
  if registry.size = 0 then seedModelRegistry registry else registry

/-- The entries as the name lookups read them. -/
def names (registry : ReleaseRegistry) : Registry :=
  registry.mapValues ReleaseEntry.toRegistryEntry

end ReleaseRegistry

/-! ## Entries over the API -/

/-- The body of an upsert; a missing text is empty, and the mappings are `none` when they are no
object of texts. -/
structure RegistryBody where
  logicalName : String
  benchmarkKey : String
  activeRelease : String
  providerMappings : Option (Dict String String)

/-- Why a write to the registry is refused. -/
inductive RegistryFailure where
  | missingLogicalName
  | missingBenchmarkKey
  | mappingsNotObject
  | benchmarkTaken (benchmark owner : String)
  | mappingTaken (provider mapped owner : String)
  | entryNotFound
  deriving DecidableEq, Repr

namespace RegistryFailure

/-- The text of the answer. -/
def message : RegistryFailure → String
  | missingLogicalName => "missing 'logical_name'"
  | missingBenchmarkKey => "missing 'benchmark_key'"
  | mappingsNotObject => "'provider_mappings' must be a \x7bprovider: model\x7d object"
  | benchmarkTaken benchmark owner =>
    "benchmark key '" ++ benchmark ++ "' is already registered to '" ++ owner ++ "'"
  | mappingTaken provider mapped owner =>
    "provider '" ++ provider ++ "' already maps '" ++ mapped ++ "' to '" ++ owner ++ "'"
  | entryNotFound => "entry not found"

/-- The status of the answer. -/
def status : RegistryFailure → Nat
  | entryNotFound => 404
  | _ => 400

end RegistryFailure

/-- The first mapping that another entry has under the same provider; `endpoints.py:2973–2983`. -/
def mappingConflict (mappings : Dict String String) (other : String × ReleaseEntry) :
    Option RegistryFailure :=
  mappings.entries.findSome? (fun e ↦
    ((other.2.providerMappings.get? e.1).filter
      (fun mapped ↦ mapped ≠ "" ∧ normalizeModelId mapped = normalizeModelId e.2)).map
      (fun mapped ↦ .mappingTaken e.1 mapped other.1))

/-- What another entry already owns; `endpoints.py:2967–2983`. -/
def conflict (benchmark : String) (mappings : Dict String String)
    (other : String × ReleaseEntry) : Option RegistryFailure :=
  if benchmark ≠ "" ∧ other.2.benchmarkKey ≠ "" ∧ other.2.benchmarkKey = benchmark
    then some (.benchmarkTaken benchmark other.1)
    else mappingConflict mappings other

/-- The entry after an upsert: a release that is not given stays; `endpoints.py:2984–3008`. -/
def upsertedEntry (registry : ReleaseRegistry) (logical benchmark : String)
    (mappings : Dict String String) (activeRelease : Option String) : ReleaseEntry where
  benchmarkKey := benchmark
  providerMappings := mappings
  activeRelease := activeRelease.or ((registry.get? logical).bind ReleaseEntry.activeRelease)

/-- `_serve_registry_upsert_api`: the registry after the commit, with the action and the name it
answers; `endpoints.py:2913–3020`. -/
def serveRegistryUpsert (registry : ReleaseRegistry) (body : RegistryBody) :
    Except RegistryFailure (ReleaseRegistry × String × String) :=
  let logical := lower (strip body.logicalName)
  let benchmark := lower (strip body.benchmarkKey)
  let activeRelease := some (strip body.activeRelease) |>.filter (· ≠ "")
  if logical = "" then .error .missingLogicalName
  else if benchmark = "" then .error .missingBenchmarkKey
  else match body.providerMappings with
    | none => .error .mappingsNotObject
    | some mappings =>
      let logical := normalizeModelId logical
      let benchmark := normalizeModelId benchmark
      let others := registry.entries.filter (fun e ↦ e.1 ≠ logical)
      match others.findSome? (conflict benchmark mappings) with
      | some failure => .error failure
      | none => .ok (registry.set logical
          (upsertedEntry registry logical benchmark mappings activeRelease),
        if registry.contains logical then "updated" else "created", logical)

/-- `_serve_registry_delete_api`: the registry after the commit; `endpoints.py:3022–3040`. -/
def serveRegistryDelete (registry : ReleaseRegistry) (logical : String) :
    Except RegistryFailure ReleaseRegistry :=
  if registry.contains logical then .ok (registry.filterKeys (fun name ↦ name ≠ logical))
  else .error .entryNotFound

namespace ReleaseRegistry

variable {registry : ReleaseRegistry}

/-- A registry without entries is the empty one. -/
theorem eq_empty_of_size (h : registry.size = 0) : registry = Dict.empty := by
  obtain ⟨entries, hnodup⟩ := registry
  obtain rfl : entries = [] := List.length_eq_zero_iff.mp h
  rfl

/-- A lookup leaves entries in the table. -/
theorem size_seeded (registry : ReleaseRegistry) : registry.seeded.size ≠ 0 := by
  rw [seeded]
  split
  · next h =>
    rw [eq_empty_of_size h]
    decide +kernel
  · next h => exact h

/-- A table with entries is left alone. -/
theorem seeded_of_size (h : registry.size ≠ 0) : registry.seeded = registry := if_neg h

/-- Seeding happens once. -/
@[simp] theorem seeded_seeded (registry : ReleaseRegistry) :
    registry.seeded.seeded = registry.seeded := seeded_of_size registry.size_seeded

end ReleaseRegistry
end LcpGateway.Capability
