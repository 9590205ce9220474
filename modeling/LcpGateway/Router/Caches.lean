import LcpGateway.Base.Run
import LcpGateway.Capability.RegistryWrites
import LcpGateway.Router.Scoring

/-!
# The router's caches

Library `Router`. Sources `src/api/router.py:413–577,755–777,1773–1779` and
`src/server/endpoints.py:2830–3040`. Routing keeps the registry, the index of its spellings and
the capability matrix, and reads the database only for what it does not have; every endpoint that
writes says by hand what is dropped.
-/

namespace LcpGateway.Router
open LcpGateway.Base LcpGateway.Capability LcpGateway.Config

/-- A registry dictionary; `is` compares identities. -/
structure RegistryObject where
  identity : Nat
  registry : ReleaseRegistry

/-- The database and what the process keeps of it. -/
structure Caches where
  db : Database
  /-- `_registry_cache`. -/
  registryCache : Option RegistryObject
  /-- `_alias_cache`, with the identity of `_alias_cache_src`. -/
  aliasCache : Option (Nat × Dict String String)
  /-- `CapabilityRouter._matrix`. -/
  matrixCache : Option Matrix
  /-- Registry dictionaries made so far. -/
  made : Nat

/-- A process that has just started. -/
def started (db : Database) : Caches := ⟨db, none, none, none, 0⟩

/-- `logical_model_name` on a given index; `router.py:502–511`. -/
def logicalNameBy (index : Dict String String) (model : String) : String :=
  let key := lower (strip model)
  match (index.get? key).filter (· ≠ "") with
  | some mapped => mapped
  | none =>
    let bySegment := if hasSlash key then (index.get? (strip (lastSegment '/' key))).filter (· ≠ "")
      else none
    bySegment.getD (normalizeModelId key)

namespace Caches

/-! ## What routing reads -/

/-- `get_model_registry`; `router.py:423–435`. -/
def getModelRegistry (p : Caches) : RegistryObject × Caches :=
  match p.registryCache with
  | some object => (object, p)
  | none =>
    let object : RegistryObject := ⟨p.made, p.db.registry.seeded⟩
    (object, { p with db := { p.db with registry := p.db.registry.seeded },
                      registryCache := some object, made := p.made + 1 })

/-- `_alias_to_logical`; `router.py:447–482`. -/
def aliasToLogical (p : Caches) (object : RegistryObject) : Dict String String × Caches :=
  match p.aliasCache.filter (fun cached ↦ cached.1 = object.identity) with
  | some cached => (cached.2, p)
  | none =>
    let index := object.registry.names.aliasToLogical
    (index, { p with aliasCache := some (object.identity, index) })

/-- `logical_model_name`; `router.py:485–511`. -/
def logicalModelName (p : Caches) (model : String) : String × Caches :=
  if model = "" then (model, p) else
    let loaded := p.getModelRegistry
    let indexed := loaded.2.aliasToLogical loaded.1
    (logicalNameBy indexed.1 model, indexed.2)

/-- `benchmark_model_name`; `router.py:514–520`. -/
def benchmarkModelName (p : Caches) (logical : String) : String × Caches :=
  let loaded := p.getModelRegistry
  (loaded.1.registry.names.benchmarkModelName logical, loaded.2)

/-- `provider_model_name`; `router.py:523–536`. -/
def providerModelName (p : Caches) (logical provider : String) : String × Caches :=
  let loaded := p.getModelRegistry
  (loaded.1.registry.names.providerModelName logical provider, loaded.2)

/-- `load_matrix`; `router.py:558–569`. -/
def loadMatrix (p : Caches) : Matrix × Caches :=
  match p.matrixCache with
  | some matrix => (matrix, p)
  | none => (p.db.matrix, { p with matrixCache := some p.db.matrix })

/-- `get_model_score`; `router.py:755–777`. -/
def getModelScore (p : Caches) (model task : String) : PyFloat × Caches :=
  let loaded := p.loadMatrix
  let logical := loaded.2.logicalModelName model
  let benchmark := logical.2.benchmarkModelName logical.1
  (((loaded.1.get? task).bind (·.get? benchmark.1)).getD (.fin (defaultCapability logical.1)),
    benchmark.2)

/-! ## What the endpoints drop -/

/-- `invalidate_registry_cache`; `router.py:438–444`. -/
def invalidateRegistryCache (p : Caches) : Caches :=
  { p with registryCache := none, aliasCache := none }

/-- `invalidate_router_matrix`; `router.py:1773–1779`. -/
def invalidateRouterMatrix (p : Caches) : Caches := { p with matrixCache := none }

/-- `_serve_capability_manual_api`. -/
def manual (p : Caches) (body : ManualBody) (today now : String) : Caches :=
  match serveCapabilityManual p.db.capabilities body today now with
  | .ok stored => { p with db := { p.db with capabilities := stored.1 } }.invalidateRegistryCache
  | .error _ => p

/-- `_serve_capability_seed_api`: nothing is dropped. -/
def seed (declared : List DeclaredRow) (p : Caches) (now : String) : Caches :=
  { p with db :=
      { p.db with capabilities := seedCapabilities declared now p.db.capabilities } }

/-- `_serve_registry_upsert_api`. -/
def upsert (p : Caches) (body : RegistryBody) : Caches :=
  match serveRegistryUpsert p.db.registry body with
  | .ok stored => ({ p with db :=
      { p.db with registry := stored.1 } }.invalidateRegistryCache).invalidateRouterMatrix
  | .error _ => p

/-- `_serve_registry_delete_api`. -/
def delete (p : Caches) (logical : String) : Caches :=
  match serveRegistryDelete p.db.registry logical with
  | .ok registry => { p with db := { p.db with registry := registry } }.invalidateRegistryCache
  | .error _ => p

end Caches

/-! ## Runs -/

/-- A write over the API, or one read of a routing request. -/
inductive RouterCall where
  | manual (body : ManualBody) (today now : String)
  | seed (now : String)
  | upsert (body : RegistryBody)
  | delete (logical : String)
  | score (model task : String)
  | logical (model : String)
  | benchmark (logical : String)
  | provider (logical provider : String)
  | matrix

variable (declared : List DeclaredRow)

/-- The caches and the database after a call. -/
def Caches.step (p : Caches) : RouterCall → Caches
  | .manual body today now => p.manual body today now
  | .seed now => p.seed declared now
  | .upsert body => p.upsert body
  | .delete logical => p.delete logical
  | .score model task => (p.getModelScore model task).2
  | .logical model => (p.logicalModelName model).2
  | .benchmark logical => (p.benchmarkModelName logical).2
  | .provider logical provider => (p.providerModelName logical provider).2
  | .matrix => p.loadMatrix.2

/-- The score computed from a database alone. -/
def coldScore (db : Database) (model task : String) : PyFloat :=
  ((started db).getModelScore model task).1

/-- No cache is stale: each holds what the database gives. -/
structure NoStale (p : Caches) : Prop where
  registry : ∀ object ∈ p.registryCache, object.registry = p.db.registry
  aliases : ∀ cached ∈ p.aliasCache, cached.2 = p.db.registry.names.aliasToLogical
  matrix : ∀ matrix ∈ p.matrixCache, matrix = p.db.matrix

/-- No cache is stale, and every score is the one of the database. -/
def Current (p : Caches) : Prop :=
  NoStale p ∧ ∀ model task, (p.getModelScore model task).1 = coldScore p.db model task

/-- A call leaves the matrix of the database as it is, or no matrix is kept over it. An upsert
drops the matrix; a score reads the matrix before it seeds an empty registry. -/
def Undisturbed (p : Caches) : RouterCall → Prop
  | .upsert _ | .matrix => True
  | .score model task => (p.step declared (.score model task)).db.matrix = p.db.matrix
  | call => p.matrixCache = none ∨ (p.step declared call).db.matrix = p.db.matrix

/-! ## The lookups of names -/

section Names

variable {p : Caches} {object : RegistryObject}

/-- The score that a matrix and a registry give. -/
def scoreBy (matrix : Matrix) (registry : ReleaseRegistry) (model task : String) : PyFloat :=
  let logical := registry.names.logicalModelName model
  let benchmark := registry.names.benchmarkModelName logical
  ((matrix.get? task).bind (·.get? benchmark)).getD (.fin (defaultCapability logical))

/-- The kept registry is the one of the database and has entries; the kept index is its index. -/
structure NamesKept (p : Caches) : Prop where
  registry : ∀ object ∈ p.registryCache,
    object.registry = p.db.registry ∧ p.db.registry.size ≠ 0
  aliases : ∀ cached ∈ p.aliasCache, ∃ object ∈ p.registryCache,
    cached.1 = object.identity ∧ cached.2 = object.registry.names.aliasToLogical

/-- The caches after lookups of names. -/
structure Looked (p q : Caches) : Prop where
  kept : NamesKept q
  seeded : q.db.registry.seeded = p.db.registry.seeded
  matrix : q.matrixCache = p.matrixCache

/-- Lookups after lookups. -/
theorem Looked.trans {q r : Caches} (hpq : Looked p q) (hqr : Looked q r) : Looked p r where
  kept := hqr.kept
  seeded := hqr.seeded.trans hpq.seeded
  matrix := hqr.matrix.trans hpq.matrix

/-- No lookup. -/
theorem Looked.refl (h : NamesKept p) : Looked p p := ⟨h, rfl, rfl⟩

/-- A process that has dropped the registry and the index. -/
theorem namesKept_of_none (hregistry : p.registryCache = none) (halias : p.aliasCache = none) :
    NamesKept p := by
  constructor
  · simp [hregistry]
  · simp [halias]

/-- The index of a registry resolves as the registry does. -/
theorem logicalNameBy_aliasToLogical (registry : Registry) {model : String} (h : model ≠ "") :
    logicalNameBy registry.aliasToLogical model = registry.logicalModelName model := by
  rw [Registry.logicalModelName, if_neg h]
  rfl

/-- The loaded registry is the one of the database, seeded when it was empty. -/
theorem getModelRegistry_spec (h : NamesKept p) :
    p.getModelRegistry.1.registry = p.db.registry.seeded ∧
      p.getModelRegistry.2.registryCache = some p.getModelRegistry.1 ∧
      Looked p p.getModelRegistry.2 := by
  rw [Caches.getModelRegistry]
  split
  · next object hobject =>
    obtain ⟨hregistry, hsize⟩ := h.registry object hobject
    exact ⟨hregistry.trans (ReleaseRegistry.seeded_of_size hsize).symm, hobject, .refl h⟩
  · next hnone =>
    have halias : p.aliasCache = none := by
      cases hcached : p.aliasCache with
      | none => rfl
      | some cached =>
        obtain ⟨object, hobject, -⟩ := h.aliases cached hcached
        simp [hnone] at hobject
    refine ⟨rfl, rfl, ⟨?_, ?_⟩, ReleaseRegistry.seeded_seeded _, rfl⟩
    · intro object hobject
      obtain rfl := Option.some.inj hobject
      exact ⟨rfl, ReleaseRegistry.size_seeded _⟩
    · intro cached hcached
      simp [halias] at hcached

/-- The index of the kept registry. -/
theorem aliasToLogical_spec (h : NamesKept p) (hobject : p.registryCache = some object) :
    (p.aliasToLogical object).1 = object.registry.names.aliasToLogical ∧
      Looked p (p.aliasToLogical object).2 := by
  rw [Caches.aliasToLogical]
  split
  · next cached hcached =>
    obtain ⟨hmem, -⟩ := Option.filter_eq_some_iff.mp hcached
    obtain ⟨other, hother, -, hindex⟩ := h.aliases cached hmem
    obtain rfl : object = other := Option.some.inj (hobject.symm.trans hother)
    exact ⟨hindex, .refl h⟩
  · refine ⟨rfl, ⟨h.registry, ?_⟩, rfl, rfl⟩
    intro cached hcached
    obtain rfl := Option.some.inj hcached
    exact ⟨object, hobject, rfl, rfl⟩

/-- A model resolves as in the registry of the database. -/
theorem logicalModelName_spec (h : NamesKept p) (model : String) :
    (p.logicalModelName model).1 = p.db.registry.seeded.names.logicalModelName model ∧
      Looked p (p.logicalModelName model).2 := by
  rw [Caches.logicalModelName]
  split
  · next hempty => exact ⟨by rw [Registry.logicalModelName, if_pos hempty], .refl h⟩
  · next hmodel =>
    obtain ⟨hregistry, hcache, hloaded⟩ := getModelRegistry_spec h
    obtain ⟨hindex, hlooked⟩ := aliasToLogical_spec hloaded.kept hcache
    refine ⟨?_, hloaded.trans hlooked⟩
    simp only [hindex, hregistry, logicalNameBy_aliasToLogical _ hmodel]

/-- A logical name has the benchmark key of the registry of the database. -/
theorem benchmarkModelName_spec (h : NamesKept p) (logical : String) :
    (p.benchmarkModelName logical).1 = p.db.registry.seeded.names.benchmarkModelName logical ∧
      Looked p (p.benchmarkModelName logical).2 := by
  obtain ⟨hregistry, -, hlooked⟩ := getModelRegistry_spec h
  exact ⟨by rw [Caches.benchmarkModelName, hregistry], hlooked⟩

/-- The matrix in use, and the caches that keep it. -/
theorem loadMatrix_eq (p : Caches) :
    p.loadMatrix = (p.matrixCache.getD p.db.matrix,
      { p with matrixCache := some (p.matrixCache.getD p.db.matrix) }) := by
  rw [Caches.loadMatrix]
  split
  · next matrix hmatrix =>
    rw [hmatrix, Option.getD_some, ← hmatrix]
  · next hnone => rw [hnone, Option.getD_none]

/-- A score is the one of the matrix in use and of the registry of the database. -/
theorem getModelScore_spec (h : NamesKept p) (model task : String) :
    (p.getModelScore model task).1 =
        scoreBy (p.matrixCache.getD p.db.matrix) p.db.registry.seeded model task ∧
      (p.getModelScore model task).2.matrixCache = some (p.matrixCache.getD p.db.matrix) ∧
      NamesKept (p.getModelScore model task).2 := by
  have hloaded : NamesKept p.loadMatrix.2 := by
    rw [loadMatrix_eq]
    exact ⟨h.registry, h.aliases⟩
  obtain ⟨hlogical, hfirst⟩ := logicalModelName_spec hloaded model
  obtain ⟨hbenchmark, hsecond⟩ :=
    benchmarkModelName_spec hfirst.kept (p.loadMatrix.2.logicalModelName model).1
  have hdb : p.loadMatrix.2.db = p.db := by rw [loadMatrix_eq]
  rw [hdb] at hlogical
  rw [hfirst.seeded, hlogical, hdb] at hbenchmark
  refine ⟨?_, ?_, hsecond.kept⟩
  · dsimp only [Caches.getModelScore]
    rw [hlogical, hbenchmark, loadMatrix_eq]
    rfl
  · exact (hsecond.matrix.trans hfirst.matrix).trans (by rw [loadMatrix_eq])

end Names

/-! ## One call -/

section Calls

variable {declared} {p q : Caches} {call : RouterCall}

/-- The kept matrix is the one of the database. -/
def MatrixKept (p : Caches) : Prop := ∀ matrix ∈ p.matrixCache, matrix = p.db.matrix

/-- The matrix in use is the one of the database. -/
theorem matrix_used (hp : MatrixKept p) : p.matrixCache.getD p.db.matrix = p.db.matrix := by
  cases hmatrix : p.matrixCache with
  | none => rfl
  | some matrix => exact hp matrix hmatrix

/-- Every write to the registry drops it and its index. -/
theorem namesKept_step (h : NamesKept p) (call : RouterCall) :
    NamesKept (p.step declared call) := by
  cases call with
  | manual body today now =>
    rw [Caches.step, Caches.manual]
    split
    · exact namesKept_of_none rfl rfl
    · exact h
  | seed now => exact ⟨h.registry, h.aliases⟩
  | upsert body =>
    rw [Caches.step, Caches.upsert]
    split
    · exact namesKept_of_none rfl rfl
    · exact h
  | delete logical =>
    rw [Caches.step, Caches.delete]
    split
    · exact namesKept_of_none rfl rfl
    · exact h
  | score model task => exact (getModelScore_spec h model task).2.2
  | logical model => exact (logicalModelName_spec h model).2.kept
  | benchmark logical => exact (benchmarkModelName_spec h logical).2.kept
  | provider logical provider => exact (getModelRegistry_spec h).2.2.kept
  | matrix =>
    rw [Caches.step, loadMatrix_eq]
    exact ⟨h.registry, h.aliases⟩

/-- A matrix that is kept over a change of the database. -/
theorem matrixKept_iff_of_eq (hp : MatrixKept p) (hq : q.matrixCache = p.matrixCache) :
    MatrixKept q ↔ p.matrixCache = none ∨ q.db.matrix = p.db.matrix := by
  rw [MatrixKept, hq]
  cases hmatrix : p.matrixCache with
  | none => simp
  | some matrix =>
    have hkept : matrix = p.db.matrix := hp matrix hmatrix
    simp [hkept, eq_comm]

/-- A call keeps the matrix fresh exactly when it is undisturbed. -/
theorem matrixKept_step_iff (hnames : NamesKept p) (hp : MatrixKept p) (call : RouterCall) :
    MatrixKept (p.step declared call) ↔ Undisturbed declared p call := by
  have hused := matrix_used hp
  cases call with
  | manual body today now =>
    refine matrixKept_iff_of_eq hp ?_
    rw [Caches.step, Caches.manual]
    split <;> rfl
  | seed now => exact matrixKept_iff_of_eq hp rfl
  | upsert body =>
    refine iff_of_true ?_ trivial
    rw [Caches.step, Caches.upsert]
    split
    · intro matrix hmatrix
      cases hmatrix
    · exact hp
  | delete logical =>
    refine matrixKept_iff_of_eq hp ?_
    rw [Caches.step, Caches.delete]
    split <;> rfl
  | score model task =>
    have hmatrix := (getModelScore_spec hnames model task).2.1
    rw [hused] at hmatrix
    rw [MatrixKept, Undisturbed, Caches.step, hmatrix]
    simp [eq_comm]
  | logical model => exact matrixKept_iff_of_eq hp (logicalModelName_spec hnames model).2.matrix
  | benchmark logical =>
    exact matrixKept_iff_of_eq hp (benchmarkModelName_spec hnames logical).2.matrix
  | provider logical provider =>
    exact matrixKept_iff_of_eq hp (getModelRegistry_spec hnames).2.2.matrix
  | matrix =>
    refine iff_of_true ?_ trivial
    rw [Caches.step, loadMatrix_eq, hused]
    intro matrix hmatrix
    exact (Option.some.inj hmatrix).symm

/-- A process that has just started keeps nothing. -/
theorem namesKept_started (db : Database) : NamesKept (started db) := namesKept_of_none rfl rfl

/-- Caches that are kept up give the scores of the database. -/
theorem current_of_kept (hnames : NamesKept p) (hp : MatrixKept p) : Current p := by
  refine ⟨⟨fun object hobject ↦ (hnames.registry object hobject).1, ?_, hp⟩, ?_⟩
  · intro cached hcached
    obtain ⟨object, hobject, -, hindex⟩ := hnames.aliases cached hcached
    rw [hindex, (hnames.registry object hobject).1]
  · intro model task
    rw [(getModelScore_spec hnames model task).1, matrix_used hp, coldScore,
      (getModelScore_spec (namesKept_started p.db) model task).1]
    rfl

/-- In any run of writes and routing requests, no cache is ever stale and every score is the one of
the database, exactly when every call leaves the matrix of the database as it is while one is
kept. -/
theorem caches_current_iff (declared : List DeclaredRow) (db : Database)
    (calls : List RouterCall) :
    (∀ s ∈ steps (Caches.step declared) (started db) calls, Current (s.1.step declared s.2)) ↔
      ∀ s ∈ steps (Caches.step declared) (started db) calls, Undisturbed declared s.1 s.2 := by
  have hsafe : ∀ p call, NamesKept p ∧ MatrixKept p → True →
      (Current (Caches.step declared p call) ↔ Undisturbed declared p call) := by
    intro p call ⟨hnames, hp⟩ _
    rw [← matrixKept_step_iff hnames hp call]
    exact ⟨fun h ↦ h.1.matrix, current_of_kept (namesKept_step hnames call)⟩
  have hkeep : ∀ p call, NamesKept p ∧ MatrixKept p → True → Undisturbed declared p call →
      NamesKept (Caches.step declared p call) ∧ MatrixKept (Caches.step declared p call) :=
    fun _ call ⟨hnames, hp⟩ _ h ↦
      ⟨namesKept_step hnames call, (matrixKept_step_iff hnames hp call).mpr h⟩
  have hstart : NamesKept (started db) ∧ MatrixKept (started db) :=
    ⟨namesKept_started db, fun matrix hmatrix ↦ by simp [started] at hmatrix⟩
  exact steps_safe_iff hsafe hkeep _ calls hstart (fun _ _ ↦ trivial)

end Calls

/-- A database whose registry has one model, without scores. -/
def oneModel : Database where
  capabilities := []
  registry := Dict.empty.set "local" ⟨⟨"local", Dict.empty⟩, none⟩

/-- A score entered by hand for the one model. -/
def ninety : RouterCall :=
  .manual ⟨"local", "", [("planning", some (.fin 90))]⟩ "2026-10-01" "2026-10-01T12:00:00"

/-- A score entered by hand after a routing request is not used: the matrix is kept. -/
theorem manual_leaves_stale_matrix :
    let p := run (Caches.step []) (started oneModel) [.score "local" "planning", ninety]
    (p.getModelScore "local" "planning").1 = .fin (1 / 2) ∧
      coldScore p.db "local" "planning" = .fin (9 / 10) := by
  decide +kernel

end LcpGateway.Router
