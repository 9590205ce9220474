import LcpGateway.Base.Grouping
import LcpGateway.Base.Number
import LcpGateway.Config.Registry
import Mathlib.Data.List.MinMax
import Mathlib.Data.String.Basic

/-!
# The capability matrix

Library `Capability`. Sources `src/api/seed_capabilities.py:31–41,155–275` and
`src/api/models.py:173–193`. The rows of each model's release in effect, the best source of every
task, and the tasks derived from another one.
-/

namespace LcpGateway.Capability
open LcpGateway.Base

/-- A row of `model_capabilities`. -/
structure CapabilityRow where
  model : String
  taskType : String
  score : PyFloat
  source : String
  benchmarkCategory : Option String
  rawScore : Option PyFloat
  releaseLabel : Option String
  updatedAt : String
  deriving DecidableEq

/-- A registry entry with the release it pins. -/
structure ReleaseEntry extends Config.RegistryEntry where
  activeRelease : Option String

/-- `load_model_registry`. -/
abbrev ReleaseRegistry := Dict String ReleaseEntry

/-- Derived tasks and the task whose scores they take; `seed_capabilities.py:38–41`. -/
def DERIVED_TASKS : List (String × String) :=
  [("debugging", "code_generation"), ("unit_tests", "code_generation")]

/-- `SOURCE_PRIORITY.get(source, 99)`. -/
def sourcePriority (source : String) : Nat :=
  if source = "gateway_yaml" then 0
  else if source = "manual" then 1
  else if source = "lcp_benchmark" then 2
  else if source = "livebench" then 3
  else if source = "arena" then 4
  else 99

namespace CapabilityRow

/-- The priority of a row's source. -/
def priority (row : CapabilityRow) : Nat := sourcePriority row.source

/-- The cell of a row in the matrix. -/
def cell (row : CapabilityRow) : String × String := (row.taskType, row.model)

end CapabilityRow

/-! ## The release in effect -/

namespace ReleaseRegistry

/-- `by_key`: every spelling of an entry, lowered; the first entry keeps a spelling;
`seed_capabilities.py:171–176`. -/
def byKey (registry : ReleaseRegistry) : Dict String ReleaseEntry :=
  registry.entries.foldl (fun index e ↦
    (e.2.benchmarkKey :: e.2.providerMappings.entries.map Prod.snd).foldl (fun index key ↦
      if key = "" ∨ index.contains (lower key) then index else index.set (lower key) e.2)
      index) Dict.empty

/-- The `active_release` of a row's model; `seed_capabilities.py:184–185`. -/
def activeRelease (registry : ReleaseRegistry) (model : String) : Option String :=
  ((registry.byKey.get? (lower model)).or (registry.get? model)).bind ReleaseEntry.activeRelease

end ReleaseRegistry

/-- The release of a model whose rows are kept; `seed_capabilities.py:186–193`. -/
def selectedRelease (buckets : Dict (Option String) (List CapabilityRow))
    (active : Option String) : Option String :=
  let dated := buckets.entries.filterMap Prod.fst
  if buckets.contains active then active
  else if active = none ∨ active = some "latest" ∨ active = some "" ∨ dated = [] then
    if dated = [] then none else dated.max?
  else dated.max?

/-- The loop body of `resolve_active_rows`; `seed_capabilities.py:183–195`. -/
def activeRowsOf (registry : ReleaseRegistry) (model : String) (rows : List CapabilityRow) :
    List CapabilityRow :=
  let buckets := Dict.groupBy CapabilityRow.releaseLabel rows
  let selected := selectedRelease buckets (registry.activeRelease model)
  (buckets.get? selected).getD [] ++ (buckets.get? none).getD []

/-- `resolve_active_rows`; `seed_capabilities.py:155–196`. -/
def resolveActiveRows (rows : List CapabilityRow) (registry : ReleaseRegistry)
    (release : Option String) : List CapabilityRow :=
  match release with
  | some label => rows.filter (fun r ↦ r.releaseLabel = some label ∨ r.releaseLabel = none)
  | none => (Dict.groupBy CapabilityRow.model rows).entries.flatMap
      (fun e ↦ activeRowsOf registry e.1 e.2)

/-! ## The matrix -/

/-- A score with its source. -/
structure Best where
  score : PyFloat
  source : String

/-- The loop body that keeps the best source of a cell; `seed_capabilities.py:254–261`. -/
def keepBest (best : Dict (String × String) Best) (row : CapabilityRow) :
    Dict (String × String) Best :=
  match best.get? row.cell with
  | some existing =>
    if sourcePriority existing.source ≤ row.priority then best
    else best.set row.cell ⟨row.score, row.source⟩
  | none => best.set row.cell ⟨row.score, row.source⟩

/-- Scores under their task and model. -/
abbrev Matrix := Dict String (Dict String PyFloat)

/-- A derived task takes the scores of its source; `seed_capabilities.py:269–271`. -/
def overlay (matrix : Matrix) (derived : String × String) : Matrix :=
  match matrix.get? derived.2 with
  | some scores => matrix.set derived.1 (((matrix.get? derived.1).getD Dict.empty).update scores)
  | none => matrix

/-- `load_capability_matrix`; `seed_capabilities.py:234–273`. -/
def loadCapabilityMatrix (rows : List CapabilityRow) (registry : ReleaseRegistry)
    (release : Option String) : Matrix :=
  let registry := if release = none then registry else Dict.empty
  let best := (resolveActiveRows rows registry release).foldl keepBest Dict.empty
  let matrix : Matrix :=
    best.entries.foldl (fun matrix e ↦ matrix.setIn e.1.1 e.1.2 e.2.score) Dict.empty
  DERIVED_TASKS.foldl overlay matrix

/-! ## What is in force for one model -/

/-- The release of a model's rows that is in effect: the pinned one when it has rows (no pin
counts as the release of the rows without one), else the newest. -/
def releaseInEffect (rows : List CapabilityRow) (active : Option String) : Option String :=
  if active ∈ rows.map CapabilityRow.releaseLabel then active
  else (rows.filterMap CapabilityRow.releaseLabel).max?

/-- The rows of a release, then the rows without one. -/
def rowsOfRelease (rows : List CapabilityRow) (label : Option String) : List CapabilityRow :=
  rows.filter (fun r ↦ r.releaseLabel = label) ++ rows.filter (fun r ↦ r.releaseLabel = none)

/-- The rows of a model that are in effect. -/
def live (rows : List CapabilityRow) (active : Option String) : List CapabilityRow :=
  rowsOfRelease rows (releaseInEffect rows active)

/-- The rows of a task. -/
def ofTask (rows : List CapabilityRow) (task : String) : List CapabilityRow :=
  rows.filter (fun r ↦ r.taskType = task)

/-- The score of a task: of the first row with the best source. -/
def scoreOf (rows : List CapabilityRow) (task : String) : Option PyFloat :=
  ((ofTask rows task).argmin CapabilityRow.priority).map CapabilityRow.score

/-- The task whose scores a task takes. -/
def proxyOf (task : String) : Option String :=
  (DERIVED_TASKS.find? (fun d ↦ d.1 = task)).map Prod.snd

/-- The score in force: a derived task takes the score of its source when there is one. -/
def inForce (rows : List CapabilityRow) (task : String) : Option PyFloat :=
  ((proxyOf task).bind (scoreOf rows)).or (scoreOf rows task)

/-- The rows of one model. -/
def ofModel (rows : List CapabilityRow) (model : String) : List CapabilityRow :=
  rows.filter (fun r ↦ r.model = model)

/-! ## The loaded matrix holds what is in force -/

/-- The buckets of a model's releases select the release in effect. -/
theorem selectedRelease_groupBy (rows : List CapabilityRow) (active : Option String) :
    selectedRelease (Dict.groupBy CapabilityRow.releaseLabel rows) active =
      releaseInEffect rows active := by
  have hdated : ((Dict.groupBy CapabilityRow.releaseLabel rows).entries.filterMap Prod.fst).max? =
      (rows.filterMap CapabilityRow.releaseLabel).max? := by
    refine max?_congr fun label ↦ ?_
    have hkeys := ((Dict.groupBy CapabilityRow.releaseLabel rows).contains_iff
      (some label)).symm.trans
      (Dict.contains_groupBy CapabilityRow.releaseLabel rows (some label))
    simpa only [List.mem_filterMap, List.mem_map] using hkeys
  unfold selectedRelease releaseInEffect
  simp only [Dict.contains_groupBy, hdated]
  split
  · rfl
  · split
    · split
      · next hnil =>
        rw [← hdated, hnil]
        rfl
      · rfl
    · rfl

/-- The rows kept of a model are the live ones. -/
theorem activeRowsOf_eq (registry : ReleaseRegistry) (model : String)
    (rows : List CapabilityRow) :
    activeRowsOf registry model rows = live rows (registry.activeRelease model) := by
  unfold activeRowsOf live rowsOfRelease
  simp only [Dict.getD_groupBy, selectedRelease_groupBy]

/-- Live rows are rows. -/
theorem mem_of_mem_live {rows : List CapabilityRow} {active : Option String} {r : CapabilityRow}
    (h : r ∈ live rows active) : r ∈ rows := by
  rcases List.mem_append.mp h with h | h
  · exact (List.mem_filter.mp h).1
  · exact (List.mem_filter.mp h).1

/-- The active rows of one model. -/
theorem ofModel_resolveActiveRows (rows : List CapabilityRow) (registry : ReleaseRegistry)
    (model : String) :
    ofModel (resolveActiveRows rows registry none) model =
      live (ofModel rows model) (registry.activeRelease model) := by
  have hmodel : ∀ e ∈ (Dict.groupBy CapabilityRow.model rows).entries,
      ∀ r ∈ activeRowsOf registry e.1 e.2, r.model = e.1 := by
    rintro ⟨name, group⟩ he r hr
    rw [Dict.mem_entries_iff] at he
    have hgroup := Dict.getD_groupBy CapabilityRow.model rows name
    rw [he, Option.getD_some] at hgroup
    rw [activeRowsOf_eq] at hr
    have hmem := mem_of_mem_live hr
    rw [hgroup] at hmem
    simpa using (List.mem_filter.mp hmem).2
  have hfilter := Dict.filter_flatMap_entries (Dict.groupBy CapabilityRow.model rows)
    (activeRowsOf registry) hmodel model
  refine hfilter.trans ?_
  have hgroup := Dict.getD_groupBy CapabilityRow.model rows model
  cases hget : (Dict.groupBy CapabilityRow.model rows).get? model with
  | none =>
    rw [hget, Option.getD_none] at hgroup
    rw [ofModel, ← hgroup]
    simp [live, rowsOfRelease]
  | some group =>
    rw [hget, Option.getD_some] at hgroup
    rw [ofModel, ← hgroup]
    exact activeRowsOf_eq registry model group

/-- A row as an entry of the fold. -/
private def asBest (row : CapabilityRow) : Best := ⟨row.score, row.source⟩

/-- What the loop body does to the entry of a row's cell. -/
private def better (best : Option Best) (row : CapabilityRow) : Option Best :=
  match best with
  | some existing =>
    if sourcePriority existing.source ≤ row.priority then best else some (asBest row)
  | none => some (asBest row)

private theorem get?_keepBest (best : Dict (String × String) Best) (row : CapabilityRow)
    (cell : String × String) : (keepBest best row).get? cell =
      if row.cell = cell then better (best.get? cell) row else best.get? cell := by
  by_cases hcell : row.cell = cell
  · subst hcell
    unfold keepBest better
    cases hget : best.get? row.cell with
    | none => simp [asBest]
    | some existing =>
      by_cases hprio : sourcePriority existing.source ≤ row.priority <;> simp [hprio, hget, asBest]
  · unfold keepBest
    cases best.get? row.cell with
    | none => simp [Dict.get?_set, hcell]
    | some existing =>
      by_cases hprio : sourcePriority existing.source ≤ row.priority <;>
        simp [hprio, Dict.get?_set, hcell]

private theorem foldl_better (rows : List CapabilityRow) :
    rows.foldl better none = (rows.argmin CapabilityRow.priority).map asBest := by
  suffices h : ∀ kept : Option CapabilityRow, rows.foldl better (kept.map asBest) =
      (rows.foldl (List.argAux fun r r' ↦ r.priority < r'.priority) kept).map asBest from h none
  induction rows with
  | nil => exact fun _ ↦ rfl
  | cons row rest ih =>
    intro kept
    rw [List.foldl_cons, List.foldl_cons, ← ih]
    congr 1
    cases kept with
    | none => rfl
    | some r =>
      by_cases hprio : r.priority ≤ row.priority
      · have hnot : ¬ row.priority < r.priority := by omega
        change (if r.priority ≤ row.priority then some (asBest r) else some (asBest row)) = _
        simp [List.argAux, hprio, hnot]
      · have hlt : row.priority < r.priority := by omega
        change (if r.priority ≤ row.priority then some (asBest r) else some (asBest row)) = _
        simp [List.argAux, hprio, hlt]

/-- The rows of a cell, by model and then by task. -/
theorem filter_cell (rows : List CapabilityRow) (task model : String) :
    rows.filter (fun r ↦ r.cell = (task, model)) = ofTask (ofModel rows model) task := by
  rw [ofTask, ofModel, List.filter_filter]
  refine List.filter_congr fun r _ ↦ ?_
  simp [CapabilityRow.cell]

private theorem getIn_scores (best : Dict (String × String) Best) (task model : String) :
    (best.entries.foldl (fun (matrix : Matrix) e ↦ matrix.setIn e.1.1 e.1.2 e.2.score)
      Dict.empty).getIn task model = (best.get? (task, model)).map Best.score := by
  have hstep : ∀ (matrix : Matrix) (e : (String × String) × Best) (k : String × String),
      (matrix.setIn e.1.1 e.1.2 e.2.score).getIn k.1 k.2 =
        if e.1 = k then some e.2.score else matrix.getIn k.1 k.2 := fun matrix e k ↦
    Dict.getIn_setIn matrix e.1.1 k.1 e.1.2 k.2 e.2.score
  have hfold := foldl_observe (fun (matrix : Matrix) k ↦ matrix.getIn k.1 k.2) Prod.fst
    (fun _ e ↦ some e.2.score) hstep best.entries Dict.empty (task, model)
  refine hfold.trans ?_
  rw [Dict.filter_entries]
  cases best.get? (task, model) <;> rfl

private theorem getIn_overlay (matrix : Matrix) (derived : String × String) (task model : String) :
    (overlay matrix derived).getIn task model =
      if derived.1 = task then (matrix.getIn derived.2 model).or (matrix.getIn task model)
      else matrix.getIn task model := by
  unfold overlay Dict.getIn
  by_cases htask : derived.1 = task
  · subst htask
    cases hsource : matrix.get? derived.2 with
    | none => simp
    | some scores => cases matrix.get? derived.1 <;> simp [Dict.get?_update]
  · cases matrix.get? derived.2 <;> simp [Dict.get?_set, htask]

/-- The loaded matrix holds the scores in force of every model. -/
theorem getIn_loadCapabilityMatrix (rows : List CapabilityRow) (registry : ReleaseRegistry)
    (task model : String) : (loadCapabilityMatrix rows registry none).getIn task model =
      inForce (live (ofModel rows model) (registry.activeRelease model)) task := by
  have hscore : ∀ task, (((resolveActiveRows rows registry none).foldl keepBest Dict.empty).get?
      (task, model)).map Best.score =
        scoreOf (live (ofModel rows model) (registry.activeRelease model)) task := by
    intro task
    have hfold := foldl_observe (fun (best : Dict (String × String) Best) cell ↦ best.get? cell)
      CapabilityRow.cell better get?_keepBest (resolveActiveRows rows registry none) Dict.empty
      (task, model)
    rw [hfold, filter_cell, ofModel_resolveActiveRows, Dict.get?_empty, foldl_better,
      Option.map_map, scoreOf]
    rfl
  simp only [loadCapabilityMatrix, DERIVED_TASKS, List.foldl_cons, List.foldl_nil, if_true,
    getIn_overlay, getIn_scores, hscore, inForce, proxyOf]
  by_cases hdebug : "debugging" = task
  · subst hdebug
    simp
  · by_cases htests : "unit_tests" = task
    · subst htests
      simp
    · simp [hdebug, htests]

end LcpGateway.Capability
