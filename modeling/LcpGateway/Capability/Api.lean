import LcpGateway.Capability.Matrix

/-!
# The capability endpoint

Library `Capability`. Sources `src/server/endpoints.py:2728–2798` and
`src/api/seed_capabilities.py:199–231`. The endpoint lets the last row of a cell win and knows no
derived tasks; the router takes the best source and derives two tasks.
-/

namespace LcpGateway.Capability
open LcpGateway.Base

/-- `effective_releases`; `seed_capabilities.py:199–231`. -/
def effectiveReleases (rows : List CapabilityRow) (registry : ReleaseRegistry) :
    Dict String String :=
  let labelled := rows.filter (fun r ↦ r.releaseLabel ≠ none ∧ r.releaseLabel ≠ some "")
  (Dict.groupBy CapabilityRow.model labelled).entries.foldl (fun out e ↦
    let releases := e.2.filterMap CapabilityRow.releaseLabel
    match registry.activeRelease e.1, releases.max? with
    | some active, some newest => out.set e.1 (if active ∈ releases then active else newest)
    | none, some newest => out.set e.1 newest
    | _, none => out) Dict.empty

/-- The answer of `GET /api/models/capability`; `subtasks` is always empty. -/
structure CapabilityResponse where
  tasks : Matrix
  sources : Dict String (Dict String String)
  benchmarkCategories : Dict String (Dict String String)
  releases : Dict String (Dict String String)
  activeReleases : Dict String String
  count : Nat

/-- A text that is neither missing nor empty. -/
def present (s : Option String) : Option String := s.filter (· ≠ "")

/-- The column of a row under its task and model, when there is one. -/
def putIn (column : CapabilityRow → Option String) (cells : Dict String (Dict String String))
    (row : CapabilityRow) : Dict String (Dict String String) :=
  match column row with
  | some value => cells.setIn row.taskType row.model value
  | none => cells

/-- `_serve_capability_api`, with the filters of the query; `endpoints.py:2728–2798`. -/
def serveCapabilityApi (rows : List CapabilityRow) (registry : ReleaseRegistry)
    (source release : Option String) : CapabilityResponse :=
  let queried := match source with
    | some name => rows.filter (fun r ↦ r.source = name)
    | none => rows
  let kept := resolveActiveRows queried registry release
  { tasks := kept.foldl (fun tasks r ↦ tasks.setIn r.taskType r.model r.score) Dict.empty
    sources := kept.foldl (putIn (fun r ↦ some r.source)) Dict.empty
    benchmarkCategories := kept.foldl (putIn (fun r ↦ present r.benchmarkCategory)) Dict.empty
    releases := kept.foldl (putIn (fun r ↦ present r.releaseLabel)) Dict.empty
    activeReleases := if release = none then effectiveReleases queried registry else Dict.empty
    count := kept.length }

/-- The score of the last row of a task. -/
def lastScore (rows : List CapabilityRow) (task : String) : Option PyFloat :=
  (ofTask rows task).getLast?.map CapabilityRow.score

/-- Both reductions of one model's live rows agree: the last row of every task has the score of
the first row of its best source, and a derived task whose source has rows ends with a row of
that source's score. -/
structure CellsAgree (rows : List CapabilityRow) : Prop where
  last_is_best : ∀ task, (∀ source, proxyOf task = some source → ofTask rows source = []) →
    lastScore rows task = scoreOf rows task
  derived_mirrors : ∀ task source, proxyOf task = some source → ofTask rows source ≠ [] →
    lastScore rows task = scoreOf rows source

/-- A task has a score when it has rows. -/
theorem scoreOf_eq_none_iff (rows : List CapabilityRow) (task : String) :
    scoreOf rows task = none ↔ ofTask rows task = [] := by
  rw [scoreOf, Option.map_eq_none_iff, List.argmin_eq_none]

/-- The endpoint answers the last score of every live cell. -/
theorem getIn_serveCapabilityApi (rows : List CapabilityRow) (registry : ReleaseRegistry)
    (task model : String) : (serveCapabilityApi rows registry none none).tasks.getIn task model =
      lastScore (live (ofModel rows model) (registry.activeRelease model)) task := by
  have hstep : ∀ (tasks : Matrix) (r : CapabilityRow) (k : String × String),
      (tasks.setIn r.taskType r.model r.score).getIn k.1 k.2 =
        if r.cell = k then some r.score else tasks.getIn k.1 k.2 := fun tasks r k ↦
    Dict.getIn_setIn tasks r.taskType k.1 r.model k.2 r.score
  have hfold := foldl_observe (fun (tasks : Matrix) k ↦ tasks.getIn k.1 k.2) CapabilityRow.cell
    (fun _ r ↦ some r.score) hstep (resolveActiveRows rows registry none) Dict.empty (task, model)
  rw [filter_cell, ofModel_resolveActiveRows, Dict.getIn_empty, foldl_overwrite] at hfold
  exact hfold

/-- The two reductions agree on every task of live rows exactly when the cells agree. -/
theorem lastScore_eq_inForce_iff (rows : List CapabilityRow) :
    (∀ task, lastScore rows task = inForce rows task) ↔ CellsAgree rows := by
  constructor
  · intro h
    constructor
    · intro task hproxy
      rw [h task, inForce]
      cases htask : proxyOf task with
      | none => rfl
      | some source =>
        have hnone := (scoreOf_eq_none_iff rows source).mpr (hproxy source htask)
        rw [Option.bind_some, hnone, Option.none_or]
    · intro task source htask hrows
      obtain ⟨score, hscore⟩ :=
        Option.ne_none_iff_exists'.mp fun hnone ↦ hrows ((scoreOf_eq_none_iff rows source).mp hnone)
      rw [h task, inForce, htask, Option.bind_some, hscore, Option.some_or]
  · intro h task
    rw [inForce]
    cases htask : proxyOf task with
    | none => exact h.last_is_best task (by simp [htask])
    | some source =>
      by_cases hrows : ofTask rows source = []
      · rw [h.last_is_best task fun source' hsource' ↦ by
          rwa [← Option.some.inj (htask.symm.trans hsource')]]
        rw [Option.bind_some, (scoreOf_eq_none_iff rows source).mpr hrows, Option.none_or]
      · rw [h.derived_mirrors task source htask hrows, Option.bind_some]
        obtain ⟨score, hscore⟩ :=
          Option.ne_none_iff_exists'.mp fun hnone ↦
            hrows ((scoreOf_eq_none_iff rows source).mp hnone)
        rw [hscore, Option.some_or]

/-- The endpoint answers the router's matrix, cell by cell and with the same cells, exactly when
the live cells of every model agree. -/
theorem api_eq_matrix_iff (rows : List CapabilityRow) (registry : ReleaseRegistry) :
    (∀ task model, (serveCapabilityApi rows registry none none).tasks.getIn task model =
      (loadCapabilityMatrix rows registry none).getIn task model) ↔
        ∀ model, CellsAgree (live (ofModel rows model) (registry.activeRelease model)) := by
  simp only [getIn_serveCapabilityApi, getIn_loadCapabilityMatrix]
  rw [forall_comm]
  exact forall_congr' fun model ↦ lastScore_eq_inForce_iff _

/-- A row without a release. -/
def unversioned (model task source : String) (score : Rat) : CapabilityRow :=
  ⟨model, task, .fin score, source, none, none, none, "2026-01-01T00:00:00+00:00"⟩

/-- A hand-set score before an imported one: the endpoint answers the imported score and no
`debugging`, the router uses the hand-set one for both. -/
theorem api_differs_from_matrix :
    let rows := [unversioned "kimi-k3" "code_generation" "manual" 0.9,
      unversioned "kimi-k3" "code_generation" "livebench" 0.5]
    (serveCapabilityApi rows Dict.empty none none).tasks.getIn "code_generation" "kimi-k3" =
        some (.fin 0.5) ∧
      (loadCapabilityMatrix rows Dict.empty none).getIn "code_generation" "kimi-k3" =
        some (.fin 0.9) ∧
      (serveCapabilityApi rows Dict.empty none none).tasks.getIn "debugging" "kimi-k3" = none ∧
      (loadCapabilityMatrix rows Dict.empty none).getIn "debugging" "kimi-k3" =
        some (.fin 0.9) := by
  decide +kernel

end LcpGateway.Capability
