import LcpGateway.Base.Run
import LcpGateway.Work.TasksView

/-!
# The lite listing

Library `Work`. Source `src/api/work_tasks.py:126–159,429–470,521–540`. The root of a call travels
in a context variable. The last lite listing is kept for some seconds in a variable of the module
that does not say whose listing it is.
-/

namespace LcpGateway.Work
open LcpGateway.Base

/-- Where the root comes from when none is in force: `LCP_WORK_TASKS_DIR`, then the configured
sources. -/
structure TasksSources where
  env : Option String
  tasksRoot : Option String

/-- `DEFAULT_TASKS_DIR`. -/
def defaultTasksDir : String := "/root/.hermes/profiles/homelab-expert-l2/work/tasks"

/-- `_LITE_CACHE`. -/
structure LiteCache where
  ts : Rat
  moments : List Moment

/-- `_LITE_CACHE_TTL`. -/
def liteCacheTtl : Rat := 8

/-- The variables of the module: `_ACTIVE_ROOT` and `_LITE_CACHE`. -/
structure TasksModule where
  activeRoot : Option String
  lite : LiteCache

/-- `tasks_dir`; `work_tasks.py:144–159`. -/
def tasksDir (sources : TasksSources) (m : TasksModule) : String :=
  [m.activeRoot, sources.env, sources.tasksRoot].findSome? (fun root ↦ root.filter (· ≠ ""))
    |>.getD defaultTasksDir

/-- `use_root`; `work_tasks.py:134–141`. -/
def useRoot {α : Type} (root : String) (body : TasksModule → α × TasksModule) (m : TasksModule) :
    α × TasksModule :=
  let (a, m') := body { m with activeRoot := some root }
  (a, { m' with activeRoot := m.activeRoot })

/-- What a call meets: the trees by their roots, and the clock at its start and behind its walk. -/
structure Outside where
  tree : String → TaskTree
  now : Rat
  walked : Rat

section Calls

variable (mdToHtml : String → String) (sources : TasksSources)

/-- The cache behind a walk, which a lite one that raised nothing fills; `work_tasks.py:463–465`. -/
def LiteCache.behind (cache : LiteCache) (o : Outside) (lite : Bool) :
    Option (List Moment) → LiteCache
  | some moments => if lite then ⟨o.walked, moments⟩ else cache
  | none => cache

/-- `task_moments`; none for an exception; `work_tasks.py:429–466`. -/
def taskMoments (o : Outside) (lite : Bool) (m : TasksModule) :
    Option (List Moment) × TasksModule :=
  let root := tasksDir sources m
  if (o.tree root).isDir = false then (some [], m)
  else if lite = true ∧ m.lite.ts ≠ 0 ∧ o.now - m.lite.ts < liteCacheTtl then
    (some m.lite.moments, m)
  else
    let found := walk mdToHtml root (o.tree root) lite
    (found, { m with lite := m.lite.behind o lite found })

/-- `tasks_view`; none for an exception; `work_tasks.py:521–640`. -/
def tasksView (o : Outside) (params : TasksParams) (m : TasksModule) :
    Option TasksView × TasksModule :=
  let root := tasksDir sources m
  let (moments, m') := taskMoments mdToHtml sources o params.walksLite m
  (moments.bind (viewOf root (o.tree root) params), m')

/-- The two calls. -/
inductive Asked where
  | moments (lite : Bool)
  | view (params : TasksParams)

/-- The listing the call is made from is a lite one. -/
def Asked.lite : Asked → Bool
  | .moments lite => lite
  | .view params => params.walksLite

/-- What the two calls return. -/
inductive Answer where
  | moments (moments : Option (List Moment))
  | view (view : Option TasksView)

/-- A call under a root. -/
structure TaskCall where
  root : String
  outside : Outside
  asked : Asked

/-- A call as it is served. -/
def TaskCall.serve (call : TaskCall) : TasksModule → Answer × TasksModule :=
  useRoot call.root (fun m ↦
    match call.asked with
    | .moments lite => let (a, m') := taskMoments mdToHtml sources call.outside lite m
      (.moments a, m')
    | .view params => let (a, m') := tasksView mdToHtml sources call.outside params m
      (.view a, m'))

/-- The directory a call is about: its root, unless that is empty. -/
def TaskCall.dir (call : TaskCall) : String := tasksDir sources ⟨some call.root, ⟨0, []⟩⟩

/-- The tree a call is about. -/
def TaskCall.tree (call : TaskCall) : TaskTree := call.outside.tree (call.dir sources)

/-- The moments of a tree. -/
def momentsOf (root : String) (tree : TaskTree) (lite : Bool) : Option (List Moment) :=
  if tree.isDir = false then some [] else walk mdToHtml root tree lite

/-- What a call returns that is made from a tree: the moments from the tree as it was walked, the
rest of a view from the tree as it is. -/
def answerOf (root : String) (walked tree : TaskTree) : Asked → Answer
  | .moments lite => .moments (momentsOf mdToHtml root walked lite)
  | .view params =>
    .view ((momentsOf mdToHtml root walked params.walksLite).bind (viewOf root tree params))

/-! ## Runs of calls -/

/-- The module, with the call whose walk the lite listing is from. -/
structure TasksProcess where
  module : TasksModule
  filled : Option TaskCall

/-- A call that reads the listing of an earlier one: it is about a directory, asks for a lite
listing, and the last one was walked less than eight seconds ago. -/
def TaskCall.reads (call c : TaskCall) : Prop :=
  (call.tree sources).isDir = true ∧ call.asked.lite = true ∧ c.outside.walked ≠ 0 ∧
    call.outside.now - c.outside.walked < liteCacheTtl

instance (call c : TaskCall) : Decidable (call.reads sources c) := by
  unfold TaskCall.reads
  infer_instance

/-- The call whose walk the lite listing is from, behind one more call. -/
def nextFilled (filled : Option TaskCall) (call : TaskCall) : Option TaskCall :=
  if (call.tree sources).isDir = true ∧ call.asked.lite = true ∧
      (∀ c ∈ filled, ¬ call.reads sources c) ∧
      (walk mdToHtml (call.dir sources) (call.tree sources) true).isSome then some call
  else filled

/-- One call. -/
def TasksProcess.step (p : TasksProcess) (call : TaskCall) : TasksProcess :=
  ⟨(call.serve mdToHtml sources p.module).2, nextFilled mdToHtml sources p.filled call⟩

/-- The tree at the root of a call, as it was walked for the listing the call is made from. -/
def TasksProcess.seen (p : TasksProcess) (call : TaskCall) : TaskTree :=
  match p.filled with
  | some c => if call.reads sources c then c.outside.tree (call.dir sources) else call.tree sources
  | none => call.tree sources

/-- A call that reads the listing of an earlier one is about the same directory. -/
def SameRoot (p : TasksProcess) (call : TaskCall) : Prop :=
  ∀ c ∈ p.filled, call.reads sources c → c.dir sources = call.dir sources

/-- The lite listing is the walk of the call that filled it. -/
def Filled (p : TasksProcess) : Prop :=
  match p.filled with
  | none => p.module.lite.ts = 0
  | some c => p.module.lite.ts = c.outside.walked ∧ (c.tree sources).isDir = true ∧
    walk mdToHtml (c.dir sources) (c.tree sources) true = some p.module.lite.moments

variable {mdToHtml sources} {p : TasksProcess} {call : TaskCall}

/-- The tree of a call that reads no earlier listing is the one it meets. -/
theorem seen_of_not_reads (h : ∀ c ∈ p.filled, ¬ call.reads sources c) :
    p.seen sources call = call.tree sources := by
  rw [TasksProcess.seen]
  cases hfilled : p.filled with
  | none => rfl
  | some c => exact if_neg (h c hfilled)

/-- Under a filled listing, the code reads it exactly for a call that reads the listing of the one
that filled it. -/
theorem reads_iff (h : Filled mdToHtml sources p) (hdir : (call.tree sources).isDir = true) :
    (call.asked.lite = true ∧ p.module.lite.ts ≠ 0 ∧
        call.outside.now - p.module.lite.ts < liteCacheTtl) ↔
      ∃ c ∈ p.filled, call.reads sources c := by
  rw [Filled] at h
  cases hfilled : p.filled with
  | none =>
    rw [hfilled] at h
    simp [h]
  | some c =>
    rw [hfilled] at h
    simp [h.1, TaskCall.reads, hdir]

variable (mdToHtml sources) in
/-- The moments under a root are read below it. -/
theorem taskMoments_under (call : TaskCall) (lite : Bool) (m : TasksModule) :
    taskMoments mdToHtml sources call.outside lite { m with activeRoot := some call.root } =
      if (call.tree sources).isDir = false then (some [], { m with activeRoot := some call.root })
      else if lite = true ∧ m.lite.ts ≠ 0 ∧ call.outside.now - m.lite.ts < liteCacheTtl then
        (some m.lite.moments, { m with activeRoot := some call.root })
      else
        (walk mdToHtml (call.dir sources) (call.tree sources) lite,
          ⟨some call.root, m.lite.behind call.outside lite
            (walk mdToHtml (call.dir sources) (call.tree sources) lite)⟩) :=
  rfl

variable (mdToHtml sources) in
/-- A call leaves what its listing leaves, with the root that was in force before. -/
theorem serve_snd (call : TaskCall) (m : TasksModule) :
    (call.serve mdToHtml sources m).2 =
      ⟨m.activeRoot, (taskMoments mdToHtml sources call.outside call.asked.lite
        { m with activeRoot := some call.root }).2.lite⟩ := by
  rw [TaskCall.serve]
  cases call.asked <;> rfl

/-- The moments served are those of the tree at the call's root, as it was seen. -/
theorem taskMoments_fst (h : Filled mdToHtml sources p) (hroot : SameRoot sources p call) :
    (taskMoments mdToHtml sources call.outside call.asked.lite
        { p.module with activeRoot := some call.root }).1 =
      momentsOf mdToHtml (call.dir sources) (p.seen sources call) call.asked.lite := by
  rw [taskMoments_under]
  cases hdir : (call.tree sources).isDir with
  | false =>
    have hseen : p.seen sources call = call.tree sources :=
      seen_of_not_reads fun c _ hreads ↦ absurd hreads.1 (by simp [hdir])
    rw [if_pos rfl, hseen, momentsOf, if_pos hdir]
  | true =>
    rw [if_neg (by decide)]
    by_cases hreads : ∃ c ∈ p.filled, call.reads sources c
    · rw [if_pos ((reads_iff h hdir).mpr hreads)]
      obtain ⟨c, hc, hreads⟩ := hreads
      have hsame := hroot c hc hreads
      rw [Filled, Option.mem_def.mp hc] at h
      obtain ⟨-, hcdir, hwalk⟩ := h
      have hseen : p.seen sources call = c.tree sources := by
        rw [TasksProcess.seen, Option.mem_def.mp hc]
        simp only [if_pos hreads, ← hsame, TaskCall.tree]
      rw [hseen, momentsOf, hcdir, if_neg (by decide), ← hsame, hreads.2.1, hwalk]
    · rw [if_neg (fun hcond ↦ hreads ((reads_iff h hdir).mp hcond)),
        seen_of_not_reads fun c hc hr ↦ hreads ⟨c, hc, hr⟩, momentsOf, hdir, if_neg (by decide)]

/-- The answer of a call is the one of the tree at its root, as it was seen. -/
theorem serve_fst (h : Filled mdToHtml sources p) (hroot : SameRoot sources p call) :
    (call.serve mdToHtml sources p.module).1 =
      answerOf mdToHtml (call.dir sources) (p.seen sources call) (call.tree sources)
        call.asked := by
  have hmoments := taskMoments_fst h hroot
  rw [TaskCall.serve]
  cases hasked : call.asked with
  | moments lite =>
    rw [hasked, Asked.lite] at hmoments
    rw [answerOf, ← hmoments]
    rfl
  | view params =>
    rw [hasked, Asked.lite] at hmoments
    rw [answerOf, ← hmoments]
    rfl

/-- A call leaves a listing that is the walk of the call that filled it. -/
theorem filled_step (h : Filled mdToHtml sources p) :
    Filled mdToHtml sources (p.step mdToHtml sources call) := by
  -- a call that neither reads the listing nor writes it
  have hkept : nextFilled mdToHtml sources p.filled call = p.filled →
      (taskMoments mdToHtml sources call.outside call.asked.lite
        { p.module with activeRoot := some call.root }).2.lite = p.module.lite →
      Filled mdToHtml sources (p.step mdToHtml sources call) := by
    intro hfilled hlite
    rw [TasksProcess.step, serve_snd, hlite, hfilled]
    exact h
  rw [taskMoments_under] at hkept
  by_cases hdir : (call.tree sources).isDir = false
  · exact hkept (if_neg (by simp [hdir])) (by rw [if_pos hdir])
  have hdir' : (call.tree sources).isDir = true := by simpa using hdir
  rw [if_neg hdir] at hkept
  by_cases hreads : ∃ c ∈ p.filled, call.reads sources c
  · obtain ⟨c, hc, hcall⟩ := hreads
    refine hkept (if_neg fun hcond ↦ hcond.2.2.1 c hc hcall) ?_
    rw [if_pos ((reads_iff h hdir').mpr ⟨c, hc, hcall⟩)]
  rw [if_neg (fun hcond ↦ hreads ((reads_iff h hdir').mp hcond))] at hkept
  cases hlite : call.asked.lite with
  | false =>
    refine hkept (if_neg (by simp [hlite])) ?_
    cases walk mdToHtml (call.dir sources) (call.tree sources) call.asked.lite with
    | none => rfl
    | some moments => rw [hlite]; rfl
  | true =>
    rw [hlite] at hkept
    cases hwalk : walk mdToHtml (call.dir sources) (call.tree sources) true with
    | none => exact hkept (if_neg (by simp [hwalk])) (by rw [hwalk]; rfl)
    | some moments =>
      have hnext : nextFilled mdToHtml sources p.filled call = some call :=
        if_pos ⟨hdir', hlite, fun c hc hr ↦ hreads ⟨c, hc, hr⟩, by simp [hwalk]⟩
      rw [TasksProcess.step, serve_snd, taskMoments_under, if_neg hdir,
        if_neg (fun hcond ↦ hreads ((reads_iff h hdir').mp hcond)), hnext, hlite, hwalk]
      exact ⟨rfl, hdir', hwalk⟩

/-- In any run of calls under any roots in which no call reads a listing of another root, every call
returns what the tree at its own root gives. -/
theorem answers_ofTree (calls : List TaskCall) (activeRoot : Option String)
    (hroot : ∀ p ∈ steps (TasksProcess.step mdToHtml sources) ⟨⟨activeRoot, ⟨0, []⟩⟩, none⟩ calls,
      SameRoot sources p.1 p.2) :
    ∀ p ∈ steps (TasksProcess.step mdToHtml sources) ⟨⟨activeRoot, ⟨0, []⟩⟩, none⟩ calls,
      (p.2.serve mdToHtml sources p.1.module).1 =
        answerOf mdToHtml (p.2.dir sources) (p.1.seen sources p.2) (p.2.tree sources)
          p.2.asked := by
  have hsafe : ∀ p call, Filled mdToHtml sources p → SameRoot sources p call →
      (call.serve mdToHtml sources p.module).1 = answerOf mdToHtml (call.dir sources)
        (p.seen sources call) (call.tree sources) call.asked :=
    fun _ _ h hsame ↦ serve_fst h hsame
  have hkeep : ∀ p call, Filled mdToHtml sources p → SameRoot sources p call →
      Filled mdToHtml sources (p.step mdToHtml sources call) :=
    fun _ _ h _ ↦ filled_step h
  exact steps_safe_of_guard hsafe hkeep _ calls rfl hroot

end Calls

/-- The trees of two profiles; each has one new task, named after its profile. -/
def twoTrees (root : String) : TaskTree where
  isDir := root = "/profiles/a/tasks" ∨ root = "/profiles/b/tasks"
  index := none
  stateDir
    | .new => .entries [⟨if root = "/profiles/a/tasks" then "task-of-a" else "task-of-b", true,
        1790856000, some [], .absent, .absent, .absent, .absent⟩]
    | _ => .absent

/-- A call for the lite moments below a root, at a second. -/
def liteCall (root : String) (second : Rat) : TaskCall :=
  ⟨root, ⟨twoTrees, 1790856000 + second, 1790856000 + second⟩, .moments true⟩

/-- The names of the tasks a call returns. -/
def Answer.subjects : Answer → Option (List String)
  | .moments ms => ms.map (fun ms ↦ ms.map Moment.subject)
  | .view _ => none

/-- Two profiles' lite listings, one after the other's has expired. -/
theorem answers_ofTree_apart :
    let calls := [liteCall "/profiles/a/tasks" 0, liteCall "/profiles/b/tasks" 9]
    let start : TasksProcess := ⟨⟨none, ⟨0, []⟩⟩, none⟩
    (∀ p ∈ steps (TasksProcess.step id ⟨none, none⟩) start calls, SameRoot ⟨none, none⟩ p.1 p.2) ∧
      ∀ p ∈ steps (TasksProcess.step id ⟨none, none⟩) start calls,
        (p.2.serve id ⟨none, none⟩ p.1.module).1 = answerOf id (p.2.dir ⟨none, none⟩)
          (p.1.seen ⟨none, none⟩ p.2) (p.2.tree ⟨none, none⟩) p.2.asked := by
  intro calls start
  have hroot : ∀ p ∈ steps (TasksProcess.step id ⟨none, none⟩) start calls,
      SameRoot ⟨none, none⟩ p.1 p.2 := by
    rw [steps, steps, steps, List.forall_mem_cons, List.forall_mem_singleton]
    refine ⟨fun c hc ↦ absurd hc (Option.not_mem_none c), fun c hc hreads ↦ ?_⟩
    have hfilled : c = liteCall "/profiles/a/tasks" 0 := (Option.some.inj hc).symm
    exact absurd (hfilled ▸ hreads) (by decide +kernel)
  exact ⟨hroot, answers_ofTree calls none hroot⟩

/-- A second after the lite listing of one profile, that of another one is the same: the task of the
first profile. -/
theorem lite_listing_leaks :
    let first := (liteCall "/profiles/a/tasks" 0).serve id ⟨none, none⟩ ⟨none, ⟨0, []⟩⟩
    let call := liteCall "/profiles/b/tasks" 1
    (call.serve id ⟨none, none⟩ first.2).1.subjects = some ["task-of-a"] ∧
      (call.serve id ⟨none, none⟩ ⟨none, ⟨0, []⟩⟩).1.subjects = some ["task-of-b"] ∧
      (answerOf id "/profiles/b/tasks" (twoTrees "/profiles/b/tasks")
        (twoTrees "/profiles/b/tasks") call.asked).subjects = some ["task-of-b"] := by
  decide +kernel

end LcpGateway.Work
