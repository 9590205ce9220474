import LcpGateway.Base.Number
import LcpGateway.Base.Text
import LcpGateway.Work.Tasks

/-!
# The tasks view

Library `Work`. Source `src/api/work_tasks.py:497–685,780–801`. The view of a tree is made from its
moments, the classification index and the query: counts, conflicts and one page of the moments the
filters keep. The overview of the todo ledger beside the tree is not part of the model.
-/

namespace LcpGateway.Work
open LcpGateway.Base

/-- The query of a view. -/
structure TasksParams where
  states : Option String
  q : Option String
  tag : Option String
  per : Option String
  page : Option String
  lite : Option String

/-- `str(params.get(name) or default)`. -/
def orText (value : Option String) (default : String) : String :=
  (value.filter (· ≠ "")).getD default

/-- The search text. -/
def TasksParams.query (params : TasksParams) : String := strip (lower (orText params.q ""))

/-- The rows are wanted without their heavy payload. -/
def TasksParams.wantsLite (params : TasksParams) : Bool :=
  lower (orText params.lite "") ∈ ["1", "true", "yes"]

/-- The walk may skip the long files: a search needs the text of the plans. -/
def TasksParams.walksLite (params : TasksParams) : Bool := params.wantsLite && params.query == ""

/-- The rows of a page, none for all of them; `work_tasks.py:555–562`. -/
def TasksParams.perPage (params : TasksParams) : Option Nat :=
  let raw := orText params.per "20"
  if raw = "all" then none
  else match intOfStr raw with
    | some per => some (max 1 (min 500 per)).toNat
    | none => some 20

/-- The states shown; `work_tasks.py:563–567`. -/
def TasksParams.shownStates (params : TasksParams) : List TaskState :=
  let raw := orText params.states "in_progress"
  if raw = "all" then taskStates
  else
    let named := (raw.toList.splitOn ',').filterMap (fun part ↦
      taskStates.find? (fun s ↦ s.text = String.ofList part))
    if named.isEmpty then taskStates else named

/-- The page asked for; `work_tasks.py:570–573`. -/
def TasksParams.askedPage (params : TasksParams) : Nat :=
  match intOfStr (orText params.page "1") with
  | some page => (max 1 page).toNat
  | none => 1

/-! ## Searching -/

/-- `re.sub(r"<[^>]+>", " ", text)`, with what follows an open `<`, reversed. -/
def stripTags : Option (List Char) → List Char → List Char
  | none, [] => []
  | none, c :: rest => if c = '<' then stripTags (some []) rest else c :: stripTags none rest
  | some tag, [] => '<' :: tag.reverse
  | some tag, c :: rest =>
    if c = '>' then
      if tag = [] then '<' :: '>' :: stripTags none rest else ' ' :: stripTags none rest
    else stripTags (some (c :: tag)) rest

/-- `text.replace(old, new)`, while `skip` characters of a match are still to be dropped. -/
def replaceFrom (old new : List Char) : Nat → List Char → List Char
  | _, [] => []
  | skip + 1, _ :: rest => replaceFrom old new skip rest
  | 0, c :: rest =>
    if old.isPrefixOf (c :: rest) then new ++ replaceFrom old new (old.length - 1) rest
    else c :: replaceFrom old new 0 rest

/-- `_strip_html`; `work_tasks.py:497–506`. -/
def stripHtml (text : String) : String :=
  String.ofList ([("&amp;", '&'), ("&lt;", '<'), ("&gt;", '>'), ("&quot;", '"'),
    ("&#39;", '\'')].foldl
    (fun t (entity : String × Char) ↦ replaceFrom entity.1.toList [entity.2] 0 t)
    (stripTags none text.toList))

/-- The label of a moment, or nothing; none where it is no text. -/
def Moment.labelText (m : Moment) : Option String :=
  match m.payload.classification with
  | some c => (c.label.orElse (.str "")).text?
  | none => some ""

/-- `_haystack`; none for a `TypeError`; `work_tasks.py:509–518`. -/
def Moment.haystack (m : Moment) : Option String := do
  let label ← m.labelText
  some (lower (String.intercalate " "
    [m.subject, m.payload.state.text, m.payload.claimedStatus.getD "", label,
      stripHtml ((m.heavy.bind (fun h ↦ h.plan.html)).getD "")]))

/-- The filters keep a moment; none for an exception; `work_tasks.py:583–594`. -/
def TasksParams.keeps (params : TasksParams) (m : Moment) : Option Bool := do
  let tag := lower (strip (orText params.tag ""))
  if m.payload.state ∉ params.shownStates then some false
  else if tag ≠ "" ∧ lower (← m.labelText) ≠ tag then some false
  else if params.query ≠ "" ∧ !isInfix params.query (← m.haystack) then some false
  else some true

/-! ## The view -/

/-- A row of the lazy table. -/
structure LiteRow where
  id : String
  key : String
  t : Rat
  computedAt : Rat
  subject : String
  kind : String
  state : TaskState
  nFiles : Nat
  claimedStatus : Option String
  statusConflict : Bool
  classification : Option Classification

/-- `_lite_moment`; `work_tasks.py:780–801`. -/
def Moment.liteRow (m : Moment) : LiteRow where
  id := "task:" ++ m.payload.state.text ++ "/" ++ m.subject
  key := m.payload.state.text ++ "/" ++ m.subject
  t := m.t
  computedAt := m.computedAt
  subject := m.subject
  kind := m.kind
  state := m.payload.state
  nFiles := m.payload.nFiles
  claimedStatus := m.payload.claimedStatus
  statusConflict := m.payload.statusConflict
  classification := m.payload.classification

/-- The rows of a page. -/
inductive TaskRows where
  | full (tasks : List Moment)
  | lite (tasks : List LiteRow)

/-- What a view says about its filters; `per` is none for all. -/
structure TasksFilter where
  states : List TaskState
  q : String
  tag : String
  per : Option Nat
  page : Nat
  pages : Nat
  totalFiltered : Nat

/-- A tasks view; `empty` is the reason and the hint of one without moments. -/
structure TasksView where
  available : Bool
  empty : Option (String × String)
  counts : List (TaskState × Nat)
  total : Nat
  classified : Nat
  byLabel : Json
  labelsMeta : Json
  conflicts : List Moment
  tasks : TaskRows
  filter : TasksFilter

/-- `empty_tasks_view`; `work_tasks.py:643–685`. -/
def emptyTasksView (reason hint : String) : TasksView where
  available := false
  empty := some (if reason = "" then "could not read the task tree" else reason, hint)
  counts := taskStates.map (fun s ↦ (s, 0))
  total := 0
  classified := 0
  byLabel := .obj []
  labelsMeta := .obj []
  conflicts := []
  tasks := .full []
  filter := ⟨taskStates, "", "", some 20, 1, 1, 0⟩

/-- The number of classified tasks; none for an exception; `work_tasks.py:616`. -/
def classifiedCount (index : Fields) : Option Nat := do
  let tasks ← ((index.lookup "tasks").getD (.obj [])).fields?
  let labelled ← tasks.mapM (fun e ↦ e.2.fields?.map (fun fields ↦
    (fields.lookup "label").any Json.truthy))
  some (labelled.count true)

/-- `tasks_view` behind the walk: the view made from the moments; none for an exception;
`work_tasks.py:540–640`. -/
def viewOf (root : String) (tree : TaskTree) (params : TasksParams) (moments : List Moment) :
    Option TasksView := do
  if moments.isEmpty then
    some { emptyTasksView ("no task directories found at " ++ root)
            "Set LCP_WORK_TASKS_DIR to the profile's work/tasks tree." with
          available := tree.isDir }
  else
    let kept ← moments.mapM params.keeps
    let filtered := (moments.zip kept).filterMap (fun p ↦ if p.2 then some p.1 else none)
    let pages := match params.perPage with
      | some per => max 1 ((filtered.length + per - 1) / per)
      | none => 1
    let page := min params.askedPage pages
    let tasks := match params.perPage with
      | some per => (filtered.drop ((page - 1) * per)).take per
      | none => filtered
    let index ← tree.indexFields
    let classified ← classifiedCount index
    some
      { available := true
        empty := none
        counts := taskStates.map (fun s ↦ (s, moments.countP (fun m ↦ m.payload.state = s)))
        total := moments.length
        classified
        byLabel := ((index.lookup "by_label").getD .null).orElse (.obj [])
        labelsMeta := ((index.lookup "labels").getD .null).orElse (.obj [])
        conflicts := moments.filter (fun m ↦ m.payload.statusConflict)
        tasks := if params.wantsLite then .lite (tasks.map Moment.liteRow) else .full tasks
        filter :=
          ⟨params.shownStates, orText params.q "", orText params.tag "", params.perPage, page,
            pages, filtered.length⟩ }

end LcpGateway.Work
