import LcpGateway.Base.Object
import LcpGateway.Base.Pattern
import Mathlib.Data.List.Sort

/-!
# Task moments

Library `Work`. Source `src/api/work_tasks.py:29–470`. A task is a directory below the directory of
its state. A moment is what a view shows of one; a lite moment is made without the long files. A
tree is what the file system answers below one root while it is walked, so a directory that is
there when it is listed is there when it is read.
-/

namespace LcpGateway.Work
open LcpGateway.Base

/-! ## A task tree -/

/-- `STATES`. -/
inductive TaskState where
  | new
  | inProgress
  | completed
  | cancelled
  deriving DecidableEq, Repr

/-- The name of a state, also of its directory. -/
def TaskState.text : TaskState → String
  | .new => "new"
  | .inProgress => "in_progress"
  | .completed => "completed"
  | .cancelled => "cancelled"

/-- `STATES`, in order. -/
def taskStates : List TaskState := [.new, .inProgress, .completed, .cancelled]

/-- What a path leads to: no regular file, a file that cannot be read, or a text of a number of
bytes. -/
inductive FileAt where
  | absent
  | unreadable
  | file (text : String) (size : Nat)

/-- `os.path.isfile`. -/
def FileAt.isFile : FileAt → Bool
  | .absent => false
  | _ => true

/-- The first characters of the text, and whether the file has more bytes than that. -/
def FileAt.head (cap : Nat) : FileAt → Option (String × Bool)
  | .file text size => some (String.ofList (text.toList.take cap), cap < size)
  | _ => none

/-- An entry of a state's directory; `files` is none when it cannot be listed. -/
structure TaskDir where
  name : String
  isDir : Bool
  mtime : Rat
  files : Option (List String)
  plan : FileAt
  results : FileAt
  stateSummary : FileAt
  sessionFacts : FileAt

/-- The directory of a state. -/
inductive StateDir where
  | absent
  | unreadable
  | entries (dirs : List TaskDir)

/-- A task tree: `index` is the decoded `.work-layers/classifications.json`, none for an `OSError`
or a `ValueError`. -/
structure TaskTree where
  isDir : Bool
  index : Option Json
  stateDir : TaskState → StateDir

/-- `os.path.join` of a directory and a name. -/
def joinPath (dir name : String) : String :=
  if dir = "" ∨ dir.toList.getLast? = some '/' then dir ++ name else dir ++ "/" ++ name

/-! ## Reading one task -/

/-- `s.lstrip(chars)`. -/
def lstripChars (chars s : String) : String :=
  String.ofList (s.toList.dropWhile (fun c ↦ chars.toList.contains c))

/-- `s.rstrip(chars)`. -/
def rstripChars (chars s : String) : String :=
  String.ofList (s.toList.rdropWhile (fun c ↦ chars.toList.contains c))

/-- `s.startswith(part)`. -/
def startsWith (s part : String) : Bool := part.toList.isPrefixOf s.toList

/-- `\*\*Status:\*\*\s*(.+)`. -/
def statusLine : Pattern :=
  .chain [.lit "**Status:**", .many isSpace false, .group (.many1 (· ≠ '\n'))]

/-- `_read_status_line`; `work_tasks.py:305–323`. -/
def readStatusLine (plan : FileAt) : Option String :=
  (plan.head 4000).bind (fun head ↦ (statusLine.search head.1.toList).map (fun m ↦
    strip (rstripChars "*" (strip (String.ofList m.2.captured)))))

/-- `_conflicts`; `work_tasks.py:473–495`. -/
def conflicts (claimed : String) (state : TaskState) : Bool :=
  let c := strip (lstripChars "*_`~ " (lower (strip claimed)))
  match state with
  | .completed => startsWith c "in progress" || startsWith c "in_progress" || startsWith c "pending"
  | .inProgress => startsWith c "completed" || startsWith c "done" || startsWith c "cancelled"
  | .cancelled => startsWith c "completed" || startsWith c "done"
  | .new => startsWith c "completed" || startsWith c "cancelled"

/-- Where `str.splitlines` breaks a text whose line ends were translated. -/
def isLineBreak (c : Char) : Bool :=
  let n := c.toNat
  (0x0a ≤ n && n ≤ 0x0d) || (0x1c ≤ n && n ≤ 0x1e) || n == 0x85 || n == 0x2028 || n == 0x2029

/-- `_plan_summary`; `work_tasks.py:105–124`. -/
def planSummary (planText : String) : Option String :=
  (planText.toList.splitOnP isLineBreak).findSome? (fun raw ↦
    let line := strip (lstripChars "*_`~ " (strip (String.ofList raw)))
    if line = "" ∨ startsWith line "#" ∨
        ["created:", "status:", "branch:", "owner:", "user ask"].any (startsWith (lower line)) then
      none
    else some (String.ofList (line.toList.take 320)))

/-- The chip of a task. -/
structure Classification where
  label : Json
  score : Json

/-- The chip of a task in `cls_tasks`; none for an `AttributeError`; `work_tasks.py:356–359`. -/
def classificationOf (clsTasks : Json) (name : String) : Option (Option Classification) := do
  match (← clsTasks.fields?).lookup name with
  | none => some none
  | some cls =>
    if cls.truthy then
      let fields ← cls.fields?
      match fields.lookup "label" with
      | some label =>
        if label.truthy then some (some ⟨label, (fields.lookup "score").getD .null⟩) else some none
      | none => some none
    else some none

/-- The payload every view needs. -/
structure Payload where
  state : TaskState
  files : List String
  nFiles : Nat
  hasPlan : Bool
  claimedStatus : Option String
  classification : Option Classification
  statusConflict : Bool

/-- A text of a task with its rendering. -/
structure Rendered where
  text : Option String
  html : Option String
  truncated : Bool

/-- The payload of the long files. -/
structure Heavy where
  stateSummary : Rendered
  hasStateSummary : Bool
  sessionFacts : Rendered
  hasSessionFacts : Bool
  planSummary : Option String
  plan : Rendered
  results : Rendered
  artifacts : List String

/-- A moment; `path` is its provenance, and a lite one has a key and no heavy payload. -/
structure Moment where
  id : String
  key : Option String
  t : Rat
  computedAt : Rat
  subject : String
  actor : String
  kind : String
  payload : Payload
  heavy : Option Heavy
  path : String

section Rendering

variable (mdToHtml : String → String)

/-- The first characters of a file, rendered when there are any. -/
def renderNonEmpty (cap : Nat) (f : FileAt) : Rendered :=
  match f.head cap with
  | some (text, truncated) =>
    ⟨some text, if text = "" then none else some (mdToHtml text), truncated⟩
  | none => ⟨none, none, false⟩

/-- The first characters of a file, rendered. -/
def renderAlways (cap : Nat) (f : FileAt) : Rendered :=
  match f.head cap with
  | some (text, truncated) => ⟨some text, some (mdToHtml text), truncated⟩
  | none => ⟨none, none, false⟩

/-- `_state_summary`, which does not say whether it cut the text; `work_tasks.py:207–217`. -/
def stateSummary (f : FileAt) : Rendered := { renderAlways mdToHtml 4000 f with truncated := false }

/-- `_session_facts`; `work_tasks.py:223–234`. -/
def sessionFacts (f : FileAt) : Rendered := renderAlways mdToHtml 4000 f

/-- The heavy payload; `work_tasks.py:378–417`. -/
def heavyPayload (d : TaskDir) (files : List String) : Heavy :=
  let plan := renderNonEmpty mdToHtml 8000 d.plan
  { stateSummary := stateSummary mdToHtml d.stateSummary
    hasStateSummary := (d.stateSummary.head 4000).isSome
    sessionFacts := sessionFacts mdToHtml d.sessionFacts
    hasSessionFacts := (d.sessionFacts.head 4000).isSome
    planSummary := (plan.text.filter (· ≠ "")).bind planSummary
    plan
    results := renderNonEmpty mdToHtml 2000 d.results
    artifacts := files.filter (fun f ↦
      f ∉ ["PLAN.md", "STATE-SUMMARY.md", "SESSION-FACTS.md"]) }

/-- `_moment_for`; `work_tasks.py:326–426`. -/
def momentFor (state : TaskState) (tdir : String) (clsTasks : Json) (lite : Bool) (d : TaskDir) :
    Option Moment := do
  let files := (d.files.getD []).insertionSort (· ≤ ·)
  let claimed := readStatusLine d.plan
  let classification ← classificationOf clsTasks d.name
  some
    { id := "task:" ++ d.name
      key := if lite then some (state.text ++ "/" ++ d.name) else none
      t := d.mtime
      computedAt := d.mtime
      subject := d.name
      actor := "filesystem"
      kind := "task." ++ state.text
      payload :=
        { state
          files
          nFiles := files.length
          hasPlan := d.plan.isFile
          claimedStatus := claimed
          classification
          statusConflict := claimed.any (fun c ↦ c ≠ "" && conflicts c state) }
      heavy := if lite then none else some (heavyPayload mdToHtml d files)
      path := joinPath tdir d.name }

/-! ## Walking a tree -/

/-- `(cls_idx or {})`; none for a value that has no `get`. -/
def TaskTree.indexFields (tree : TaskTree) : Option Fields :=
  match tree.index with
  | none => some []
  | some index => if index.truthy then index.fields? else some []

/-- The moments of a state, by name; none for an exception; `work_tasks.py:455–464`. -/
def stateMoments (root : String) (tree : TaskTree) (clsTasks : Json) (lite : Bool)
    (state : TaskState) : Option (List Moment) :=
  match tree.stateDir state with
  | .absent => some []
  | .unreadable => none
  | .entries dirs =>
    ((dirs.filter TaskDir.isDir).insertionSort (fun a b ↦ a.name ≤ b.name)).mapM
      (momentFor mdToHtml state (joinPath root state.text) clsTasks lite)

/-- The walk of `task_moments`, the newest transition first; `work_tasks.py:449–466`. -/
def walk (root : String) (tree : TaskTree) (lite : Bool) : Option (List Moment) := do
  let index ← tree.indexFields
  let clsTasks := ((index.lookup "tasks").getD .null).orElse (.obj [])
  let moments ← taskStates.mapM (stateMoments mdToHtml root tree clsTasks lite)
  some (moments.flatten.insertionSort (fun a b ↦ b.t ≤ a.t))

variable {mdToHtml} {root : String} {tree : TaskTree} {lite : Bool} {moments : List Moment}

/-- The moments of a state are those of the directories of its directory. -/
theorem mem_stateMoments_iff {clsTasks : Json} {state : TaskState} {m : Moment}
    (h : stateMoments mdToHtml root tree clsTasks lite state = some moments) :
    m ∈ moments ↔ ∃ dirs, tree.stateDir state = .entries dirs ∧ ∃ d ∈ dirs, d.isDir = true ∧
      momentFor mdToHtml state (joinPath root state.text) clsTasks lite d = some m := by
  rw [stateMoments] at h
  cases hdir : tree.stateDir state with
  | absent =>
    rw [hdir] at h
    simp [← Option.some.inj h]
  | unreadable =>
    rw [hdir] at h
    simp at h
  | entries dirs =>
    rw [hdir] at h
    rw [mem_mapM_iff h]
    simp only [List.mem_insertionSort, List.mem_filter, StateDir.entries.injEq, exists_eq_left',
      and_assoc]

/-- A walk finds the tasks of the tree, and nothing else. -/
theorem mem_walk_iff {m : Moment} (h : walk mdToHtml root tree lite = some moments) :
    m ∈ moments ↔ ∃ index, tree.indexFields = some index ∧ ∃ state dirs,
      tree.stateDir state = .entries dirs ∧ ∃ d ∈ dirs, d.isDir = true ∧
        momentFor mdToHtml state (joinPath root state.text)
          (((index.lookup "tasks").getD .null).orElse (.obj [])) lite d = some m := by
  rw [walk] at h
  obtain ⟨index, hindex, h⟩ := Option.bind_eq_some_iff.mp h
  obtain ⟨found, hfound, h⟩ := Option.bind_eq_some_iff.mp h
  obtain rfl := Option.some.inj h
  simp only [List.mem_insertionSort, List.mem_flatten, hindex, Option.some.injEq, exists_eq_left']
  constructor
  · rintro ⟨ms, hms, hm⟩
    obtain ⟨state, -, hstate⟩ := (mem_mapM_iff hfound).mp hms
    exact ⟨state, (mem_stateMoments_iff hstate).mp hm⟩
  · rintro ⟨state, hm⟩
    have hstate : state ∈ taskStates := by cases state <;> decide
    have hsome := (isSome_mapM_iff _ _).mp (Option.isSome_iff_exists.mpr ⟨_, hfound⟩) state hstate
    obtain ⟨ms, hms⟩ := Option.isSome_iff_exists.mp hsome
    exact ⟨ms, (mem_mapM_iff hfound).mpr ⟨state, hstate, hms⟩, (mem_stateMoments_iff hms).mpr hm⟩

end Rendering
end LcpGateway.Work
