import LcpGateway.Base.Paths
import LcpGateway.Work.TasksView

/-!
# The detail of one task

Library `Work`. Source `src/api/work_tasks.py:804–826`. `task_detail` opens one directory by the key
of its row. The key is checked by its characters: they leave out names that the listing shows, such
as those with an underscore, and let the two names through that lead out of a directory's entries.
-/

namespace LcpGateway.Work
open LcpGateway.Base

/-- A task tree whose directories can also be opened by name: what the name leads to below the
directory of a state. A listed state directory answers a plain name with its entry; what the dot
and the two dots answer is open. -/
structure OpenTree extends TaskTree where
  dirAt : TaskState → String → Option TaskDir
  dirAt_name : ∀ {s n d}, dirAt s n = some d → d.name = n
  absent : ∀ {s}, stateDir s = .absent → ∀ n, dirAt s n = none
  plain : ∀ {s dirs}, stateDir s = .entries dirs → ∀ d ∈ dirs, PlainName d.name
  opened : ∀ {s dirs n}, stateDir s = .entries dirs → PlainName n →
    ∀ d, dirAt s n = some d ↔ d ∈ dirs ∧ d.name = n ∧ d.isDir = true
  rootless : isDir = false → ∀ s, stateDir s = .absent

/-- How `task_detail` ends: with a moment, a `ValueError`, a `FileNotFoundError` or another
exception. -/
inductive DetailEnd where
  | moment (m : Moment)
  | invalidKey
  | notFound
  | raised

/-- `key.split("/", 1)`, or no state. -/
def splitKey (key : String) : String × String :=
  match key.toList.dropWhile (· ≠ '/') with
  | _ :: slug => (String.ofList (key.toList.takeWhile (· ≠ '/')), String.ofList slug)
  | [] => ("", key)

/-- `[A-Za-z0-9.-]`. -/
def isSlugChar (c : Char) : Bool := c.isAlphanum || c == '.' || c == '-'

/-- `re.fullmatch(r"[A-Za-z0-9.-]+", slug)`. -/
def isSlug (slug : String) : Bool := slug ≠ "" && slug.toList.all isSlugChar

/-- `(cls_idx or {}).get("tasks") or {}`. -/
def clsTasks (index : Fields) : Json := ((index.lookup "tasks").getD .null).orElse (.obj [])

section Rendering

variable (mdToHtml : String → String) (root : String)

/-- `task_detail`; `work_tasks.py:804–826`. -/
def taskDetail (tree : OpenTree) (key : String) : DetailEnd :=
  let (stateText, slug) := splitKey key
  match taskStates.find? (fun s ↦ s.text = stateText) with
  | none => .invalidKey
  | some state =>
    if !isSlug slug then .invalidKey
    else match tree.dirAt state slug with
      | none => .notFound
      | some d =>
        match tree.indexFields with
        | none => .raised
        | some index =>
          match momentFor mdToHtml state (joinPath root state.text) (clsTasks index) false d with
          | none => .raised
          | some m => .moment m

/-- The rows that the task list shows; none for an exception. -/
def taskRows (tree : TaskTree) : Option (List LiteRow) :=
  if tree.isDir = false then some []
  else (walk mdToHtml root tree true).map (fun moments ↦ moments.map Moment.liteRow)

/-- The path that a key resolves to. -/
def detailPath (state : TaskState) (slug : String) : NormPath :=
  normpath (joinPath (joinPath root state.text) slug)

/-- What the detail of a key has to be: it is there exactly for the keys of the rows, it is the
full moment of the directory of the row, and its path lies in the directory of its state. -/
structure DetailAgrees (tree : OpenTree) (key : String) : Prop where
  accepts : (∃ m, taskDetail mdToHtml root tree key = .moment m) ↔
    ∃ rows, taskRows mdToHtml root tree.toTaskTree = some rows ∧ key ∈ rows.map LiteRow.key
  returns : ∀ m, taskDetail mdToHtml root tree key = .moment m → ∃ state dirs index, ∃ d ∈ dirs,
    key = state.text ++ "/" ++ d.name ∧ tree.stateDir state = .entries dirs ∧ d.isDir = true ∧
      tree.indexFields = some index ∧
      momentFor mdToHtml state (joinPath root state.text) (clsTasks index) false d = some m
  contained : ∀ m, taskDetail mdToHtml root tree key = .moment m → ∀ state slug,
    key = state.text ++ "/" ++ slug →
    (detailPath root state slug).LiesIn (normpath (joinPath root state.text))

end Rendering

namespace OpenTree

variable (tree : OpenTree)

/-- The name leads to a directory whose moment can be made. -/
def Readable (state : TaskState) (name : String) : Prop :=
  ∃ d index, tree.dirAt state name = some d ∧ tree.indexFields = some index ∧
    (classificationOf (clsTasks index) name).isSome = true

/-- The name is that of a directory below the directory of the state. -/
def Listed (state : TaskState) (name : String) : Prop :=
  ∃ dirs, tree.stateDir state = .entries dirs ∧ ∃ d ∈ dirs, d.isDir = true ∧ d.name = name

/-- The tree can be walked: the index and the state directories can be read, and so can the
classifications of all directories. -/
def Walkable : Prop :=
  ∃ index, tree.indexFields = some index ∧ ∀ state, tree.stateDir state ≠ .unreadable ∧
    ∀ name, tree.Listed state name → (classificationOf (clsTasks index) name).isSome = true

/-- The name fits the check of the key: where the tree can be walked a listed name has the
characters of a slug, and otherwise no slug opens a directory; the dot and the two dots do not open
one either. -/
structure NameFits (state : TaskState) (name : String) : Prop where
  undotted : name = "." ∨ name = ".." → ¬ tree.Readable state name
  spelled : tree.Walkable → tree.Listed state name → isSlug name = true
  walked : ¬ tree.Walkable → isSlug name = true → ¬ tree.Readable state name

end OpenTree

/-! ## Keys -/

/-- The state of a text is found again. -/
theorem find?_text (state : TaskState) :
    taskStates.find? (fun s ↦ s.text = state.text) = some state := by
  cases state <;> decide

/-- A state found by its text has that text. -/
theorem text_of_find? {text : String} {state : TaskState}
    (h : taskStates.find? (fun s ↦ s.text = text) = some state) : state.text = text := by
  simpa using List.find?_some h

/-- The text of a state has no slash. -/
theorem noSlash_text (state : TaskState) : '/' ∉ state.text.toList := by
  cases state <;> decide

/-- A key of a state is split behind the state. -/
theorem splitKey_join (state : TaskState) (slug : String) :
    splitKey (state.text ++ "/" ++ slug) = (state.text, slug) := by
  have htext : (state.text ++ "/" ++ slug).toList = state.text.toList ++ '/' :: slug.toList := by
    simp
  have hkeep : ∀ c ∈ state.text.toList, decide (c ≠ '/') = true := by
    intro c hc
    have hne : c ≠ '/' := by
      rintro rfl
      exact noSlash_text state hc
    simpa using hne
  have hdrop : (state.text.toList ++ '/' :: slug.toList).dropWhile (fun c ↦ decide (c ≠ '/')) =
      '/' :: slug.toList := by
    rw [List.dropWhile_append_of_pos hkeep]
    simp
  have htake : (state.text.toList ++ '/' :: slug.toList).takeWhile (fun c ↦ decide (c ≠ '/')) =
      state.text.toList := by
    rw [List.takeWhile_append_of_pos hkeep]
    simp
  rw [splitKey, htext, hdrop, htake]
  simp

/-- A key that is split into a state and a slug is made of them. -/
theorem join_of_splitKey {key slug : String} {state : TaskState}
    (h : splitKey key = (state.text, slug)) : key = state.text ++ "/" ++ slug := by
  unfold splitKey at h
  split at h
  · next c rest hdrop =>
    obtain ⟨htext, hslug⟩ := Prod.mk.inj h
    have hslash : c = '/' := by
      have hhead := List.head?_dropWhile_not (fun c ↦ decide (c ≠ '/')) key.toList
      rw [hdrop] at hhead
      simpa using hhead
    have hwhole := List.takeWhile_append_dropWhile (p := fun c ↦ decide (c ≠ '/')) (l := key.toList)
    rw [hdrop, hslash] at hwhole
    rw [← htext, ← hslug]
    apply String.toList_injective
    refine hwhole.symm.trans (Eq.symm ?_)
    simp only [String.toList_append, String.toList_ofList, List.append_assoc]
    rfl
  · obtain ⟨htext, -⟩ := Prod.mk.inj h
    cases state <;> exact absurd htext (by decide)

/-- A key names its state and its slug. -/
theorem join_inj {state state' : TaskState} {slug slug' : String}
    (h : state.text ++ "/" ++ slug = state'.text ++ "/" ++ slug') :
    state = state' ∧ slug = slug' := by
  have hsplit := congrArg splitKey h
  rw [splitKey_join, splitKey_join] at hsplit
  obtain ⟨htext, hslug⟩ := Prod.mk.inj hsplit
  refine ⟨?_, hslug⟩
  have hfind := find?_text state
  rw [htext, find?_text] at hfind
  exact (Option.some.inj hfind).symm

/-- A slug other than the dot and the two dots is a plain name. -/
theorem plainName_of_isSlug {slug : String} (h : isSlug slug = true) (hdot : slug ≠ ".")
    (hdots : slug ≠ "..") : PlainName slug := by
  simp only [isSlug, Bool.and_eq_true, decide_eq_true_eq, List.all_eq_true] at h
  exact ⟨h.1, hdot, hdots, fun hmem ↦ absurd (h.2 '/' hmem) (by decide)⟩

/-! ## Paths -/

/-- A joined path is not empty. -/
theorem joinPath_ne_empty {dir name : String} (h : name ≠ "") : joinPath dir name ≠ "" := by
  unfold joinPath
  split_ifs
  · intro hempty
    exact h (by simpa using (String.append_eq_empty_iff.mp hempty).2)
  · intro hempty
    exact h (by simpa using (String.append_eq_empty_iff.mp hempty).2)

/-- A joined name is pushed behind the components of the directory, whether its path ends in a slash
or not. -/
theorem pushAll_joinPath (absolute : Bool) {dir name : String} (hdir : dir ≠ "")
    (h : '/' ∉ name.toList) :
    pushAll absolute [] (components (joinPath dir name)) =
      pushComponent absolute (pushAll absolute [] (components dir)) name := by
  unfold joinPath
  by_cases hend : dir.toList.getLast? = some '/'
  · rw [if_pos (Or.inr hend)]
    obtain ⟨front, hfront⟩ := List.getLast?_eq_some_iff.mp hend
    have htext : dir = String.ofList front ++ "/" := by
      apply String.toList_injective
      rw [hfront]
      simp
    rw [htext, pushAll_slash, pushAll_trailing, pushAll_noSlash _ _ h]
  · rw [if_neg (by simp [hdir, hend]), pushAll_slash, pushAll_noSlash _ _ h]

/-- A joined name keeps the slashes in front of the directory. -/
theorem initialSlashes_joinPath {dir name : String} (hdir : dir ≠ "") (h : '/' ∉ name.toList) :
    initialSlashes (joinPath dir name).toList = initialSlashes dir.toList := by
  unfold joinPath
  by_cases hend : dir.toList.getLast? = some '/'
  · rw [if_pos (Or.inr hend), String.toList_append]
    exact initialSlashes_append (Or.inr fun hhead ↦ h (List.mem_of_mem_head? hhead))
  · rw [if_neg (by simp [hdir, hend]), String.append_assoc, String.toList_append]
    have hne : dir.toList ≠ [] := by simpa using hdir
    refine initialSlashes_append (Or.inl ⟨dir.toList.getLast hne, List.getLast_mem hne, ?_⟩)
    intro hslash
    exact hend (by rw [List.getLast?_eq_some_getLast hne, hslash])

/-- A plain name leads into the directory that it is joined to. -/
theorem liesIn_joinPath {dir name : String} (hdir : dir ≠ "") (h : PlainName name) :
    (normpath (joinPath dir name)).LiesIn (normpath dir) := by
  have hslashes := initialSlashes_joinPath hdir h.noSlash
  refine ⟨hslashes, ?_⟩
  simp only [normpath, hslashes]
  rw [pushAll_joinPath _ hdir h.noSlash, pushComponent_plain h, List.reverse_cons]
  exact List.prefix_append _ _

/-! ## Accepted keys -/

section Rendering

variable {mdToHtml : String → String} {root : String} {tree : OpenTree}

/-- A moment can be made when the classification can be read. -/
theorem isSome_momentFor_iff {state : TaskState} {tdir : String} {cls : Json} {lite : Bool}
    {d : TaskDir} : (momentFor mdToHtml state tdir cls lite d).isSome = true ↔
      (classificationOf cls d.name).isSome = true := by
  unfold momentFor
  cases classificationOf cls d.name <;> simp

/-- The row of a moment has the key of its directory. -/
theorem key_liteRow_momentFor {state : TaskState} {tdir : String} {cls : Json} {lite : Bool}
    {d : TaskDir} {m : Moment} (h : momentFor mdToHtml state tdir cls lite d = some m) :
    m.liteRow.key = state.text ++ "/" ++ d.name := by
  unfold momentFor at h
  obtain ⟨c, -, h⟩ := Option.bind_eq_some_iff.mp h
  obtain rfl := Option.some.inj h
  rfl

/-- What `task_detail` opens. -/
theorem taskDetail_eq_moment_iff {key : String} {m : Moment} :
    taskDetail mdToHtml root tree key = .moment m ↔ ∃ state slug d index,
      key = state.text ++ "/" ++ slug ∧ isSlug slug = true ∧ tree.dirAt state slug = some d ∧
        tree.indexFields = some index ∧
        momentFor mdToHtml state (joinPath root state.text) (clsTasks index) false d = some m := by
  constructor
  · intro h
    unfold taskDetail at h
    rcases hsplit : splitKey key with ⟨text, slug⟩
    rw [hsplit] at h
    dsimp only at h
    split at h
    · cases h
    next state hfind =>
    obtain rfl := text_of_find? hfind
    split_ifs at h with hslug
    split at h
    · cases h
    next d hdir =>
    split at h
    · cases h
    next index hindex =>
    split at h
    · cases h
    next found hfound =>
    obtain rfl := DetailEnd.moment.inj h
    exact ⟨state, slug, d, index, join_of_splitKey hsplit, by simpa using hslug, hdir, hindex,
      hfound⟩
  · rintro ⟨state, slug, d, index, rfl, hslug, hdir, hindex, hm⟩
    simp only [taskDetail, splitKey_join, find?_text, hslug, hdir, hindex, hm]
    rfl

/-- A key is accepted when it names a readable directory by a slug. -/
theorem accepted_iff {key : String} : (∃ m, taskDetail mdToHtml root tree key = .moment m) ↔
    ∃ state slug, key = state.text ++ "/" ++ slug ∧ isSlug slug = true ∧
      tree.Readable state slug := by
  simp only [taskDetail_eq_moment_iff]
  constructor
  · rintro ⟨m, state, slug, d, index, hkey, hslug, hdir, hindex, hm⟩
    refine ⟨state, slug, hkey, hslug, d, index, hdir, hindex, ?_⟩
    rw [← tree.dirAt_name hdir]
    exact isSome_momentFor_iff.mp (Option.isSome_iff_exists.mpr ⟨m, hm⟩)
  · rintro ⟨state, slug, hkey, hslug, d, index, hdir, hindex, hcls⟩
    rw [← tree.dirAt_name hdir] at hcls
    obtain ⟨m, hm⟩ := Option.isSome_iff_exists.mp (isSome_momentFor_iff.mpr hcls)
    exact ⟨m, state, slug, d, index, hkey, hslug, hdir, hindex, hm⟩

/-! ## Shown rows -/

/-- The moments of a state can be made when its directory can be listed and the classifications can
be read. -/
theorem isSome_stateMoments_iff {cls : Json} {lite : Bool} {state : TaskState} :
    (stateMoments mdToHtml root tree.toTaskTree cls lite state).isSome = true ↔
      tree.stateDir state ≠ .unreadable ∧
        ∀ name, tree.Listed state name → (classificationOf cls name).isSome = true := by
  unfold stateMoments OpenTree.Listed
  cases tree.stateDir state with
  | absent => simp
  | unreadable => simp
  | entries dirs =>
    simp only [isSome_mapM_iff, List.mem_insertionSort, List.mem_filter, isSome_momentFor_iff]
    constructor
    · intro h
      refine ⟨by rintro ⟨⟩, ?_⟩
      rintro name ⟨listed, hlisted, d, hd, hdir, rfl⟩
      obtain rfl := StateDir.entries.inj hlisted
      exact h d ⟨hd, hdir⟩
    · rintro ⟨-, h⟩ d ⟨hd, hdir⟩
      exact h d.name ⟨dirs, rfl, d, hd, hdir, rfl⟩

/-- The walk comes to its end when the tree can be walked. -/
theorem isSome_walk_iff {lite : Bool} :
    (walk mdToHtml root tree.toTaskTree lite).isSome = true ↔ tree.Walkable := by
  unfold walk OpenTree.Walkable
  cases tree.indexFields with
  | none => simp
  | some index =>
    have hall : ∀ s, s ∈ taskStates := by
      intro s
      cases s <;> decide
    have hmoments := isSome_mapM_iff
      (stateMoments mdToHtml root tree.toTaskTree (clsTasks index) lite) taskStates
    simp only [isSome_stateMoments_iff, hall, true_implies] at hmoments
    simp only [Option.some.injEq, exists_eq_left']
    rw [← hmoments, clsTasks]
    simp [Option.isSome_iff_exists, Option.bind_eq_some_iff]

/-- The keys of the rows are those of the listed directories of a tree that can be walked. -/
theorem exists_row_iff {key : String} :
    (∃ rows, taskRows mdToHtml root tree.toTaskTree = some rows ∧ key ∈ rows.map LiteRow.key) ↔
      tree.Walkable ∧ ∃ state name, key = state.text ++ "/" ++ name ∧ tree.Listed state name := by
  unfold taskRows
  split_ifs with hdir
  · -- a tree without a root shows nothing
    constructor
    · rintro ⟨rows, hrows, hkey⟩
      obtain rfl := Option.some.inj hrows
      simp at hkey
    · rintro ⟨-, state, name, -, dirs, hentries, -⟩
      cases hentries.symm.trans (tree.rootless hdir state)
  constructor
  · rintro ⟨rows, hrows, hkey⟩
    obtain ⟨moments, hwalk, rfl⟩ := Option.map_eq_some_iff.mp hrows
    refine ⟨isSome_walk_iff.mp (Option.isSome_iff_exists.mpr ⟨moments, hwalk⟩), ?_⟩
    obtain ⟨row, hrow, rfl⟩ := List.mem_map.mp hkey
    obtain ⟨m, hm, rfl⟩ := List.mem_map.mp hrow
    obtain ⟨index, -, state, dirs, hentries, d, hd, hisdir, hmoment⟩ := (mem_walk_iff hwalk).mp hm
    exact ⟨state, d.name, key_liteRow_momentFor hmoment, dirs, hentries, d, hd, hisdir, rfl⟩
  · rintro ⟨hwalkable, state, name, rfl, dirs, hentries, d, hd, hisdir, rfl⟩
    have hsome : (walk mdToHtml root tree.toTaskTree true).isSome = true :=
      isSome_walk_iff.mpr hwalkable
    obtain ⟨moments, hwalk⟩ := Option.isSome_iff_exists.mp hsome
    obtain ⟨index, hindex, hstates⟩ := hwalkable
    have hcls := (hstates state).2 d.name ⟨dirs, hentries, d, hd, hisdir, rfl⟩
    have hmoment : (momentFor mdToHtml state (joinPath root state.text) (clsTasks index) true
        d).isSome = true := isSome_momentFor_iff.mpr hcls
    obtain ⟨m, hm⟩ := Option.isSome_iff_exists.mp hmoment
    have hmem : m ∈ moments :=
      (mem_walk_iff hwalk).mpr ⟨index, hindex, state, dirs, hentries, d, hd, hisdir, hm⟩
    refine ⟨moments.map Moment.liteRow, by rw [hwalk, Option.map_some], ?_⟩
    rw [List.map_map, ← key_liteRow_momentFor hm]
    exact List.mem_map_of_mem hmem

/-- A slug of a name that fits and that can be read is a listed one of a tree that can be walked. -/
theorem listed_of_fits {state : TaskState} {slug : String} (h : tree.NameFits state slug)
    (hslug : isSlug slug = true) (hread : tree.Readable state slug) :
    tree.Walkable ∧ PlainName slug ∧ tree.Listed state slug := by
  have hwalkable : tree.Walkable := by
    by_contra hno
    exact h.walked hno hslug hread
  have hplain : PlainName slug :=
    plainName_of_isSlug hslug (fun hdot ↦ h.undotted (Or.inl hdot) hread)
      (fun hdots ↦ h.undotted (Or.inr hdots) hread)
  obtain ⟨d, -, hdir, -⟩ := hread
  refine ⟨hwalkable, hplain, ?_⟩
  obtain ⟨index, hindex, hstates⟩ := hwalkable
  cases hentries : tree.stateDir state with
  | absent => cases (tree.absent hentries slug).symm.trans hdir
  | unreadable => exact absurd hentries (hstates state).1
  | entries dirs =>
    obtain ⟨hd, hname, hisdir⟩ := (tree.opened hentries hplain d).mp hdir
    exact ⟨dirs, hentries, d, hd, hisdir, hname⟩

/-- A listed name of a tree that can be walked can be read. -/
theorem readable_of_listed {state : TaskState} {name : String} (h : tree.Walkable)
    (hlisted : tree.Listed state name) : tree.Readable state name := by
  obtain ⟨index, hindex, hstates⟩ := h
  have hcls := (hstates state).2 name hlisted
  obtain ⟨dirs, hentries, d, hd, hisdir, rfl⟩ := hlisted
  exact ⟨d, index, (tree.opened hentries (tree.plain hentries d hd) d).mpr ⟨hd, rfl, hisdir⟩,
    hindex, hcls⟩

/-- The detail of a key agrees with the rows exactly when the name of the key fits. -/
theorem taskDetail_agrees_iff (mdToHtml : String → String) (root : String) (tree : OpenTree)
    (key : String) : DetailAgrees mdToHtml root tree key ↔
      ∀ state name, key = state.text ++ "/" ++ name → tree.NameFits state name := by
  constructor
  · rintro ⟨haccepts, -, -⟩ state name rfl
    rw [accepted_iff, exists_row_iff] at haccepts
    refine ⟨?_, ?_, ?_⟩
    · -- a dotted name is a slug, but no entry has it
      intro hdotted hread
      have hslug : isSlug name = true := by
        rcases hdotted with rfl | rfl <;> decide
      obtain ⟨-, state', name', hkey, dirs, hentries, d, hd, -, hname⟩ :=
        haccepts.mp ⟨state, name, rfl, hslug, hread⟩
      obtain ⟨rfl, rfl⟩ := join_inj hkey
      have hplain := tree.plain hentries d hd
      rw [hname] at hplain
      rcases hdotted with rfl | rfl
      · exact hplain.ne_dot rfl
      · exact hplain.ne_dots rfl
    · intro hwalkable hlisted
      obtain ⟨state', slug, hkey, hslug, -⟩ :=
        haccepts.mpr ⟨hwalkable, state, name, rfl, hlisted⟩
      obtain ⟨rfl, rfl⟩ := join_inj hkey
      exact hslug
    · intro hno hslug hread
      exact hno (haccepts.mp ⟨state, name, rfl, hslug, hread⟩).1
  · intro hfits
    refine ⟨?_, ?_, ?_⟩
    · rw [accepted_iff, exists_row_iff]
      constructor
      · rintro ⟨state, slug, hkey, hslug, hread⟩
        obtain ⟨hwalkable, -, hlisted⟩ := listed_of_fits (hfits state slug hkey) hslug hread
        exact ⟨hwalkable, state, slug, hkey, hlisted⟩
      · rintro ⟨hwalkable, state, name, hkey, hlisted⟩
        exact ⟨state, name, hkey, (hfits state name hkey).spelled hwalkable hlisted,
          readable_of_listed hwalkable hlisted⟩
    · intro m hm
      obtain ⟨state, slug, d, index, rfl, hslug, hdir, hindex, hmoment⟩ :=
        taskDetail_eq_moment_iff.mp hm
      obtain ⟨state', slug', hkey, -, hread⟩ := accepted_iff.mp ⟨m, hm⟩
      obtain ⟨rfl, rfl⟩ := join_inj hkey
      obtain ⟨-, hplain, dirs, hentries, -⟩ := listed_of_fits (hfits state slug rfl) hslug hread
      obtain ⟨hd, rfl, hisdir⟩ := (tree.opened hentries hplain d).mp hdir
      exact ⟨state, dirs, index, d, hd, rfl, hentries, hisdir, hindex, hmoment⟩
    · rintro m hm state slug rfl
      obtain ⟨state', slug', hkey, hslug, hread⟩ := accepted_iff.mp ⟨m, hm⟩
      obtain ⟨rfl, rfl⟩ := join_inj hkey
      obtain ⟨-, hplain, -⟩ := listed_of_fits (hfits state slug rfl) hslug hread
      refine liesIn_joinPath (joinPath_ne_empty ?_) hplain
      cases state <;> decide

end Rendering

/-- A directory without files. -/
def bareDir (name : String) : TaskDir where
  name := name
  isDir := true
  mtime := 0
  files := some []
  plan := .absent
  results := .absent
  stateSummary := .absent
  sessionFacts := .absent

/-- A tree with one task, in progress, whose name has an underscore. -/
def underscoreTree : OpenTree where
  isDir := true
  index := none
  stateDir s := if s = .inProgress then .entries [bareDir "my_task"] else .absent
  dirAt s n :=
    if s = .inProgress ∧ (n = "my_task" ∨ n = "." ∨ n = "..") then some (bareDir n) else none
  dirAt_name := by
    intro s n d h
    split_ifs at h
    obtain rfl := Option.some.inj h
    rfl
  absent := by
    intro s h n
    split_ifs at h with hs
    simp [hs]
  plain := by
    intro s dirs h d hd
    split_ifs at h
    obtain rfl := StateDir.entries.inj h
    obtain rfl := List.mem_singleton.mp hd
    exact ⟨by decide, by decide, by decide, by decide⟩
  opened := by
    intro s dirs n h hplain d
    split_ifs at h with hs
    obtain rfl := StateDir.entries.inj h
    simp only [hs, hplain.ne_dot, hplain.ne_dots, or_false, true_and, List.mem_singleton]
    constructor
    · intro hsome
      split_ifs at hsome with hname
      obtain rfl := Option.some.inj hsome
      rw [hname]
      exact ⟨rfl, rfl, rfl⟩
    · rintro ⟨rfl, rfl, -⟩
      rfl
  rootless := by rintro ⟨⟩

/-- The tree shows one task. -/
theorem listed_underscoreTree_iff {state : TaskState} {name : String} :
    underscoreTree.Listed state name ↔ state = .inProgress ∧ name = "my_task" := by
  constructor
  · rintro ⟨dirs, hentries, d, hd, -, rfl⟩
    simp only [underscoreTree] at hentries
    split_ifs at hentries with hs
    obtain rfl := StateDir.entries.inj hentries
    obtain rfl := List.mem_singleton.mp hd
    exact ⟨hs, rfl⟩
  · rintro ⟨rfl, rfl⟩
    exact ⟨[bareDir "my_task"], rfl, bareDir "my_task", List.mem_singleton_self _, rfl, rfl⟩

/-- The tree can be walked. -/
theorem walkable_underscoreTree : underscoreTree.Walkable := by
  refine ⟨[], rfl, fun state ↦ ⟨?_, ?_⟩⟩
  · simp only [underscoreTree]
    split_ifs <;> simp
  · intro name hlisted
    obtain ⟨-, rfl⟩ := listed_underscoreTree_iff.mp hlisted
    decide

/-- The key of the root is accepted, and the key of the row is not. -/
theorem not_detailAgrees_underscoreTree :
    ¬ DetailAgrees id "/tasks" underscoreTree "in_progress/.." ∧
      ¬ DetailAgrees id "/tasks" underscoreTree "in_progress/my_task" := by
  constructor
  · intro h
    have haccepts := h.accepts
    rw [accepted_iff, exists_row_iff] at haccepts
    obtain ⟨-, state, name, hkey, hlisted⟩ :=
      haccepts.mp ⟨.inProgress, "..", rfl, by decide, bareDir "..", [], rfl, rfl, by decide⟩
    obtain ⟨-, rfl⟩ := listed_underscoreTree_iff.mp hlisted
    have hjoined : TaskState.inProgress.text ++ "/" ++ ".." = state.text ++ "/" ++ "my_task" := hkey
    exact absurd (join_inj hjoined).2 (by decide)
  · intro h
    have haccepts := h.accepts
    rw [accepted_iff, exists_row_iff] at haccepts
    obtain ⟨state, slug, hkey, hslug, -⟩ := haccepts.mpr
      ⟨walkable_underscoreTree, .inProgress, "my_task", rfl,
        listed_underscoreTree_iff.mpr ⟨rfl, rfl⟩⟩
    have hjoined : TaskState.inProgress.text ++ "/" ++ "my_task" = state.text ++ "/" ++ slug := hkey
    rw [← (join_inj hjoined).2] at hslug
    exact absurd hslug (by decide)

end LcpGateway.Work
