import LcpGateway.Base.Paths
import LcpGateway.Base.Segments

/-!
# Static files

Library `Server`. Source `src/server/handler.py:211–247`. A request names a file by the part of its
path behind the prefix, as it stands there. The directory and what lies below it hold no symbolic
links, so that a path resolves by its text, and a name that is too long is one of no file. What can
be had are the files below the directory whose names a path can spell, and no others.
-/

namespace LcpGateway.Server.StaticFiles
open LcpGateway.Base

variable {α : Type}

/-- An answer: an error, an exception of the path library, or a file with its content type. -/
inductive StaticReply (α : Type) where
  | forbidden
  | notFound
  | raised
  | file (contentType : String) (data : α)

/-- `self.path[len("/static/"):].split("?")[0]`. -/
def relativeOf (path : String) : String :=
  String.ofList ((path.toList.drop 8).takeWhile (· ≠ '?'))

/-- `(static_dir / relative).resolve()`, by its components. -/
def resolve (dir : List String) (relative : String) : List String :=
  (pushAll true dir.reverse (components relative)).reverse

/-- `str` of an absolute path. -/
def pathText : List String → List Char
  | [] => ['/']
  | c :: rest => (c :: rest).flatMap fun c ↦ '/' :: c.toList

/-- `file_path.suffix`: what stands from the last dot on, unless the name begins or ends with it. -/
def suffix (name : String) : String :=
  let behind := name.toList.reverse.takeWhile (· ≠ '.')
  let front := name.toList.length - behind.length - 1
  if 0 < front ∧ behind ≠ [] then String.ofList (name.toList.drop front) else ""

/-- The content types by suffix; `handler.py:226–232`. -/
def contentType (name : String) : String :=
  match suffix name with
  | ".js" => "application/javascript"
  | ".css" => "text/css"
  | ".html" => "text/html"
  | ".svg" => "image/svg+xml"
  | ".png" => "image/png"
  | _ => "application/octet-stream"

/-- `_serve_static`, over the files by the components of their paths. A path with a null character
raises in the path library. -/
def serveStatic (dir : List String) (files : List String → Option α) (path : String) :
    StaticReply α :=
  let relative := relativeOf path
  if ['.', '.'] <:+: relative.toList ∨ ['/'] <+: relative.toList then .forbidden
  else if Char.ofNat 0 ∈ relative.toList then .raised
  else
    let filePath := resolve dir relative
    if pathText dir <+: pathText filePath then
      match files filePath with
      | none => .notFound
      | some data => .file (contentType (filePath.getLastD "")) data
    else .forbidden

/-- A name that a path can spell: one of a directory entry, without two dots side by side and
without a question mark. -/
structure Spelled (name : String) : Prop where
  plain : PlainName name
  noDots : ¬ ['.', '.'] <:+: name.toList
  noQuery : '?' ∉ name.toList
  noNull : Char.ofNat 0 ∉ name.toList

/-! ### Resolving -/

/-- The components that name something. -/
def names (relative : String) : List String :=
  (components relative).filter fun c ↦ c ≠ "" ∧ c ≠ "."

/-- Components without two dots are pushed, unless they name nothing. -/
theorem pushAll_of_noDots (stack : List String) {cs : List String} (h : ".." ∉ cs) :
    pushAll true stack cs = (cs.filter fun c ↦ c ≠ "" ∧ c ≠ ".").reverse ++ stack := by
  induction cs generalizing stack with
  | nil => rfl
  | cons c rest ih =>
    obtain ⟨hc, hrest⟩ := List.ne_and_not_mem_of_not_mem_cons h
    have hpush : pushAll true stack (c :: rest) =
        pushAll true (pushComponent true stack c) rest := rfl
    rw [hpush, ih _ hrest]
    by_cases hempty : c = "" ∨ c = "."
    · have hfilter : ¬ (c ≠ "" ∧ c ≠ ".") := by tauto
      have hsame : pushComponent true stack c = stack := if_pos hempty
      rw [hsame, List.filter_cons_of_neg (by simpa using hfilter)]
    · have hfilter : c ≠ "" ∧ c ≠ "." := by tauto
      have hpushed : pushComponent true stack c = c :: stack :=
        (if_neg hempty).trans (if_neg hc.symm)
      rw [hpushed, List.filter_cons_of_pos (by simpa using hfilter), List.reverse_cons,
        List.append_assoc]
      rfl

/-- A component is a segment of the text. -/
theorem toList_mem_segments {relative c : String} (h : c ∈ components relative) :
    c.toList ∈ segments relative.toList := by
  obtain ⟨s, hs, rfl⟩ := List.mem_map.mp h
  rwa [String.toList_ofList]

/-- A relative path without two dots resolves to what it names below the directory. -/
theorem resolve_of_noDots (dir : List String) {relative : String}
    (h : ¬ ['.', '.'] <:+: relative.toList) : resolve dir relative = dir ++ names relative := by
  have hcomponents : ".." ∉ components relative :=
    fun hmem ↦ h (segment_of_mem (toList_mem_segments hmem)).2
  rw [resolve, pushAll_of_noDots _ hcomponents, List.reverse_append, List.reverse_reverse,
    List.reverse_reverse]
  rfl

/-- The text of a path begins with that of every directory it lies in. -/
theorem pathText_append (dir below : List String) : pathText dir <+: pathText (dir ++ below) := by
  cases dir with
  | nil =>
    cases below with
    | nil => exact List.prefix_rfl
    | cons c rest => exact ⟨_, rfl⟩
  | cons c rest =>
    rw [List.cons_append, pathText, pathText, ← List.cons_append, List.flatMap_append]
    exact List.prefix_append _ _


/-! ### What can be had -/

/-- The part that names a file ends in front of a question mark. -/
theorem noQuery_relativeOf (path : String) : '?' ∉ (relativeOf path).toList := by
  intro h
  rw [relativeOf, String.toList_ofList] at h
  simpa using List.mem_takeWhile_imp h

/-- What a path without two dots and without a null character names has names that a path can
spell. -/
theorem spelled_of_mem_names {relative c : String} (hdots : ¬ ['.', '.'] <:+: relative.toList)
    (hquery : '?' ∉ relative.toList) (hnull : Char.ofNat 0 ∉ relative.toList)
    (hc : c ∈ names relative) : Spelled c := by
  obtain ⟨hcomponent, hnamed⟩ := List.mem_filter.mp hc
  have hnames : c ≠ "" ∧ c ≠ "." := by simpa using hnamed
  obtain ⟨hslash, hwithin⟩ := segment_of_mem (toList_mem_segments hcomponent)
  exact
    { plain :=
        { ne_empty := hnames.1
          ne_dot := hnames.2
          ne_dots := by
            rintro rfl
            exact hdots hwithin
          noSlash := hslash }
      noDots := fun h ↦ hdots (h.trans hwithin)
      noQuery := fun h ↦ hquery (hwithin.subset h)
      noNull := fun h ↦ hnull (hwithin.subset h) }

/-- A path that names what some components name. -/
def pathOf (below : List String) : String := "/static/" ++ "/".intercalate below

/-- The segments of the text of plain names. -/
theorem segments_intercalate {below : List String} (h : ∀ n ∈ below, Spelled n)
    (hne : below ≠ []) :
    segments (['/'].intercalate (below.map String.toList)) = below.map String.toList := by
  refine List.splitOn_intercalate '/' ?_ (by simpa using hne)
  intro l hl
  obtain ⟨n, hn, rfl⟩ := List.mem_map.mp hl
  exact (h n hn).plain.noSlash

/-- A character that is no slash and stands in no name does not stand in their text. -/
theorem not_mem_intercalate {below : List String} {x : Char} (hslash : x ≠ '/')
    (h : ∀ n ∈ below, x ∉ n.toList) : x ∉ ['/'].intercalate (below.map String.toList) := by
  induction below with
  | nil => exact List.not_mem_nil
  | cons n rest ih =>
    rw [List.forall_mem_cons] at h
    cases rest with
    | nil => simpa using h.1
    | cons m rest =>
      rw [List.map_cons, List.map_cons, List.intercalate_cons_cons, List.mem_append,
        List.mem_append, List.mem_singleton, not_or, not_or]
      exact ⟨⟨h.1, hslash⟩, ih h.2⟩

/-- The path of some names carries their text. -/
theorem toList_relativeOf_pathOf {below : List String} (h : ∀ n ∈ below, Spelled n) :
    (relativeOf (pathOf below)).toList = ['/'].intercalate (below.map String.toList) := by
  have hslash : "/".toList = ['/'] := by simp
  have hdrop (rest : List Char) : ("/static/".toList ++ rest).drop 8 = rest := by simp
  have hquery : ∀ x ∈ ['/'].intercalate (below.map String.toList), decide (x ≠ '?') = true := by
    intro x hx
    apply decide_eq_true
    rintro rfl
    exact not_mem_intercalate (by decide) (fun n hn ↦ (h n hn).noQuery) hx
  rw [relativeOf, String.toList_ofList, pathOf, String.toList_append, String.toList_intercalate,
    hdrop, hslash, List.takeWhile_eq_self_iff.mpr hquery]

/-- The path of some names names them. -/
theorem names_relativeOf_pathOf {below : List String} (h : ∀ n ∈ below, Spelled n) :
    names (relativeOf (pathOf below)) = below := by
  have htext := toList_relativeOf_pathOf h
  by_cases hne : below = []
  · subst hne
    decide
  · have hcomponents : components (relativeOf (pathOf below)) = below := by
      have hsegments := segments_intercalate h hne
      rw [← htext] at hsegments
      change (segments (relativeOf (pathOf below)).toList).map String.ofList = below
      rw [hsegments, List.map_map]
      simp
    rw [names, hcomponents, List.filter_eq_self]
    intro n hn
    have hplain := (h n hn).plain
    simp [hplain.ne_empty, hplain.ne_dot]

/-- The path of some names has no two dots side by side. -/
theorem noDots_relativeOf_pathOf {below : List String} (h : ∀ n ∈ below, Spelled n) :
    ¬ ['.', '.'] <:+: (relativeOf (pathOf below)).toList := by
  rw [toList_relativeOf_pathOf h]
  by_cases hne : below = []
  · subst hne
    decide
  · rw [pair_infix_iff (by decide) (by decide), segments_intercalate h hne]
    rintro ⟨s, hs, hdots⟩
    obtain ⟨n, hn, rfl⟩ := List.mem_map.mp hs
    exact (h n hn).noDots hdots

/-- The path of some names does not begin with a slash. -/
theorem noSlash_relativeOf_pathOf {below : List String} (h : ∀ n ∈ below, Spelled n) :
    ¬ ['/'] <+: (relativeOf (pathOf below)).toList := by
  rw [toList_relativeOf_pathOf h]
  intro hslash
  cases below with
  | nil => exact absurd hslash (by decide)
  | cons n rest =>
    have hplain := (h n List.mem_cons_self).plain
    have hname : n.toList ≠ [] := by simpa using hplain.ne_empty
    obtain ⟨c, cs, hcs⟩ := List.exists_cons_of_ne_nil hname
    have hhead : ['/'].intercalate ((n :: rest).map String.toList) =
        c :: ['/'].intercalate (cs :: rest.map String.toList) := by
      rw [List.map_cons, hcs, List.intercalate_cons_cons_left]
    rw [hhead, List.cons_prefix_cons] at hslash
    exact hplain.noSlash (by rw [hcs, ← hslash.1]; exact List.mem_cons_self)

/-- What is served over all paths are the files below the directory with names that a path can
spell, each with the content type of its name. -/
theorem served_iff (dir : List String) (files : List String → Option α) (kind : String)
    (data : α) :
    (∃ path, serveStatic dir files path = .file kind data) ↔
      ∃ below, (∀ n ∈ below, Spelled n) ∧ files (dir ++ below) = some data ∧
        kind = contentType ((dir ++ below).getLastD "") := by
  constructor
  · rintro ⟨path, hserved⟩
    unfold serveStatic at hserved
    dsimp only at hserved
    split_ifs at hserved with hforbidden hnull hbelow
    have hdots := fun h ↦ hforbidden (Or.inl h)
    rw [resolve_of_noDots dir hdots] at hserved
    refine ⟨names (relativeOf path), ?_, ?_⟩
    · intro n hn
      exact spelled_of_mem_names hdots (noQuery_relativeOf path) hnull hn
    · split at hserved
      · cases hserved
      · rename_i found hfound
        obtain ⟨hkind, hdata⟩ := StaticReply.file.inj hserved
        exact ⟨hdata ▸ hfound, hkind.symm⟩
  · rintro ⟨below, hspelled, hfile, rfl⟩
    refine ⟨pathOf below, ?_⟩
    have hdots := noDots_relativeOf_pathOf hspelled
    have hnull : Char.ofNat 0 ∉ (relativeOf (pathOf below)).toList := by
      rw [toList_relativeOf_pathOf hspelled]
      exact not_mem_intercalate (by decide) fun n hn ↦ (hspelled n hn).noNull
    have hresolve : resolve dir (relativeOf (pathOf below)) = dir ++ below := by
      rw [resolve_of_noDots dir hdots, names_relativeOf_pathOf hspelled]
    unfold serveStatic
    dsimp only
    rw [if_neg (not_or.mpr ⟨hdots, noSlash_relativeOf_pathOf hspelled⟩), if_neg hnull, hresolve,
      if_pos (pathText_append dir below), hfile]

end LcpGateway.Server.StaticFiles
