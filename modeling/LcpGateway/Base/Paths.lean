import Mathlib.Data.List.TakeWhile

/-!
# Paths

Library `Base`. A path is normalised component by component: empty components and dots are dropped
and two dots take back the component in front of them. A path lies in a directory when its
normalised components begin with those of the directory.
-/

namespace LcpGateway.Base

/-- A component that names an entry of a directory. -/
structure PlainName (c : String) : Prop where
  ne_empty : c ≠ ""
  ne_dot : c ≠ "."
  ne_dots : c ≠ ".."
  noSlash : '/' ∉ c.toList

/-- `path.split("/")`. -/
def components (path : String) : List String := (path.toList.splitOn '/').map String.ofList

/-- One component on the stack of those in front of it, the last one first. -/
def pushComponent (absolute : Bool) (stack : List String) (c : String) : List String :=
  if c = "" ∨ c = "." then stack
  else if c = ".." then
    match stack with
    | [] => if absolute then [] else [".."]
    | top :: below => if top = ".." then ".." :: top :: below else below
  else c :: stack

/-- A normalised path: its slashes in front, and its components. -/
structure NormPath where
  slashes : Nat
  comps : List String
  deriving DecidableEq, Repr

/-- The slashes in front that count: two of them are kept, three are one. -/
def initialSlashes (cs : List Char) : Nat :=
  match (cs.takeWhile (· = '/')).length with
  | 0 => 0
  | 2 => 2
  | _ => 1

/-- The stack behind some components. -/
def pushAll (absolute : Bool) (stack cs : List String) : List String :=
  cs.foldl (pushComponent absolute) stack

/-- `posixpath.normpath`. -/
def normpath (path : String) : NormPath where
  slashes := initialSlashes path.toList
  comps := (pushAll (initialSlashes path.toList ≠ 0) [] (components path)).reverse

/-- The path lies in the directory, or is the directory. -/
def NormPath.LiesIn (p dir : NormPath) : Prop := p.slashes = dir.slashes ∧ dir.comps <+: p.comps

instance (p dir : NormPath) : Decidable (p.LiesIn dir) :=
  inferInstanceAs (Decidable (_ ∧ _))

/-- A plain name is pushed. -/
theorem pushComponent_plain {absolute : Bool} {stack : List String} {c : String}
    (h : PlainName c) : pushComponent absolute stack c = c :: stack := by
  simp [pushComponent, h.ne_empty, h.ne_dot, h.ne_dots]

/-- An empty component changes nothing. -/
@[simp] theorem pushComponent_empty (absolute : Bool) (stack : List String) :
    pushComponent absolute stack "" = stack := by
  simp [pushComponent]

/-- A text without a slash is one component. -/
theorem components_of_noSlash {c : String} (h : '/' ∉ c.toList) : components c = [c] := by
  have hsplit : c.toList.splitOn '/' = [c.toList] := List.splitOn_eq_singleton h
  rw [components, hsplit, List.map_singleton, String.ofList_toList]

/-- The components on both sides of a slash. -/
theorem components_slash (dir name : String) :
    components (dir ++ "/" ++ name) = components dir ++ components name := by
  have htext : (dir ++ "/" ++ name).toList = dir.toList ++ '/' :: name.toList := by simp
  rw [components, htext, List.splitOn_append_cons_self, List.map_append]
  rfl

/-- The stack behind two paths with a slash between them. -/
theorem pushAll_slash (absolute : Bool) (stack : List String) (dir name : String) :
    pushAll absolute stack (components (dir ++ "/" ++ name)) =
      pushAll absolute (pushAll absolute stack (components dir)) (components name) := by
  rw [components_slash, pushAll, List.foldl_append]
  rfl

/-- A name without a slash is pushed as it is. -/
theorem pushAll_noSlash (absolute : Bool) (stack : List String) {name : String}
    (h : '/' ∉ name.toList) :
    pushAll absolute stack (components name) = pushComponent absolute stack name := by
  rw [components_of_noSlash h]
  rfl

/-- A slash behind a path changes nothing. -/
theorem pushAll_trailing (absolute : Bool) (stack : List String) (dir : String) :
    pushAll absolute stack (components (dir ++ "/")) =
      pushAll absolute stack (components dir) := by
  have h := pushAll_slash absolute stack dir ""
  rw [String.append_empty] at h
  rw [h, pushAll_noSlash _ _ (by simp : '/' ∉ "".toList), pushComponent_empty]

/-- What follows a text that is not all slashes, or does not begin with one, keeps the slashes in
front. -/
theorem initialSlashes_append {front rest : List Char}
    (h : (∃ c ∈ front, c ≠ '/') ∨ rest.head? ≠ some '/') :
    initialSlashes (front ++ rest) = initialSlashes front := by
  have htake : (front ++ rest).takeWhile (· = '/') = front.takeWhile (· = '/') := by
    rw [List.takeWhile_append]
    split_ifs with hlength
    · have hall : front.takeWhile (· = '/') = front :=
        (List.takeWhile_prefix _).eq_of_length hlength
      rcases h with ⟨c, hc, hne⟩ | hrest
      · have hslash := List.takeWhile_eq_self_iff.mp hall c hc
        exact absurd (by simpa using hslash) hne
      · have hnone : rest.takeWhile (· = '/') = [] := by
          cases rest with
          | nil => rfl
          | cons c rest =>
            have hc : c ≠ '/' := by simpa using hrest
            simp [hc]
        rw [hnone, List.append_nil, hall]
    · rfl
  rw [initialSlashes, htake, initialSlashes]

end LcpGateway.Base
