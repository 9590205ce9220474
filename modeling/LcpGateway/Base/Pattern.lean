import Mathlib.Data.List.Basic
import Mathlib.Logic.Function.Iterate

/-!
# Backtracking patterns

Library `Base`. A pattern as a backtracking matcher reads it: the places where a match can end,
in the order the matcher tries them, so that the first one is the match it reports. Repetition
is over a class of characters. Texts are lists of characters.
-/

namespace LcpGateway.Base

/-- A pattern; `many` is a `*` and `group` the only group. -/
inductive Pattern where
  | empty
  | char (p : Char → Bool)
  | many (p : Char → Bool) (lazily : Bool)
  | boundary (word : Char → Bool)
  | seq (a b : Pattern)
  | alt (a b : Pattern)
  | group (a : Pattern)

/-- A place in a text: what is in front of it, reversed, what is behind it, and what the group
took on the way. -/
structure Place where
  before : List Char
  rest : List Char
  captured : List Char

namespace Pattern

/-- One character and more of the same class. -/
def many1 (p : Char → Bool) : Pattern := .seq (.char p) (.many p false)

/-- The pattern, when it matches. -/
def optional (a : Pattern) : Pattern := .alt a .empty

/-- Patterns one after another. -/
def chain (patterns : List Pattern) : Pattern := patterns.foldr .seq .empty

/-- The characters of a text, compared by `same`. -/
def text (same : Char → Char → Bool) (s : String) : Pattern :=
  chain (s.toList.map (fun c ↦ .char (same c)))

/-- A text as it is. -/
def lit (s : String) : Pattern := text (fun c d ↦ c = d) s

/-- The ends of a run of a class, the longest one first. -/
def stops (p : Char → Bool) (captured : List Char) : List Char → List Char → List Place
  | before, [] => [⟨before, [], captured⟩]
  | before, c :: rest =>
    if p c then stops p captured (c :: before) rest ++ [⟨before, c :: rest, captured⟩]
    else [⟨before, c :: rest, captured⟩]

/-- The characters on the two sides of a place, of which one is a word character. -/
def atBoundary (word : Char → Bool) (place : Place) : Bool :=
  place.before.head?.any word != place.rest.head?.any word

/-- The ends of the matches at a place, in the order they are tried. -/
def ends : Pattern → Place → List Place
  | .empty, place => [place]
  | .char _, ⟨_, [], _⟩ => []
  | .char p, ⟨before, c :: rest, captured⟩ =>
    if p c then [⟨c :: before, rest, captured⟩] else []
  | .many p lazily, place =>
    let stops := stops p place.captured place.before place.rest
    if lazily then stops.reverse else stops
  | .boundary word, place => if atBoundary word place then [place] else []
  | .seq a b, place => (a.ends place).flatMap b.ends
  | .alt a b, place => a.ends place ++ b.ends place
  | .group a, place =>
    (a.ends place).map (fun e ↦
      { e with
        captured := (e.before.take (e.before.length - place.before.length)).reverse })

/-- The end of the match at a place. -/
def matchAt (r : Pattern) (before rest : List Char) : Option Place :=
  (r.ends ⟨before, rest, []⟩).head?

/-- The leftmost match behind `before`: its start and its end. -/
def searchFrom (r : Pattern) : List Char → List Char → Option (List Char × Place)
  | before, [] => (r.matchAt before []).map (fun e ↦ (before.reverse, e))
  | before, c :: rest =>
    match r.matchAt before (c :: rest) with
    | some e => some (before.reverse, e)
    | none => searchFrom r (c :: before) rest

/-- `re.search`: what is in front of the match, and its end. -/
def search (r : Pattern) (s : List Char) : Option (List Char × Place) := r.searchFrom [] s

/-- `re.sub` with an empty replacement, while `skip` characters of a match are still to be
dropped. The pattern matches no empty text. -/
def eraseFrom (r : Pattern) : Nat → List Char → List Char → List Char
  | _, _, [] => []
  | skip + 1, before, c :: rest => eraseFrom r skip (c :: before) rest
  | 0, before, c :: rest =>
    match r.matchAt before (c :: rest) with
    | some e =>
      if e.rest.length ≤ rest.length then
        eraseFrom r (rest.length - e.rest.length) (c :: before) rest
      else c :: eraseFrom r 0 (c :: before) rest
    | none => c :: eraseFrom r 0 (c :: before) rest

/-- `re.sub` with an empty replacement. -/
def erase (r : Pattern) (s : List Char) : List Char := r.eraseFrom 0 [] s

/-- Erasing leaves a part of the text. -/
theorem eraseFrom_sublist (r : Pattern) (skip : Nat) (before s : List Char) :
    (r.eraseFrom skip before s).Sublist s := by
  induction s generalizing skip before with
  | nil => cases skip <;> exact List.Sublist.refl _
  | cons c rest ih =>
    cases skip with
    | succ skip => exact (ih skip (c :: before)).cons c
    | zero =>
      unfold eraseFrom
      split
      · split
        · exact (ih _ _).cons c
        · exact (ih 0 (c :: before)).cons_cons c
      · exact (ih 0 (c :: before)).cons_cons c

/-- Erasing leaves a part of the text. -/
theorem erase_sublist (r : Pattern) (s : List Char) : (r.erase s).Sublist s :=
  r.eraseFrom_sublist 0 [] s

/-! ### Where a match begins -/

/-- A match begins with a character of the class. -/
def BeginsIn (r : Pattern) (p : Char → Bool) : Prop :=
  ∀ before c rest captured, p c = false → r.ends ⟨before, c :: rest, captured⟩ = []

theorem beginsIn_char (p : Char → Bool) : (char p).BeginsIn p := by
  intro before c rest captured hc
  rw [ends, hc, if_neg Bool.false_ne_true]

section Begins

variable {r : Pattern} {p : Char → Bool} {front l : List Char}

/-- What comes behind a pattern does not change where a match begins. -/
theorem BeginsIn.seq (h : r.BeginsIn p) (b : Pattern) : (Pattern.seq r b).BeginsIn p := by
  intro before c rest captured hc
  rw [ends, h before c rest captured hc, List.flatMap_nil]

/-- No match begins in a text without a character of the class. -/
theorem BeginsIn.matchAt_eq_none (h : r.BeginsIn p) {c : Char} (hc : p c = false)
    (before rest : List Char) : r.matchAt before (c :: rest) = none := by
  rw [matchAt, h before c rest [] hc, List.head?_nil]

/-- Erasing leaves a front without a character of the class. -/
theorem BeginsIn.prefix_erase (h : r.BeginsIn p) (hfront : ∀ c ∈ front, p c = false)
    (hl : front <+: l) : front <+: r.erase l := by
  obtain ⟨s, rfl⟩ := hl
  suffices hfrom : ∀ before, front <+: r.eraseFrom 0 before (front ++ s) from hfrom []
  induction front with
  | nil => exact fun before ↦ List.nil_prefix
  | cons c front ih =>
    intro before
    obtain ⟨hc, hrest⟩ := List.forall_mem_cons.mp hfront
    rw [List.cons_append, eraseFrom, h.matchAt_eq_none hc]
    exact List.cons_prefix_cons.mpr ⟨rfl, ih hrest (c :: before)⟩

/-- What a search has passed is in front of the match. -/
theorem prefix_of_searchFrom {passed before : List Char} {e : Place}
    (h : r.searchFrom passed l = some (before, e)) : passed.reverse <+: before := by
  induction l generalizing passed with
  | nil =>
    obtain ⟨_, -, heq⟩ := Option.map_eq_some_iff.mp h
    obtain rfl := (Prod.mk.inj heq).1
    exact List.prefix_refl _
  | cons c rest ih =>
    unfold searchFrom at h
    split at h
    · obtain rfl := (Prod.mk.inj (Option.some.inj h)).1
      exact List.prefix_refl _
    · have hmore := ih h
      rw [List.reverse_cons] at hmore
      exact (List.prefix_append _ _).trans hmore

/-- A front without a character of the class is in front of the first match. -/
theorem BeginsIn.prefix_search (h : r.BeginsIn p) (hfront : ∀ c ∈ front, p c = false)
    (hl : front <+: l) {before : List Char} {e : Place} (hsearch : r.search l = some (before, e)) :
    front <+: before := by
  obtain ⟨s, rfl⟩ := hl
  suffices hfrom : ∀ passed, r.searchFrom passed (front ++ s) = some (before, e) →
      passed.reverse ++ front <+: before from hfrom [] hsearch
  clear hsearch
  induction front with
  | nil =>
    intro passed hsearch
    rw [List.append_nil]
    exact prefix_of_searchFrom hsearch
  | cons c front ih =>
    intro passed hsearch
    obtain ⟨hc, hrest⟩ := List.forall_mem_cons.mp hfront
    rw [List.cons_append, searchFrom, h.matchAt_eq_none hc] at hsearch
    have hmore := ih hrest (c :: passed) hsearch
    rwa [List.reverse_cons, List.append_assoc, List.singleton_append] at hmore

end Begins

/-! ### What a match passes -/

/-- A run of a class ends in front of a part of the text. -/
theorem rest_suffix_of_mem_stops {p : Char → Bool} {captured before l : List Char} {e : Place}
    (h : e ∈ stops p captured before l) : e.rest <:+ l := by
  induction l generalizing before with
  | nil =>
    obtain rfl := List.mem_singleton.mp h
    exact List.suffix_refl _
  | cons c rest ih =>
    unfold stops at h
    split_ifs at h
    · rcases List.mem_append.mp h with hmore | hstop
      · exact (ih hmore).trans (List.suffix_cons c rest)
      · obtain rfl := List.mem_singleton.mp hstop
        exact List.suffix_refl _
    · obtain rfl := List.mem_singleton.mp h
      exact List.suffix_refl _

/-- A match ends in front of a part of the text. -/
theorem rest_suffix_of_mem_ends (r : Pattern) {place e : Place} (h : e ∈ r.ends place) :
    e.rest <:+ place.rest := by
  induction r generalizing place e with
  | empty =>
    obtain rfl := List.mem_singleton.mp h
    exact List.suffix_refl _
  | char p =>
    obtain ⟨before, _ | ⟨c, rest⟩, captured⟩ := place
    · cases h
    · rw [ends] at h
      split_ifs at h
      · obtain rfl := List.mem_singleton.mp h
        exact List.suffix_cons c rest
      · cases h
  | many p lazily =>
    rw [ends] at h
    split_ifs at h
    · exact rest_suffix_of_mem_stops (List.mem_reverse.mp h)
    · exact rest_suffix_of_mem_stops h
  | boundary word =>
    rw [ends] at h
    split_ifs at h
    · obtain rfl := List.mem_singleton.mp h
      exact List.suffix_refl _
    · cases h
  | seq a b iha ihb =>
    obtain ⟨middle, hmiddle, he⟩ := List.mem_flatMap.mp h
    exact (ihb he).trans (iha hmiddle)
  | alt a b iha ihb =>
    rcases List.mem_append.mp h with ha | hb
    · exact iha ha
    · exact ihb hb
  | group a iha =>
    obtain ⟨inner, hinner, rfl⟩ := List.mem_map.mp h
    have hrest : inner.rest <:+ place.rest := iha hinner
    exact hrest

/-- A match passes a character of the class. -/
def Needs (r : Pattern) (p : Char → Bool) : Prop :=
  ∀ place : Place, (∀ c ∈ place.rest, p c = false) → r.ends place = []

theorem needs_char (p : Char → Bool) : (char p).Needs p := by
  rintro ⟨before, _ | ⟨c, rest⟩, captured⟩ hnone
  · rfl
  · rw [ends, hnone c List.mem_cons_self, if_neg Bool.false_ne_true]

section Needs

variable {r : Pattern} {p : Char → Bool}

/-- A pattern needs what its first part needs. -/
theorem Needs.seq (h : r.Needs p) (b : Pattern) : (Pattern.seq r b).Needs p := by
  intro place hnone
  rw [ends, h place hnone, List.flatMap_nil]

/-- A pattern needs what its second part needs. -/
theorem Needs.behind (h : r.Needs p) (a : Pattern) : (Pattern.seq a r).Needs p := by
  intro place hnone
  rw [ends, List.flatMap_eq_nil_iff]
  intro middle hmiddle
  exact h middle fun c hc ↦ hnone c ((rest_suffix_of_mem_ends a hmiddle).mem hc)

/-- A chain needs what a part of it needs. -/
theorem Needs.chain (h : r.Needs p) {patterns : List Pattern} (hmem : r ∈ patterns) :
    (Pattern.chain patterns).Needs p := by
  induction patterns with
  | nil => cases hmem
  | cons a rest ih =>
    rcases List.mem_cons.mp hmem with rfl | hrest
    · exact h.seq _
    · exact (ih hrest).behind a

/-- A text needs each of its characters. -/
theorem needs_lit {s : String} {c : Char} (hc : c ∈ s.toList) : (lit s).Needs (fun d ↦ c = d) :=
  (needs_char _).chain (List.mem_map_of_mem hc)

/-- A run of a class needs a character of it. -/
theorem needs_many1 (p : Char → Bool) : (many1 p).Needs p := (needs_char p).seq _

/-- Nothing is found in a text without a character of the class. -/
theorem Needs.search_eq_none (h : r.Needs p) {s : List Char} (hs : ∀ c ∈ s, p c = false) :
    r.search s = none := by
  suffices hfrom : ∀ before, r.searchFrom before s = none from hfrom []
  induction s with
  | nil =>
    intro before
    rw [searchFrom, matchAt, h _ hs]
    rfl
  | cons c rest ih =>
    intro before
    rw [searchFrom, matchAt, h _ hs]
    exact ih (List.forall_mem_cons.mp hs).2 _

end Needs

end Pattern

/-- `f` over and over, until it changes nothing; `steps` bounds the repetitions. -/
def untilStable {α : Type} [DecidableEq α] (f : α → α) : Nat → α → α
  | 0, a => a
  | steps + 1, a => if f a = a then a else untilStable f steps (f a)

/-- The repetitions are rounds of `f`. -/
theorem exists_iterate_eq_untilStable {α : Type} [DecidableEq α] (f : α → α) (steps : Nat)
    (a : α) : ∃ rounds, f^[rounds] a = untilStable f steps a := by
  induction steps generalizing a with
  | zero => exact ⟨0, rfl⟩
  | succ steps ih =>
    unfold untilStable
    split
    · exact ⟨0, rfl⟩
    · obtain ⟨rounds, hrounds⟩ := ih (f a)
      exact ⟨rounds + 1, hrounds⟩

/-- Rounds that end where a further one changes nothing end at one value. -/
theorem iterate_eq_of_stable {α : Type} {f : α → α} {a : α} {m n : Nat}
    (hm : f (f^[m] a) = f^[m] a) (hn : f (f^[n] a) = f^[n] a) : f^[m] a = f^[n] a := by
  wlog hle : m ≤ n generalizing m n
  · exact (this hn hm (Nat.le_of_not_le hle)).symm
  · obtain ⟨more, rfl⟩ := Nat.exists_eq_add_of_le' hle
    rw [Function.iterate_add_apply, Function.iterate_fixed hm]

/-- A pass that only takes characters away has come to rest after as many passes as there are
characters. -/
theorem untilStable_stable {α : Type} [DecidableEq α] {f : List α → List α}
    (h : ∀ s, (f s).Sublist s) {steps : Nat} {s : List α} (hsteps : s.length ≤ steps) :
    f (untilStable f steps s) = untilStable f steps s := by
  induction steps generalizing s with
  | zero =>
    obtain rfl : s = [] := List.length_eq_zero_iff.mp (by omega)
    exact List.sublist_nil.mp (h [])
  | succ steps ih =>
    unfold untilStable
    split
    · assumption
    · next hne =>
      apply ih
      have hlength := (h s).length_le
      have hshort : (f s).length ≠ s.length := fun heq ↦ hne ((h s).eq_of_length heq)
      omega

end LcpGateway.Base
