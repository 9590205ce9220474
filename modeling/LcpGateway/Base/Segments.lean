import Mathlib.Data.List.Forall2
import Mathlib.Data.List.Infix

/-!
# Addresses by segments

Library `Base`. What a test of the text of an address says about its segments, and a test on two
such descriptions that no address meets both. An address is cut at its slashes.
-/

namespace LcpGateway.Base

/-- What is known of one segment: it is one of some texts, or none of them and without some
beginnings, or it begins with a text. -/
inductive Piece where
  | oneOf (texts : List (List Char))
  | other (texts starts : List (List Char))
  | begins (text : List Char)

namespace Piece

/-- Whether a segment is as known. -/
def fits : Piece → List Char → Bool
  | .oneOf texts, s => texts.contains s
  | .other texts starts, s => !texts.contains s && !starts.any (·.isPrefixOf s)
  | .begins text, s => text.isPrefixOf s

/-- No segment fits both. -/
def apart : Piece → Piece → Bool
  | .oneOf texts, b => texts.all fun s ↦ !b.fits s
  | a, .oneOf texts => texts.all fun s ↦ !a.fits s
  | .begins s, .begins t => !s.isPrefixOf t && !t.isPrefixOf s
  | .other _ starts, .begins t => starts.any (·.isPrefixOf t)
  | .begins t, .other _ starts => starts.any (·.isPrefixOf t)
  | .other _ _, .other _ _ => false

/-- No segment of the texts fits a piece that none of them fits. -/
theorem not_fits_of_all {texts : List (List Char)} {b : Piece}
    (h : (texts.all fun s ↦ !b.fits s) = true) {s : List Char} (hs : texts.contains s = true) :
    b.fits s = false := by
  simpa using List.all_eq_true.mp h s (List.contains_iff_mem.mp hs)

/-- A segment without a beginning does not begin with a text that has it. -/
theorem not_prefix_of_starts {texts starts : List (List Char)} {t s : List Char}
    (h : (starts.any (·.isPrefixOf t)) = true) (ht : t.isPrefixOf s = true) :
    (Piece.other texts starts).fits s = false := by
  obtain ⟨start, hstart, hstarts⟩ := List.any_eq_true.mp h
  rw [List.isPrefixOf_iff_prefix] at hstarts ht
  have hany : starts.any (·.isPrefixOf s) = true :=
    List.any_eq_true.mpr ⟨start, hstart, List.isPrefixOf_iff_prefix.mpr (hstarts.trans ht)⟩
  rw [fits, hany, Bool.not_true, Bool.and_false]

/-- Pieces that are apart share no segment. -/
theorem not_fits_of_apart {a b : Piece} (h : a.apart b = true) {s : List Char}
    (ha : a.fits s = true) : b.fits s = false := by
  by_contra hb
  rw [Bool.not_eq_false] at hb
  cases a with
  | oneOf texts => exact absurd hb (Bool.not_eq_true _ ▸ not_fits_of_all h ha)
  | other texts starts =>
    cases b with
    | oneOf others => exact absurd ha (Bool.not_eq_true _ ▸ not_fits_of_all h hb)
    | other others ends => exact absurd h Bool.false_ne_true
    | begins t => exact absurd ha (Bool.not_eq_true _ ▸ not_prefix_of_starts h hb)
  | begins t =>
    cases b with
    | oneOf others => exact absurd ha (Bool.not_eq_true _ ▸ not_fits_of_all h hb)
    | other others starts => exact absurd hb (Bool.not_eq_true _ ▸ not_prefix_of_starts h ha)
    | begins u =>
      rw [fits, List.isPrefixOf_iff_prefix] at ha hb
      simp only [apart, Bool.and_eq_true, Bool.not_eq_true', ← Bool.not_eq_true,
        List.isPrefixOf_iff_prefix] at h
      rcases List.prefix_or_prefix_of_prefix ha hb with hstarts | hstarts
      · exact h.1 hstarts
      · exact h.2 hstarts

end Piece

/-- What is known of the segments of an address: of the first ones, of the last ones, the last one
first, and whether there are no others than the first ones. -/
structure Outline where
  heads : List Piece
  tails : List Piece
  closed : Bool

/-- The first segments are as known. -/
def fitFront : List Piece → List (List Char) → Bool
  | [], _ => true
  | _ :: _, [] => false
  | p :: ps, s :: ss => p.fits s && fitFront ps ss

/-- At some place both know of a segment, and they are apart. -/
def apartFront : List Piece → List Piece → Bool
  | a :: as, b :: bs => a.apart b || apartFront as bs
  | _, _ => false

namespace Outline

/-- The segments are as known. -/
def fits (k : Outline) (ss : List (List Char)) : Bool :=
  fitFront k.heads ss && fitFront k.tails ss.reverse && (!k.closed || ss.length == k.heads.length)

/-- The segments that are known at least. -/
def least (k : Outline) : Nat := max k.heads.length k.tails.length

/-- No address fits both. -/
def apart (k j : Outline) : Bool :=
  apartFront k.tails j.tails || apartFront k.heads j.heads ||
    (k.closed && decide (k.heads.length < j.least)) ||
    (j.closed && decide (j.heads.length < k.least))

end Outline

/-- Fronts that are apart do not fit one list of segments. -/
theorem not_fitFront_of_apart {as bs : List Piece} {ss : List (List Char)}
    (h : apartFront as bs = true) (has : fitFront as ss = true) : fitFront bs ss = false := by
  induction as generalizing bs ss with
  | nil => simp [apartFront] at h
  | cons a as ih =>
    cases bs with
    | nil => simp [apartFront] at h
    | cons b bs =>
      cases ss with
      | nil => rfl
      | cons s ss =>
        rw [fitFront, Bool.and_eq_true] at has
        rw [apartFront, Bool.or_eq_true] at h
        rw [fitFront, Bool.and_eq_false_iff]
        exact h.imp (fun hapart ↦ Piece.not_fits_of_apart hapart has.1)
          (fun hapart ↦ ih hapart has.2)

/-- A front is not longer than the segments it fits. -/
theorem length_le_of_fitFront {ps : List Piece} {ss : List (List Char)}
    (h : fitFront ps ss = true) : ps.length ≤ ss.length := by
  induction ps generalizing ss with
  | nil => exact Nat.zero_le _
  | cons p ps ih =>
    cases ss with
    | nil => exact absurd h Bool.false_ne_true
    | cons s ss =>
      rw [fitFront, Bool.and_eq_true] at h
      exact Nat.succ_le_succ (ih h.2)

/-- No address has fewer segments than are known at least. -/
theorem Outline.least_le {k : Outline} {ss : List (List Char)} (h : k.fits ss = true) :
    k.least ≤ ss.length := by
  rw [Outline.fits, Bool.and_eq_true, Bool.and_eq_true] at h
  have htails := length_le_of_fitFront h.1.2
  rw [List.length_reverse] at htails
  exact max_le (length_le_of_fitFront h.1.1) htails

/-- Outlines that are apart share no address. -/
theorem Outline.not_fits_of_apart {k j : Outline} (h : k.apart j = true) {ss : List (List Char)}
    (hk : k.fits ss = true) : j.fits ss = false := by
  by_contra hj
  rw [Bool.not_eq_false] at hj
  have hkleast := least_le hk
  have hjleast := least_le hj
  rw [Outline.fits, Bool.and_eq_true, Bool.and_eq_true, Bool.or_eq_true] at hk hj
  rw [Outline.apart, Bool.or_eq_true, Bool.or_eq_true, Bool.or_eq_true, Bool.and_eq_true,
    Bool.and_eq_true, decide_eq_true_eq, decide_eq_true_eq] at h
  rcases h with ((htails | hheads) | ⟨hclosed, hfew⟩) | ⟨hclosed, hfew⟩
  · rw [not_fitFront_of_apart htails hk.1.2] at hj
    exact absurd hj.1.2 Bool.false_ne_true
  · rw [not_fitFront_of_apart hheads hk.1.1] at hj
    exact absurd hj.1.1 Bool.false_ne_true
  · have hlength : ss.length = k.heads.length := by simpa [hclosed] using hk.2
    omega
  · have hlength : ss.length = j.heads.length := by simpa [hclosed] using hj.2
    omega

/-- A front fits as many segments exactly when each piece fits the segment at its place. -/
theorem fitFront_iff {ps : List Piece} {ss : List (List Char)} (hlength : ss.length = ps.length) :
    fitFront ps ss = true ↔ List.Forall₂ (fun p s ↦ p.fits s = true) ps ss := by
  induction ps generalizing ss with
  | nil =>
    obtain rfl := List.length_eq_zero_iff.mp hlength
    exact ⟨fun _ ↦ .nil, fun _ ↦ rfl⟩
  | cons p ps ih =>
    cases ss with
    | nil => simp at hlength
    | cons s ss =>
      rw [fitFront, Bool.and_eq_true, List.forall₂_cons, ih (Nat.succ_injective hlength)]

/-- The outline of addresses of which every segment is known. -/
def Outline.closedOn (ps : List Piece) : Outline := ⟨ps, ps.reverse, true⟩

/-- Every piece fits the segment at its place. -/
theorem Outline.fits_closedOn_iff {ps : List Piece} {ss : List (List Char)} :
    (closedOn ps).fits ss = true ↔ List.Forall₂ (fun p s ↦ p.fits s = true) ps ss := by
  rw [fits, Bool.and_eq_true, Bool.and_eq_true]
  constructor
  · rintro ⟨⟨hheads, -⟩, hlength⟩
    have hlength : ss.length = ps.length := by simpa [closedOn] using hlength
    exact (fitFront_iff hlength).mp hheads
  · intro h
    have hlength := h.length_eq.symm
    have hlength' : ss.reverse.length = ps.reverse.length := by simpa using hlength
    have hreverse := List.forall₂_reverse_iff.mpr h
    refine ⟨⟨(fitFront_iff hlength).mpr h, (fitFront_iff hlength').mpr hreverse⟩, ?_⟩
    simp [closedOn, hlength]

/-! ### The outlines of texts -/

/-- The segments of an address. -/
def segments (address : List Char) : List (List Char) := address.splitOn '/'

/-- A slash separates segments. -/
theorem segments_slash (a b : List Char) : segments (a ++ '/' :: b) = segments a ++ segments b :=
  List.splitOn_append_cons_self a b

/-- A text without a slash is one segment. -/
theorem segments_of_noSlash {a : List Char} (h : '/' ∉ a) : segments a = [a] :=
  List.splitOn_eq_singleton h

/-- An address is its segments, each behind a slash. -/
theorem segments_flatMap {ss : List (List Char)} (h : ∀ s ∈ ss, '/' ∉ s) :
    segments (ss.flatMap fun s ↦ '/' :: s) = [] :: ss := by
  have hfirst : ∀ (ss : List (List Char)) (front : List Char), '/' ∉ front →
      (∀ s ∈ ss, '/' ∉ s) → segments (front ++ ss.flatMap fun s ↦ '/' :: s) = front :: ss := by
    intro ss
    induction ss with
    | nil =>
      intro front hfront _
      rw [List.flatMap_nil, List.append_nil, segments_of_noSlash hfront]
    | cons s rest ih =>
      intro front hfront hss
      rw [List.forall_mem_cons] at hss
      rw [List.flatMap_cons, List.cons_append, segments_slash, segments_of_noSlash hfront,
        ih s hss.1 hss.2, List.singleton_append]
  exact hfirst ss [] List.not_mem_nil h

/-- Every address has a segment. -/
theorem segments_ne_nil (address : List Char) : segments address ≠ [] :=
  List.splitOn_ne_nil '/' address

/-- A segment holds no slash and stands in its address. -/
theorem segment_of_mem {s address : List Char} (h : s ∈ segments address) :
    '/' ∉ s ∧ s <:+: address := by
  induction hlength : address.length using Nat.strong_induction_on generalizing address with
  | _ n ih =>
    by_cases hslash : '/' ∈ address
    · obtain ⟨a, b, rfl, ha⟩ := List.eq_append_cons_of_mem hslash
      rw [segments_slash, segments_of_noSlash ha, List.singleton_append, List.mem_cons] at h
      rcases h with rfl | h
      · exact ⟨ha, (List.prefix_append _ _).isInfix⟩
      · have hshorter : b.length < n := by
          rw [← hlength, List.length_append, List.length_cons]
          omega
        obtain ⟨hs, hwithin⟩ := ih b.length hshorter h rfl
        have hbehind : b <:+: a ++ '/' :: b :=
          ((List.suffix_cons '/' b).trans (List.suffix_append _ _)).isInfix
        exact ⟨hs, hwithin.trans hbehind⟩
    · rw [segments_of_noSlash hslash, List.mem_singleton] at h
      subst h
      exact ⟨hslash, List.infix_rfl⟩

/-- Two characters stand side by side in front of a separator or behind it. -/
theorem pair_infix_append_iff {a b sep : Char} (ha : a ≠ sep) (hb : b ≠ sep) (l r : List Char) :
    [a, b] <:+: l ++ sep :: r ↔ [a, b] <:+: l ∨ [a, b] <:+: r := by
  induction l with
  | nil =>
    have hnot : ¬ [a, b] <+: sep :: r := fun h ↦ ha (List.cons_prefix_cons.mp h).1
    rw [List.nil_append, List.infix_cons_iff]
    simp [hnot]
  | cons c l ih =>
    have hfront : [a, b] <+: c :: (l ++ sep :: r) ↔ [a, b] <+: c :: l := by
      cases l with
      | nil => simp [List.cons_prefix_cons, hb]
      | cons d l => simp [List.cons_prefix_cons]
    rw [List.cons_append, List.infix_cons_iff, List.infix_cons_iff, ih, hfront, or_assoc]

/-- Two characters that are no slash stand side by side in an address when they do in a segment. -/
theorem pair_infix_iff {a b : Char} (ha : a ≠ '/') (hb : b ≠ '/') (address : List Char) :
    [a, b] <:+: address ↔ ∃ s ∈ segments address, [a, b] <:+: s := by
  have hall : ∀ ss : List (List Char), ss ≠ [] →
      ([a, b] <:+: ['/'].intercalate ss ↔ ∃ s ∈ ss, [a, b] <:+: s) := by
    intro ss
    induction ss with
    | nil => exact fun h ↦ absurd rfl h
    | cons s rest ih =>
      intro _
      cases rest with
      | nil => simp
      | cons t rest =>
        rw [List.intercalate_cons_cons, List.append_assoc, List.singleton_append,
          pair_infix_append_iff ha hb, ih (List.cons_ne_nil t rest)]
        simp only [List.mem_cons, exists_eq_or_imp]
  have hback : ['/'].intercalate (segments address) = address := List.intercalate_splitOn '/'
  rw [← hall _ (segments_ne_nil address), hback]

/-- The outline of one address. -/
def Outline.exactly (address : List Char) : Outline where
  heads := (segments address).map fun s ↦ .oneOf [s]
  tails := (segments address).reverse.map fun s ↦ .oneOf [s]
  closed := true

/-- The pieces of addresses that begin with a text. -/
def beginning (text : List Char) : List Piece :=
  (segments text).dropLast.map (fun s ↦ .oneOf [s]) ++
    [.begins ((segments text).getLastD [])]

/-- The pieces of addresses that end with a text, from the end. -/
def ending (text : List Char) : List Piece :=
  (segments text).tail.reverse.map (fun s ↦ .oneOf [s]) ++ [.begins []]

/-- The segments of two texts, one behind the other: those at the seam are one. -/
theorem segments_append {a b : List Char} {front tail : List (List Char)} {last head : List Char}
    (ha : segments a = front ++ [last]) (hb : segments b = head :: tail) :
    segments (a ++ b) = front ++ (last ++ head) :: tail := by
  induction a generalizing front last with
  | nil =>
    have hsplit : [] ++ [[]] = front ++ [last] := ha
    obtain ⟨rfl, hlast⟩ := List.append_inj' hsplit rfl
    obtain rfl := List.head_eq_of_cons_eq hlast
    exact hb
  | cons c rest ih =>
    obtain hnil | ⟨front', last', hrest⟩ := (segments rest).eq_nil_or_concat
    · exact absurd hnil (segments_ne_nil rest)
    rw [List.concat_eq_append] at hrest
    have happend := ih hrest
    rw [segments, List.splitOn_cons_eq_if_modifyHead, ← segments, hrest] at ha
    rw [List.cons_append, segments, List.splitOn_cons_eq_if_modifyHead, ← segments, happend]
    split_ifs at ha ⊢ with hslash
    · rw [← List.cons_append] at ha
      obtain ⟨rfl, hlast⟩ := List.append_inj' ha rfl
      obtain rfl := List.head_eq_of_cons_eq hlast
      rfl
    · cases front' with
      | nil =>
        have hsplit : [] ++ [c :: last'] = front ++ [last] := ha
        obtain ⟨rfl, hlast⟩ := List.append_inj' hsplit rfl
        obtain rfl := List.head_eq_of_cons_eq hlast
        rfl
      | cons f fs =>
        have hsplit : ((c :: f) :: fs) ++ [last'] = front ++ [last] := ha
        obtain ⟨rfl, hlast⟩ := List.append_inj' hsplit rfl
        obtain rfl := List.head_eq_of_cons_eq hlast
        rfl

/-- Segments that are known in full fit, and what is known behind them has to. -/
theorem fitFront_exactly (known : List (List Char)) (ps : List Piece) (ss : List (List Char)) :
    fitFront (known.map (fun s ↦ .oneOf [s]) ++ ps) (known ++ ss) = fitFront ps ss := by
  induction known with
  | nil => rfl
  | cons s known ih =>
    have hs : (Piece.oneOf [s]).fits s = true := by simp [Piece.fits]
    rw [List.map_cons, List.cons_append, List.cons_append, fitFront, hs, Bool.true_and, ih]

/-- An address has its own outline. -/
theorem fits_exactly (address : List Char) :
    (Outline.exactly address).fits (segments address) = true := by
  have hheads := fitFront_exactly (segments address) [] []
  have htails := fitFront_exactly (segments address).reverse [] []
  rw [List.append_nil, List.append_nil] at hheads htails
  simp only [Outline.fits, Outline.exactly, hheads, htails, fitFront, List.length_map,
    beq_self_eq_true, Bool.or_true, Bool.and_self]

/-- An address that begins with a text has the pieces of one. -/
theorem fitFront_beginning {text address : List Char} (h : text <+: address) :
    fitFront (beginning text) (segments address) = true := by
  obtain ⟨rest, rfl⟩ := h
  obtain hnil | ⟨front, last, htext⟩ := (segments text).eq_nil_or_concat
  · exact absurd hnil (segments_ne_nil text)
  rw [List.concat_eq_append] at htext
  obtain ⟨head, tail, hrest⟩ := List.exists_cons_of_ne_nil (segments_ne_nil rest)
  rw [segments_append htext hrest, beginning, htext, List.dropLast_concat, fitFront_exactly]
  simp [fitFront, Piece.fits]

/-- An address that ends with a text has the pieces of one. -/
theorem fitFront_ending {text address : List Char} (h : text <:+ address) :
    fitFront (ending text) (segments address).reverse = true := by
  obtain ⟨rest, rfl⟩ := h
  obtain hnil | ⟨front, last, hrest⟩ := (segments rest).eq_nil_or_concat
  · exact absurd hnil (segments_ne_nil rest)
  rw [List.concat_eq_append] at hrest
  obtain ⟨head, tail, htext⟩ := List.exists_cons_of_ne_nil (segments_ne_nil text)
  rw [segments_append hrest htext, List.reverse_append, List.reverse_cons, ending, htext,
    List.tail_cons, List.append_assoc, fitFront_exactly]
  simp [fitFront, Piece.fits]

end LcpGateway.Base
