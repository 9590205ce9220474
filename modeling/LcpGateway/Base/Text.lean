import Mathlib.Data.List.DropRight
import Mathlib.Data.List.Infix
import Mathlib.Data.String.Basic

/-!
# Python string methods

Library `Base`. The methods of `str` the gateway relies on. White space is the set of
`str.isspace`; lowering and raising are exact for what becomes an ASCII letter.
-/

namespace LcpGateway.Base

/-- `str.isspace` on one character. -/
def isSpace (c : Char) : Bool :=
  let n := c.toNat
  (0x09 ≤ n && n ≤ 0x0d) || (0x1c ≤ n && n ≤ 0x20) || n == 0x85 || n == 0xa0 || n == 0x1680 ||
    (0x2000 ≤ n && n ≤ 0x200a) || n == 0x2028 || n == 0x2029 || n == 0x202f || n == 0x205f ||
    n == 0x3000

/-- `s.rstrip()`. -/
def rstrip (s : String) : String := String.ofList (s.toList.rdropWhile isSpace)

/-- `s.strip()`. -/
def strip (s : String) : String :=
  String.ofList ((s.toList.dropWhile isSpace).rdropWhile isSpace)

/-- `c.lower()`; the Kelvin sign becomes a `k`. -/
def lowerChar (c : Char) : Char := if c.toNat = 0x212a then 'k' else c.toLower

/-- `s.lower()`. -/
def lower (s : String) : String := String.ofList (s.toList.map lowerChar)

/-- `s.upper()`. -/
def upper (s : String) : String := String.ofList (s.toList.map Char.toUpper)

/-- `s.rsplit(sep, 1)[-1]`: what follows the last separator, or all of `s`. -/
def lastSegment (sep : Char) (s : String) : String :=
  String.ofList (s.toList.rtakeWhile (· ≠ sep))

/-- `sub in s`. -/
def isInfix (sub s : String) : Bool := s.toList.tails.any (fun t ↦ sub.toList.isPrefixOf t)

/-- Stripping leaves a text as it is when no white space is at either end. -/
theorem strip_eq_self_iff (s : String) :
    strip s = s ↔ (∀ c, s.toList.head? = some c → isSpace c = false) ∧
      ∀ c, s.toList.getLast? = some c → isSpace c = false := by
  rw [strip, ← String.toList_inj, String.toList_ofList]
  generalize s.toList = cs
  constructor
  · intro h
    have hdrop : cs.dropWhile isSpace = cs := by
      apply (List.dropWhile_sublist isSpace).eq_of_length_le
      calc cs.length = ((cs.dropWhile isSpace).rdropWhile isSpace).length := by rw [h]
        _ ≤ (cs.dropWhile isSpace).length := (List.rdropWhile_prefix isSpace _).length_le
    rw [hdrop] at h
    constructor
    · intro c hc
      have hnot := List.head?_dropWhile_not isSpace cs
      rw [hdrop, hc] at hnot
      exact hnot
    · intro c hc
      obtain ⟨init, rfl⟩ := List.getLast?_eq_some_iff.mp hc
      simpa using List.rdropWhile_eq_self_iff.mp h (by simp)
  · rintro ⟨hhead, hlast⟩
    have hdrop : cs.dropWhile isSpace = cs := by
      cases cs with
      | nil => rfl
      | cons c rest => rw [List.dropWhile_cons_of_neg (by simp [hhead c rfl])]
    rw [hdrop, List.rdropWhile_eq_self_iff]
    intro hne
    simp [hlast _ (List.getLast?_eq_some_getLast hne)]

/-- A text with a character that another one does not have is not in it. -/
theorem isInfix_eq_false {sub s : String} {c : Char} (hsub : c ∈ sub.toList) (hs : c ∉ s.toList) :
    isInfix sub s = false := by
  unfold isInfix
  rw [List.any_eq_false]
  intro tail htail hprefix
  exact hs (((List.mem_tails _ _).mp htail).mem ((List.isPrefixOf_iff_prefix.mp hprefix).mem hsub))

/-- Trimming the end leaves a front that ends with a character that stays. -/
theorem prefix_rdropWhile {α : Type} {p : α → Bool} {front l : List α} {d : α}
    (hlast : front.getLast? = some d) (hd : p d = false) (hl : front <+: l) :
    front <+: l.rdropWhile p := by
  obtain ⟨s, rfl⟩ := hl
  induction s using List.reverseRecOn with
  | nil =>
    obtain ⟨init, rfl⟩ := List.getLast?_eq_some_iff.mp hlast
    have hkeep : (init ++ [d]).rdropWhile p = init ++ [d] :=
      List.rdropWhile_concat_neg _ _ _ (by rw [hd]; exact Bool.false_ne_true)
    exact ⟨[], by rw [List.append_nil, hkeep]⟩
  | append_singleton s x ih =>
    rw [← List.append_assoc, List.rdropWhile_concat]
    split
    · exact ih
    · rw [List.append_assoc]
      exact List.prefix_append _ _

/-- Trimming both ends leaves a front that begins and ends with characters that stay. -/
theorem prefix_trim {α : Type} {p : α → Bool} {front l : List α} {c d : α}
    (hhead : front.head? = some c) (hlast : front.getLast? = some d) (hc : p c = false)
    (hd : p d = false) (hl : front <+: l) : front <+: (l.dropWhile p).rdropWhile p := by
  have hdrop : l.dropWhile p = l := by
    obtain ⟨mid, rfl⟩ := List.head?_eq_some_iff.mp hhead
    obtain ⟨s, rfl⟩ := hl
    rw [List.cons_append, List.dropWhile_cons_of_neg (by rw [hc]; exact Bool.false_ne_true)]
  rw [hdrop]
  exact prefix_rdropWhile hlast hd hl

/-- Stripping the end of a string twice strips it once. -/
@[simp] theorem rstrip_rstrip (s : String) : rstrip (rstrip s) = rstrip s := by
  simp only [rstrip, String.toList_ofList]
  rw [List.rdropWhile_idempotent]

/-- Stripping twice strips once. -/
@[simp] theorem strip_strip (s : String) : strip (strip s) = strip s := by
  have hfront : ∀ cs : List Char,
      ((cs.dropWhile isSpace).rdropWhile isSpace).dropWhile isSpace =
        (cs.dropWhile isSpace).rdropWhile isSpace := by
    intro cs
    cases hdrop : (cs.dropWhile isSpace).rdropWhile isSpace with
    | nil => rfl
    | cons c rest =>
      obtain ⟨after, hafter⟩ := List.rdropWhile_prefix isSpace (l := cs.dropWhile isSpace)
      rw [hdrop] at hafter
      have hhead : (cs.dropWhile isSpace).head? = some c := by simp [← hafter]
      rw [List.dropWhile_cons_of_neg]
      have hnot := List.head?_dropWhile_not isSpace cs
      rw [hhead] at hnot
      simpa using hnot
  simp only [strip, String.toList_ofList]
  rw [hfront, List.rdropWhile_idempotent]

end LcpGateway.Base
