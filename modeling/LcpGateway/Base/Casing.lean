import LcpGateway.Base.Text

/-!
# Casing, stripping and segments

Library `Base`. How the string methods compose: lowering keeps white space and separators where
they are, so it commutes with stripping and with taking the last segment.
-/

namespace LcpGateway.Base

/-! ### Lowering one character -/

private theorem toNat_toLower (c : Char) :
    c.toLower.toNat = if 65 ≤ c.toNat ∧ c.toNat ≤ 90 then c.toNat + 32 else c.toNat := by
  have hiff : (c.val ≥ 'A'.val ∧ c.val ≤ 'Z'.val) ↔ 65 ≤ c.toNat ∧ c.toNat ≤ 90 := by
    simp only [ge_iff_le, UInt32.le_iff_toNat_le]
    rfl
  unfold Char.toLower
  split
  · next h =>
    have hrange := hiff.mp h
    rw [if_pos hrange]
    change (c.val + 32).toNat = c.val.toNat + 32
    rw [UInt32.toNat_add, Nat.mod_eq_of_lt]
    · rfl
    · change c.toNat + 32 < 4294967296
      omega
  · next h => rw [if_neg fun hrange ↦ h (hiff.mpr hrange)]

/-- A lowered character is lowered already. -/
@[simp] theorem lowerChar_lowerChar (c : Char) : lowerChar (lowerChar c) = lowerChar c := by
  unfold lowerChar
  split
  · decide
  · next h =>
    have hlower := toNat_toLower c
    have hkelvin : c.toLower.toNat ≠ 0x212a := by
      split at hlower <;> omega
    rw [if_neg hkelvin]
    apply Char.toNat_inj.mp
    have htwice := toNat_toLower c.toLower
    split at hlower <;> split at htwice <;> omega

/-- Lowering a character keeps it inside or outside a set of characters without letters. -/
theorem toNat_lowerChar_cases (c : Char) :
    (lowerChar c).toNat = c.toNat ∨
      (97 ≤ (lowerChar c).toNat ∧ (lowerChar c).toNat ≤ 122 ∧
        (65 ≤ c.toNat ∧ c.toNat ≤ 90 ∨ c.toNat = 0x212a)) := by
  unfold lowerChar
  split
  · next h =>
    right
    exact ⟨by decide, by decide, .inr h⟩
  · rw [toNat_toLower]
    split
    · omega
    · exact .inl rfl

/-- White space is white space in lower case, and nothing else is. -/
@[simp] theorem isSpace_lowerChar (c : Char) : isSpace (lowerChar c) = isSpace c := by
  obtain h | ⟨hlow, hhigh, hc⟩ := toNat_lowerChar_cases c
  · unfold isSpace
    rw [h]
  · have hleft : isSpace (lowerChar c) = false := by
      simp only [isSpace, Bool.or_eq_false_iff, Bool.and_eq_false_iff, decide_eq_false_iff_not,
        beq_eq_false_iff_ne]
      omega
    have hright : isSpace c = false := by
      simp only [isSpace, Bool.or_eq_false_iff, Bool.and_eq_false_iff, decide_eq_false_iff_not,
        beq_eq_false_iff_ne]
      omega
    rw [hleft, hright]

/-- Only a slash is a slash in lower case. -/
theorem lowerChar_eq_slash_iff (c : Char) : lowerChar c = '/' ↔ c = '/' := by
  have hnat : ∀ d : Char, d = '/' ↔ d.toNat = 47 := by
    intro d
    constructor
    · rintro rfl
      rfl
    · exact fun h ↦ Char.toNat_inj.mp h
  rw [hnat, hnat]
  have hcases := toNat_lowerChar_cases c
  omega

/-! ### Lowering a string -/

/-- A lowered string is lowered already. -/
@[simp] theorem lower_lower (s : String) : lower (lower s) = lower s := by
  simp [lower, Function.comp_def]

@[simp] theorem lower_empty : lower "" = "" := rfl

/-- Only the empty string is empty in lower case. -/
@[simp] theorem lower_eq_empty_iff {s : String} : lower s = "" ↔ s = "" := by
  rw [← String.toList_eq_nil_iff, lower, String.toList_ofList, List.map_eq_nil_iff,
    String.toList_eq_nil_iff]

private theorem dropWhile_map_lowerChar (cs : List Char) :
    (cs.map lowerChar).dropWhile isSpace = (cs.dropWhile isSpace).map lowerChar := by
  rw [List.dropWhile_map]
  simp [Function.comp_def]

private theorem rdropWhile_map_lowerChar (cs : List Char) :
    (cs.map lowerChar).rdropWhile isSpace = (cs.rdropWhile isSpace).map lowerChar := by
  rw [List.rdropWhile, ← List.map_reverse, dropWhile_map_lowerChar, ← List.map_reverse]
  rfl

/-- Stripping commutes with lowering. -/
theorem strip_lower (s : String) : strip (lower s) = lower (strip s) := by
  simp [strip, lower, dropWhile_map_lowerChar, rdropWhile_map_lowerChar]

/-- The characters of a stripped string. -/
theorem mem_toList_strip {s : String} {c : Char} (h : c ∈ (strip s).toList) : c ∈ s.toList := by
  rw [strip, String.toList_ofList] at h
  exact (List.dropWhile_sublist _).subset ((List.rdropWhile_prefix isSpace _).subset h)

/-- Stripping makes nothing longer. -/
theorem length_strip_le (s : String) : (strip s).toList.length ≤ s.toList.length := by
  rw [strip, String.toList_ofList]
  exact (List.rdropWhile_prefix isSpace _).length_le.trans (List.dropWhile_sublist _).length_le

/-- A last segment has no separator. -/
theorem not_mem_lastSegment (sep : Char) (s : String) : sep ∉ (lastSegment sep s).toList := by
  rw [lastSegment, String.toList_ofList]
  intro h
  simpa using List.mem_rtakeWhile_imp h

end LcpGateway.Base
