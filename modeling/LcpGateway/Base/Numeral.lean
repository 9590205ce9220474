import LcpGateway.Base.Number

/-!
# Decimal numerals

Library `Base`. `int(str(n))` gives `n` back when `n` has at most as many digits as the interpreter
reads, and is a `ValueError` when it has more.
-/

namespace LcpGateway.Base

/-- A digit is read as its value. -/
theorem digitValue_of_isDigit {c : Char} (h : c.isDigit = true) :
    digitValue c = some (c.toNat - 48) := by
  obtain ⟨hlow, hhigh⟩ : 48 ≤ c.toNat ∧ c.toNat ≤ 57 := by
    simpa [Char.isDigit, UInt32.le_iff_toNat_le] using h
  have hin : 48 ≤ c.toNat ∧ c.toNat < 58 := by omega
  simp [digitValue, decimalZeros, hin]

/-- A digit is no white space. -/
theorem isSpace_of_isDigit {c : Char} (h : c.isDigit = true) : isSpace c = false := by
  obtain ⟨hlow, hhigh⟩ : 48 ≤ c.toNat ∧ c.toNat ≤ 57 := by
    simpa [Char.isDigit, UInt32.le_iff_toNat_le] using h
  simp only [isSpace, Bool.or_eq_false_iff, Bool.and_eq_false_iff, decide_eq_false_iff_not,
    beq_eq_false_iff_ne]
  omega

/-- Digits are read one by one. -/
theorem numeralDigits_of_isDigit {cs : List Char} (hne : cs ≠ [])
    (h : ∀ c ∈ cs, c.isDigit = true) :
    numeralDigits cs = some (cs.map (fun c ↦ c.toNat - 48)) := by
  induction cs with
  | nil => exact absurd rfl hne
  | cons c rest ih =>
    rw [List.forall_mem_cons] at h
    cases rest with
    | nil => simp [numeralDigits, digitValue_of_isDigit h.1]
    | cons d rest =>
      have hd : d ≠ '_' := by
        rintro rfl
        exact absurd (h.2 '_' List.mem_cons_self) (by decide)
      have hrest := ih (List.cons_ne_nil d rest) h.2
      rw [numeralDigits, digitValue_of_isDigit h.1, hrest]
      · rfl
      · simp
      · simpa using hd

/-- The digits of a number make it up. -/
theorem foldl_toDigits (n : Nat) :
    ((Nat.toDigits 10 n).map (fun c ↦ c.toNat - 48)).foldl (fun n d ↦ 10 * n + d) 0 = n := by
  rw [List.foldl_map]
  exact Nat.ofDigitChars_ten_toDigits

/-- A text without white space is its own stripping. -/
theorem strip_eq_self {s : String} (h : ∀ c ∈ s.toList, isSpace c = false) : strip s = s :=
  (strip_eq_self_iff s).mpr ⟨fun c hc ↦ h c (List.mem_of_mem_head? hc),
    fun c hc ↦ h c (List.mem_of_mem_getLast? hc)⟩

/-- A number is read back from its decimal text unless it has too many digits. -/
theorem intOfStr_repr (n : Nat) :
    intOfStr n.repr = if n < 10 ^ 4300 then some (n : Int) else none := by
  have hdigits : ∀ c ∈ Nat.toDigits 10 n, c.isDigit = true :=
    fun c hc ↦ Nat.isDigit_of_mem_toDigits (by norm_num) (by norm_num) hc
  have hstrip : strip n.repr = n.repr := by
    refine strip_eq_self ?_
    rw [Nat.toList_repr]
    exact fun c hc ↦ isSpace_of_isDigit (hdigits c hc)
  have hvalue : numeralValue (Nat.toDigits 10 n) = if n < 10 ^ 4300 then some n else none := by
    rw [numeralValue, numeralDigits_of_isDigit Nat.toDigits_ne_nil hdigits]
    dsimp only
    rw [List.length_map, foldl_toDigits]
    have hlimit : ∀ k, 0 < k → ((Nat.toDigits 10 n).length ≤ k ↔ n < 10 ^ k) :=
      fun k hk ↦ Nat.length_toDigits_le_iff (by norm_num) hk
    simp only [hlimit 4300 (by norm_num)]
  unfold intOfStr
  rw [hstrip, Nat.toList_repr]
  split
  · next cs hcs =>
    exact absurd (hdigits '-' (hcs ▸ List.mem_cons_self)) (by decide)
  · next cs hcs =>
    exact absurd (hdigits '+' (hcs ▸ List.mem_cons_self)) (by decide)
  · rw [hvalue]
    split_ifs <;> rfl

end LcpGateway.Base
