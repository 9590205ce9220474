import LcpGateway.Base.Utf8

/-!
# Percent coding

Library `Base`. What a page writes into an address with `encodeURIComponent`, and what
`urllib.parse.unquote` reads back: the ASCII stretches of the text lose their escapes and are
decoded as UTF-8 with replacement, everything else is kept. Every text is read back as it was
written, and a written text holds no separator of an address.
-/

namespace LcpGateway.Base.Percent

/-- A digit of an escape, as it is written. -/
def hexDigit (n : Nat) : Char := Char.ofNat (if n < 10 then 48 + n else 55 + n)

/-- A digit of an escape, as it is read: of either case. -/
def hexValue (c : Char) : Option Nat :=
  if '0' ≤ c ∧ c ≤ '9' then some (c.toNat - 48)
  else if 'A' ≤ c ∧ c ≤ 'F' then some (c.toNat - 55)
  else if 'a' ≤ c ∧ c ≤ 'f' then some (c.toNat - 87)
  else none

/-- The escape of a byte. -/
def escape (b : UInt8) : List Char := ['%', hexDigit (b.toNat / 16), hexDigit (b.toNat % 16)]

/-- The characters `encodeURIComponent` leaves as they are. -/
def isUnreserved (c : Char) : Bool :=
  c.isAlphanum || ['-', '_', '.', '!', '~', '*', '\'', '(', ')'].contains c

/-- One character as `encodeURIComponent` writes it. -/
def encodeChar (c : Char) : List Char :=
  if isUnreserved c then [c] else (String.utf8EncodeChar c).flatMap escape

/-- `encodeURIComponent(s)`. -/
def encodeURIComponent (s : String) : String := String.ofList (s.toList.flatMap encodeChar)

/-- `unquote_to_bytes` on an ASCII text: an escape is its byte, and a percent sign that begins
none is itself. -/
def unquoteToBytes : List Char → List UInt8
  | '%' :: a :: b :: rest =>
    match hexValue a, hexValue b with
    | some hi, some lo => UInt8.ofNat (16 * hi + lo) :: unquoteToBytes rest
    | _, _ => UInt8.ofNat '%'.toNat :: unquoteToBytes (a :: b :: rest)
  | c :: rest => UInt8.ofNat c.toNat :: unquoteToBytes rest
  | [] => []

/-- `_generate_unquoted_parts`, with the ASCII stretch read so far, reversed. -/
def unquoteParts (run : List Char) : List Char → List Char
  | [] => Utf8.decodeFrom none (unquoteToBytes run.reverse)
  | c :: rest =>
    if c.toNat < 0x80 then unquoteParts (c :: run) rest
    else Utf8.decodeFrom none (unquoteToBytes run.reverse) ++ c :: unquoteParts [] rest

/-- `unquote(s)`; a text without a percent sign is returned at once. -/
def unquote (s : String) : String :=
  if '%' ∈ s.toList then String.ofList (unquoteParts [] s.toList) else s

/-- A character other than a percent sign is its byte. -/
theorem unquoteToBytes_cons {c : Char} (h : c ≠ '%') (rest : List Char) :
    unquoteToBytes (c :: rest) = UInt8.ofNat c.toNat :: unquoteToBytes rest := by
  rw [unquoteToBytes.eq_def]
  split <;> simp_all

/-- Without percent signs every character is its byte. -/
theorem unquoteToBytes_of_noPercent {cs : List Char} (h : '%' ∉ cs) :
    unquoteToBytes cs = cs.map fun c ↦ UInt8.ofNat c.toNat := by
  induction cs with
  | nil => rfl
  | cons c rest ih =>
    rw [List.mem_cons, not_or] at h
    rw [unquoteToBytes_cons (Ne.symm h.1), ih h.2, List.map_cons]

/-- An ASCII stretch grows by an ASCII text. -/
theorem unquoteParts_ascii (run : List Char) {cs : List Char} (h : ∀ c ∈ cs, c.toNat < 0x80) :
    unquoteParts run cs = Utf8.decodeFrom none (unquoteToBytes (run.reverse ++ cs)) := by
  induction cs generalizing run with
  | nil => rw [unquoteParts, List.append_nil]
  | cons c rest ih =>
    rw [List.forall_mem_cons] at h
    rw [unquoteParts, if_pos h.1, ih (c :: run) h.2, List.reverse_cons, List.append_assoc,
      List.singleton_append]

/-- A byte is read back from its escape. -/
theorem unquoteToBytes_escape (b : UInt8) (rest : List Char) :
    unquoteToBytes (escape b ++ rest) = b :: unquoteToBytes rest := by
  have hdigit : ∀ n < 16, hexValue (hexDigit n) = some n := by decide
  have hb : b.toNat < 256 := UInt8.toNat_lt b
  have hhi := hdigit (b.toNat / 16) (by omega)
  have hlo := hdigit (b.toNat % 16) (by omega)
  rw [escape, List.cons_append, List.cons_append, List.cons_append, List.nil_append,
    unquoteToBytes, hhi, hlo]
  have hbyte : 16 * (b.toNat / 16) + b.toNat % 16 = b.toNat := by omega
  simp only [hbyte, UInt8.ofNat_toNat]

/-- Bytes are read back from their escapes. -/
theorem unquoteToBytes_escapes (bs : List UInt8) (rest : List Char) :
    unquoteToBytes (bs.flatMap escape ++ rest) = bs ++ unquoteToBytes rest := by
  induction bs with
  | nil => rfl
  | cons b bs ih =>
    rw [List.flatMap_cons, List.append_assoc, unquoteToBytes_escape, ih, List.cons_append]

/-- What is left as it is, is ASCII. -/
theorem isUnreserved_ascii {c : Char} (h : isUnreserved c = true) : c.toNat < 0x80 := by
  rw [isUnreserved, Bool.or_eq_true] at h
  rcases h with halnum | hmark
  · have hcases : ((c.isUpper || c.isLower) || c.isDigit) = true := halnum
    simp only [Bool.or_eq_true] at hcases
    rcases hcases with (hupper | hlower) | hdigit
    · have hle : c.val ≤ 'Z'.val := (of_decide_eq_true hupper).2
      exact lt_of_le_of_lt (UInt32.le_iff_toNat_le.mp hle) (by decide)
    · have hle : c.val ≤ 'z'.val := of_decide_eq_true (Bool.and_eq_true_iff.mp hlower).2
      exact lt_of_le_of_lt (UInt32.le_iff_toNat_le.mp hle) (by decide)
    · have hle : c.val ≤ '9'.val := of_decide_eq_true (Bool.and_eq_true_iff.mp hdigit).2
      exact lt_of_le_of_lt (UInt32.le_iff_toNat_le.mp hle) (by decide)
  · simp only [List.contains_iff_mem, List.mem_cons, List.not_mem_nil, or_false] at hmark
    rcases hmark with rfl | rfl | rfl | rfl | rfl | rfl | rfl | rfl | rfl <;> decide

/-- A digit of an escape is a character that is left as it is. -/
theorem isUnreserved_hexDigit {n : Nat} (h : n < 16) : isUnreserved (hexDigit n) = true := by
  have hall : ∀ n < 16, isUnreserved (hexDigit n) = true := by decide
  exact hall n h

/-- What is written is a percent sign or left as it is. -/
theorem mem_encodeChar {c d : Char} (h : d ∈ encodeChar c) : d = '%' ∨ isUnreserved d = true := by
  rw [encodeChar] at h
  split_ifs at h with hc
  · rw [List.mem_singleton] at h
    exact Or.inr (h ▸ hc)
  · obtain ⟨b, -, hd⟩ := List.mem_flatMap.mp h
    have hb : b.toNat < 256 := UInt8.toNat_lt b
    simp only [escape, List.mem_cons, List.not_mem_nil, or_false] at hd
    rcases hd with rfl | rfl | rfl
    · exact Or.inl rfl
    · exact Or.inr (isUnreserved_hexDigit (by omega))
    · exact Or.inr (isUnreserved_hexDigit (by omega))

/-- What is written is a percent sign or left as it is. -/
theorem mem_encodeURIComponent {s : String} {d : Char} (h : d ∈ (encodeURIComponent s).toList) :
    d = '%' ∨ isUnreserved d = true := by
  rw [encodeURIComponent, String.toList_ofList] at h
  obtain ⟨c, -, hd⟩ := List.mem_flatMap.mp h
  exact mem_encodeChar hd

/-- A written text holds no character that is escaped, but for the percent sign. -/
theorem not_mem_encodeURIComponent (s : String) {d : Char} (hd : d ≠ '%')
    (hreserved : isUnreserved d = false) : d ∉ (encodeURIComponent s).toList := by
  intro hmem
  rcases mem_encodeURIComponent hmem with h | h
  · exact hd h
  · rw [hreserved] at h
    exact Bool.false_ne_true h

/-- The byte of an ASCII character. -/
theorem utf8EncodeChar_ascii {c : Char} (h : c.toNat < 0x80) :
    String.utf8EncodeChar c = [UInt8.ofNat c.toNat] := by
  have hle : c.val.toNat ≤ 0x7f := Nat.le_of_lt_succ h
  simp only [String.utf8EncodeChar, hle, if_true]
  rfl

/-- The bytes of a character are read back from what is written for it. -/
theorem unquoteToBytes_encodeChar (c : Char) (rest : List Char) :
    unquoteToBytes (encodeChar c ++ rest) = String.utf8EncodeChar c ++ unquoteToBytes rest := by
  rw [encodeChar]
  split_ifs with hc
  · have hascii := isUnreserved_ascii hc
    have hne : c ≠ '%' := by
      rintro rfl
      exact absurd hc (by decide)
    rw [List.singleton_append, unquoteToBytes_cons hne, utf8EncodeChar_ascii hascii,
      List.singleton_append]
  · exact unquoteToBytes_escapes _ rest

/-- The bytes of a text are read back from what is written for it. -/
theorem unquoteToBytes_encode (cs : List Char) :
    unquoteToBytes (cs.flatMap encodeChar) = cs.flatMap String.utf8EncodeChar := by
  induction cs with
  | nil => rfl
  | cons c cs ih => rw [List.flatMap_cons, unquoteToBytes_encodeChar, ih, List.flatMap_cons]

/-- A written text is ASCII. -/
theorem encode_ascii {cs : List Char} {d : Char} (h : d ∈ cs.flatMap encodeChar) :
    d.toNat < 0x80 := by
  obtain ⟨c, -, hd⟩ := List.mem_flatMap.mp h
  rcases mem_encodeChar hd with rfl | hd
  · decide
  · exact isUnreserved_ascii hd

/-- The bytes of an ASCII text. -/
theorem encode_of_ascii {cs : List Char} (h : ∀ c ∈ cs, c.toNat < 0x80) :
    cs.flatMap String.utf8EncodeChar = cs.map fun c ↦ UInt8.ofNat c.toNat := by
  induction cs with
  | nil => rfl
  | cons c rest ih =>
    rw [List.forall_mem_cons] at h
    rw [List.flatMap_cons, utf8EncodeChar_ascii h.1, ih h.2, List.map_cons, List.singleton_append]

/-- Without percent signs nothing changes. -/
theorem unquoteParts_of_noPercent {run cs : List Char} (hascii : ∀ c ∈ run, c.toNat < 0x80)
    (hrun : '%' ∉ run) (hcs : '%' ∉ cs) : unquoteParts run cs = run.reverse ++ cs := by
  have hend : ∀ run : List Char, (∀ c ∈ run, c.toNat < 0x80) → '%' ∉ run →
      Utf8.decodeFrom none (unquoteToBytes run.reverse) = run.reverse := by
    intro run hascii hrun
    have hback := Utf8.decodeFrom_encode run.reverse []
    rw [encode_of_ascii (fun c hc ↦ hascii c (List.mem_reverse.mp hc)), List.append_nil,
      Utf8.decodeFrom, List.append_nil] at hback
    rw [unquoteToBytes_of_noPercent (fun hmem ↦ hrun (List.mem_reverse.mp hmem)), hback]
  induction cs generalizing run with
  | nil => rw [unquoteParts, hend run hascii hrun, List.append_nil]
  | cons c rest ih =>
    rw [List.mem_cons, not_or] at hcs
    rw [unquoteParts]
    split_ifs with hc
    · have hgrown := ih (List.forall_mem_cons.mpr ⟨hc, hascii⟩)
        (fun hmem ↦ (List.mem_cons.mp hmem).elim hcs.1 hrun) hcs.2
      rw [hgrown, List.reverse_cons, List.append_assoc, List.singleton_append]
    · have hrest := ih (by simp : ∀ c ∈ ([] : List Char), c.toNat < 0x80) List.not_mem_nil hcs.2
      rw [hend run hascii hrun, hrest, List.reverse_nil, List.nil_append]

/-- The early return agrees with the decoding. -/
theorem unquote_eq (s : String) : unquote s = String.ofList (unquoteParts [] s.toList) := by
  rw [unquote]
  split_ifs with hpercent
  · rfl
  · have hkeep := unquoteParts_of_noPercent (by simp : ∀ c ∈ ([] : List Char), c.toNat < 0x80)
      List.not_mem_nil hpercent
    rw [hkeep, List.reverse_nil, List.nil_append, String.ofList_toList]

/-- Every text is read back as it was written. -/
theorem unquote_encodeURIComponent (s : String) : unquote (encodeURIComponent s) = s := by
  rw [unquote_eq, encodeURIComponent, String.toList_ofList,
    unquoteParts_ascii [] (fun d hd ↦ encode_ascii hd), List.reverse_nil, List.nil_append,
    unquoteToBytes_encode]
  have hback := Utf8.decodeFrom_encode s.toList []
  rw [List.append_nil] at hback
  rw [hback, Utf8.decodeFrom, List.append_nil, String.ofList_toList]

/-- Two texts are written differently. -/
theorem encodeURIComponent_injective : Function.Injective encodeURIComponent :=
  Function.LeftInverse.injective unquote_encodeURIComponent

/-- Writing makes no text shorter, and one with a character that is escaped longer. -/
theorem length_encode (cs : List Char) :
    cs.length ≤ (cs.flatMap encodeChar).length ∧
      ((cs.flatMap encodeChar).length = cs.length → ∀ c ∈ cs, isUnreserved c = true) := by
  induction cs with
  | nil => simp
  | cons c rest ih =>
    obtain ⟨hle, hkept⟩ := ih
    rw [List.flatMap_cons, List.length_append, List.length_cons]
    by_cases hc : isUnreserved c = true
    · rw [encodeChar, if_pos hc, List.length_singleton]
      refine ⟨by omega, fun hlength ↦ List.forall_mem_cons.mpr ⟨hc, hkept (by omega)⟩⟩
    · have hlong : 2 ≤ (encodeChar c).length := by
        obtain ⟨b, rest, hbytes⟩ :=
          List.exists_cons_of_ne_nil (String.utf8EncodeChar_ne_nil (c := c))
        rw [encodeChar, if_neg hc, hbytes, List.flatMap_cons, List.length_append]
        exact le_trans (by decide : 2 ≤ 3) (Nat.le_add_right _ _)
      exact ⟨by omega, fun hlength ↦ absurd hlength (by omega)⟩

/-- A text is written as it is exactly when all its characters are left as they are. -/
theorem encodeURIComponent_eq_self_iff (s : String) :
    encodeURIComponent s = s ↔ ∀ c ∈ s.toList, isUnreserved c = true := by
  rw [← String.toList_inj, encodeURIComponent, String.toList_ofList]
  constructor
  · intro h
    exact (length_encode s.toList).2 (congrArg List.length h)
  · intro h
    have hkept : ∀ cs : List Char, (∀ c ∈ cs, isUnreserved c = true) →
        cs.flatMap encodeChar = cs := by
      intro cs hcs
      induction cs with
      | nil => rfl
      | cons c rest ih =>
        rw [List.forall_mem_cons] at hcs
        rw [List.flatMap_cons, ih hcs.2, encodeChar, if_pos hcs.1, List.singleton_append]
    exact hkept s.toList h

end LcpGateway.Base.Percent
