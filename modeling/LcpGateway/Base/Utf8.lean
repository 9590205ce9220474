import Mathlib.Data.UInt

/-!
# UTF-8 with replacement

Library `Base`. The decoding `bytes.decode("utf-8", errors="replace")`: every longest beginning of
a sequence that breaks off is read as one replacement character. The decoder is a machine over
single bytes. An ASCII byte always finds it between two characters again, so that texts can be
taken apart at line ends before or after decoding.
-/

namespace LcpGateway.Base.Utf8

/-- A sequence that has begun: the bytes owed behind the next one, the range of the next one, and
the bits read so far. What continues a sequence is never ASCII. -/
structure Pending where
  owed : Nat
  lo : Nat
  hi : Nat
  bits : Nat
  continues : 0x80 ≤ lo

/-- The replacement character. -/
def replacement : Char := '\uFFFD'

/-- What a byte between characters yields: a character, or a sequence that begins. -/
def start (b : Nat) : List Char × Option Pending :=
  if b < 0x80 then ([Char.ofNat b], none)
  else if b < 0xC2 then ([replacement], none)
  else if b < 0xE0 then ([], some ⟨0, 0x80, 0xBF, b - 0xC0, le_rfl⟩)
  -- the first continuation byte excludes overlong forms, surrogates and what is above U+10FFFF
  else if b = 0xE0 then ([], some ⟨1, 0xA0, 0xBF, 0, by decide⟩)
  else if b = 0xED then ([], some ⟨1, 0x80, 0x9F, 0xD, le_rfl⟩)
  else if b < 0xF0 then ([], some ⟨1, 0x80, 0xBF, b - 0xE0, le_rfl⟩)
  else if b = 0xF0 then ([], some ⟨2, 0x90, 0xBF, 0, by decide⟩)
  else if b < 0xF4 then ([], some ⟨2, 0x80, 0xBF, b - 0xF0, le_rfl⟩)
  else if b = 0xF4 then ([], some ⟨2, 0x80, 0x8F, 4, le_rfl⟩)
  else ([replacement], none)

/-- One byte: the characters that are finished, and the sequence that is left. -/
def feed : Option Pending → Nat → List Char × Option Pending
  | none, b => start b
  | some p, b =>
    if p.lo ≤ b ∧ b ≤ p.hi then
      let bits := p.bits * 64 + b % 64
      if p.owed = 0 then ([Char.ofNat bits], none)
      else ([], some ⟨p.owed - 1, 0x80, 0xBF, bits, le_rfl⟩)
    else (replacement :: (start b).1, (start b).2)

/-- The characters of the bytes behind a sequence that has begun. -/
def decodeFrom : Option Pending → List UInt8 → List Char
  | none, [] => []
  | some _, [] => [replacement]
  | p, b :: rest => (feed p b.toNat).1 ++ decodeFrom (feed p b.toNat).2 rest

/-- `raw.decode("utf-8", errors="replace")`. -/
def decode (raw : List UInt8) : String := String.ofList (decodeFrom none raw)

/-- The bytes of an ASCII text. -/
def ascii (s : String) : List UInt8 := s.toList.map fun c ↦ UInt8.ofNat c.toNat

@[simp] theorem decodeFrom_cons (p : Option Pending) (b : UInt8) (rest : List UInt8) :
    decodeFrom p (b :: rest) = (feed p b.toNat).1 ++ decodeFrom (feed p b.toNat).2 rest := by
  cases p <;> rfl

/-- An ASCII byte ends what has begun, and is a character. -/
theorem feed_ascii (p : Option Pending) {b : UInt8} (h : b.toNat < 0x80) :
    feed p b.toNat = (decodeFrom p [] ++ [Char.ofNat b.toNat], none) := by
  have hstart : start b.toNat = ([Char.ofNat b.toNat], none) := if_pos h
  cases p with
  | none => exact hstart
  | some p =>
    have hrange : ¬ (p.lo ≤ b.toNat ∧ b.toNat ≤ p.hi) := by
      have hcontinues := p.continues
      omega
    rw [feed, if_neg hrange, hstart]
    rfl

/-- Decoding is taken apart at an ASCII byte. -/
theorem decodeFrom_append_ascii (p : Option Pending) (before behind : List UInt8) {b : UInt8}
    (h : b.toNat < 0x80) :
    decodeFrom p (before ++ b :: behind) =
      decodeFrom p before ++ Char.ofNat b.toNat :: decodeFrom none behind := by
  induction before generalizing p with
  | nil => simp [feed_ascii p h]
  | cons first rest ih =>
    rw [List.cons_append, decodeFrom_cons, decodeFrom_cons, ih, List.append_assoc]

-- a euro sign, and one that breaks off
example : decodeFrom none [0xE2, 0x82, 0xAC, 0xE2, 0x82, 0x41] = ['€', replacement, 'A'] := by
  decide

/-- An ASCII text is read back. -/
theorem decode_ascii {s : String} (h : (s.toList.all fun c ↦ decide (c.toNat < 0x80)) = true) :
    decode (ascii s) = s := by
  have hchars : ∀ cs : List Char, (∀ c ∈ cs, c.toNat < 0x80) →
      decodeFrom none (cs.map fun c ↦ UInt8.ofNat c.toNat) = cs := by
    intro cs hcs
    induction cs with
    | nil => rfl
    | cons c rest ih =>
      rw [List.forall_mem_cons] at hcs
      have hbyte : (UInt8.ofNat c.toNat).toNat = c.toNat := by
        rw [UInt8.toNat_ofNat']
        omega
      have hascii : (UInt8.ofNat c.toNat).toNat < 0x80 := by
        rw [hbyte]
        exact hcs.1
      rw [List.map_cons, decodeFrom_cons, feed_ascii none hascii, hbyte, Char.ofNat_toNat,
        ih hcs.2]
      rfl
  have hascii : ∀ c ∈ s.toList, c.toNat < 0x80 := by
    intro c hc
    exact of_decide_eq_true (List.all_eq_true.mp h c hc)
  rw [decode, ascii, hchars s.toList hascii, String.ofList_toList]

/-- A byte in the range of what has begun, when more is owed behind it. -/
theorem feed_more {p : Pending} {b : Nat} (hrange : p.lo ≤ b ∧ b ≤ p.hi) {n : Nat}
    (howed : p.owed = n + 1) :
    feed (some p) b = ([], some ⟨n, 0x80, 0xBF, p.bits * 64 + b % 64, le_rfl⟩) := by
  simp [feed, hrange, howed]

/-- The last byte of a sequence. -/
theorem feed_last {p : Pending} {b : Nat} (hrange : p.lo ≤ b ∧ b ≤ p.hi) (howed : p.owed = 0) :
    feed (some p) b = ([Char.ofNat (p.bits * 64 + b % 64)], none) := by
  simp [feed, hrange, howed]

/-- The byte in front of one more. -/
theorem start_two {b : Nat} (h : 0xC2 ≤ b ∧ b < 0xE0) :
    start b = ([], some ⟨0, 0x80, 0xBF, b - 0xC0, le_rfl⟩) := by
  rw [start, if_neg (by omega), if_neg (by omega), if_pos h.2]

/-- The byte in front of two more, when the next one keeps overlong forms and surrogates out. -/
theorem start_three (b second : Nat) (h : 0xE0 ≤ b ∧ b < 0xF0)
    (hsecond : 0x80 ≤ second ∧ second ≤ 0xBF) (hoverlong : b = 0xE0 → 0xA0 ≤ second)
    (hsurrogate : b = 0xED → second ≤ 0x9F) :
    ∃ p, start b = ([], some p) ∧ (p.lo ≤ second ∧ second ≤ p.hi) ∧ p.owed = 1 ∧
      p.bits = b - 0xE0 := by
  by_cases he0 : b = 0xE0
  · exact ⟨⟨1, 0xA0, 0xBF, 0, by decide⟩, by simp [start, he0], ⟨hoverlong he0, hsecond.2⟩, rfl,
      by rw [he0]⟩
  by_cases hed : b = 0xED
  · exact ⟨⟨1, 0x80, 0x9F, 0xD, le_rfl⟩, by simp [start, hed], ⟨hsecond.1, hsurrogate hed⟩, rfl,
      by rw [hed]⟩
  · refine ⟨⟨1, 0x80, 0xBF, b - 0xE0, le_rfl⟩, ?_, hsecond, rfl, rfl⟩
    rw [start, if_neg (by omega), if_neg (by omega), if_neg (by omega), if_neg he0, if_neg hed,
      if_pos h.2]

/-- The byte in front of three more, when the next one stays within the code points. -/
theorem start_four (b second : Nat) (h : 0xF0 ≤ b ∧ b ≤ 0xF4)
    (hsecond : 0x80 ≤ second ∧ second ≤ 0xBF) (hoverlong : b = 0xF0 → 0x90 ≤ second)
    (hlarge : b = 0xF4 → second ≤ 0x8F) :
    ∃ p, start b = ([], some p) ∧ (p.lo ≤ second ∧ second ≤ p.hi) ∧ p.owed = 2 ∧
      p.bits = b - 0xF0 := by
  by_cases hf0 : b = 0xF0
  · exact ⟨⟨2, 0x90, 0xBF, 0, by decide⟩, by simp [start, hf0], ⟨hoverlong hf0, hsecond.2⟩, rfl,
      by rw [hf0]⟩
  by_cases hf4 : b = 0xF4
  · exact ⟨⟨2, 0x80, 0x8F, 4, le_rfl⟩, by simp [start, hf4], ⟨hsecond.1, hlarge hf4⟩, rfl,
      by rw [hf4]⟩
  · refine ⟨⟨2, 0x80, 0xBF, b - 0xF0, le_rfl⟩, ?_, hsecond, rfl, rfl⟩
    rw [start, if_neg (by omega), if_neg (by omega), if_neg (by omega), if_neg (by omega),
      if_neg (by omega), if_neg (by omega), if_neg hf0, if_pos (by omega)]

/-- The encoding of a character is read back, whatever stands behind it. -/
theorem decodeFrom_encodeChar (c : Char) (rest : List UInt8) :
    decodeFrom none (String.utf8EncodeChar c ++ rest) = c :: decodeFrom none rest := by
  have hvalid : c.val.toNat < 0xD800 ∨ 0xDFFF < c.val.toNat ∧ c.val.toNat < 0x110000 := c.valid
  have hbyte : ∀ {n : Nat}, n < 256 → (UInt8.ofNat n).toNat = n := by
    intro n hn
    rw [UInt8.toNat_ofNat']
    exact Nat.mod_eq_of_lt hn
  have hback : ∀ {n : Nat}, n = c.val.toNat → Char.ofNat n = c := by
    rintro n rfl
    exact Char.ofNat_toNat c
  unfold String.utf8EncodeChar
  generalize hv : c.val.toNat = v at hvalid hback ⊢
  dsimp only
  split_ifs with hone htwo hthree
  · rw [List.cons_append, List.nil_append, decodeFrom_cons, hbyte (by omega),
      feed, start, if_pos (by omega), hback rfl]
    rfl
  · have hsecond : 0x80 ≤ v % 0x40 + 0x80 ∧ v % 0x40 + 0x80 ≤ 0xBF := by omega
    rw [List.cons_append, decodeFrom_cons, hbyte (by omega), feed, start_two (by omega),
      List.cons_append, decodeFrom_cons, hbyte (by omega), feed_last hsecond rfl,
      hback (by simp only; omega)]
    rfl
  · obtain ⟨p, hstart, hrange, howed, hbits⟩ :=
      start_three (v / 4096 % 0x10 + 0xe0) (v / 64 % 0x40 + 0x80) (by omega) (by omega) (by omega)
        (by omega)
    have hlast : 0x80 ≤ v % 0x40 + 0x80 ∧ v % 0x40 + 0x80 ≤ 0xBF := by omega
    rw [List.cons_append, decodeFrom_cons, hbyte (by omega), feed, hstart,
      List.cons_append, decodeFrom_cons, hbyte (by omega), feed_more hrange howed,
      List.cons_append, decodeFrom_cons, hbyte (by omega), feed_last hlast rfl,
      hback (by simp only [hbits]; omega)]
    rfl
  · obtain ⟨p, hstart, hrange, howed, hbits⟩ :=
      start_four (v / 262144 % 0x08 + 0xf0) (v / 4096 % 0x40 + 0x80) (by omega) (by omega)
        (by omega) (by omega)
    have hthird : 0x80 ≤ v / 64 % 0x40 + 0x80 ∧ v / 64 % 0x40 + 0x80 ≤ 0xBF := by omega
    have hlast : 0x80 ≤ v % 0x40 + 0x80 ∧ v % 0x40 + 0x80 ≤ 0xBF := by omega
    rw [List.cons_append, decodeFrom_cons, hbyte (by omega), feed, hstart,
      List.cons_append, decodeFrom_cons, hbyte (by omega), feed_more hrange howed,
      List.cons_append, decodeFrom_cons, hbyte (by omega), feed_more hthird rfl,
      List.cons_append, decodeFrom_cons, hbyte (by omega), feed_last hlast rfl,
      hback (by simp only [hbits]; omega)]
    rfl

/-- The encoding of a text is read back, whatever stands behind it. -/
theorem decodeFrom_encode (cs : List Char) (rest : List UInt8) :
    decodeFrom none (cs.flatMap String.utf8EncodeChar ++ rest) = cs ++ decodeFrom none rest := by
  induction cs with
  | nil => rfl
  | cons c cs ih =>
    rw [List.flatMap_cons, List.append_assoc, decodeFrom_encodeChar, ih, List.cons_append]

end LcpGateway.Base.Utf8
