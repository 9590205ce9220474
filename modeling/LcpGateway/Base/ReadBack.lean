import LcpGateway.Base.Dumps

/-!
# What a JSON text determines

Library `Base`. An escaped character is read back, so a quoted string ends at its own quote; a
scalar ends where its characters stop; and a list or an object ends at its own bracket. The text of
a value therefore determines the value, up to the order of keys.
-/

namespace LcpGateway.Base

/-! ### Strings -/

/-- The value of a hexadecimal digit. -/
def hexValue (c : Char) : Nat := if c.isDigit then c.toNat - 48 else c.toNat - 87

/-- Four hexadecimal digits at the front of a text. -/
def readHex : List Char → Option (Nat × List Char)
  | a :: b :: c :: d :: rest =>
    some (hexValue a * 4096 + hexValue b * 256 + hexValue c * 16 + hexValue d, rest)
  | _ => none

/-- The character of one escape or of a surrogate pair, behind its `\u`. -/
def readUnicode (cs : List Char) : Option (Char × List Char) :=
  (readHex cs).bind (fun p ↦
    if 0xd800 ≤ p.1 ∧ p.1 < 0xdc00 then
      (readHex (p.2.drop 2)).map (fun q ↦
        (Char.ofNat (0x10000 + (p.1 - 0xd800) * 1024 + (q.1 - 0xdc00)), q.2))
    else some (Char.ofNat p.1, p.2))

/-- The character of a two-character escape. -/
def longForm (e : Char) : Option Char :=
  [('"', '"'), ('\\', '\\'), ('n', '\n'), ('r', '\r'), ('t', '\t'), ('b', Char.ofNat 8),
    ('f', Char.ofNat 12)].lookup e

/-- The character at the front of the inside of a string. -/
def readChar : List Char → Option (Char × List Char)
  | [] => none
  | c :: cs =>
    if c = '\\' then
      match cs with
      | [] => none
      | e :: rest => if e = 'u' then readUnicode rest else (longForm e).map (fun c ↦ (c, rest))
    else some (c, cs)

/-- Four hexadecimal digits are read back. -/
theorem readHex_hexDigits {n : Nat} (h : n < 65536) (cs : List Char) :
    readHex (hexDigits n ++ cs) = some (n, cs) := by
  have hvalue : ∀ m < 16, hexValue (Nat.digitChar m) = m := by decide
  have hdigit : ∀ m, hexValue (Nat.digitChar (m % 16)) = m % 16 := fun m ↦
    hvalue (m % 16) (Nat.mod_lt m (by decide))
  simp only [hexDigits, List.cons_append, List.nil_append, readHex, hdigit, Option.some.injEq,
    Prod.mk.injEq, and_true]
  omega

/-- A character is no surrogate. -/
theorem not_surrogate (c : Char) : ¬ (0xd800 ≤ c.toNat ∧ c.toNat < 0xdc00) := by
  rcases c.valid with h | h
  · have : c.toNat < 0xd800 := h
    omega
  · have : 0xdfff < c.toNat := h.1
    omega

/-- An escaped character is read back. -/
theorem readChar_escapeChar (c : Char) (cs : List Char) :
    readChar (escapeChar c ++ cs) = some (c, cs) := by
  unfold escapeChar
  split
  · next e he =>
    have hlong : e ≠ 'u' ∧ longForm e = some c := by
      have hmem := shortEscape_mem he
      simp only [List.mem_cons, Prod.mk.injEq, List.not_mem_nil, or_false] at hmem
      rcases hmem with ⟨rfl, rfl⟩ | ⟨rfl, rfl⟩ | ⟨rfl, rfl⟩ | ⟨rfl, rfl⟩ | ⟨rfl, rfl⟩ | ⟨rfl, rfl⟩ |
        ⟨rfl, rfl⟩ <;> decide
    simp [readChar, hlong.1, hlong.2]
  · next hnone =>
    split
    · simp [readChar, (ne_of_shortEscape hnone).2]
    · split
      · next hbmp =>
        have hread : readUnicode (hexDigits c.toNat ++ cs) = some (c, cs) := by
          rw [readUnicode, readHex_hexDigits hbmp, Option.bind_some, if_neg (not_surrogate c),
            Char.ofNat_toNat]
        simpa [readChar, unicodeEscape] using hread
      · next hastral =>
        have hmax : c.toNat < 0x110000 := by
          rcases c.valid with h | h
          · have : c.toNat < 0xd800 := h
            omega
          · exact h.2
        have hhi : 0xd800 + (c.toNat - 0x10000) / 1024 < 0xdc00 := by omega
        have hlo : 0xdc00 + (c.toNat - 0x10000) % 1024 < 65536 := by omega
        have hchar : 0x10000 + (0xd800 + (c.toNat - 0x10000) / 1024 - 0xd800) * 1024 +
            (0xdc00 + (c.toNat - 0x10000) % 1024 - 0xdc00) = c.toNat := by omega
        have hread : readUnicode (hexDigits (0xd800 + (c.toNat - 0x10000) / 1024) ++
            (unicodeEscape (0xdc00 + (c.toNat - 0x10000) % 1024) ++ cs)) = some (c, cs) := by
          rw [readUnicode, readHex_hexDigits (by omega), Option.bind_some,
            if_pos ⟨Nat.le_add_right _ _, hhi⟩, unicodeEscape, List.cons_append, List.cons_append,
            List.drop_succ_cons, List.drop_succ_cons, List.drop_zero, readHex_hexDigits hlo,
            Option.map_some, hchar, Char.ofNat_toNat]
        rw [List.append_assoc]
        exact hread

/-- The inside of a string ends at the first quote. -/
theorem inside_inj {s t xs ys : List Char}
    (h : s.flatMap escapeChar ++ '"' :: xs = t.flatMap escapeChar ++ '"' :: ys) :
    s = t ∧ xs = ys := by
  have hquote : ∀ (c : Char) (cs ds : List Char), '"' :: cs ≠ escapeChar c ++ ds := by
    intro c cs ds heq
    have hread := readChar_escapeChar c ds
    rw [← heq] at hread
    obtain ⟨rfl, -⟩ := Prod.mk.inj (Option.some.inj hread)
    exact nomatch heq
  induction s generalizing t with
  | nil =>
    cases t with
    | nil => exact ⟨rfl, (List.cons.inj h).2⟩
    | cons d rest =>
      rw [List.flatMap_nil, List.nil_append, List.flatMap_cons, List.append_assoc] at h
      exact absurd h (hquote d _ _)
  | cons c rest ih =>
    cases t with
    | nil =>
      rw [List.flatMap_nil, List.nil_append, List.flatMap_cons, List.append_assoc] at h
      exact absurd h.symm (hquote c _ _)
    | cons d rest' =>
      rw [List.flatMap_cons, List.flatMap_cons, List.append_assoc, List.append_assoc] at h
      have hread := readChar_escapeChar c (rest.flatMap escapeChar ++ '"' :: xs)
      rw [h, readChar_escapeChar] at hread
      obtain ⟨rfl, htail⟩ := Prod.mk.inj (Option.some.inj hread)
      obtain ⟨rfl, hrest⟩ := ih htail.symm
      exact ⟨rfl, hrest⟩

/-- A quoted string ends at its second quote. -/
theorem quoted_inj {s t : String} {xs ys : List Char} (h : quoted s ++ xs = quoted t ++ ys) :
    s = t ∧ xs = ys := by
  simp only [quoted, List.cons_append, List.append_assoc, List.cons.injEq, true_and,
    List.nil_append] at h
  obtain ⟨hlist, hrest⟩ := inside_inj h
  exact ⟨String.toList_injective hlist, hrest⟩

/-! ### Scalars -/

/-- The characters of texts without quotes and brackets. -/
def isAtom (c : Char) : Bool := c.isAlphanum || c ∈ ['.', '+', '-']

/-- The text does not go on with such a character. -/
def Stops (cs : List Char) : Prop := ∀ c ∈ cs.head?, isAtom c = false

/-- A text of such characters ends where they stop. -/
theorem atoms_inj {cs ds xs ys : List Char} (hc : ∀ c ∈ cs, isAtom c) (hd : ∀ c ∈ ds, isAtom c)
    (hx : Stops xs) (hy : Stops ys) (h : cs ++ xs = ds ++ ys) : cs = ds ∧ xs = ys := by
  have hstop : ∀ {c : Char} {es zs : List Char}, isAtom c = true → Stops zs → zs ≠ c :: es := by
    rintro c es zs hatom hzs rfl
    exact nomatch hatom.symm.trans (hzs c rfl)
  induction cs generalizing ds with
  | nil =>
    cases ds with
    | nil => exact ⟨rfl, h⟩
    | cons d rest => exact absurd h (hstop (hd d List.mem_cons_self) hx)
  | cons c rest ih =>
    rw [List.forall_mem_cons] at hc
    cases ds with
    | nil => exact absurd h.symm (hstop hc.1 hy)
    | cons d rest' =>
      rw [List.forall_mem_cons] at hd
      obtain ⟨rfl, htail⟩ := List.cons.inj h
      obtain ⟨rfl, hrest⟩ := ih hc.2 hd.2 htail
      exact ⟨rfl, hrest⟩

/-- The value is no string, list or object. -/
def Json.isScalar : Json → Bool
  | .str _ => false
  | .arr _ => false
  | .obj _ => false
  | _ => true

/-- The characters of a number. -/
def isNumeral (c : Char) : Bool := c.isDigit || c ∈ ['.', 'e', '+', '-']

/-- The text of a number. -/
def numeral? (ft : FloatText) : Json → Option (List Char)
  | .int i => some (intText i)
  | .float (.fin r) => some (ft.repr r)
  | _ => none

variable {ft : FloatText}

/-- An integer is written in digits. -/
theorem isDigit_of_mem_intText {i : Int} {c : Char} (h : c ∈ intText i) :
    c.isDigit = true ∨ c = '-' := by
  have hdigit : ∀ n, c ∈ Nat.toDigits 10 n → c.isDigit = true := fun n hc ↦
    Nat.isDigit_of_mem_toDigits (by decide) (by decide) hc
  cases i with
  | ofNat n => exact .inl (hdigit n h)
  | negSucc n => exact (List.mem_cons.mp h).symm.imp (hdigit (n + 1)) id

/-- An integer is read back. -/
theorem intText_injective : Function.Injective intText := by
  have hnat : ∀ m n, Nat.toDigits 10 m = Nat.toDigits 10 n → m = n := fun m n h ↦ by
    rw [← Nat.ofDigitChars_ten_toDigits (n := m), h, Nat.ofDigitChars_ten_toDigits]
  have hsign : ∀ (m : Nat) (cs : List Char), Nat.toDigits 10 m ≠ '-' :: cs := fun m cs h ↦ by
    have hdigit := Nat.isDigit_of_mem_toDigits (b := 10) (n := m) (c := '-') (by decide) (by decide)
      (by rw [h]; exact List.mem_cons_self)
    exact absurd hdigit (by decide)
  intro i j h
  cases i with
  | ofNat m =>
    cases j with
    | ofNat n => exact congrArg Int.ofNat (hnat m n h)
    | negSucc n => exact absurd h (hsign m _)
  | negSucc m =>
    cases j with
    | ofNat n => exact absurd h.symm (hsign n _)
    | negSucc n => exact congrArg Int.negSucc (Nat.succ.inj (hnat _ _ (List.cons.inj h).2))

/-- A number is written in the characters of numbers. -/
theorem isNumeral_of_mem {v : Json} {cs : List Char} (h : numeral? ft v = some cs) :
    ∀ c ∈ cs, isNumeral c = true := by
  intro c hc
  unfold numeral? at h
  split at h
  · obtain rfl := Option.some.inj h
    rcases isDigit_of_mem_intText hc with hdigit | rfl
    · simp [isNumeral, hdigit]
    · decide
  · obtain rfl := Option.some.inj h
    rcases ft.plain _ c hc with hdigit | hmark
    · simp [isNumeral, hdigit]
    · simp [isNumeral, hmark]
  · exact nomatch h

/-- The text of a number determines it. -/
theorem numeral?_inj {a b : Json} {cs : List Char} (ha : numeral? ft a = some cs)
    (hb : numeral? ft b = some cs) : a = b := by
  have hmixed : ∀ i r, intText i ≠ ft.repr r := fun i r heq ↦ by
    rcases ft.marked r with hmem | hmem <;> rw [← heq] at hmem <;>
      rcases isDigit_of_mem_intText hmem with h | h <;> exact absurd h (by decide)
  unfold numeral? at ha hb
  split at ha
  · split at hb
    · exact congrArg Json.int (intText_injective (Option.some.inj (ha.trans hb.symm)))
    · exact absurd (Option.some.inj (ha.trans hb.symm)) (hmixed _ _)
    · exact nomatch hb
  · split at hb
    · exact absurd (Option.some.inj (ha.trans hb.symm)).symm (hmixed _ _)
    · rw [ft.injective (Option.some.inj (ha.trans hb.symm))]
    · exact nomatch hb
  · exact nomatch ha

/-- A scalar is a number, or one of six words. -/
theorem scalar_cases {v : Json} (h : v.isScalar = true) :
    numeral? ft v = some (printJson ft v) ∨
      v ∈ [.null, .bool true, .bool false, .float (.inf true), .float (.inf false),
        .float .nan] := by
  cases v with
  | null => exact .inr (by simp)
  | bool b => cases b <;> exact .inr (by simp)
  | int i => exact .inl rfl
  | float x =>
    cases x with
    | fin r => exact .inl rfl
    | inf negative => cases negative <;> exact .inr (by simp)
    | nan => exact .inr (by simp)
  | str s => exact nomatch h
  | arr items => exact nomatch h
  | obj fields => exact nomatch h

/-- The text of a word has a character that numbers do not have. -/
theorem exists_not_isNumeral {v : Json}
    (h : v ∈ [.null, .bool true, .bool false, .float (.inf true), .float (.inf false),
      .float .nan]) :
    ∃ c ∈ printJson ft v, isNumeral c = false := by
  have hall : (printJson ft v).all isNumeral = false := by
    simp only [List.mem_cons, List.not_mem_nil, or_false] at h
    rcases h with rfl | rfl | rfl | rfl | rfl | rfl <;> rfl
  simpa using hall

/-- The text of a scalar determines it. -/
theorem scalar_inj {a b : Json} (ha : a.isScalar = true) (hb : b.isScalar = true)
    (h : printJson ft a = printJson ft b) : a = b := by
  have hmixed : ∀ {u v : Json}, numeral? ft u = some (printJson ft u) →
      v ∈ [.null, .bool true, .bool false, .float (.inf true), .float (.inf false), .float .nan] →
      printJson ft u ≠ printJson ft v := by
    intro u v hu hv heq
    obtain ⟨c, hc, hnot⟩ := @exists_not_isNumeral ft _ hv
    rw [isNumeral_of_mem hu c (heq ▸ hc)] at hnot
    exact nomatch hnot
  rcases @scalar_cases ft _ ha with hnum | hword <;>
    rcases @scalar_cases ft _ hb with hnum' | hword'
  · exact numeral?_inj hnum (h ▸ hnum')
  · exact absurd h (hmixed hnum hword')
  · exact absurd h.symm (hmixed hnum' hword)
  · simp only [List.mem_cons, List.not_mem_nil, or_false] at hword hword'
    rcases hword with rfl | rfl | rfl | rfl | rfl | rfl <;>
      rcases hword' with rfl | rfl | rfl | rfl | rfl | rfl <;>
        first | rfl | exact absurd h (by simp [printJson, floatText])

/-- The text of a scalar has no quotes and brackets, and it is not empty. -/
theorem scalar_text {v : Json} (h : v.isScalar = true) :
    (∀ c ∈ printJson ft v, isAtom c = true) ∧ printJson ft v ≠ [] := by
  have hnumeral : ∀ c, isNumeral c = true → isAtom c = true := fun c hc ↦ by
    simp only [isNumeral, Bool.or_eq_true, decide_eq_true_eq] at hc
    rcases hc with hdigit | hmark
    · simp [isAtom, Char.isAlphanum, hdigit]
    · simp only [List.mem_cons, List.not_mem_nil, or_false] at hmark
      rcases hmark with rfl | rfl | rfl | rfl <;> decide
  rcases @scalar_cases ft _ h with hnum | hword
  · refine ⟨fun c hc ↦ hnumeral c (isNumeral_of_mem hnum c hc), fun hnil ↦ ?_⟩
    rw [hnil] at hnum
    unfold numeral? at hnum
    split at hnum
    · next i =>
      cases i with
      | ofNat n => exact Nat.toDigits_ne_nil (Option.some.inj hnum)
      | negSucc n => exact List.cons_ne_nil _ _ (Option.some.inj hnum)
    · next r =>
      rcases ft.marked r with hmem | hmem <;> rw [Option.some.inj hnum] at hmem <;>
        exact List.not_mem_nil hmem
    · simp at hnum
  · simp only [List.mem_cons, List.not_mem_nil, or_false] at hword
    rcases hword with rfl | rfl | rfl | rfl | rfl | rfl <;>
      exact ⟨List.all_eq_true.mp rfl, List.cons_ne_nil _ _⟩

/-! ### Values -/

/-- What kind of text a value has. -/
inductive Shape where
  | scalar
  | string
  | list
  | object
  deriving DecidableEq

/-- The kind of a value. -/
def Json.shape : Json → Shape
  | .str _ => .string
  | .arr _ => .list
  | .obj _ => .object
  | _ => .scalar

/-- The kind of text that a character opens. -/
def shapeOf (c : Char) : Shape :=
  if c = '"' then .string else if c = '[' then .list else if c = '{' then .object else .scalar

/-- The first character of a text tells its kind. -/
theorem head_printJson (v : Json) : ∃ c cs, printJson ft v = c :: cs ∧ shapeOf c = v.shape ∧
    c ∉ [']', '}', ','] := by
  have hscalar : v.isScalar = true → v.shape = .scalar → ∃ c cs, printJson ft v = c :: cs ∧
      shapeOf c = v.shape ∧ c ∉ [']', '}', ','] := by
    intro hv hshape
    obtain ⟨hatoms, hne⟩ := @scalar_text ft _ hv
    obtain ⟨c, cs, hcs⟩ := List.exists_cons_of_ne_nil hne
    have hatom : isAtom c = true := hatoms c (hcs ▸ List.mem_cons_self)
    have hother : ∀ d ∈ ['"', '[', '{', ']', '}', ','], c ≠ d := by
      rintro d hd rfl
      simp only [List.mem_cons, List.not_mem_nil, or_false] at hd
      rcases hd with rfl | rfl | rfl | rfl | rfl | rfl <;> exact absurd hatom (by decide)
    refine ⟨c, cs, hcs, ?_, fun hmem ↦ hother c (by simp at hmem ⊢; tauto) rfl⟩
    rw [hshape, shapeOf, if_neg (hother '"' (by simp)), if_neg (hother '[' (by simp)),
      if_neg (hother '{' (by simp))]
  cases v with
  | str s => exact ⟨'"', _, rfl, rfl, by decide⟩
  | arr items => exact ⟨'[', _, rfl, rfl, by decide⟩
  | obj fields => exact ⟨'{', _, rfl, rfl, by decide⟩
  | _ => exact hscalar rfl rfl

/-- Values whose texts start alike are of one kind. -/
theorem shape_eq {a b : Json} {xs ys : List Char}
    (h : printJson ft a ++ xs = printJson ft b ++ ys) :
    a.shape = b.shape := by
  obtain ⟨c, cs, hc, hshape, -⟩ := @head_printJson ft a
  obtain ⟨d, ds, hd, hshape', -⟩ := @head_printJson ft b
  rw [hc, hd] at h
  obtain ⟨rfl, -⟩ := List.cons.inj h
  exact hshape.symm.trans hshape'

/-- A scalar ends where its characters stop. -/
theorem scalar_print_inj {a b : Json} {xs ys : List Char} (ha : a.isScalar = true) (hx : Stops xs)
    (hy : Stops ys) (h : printJson ft a ++ xs = printJson ft b ++ ys) : a = b ∧ xs = ys := by
  have hshape := shape_eq h
  have hb : b.isScalar = true := by
    cases a with
    | str s => exact nomatch ha
    | arr items => exact nomatch ha
    | obj fields => exact nomatch ha
    | _ => cases b <;> first | rfl | exact nomatch hshape
  obtain ⟨htext, hrest⟩ := atoms_inj (scalar_text ha).1 (scalar_text hb).1 hx hy h
  exact ⟨scalar_inj ha hb htext, hrest⟩

/-- The rest of a list starts with a character that ends a scalar. -/
theorem stops_printItems (items : List Json) (xs : List Char) :
    Stops (printItems ft [',', ' '] items ++ xs) := by
  cases items <;> rintro c ⟨⟩ <;> rfl

/-- The rest of an object starts with a character that ends a scalar. -/
theorem stops_printFields (fields : Fields) (xs : List Char) :
    Stops (printFields ft [',', ' '] fields ++ xs) := by
  cases fields <;> rintro c ⟨⟩ <;> rfl

/-- The rest of a list that goes on does not start as one that ends. -/
theorem printItems_ne {sep : List Char} (hsep : sep = [] ∨ sep = [',', ' ']) (v : Json)
    (rest : List Json) (xs ys : List Char) :
    printItems ft sep [] ++ xs ≠ printItems ft sep (v :: rest) ++ ys := by
  intro h
  obtain ⟨c, cs, hc, -, hnot⟩ := @head_printJson ft v
  rcases hsep with rfl | rfl
  · rw [printItems, printItems, hc] at h
    obtain ⟨rfl, -⟩ := List.cons.inj h
    exact hnot (by simp)
  · exact nomatch h

/-- The rest of an object that goes on does not start as one that ends. -/
theorem printFields_ne {sep : List Char} (hsep : sep = [] ∨ sep = [',', ' ']) (e : String × Json)
    (rest : Fields) (xs ys : List Char) :
    printFields ft sep [] ++ xs ≠ printFields ft sep (e :: rest) ++ ys := by
  intro h
  rcases hsep with rfl | rfl <;> exact nomatch h

mutual

/-- The text of a value shows where it ends, and determines the value. -/
theorem printJson_inj : ∀ (a b : Json) {xs ys : List Char}, Stops xs → Stops ys →
    printJson ft a ++ xs = printJson ft b ++ ys → a = b ∧ xs = ys
  | .null, _, _, _, hx, hy, h => scalar_print_inj rfl hx hy h
  | .bool _, _, _, _, hx, hy, h => scalar_print_inj rfl hx hy h
  | .int _, _, _, _, hx, hy, h => scalar_print_inj rfl hx hy h
  | .float _, _, _, _, hx, hy, h => scalar_print_inj rfl hx hy h
  | .str s, b, xs, ys, _, _, h => by
    cases b with
    | str t =>
      obtain ⟨rfl, hrest⟩ := quoted_inj h
      exact ⟨rfl, hrest⟩
    | _ => exact nomatch shape_eq h
  | .arr items, b, xs, ys, _, _, h => by
    cases b with
    | arr items' =>
      obtain ⟨rfl, hrest⟩ := printItems_inj (.inl rfl) items items' (List.cons.inj h).2
      exact ⟨rfl, hrest⟩
    | _ => exact nomatch shape_eq h
  | .obj fields, b, xs, ys, _, _, h => by
    cases b with
    | obj fields' =>
      obtain ⟨rfl, hrest⟩ := printFields_inj (.inl rfl) fields fields' (List.cons.inj h).2
      exact ⟨rfl, hrest⟩
    | _ => exact nomatch shape_eq h

/-- The rest of a list. -/
theorem printItems_inj {sep : List Char} (hsep : sep = [] ∨ sep = [',', ' ']) :
    ∀ (items items' : List Json) {xs ys : List Char},
      printItems ft sep items ++ xs = printItems ft sep items' ++ ys → items = items' ∧ xs = ys
  | [], [], _, _, h => ⟨rfl, (List.cons.inj h).2⟩
  | [], v :: rest, xs, ys, h => absurd h (printItems_ne hsep v rest xs ys)
  | v :: rest, [], xs, ys, h => absurd h.symm (printItems_ne hsep v rest ys xs)
  | v :: rest, v' :: rest', xs, ys, h => by
    simp only [printItems, List.append_assoc] at h
    obtain ⟨rfl, hmore⟩ := printJson_inj v v' (stops_printItems rest xs) (stops_printItems rest' ys)
      (List.append_cancel_left h)
    obtain ⟨rfl, hrest⟩ := printItems_inj (.inr rfl) rest rest' hmore
    exact ⟨rfl, hrest⟩

/-- The rest of an object. -/
theorem printFields_inj {sep : List Char} (hsep : sep = [] ∨ sep = [',', ' ']) :
    ∀ (fields fields' : List (String × Json)) {xs ys : List Char},
      printFields ft sep fields ++ xs = printFields ft sep fields' ++ ys →
        fields = fields' ∧ xs = ys
  | [], [], _, _, h => ⟨rfl, (List.cons.inj h).2⟩
  | [], e :: rest, xs, ys, h => absurd h (printFields_ne hsep e rest xs ys)
  | e :: rest, [], xs, ys, h => absurd h.symm (printFields_ne hsep e rest ys xs)
  | (k, v) :: rest, (k', v') :: rest', xs, ys, h => by
    simp only [printFields, List.append_assoc] at h
    obtain ⟨rfl, hvalue⟩ := quoted_inj (List.append_cancel_left h)
    obtain ⟨rfl, hmore⟩ := printJson_inj v v' (stops_printFields rest xs)
      (stops_printFields rest' ys) (List.append_cancel_left hvalue)
    obtain ⟨rfl, hrest⟩ := printFields_inj (.inr rfl) rest rest' hmore
    exact ⟨rfl, hrest⟩

end

/-! ### Ordered values -/

/-- A value whose keys are in order is left as it is. -/
theorem sortKeys_of_ordered {v : Json} (h : v.Ordered) : sortKeys v = v := by
  induction h with
  | null | bool | int | float | str => rfl
  | arr _ ih =>
    rename_i items _
    have hitems : sortItems items = items := by
      induction items with
      | nil => rfl
      | cons v rest ihrest =>
        rw [sortItems, ih v List.mem_cons_self,
          ihrest (fun w hw ↦ ‹∀ v ∈ _, v.Ordered› w (List.mem_cons_of_mem v hw))
            fun w hw ↦ ih w (List.mem_cons_of_mem v hw)]
    rw [sortKeys, hitems]
  | obj sorted _ ih =>
    rename_i fields _
    have hfields : sortFields fields = fields := by
      clear sorted
      induction fields with
      | nil => rfl
      | cons e rest ihrest =>
        rw [sortFields, ih e List.mem_cons_self,
          ihrest (fun d hd ↦ ‹∀ e ∈ _, e.2.Ordered› d (List.mem_cons_of_mem e hd))
            fun d hd ↦ ih d (List.mem_cons_of_mem e hd)]
    rw [sortKeys, hfields, sorted.insertionSort_eq]

/-- The text of a value whose keys are in order. -/
theorem dumps_of_ordered {v : Json} (h : v.Ordered) : dumps ft v = printJson ft v := by
  rw [dumps, sortKeys_of_ordered h]

/-- Fields put in order of their keys. -/
theorem pairwise_sortFields (fields : Fields) :
    (fields.insertionSort (fun a b ↦ a.1 ≤ b.1)).Pairwise (fun a b ↦ a.1 ≤ b.1) := by
  have htotal : Std.Total (fun a b : String × Json ↦ a.1 ≤ b.1) := ⟨fun a b ↦ le_total a.1 b.1⟩
  have htrans : IsTrans (String × Json) (fun a b ↦ a.1 ≤ b.1) :=
    ⟨fun _ _ _ hab hbc ↦ le_trans hab hbc⟩
  exact List.pairwise_insertionSort _ fields

mutual

/-- Sorting the keys of a value puts them in order. -/
theorem ordered_sortKeys : ∀ v : Json, (sortKeys v).Ordered
  | .null => .null
  | .bool b => .bool b
  | .int i => .int i
  | .float x => .float x
  | .str s => .str s
  | .arr items => .arr (ordered_sortItems items)
  | .obj fields => .obj (pairwise_sortFields _) fun e he ↦
      ordered_sortFields fields e ((List.mem_insertionSort _).mp he)

/-- Every item is put in order. -/
theorem ordered_sortItems : ∀ (items : List Json), ∀ v ∈ sortItems items, v.Ordered
  | [], _, h => nomatch h
  | v :: rest, w, h => by
    rcases List.mem_cons.mp h with rfl | hrest
    · exact ordered_sortKeys v
    · exact ordered_sortItems rest w hrest

/-- The value of every field is put in order. -/
theorem ordered_sortFields : ∀ (fields : List (String × Json)), ∀ e ∈ sortFields fields, e.2.Ordered
  | [], _, h => nomatch h
  | (_, v) :: rest, e, h => by
    rcases List.mem_cons.mp h with rfl | hrest
    · exact ordered_sortKeys v
    · exact ordered_sortFields rest e hrest

end

/-- Values whose keys are in order and whose texts agree are equal. -/
theorem dumps_inj {a b : Json} (ha : a.Ordered) (hb : b.Ordered) (h : dumps ft a = dumps ft b) :
    a = b := by
  rw [dumps_of_ordered ha, dumps_of_ordered hb] at h
  exact (@printJson_inj ft a b [] [] nofun nofun (by simpa using h)).1

/-- A text is not empty. -/
theorem dumps_ne_nil (v : Json) : dumps ft v ≠ [] := by
  obtain ⟨c, cs, hc, -⟩ := @head_printJson ft (sortKeys v)
  rw [dumps, hc]
  exact List.cons_ne_nil c cs

/-- A text is a chunk. -/
theorem chunk_dumps (ft : FloatText) (v : Json) : Chunk (dumps ft v) :=
  chunk_printJson ft (sortKeys v)

/-! ### Reading the items of a list -/

/-- Items that can be told from what they are read as. -/
theorem map_of_mapM {α β : Type} {f : α → Option β} {g : β → α}
    (hg : ∀ x y, f x = some y → g y = x) {xs : List α} {ys : List β} (h : xs.mapM f = some ys) :
    ys.map g = xs := by
  have hall := mapM_eq_some_iff.mp h
  clear h
  induction hall with
  | nil => rfl
  | cons hxy _ ih => rw [List.map_cons, hg _ _ hxy, ih]

/-- Items that are read back one by one. -/
theorem mapM_map_of_forall {α β : Type} {f : α → Option β} {g : β → α} {ys : List β}
    (h : ∀ y ∈ ys, f (g y) = some y) : (ys.map g).mapM f = some ys := by
  induction ys with
  | nil => rfl
  | cons y rest ih =>
    rw [List.forall_mem_cons] at h
    simp [h.1, ih h.2]

end LcpGateway.Base
