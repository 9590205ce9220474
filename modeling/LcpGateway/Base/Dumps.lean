import LcpGateway.Base.Object
import Mathlib.Data.List.Sort
import Mathlib.Data.String.Basic

/-!
# JSON text

Library `Base`. `json.dumps` with its default separators and `sort_keys`. Read by a lexer that knows
only what lies inside a string, the text of a value starts and ends outside one, and read from
inside it cannot end outside: so the last of several bars in front of such a text is determined.
-/

namespace LcpGateway.Base

/-- `float.__repr__` on finite floats: it can be read back, and it has a point or an exponent. -/
structure FloatText where
  repr : Rat → List Char
  injective : Function.Injective repr
  plain : ∀ r, ∀ c ∈ repr r, c.isDigit ∨ c ∈ ['.', 'e', '+', '-']
  marked : ∀ r, '.' ∈ repr r ∨ 'e' ∈ repr r

/-! ### Texts of values -/

/-- Four hexadecimal digits. -/
def hexDigits (n : Nat) : List Char :=
  [Nat.digitChar (n / 4096 % 16), Nat.digitChar (n / 256 % 16), Nat.digitChar (n / 16 % 16),
    Nat.digitChar (n % 16)]

/-- The escape `\uXXXX`. -/
def unicodeEscape (n : Nat) : List Char := '\\' :: 'u' :: hexDigits n

/-- The letter of a two-character escape. -/
def shortEscape (c : Char) : Option Char :=
  [('"', '"'), ('\\', '\\'), ('\n', 'n'), ('\r', 'r'), ('\t', 't'), (Char.ofNat 8, 'b'),
    (Char.ofNat 12, 'f')].lookup c

/-- A character of a string; outside ASCII as one escape or a surrogate pair. -/
def escapeChar (c : Char) : List Char :=
  match shortEscape c with
  | some e => ['\\', e]
  | none =>
    if 32 ≤ c.toNat ∧ c.toNat ≤ 126 then [c]
    else if c.toNat < 65536 then unicodeEscape c.toNat
    else unicodeEscape (0xd800 + (c.toNat - 0x10000) / 1024) ++
      unicodeEscape (0xdc00 + (c.toNat - 0x10000) % 1024)

/-- A string with its quotes. -/
def quoted (s : String) : List Char := '"' :: (s.toList.flatMap escapeChar ++ ['"'])

/-- An integer. -/
def intText : Int → List Char
  | .ofNat n => Nat.toDigits 10 n
  | .negSucc n => '-' :: Nat.toDigits 10 (n + 1)

/-- A float. -/
def floatText (ft : FloatText) : PyFloat → List Char
  | .fin r => ft.repr r
  | .inf negative => (if negative then "-Infinity" else "Infinity").toList
  | .nan => "NaN".toList

mutual

/-- The text of a value, with the keys in the order they have. -/
def printJson (ft : FloatText) : Json → List Char
  | .null => "null".toList
  | .bool b => (if b then "true" else "false").toList
  | .int i => intText i
  | .float x => floatText ft x
  | .str s => quoted s
  | .arr items => '[' :: printItems ft [] items
  | .obj fields => '{' :: printFields ft [] fields

/-- The items of a list from one on, in front of which `sep` stands. -/
def printItems (ft : FloatText) (sep : List Char) : List Json → List Char
  | [] => [']']
  | v :: rest => sep ++ (printJson ft v ++ printItems ft [',', ' '] rest)

/-- The fields of an object from one on, in front of which `sep` stands. -/
def printFields (ft : FloatText) (sep : List Char) : List (String × Json) → List Char
  | [] => ['}']
  | (k, v) :: rest =>
    sep ++ (quoted k ++ ([':', ' '] ++ (printJson ft v ++ printFields ft [',', ' '] rest)))

end

mutual

/-- The value with the keys of every object in order. -/
def sortKeys : Json → Json
  | .arr items => .arr (sortItems items)
  | .obj fields => .obj ((sortFields fields).insertionSort (fun a b ↦ a.1 ≤ b.1))
  | v => v

/-- The items with their keys in order. -/
def sortItems : List Json → List Json
  | [] => []
  | v :: rest => sortKeys v :: sortItems rest

/-- The fields with the keys of their values in order. -/
def sortFields : List (String × Json) → List (String × Json)
  | [] => []
  | (k, v) :: rest => (k, sortKeys v) :: sortFields rest

end

/-- `json.dumps(value, sort_keys=True)`. -/
def dumps (ft : FloatText) (v : Json) : List Char := printJson ft (sortKeys v)

/-- The keys of every object are in order. -/
inductive Json.Ordered : Json → Prop
  | null : Ordered .null
  | bool (b : Bool) : Ordered (.bool b)
  | int (i : Int) : Ordered (.int i)
  | float (x : PyFloat) : Ordered (.float x)
  | str (s : String) : Ordered (.str s)
  | arr {items : List Json} (h : ∀ v ∈ items, Ordered v) : Ordered (.arr items)
  | obj {fields : Fields} (sorted : fields.Pairwise (fun a b ↦ a.1 ≤ b.1))
      (h : ∀ e ∈ fields, Ordered e.2) : Ordered (.obj fields)

/-! ### Texts read by a lexer -/

/-- Where a lexer of JSON text is. -/
inductive Lexer where
  | outside
  | inside
  | escaped
  deriving DecidableEq, Repr

/-- The characters that occur outside strings. -/
def isSyntax (c : Char) : Bool :=
  c.isAlphanum || c ∈ ['[', ']', '{', '}', ',', ':', ' ', '.', '+', '-']

/-- One character; `none` when it cannot stand there. -/
def Lexer.step : Lexer → Char → Option Lexer
  | .outside, c => if c = '"' then some .inside else if isSyntax c then some .outside else none
  | .inside, c =>
    if c = '"' then some .outside else if c = '\\' then some .escaped else some .inside
  | .escaped, c => if c ∈ ['"', '\\', 'n', 'r', 't', 'b', 'f', 'u'] then some .inside else none

/-- A text from a position on. -/
def lex (s : Lexer) (cs : List Char) : Option Lexer := cs.foldlM Lexer.step s

/-- Read from outside a string a chunk ends outside; read from inside it ends inside, if at all. -/
structure Chunk (cs : List Char) : Prop where
  closed : lex .outside cs = some .outside
  odd : ∀ s, lex .inside cs = some s → s = .inside

/-- A text is read part by part. -/
theorem lex_append (s : Lexer) (cs ds : List Char) :
    lex s (cs ++ ds) = (lex s cs).bind (lex · ds) :=
  List.foldlM_append

/-- The first character is read first. -/
theorem lex_cons (s : Lexer) (c : Char) (cs : List Char) :
    lex s (c :: cs) = (s.step c).bind (lex · cs) := List.foldlM_cons

/-- The empty text is a chunk. -/
theorem Chunk.nil : Chunk [] := ⟨rfl, fun _ h ↦ (Option.some.inj h).symm⟩

/-- One chunk after another is a chunk. -/
theorem Chunk.append {cs ds : List Char} (hc : Chunk cs) (hd : Chunk ds) : Chunk (cs ++ ds) := by
  refine ⟨by rw [lex_append, hc.closed]; exact hd.closed, fun s h ↦ ?_⟩
  rw [lex_append] at h
  obtain ⟨t, ht, hs⟩ := Option.bind_eq_some_iff.mp h
  obtain rfl := hc.odd t ht
  exact hd.odd s hs

/-- A character of the syntax is no quote and no backslash. -/
theorem ne_of_isSyntax {c : Char} (h : isSyntax c) : c ≠ '"' ∧ c ≠ '\\' := by
  refine ⟨?_, ?_⟩ <;> rintro rfl <;> exact absurd h (by decide)

/-- Characters of the syntax are a chunk. -/
theorem chunk_of_isSyntax {cs : List Char} (h : ∀ c ∈ cs, isSyntax c) : Chunk cs := by
  induction cs with
  | nil => exact .nil
  | cons c rest ih =>
    rw [List.forall_mem_cons] at h
    obtain ⟨hquote, hslash⟩ := ne_of_isSyntax h.1
    obtain ⟨hclosed, hodd⟩ := ih h.2
    refine ⟨?_, fun s hs ↦ ?_⟩
    · simp [lex_cons, Lexer.step, hquote, h.1, hclosed]
    · simp only [lex_cons, Lexer.step, hquote, hslash, if_false, Option.bind_some] at hs
      exact hodd s hs

/-- Inside a string a character that is no quote and no backslash changes nothing. -/
theorem lex_inside_of_plain {cs : List Char} (h : ∀ c ∈ cs, c ≠ '"' ∧ c ≠ '\\') :
    lex .inside cs = some .inside := by
  induction cs with
  | nil => rfl
  | cons c rest ih =>
    rw [List.forall_mem_cons] at h
    simp [lex_cons, Lexer.step, h.1.1, h.1.2, ih h.2]

/-- A hexadecimal digit is a letter or a digit. -/
theorem isAlphanum_digitChar : ∀ n < 16, (Nat.digitChar n).isAlphanum = true := by decide

/-- Hexadecimal digits belong to the syntax. -/
theorem isSyntax_of_mem_hexDigits {n : Nat} {c : Char} (h : c ∈ hexDigits n) :
    isSyntax c = true := by
  have hdigit : ∀ m, isSyntax (Nat.digitChar (m % 16)) = true := fun m ↦ by
    simp [isSyntax, isAlphanum_digitChar (m % 16) (Nat.mod_lt m (by decide))]
  simp only [hexDigits, List.mem_cons, List.not_mem_nil, or_false] at h
  rcases h with rfl | rfl | rfl | rfl <;> exact hdigit _

/-- An escape is read inside a string. -/
theorem lex_inside_unicodeEscape (n : Nat) : lex .inside (unicodeEscape n) = some .inside := by
  have hdigits : lex .inside (hexDigits n) = some .inside :=
    lex_inside_of_plain fun _ hc ↦ ne_of_isSyntax (isSyntax_of_mem_hexDigits hc)
  simp [unicodeEscape, lex_cons, Lexer.step, hdigits]

/-- The letters of the short escapes. -/
theorem shortEscape_mem {c e : Char} (h : shortEscape c = some e) :
    (c, e) ∈ [('"', '"'), ('\\', '\\'), ('\n', 'n'), ('\r', 'r'), ('\t', 't'), (Char.ofNat 8, 'b'),
      (Char.ofNat 12, 'f')] := by
  obtain ⟨before, after, heq, -⟩ := List.lookup_eq_some_iff.mp h
  rw [heq]
  simp

/-- A character without a short escape is no quote and no backslash. -/
theorem ne_of_shortEscape {c : Char} (h : shortEscape c = none) : c ≠ '"' ∧ c ≠ '\\' := by
  refine ⟨?_, ?_⟩ <;> rintro rfl <;> exact absurd h (by decide)

/-- An escaped character is read inside a string. -/
theorem lex_inside_escapeChar (c : Char) : lex .inside (escapeChar c) = some .inside := by
  unfold escapeChar
  split
  · next e he =>
    have hmem := shortEscape_mem he
    have he : e ∈ ['"', '\\', 'n', 'r', 't', 'b', 'f', 'u'] := by
      simp only [List.mem_cons, Prod.mk.injEq, List.not_mem_nil, or_false] at hmem
      rcases hmem with
        ⟨-, rfl⟩ | ⟨-, rfl⟩ | ⟨-, rfl⟩ | ⟨-, rfl⟩ | ⟨-, rfl⟩ | ⟨-, rfl⟩ | ⟨-, rfl⟩ <;>
        decide
    have hslash : Lexer.inside.step '\\' = some .escaped := by decide
    have hstep : Lexer.escaped.step e = some .inside := if_pos he
    rw [lex_cons, hslash, Option.bind_some, lex_cons, hstep]
    rfl
  · next hnone =>
    split
    · exact lex_inside_of_plain fun d hd ↦ by
        obtain rfl := List.mem_singleton.mp hd
        exact ne_of_shortEscape hnone
    · split
      · exact lex_inside_unicodeEscape _
      · rw [lex_append, lex_inside_unicodeEscape, Option.bind_some, lex_inside_unicodeEscape]

/-- Outside a string an escaped character is one of the syntax, or cannot stand there. -/
theorem lex_outside_escapeChar {c : Char} {s : Lexer} (h : lex .outside (escapeChar c) = some s) :
    s = .outside := by
  have hslash : ∀ cs, lex .outside ('\\' :: cs) = none := fun cs ↦ rfl
  unfold escapeChar at h
  split at h
  · rw [hslash] at h
    exact nomatch h
  · next hnone =>
    split at h
    · have hquote := (ne_of_shortEscape hnone).1
      simp only [lex_cons, Lexer.step, hquote, if_false] at h
      split at h
      · exact (Option.some.inj h).symm
      · exact nomatch h
    · split at h
      · rw [unicodeEscape, hslash] at h
        exact nomatch h
      · rw [unicodeEscape, List.cons_append, hslash] at h
        exact nomatch h

/-- A quoted string is a chunk. -/
theorem chunk_quoted (s : String) : Chunk (quoted s) := by
  have hinside : ∀ cs : List Char, lex .inside (cs.flatMap escapeChar) = some .inside := by
    intro cs
    induction cs with
    | nil => rfl
    | cons c rest ih => rw [List.flatMap_cons, lex_append, lex_inside_escapeChar]; exact ih
  have houtside : ∀ (cs : List Char) (t : Lexer),
      lex .outside (cs.flatMap escapeChar) = some t → t = .outside := by
    intro cs
    induction cs with
    | nil => exact fun t h ↦ (Option.some.inj h).symm
    | cons c rest ih =>
      intro t h
      rw [List.flatMap_cons, lex_append] at h
      obtain ⟨u, hu, ht⟩ := Option.bind_eq_some_iff.mp h
      obtain rfl := lex_outside_escapeChar hu
      exact ih t ht
  refine ⟨?_, fun t h ↦ ?_⟩
  · rw [quoted, lex_cons]
    change lex .inside _ = _
    rw [lex_append, hinside]
    rfl
  · rw [quoted, lex_cons] at h
    change lex .outside _ = _ at h
    rw [lex_append] at h
    obtain ⟨u, hu, ht⟩ := Option.bind_eq_some_iff.mp h
    obtain rfl := houtside s.toList u hu
    exact (Option.some.inj ht).symm

/-- A digit belongs to the syntax. -/
theorem isSyntax_of_isDigit {c : Char} (h : c.isDigit = true) : isSyntax c = true := by
  simp [isSyntax, Char.isAlphanum, h]

/-- An integer is a chunk of syntax. -/
theorem isSyntax_of_mem_intText {i : Int} {c : Char} (h : c ∈ intText i) : isSyntax c = true := by
  have hdigit : ∀ n, c ∈ Nat.toDigits 10 n → isSyntax c = true := fun n hc ↦
    isSyntax_of_isDigit (Nat.isDigit_of_mem_toDigits (by decide) (by decide) hc)
  cases i with
  | ofNat n => exact hdigit n h
  | negSucc n =>
    rcases List.mem_cons.mp h with rfl | hc
    · decide
    · exact hdigit (n + 1) hc

/-- A float is a chunk of syntax. -/
theorem isSyntax_of_mem_floatText {ft : FloatText} {x : PyFloat} {c : Char}
    (h : c ∈ floatText ft x) : isSyntax c = true := by
  have hall : ∀ cs : List Char, c ∈ cs → cs.all isSyntax = true → isSyntax c = true :=
    fun cs hc hcs ↦ List.all_eq_true.mp hcs c hc
  cases x with
  | fin r =>
    rcases ft.plain r c h with hdigit | hmark
    · exact isSyntax_of_isDigit hdigit
    · exact hall _ hmark (by decide)
  | inf negative =>
    cases negative with
    | true => exact hall "-Infinity".toList h (by decide)
    | false => exact hall "Infinity".toList h (by decide)
  | nan => exact hall "NaN".toList h (by decide)

mutual

/-- The text of a value is a chunk. -/
theorem chunk_printJson (ft : FloatText) : ∀ v : Json, Chunk (printJson ft v)
  | .null => chunk_of_isSyntax (by simpa [printJson] using by decide)
  | .bool b => by cases b <;> exact chunk_of_isSyntax (by simpa [printJson] using by decide)
  | .int _ => chunk_of_isSyntax fun _ hc ↦ isSyntax_of_mem_intText hc
  | .float _ => chunk_of_isSyntax fun _ hc ↦ isSyntax_of_mem_floatText hc
  | .str s => chunk_quoted s
  | .arr items =>
    (show Chunk ['['] from chunk_of_isSyntax (by simpa using by decide)).append
      (chunk_printItems ft .nil items)
  | .obj fields =>
    (show Chunk ['{'] from chunk_of_isSyntax (by simpa using by decide)).append
      (chunk_printFields ft .nil fields)

/-- The rest of a list is a chunk. -/
theorem chunk_printItems (ft : FloatText) {sep : List Char} (hsep : Chunk sep) :
    ∀ items : List Json, Chunk (printItems ft sep items)
  | [] => chunk_of_isSyntax (by simpa [printItems] using by decide)
  | v :: rest => hsep.append ((chunk_printJson ft v).append
      (chunk_printItems ft (chunk_of_isSyntax (by simpa using by decide)) rest))

/-- The rest of an object is a chunk. -/
theorem chunk_printFields (ft : FloatText) {sep : List Char} (hsep : Chunk sep) :
    ∀ fields : List (String × Json), Chunk (printFields ft sep fields)
  | [] => chunk_of_isSyntax (by simpa [printFields] using by decide)
  | (k, v) :: rest => hsep.append ((chunk_quoted k).append
      ((chunk_of_isSyntax (by simpa using by decide)).append ((chunk_printJson ft v).append
        (chunk_printFields ft (chunk_of_isSyntax (by simpa using by decide)) rest))))

end

/-- Behind a bar inside a chunk there is no chunk. -/
theorem Chunk.not_of_bar {ws cs : List Char} (h : Chunk (ws ++ '|' :: cs)) : ¬ Chunk cs := by
  intro hcs
  have hclosed := h.closed
  rw [lex_append] at hclosed
  obtain ⟨s, -, hs⟩ := Option.bind_eq_some_iff.mp hclosed
  rw [lex_cons] at hs
  obtain ⟨t, ht, hend⟩ := Option.bind_eq_some_iff.mp hs
  -- the bar can stand inside a string only
  have hinside : t = .inside := by
    have houtside : Lexer.outside.step '|' = none := by decide
    have hescaped : Lexer.escaped.step '|' = none := by decide
    cases s with
    | outside => exact nomatch houtside.symm.trans ht
    | inside => exact (Option.some.inj ht).symm
    | escaped => exact nomatch hescaped.symm.trans ht
  obtain rfl := hinside
  exact nomatch hcs.odd _ hend

/-- The last of several bars in front of a chunk is determined. -/
theorem Chunk.bar_inj {us vs cs ds : List Char} (hc : Chunk cs) (hd : Chunk ds)
    (h : us ++ '|' :: cs = vs ++ '|' :: ds) : us = vs ∧ cs = ds := by
  rcases List.append_eq_append_iff.mp h with ⟨ws, hvs, hcs⟩ | ⟨ws, hus, hds⟩
  · cases ws with
    | nil =>
      rw [List.append_nil] at hvs
      rw [List.nil_append, List.cons.injEq] at hcs
      exact ⟨hvs.symm, hcs.2⟩
    | cons w rest =>
      rw [List.cons_append, List.cons.injEq] at hcs
      exact absurd hd (Chunk.not_of_bar (hcs.2 ▸ hc))
  · cases ws with
    | nil =>
      rw [List.append_nil] at hus
      rw [List.nil_append, List.cons.injEq] at hds
      exact ⟨hus, hds.2.symm⟩
    | cons w rest =>
      rw [List.cons_append, List.cons.injEq] at hds
      exact absurd hc (Chunk.not_of_bar (hds.2 ▸ hd))

end LcpGateway.Base
