import LcpGateway.Base.Casing
import LcpGateway.Base.Numeral
import LcpGateway.Base.Paging

/-!
# The shared table state

Library `Ui`. Source `src/ui/tables.py`. A request names a page, a page size and a sort key in its
query; the state resolves them against the number of rows, and the limit clause reads one page of
the ordered rows. The order fragment of a sort is the list of terms that it orders by.
-/

namespace LcpGateway.Ui
open LcpGateway.Base

universe u v

/-- The query parameters of a table; `none` is a missing one. -/
structure TableParams where
  per : Option String
  page : Option String
  sort : Option String
  deriving DecidableEq, Repr

/-- A page size, or everything on one page. -/
inductive Per where
  | all
  | size (n : Int)
  deriving DecidableEq, Repr

/-- `str(per)`. -/
def Per.text : Per → String
  | .all => "all"
  | .size n => toString n

/-- `PER_CHOICES`; `tables.py:34`. -/
def perChoices : List String := ["20", "50", "100"]

/-- `PER_MAX`; `tables.py:35`. -/
def perMax : Int := 500

/-- `parse_per`; `tables.py:42–54`. -/
def parsePer (raw : Option String) : Per :=
  let value := lower (strip (raw.getD "20"))
  if value = "all" then .all
  else match intOfStr value with
    | some n => .size (max 1 (min perMax n))
    | none => .size 20

/-- `parse_page`: a text that `int` refuses is page one; `tables.py:57–62`. -/
def parsePage (raw : Option String) : Int :=
  let text := if raw.getD "" = "" then "1" else raw.getD ""
  match intOfStr (strip text) with
  | some n => max 1 n
  | none => 1

variable {α : Type u} {κ : Type v}

/-- A sort that a view offers: its key, its label and the terms it orders by. -/
structure SortSpec (α : Type u) (κ : Type v) where
  key : String
  label : String
  order : List (OrderTerm α κ)

/-- The sorts of a view; the first one is the default. -/
structure Sorts (α : Type u) (κ : Type v) where
  newest : SortSpec α κ
  others : List (SortSpec α κ)

/-- All sorts of a view. -/
def Sorts.all (sorts : Sorts α κ) : List (SortSpec α κ) := sorts.newest :: sorts.others

/-- `resolve_sort`; `tables.py:65–72`. -/
def resolveSort (sorts : Sorts α κ) (requested : Option String) : SortSpec α κ :=
  let key := strip (requested.getD "")
  (sorts.all.find? (fun spec ↦ spec.key == key)).getD sorts.newest

/-- `paginate`: the page, the number of pages and the offset; `tables.py:75–87`. -/
def paginate (total : Int) (per : Per) (page : Int) : Int × Int × Int :=
  let total := max 0 total
  match per with
  | .all => (1, 1, 0)
  | .size n =>
    let pages := max 1 (-((-total).fdiv n))
    let page := max 1 (min page pages)
    (page, pages, (page - 1) * n)

/-- `row_window`: the numbers of the first and the last row; `tables.py:90–97`. -/
def rowWindow (total : Int) (per : Per) (page : Int) : Int × Int :=
  let total := max 0 total
  if total = 0 then (0, 0)
  else match per with
    | .all => (1, total)
    | .size n => (1 + (page - 1) * n, min total (page * n))

/-- What `state` resolves. -/
structure TableState (α : Type u) (κ : Type v) where
  per : Per
  page : Int
  pages : Int
  offset : Int
  sort : String
  sortLabel : String
  order : List (OrderTerm α κ)
  sorts : List (String × String)
  perChoices : List String
  total : Int
  first : Int
  last : Int

/-- `state`; `tables.py:100–130`. -/
def state (params : TableParams) (sorts : Sorts α κ) (total : Int) : TableState α κ :=
  let per := parsePer params.per
  let page := parsePage params.page
  let spec := resolveSort sorts params.sort
  let (page, pages, offset) := paginate total per page
  let (first, last) := rowWindow total per page
  { per, page, pages, offset
    sort := spec.key
    sortLabel := spec.label
    order := spec.order
    sorts := sorts.all.map (fun s ↦ (s.key, s.label))
    perChoices
    total, first, last }

/-- `limit_clause`: the limit and the offset, or no clause; `tables.py:155–159`. -/
def limitClause (st : TableState α κ) : Option (Int × Int) :=
  match st.per with
  | .all => none
  | .size n => some (n, st.offset)

/-- The rows that a limit clause leaves; a negative limit is none. -/
def applyLimit (clause : Option (Int × Int)) (rows : List α) : List α :=
  match clause with
  | none => rows
  | some (limit, offset) =>
    if limit < 0 then rows.drop offset.toNat else piece offset.toNat limit.toNat rows

/-! ### One page -/

variable {params : TableParams} {sorts : Sorts α κ} {total n : Int}

/-- A page size is from one to the greatest. -/
theorem parsePer_size {raw : Option String} (h : parsePer raw = .size n) : 1 ≤ n ∧ n ≤ perMax := by
  unfold parsePer at h
  dsimp only at h
  split_ifs at h
  split at h
  · obtain rfl := Per.size.inj h
    unfold perMax
    omega
  · obtain rfl := Per.size.inj h
    decide

/-- A request resolves to a sort that the view offers. -/
theorem resolveSort_mem (sorts : Sorts α κ) (requested : Option String) :
    resolveSort sorts requested ∈ sorts.all := by
  unfold resolveSort
  dsimp only
  cases h : sorts.all.find? (fun spec ↦ spec.key == strip (requested.getD "")) with
  | none => exact List.mem_cons_self
  | some spec => exact List.mem_of_find?_eq_some h

/-- A text that `int` reads names its number, or the first page. -/
theorem parsePage_of_intOfStr {text : String} {k : Int} (h : intOfStr text = some k) :
    parsePage (some text) = max 1 k := by
  have hne : text ≠ "" := by
    rintro rfl
    have hnone : intOfStr "" = none := by decide
    cases h.symm.trans hnone
  have hstrip : intOfStr (strip text) = some k := by
    rw [← h]
    simp only [intOfStr, strip_strip]
  unfold parsePage
  simp [hne, hstrip]

/-- A page number in decimal is read unless it has too many digits; then it names the first page. -/
theorem parsePage_repr (n : Nat) :
    parsePage (some n.repr) = if n < 10 ^ 4300 then max 1 (n : Int) else 1 := by
  have hread := intOfStr_repr n
  split_ifs at hread ⊢ with h
  · exact parsePage_of_intOfStr hread
  · have hstrip : intOfStr (strip n.repr) = none := by
      rw [← hread]
      simp only [intOfStr, strip_strip]
    unfold parsePage
    simp [Nat.repr_ne_empty, hstrip]

/-- A page number is one at least. -/
theorem one_le_parsePage (raw : Option String) : 1 ≤ parsePage raw := by
  unfold parsePage
  dsimp only
  split
  · exact le_max_left _ _
  · exact le_refl _

/-- Negated floor division by a positive size is the number of pages that the rows fill. -/
theorem ceilDiv_spec (total : Int) (hn : 0 < n) :
    total ≤ -((-total).fdiv n) * n ∧ (-((-total).fdiv n) - 1) * n < total := by
  rw [Int.fdiv_eq_ediv_of_nonneg _ hn.le]
  have hlow := Int.ediv_mul_le (-total) hn.ne'
  have hhigh := Int.lt_ediv_add_one_mul_self (-total) hn
  constructor <;> linarith

/-- The state of a table on one page. -/
theorem state_all (h : parsePer params.per = .all) :
    (state params sorts total).page = 1 ∧ (state params sorts total).pages = 1 ∧
      limitClause (state params sorts total) = none := by
  simp [state, h, paginate, limitClause]

/-- The state of a table with a page size. -/
theorem state_size (h : parsePer params.per = .size n) :
    (state params sorts total).pages = max 1 (-((-max 0 total).fdiv n)) ∧
      (state params sorts total).page =
        max 1 (min (parsePage params.page) (state params sorts total).pages) ∧
      limitClause (state params sorts total) =
        some (n, ((state params sorts total).page - 1) * n) := by
  simp [state, h, paginate, limitClause]

/-- There is a page. -/
theorem one_le_pages (params : TableParams) (sorts : Sorts α κ) (total : Int) :
    1 ≤ (state params sorts total).pages := by
  cases hper : parsePer params.per with
  | all => rw [(state_all hper).2.1]
  | size n =>
    rw [(state_size hper).1]
    omega

/-- A request gets the page it names, or the nearest one that there is. -/
theorem page_state (params : TableParams) (sorts : Sorts α κ) (total : Int) :
    (state params sorts total).page =
      max 1 (min (parsePage params.page) (state params sorts total).pages) := by
  cases hper : parsePer params.per with
  | all =>
    have hpage := one_le_parsePage params.page
    rw [(state_all hper).1, (state_all hper).2.1]
    omega
  | size n => exact (state_size hper).2.1

/-- Requests that differ in the page only see the same pages. -/
theorem pages_congr (text : Option String) :
    (state { params with page := text } sorts total).pages = (state params sorts total).pages := by
  cases hper : parsePer params.per with
  | all =>
    have hper' : parsePer { params with page := text }.per = .all := hper
    rw [(state_all hper).2.1, (state_all hper').2.1]
  | size n =>
    have hper' : parsePer { params with page := text }.per = .size n := hper
    rw [(state_size hper).1, (state_size hper').1]

/-- Requests that differ in the page only and get one page see one state. -/
theorem state_congr (params : TableParams) {text text' : Option String}
    (h : (state { params with page := text } sorts total).page =
      (state { params with page := text' } sorts total).page) :
    state { params with page := text } sorts total =
      state { params with page := text' } sorts total := by
  cases hper : parsePer params.per with
  | all => simp [state, hper, paginate]
  | size n =>
    simp only [state, hper, paginate] at h ⊢
    rw [h]

/-- The rows are ordered by the sort that the request resolves to. -/
@[simp] theorem order_state :
    (state params sorts total).order = (resolveSort sorts params.sort).order := by
  simp [state]

/-- The rows that a request reads from the ordered rows. -/
def rowsOf (st : TableState α κ) (l : List α) : List α := applyLimit (limitClause st) l

/-- What the numbers of the first and the last row say about the rows of a page. -/
structure WindowFits (st : TableState α κ) (l rows : List α) : Prop where
  empty : l = [] → st.first = 0 ∧ st.last = 0 ∧ rows = []
  bounds : l ≠ [] → 1 ≤ st.first ∧ st.first ≤ st.last ∧ st.last ≤ l.length
  length : l ≠ [] → (rows.length : Int) = st.last - st.first + 1
  rows : l ≠ [] → rows = piece (st.first - 1).toNat (st.last - st.first + 1).toNat l

/-- A page between the first and the last one begins within the rows. -/
theorem page_bounds (page : Int) (hn : 1 ≤ n) (htotal : 0 < total) (hpage : 1 ≤ page)
    (hlast : page ≤ max 1 (-((-total).fdiv n))) : 1 + (page - 1) * n ≤ min total (page * n) := by
  obtain ⟨-, hhigh⟩ := ceilDiv_spec total (n := n) (by omega)
  have hstart : (page - 1) * n < total := by
    rcases le_max_iff.mp hlast with hone | hceil
    · obtain rfl : page = 1 := by omega
      simpa using htotal
    · exact lt_of_le_of_lt (mul_le_mul_of_nonneg_right (by omega) (by omega)) hhigh
  have hsize : (page - 1) * n + n = page * n := by ring
  omega

/-- The row numbers are those of the page that the request gets. -/
theorem window_state (params : TableParams) (sorts : Sorts α κ) (total : Int) :
    ((state params sorts total).first, (state params sorts total).last) =
      rowWindow total (parsePer params.per) (state params sorts total).page := by
  simp [state]

/-- The row numbers of a table with rows. -/
theorem rowWindow_of_pos (h : 0 < total) (per : Per) (page : Int) :
    rowWindow total per page = match per with
      | .all => (1, total)
      | .size n => (1 + (page - 1) * n, min total (page * n)) := by
  have hmax : max 0 total = total := max_eq_right h.le
  simp only [rowWindow, hmax, if_neg h.ne']

/-- Everything on one page. -/
theorem rowsOf_all {l : List α} (h : parsePer params.per = .all) :
    rowsOf (state params sorts total) l = l := by
  rw [rowsOf, (state_all h).2.2, applyLimit]

/-- The rows that a page size leaves. -/
theorem rowsOf_size {l : List α} (h : parsePer params.per = .size n) :
    rowsOf (state params sorts total) l =
      piece (((state params sorts total).page - 1) * n).toNat n.toNat l := by
  have hsize := parsePer_size h
  rw [rowsOf, (state_size h).2.2, applyLimit, if_neg (by omega)]

/-- A piece may be cut at the end of the list. -/
theorem piece_min {offset limit : Nat} {l : List α} (h : offset ≤ l.length) :
    piece offset limit l = piece offset (min l.length (offset + limit) - offset) l := by
  have hcut : min l.length (offset + limit) - offset = min limit (l.drop offset).length := by
    rw [List.length_drop]
    omega
  rw [piece, piece, hcut, List.take_eq_take_min]

/-- The offset of a page, as a natural number. -/
theorem toNat_offset {k : Nat} (hk : 1 ≤ k) (hn : 1 ≤ n) :
    (((k : Int) - 1) * n).toNat = (k - 1) * n.toNat := by
  obtain ⟨m, rfl⟩ := Int.eq_ofNat_of_zero_le (by omega : 0 ≤ n)
  obtain ⟨j, rfl⟩ := Nat.exists_eq_add_of_le' hk
  push_cast
  rw [add_sub_cancel_right, Int.toNat_natCast]
  exact Int.toNat_natCast (j * m)

/-- The numbers of the first and the last row are those of the rows. -/
theorem windowFits (params : TableParams) (sorts : Sorts α κ) (l : List α) :
    WindowFits (state params sorts l.length) l (rowsOf (state params sorts l.length) l) := by
  have hwindow := window_state params sorts l.length
  by_cases hempty : l = []
  · subst hempty
    refine ⟨fun _ ↦ ?_, fun h ↦ absurd rfl h, fun h ↦ absurd rfl h, fun h ↦ absurd rfl h⟩
    simp only [List.length_nil, Nat.cast_zero, rowWindow, max_self, ↓reduceIte,
      Prod.mk.injEq] at hwindow
    refine ⟨hwindow.1, hwindow.2, ?_⟩
    cases hper : parsePer params.per with
    | all => exact rowsOf_all hper
    | size n => simp [rowsOf_size hper, piece]
  have hpos : 0 < (l.length : Int) := by exact_mod_cast List.length_pos_of_ne_nil hempty
  rw [rowWindow_of_pos hpos] at hwindow
  suffices h : 1 ≤ (state params sorts l.length).first ∧
      (state params sorts l.length).first ≤ (state params sorts l.length).last ∧
      (state params sorts l.length).last ≤ l.length ∧
      rowsOf (state params sorts l.length) l =
        piece ((state params sorts l.length).first - 1).toNat
          ((state params sorts l.length).last - (state params sorts l.length).first + 1).toNat l by
    obtain ⟨hfirst, horder, hlast, hrows⟩ := h
    refine ⟨fun h ↦ absurd h hempty, fun _ ↦ ⟨hfirst, horder, hlast⟩, ?_, fun _ ↦ hrows⟩
    intro _
    rw [hrows, length_piece]
    omega
  cases hper : parsePer params.per with
  | all =>
    simp only [hper, Prod.mk.injEq] at hwindow
    obtain ⟨hfirst, hlast⟩ := hwindow
    rw [hfirst, hlast, rowsOf_all hper]
    refine ⟨le_refl _, by omega, le_refl _, ?_⟩
    simp [piece]
  | size n =>
    have hsize := parsePer_size hper
    simp only [hper, Prod.mk.injEq] at hwindow
    have hpage := page_state params sorts l.length
    have hone := one_le_pages params sorts l.length
    have hpages : (state params sorts l.length).pages =
        max 1 (-((-max 0 (l.length : Int)).fdiv n)) := (state_size hper).1
    rw [rowsOf_size hper]
    generalize (state params sorts l.length).first = first at *
    generalize (state params sorts l.length).last = last at *
    generalize (state params sorts l.length).pages = pages at *
    generalize (state params sorts l.length).page = page at *
    obtain ⟨rfl, rfl⟩ := hwindow
    rw [max_eq_right hpos.le] at hpages
    have hbounds := page_bounds page hsize.1 hpos (by omega) (by omega)
    have hstart : 0 ≤ (page - 1) * n := mul_nonneg (by omega) (by omega)
    have hnext : (page - 1) * n + n = page * n := by ring
    refine ⟨by omega, hbounds, by omega, ?_⟩
    rw [piece_min (by omega)]
    generalize page * n = next at *
    generalize (page - 1) * n = start at *
    have hoffset : (1 + start - 1).toNat = start.toNat := by omega
    have hlimit : min l.length (start.toNat + n.toNat) - start.toNat =
        (min (l.length : Int) next - (1 + start) + 1).toNat := by omega
    rw [hoffset, hlimit]

/-- The pages of a table, requested in turn, are its rows in order. -/
theorem flatMap_rowsOf (params : TableParams) (sorts : Sorts α κ) (l : List α)
    (texts : Nat → Option String)
    (htexts : ∀ k, 1 ≤ k → k ≤ (state params sorts l.length).pages.toNat →
      parsePage (texts k) = k) :
    (List.range' 1 (state params sorts l.length).pages.toNat).flatMap
      (fun k ↦ rowsOf (state { params with page := texts k } sorts l.length) l) = l := by
  cases hper : parsePer params.per with
  | all =>
    have hrows : ∀ text, rowsOf (state { params with page := text } sorts l.length) l = l := by
      intro text
      have hper' : parsePer { params with page := text }.per = .all := hper
      exact rowsOf_all hper'
    simp [(state_all hper).2.1, hrows]
  | size n =>
    have hsize := parsePer_size hper
    have hpages : (state params sorts l.length).pages =
        max 1 (-((-max 0 (l.length : Int)).fdiv n)) := (state_size hper).1
    have hpiece : ∀ k ∈ List.range' 1 (state params sorts l.length).pages.toNat,
        rowsOf (state { params with page := texts k } sorts l.length) l =
          piece ((k - 1) * n.toNat) n.toNat l := by
      intro k hk
      rw [List.mem_range'_1] at hk
      have hpage : (state { params with page := texts k } sorts l.length).page = k := by
        rw [page_state, pages_congr, htexts k hk.1 (by omega)]
        omega
      have hper' : parsePer { params with page := texts k }.per = .size n := hper
      rw [rowsOf_size hper', hpage, toNat_offset hk.1 hsize.1]
    rw [List.flatMap_congr hpiece]
    refine flatMap_piece_eq ?_
    obtain ⟨hlow, -⟩ := ceilDiv_spec (l.length : Int) (n := n) (by omega)
    have hnat : (0 : Int) ≤ l.length := Int.natCast_nonneg _
    rw [max_eq_right hnat] at hpages
    have henough : (l.length : Int) ≤ (state params sorts l.length).pages * n := by
      refine hlow.trans (mul_le_mul_of_nonneg_right ?_ (by omega))
      rw [hpages]
      exact le_max_right _ _
    have hone := one_le_pages params sorts l.length
    have hcast : ((state params sorts l.length).pages.toNat * n.toNat : Int) =
        (state params sorts l.length).pages * n := by
      rw [Int.toNat_of_nonneg (by omega), Int.toNat_of_nonneg (by omega)]
    exact_mod_cast henough.trans_eq hcast.symm

end LcpGateway.Ui
