import LcpGateway.Ui.Tables
import Mathlib.Data.String.Basic
import Mathlib.Data.Sum.Order
import Mathlib.Order.WithBot

/-!
# The conversation history

Library `Conversation`. Source `src/api/conv_store.py:233–316`, over the table `conversations` of
`src/api/work_conversations.py:107–120`. `list_conversations` counts the rows that match, resolves
the table state and reads one page of the rows in order. Every sort ends in the conversation's id,
which is the primary key, so the order of the rows is the same for every request.
-/

namespace LcpGateway.Conversation
open LcpGateway.Base LcpGateway.Ui

/-- A value that rows are ordered by: `NULL` first, then numbers, then texts by code points. -/
abbrev SqlValue : Type := WithBot (Lex (Int ⊕ String))

namespace SqlValue

/-- An integer column. -/
def ofInt (i : Option Int) : SqlValue := i.map (fun i ↦ toLex (.inl i))

/-- A text. -/
def ofText (s : String) : SqlValue := some (toLex (.inr s))

/-- Texts are told apart. -/
theorem ofText_inj {s t : String} (h : ofText s = ofText t) : s = t := by
  have hlex := Option.some.inj h
  exact Sum.inr.inj (toLex.injective hlex)

end SqlValue

/-- A row of `conversations`. -/
structure ConversationRow where
  conversationId : String
  name : Option String
  summary : Option String
  profile : Option String
  model : Option String
  source : Option String
  messageCount : Option Int
  activeMessageCount : Option Int
  toolCallCount : Option Int
  firstSeen : Option String
  lastSeen : Option String
  startedAt : Option String
  endedAt : Option String
  calls : Option Int
  tokens : Option Int
  cost : Option PyFloat
  errors : Option Int
  deriving DecidableEq, Repr

/-- The table `conversations`; the id is its primary key. -/
structure ConversationTable where
  rows : List ConversationRow
  nodup : (rows.map ConversationRow.conversationId).Nodup

/-- `COALESCE(last_seen, ended_at, first_seen, started_at, '')`. -/
def ConversationRow.lastActivity (r : ConversationRow) : String :=
  (r.lastSeen.or (r.endedAt.or (r.firstSeen.or r.startedAt))).getD ""

/-- `conversation_id DESC`, which ends every sort. -/
def byId : OrderTerm ConversationRow SqlValue where
  value r := SqlValue.ofText r.conversationId
  descending := true

/-- The other sorts of `HISTORY_SORTS`; `conv_store.py:240–242`. -/
def otherHistorySorts : List (SortSpec ConversationRow SqlValue) :=
  [{ key := "oldest"
     label := "Oldest activity first"
     order := [⟨fun r ↦ SqlValue.ofText r.lastActivity, false⟩, byId] },
   { key := "messages"
     label := "Most messages first"
     order := [⟨fun r ↦ SqlValue.ofInt r.messageCount, true⟩, byId] },
   { key := "calls"
     label := "Most tool calls first"
     order := [⟨fun r ↦ SqlValue.ofInt r.toolCallCount, true⟩, byId] }]

/-- `HISTORY_SORTS`; `conv_store.py:236–243`. -/
def historySorts : Sorts ConversationRow SqlValue where
  newest :=
    { key := "newest"
      label := "Newest activity first"
      order := [⟨fun r ↦ SqlValue.ofText r.lastActivity, true⟩, byId] }
  others := otherHistorySorts

/-- `text LIKE pattern`: `%` is any text, `_` any character, letters match in either case. -/
def likeChars : List Char → List Char → Bool
  | [], text => text.isEmpty
  | '%' :: pattern, text => text.tails.any (likeChars pattern)
  | '_' :: pattern, _ :: text => likeChars pattern text
  | c :: pattern, d :: text => c.toLower = d.toLower && likeChars pattern text
  | _ :: _, [] => false

/-- A column `LIKE '%q%'`; `NULL` does not match. -/
def likeAround (q : String) (column : Option String) : Bool :=
  column.any (fun text ↦ likeChars ('%' :: q.toList ++ ['%']) text.toList)

/-- The query parameters of the history. -/
structure HistoryParams extends TableParams where
  profile : Option String
  q : Option String
  deriving DecidableEq, Repr

/-- `str(params.get("profile") or "").strip()`. -/
def HistoryParams.profileFilter (params : HistoryParams) : String := strip (params.profile.getD "")

/-- `str(params.get("q") or "").strip()`. -/
def HistoryParams.search (params : HistoryParams) : String := strip (params.q.getD "")

/-- The `WHERE` clause. -/
def HistoryParams.selects (params : HistoryParams) (r : ConversationRow) : Bool :=
  (params.profileFilter = "" || r.profile = some params.profileFilter) &&
    (params.search = "" || likeAround params.search r.name ||
      likeAround params.search (some r.conversationId) || likeAround params.search r.summary)

/-- The rows that match. -/
def ConversationTable.matching (t : ConversationTable) (params : HistoryParams) :
    List ConversationRow := t.rows.filter params.selects

/-- `_conversation_profiles`; `conv_store.py:309–316`. -/
def ConversationTable.profiles (t : ConversationTable) : List String :=
  (((t.rows.filterMap ConversationRow.profile).filter (· ≠ "")).dedup).insertionSort (· ≤ ·)

/-- An entry of the history. -/
structure HistoryEntry where
  id : String
  name : Option String
  summary : Option String
  profile : Option String
  model : Option String
  source : Option String
  messages : Int
  activeMessages : Int
  toolCalls : Int
  startedAt : Option String
  lastAt : Option String
  calls : Int
  tokens : Int
  cost : PyFloat
  errors : Int
  deriving DecidableEq, Repr

/-- `a or b` on text columns. -/
def orText (a b : Option String) : Option String := if a.getD "" = "" then b else a

/-- The entry of a row; `conv_store.py:278–294`. -/
def ConversationRow.entry (r : ConversationRow) : HistoryEntry where
  id := r.conversationId
  name := r.name
  summary := r.summary
  profile := r.profile
  model := r.model
  source := r.source
  messages := r.messageCount.getD 0
  activeMessages := r.activeMessageCount.getD 0
  toolCalls := r.toolCallCount.getD 0
  startedAt := orText r.firstSeen r.startedAt
  lastAt := orText r.lastSeen r.endedAt
  calls := r.calls.getD 0
  tokens := r.tokens.getD 0
  cost := (r.cost.getD (.fin 0)).round 6
  errors := r.errors.getD 0

/-- `filter_payload`, with what the history adds to it; `tables.py:133–152`. -/
structure HistoryFilter where
  per : String
  page : Int
  pages : Int
  total : Int
  first : Int
  last : Int
  sort : String
  sortLabel : String
  sorts : List (String × String)
  perChoices : List String
  profile : String
  q : String
  profiles : List String
  deriving DecidableEq, Repr

/-- What `list_conversations` returns. -/
structure HistoryPage where
  conversations : List HistoryEntry
  total : Int
  filter : HistoryFilter
  deriving DecidableEq, Repr

/-- The table state of a request. -/
def historyState (t : ConversationTable) (params : HistoryParams) :
    TableState ConversationRow SqlValue :=
  state params.toTableParams historySorts (t.matching params).length

/-- The page of a request whose query returned these rows. -/
def historyPage (t : ConversationTable) (params : HistoryParams) (rows : List ConversationRow) :
    HistoryPage :=
  let st := historyState t params
  { conversations := rows.map ConversationRow.entry
    total := (t.matching params).length
    filter :=
      { per := st.per.text
        page := st.page
        pages := st.pages
        total := (t.matching params).length
        first := st.first
        last := st.last
        sort := st.sort
        sortLabel := st.sortLabel
        sorts := st.sorts
        perChoices := st.perChoices
        profile := params.profileFilter
        q := params.search
        profiles := t.profiles } }

/-- `list_conversations`; `conv_store.py:246–306`. -/
def listConversations (t : ConversationTable) (params : HistoryParams) : HistoryPage :=
  let st := historyState t params
  historyPage t params (rowsOf st (orderBy st.order (t.matching params)))

/-- An answer to a request: the rows come from any ordering of the matching rows by the terms of
the sort, as the database may sort them anew for each request. -/
def Answers (t : ConversationTable) (params : HistoryParams) (page : HistoryPage) : Prop :=
  ∃ l, Ordered (historyState t params).order (t.matching params) l ∧
    page = historyPage t params (rowsOf (historyState t params) l)

variable (t : ConversationTable) (params : HistoryParams)

/-- Every sort of the history ends in the id. -/
theorem byId_mem_order : byId ∈ (historyState t params).order := by
  have hall : ∀ spec ∈ historySorts.all, byId ∈ spec.order := by
    simp [Sorts.all, historySorts, otherHistorySorts]
  rw [historyState, order_state]
  exact hall _ (resolveSort_mem historySorts _)

/-- Every sort of the history tells the rows apart. -/
theorem separates_matching : Separates (historyState t params).order (t.matching params) := by
  intro a ha b hb h
  have hid : a.conversationId = b.conversationId :=
    SqlValue.ofText_inj (h byId (byId_mem_order t params))
  exact List.inj_on_of_nodup_map t.nodup (List.mem_of_mem_filter ha) (List.mem_of_mem_filter hb) hid

/-- No row is there twice. -/
theorem nodup_matching : (t.matching params).Nodup := (List.Nodup.of_map _ t.nodup).filter _

/-- The answer to a request is determined, however the rows are sorted for it. -/
theorem answers_iff (page : HistoryPage) :
    Answers t params page ↔ page = listConversations t params := by
  have hsorted := ordered_orderBy (historyState t params).order (t.matching params)
  constructor
  · rintro ⟨l, hl, rfl⟩
    rw [hl.unique (separates_matching t params) hsorted]
    rfl
  · rintro rfl
    exact ⟨_, hsorted, rfl⟩

/-- The rows of a table in pages: `l` is the matching rows in the order of the sort, each once;
the pages that are requested one after the other are `l`; a page number outside the range gets the
nearest page; and the row numbers of an answer are those of its entries in `l`. -/
structure PagesThrough (l : List ConversationRow) : Prop where
  rows : l.Perm (t.matching params)
  sorted : l.Pairwise (fun a b ↦ before (historyState t params).order a b = true)
  enumerates : ∀ (texts : Nat → String) (answers : Nat → HistoryPage),
    (∀ k, 1 ≤ k → k ≤ (historyState t params).pages.toNat → intOfStr (texts k) = some (k : Int) ∧
      Answers t { params with page := some (texts k) } (answers k)) →
    (List.range' 1 (historyState t params).pages.toNat).flatMap
      (fun k ↦ (answers k).conversations) = l.map ConversationRow.entry
  clamps : ∀ (text nearest : String) (n : Int) (answer answer' : HistoryPage),
    intOfStr text = some n → intOfStr nearest = some (max 1 (min n (historyState t params).pages)) →
    Answers t { params with page := some text } answer →
    Answers t { params with page := some nearest } answer' →
    answer.filter.page = max 1 (min n (historyState t params).pages) ∧ answer = answer'
  windows : ∀ answer, Answers t params answer →
    answer.filter.total = l.length ∧
    (l = [] → answer.filter.first = 0 ∧ answer.filter.last = 0 ∧ answer.conversations = []) ∧
    (l ≠ [] → 1 ≤ answer.filter.first ∧ answer.filter.first ≤ answer.filter.last ∧
      answer.filter.last ≤ l.length ∧
      (answer.conversations.length : Int) = answer.filter.last - answer.filter.first + 1 ∧
      answer.conversations = piece (answer.filter.first - 1).toNat
        (answer.filter.last - answer.filter.first + 1).toNat (l.map ConversationRow.entry))

/-- The numbers that a page reports are those of the state. -/
theorem filter_historyPage (rows : List ConversationRow) :
    (historyPage t params rows).filter.page = (historyState t params).page ∧
      (historyPage t params rows).filter.total = (t.matching params).length ∧
      (historyPage t params rows).filter.first = (historyState t params).first ∧
      (historyPage t params rows).filter.last = (historyState t params).last := by
  simp only [historyPage, and_self]

/-- The entries of a page. -/
@[simp] theorem conversations_historyPage (rows : List ConversationRow) :
    (historyPage t params rows).conversations = rows.map ConversationRow.entry := by
  simp only [historyPage]

/-- Requests that see one state, and the same rows, are answered alike. -/
theorem listConversations_congr {p p' : HistoryParams}
    (hstate : historyState t p = historyState t p') (hmatching : t.matching p = t.matching p')
    (hprofile : p.profileFilter = p'.profileFilter) (hsearch : p.search = p'.search) :
    listConversations t p = listConversations t p' := by
  simp only [listConversations, historyPage, hstate, hmatching, hprofile, hsearch]

/-- The page parameter does not change which rows match. -/
@[simp] theorem matching_page (text : Option String) :
    t.matching { params with page := text } = t.matching params := rfl

/-- The page parameter does not change the number of pages. -/
theorem pages_page (text : Option String) :
    (historyState t { params with page := text }).pages = (historyState t params).pages :=
  pages_congr text

/-- The page parameter does not change the order. -/
theorem order_page (text : Option String) :
    (historyState t { params with page := text }).order = (historyState t params).order := by
  simp only [historyState, order_state, matching_page]

/-- The entries of an answer are read from the ordered rows. -/
theorem conversations_of_answers {page : HistoryPage} {l : List ConversationRow}
    (hl : Ordered (historyState t params).order (t.matching params) l)
    (h : Answers t params page) :
    page = historyPage t params (rowsOf (historyState t params) l) := by
  obtain ⟨l', hl', rfl⟩ := h
  rw [hl'.unique (separates_matching t params) hl]

/-- The pages of the ordered rows, requested in turn, are the rows. -/
theorem flatMap_conversations {l : List ConversationRow} {texts : Nat → String}
    {answers : Nat → HistoryPage}
    (hl : Ordered (historyState t params).order (t.matching params) l)
    (hanswers : ∀ k, 1 ≤ k → k ≤ (historyState t params).pages.toNat →
      intOfStr (texts k) = some (k : Int) ∧
        Answers t { params with page := some (texts k) } (answers k)) :
    (List.range' 1 (historyState t params).pages.toNat).flatMap
      (fun k ↦ (answers k).conversations) = l.map ConversationRow.entry := by
  have hlength : (t.matching params).length = l.length := hl.perm.length_eq.symm
  have hentries : ∀ k ∈ List.range' 1 (historyState t params).pages.toNat,
      (answers k).conversations =
        (rowsOf (historyState t { params with page := some (texts k) }) l).map
          ConversationRow.entry := by
    intro k hk
    rw [List.mem_range'_1] at hk
    obtain ⟨-, hanswer⟩ := hanswers k hk.1 (by omega)
    have hl' : Ordered (historyState t { params with page := some (texts k) }).order
        (t.matching { params with page := some (texts k) }) l := by
      rw [order_page]
      exact hl
    rw [conversations_of_answers t _ hl' hanswer, conversations_historyPage]
  rw [List.flatMap_congr hentries, ← List.map_flatMap]
  have hpages := flatMap_rowsOf params.toTableParams historySorts l (fun k ↦ some (texts k)) (by
    intro k hone hk
    rw [← hlength] at hk
    rw [parsePage_of_intOfStr (hanswers k hone hk).1]
    omega)
  rw [← hlength] at hpages
  exact congrArg (List.map ConversationRow.entry) hpages

/-- A page number outside the range gets the nearest page. -/
theorem page_of_intOfStr {text : String} {n : Int} (h : intOfStr text = some n) :
    (historyState t { params with page := some text }).page =
      max 1 (min n (historyState t params).pages) := by
  have hone : 1 ≤ (historyState t params).pages := one_le_pages _ _ _
  have hpage := page_state { params.toTableParams with page := some text } historySorts
    (t.matching params).length
  rw [pages_congr, parsePage_of_intOfStr h] at hpage
  refine Eq.trans hpage ?_
  change max 1 (min (max 1 n) (historyState t params).pages) = _
  omega

/-- The history of any table is paged through, whatever the sort and the page size. -/
theorem listConversations_pagesThrough : ∃ l, PagesThrough t params l := by
  have hordered := ordered_orderBy (historyState t params).order (t.matching params)
  generalize orderBy (historyState t params).order (t.matching params) = l at hordered
  have hlength : (t.matching params).length = l.length := hordered.perm.length_eq.symm
  refine ⟨l, hordered.perm,
    hordered.strict (separates_matching t params) (nodup_matching t params),
    fun texts answers hanswers ↦ flatMap_conversations t params hordered hanswers, ?_, ?_⟩
  · intro text nearest n answer answer' htext hnearest hanswer hanswer'
    have hpage := page_of_intOfStr t params htext
    have hpage' := page_of_intOfStr t params hnearest
    have hone : 1 ≤ (historyState t params).pages := one_le_pages _ _ _
    have hstate : historyState t { params with page := some text } =
        historyState t { params with page := some nearest } := by
      refine state_congr params.toTableParams ?_
      refine hpage.trans (Eq.trans ?_ hpage'.symm)
      omega
    rw [answers_iff] at hanswer hanswer'
    subst hanswer hanswer'
    refine ⟨?_, listConversations_congr t hstate rfl rfl rfl⟩
    rw [listConversations, (filter_historyPage t _ _).1, hpage]
  · intro answer hanswer
    obtain ⟨-, htotal, hfirst, hlast⟩ :=
      filter_historyPage t params (rowsOf (historyState t params) l)
    have hfits : WindowFits (historyState t params) l (rowsOf (historyState t params) l) := by
      have hwindow := windowFits params.toTableParams historySorts l
      rwa [← hlength] at hwindow
    rw [conversations_of_answers t params hordered hanswer, htotal, hfirst, hlast,
      conversations_historyPage, hlength]
    refine ⟨rfl, ?_, ?_⟩
    · intro hempty
      obtain ⟨hfirst, hlast, hrows⟩ := hfits.empty hempty
      exact ⟨hfirst, hlast, by rw [hrows, List.map_nil]⟩
    · intro hne
      obtain ⟨hfirst, horder, hlast⟩ := hfits.bounds hne
      refine ⟨hfirst, horder, hlast, ?_, ?_⟩
      · rw [List.length_map, hfits.length hne]
      · rw [← map_piece, ← hfits.rows hne]

/-- Every page number, in decimal, gets the nearest page. -/
def ClampsNumbers : Prop := ∀ n : Nat,
  (listConversations t { params with page := some n.repr }).filter.page =
    max 1 (min (n : Int) (historyState t params).pages)

/-- A conversation of which nothing but the id is known. -/
def bareConversation (id : String) : ConversationRow where
  conversationId := id
  name := none
  summary := none
  profile := none
  model := none
  source := none
  messageCount := none
  activeMessageCount := none
  toolCallCount := none
  firstSeen := none
  lastSeen := none
  startedAt := none
  endedAt := none
  calls := none
  tokens := none
  cost := none
  errors := none

/-- Two conversations. -/
def twoBareRows : ConversationTable where
  rows := [bareConversation "a", bareConversation "b"]
  nodup := by decide

/-- One row on a page. -/
def onePerPage : HistoryParams where
  per := some "1"
  page := none
  sort := none
  profile := none
  q := none

/-- A page number of more digits than `int` reads gets the first page in place of the last. -/
theorem not_clampsNumbers_twoBareRows : ¬ ClampsNumbers twoBareRows onePerPage := by
  intro h
  have hpages : (historyState twoBareRows onePerPage).pages = 2 := by decide +kernel
  obtain ⟨n, hn⟩ : ∃ n : Nat, 10 ^ 4300 ≤ n := ⟨_, le_refl _⟩
  have htwo : 2 ≤ n := by
    have hten : 10 ≤ 10 ^ 4300 := Nat.le_self_pow (by norm_num) 10
    omega
  have hpage : (historyState twoBareRows { onePerPage with page := some n.repr }).page = 1 := by
    have hstate := page_state { onePerPage.toTableParams with page := some n.repr } historySorts
      (twoBareRows.matching onePerPage).length
    rw [parsePage_repr, if_neg (by omega)] at hstate
    refine Eq.trans hstate ?_
    have hone : (1 : Int) ≤ (state { onePerPage.toTableParams with page := some n.repr }
        historySorts (twoBareRows.matching onePerPage).length).pages := one_le_pages _ _ _
    omega
  have hclamped := h n
  rw [listConversations, (filter_historyPage twoBareRows _ _).1, hpage, hpages] at hclamped
  omega

end LcpGateway.Conversation
