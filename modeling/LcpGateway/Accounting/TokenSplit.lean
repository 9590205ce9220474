import LcpGateway.Accounting.OwnRates
import LcpGateway.Accounting.Usage

/-!
# Hits and misses

Library `Accounting`. Source `src/api/request_pipeline.py:428–473,498–572`. The tokens of a prompt
are split into those the provider found in its cache and the others. Hits are the first hit field
that is reported; misses are taken as reported, and derived only where they are not.
-/

namespace LcpGateway.Accounting
open LcpGateway.Base LcpGateway.Config

/-- A count. -/
def countOf : Json → Option Nat
  | .int i => some i.toNat
  | _ => none

/-- What is reported under a field, if anything. -/
def reported (usage : Json) (field : String) : Option Nat := (usage.get? field).bind countOf

/-- The first hit field that is reported. -/
def reportedHits (usage : Json) (fields : List String) : Option Nat :=
  fields.findSome? fun field ↦ countOf (readPath usage (splitPath field))

/-- A field that is missing or a non-negative integer. -/
def WholeOrMissing (field : Option Json) : Prop := field = none ∨ ∃ n : Nat, field = some (.int n)

/-- A usage block whose counts are non-negative integers, where it has them. -/
structure WholeCounts (hitFields : List String) (usage : Json) : Prop where
  object : usage.isObj = true
  prompt : WholeOrMissing (usage.get? "prompt_tokens")
  completion : WholeOrMissing (usage.get? "completion_tokens")
  miss : WholeOrMissing (usage.get? "prompt_cache_miss_tokens")
  hits : ∀ field ∈ hitFields, readPath usage (splitPath field) = .null ∨
    ∃ n : Nat, readPath usage (splitPath field) = .int n

/-- The report splits the prompt: the misses are what the hits leave of it, or they are not reported
and the hits leave something. -/
def SplitsPrompt (prompt hits : Nat) (miss : Option Nat) : Prop :=
  match miss with
  | some m => hits + m = prompt
  | none => hits ≤ prompt

variable {usage : Json} {hitFields : List String}

/-- A missing count is zero. -/
theorem tokenField_of_whole {field : String} (h : WholeOrMissing (usage.get? field)) :
    tokenField usage field = .int ((reported usage field).getD 0 : Nat) := by
  unfold tokenField reported
  obtain h | ⟨n, h⟩ := h
  · rw [h]
    rfl
  · rw [h]
    rfl

/-- The hit loop takes the first reported field. -/
theorem readCacheHits_of_whole
    (h : ∀ field ∈ hitFields, readPath usage (splitPath field) = .null ∨
      ∃ n : Nat, readPath usage (splitPath field) = .int n) :
    readCacheHits usage hitFields = some (((reportedHits usage hitFields).getD 0 : Nat) : Int) := by
  induction hitFields with
  | nil => rfl
  | cons field rest ih =>
    have hrest := ih fun f hf ↦ h f (List.mem_cons_of_mem _ hf)
    unfold readCacheHits
    rw [reportedHits, List.findSome?_cons]
    obtain hnull | ⟨n, hn⟩ := h field List.mem_cons_self
    · rw [hnull]
      exact hrest
    · rw [hn]
      simp [Json.toInt, countOf]

/-- The default for the misses is what the hits leave of the prompt. -/
theorem missDefault_int (prompt hits : Nat) :
    missDefault (.int prompt) hits = some (.int (prompt - hits : Nat)) := by
  unfold missDefault
  simp only [Json.number?, Option.map_some, PyFloat.gtInt, Int.cast_natCast, Nat.cast_lt,
    decide_eq_true_eq, Json.subInt]
  split
  · next h => rw [Int.ofNat_sub h.le]
  · next h =>
    have hzero : prompt - hits = 0 := by omega
    rw [hzero]
    rfl

/-- What `calculate_cost` records of whole counts. -/
theorem tokens_of_calculateCost {cfg : GatewayConfig} {book : PriceBook} {ts : BillingTime}
    {provider model : String} {info : CostInfo}
    (h : WholeCounts (book.cacheFields provider) usage)
    (hinfo : calculateCost cfg book ts provider model usage = some info) :
    info.promptTokens = .int ((reported usage "prompt_tokens").getD 0 : Nat) ∧
      info.completionTokens = .int ((reported usage "completion_tokens").getD 0 : Nat) ∧
      info.cacheHitTokens = ((reportedHits usage (book.cacheFields provider)).getD 0 : Nat) ∧
      info.cacheMissTokens = .int ((reported usage "prompt_cache_miss_tokens").getD
        ((reported usage "prompt_tokens").getD 0 -
          (reportedHits usage (book.cacheFields provider)).getD 0) : Nat) := by
  have hmiss : ∀ fallback : Nat, (usage.get? "prompt_cache_miss_tokens").getD (.int fallback) =
      .int ((reported usage "prompt_cache_miss_tokens").getD fallback : Nat) := by
    intro fallback
    unfold reported
    obtain hnone | ⟨n, hn⟩ := h.miss
    · rw [hnone]
      rfl
    · rw [hn]
      rfl
  unfold calculateCost at hinfo
  rw [h.object] at hinfo
  simp only [Bool.not_true, Bool.false_eq_true, if_false, readCacheHits_of_whole h.hits,
    tokenField_of_whole h.prompt, tokenField_of_whole h.completion, Option.bind_eq_bind,
    Option.bind_some, missDefault_int, hmiss] at hinfo
  obtain ⟨priced, -, hpriced⟩ := Option.bind_eq_some_iff.mp hinfo
  obtain rfl := Option.some.inj hpriced
  exact ⟨rfl, rfl, rfl, rfl⟩

/-- Of whole counts the recorded ones are non-negative: the first reported hit field, and the
reported misses or what the hits leave. They add up to the prompt exactly when the report splits
it. -/
theorem calculateCost_splits_iff (cfg : GatewayConfig) (book : PriceBook) (ts : BillingTime)
    (provider model : String) (usage : Json) (info : CostInfo)
    (h : WholeCounts (book.cacheFields provider) usage)
    (hinfo : calculateCost cfg book ts provider model usage = some info) :
    ∃ prompt hits misses : Nat, info.promptTokens = .int prompt ∧ info.cacheHitTokens = hits ∧
      info.cacheMissTokens = .int misses ∧
      prompt = (reported usage "prompt_tokens").getD 0 ∧
      hits = (reportedHits usage (book.cacheFields provider)).getD 0 ∧
      misses = (reported usage "prompt_cache_miss_tokens").getD (prompt - hits) ∧
      (hits + misses = prompt ↔
        SplitsPrompt prompt hits (reported usage "prompt_cache_miss_tokens")) := by
  obtain ⟨hprompt, -, hhits, hmisses⟩ := tokens_of_calculateCost h hinfo
  refine ⟨_, _, _, hprompt, hhits, hmisses, rfl, rfl, rfl, ?_⟩
  unfold SplitsPrompt
  cases reported usage "prompt_cache_miss_tokens" with
  | some m => rfl
  | none =>
    rw [Option.getD_none]
    omega

/-- The paths of the known hit fields. -/
theorem splitPath_cacheHitFields :
    splitPath "prompt_cache_hit_tokens" = ["prompt_cache_hit_tokens"] ∧
      splitPath "prompt_tokens_details.cached_tokens" =
        ["prompt_tokens_details", "cached_tokens"] ∧
      splitPath "cache_read_input_tokens" = ["cache_read_input_tokens"] := by
  decide +kernel

/-- A block without nested details has whole counts when its own fields have. -/
theorem wholeCounts_of_flat (hobject : usage.isObj = true)
    (hprompt : WholeOrMissing (usage.get? "prompt_tokens"))
    (hcompletion : WholeOrMissing (usage.get? "completion_tokens"))
    (hmiss : WholeOrMissing (usage.get? "prompt_cache_miss_tokens"))
    (hhit : WholeOrMissing (usage.get? "prompt_cache_hit_tokens"))
    (hdetails : usage.get? "prompt_tokens_details" = none)
    (hread : WholeOrMissing (usage.get? "cache_read_input_tokens")) :
    WholeCounts cacheHitFields usage := by
  obtain ⟨hhitPath, hdetailPath, hreadPath⟩ := splitPath_cacheHitFields
  have hplain : ∀ field, WholeOrMissing (usage.get? field) →
      readPath usage [field] = .null ∨ ∃ n : Nat, readPath usage [field] = .int n := by
    intro field hwhole
    simp only [readPath]
    obtain hnone | ⟨n, hn⟩ := hwhole
    · rw [hnone]
      exact .inl rfl
    · rw [hn]
      exact .inr ⟨n, rfl⟩
  refine ⟨hobject, hprompt, hcompletion, hmiss, fun field hmem ↦ ?_⟩
  simp only [cacheHitFields, List.mem_cons, List.not_mem_nil, or_false] at hmem
  obtain rfl | rfl | rfl := hmem
  · rw [hhitPath]
    exact hplain _ hhit
  · rw [hdetailPath]
    left
    simp only [readPath, hdetails]
    rfl
  · rw [hreadPath]
    exact hplain _ hread

/-- A report of 100 prompt tokens with 30 hits and 20 misses. -/
def partialReport : Json :=
  .obj [("prompt_tokens", .int 100), ("completion_tokens", .int 50),
    ("prompt_cache_hit_tokens", .int 30), ("prompt_cache_miss_tokens", .int 20)]

/-- Nothing is configured. -/
def emptyBook : PriceBook := ⟨[], [], Dict.empty⟩

/-- A report of 100 prompt tokens with 30 hits. -/
def hitReport : Json := .obj [("prompt_tokens", .int 100), ("prompt_cache_hit_tokens", .int 30)]

/-- The hits of a report without misses leave the rest of the prompt. -/
theorem hitReport_splits :
    ∃ info, calculateCost plainConfig emptyBook ⟨0, 0⟩ "opencode" "flash" hitReport = some info ∧
      info.promptTokens = .int 100 ∧ info.cacheHitTokens = 30 ∧
      info.cacheMissTokens = .int 70 := by
  have hwhole : WholeCounts (emptyBook.cacheFields "opencode") hitReport :=
    wholeCounts_of_flat rfl (.inr ⟨100, rfl⟩) (.inl rfl) (.inl rfl) (.inr ⟨30, rfl⟩) rfl (.inl rfl)
  have hhits : reportedHits hitReport (emptyBook.cacheFields "opencode") = some 30 := by
    change reportedHits hitReport cacheHitFields = some 30
    rw [reportedHits, cacheHitFields, List.findSome?_cons, splitPath_cacheHitFields.1]
    rfl
  obtain ⟨info, hinfo⟩ : ∃ info, calculateCost plainConfig emptyBook ⟨0, 0⟩ "opencode" "flash"
      hitReport = some info := ⟨_, rfl⟩
  obtain ⟨prompt, hits, misses, hprompt, hhit, hmiss, hp, hh, hm, -⟩ :=
    calculateCost_splits_iff plainConfig emptyBook ⟨0, 0⟩ "opencode" "flash" hitReport info hwhole
      hinfo
  rw [hhits] at hh
  obtain rfl : prompt = 100 := hp
  obtain rfl : hits = 30 := hh
  obtain rfl : misses = 70 := hm
  exact ⟨info, hinfo, hprompt, hhit, hmiss⟩

/-- The reported counts are recorded as they are, 50 tokens short of the prompt. -/
theorem partialReport_loses :
    (calculateCost plainConfig emptyBook ⟨0, 0⟩ "opencode" "flash" partialReport).map
        (fun info ↦ (info.promptTokens, info.cacheHitTokens, info.cacheMissTokens)) =
      some (.int 100, 30, .int 20) ∧ (30 : Int) + 20 ≠ 100 := by
  constructor
  · rfl
  · decide

end LcpGateway.Accounting
