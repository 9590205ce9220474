import LcpGateway.Accounting.TokenSplit
import LcpGateway.Base.Rounding
import Mathlib.Tactic.NormNum

/-!
# Three computations of one price

Library `Accounting`. Sources `src/api/cost_plugins/deepseek.py:91–111`,
`src/api/request_pipeline.py:513–572`, `src/server/sse_helpers.py:68–109` and
`src/api/cost_plugins/base.py:53–72`. The plugin, the configured row and the estimate share the
rates and the rounding. Where neither hits nor misses are counted the plugin charges the prompt as
misses, and the configured row charges nothing.
-/

namespace LcpGateway.Accounting
open LcpGateway.Base LcpGateway.Config

/-! ## Re-pricing -/

/-- A boolean or an integer as an operand of `+`. -/
def intOperand : Json → Option Int
  | .bool b => some (if b then 1 else 0)
  | .int i => some i
  | _ => none

/-- `a + b` where one is a number; `none` is a `TypeError`. -/
def addCounts (a b : Json) : Option Json :=
  match intOperand a, intOperand b with
  | some i, some j => some (.int (i + j))
  | _, _ => a.number?.bind fun x ↦ b.number?.map fun y ↦ .float (x.add y)

/-- `estimate_cost_from_tokens`; `sse_helpers.py:68–109`. -/
def estimateCostFromTokens (cfg : GatewayConfig) (book : PriceBook) (ts : BillingTime)
    (provider model : String) (info : CostInfo) : Option PyFloat := do
  let prompt ← addCounts info.promptTokens info.cacheMissTokens
  match ← book.pluginCost provider ts model prompt info.completionTokens info.cacheHitTokens
    info.cacheMissTokens with
  | some cost => return cost.round 8
  | none =>
    match book.resolvePricing cfg provider model with
    | none => return .fin 0
    | some row =>
      (tokenCost (selectRates row ts) info.cacheHitTokens info.cacheMissTokens
        info.completionTokens).map (PyFloat.round 8)

/-! ## One gateway with the plugin and one without -/

/-- The rates of a row. -/
def rateFields : List String :=
  ["cache_hit", "cache_miss", "output", "peak_cache_hit", "peak_cache_miss", "peak_output"]

/-- The rows carry the same base and peak rates. -/
def SameRates (row row' : PriceRow) : Prop :=
  ∀ field ∈ rateFields, rateOf row field = rateOf row' field

/-- The model has a row in the plugin's table; without the plugin it has a configured row with the
same rates; and the hits are read from the same fields. -/
structure PricedTwice (cfg : GatewayConfig) (book plain : PriceBook) (provider model : String) :
    Prop where
  plugin : book.plugins.lookup provider = some deepSeekCostPlugin
  noPlugin : plain.plugins.lookup provider = none
  fields : plain.cacheFields provider = book.cacheFields provider
  rows : ∃ row row', deepseekPricing.lookup model = some row ∧
    plain.resolvePricing cfg provider model = some row' ∧ SameRates row row'

/-- The price does not depend on who works it out, and is found again. -/
structure PricesAgree (cfg : GatewayConfig) (book plain : PriceBook) (ts : BillingTime)
    (provider model : String) (usage : Json) : Prop where
  same : (calculateCost cfg book ts provider model usage).map CostInfo.cost =
    (calculateCost cfg plain ts provider model usage).map CostInfo.cost
  again : ∀ info, calculateCost cfg book ts provider model usage = some info →
    estimateCostFromTokens cfg book ts provider model info = some info.cost
  againPlain : ∀ info, calculateCost cfg plain ts provider model usage = some info →
    estimateCostFromTokens cfg plain ts provider model info = some info.cost

/-- The misses are reported as zero, or they are not reported and the prompt is not positive. -/
def NoMisses (prompt : Json) : Option Json → Prop
  | some miss => miss.number? = some (.fin 0)
  | none => ∀ p, prompt.number? = some p → p.gtInt 0 = false

/-- A prompt of which neither hits nor misses are counted. -/
structure Unsplit (hitFields : List String) (usage : Json) : Prop where
  hits : readCacheHits usage hitFields = some 0
  misses : NoMisses (tokenField usage "prompt_tokens") (usage.get? "prompt_cache_miss_tokens")
  prompt : (tokenField usage "prompt_tokens").number? ≠ some (.fin 0)

/-! ## The rates -/

/-- All six rates are numbers. -/
def FullRow (row : PriceRow) : Prop := ∀ field ∈ rateFields, (rateOf row field).isSome = true

/-- The rate in force: the peak one in a peak window. -/
def rateAt (row : PriceRow) (ts : BillingTime) (base peak : String) : Option PyFloat :=
  if isDeepseekPeak ts then rateOf row peak else rateOf row base

/-- `select_rates` on a full row. -/
theorem rateOf_selectRates {row : PriceRow} (h : FullRow row) (ts : BillingTime) :
    rateOf (selectRates row ts) "cache_hit" = rateAt row ts "cache_hit" "peak_cache_hit" ∧
      rateOf (selectRates row ts) "cache_miss" = rateAt row ts "cache_miss" "peak_cache_miss" ∧
      rateOf (selectRates row ts) "output" = rateAt row ts "output" "peak_output" := by
  have hpresent : ∀ field ∈ rateFields, ∃ v, row.lookup field = some v := by
    intro field hmem
    have hrate := h field hmem
    unfold rateOf at hrate
    cases hv : row.lookup field with
    | none => simp [hv] at hrate
    | some v => exact ⟨v, rfl⟩
  obtain ⟨hit, hhit⟩ := hpresent "peak_cache_hit" (by decide)
  obtain ⟨miss, hmiss⟩ := hpresent "peak_cache_miss" (by decide)
  obtain ⟨output, houtput⟩ := hpresent "peak_output" (by decide)
  unfold selectRates rateAt
  cases hpeak : isDeepseekPeak ts with
  | false => simp
  | true =>
    rw [if_neg (by simp [hmiss])]
    simp only [if_true, rateOf, peakRate, hhit, hmiss, houtput, Option.some_or, Option.getD_some]
    exact ⟨rfl, rfl, rfl⟩

/-- The rows of the plugin's table. -/
theorem eq_of_lookup_deepseekPricing {model : String} {row : PriceRow}
    (h : deepseekPricing.lookup model = some row) : row = v4ProPricing ∨ row = flashPricing := by
  simp only [deepseekPricing, List.lookup_cons, List.lookup_nil] at h
  split at h
  · exact .inl (Option.some.inj h).symm
  · right
    repeat' split at h
    all_goals first | exact (Option.some.inj h).symm | cases h

/-- The rows of the table are full, with whole cents for a million tokens. -/
theorem rates_of_lookup {model : String} {row : PriceRow}
    (h : deepseekPricing.lookup model = some row) :
    FullRow row ∧ ∀ ts, ∃ (hit : Rat) (miss output : Nat), 0 < miss ∧
      rateAt row ts "cache_hit" "peak_cache_hit" = some (.fin hit) ∧
      rateAt row ts "cache_miss" "peak_cache_miss" = some (.fin (miss / 100)) ∧
      rateAt row ts "output" "peak_output" = some (.fin (output / 100)) := by
  have hfull : ∀ row : PriceRow, (rateFields.all fun field ↦ (rateOf row field).isSome) = true →
      FullRow row := by
    intro row hall field hmem
    exact List.all_eq_true.mp hall field hmem
  have hcents : ∀ {x : Rat} (n : Nat), x = n / 100 → some (PyFloat.fin x) = some (.fin (n / 100)) :=
    fun n hx ↦ by rw [hx]
  obtain rfl | rfl := eq_of_lookup_deepseekPricing h
  · refine ⟨hfull _ rfl, fun ts ↦ ?_⟩
    unfold rateAt
    cases isDeepseekPeak ts with
    | false =>
      exact ⟨0.022, 66, 198, by decide, rfl, hcents 66 (by norm_num), hcents 198 (by norm_num)⟩
    | true =>
      exact ⟨0.044, 132, 396, by decide, rfl, hcents 132 (by norm_num), hcents 396 (by norm_num)⟩
  · refine ⟨hfull _ rfl, fun ts ↦ ?_⟩
    unfold rateAt
    cases isDeepseekPeak ts with
    | false =>
      exact ⟨0.003, 15, 60, by decide, rfl, hcents 15 (by norm_num), hcents 60 (by norm_num)⟩
    | true =>
      exact ⟨0.006, 30, 120, by decide, rfl, hcents 30 (by norm_num), hcents 120 (by norm_num)⟩

/-- Rows with the same rates are in force with the same rates. -/
theorem rateOf_selectRates_congr {row row' : PriceRow} (h : FullRow row)
    (hsame : SameRates row row') (ts : BillingTime) :
    rateOf (selectRates row ts) "cache_hit" = rateOf (selectRates row' ts) "cache_hit" ∧
      rateOf (selectRates row ts) "cache_miss" = rateOf (selectRates row' ts) "cache_miss" ∧
      rateOf (selectRates row ts) "output" = rateOf (selectRates row' ts) "output" := by
  have hfull' : FullRow row' := fun field hmem ↦ hsame field hmem ▸ h field hmem
  have hrate : ∀ base peak, base ∈ rateFields → peak ∈ rateFields →
      rateAt row ts base peak = rateAt row' ts base peak := by
    intro base peak hbase hpeak
    rw [rateAt, rateAt, hsame base hbase, hsame peak hpeak]
  obtain ⟨hhit, hmiss, houtput⟩ := rateOf_selectRates h ts
  obtain ⟨hhit', hmiss', houtput'⟩ := rateOf_selectRates hfull' ts
  rw [hhit, hmiss, houtput, hhit', hmiss', houtput']
  exact ⟨hrate _ _ (by decide) (by decide), hrate _ _ (by decide) (by decide),
    hrate _ _ (by decide) (by decide)⟩

/-- The arithmetic depends on the rates in force and on the counts as numbers. -/
theorem tokenCost_congr {rates rates' : PriceRow} {miss miss' : Json} (hit : Int) (output : Json)
    (hrates : rateOf rates "cache_hit" = rateOf rates' "cache_hit" ∧
      rateOf rates "cache_miss" = rateOf rates' "cache_miss" ∧
      rateOf rates "output" = rateOf rates' "output")
    (hmiss : miss.number? = miss'.number?) :
    tokenCost rates hit miss output = tokenCost rates' hit miss' output := by
  rw [tokenCost, tokenCost, hrates.1, hrates.2.1, hrates.2.2, hmiss]

/-! ## The price -/

/-- A rounded price is rounded already. -/
theorem round_round (digits : Nat) (x : PyFloat) :
    (x.round digits).round digits = x.round digits := by
  cases x with
  | fin r => simp [PyFloat.round]
  | inf negative => rfl
  | nan => rfl

section Prices

variable {cfg : GatewayConfig} {book : PriceBook} {ts : BillingTime} {provider model : String}
  {row : PriceRow} (prompt output : Json) (hit : Int) (miss : Json)

/-- The plugin's price. Without hits and misses it takes the prompt for the misses. -/
theorem price_of_plugin (hplugin : book.plugins.lookup provider = some deepSeekCostPlugin)
    (hrow : deepseekPricing.lookup model = some row) :
    book.price cfg ts provider model prompt output hit miss =
      (tokenCost (selectRates row ts) hit
        (if hit = 0 ∧ miss.number? = some (.fin 0) then prompt else miss) output).map
          fun cost ↦ (cost.round 8, true) := by
  unfold PriceBook.price PriceBook.pluginCost
  rw [hplugin]
  simp only [deepSeekCostPlugin, CostPlugin.calculateCost, List.not_mem_nil, if_false, id_eq, hrow]
  cases tokenCost (selectRates row ts) hit
    (if hit = 0 ∧ miss.number? = some (.fin 0) then prompt else miss) output with
  | none => rfl
  | some cost => simp [round_round]

/-- The configured price. -/
theorem price_of_row (hplugin : book.plugins.lookup provider = none)
    (hrow : book.resolvePricing cfg provider model = some row) :
    book.price cfg ts provider model prompt output hit miss =
      (tokenCost (selectRates row ts) hit miss output).map fun cost ↦ (cost.round 8, true) := by
  unfold PriceBook.price PriceBook.pluginCost
  rw [hplugin, hrow]
  rfl

/-- The estimate is the price of the recorded counts, with the misses added to the prompt. -/
theorem estimate_eq (info : CostInfo) :
    estimateCostFromTokens cfg book ts provider model info =
      (addCounts info.promptTokens info.cacheMissTokens).bind fun prompt ↦
        (book.price cfg ts provider model prompt info.completionTokens info.cacheHitTokens
          info.cacheMissTokens).map Prod.fst := by
  unfold estimateCostFromTokens PriceBook.price configCost
  simp only [Option.bind_eq_bind]
  congr 1
  funext prompt
  cases book.pluginCost provider ts model prompt info.completionTokens info.cacheHitTokens
    info.cacheMissTokens with
  | none => rfl
  | some priced =>
    cases priced with
    | some cost => rfl
    | none =>
      simp only [Option.bind_some]
      cases book.resolvePricing cfg provider model with
      | none => rfl
      | some row =>
        simp only [Option.map_map]
        rfl

end Prices

/-- A zero added to a number leaves the number. -/
theorem number?_addCounts {a b sum : Json} (h : addCounts a b = some sum) :
    sum.number? = a.number?.bind fun x ↦ b.number?.map fun y ↦ x.add y := by
  unfold addCounts at h
  split at h
  · next i j hi hj =>
    obtain rfl := Option.some.inj h
    have hnum : ∀ (v : Json) (n : Int), intOperand v = some n → v.number? = some (.fin n) := by
      intro v n hv
      cases v with
      | bool b =>
        obtain rfl := Option.some.inj hv
        cases b <;> rfl
      | int k =>
        obtain rfl := Option.some.inj hv
        rfl
      | null | float | str | arr | obj => cases hv
    rw [hnum a i hi, hnum b j hj]
    simp [Json.number?, PyFloat.add]
  · cases hx : a.number? with
    | none => simp [hx] at h
    | some x =>
      cases hy : b.number? with
      | none => simp [hx, hy] at h
      | some y =>
        obtain rfl : Json.float (x.add y) = sum := by simpa [hx, hy] using h
        rfl

/-- Numbers can be added. -/
theorem isSome_addCounts {a b : Json} {x y : PyFloat} (ha : a.number? = some x)
    (hb : b.number? = some y) : ∃ sum, addCounts a b = some sum := by
  unfold addCounts
  split
  · exact ⟨_, rfl⟩
  · rw [ha, hb]
    exact ⟨_, rfl⟩

/-- What a recorded cost is made of. -/
theorem calculateCost_eq_some {cfg : GatewayConfig} {book : PriceBook} {ts : BillingTime}
    {provider model : String} {usage : Json} {info : CostInfo}
    (h : calculateCost cfg book ts provider model usage = some info) :
    info.promptTokens.number?.isSome = true ∧
      book.price cfg ts provider model info.promptTokens info.completionTokens info.cacheHitTokens
        info.cacheMissTokens = some (info.cost, info.priced) := by
  unfold calculateCost at h
  split at h
  · cases h
  · simp only [Option.bind_eq_bind, Option.bind_eq_some_iff, Option.pure_def,
      Option.some.injEq] at h
    obtain ⟨hit, -, fallback, hfallback, ⟨cost, priced⟩, hprice, rfl⟩ := h
    refine ⟨?_, hprice⟩
    unfold missDefault at hfallback
    obtain ⟨p, hp, -⟩ := Option.map_eq_some_iff.mp hfallback
    dsimp only
    rw [hp]
    rfl

/-- Zero is neutral. -/
theorem add_zero_float (x : PyFloat) : x.add (.fin 0) = x := by
  cases x with
  | fin r => simp [PyFloat.add]
  | inf negative => rfl
  | nan => rfl

/-- A count of misses that was charged is a number. -/
theorem isSome_miss_of_tokenCost {rates : PriceRow} {hit : Int} {miss output : Json}
    {cost : PyFloat} (h : tokenCost rates hit miss output = some cost) :
    miss.number?.isSome = true := by
  unfold tokenCost at h
  simp only [Option.bind_eq_bind, Option.bind_eq_some_iff] at h
  obtain ⟨-, -, -, -, -, -, missTokens, hmiss, -⟩ := h
  rw [hmiss]
  rfl

/-- The estimate of a recorded cost is that cost, where adding the misses to the prompt changes no
price. -/
theorem estimate_of_recorded {cfg : GatewayConfig} {book : PriceBook} {ts : BillingTime}
    {provider model : String} {usage : Json} {info : CostInfo}
    (h : calculateCost cfg book ts provider model usage = some info)
    (hmiss : info.cacheMissTokens.number?.isSome = true)
    (hprice : ∀ sum, addCounts info.promptTokens info.cacheMissTokens = some sum →
      book.price cfg ts provider model sum info.completionTokens info.cacheHitTokens
          info.cacheMissTokens =
        book.price cfg ts provider model info.promptTokens info.completionTokens
          info.cacheHitTokens info.cacheMissTokens) :
    estimateCostFromTokens cfg book ts provider model info = some info.cost := by
  obtain ⟨hprompt, hrecorded⟩ := calculateCost_eq_some h
  obtain ⟨x, hx⟩ := Option.isSome_iff_exists.mp hprompt
  obtain ⟨y, hy⟩ := Option.isSome_iff_exists.mp hmiss
  obtain ⟨sum, hsum⟩ := isSome_addCounts hx hy
  rw [estimate_eq, hsum, Option.bind_some, hprice sum hsum, hrecorded]
  rfl

section Twice

variable {cfg : GatewayConfig} {book plain : PriceBook} {ts : BillingTime}
  {provider model : String} {usage : Json} {row : PriceRow}

/-- A price of the plugin is estimated again. -/
theorem estimate_of_plugin (hplugin : book.plugins.lookup provider = some deepSeekCostPlugin)
    (hrow : deepseekPricing.lookup model = some row) {info : CostInfo}
    (h : calculateCost cfg book ts provider model usage = some info) :
    estimateCostFromTokens cfg book ts provider model info = some info.cost := by
  obtain ⟨hprompt, hrecorded⟩ := calculateCost_eq_some h
  have hmiss : info.cacheMissTokens.number?.isSome = true := by
    rw [price_of_plugin _ _ _ _ hplugin hrow, Option.map_eq_some_iff] at hrecorded
    obtain ⟨cost, hcost, -⟩ := hrecorded
    have hcharged := isSome_miss_of_tokenCost hcost
    split at hcharged
    · next hzero =>
      rw [hzero.2]
      rfl
    · exact hcharged
  apply estimate_of_recorded h hmiss
  intro sum hsum
  rw [price_of_plugin _ _ _ _ hplugin hrow, price_of_plugin _ _ _ _ hplugin hrow]
  congr 1
  apply tokenCost_congr _ _ ⟨rfl, rfl, rfl⟩
  split
  · next hzero =>
    rw [number?_addCounts hsum, hzero.2]
    cases info.promptTokens.number? with
    | none => rfl
    | some x => simp [add_zero_float]
  · rfl

/-- A configured price is estimated again. -/
theorem estimate_of_row (hplugin : plain.plugins.lookup provider = none)
    (hrow : plain.resolvePricing cfg provider model = some row) {info : CostInfo}
    (h : calculateCost cfg plain ts provider model usage = some info) :
    estimateCostFromTokens cfg plain ts provider model info = some info.cost := by
  obtain ⟨hprompt, hrecorded⟩ := calculateCost_eq_some h
  have hmiss : info.cacheMissTokens.number?.isSome = true := by
    rw [price_of_row _ _ _ _ hplugin hrow, Option.map_eq_some_iff] at hrecorded
    obtain ⟨cost, hcost, -⟩ := hrecorded
    exact isSome_miss_of_tokenCost hcost
  apply estimate_of_recorded h hmiss
  intro sum _
  rw [price_of_row _ _ _ _ hplugin hrow, price_of_row _ _ _ _ hplugin hrow]

/-- A default of zero misses is left by a prompt that is not positive. -/
theorem noMisses_of_default {prompt fallback : Json} {miss : Option Json}
    (hfallback : missDefault prompt 0 = some fallback)
    (hzero : (miss.getD fallback).number? = some (.fin 0)) : NoMisses prompt miss := by
  cases miss with
  | some m => exact hzero
  | none =>
    rw [Option.getD_none] at hzero
    intro p hp
    by_contra hpositive
    simp only [Bool.not_eq_false] at hpositive
    rw [missDefault, hp, Option.map_some, hpositive, if_pos rfl] at hfallback
    obtain rfl := Option.some.inj hfallback
    have hsub : (prompt.subInt 0).number? = some p := by
      rw [← hp]
      cases prompt with
      | float x => cases x <;> simp [Json.subInt, Json.number?, PyFloat.subInt]
      | bool b => cases b <;> simp [Json.subInt, Json.number?]
      | int n => simp [Json.subInt, Json.number?]
      | null | str | arr | obj => rfl
    obtain rfl : p = .fin 0 := Option.some.inj (hsub.symm.trans hzero)
    simp [PyFloat.gtInt] at hpositive

/-- The cost is the price of the counts that are read. -/
theorem map_cost_calculateCost {hit : Int} {fallback : Json} (hobject : usage.isObj = true)
    (hhit : readCacheHits usage (book.cacheFields provider) = some hit)
    (hfallback : missDefault (tokenField usage "prompt_tokens") hit = some fallback) :
    (calculateCost cfg book ts provider model usage).map CostInfo.cost =
      (book.price cfg ts provider model (tokenField usage "prompt_tokens")
        (tokenField usage "completion_tokens") hit
        ((usage.get? "prompt_cache_miss_tokens").getD fallback)).map Prod.fst := by
  unfold calculateCost
  rw [hobject, hhit]
  simp only [Bool.not_true, Bool.false_eq_true, if_false, Option.bind_eq_bind, Option.bind_some,
    hfallback]
  cases book.price cfg ts provider model (tokenField usage "prompt_tokens")
    (tokenField usage "completion_tokens") hit
    ((usage.get? "prompt_cache_miss_tokens").getD fallback) <;> rfl

/-- The costs with and without the plugin, for a prompt that is split. -/
theorem cost_eq_of_not_unsplit (h : PricedTwice cfg book plain provider model)
    (hsplit : ¬ Unsplit (book.cacheFields provider) usage) :
    (calculateCost cfg book ts provider model usage).map CostInfo.cost =
      (calculateCost cfg plain ts provider model usage).map CostInfo.cost := by
  obtain ⟨row, row', hrow, hrow', hsame⟩ := h.rows
  have hrates := rateOf_selectRates_congr (rates_of_lookup hrow).1 hsame ts
  cases hobject : usage.isObj with
  | false => simp [calculateCost, hobject]
  | true =>
    cases hhit : readCacheHits usage (book.cacheFields provider) with
    | none => simp [calculateCost, hobject, h.fields, hhit]
    | some hit =>
      cases hfallback : missDefault (tokenField usage "prompt_tokens") hit with
      | none => simp [calculateCost, hobject, h.fields, hhit, hfallback]
      | some fallback =>
        rw [map_cost_calculateCost hobject hhit hfallback,
          map_cost_calculateCost hobject (h.fields ▸ hhit) hfallback,
          price_of_plugin _ _ _ _ h.plugin hrow, price_of_row _ _ _ _ h.noPlugin hrow']
        generalize hmiss : (usage.get? "prompt_cache_miss_tokens").getD fallback = miss
        have hcharged : (if hit = 0 ∧ miss.number? = some (.fin 0) then
            tokenField usage "prompt_tokens" else miss).number? = miss.number? := by
          split
          · next hzero =>
            obtain ⟨rfl, hnumber⟩ := hzero
            rw [hnumber]
            by_contra hprompt
            exact hsplit ⟨hhit, noMisses_of_default hfallback (hmiss ▸ hnumber), hprompt⟩
          · rfl
        rw [tokenCost_congr hit (tokenField usage "completion_tokens") hrates hcharged]

/-- Hundred-millionths are rounded to themselves. -/
theorem round_hundredMillionths (n : Nat) :
    PyFloat.round 8 (.fin (n / 100000000)) = .fin (n / 100000000) := by
  have hround : roundDigits 8 ((n : Rat) / 100000000) = n / 100000000 := by
    have hpow : (10 : Rat) ^ 8 = 100000000 := by norm_num
    have hcast : (n : Rat) = ((n : Int) : Rat) := by simp
    rw [roundDigits_eq, hpow, div_mul_cancel₀ _ (by norm_num), hcast, halfEven_intCast]
  rw [PyFloat.round, hround]

/-- Whole counts at rates in cents cost hundred-millionths. -/
theorem tokenCost_cents {rates : PriceRow} {hitRate : Rat} {missCents outputCents : Nat}
    (hhit : rateOf rates "cache_hit" = some (.fin hitRate))
    (hmiss : rateOf rates "cache_miss" = some (.fin (missCents / 100)))
    (houtput : rateOf rates "output" = some (.fin (outputCents / 100))) (misses outputs : Nat) :
    (tokenCost rates 0 (.int misses) (.int outputs)).map (PyFloat.round 8) =
      some (.fin ((misses * missCents + outputs * outputCents : Nat) / 100000000)) := by
  unfold tokenCost
  rw [hhit, hmiss, houtput]
  simp only [Json.number?, Option.bind_eq_bind, Option.bind_some, Option.pure_def, Option.map_some,
    charge, PyFloat.mul, PyFloat.add, Int.cast_zero, zero_mul, zero_add, Int.cast_natCast]
  have hsum : (misses : Rat) * (1 / 1000000) * (missCents / 100) +
      outputs * (1 / 1000000) * (outputCents / 100) =
        (misses * missCents + outputs * outputCents : Nat) / 100000000 := by
    push_cast
    ring
  rw [hsum, round_hundredMillionths]

/-- Of whole counts, a prompt that is not split is positive, and its misses are reported as zero. -/
theorem reported_of_unsplit (hwhole : WholeCounts hitFields usage)
    (hsplit : Unsplit hitFields usage) :
    (∃ prompt : Nat, tokenField usage "prompt_tokens" = .int prompt ∧ 0 < prompt) ∧
      usage.get? "prompt_cache_miss_tokens" = some (.int 0) := by
  obtain ⟨prompt, hprompt⟩ : ∃ p : Nat, tokenField usage "prompt_tokens" = .int p :=
    ⟨_, tokenField_of_whole hwhole.prompt⟩
  have hpositive : 0 < prompt := by
    have hne := hsplit.prompt
    rw [hprompt] at hne
    by_contra hzero
    obtain rfl : prompt = 0 := by omega
    exact hne rfl
  refine ⟨⟨prompt, hprompt, hpositive⟩, ?_⟩
  have hmisses := hsplit.misses
  obtain hnone | ⟨n, hn⟩ := hwhole.miss
  -- a positive prompt leaves misses where none are reported
  · rw [hnone, hprompt] at hmisses
    have hnot := hmisses (.fin prompt) (by simp [Json.number?])
    simp [PyFloat.gtInt] at hnot
    omega
  · rw [hn] at hmisses ⊢
    have hzero : n = 0 := by simpa [NoMisses, Json.number?] using hmisses
    rw [hzero]
    rfl

/-- Of whole counts, a prompt that is not split costs its misses with the plugin, and nothing
without. -/
theorem cost_ne_of_unsplit (h : PricedTwice cfg book plain provider model)
    (hwhole : WholeCounts (book.cacheFields provider) usage)
    (hsplit : Unsplit (book.cacheFields provider) usage) :
    (calculateCost cfg book ts provider model usage).map CostInfo.cost ≠
      (calculateCost cfg plain ts provider model usage).map CostInfo.cost := by
  obtain ⟨row, row', hrow, hrow', hsame⟩ := h.rows
  obtain ⟨hfull, hcents⟩ := rates_of_lookup hrow
  obtain ⟨hitRate, missCents, outputCents, hpos, hhit, hmiss, houtput⟩ := hcents ts
  obtain ⟨hselectHit, hselectMiss, hselectOutput⟩ := rateOf_selectRates hfull ts
  have hrates := rateOf_selectRates_congr hfull hsame ts
  obtain ⟨⟨prompt, hprompt, hpositive⟩, hreported⟩ := reported_of_unsplit hwhole hsplit
  obtain ⟨output, hout⟩ : ∃ o : Nat, tokenField usage "completion_tokens" = .int o :=
    ⟨_, tokenField_of_whole hwhole.completion⟩
  have hcost : ∀ misses : Nat,
      (tokenCost (selectRates row ts) 0 (.int misses) (.int output)).map (PyFloat.round 8) =
        some (.fin ((misses * missCents + output * outputCents : Nat) / 100000000)) :=
    fun misses ↦ tokenCost_cents (hselectHit.trans hhit) (hselectMiss.trans hmiss)
      (hselectOutput.trans houtput) misses output
  have hdefault : missDefault (tokenField usage "prompt_tokens") 0 =
      some (.int (prompt - 0 : Nat)) := by
    rw [hprompt]
    exact missDefault_int prompt 0
  have hleft : (calculateCost cfg book ts provider model usage).map CostInfo.cost =
      some (.fin ((prompt * missCents + output * outputCents : Nat) / 100000000)) := by
    rw [map_cost_calculateCost hwhole.object hsplit.hits hdefault,
      price_of_plugin _ _ _ _ h.plugin hrow, hreported, Option.getD_some, if_pos ⟨rfl, rfl⟩,
      hprompt, hout, Option.map_map, ← hcost prompt]
    rfl
  have hright : (calculateCost cfg plain ts provider model usage).map CostInfo.cost =
      some (.fin ((0 * missCents + output * outputCents : Nat) / 100000000)) := by
    rw [map_cost_calculateCost hwhole.object (h.fields ▸ hsplit.hits) hdefault,
      price_of_row _ _ _ _ h.noPlugin hrow', hreported, Option.getD_some, hout, Option.map_map,
      ← hcost 0, tokenCost_congr 0 (.int output) hrates rfl]
    rfl
  rw [hleft, hright]
  intro heq
  have hnat : prompt * missCents + output * outputCents = 0 * missCents + output * outputCents := by
    have hrat := PyFloat.fin.inj (Option.some.inj heq)
    have hcast := (div_left_inj' (by norm_num : (100000000 : Rat) ≠ 0)).mp hrat
    exact_mod_cast hcast
  have hcharge := Nat.mul_pos hpositive hpos
  omega

/-- The prices agree unless neither hits nor misses are counted of the prompt; and of whole counts
they agree only then. -/
theorem pricesAgree_iff (cfg : GatewayConfig) (book plain : PriceBook) (ts : BillingTime)
    (provider model : String) (usage : Json) (h : PricedTwice cfg book plain provider model) :
    (¬ Unsplit (book.cacheFields provider) usage →
        PricesAgree cfg book plain ts provider model usage) ∧
      (WholeCounts (book.cacheFields provider) usage →
        (PricesAgree cfg book plain ts provider model usage ↔
          ¬ Unsplit (book.cacheFields provider) usage)) := by
  obtain ⟨row, row', hrow, hrow', -⟩ := h.rows
  have hagree : ¬ Unsplit (book.cacheFields provider) usage →
      PricesAgree cfg book plain ts provider model usage := fun hsplit ↦
    ⟨cost_eq_of_not_unsplit h hsplit, fun _ ↦ estimate_of_plugin h.plugin hrow,
      fun _ ↦ estimate_of_row h.noPlugin hrow'⟩
  refine ⟨hagree, fun hwhole ↦ ⟨fun hprices hsplit ↦ ?_, hagree⟩⟩
  exact cost_ne_of_unsplit h hwhole hsplit hprices.same

end Twice

/-- Prices of the plugin. -/
def pluginBook : PriceBook := ⟨[("deepseek", deepSeekCostPlugin)], [], Dict.empty⟩

/-- The same prices as a configured row. -/
def configuredBook : PriceBook :=
  ⟨[], [⟨some "deepseek", "deepseek-flash", flashPricing⟩], Dict.empty⟩

/-- The two gateways price one model with the same rates. -/
theorem pricedTwice_flash :
    PricedTwice plainConfig pluginBook configuredBook "deepseek" "deepseek-flash" := by
  refine ⟨rfl, rfl, rfl, flashPricing, flashPricing, rfl, ?_, fun _ _ ↦ rfl⟩
  have hfound : configuredBook.findPricingRow "deepseek" "deepseek-flash" false =
      some ⟨some "deepseek", "deepseek-flash", flashPricing⟩ := by
    rw [PriceBook.findPricingRow_eq]
    exact List.find?_cons_of_pos (by decide +kernel)
  rw [PriceBook.resolvePricing, hfound, Option.some_or, Option.some_or, Option.map_some]

/-- A report of 1000 prompt tokens with 300 hits. -/
def cachedReport : Json :=
  .obj [("prompt_tokens", .int 1000), ("prompt_cache_hit_tokens", .int 300)]

/-- A report with hits is priced alike, at any time. -/
theorem pricesAgree_cachedReport :
    PricesAgree plainConfig pluginBook configuredBook ⟨0, 1⟩ "deepseek" "deepseek-flash"
      cachedReport := by
  apply (pricesAgree_iff plainConfig pluginBook configuredBook ⟨0, 1⟩ "deepseek" "deepseek-flash"
    cachedReport pricedTwice_flash).1
  intro h
  have hhits := h.hits
  change readCacheHits cachedReport cacheHitFields = some 0 at hhits
  rw [cacheHitFields, readCacheHits, splitPath_cacheHitFields.1] at hhits
  cases hhits

/-- A report of 1000 prompt tokens with no hits and no misses. -/
def zeroReport : Json :=
  .obj [("prompt_tokens", .int 1000), ("prompt_cache_hit_tokens", .int 0),
    ("prompt_cache_miss_tokens", .int 0)]

/-- The plugin charges the prompt of such a report, the configured row does not. -/
theorem not_pricesAgree_zeroReport :
    ¬ PricesAgree plainConfig pluginBook configuredBook ⟨0, 0⟩ "deepseek" "deepseek-flash"
      zeroReport := by
  intro h
  have hwhole : WholeCounts (pluginBook.cacheFields "deepseek") zeroReport :=
    wholeCounts_of_flat rfl (.inr ⟨1000, rfl⟩) (.inl rfl) (.inr ⟨0, rfl⟩) (.inr ⟨0, rfl⟩) rfl
      (.inl rfl)
  have hhits : readCacheHits zeroReport (pluginBook.cacheFields "deepseek") = some 0 := by
    change readCacheHits zeroReport cacheHitFields = some 0
    rw [cacheHitFields, readCacheHits, splitPath_cacheHitFields.1]
    rfl
  have hprompt : (tokenField zeroReport "prompt_tokens").number? ≠ some (.fin 0) := by
    decide
  exact cost_ne_of_unsplit pricedTwice_flash hwhole ⟨hhits, rfl, hprompt⟩ h.same

end LcpGateway.Accounting
