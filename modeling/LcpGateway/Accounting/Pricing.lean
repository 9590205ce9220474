import LcpGateway.Config.Gateway

/-!
# Prices and cost plugins

Library `Accounting`. Sources `src/api/cost_plugins/base.py:29–72`, the price tables of
`deepseek.py`, `opencode.py`, `commandcode.py` and `llamacpp.py` beside it, and
`src/api/config.py:602–672`. A price row is a raw dictionary: the plugins' rows are constants,
a configured row is whatever the operator stored.
-/

namespace LcpGateway.Accounting
open LcpGateway.Base LcpGateway.Config

/-- A price row, in dollars for a million tokens. -/
abbrev PriceRow := List (String × Json)

/-- The UTC moment a request is billed at; Monday is day 0. -/
structure BillingTime where
  weekday : Nat
  hour : Nat
  deriving DecidableEq, Repr

/-- `DEEPSEEK_PEAK_BANDS`; `base.py:29`. -/
def deepseekPeakBands : List (Nat × Nat) := [(1, 4), (6, 10)]

/-- `is_deepseek_peak`; `base.py:32–50`. -/
def isDeepseekPeak (ts : BillingTime) : Bool :=
  ts.weekday < 5 && deepseekPeakBands.any (fun band ↦ band.1 ≤ ts.hour && ts.hour < band.2)

/-- `pricing.get("peak_" + field, pricing.get(field, 0.0))`. -/
def peakRate (pricing : PriceRow) (peak base : String) : Json :=
  ((pricing.lookup peak).or (pricing.lookup base)).getD (.float (.fin 0))

/-- `select_rates` on a non-empty row; `base.py:53–72`. -/
def selectRates (pricing : PriceRow) (ts : BillingTime) : PriceRow :=
  if (pricing.lookup "peak_cache_miss").isNone ∨ !isDeepseekPeak ts then pricing
  else
    [("cache_hit", peakRate pricing "peak_cache_hit" "cache_hit"),
      ("cache_miss", peakRate pricing "peak_cache_miss" "cache_miss"),
      ("output", peakRate pricing "peak_output" "output")]

/-! ### The plugins' tables -/

/-- A dictionary of dollar rates. -/
def priceRow (rates : List (String × Rat)) : PriceRow :=
  rates.map (fun rate ↦ (rate.1, .float (.fin rate.2)))

/-- `_FLASH_PRICING`, one constant in each of the three plugins; `deepseek.py:32–39`. -/
def flashPricing : PriceRow :=
  priceRow [("cache_hit", 0.003), ("cache_miss", 0.15), ("output", 0.6),
    ("peak_cache_hit", 0.006), ("peak_cache_miss", 0.30), ("peak_output", 1.20)]

/-- `_V4_PRO_PRICING`; `deepseek.py:47–54`. -/
def v4ProPricing : PriceRow :=
  priceRow [("cache_hit", 0.022), ("cache_miss", 0.66), ("output", 1.98),
    ("peak_cache_hit", 0.044), ("peak_cache_miss", 1.32), ("peak_output", 3.96)]

/-- `_PRICING`; `deepseek.py:56–62`. -/
def deepseekPricing : List (String × PriceRow) :=
  [("deepseek-v4-pro", v4ProPricing), ("deepseek-flash", flashPricing),
    ("deepseek-v4-flash", flashPricing), ("deepseek-v4.1-flash", flashPricing),
    ("deepseek-v4-flash-vision-exp", flashPricing)]

/-- `_OPENCODE_PRICING`; `opencode.py:44–61`. -/
def opencodePricing : List (String × PriceRow) :=
  [("deepseek-v4-pro", v4ProPricing), ("deepseek-flash", flashPricing),
    ("deepseek-v4-flash", flashPricing), ("deepseek-v4.1-flash", flashPricing),
    ("deepseek-v4-flash-vision-exp", flashPricing)]

/-- `_FREE_MODELS`; `opencode.py:63–67`. -/
def freeModels : List String := ["qwen3-coder", "glm-4.7-free", "minimax-m2.1-free"]

/-- A row without peak rates. -/
def flatRow (cacheHit cacheMiss output : Rat) : PriceRow :=
  priceRow [("cache_hit", cacheHit), ("cache_miss", cacheMiss), ("output", output)]

/-- `_COMMANDCODE_PRICING`; `commandcode.py:55–152`. -/
def commandcodePricing : List (String × PriceRow) :=
  [("deepseek-v4-pro", v4ProPricing), ("deepseek-flash", flashPricing),
    ("deepseek-v4-flash", flashPricing), ("deepseek-v4.1-flash", flashPricing),
    ("deepseek-v4-flash-vision-exp", flashPricing),
    ("deepseek-v4.1-flash-fast", priceRow [("cache_hit", 0.016), ("cache_miss", 0.16),
      ("output", 0.58), ("peak_cache_hit", 0.032), ("peak_cache_miss", 0.32),
      ("peak_output", 1.16)]),
    ("claude-sonnet-4-6", flatRow 0.30 3.00 15.00), ("claude-sonnet-5", flatRow 0.30 3.00 15.00),
    ("claude-opus-5", flatRow 0.375 15.00 75.00), ("claude-haiku-4-5", flatRow 0.08 0.80 4.00),
    ("gpt-5.6-luna", flatRow 0.01 0.10 0.60), ("gpt-5.6-terra", flatRow 0.10 1.00 6.00),
    ("kimi-k3", flatRow 0.30 3.00 15.00), ("kimi-k2.7-code", flatRow 0.19 0.95 4.00),
    ("minimax-m3", flatRow 0.06 0.30 1.20), ("qwen3.8-max", flatRow 0.10 1.00 4.00)]

/-- `_logical_model`; `commandcode.py:224–234`. -/
def logicalModel (model : String) : String := lower (strip (lastSegment '/' model))

/-- How a plugin prices: nothing costs anything, or a table looked up under `tableName`. -/
inductive CostPlugin where
  | free
  | table (freeModels : List String) (tableName : String → String)
      (pricing : List (String × PriceRow))

/-- `DeepSeekCostPlugin`. -/
def deepSeekCostPlugin : CostPlugin := .table [] id deepseekPricing

/-- `OpenCodeCostPlugin`. -/
def openCodeCostPlugin : CostPlugin := .table freeModels id opencodePricing

/-- `LlamaCppCostPlugin`. -/
def llamaCppCostPlugin : CostPlugin := .free

/-- `CommandCodeCostPlugin`. -/
def commandCodeCostPlugin : CostPlugin := .table [] logicalModel commandcodePricing

/-- The built-in registry; `base.py:456–468`. -/
def builtinPlugins : List (String × CostPlugin) :=
  [("deepseek", deepSeekCostPlugin), ("opencode", openCodeCostPlugin),
    ("llamacpp", llamaCppCostPlugin), ("commandcode", commandCodeCostPlugin)]

/-! ### Configured prices -/

/-- One row of the `pricing` section. -/
structure ConfigPrice where
  provider : Option String
  model : String
  row : PriceRow

/-- What accounting reads: the plugin registry, the `pricing` section and the `hit_field` of
each provider's cache configuration. -/
structure PriceBook where
  plugins : List (String × CostPlugin)
  pricing : List ConfigPrice
  hitField : Dict String String

namespace PriceBook

variable (book : PriceBook)

/-- `_provider_matches`; `config.py:603–611`. -/
def providerMatches (rowProvider : Option String) (provider : String) : Bool :=
  match rowProvider with
  | none => true
  | some p => p = "" || p = "*" || p = provider

/-- `_find_pricing_row`; `config.py:613–627`. `anyProvider` is the matcher of the
cross-provider step. -/
def findPricingRow (provider model : String) (anyProvider : Bool) : Option ConfigPrice :=
  let target := strip model
  if target = "" then none
  else book.pricing.find? (fun row ↦
    (row.model = target || lower row.model = lower target) &&
      (anyProvider || providerMatches row.provider provider))

/-- `resolve_pricing`, the answer of `_lookup_pricing`; `config.py:629–671`,
`request_pipeline.py:481–503`. -/
def resolvePricing (cfg : GatewayConfig) (provider model : String) : Option PriceRow :=
  let canonical := cfg.canonicalNames model
  let exact := book.findPricingRow provider model false
  let own := canonical.findSome? (fun probe ↦ book.findPricingRow provider probe false)
  let shared := canonical.findSome? (fun probe ↦ book.findPricingRow provider probe true)
  ((exact.or own).or shared).map ConfigPrice.row

/-- The row a completion is priced from by arithmetic; `none` when it is free or unpriced. -/
def formulaRow (cfg : GatewayConfig) (provider model : String) : Option PriceRow :=
  match book.plugins.lookup provider with
  | some .free => none
  | some (.table free tableName pricing) =>
    if model ∈ free then none
    else (pricing.lookup (tableName model)).or (book.resolvePricing cfg provider model)
  | none => book.resolvePricing cfg provider model

end PriceBook
end LcpGateway.Accounting
