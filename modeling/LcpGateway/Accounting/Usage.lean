import LcpGateway.Accounting.Pricing
import LcpGateway.Chat.Message

/-!
# Usage blocks

Library `Accounting`. Sources `src/api/request_pipeline.py:412–572`,
`src/api/token_verifier.py:17–82` and the plugins' `calculate_cost`. The block is whatever JSON
the provider sent, so every reader answers an option: `none` is an exception.
-/

namespace LcpGateway.Accounting
open LcpGateway.Base LcpGateway.Chat LcpGateway.Config

/-! ### Reading fields -/

/-- `response_body.get("usage", {})`. -/
def usageOf (response : List (String × Json)) : Json := (response.lookup "usage").getD (.obj [])

/-- `usage.get(key, 0)`. -/
def tokenField (usage : Json) (key : String) : Json := (usage.get? key).getD (.int 0)

/-- `_CACHE_HIT_FIELDS`; `request_pipeline.py:421–425`. -/
def cacheHitFields : List String :=
  ["prompt_cache_hit_tokens", "prompt_tokens_details.cached_tokens", "cache_read_input_tokens"]

/-- `path.split(".")`. -/
def splitPath (path : String) : List String := (path.toList.splitOn '.').map String.ofList

/-- `_read_path`; `request_pipeline.py:428–437`. -/
def readPath : Json → List String → Json
  | node, [] => node
  | node, part :: rest => readPath ((node.get? part).getD .null) rest

/-- The loop of `read_cache_hit_tokens`; `request_pipeline.py:465–473`. -/
def readCacheHits (usage : Json) : List String → Option Int
  | [] => some 0
  | field :: rest =>
    match (readPath usage (splitPath field)).toInt with
    | .value i => some (max 0 i)
    | .refused => readCacheHits usage rest
    -- `int` of an infinite float raises what the loop does not catch
    | .overflow => none

/-- The candidates of `read_cache_hit_tokens`; `request_pipeline.py:459–464`. -/
def PriceBook.cacheFields (book : PriceBook) (provider : String) : List String :=
  match (book.hitField.get? provider).filter (· ≠ "") with
  | some field => field :: cacheHitFields
  | none => cacheHitFields

/-! ### Verification -/

/-- The result of `verify`. -/
structure Verification where
  providerPromptTokens : Json
  estimatedPromptTokens : Nat
  promptDiscrepancyPct : PyFloat
  providerCompletionTokens : Json
  suspicious : Bool

/-- `_estimate_tokens`; `token_verifier.py:20–22`. -/
def estimateTokens (text : String) : Nat := max 1 (text.length / 4)

/-- The estimate of one message, overhead included; `token_verifier.py:44–49`. -/
def estimateMessage (msg : Message) : Nat :=
  match msg.contentOr with
  | .str s => estimateTokens s + 4
  | _ => 4

/-- `prompt_diff_pct`; `token_verifier.py:51–55`. -/
def promptDiffPct (prompt : PyFloat) (estimated : Nat) : PyFloat :=
  match prompt with
  | .fin r => if 0 < r then .fin (|r - estimated| / max r 1) else .fin 0
  -- the difference and the quotient of infinities
  | .inf false => .nan
  | _ => .fin 0

/-- `DISCREPANCY_THRESHOLD`; `token_verifier.py:17`. -/
def discrepancyThreshold : Rat := 0.25

/-- `TokenVerifier.verify`; `token_verifier.py:32–82`. -/
def verify (messages : List Message) (usage : Json) : Option Verification :=
  if !usage.isObj then none else
    let prompt := tokenField usage "prompt_tokens"
    let estimated := (messages.map estimateMessage).sum
    prompt.number?.map (fun p ↦
      let pct := promptDiffPct p estimated
      { providerPromptTokens := prompt
        estimatedPromptTokens := estimated
        promptDiscrepancyPct := pct.round 4
        providerCompletionTokens := tokenField usage "completion_tokens"
        suspicious :=
          match pct with
          | .fin r => discrepancyThreshold < r
          | _ => false })

/-! ### Cost -/

/-- The result of `calculate_cost`. -/
structure CostInfo where
  promptTokens : Json
  completionTokens : Json
  cacheHitTokens : Int
  cacheMissTokens : Json
  cost : PyFloat
  priced : Bool

/-- `(tokens / 1_000_000) * rate`. -/
def charge (tokens rate : PyFloat) : PyFloat := (tokens.mul (.fin (1 / 1000000))).mul rate

/-- `rates[field]` as a factor. -/
def rateOf (rates : PriceRow) (field : String) : Option PyFloat :=
  (rates.lookup field).bind Json.number?

/-- The price of a completion; `request_pipeline.py:560–563`, `deepseek.py:106–110`. -/
def tokenCost (rates : PriceRow) (hit : Int) (miss output : Json) : Option PyFloat := do
  let hitRate ← rateOf rates "cache_hit"
  let missRate ← rateOf rates "cache_miss"
  let outputRate ← rateOf rates "output"
  let missTokens ← miss.number?
  let outputTokens ← output.number?
  return ((charge (.fin hit) hitRate).add (charge missTokens missRate)).add
    (charge outputTokens outputRate)

/-- The plugins' `calculate_cost`; `deepseek.py:91–111`, `opencode.py:223–247`,
`commandcode.py:294–315`, `llamacpp.py:77–78`. The inner option is the `None` that hands
pricing over to the configuration. -/
def CostPlugin.calculateCost (plugin : CostPlugin) (ts : BillingTime) (model : String)
    (prompt output : Json) (hit : Int) (miss : Json) : Option (Option PyFloat) :=
  match plugin with
  | .free => some (some (.fin 0))
  | .table freeOnes tableName pricing =>
    if model ∈ freeOnes then some (some (.fin 0))
    else
      match pricing.lookup (tableName model) with
      | none => some none
      | some row =>
        let miss := if hit = 0 ∧ miss.number? = some (.fin 0) then prompt else miss
        (tokenCost (selectRates row ts) hit miss output).map (fun cost ↦ some (cost.round 8))

/-- `PluginRegistry.calculate_cost`; `base.py:331–335`. -/
def PriceBook.pluginCost (book : PriceBook) (provider : String) (ts : BillingTime)
    (model : String) (prompt output : Json) (hit : Int) (miss : Json) :
    Option (Option PyFloat) :=
  match book.plugins.lookup provider with
  | some plugin => plugin.calculateCost ts model prompt output hit miss
  | none => some none

/-- `prompt_tokens - cache_hit if prompt_tokens > cache_hit else 0`. -/
def missDefault (prompt : Json) (hit : Int) : Option Json :=
  prompt.number?.map (fun p ↦ if p.gtInt hit then prompt.subInt hit else .int 0)

/-- The configured price of a completion, or an unpriced zero; `request_pipeline.py:546–572`. -/
def configCost (pricing : Option PriceRow) (ts : BillingTime) (hit : Int) (miss output : Json) :
    Option (PyFloat × Bool) :=
  match pricing with
  | none => some (.fin 0, false)
  | some row =>
    (tokenCost (selectRates row ts) hit miss output).map (fun cost ↦ (cost.round 8, true))

/-- The cost of a completion and whether a price was found, plugin first;
`request_pipeline.py:534–572`. -/
def PriceBook.price (book : PriceBook) (cfg : GatewayConfig) (ts : BillingTime)
    (provider model : String) (prompt output : Json) (hit : Int) (miss : Json) :
    Option (PyFloat × Bool) := do
  match ← book.pluginCost provider ts model prompt output hit miss with
  | some cost => return (cost.round 8, true)
  | none => configCost (book.resolvePricing cfg provider model) ts hit miss output

/-- `calculate_cost`; `request_pipeline.py:498–572`. -/
def calculateCost (cfg : GatewayConfig) (book : PriceBook) (ts : BillingTime)
    (provider model : String) (usage : Json) : Option CostInfo :=
  if !usage.isObj then none else do
    let prompt := tokenField usage "prompt_tokens"
    let output := tokenField usage "completion_tokens"
    let hit ← readCacheHits usage (book.cacheFields provider)
    let fallback ← missDefault prompt hit
    let miss := (usage.get? "prompt_cache_miss_tokens").getD fallback
    let (cost, priced) ← book.price cfg ts provider model prompt output hit miss
    return ⟨prompt, output, hit, miss, cost, priced⟩

end LcpGateway.Accounting
