import LcpGateway.Base.Number
import LcpGateway.Config.Registry

/-!
# Gateway configuration lookups

Library `Config`. The lookups of `src/api/config.py:575–600,673–685` and
`src/api/router.py:910–973` that the request path makes. `model_limits` values are raw
configuration objects, so their fields are JSON.
-/

namespace LcpGateway.Config
open LcpGateway.Base

/-- One `model_limits` entry. -/
abbrev Limits := List (String × Json)

/-- The configuration the request path reads. `apiBase` is
`providers[name].get("api_base")`, `apiModel` the `get_api_model` of the provider's plugin. -/
structure GatewayConfig where
  apiBase : Dict String String
  modelLimits : Dict String Limits
  registry : Registry
  apiModel : String → String → String

namespace GatewayConfig

variable (cfg : GatewayConfig)

/-- `step.get("base_url") or config.providers.get(provider, {}).get("api_base", "")`. -/
def resolveBaseUrl (provider : String) (baseUrl : Option String) : String :=
  match baseUrl.filter (· ≠ "") with
  | some url => url
  | none => (cfg.apiBase.get? provider).getD ""

/-- `_canonical_names`; `config.py:575–600`. -/
def canonicalNames (model : String) : List String :=
  let logical := cfg.registry.logicalModelName model
  if logical = "" then [] else
    let benchmark := cfg.registry.benchmarkModelName logical
    if benchmark = "" ∨ benchmark = logical then [logical] else [logical, benchmark]

/-- A truthy entry of `model_limits`. -/
def limitsEntry (probe : String) : Option Limits :=
  (cfg.modelLimits.get? probe).filter (fun entry ↦ !entry.isEmpty)

/-- `get_model_limits`; `config.py:673–685`. -/
def getModelLimits (model : String) : Option Limits :=
  (model :: cfg.canonicalNames model).findSome? cfg.limitsEntry

/-- `model_limits.get(model, {}).get("supports_vision", False)`; `request_pipeline.py:880`. -/
def supportsVision (model : String) : Bool :=
  (((cfg.modelLimits.get? model).getD []).lookup "supports_vision").any Json.truthy

/-- `(get_model_limits(model) or {}).get("supports_thinking", False)`;
`request_pipeline.py:312–318`. -/
def supportsThinking (model : String) : Bool :=
  (((cfg.getModelLimits model).getD []).lookup "supports_thinking").any Json.truthy

/-- `_coerce_context`; `router.py:910–929`. -/
def coerceContext : Option Json → Option Int
  | some (.int i) => some i
  | some (.float (.fin r)) => some (r.num.tdiv r.den)
  | some (.str s) =>
    -- `isdigit` refuses a plus sign and the underscores that `int` takes
    if s.toList.any (fun c ↦ c = '+' || c = '_') then none else intOfStr s
  | _ => none

/-- `_DEFAULT_CONTEXT_WINDOW`; `router.py:387`. -/
def defaultContextWindow : Int := 128000

/-- `_CONTEXT_OUTPUT_RESERVE`; `router.py:388`. -/
def contextOutputReserve : Int := 8192

/-- A non-zero window in one limits entry. -/
def contextOf (limits : Option Limits) : Option Int :=
  (limits.bind (fun l ↦ coerceContext (l.lookup "context_window"))).filter (· ≠ 0)

/-- `_context_window_for`; `router.py:931–965`. -/
def contextWindowFor (logicalModel : String) : Int :=
  ((contextOf (cfg.getModelLimits logicalModel)).or
    (contextOf (cfg.modelLimits.get? logicalModel))).getD defaultContextWindow

/-- `_fits_context`; `router.py:967–973`. -/
def fitsContext (logicalModel : String) (requestTokens : Nat) : Bool :=
  requestTokens = 0 || requestTokens + contextOutputReserve ≤ cfg.contextWindowFor logicalModel

end GatewayConfig
end LcpGateway.Config
