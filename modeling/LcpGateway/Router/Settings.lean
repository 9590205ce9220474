import LcpGateway.Base.Dict
import LcpGateway.Base.Object

/-!
# Routing settings in layers

Library `Router`. Sources `src/api/cost_cache.py:167–276` and `src/api/router.py:601–635,1150–1176`.
A setting may be stored for a profile, stored for all, and written in the config. `float` and
`loads` read a value as Python's `float` and `json.loads` do, none for the exception they raise.
-/

namespace LcpGateway.Router
open LcpGateway.Base

/-- Where the router looks: the settings rows, none before the store is set up, and the value of
`config.dynamic_routing`, none without a config. -/
structure RoutingSources where
  settings : Option (Dict String String)
  config : Option Json

/-- `VALID_POLICIES`. -/
def validPolicies : List String := ["eager", "cost_first", "explore"]

/-- `_profile_key`; `cost_cache.py:167–170`. -/
def profileKey (base : String) (profile : Option String) : String :=
  match profile.filter (· ≠ "") with
  | some p => base ++ ":" ++ p
  | none => base

/-- The raw value of a scope, the profile's or else the global one. -/
def rawSetting (settings : Dict String String) (base : String) (profile : Option String) :
    Option String :=
  let raw := settings.get? (profileKey base profile)
  if raw.isNone && (profile.filter (· ≠ "")).isSome then settings.get? base else raw

/-- `get_routing_policy`; `cost_cache.py:172–186`. -/
def getRoutingPolicy (settings : Dict String String) (default : String)
    (profile : Option String) : String :=
  let raw := (rawSetting settings "routing_policy" profile).getD default
  if raw ∈ validPolicies then raw else default

section Reading

variable (float : Json → Option PyFloat) (loads : String → Option Json)

/-- `get_routing_min_score`; `cost_cache.py:198–210`. -/
def getRoutingMinScore (settings : Dict String String) (default : PyFloat)
    (profile : Option String) : PyFloat :=
  match rawSetting settings "routing_min_score" profile with
  | some raw => (float (.str raw)).getD default
  | none => default

/-- `get_routing_rules` without a default; `cost_cache.py:249–270`. -/
def getRoutingRules (settings : Dict String String) (profile : Option String) : List Json :=
  match rawSetting settings "routing_rules" profile with
  | some raw => ((loads raw).bind Json.items?).getD []
  | none => []

namespace RoutingSources

variable (src : RoutingSources) (profile : Option String)

/-- The fields of `config.dynamic_routing or {}`; a section without `get` has none. -/
def configFields : Fields :=
  match src.config with
  | some dr => ((dr.orElse (.obj [])).fields?).getD []
  | none => []

/-- `_effective_policy`: the policy and the floor; `router.py:601–635`. -/
def effectivePolicy : Json × PyFloat :=
  let policy := (src.settings.map (fun s ↦ getRoutingPolicy s "eager" profile)).getD "eager"
  let minScore := (src.settings.map (fun s ↦ getRoutingMinScore float s (.fin 0) profile)).getD
    (.fin 0)
  ((src.configFields.lookup "policy").getD (.str policy),
    match src.configFields.lookup "min_score" with
    | some v => (float v).getD minScore
    | none => minScore)

/-- The rules written in the config: `list(dr.get("rules", []) or [])`, or nothing. -/
def configRules : List Json :=
  ((((src.configFields.lookup "rules").getD (.arr [])).orElse (.arr [])).iterate).getD []

/-- `_rules`; `router.py:1150–1176`. -/
def rules : List Json :=
  let stored := (src.settings.map (fun s ↦ getRoutingRules loads s profile)).getD []
  if stored.isEmpty then src.configRules else stored

/-! ## The layers -/

/-- The value stored for the profile. -/
def own (base : String) : Option String :=
  (profile.filter (· ≠ "")).bind (fun p ↦ src.settings.bind (·.get? (base ++ ":" ++ p)))

/-- The value stored for all. -/
def stored (base : String) : Option String := src.settings.bind (·.get? base)

/-- A setting in layers: the profile's own value, else the one for all, else the config's, else the
default. A value in a layer may have no reading. -/
def layered {α : Type} (read : String → Option α) (readConfig : Json → Option α) (base key : String)
    (default : α) : Option α :=
  (((src.own profile base).or (src.stored base)).map read).or
    ((src.configFields.lookup key).map readConfig) |>.getD (some default)

/-- The policy by layers. -/
def layeredPolicy : Option Json :=
  src.layered profile (fun raw ↦ some (.str raw)) some "routing_policy" "policy" (.str "eager")

/-- The floor by layers. -/
def layeredMinScore : Option PyFloat :=
  src.layered profile (fun raw ↦ float (.str raw)) float "routing_min_score" "min_score" (.fin 0)

/-- The rules by layers. -/
def layeredRules : Option (List Json) :=
  src.layered profile (fun raw ↦ (loads raw).bind Json.items?) Json.items? "routing_rules" "rules"
    []

/-- A stored policy is the config's too, or a valid one that the config is silent about. -/
def PolicyKept : Prop :=
  ∀ raw ∈ (src.own profile "routing_policy").or (src.stored "routing_policy"),
    (∀ p ∈ src.configFields.lookup "policy", p = .str raw) ∧
      (src.configFields.lookup "policy" = none → raw ∈ validPolicies)

/-- A stored floor is a number, and the config's if that has one; without a stored one the config's
is a number. -/
def MinScoreKept : Prop :=
  (∀ raw ∈ (src.own profile "routing_min_score").or (src.stored "routing_min_score"),
    ∃ x, float (.str raw) = some x ∧
      ∀ v ∈ src.configFields.lookup "min_score", ∀ y, float v = some y → y = x) ∧
  ((src.own profile "routing_min_score").or (src.stored "routing_min_score") = none →
    ∀ v ∈ src.configFields.lookup "min_score", (float v).isSome)

/-- Stored rules are a list, and not empty where the config has rules; without stored ones the
config's are a list. -/
def RulesKept : Prop :=
  (∀ raw ∈ (src.own profile "routing_rules").or (src.stored "routing_rules"),
    ∃ items, loads raw = some (.arr items) ∧ (items = [] → src.configRules = [])) ∧
  ((src.own profile "routing_rules").or (src.stored "routing_rules") = none →
    ∀ v ∈ src.configFields.lookup "rules", ∃ items, v = .arr items)

/-! ## What the router uses -/

variable {src profile}

/-- The store's readers look at the two stored layers. -/
theorem rawSetting_eq {settings : Dict String String} (h : src.settings = some settings)
    (base : String) :
    rawSetting settings base profile = (src.own profile base).or (src.stored base) := by
  rw [rawSetting, own, stored, h, profileKey]
  cases profile.filter (· ≠ "") with
  | none => simp
  | some p => cases hown : settings.get? (base ++ ":" ++ p) <;> simp [hown]

/-- Nothing is stored before the store is set up. -/
theorem layers_of_none (h : src.settings = none) (base : String) :
    (src.own profile base).or (src.stored base) = none := by
  rw [own, stored, h]
  cases profile.filter (· ≠ "") <;> rfl

/-- The policy of the store is read from the two stored layers. -/
theorem storedPolicy_eq :
    (src.settings.map (fun s ↦ getRoutingPolicy s "eager" profile)).getD "eager" =
      (((src.own profile "routing_policy").or (src.stored "routing_policy")).filter
        (· ∈ validPolicies)).getD "eager" := by
  cases hsettings : src.settings with
  | none => rw [layers_of_none hsettings]; rfl
  | some settings =>
    rw [Option.map_some, Option.getD_some, getRoutingPolicy, rawSetting_eq hsettings]
    cases (src.own profile "routing_policy").or (src.stored "routing_policy") with
    | none => exact if_pos (by decide)
    | some raw =>
      rw [Option.getD_some, Option.filter_some]
      by_cases hvalid : raw ∈ validPolicies
      · rw [if_pos hvalid, if_pos (decide_eq_true hvalid), Option.getD_some]
      · rw [if_neg hvalid, if_neg (by simpa using hvalid), Option.getD_none]

/-- The floor of the store is read from the two stored layers. -/
theorem storedMinScore_eq :
    (src.settings.map (fun s ↦ getRoutingMinScore float s (.fin 0) profile)).getD (.fin 0) =
      (((src.own profile "routing_min_score").or (src.stored "routing_min_score")).bind
        (fun raw ↦ float (.str raw))).getD (.fin 0) := by
  cases hsettings : src.settings with
  | none => rw [layers_of_none hsettings]; rfl
  | some settings =>
    rw [Option.map_some, Option.getD_some, getRoutingMinScore, rawSetting_eq hsettings]
    cases (src.own profile "routing_min_score").or (src.stored "routing_min_score") <;> rfl

/-- The rules of the store are read from the two stored layers. -/
theorem storedRules_eq :
    (src.settings.map (fun s ↦ getRoutingRules loads s profile)).getD [] =
      (((src.own profile "routing_rules").or (src.stored "routing_rules")).bind
        (fun raw ↦ (loads raw).bind Json.items?)).getD [] := by
  cases hsettings : src.settings with
  | none => rw [layers_of_none hsettings]; rfl
  | some settings =>
    rw [Option.map_some, Option.getD_some, getRoutingRules, rawSetting_eq hsettings]
    cases (src.own profile "routing_rules").or (src.stored "routing_rules") <;> rfl

/-- The policy in use is the one of the layers. -/
theorem policy_eq_layered_iff :
    src.layeredPolicy profile = some (src.effectivePolicy float profile).1 ↔
      src.PolicyKept profile := by
  rw [layeredPolicy, layered, effectivePolicy, storedPolicy_eq, PolicyKept]
  cases (src.own profile "routing_policy").or (src.stored "routing_policy") with
  | none => cases src.configFields.lookup "policy" <;> simp
  | some raw =>
    cases src.configFields.lookup "policy" with
    | some p => simp [eq_comm]
    | none =>
      rw [Option.filter_some]
      by_cases hvalid : raw ∈ validPolicies
      · simp [hvalid]
      · have hne : raw ≠ "eager" := fun heq ↦ hvalid (heq ▸ List.mem_cons_self)
        simp [hvalid, hne]

/-- The floor in use is the one of the layers. -/
theorem minScore_eq_layered_iff :
    src.layeredMinScore float profile = some (src.effectivePolicy float profile).2 ↔
      src.MinScoreKept float profile := by
  rw [layeredMinScore, layered, effectivePolicy, storedMinScore_eq, MinScoreKept]
  cases (src.own profile "routing_min_score").or (src.stored "routing_min_score") with
  | none =>
    cases src.configFields.lookup "min_score" with
    | none => simp
    | some v => cases hv : float v <;> simp [hv]
  | some raw =>
    cases hraw : float (.str raw) with
    | none => simp [hraw]
    | some x =>
      cases src.configFields.lookup "min_score" with
      | none => simp [hraw]
      | some v =>
        cases hv : float v with
        | none => simp [hraw, hv]
        | some y => simp [hraw, hv]

/-- The rules in use are those of the layers. -/
theorem rules_eq_layered_iff :
    src.layeredRules loads profile = some (src.rules loads profile) ↔
      src.RulesKept loads profile := by
  rw [layeredRules, layered, rules, storedRules_eq, RulesKept]
  cases (src.own profile "routing_rules").or (src.stored "routing_rules") with
  | none =>
    rw [configRules]
    cases src.configFields.lookup "rules" with
    | none => simp [Json.orElse, Json.truthy, Json.iterate]
    | some v =>
      cases v with
      | arr items =>
        cases items <;> simp [Json.items?, Json.orElse, Json.truthy, Json.iterate]
      | _ => simp [Json.items?]
  | some raw =>
    cases hloads : loads raw with
    | none => simp [hloads]
    | some v =>
      cases v with
      | arr items =>
        cases items with
        | nil => simp [hloads, Json.items?]
        | cons item rest => simp [hloads, Json.items?]
      | _ => simp [hloads, Json.items?]

/-- Every routing setting in use is the one of the layers exactly when stored values are readable,
the config has no other policy or floor than the stored one, and no rules next to an empty stored
list. -/
theorem effective_eq_layered_iff (src : RoutingSources) (profile : Option String) :
    (src.layeredPolicy profile = some (src.effectivePolicy float profile).1 ∧
      src.layeredMinScore float profile = some (src.effectivePolicy float profile).2 ∧
      src.layeredRules loads profile = some (src.rules loads profile)) ↔
    src.PolicyKept profile ∧ src.MinScoreKept float profile ∧ src.RulesKept loads profile := by
  rw [policy_eq_layered_iff, minScore_eq_layered_iff, rules_eq_layered_iff]

end RoutingSources
end Reading

/-- A policy stored for all, an empty list of rules stored for a profile, and a config that has a
policy and a rule. -/
def contested : RoutingSources where
  settings := some ((Dict.empty.set "routing_policy" "cost_first").set "routing_rules:l2" "[]")
  config := some (.obj [("policy", .str "explore"),
    ("rules", .arr [.obj [("action", .str "block"), ("provider", .str "opencode")]])])

/-- `json.loads` of an empty list. -/
def loadsEmpty (raw : String) : Option Json := if raw = "[]" then some (.arr []) else none

/-- The config's policy wins over the stored one, and its rules over the empty list stored. -/
theorem config_overrides_store :
    contested.layeredPolicy (some "l2") = some (.str "cost_first") ∧
      (contested.effectivePolicy Json.number? (some "l2")).1 = .str "explore" ∧
      contested.layeredRules loadsEmpty (some "l2") = some [] ∧
      (contested.rules loadsEmpty (some "l2")).length = 1 ∧
      ¬ (contested.layeredPolicy (some "l2") =
          some (contested.effectivePolicy Json.number? (some "l2")).1 ∧
        contested.layeredMinScore Json.number? (some "l2") =
          some (contested.effectivePolicy Json.number? (some "l2")).2 ∧
        contested.layeredRules loadsEmpty (some "l2") =
          some (contested.rules loadsEmpty (some "l2"))) := by
  have hlayered : contested.layeredPolicy (some "l2") = some (.str "cost_first") := rfl
  have hused : (contested.effectivePolicy Json.number? (some "l2")).1 = .str "explore" := rfl
  refine ⟨hlayered, hused, rfl, rfl, fun h ↦ ?_⟩
  rw [hlayered, hused] at h
  exact absurd (Json.str.inj (Option.some.inj h.1)) (by decide)

end LcpGateway.Router
