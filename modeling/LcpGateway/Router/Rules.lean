import LcpGateway.Router.Scoring

/-!
# Routing rules

Library `Router`. Source `src/api/router.py:1178–1317`. A rule applies to a task and a
profile; a block rule removes the chain steps it names, a prefer rule names the target model
or a provider to try first. Of a fired rule the decision log keeps the action.
-/

namespace LcpGateway.Router
open LcpGateway.Base LcpGateway.Breaker LcpGateway.Chat LcpGateway.Config LcpGateway.Pipeline

/-- The `task` value of a rule. -/
inductive TaskPattern where
  | one (task : String)
  | many (tasks : List String)
  deriving DecidableEq, Repr

/-- A stored routing rule. -/
structure Rule where
  action : Option String
  enabled : Bool
  profile : DictField String
  task : DictField TaskPattern
  provider : Option String
  model : Option String
  minScore : Option Rat
  policy : Option String
  deriving DecidableEq, Repr

/-- The `action` values of the decision log's fired rules. -/
inductive Fired where
  | block
  | prefer
  | preferSkippedLowScore
  | preferUnserved
  | preferContextExcluded
  deriving DecidableEq, Repr

namespace Rule

/-- A pattern that names something: neither missing, empty nor `"*"`. -/
def concrete (pattern : Option String) : Option String :=
  pattern.filter (fun p ↦ p ≠ "" ∧ p ≠ "*")

/-- `not rule.get("provider") and not rule.get("model")`. -/
def untargeted (rule : Rule) : Bool :=
  (rule.provider.filter (· ≠ "")).isNone && (rule.model.filter (· ≠ "")).isNone

/-- The profile condition of `_rule_matches`; `router.py:1183–1185`. -/
def matchesProfile (rule : Rule) (profile : String) : Bool :=
  match rule.profile with
  | .absent => true
  | .null => false
  | .value p => p = "*" ∨ p = "" ∨ p = profile

/-- The task condition of `_rule_matches`; `router.py:1186–1191`. -/
def matchesTask (rule : Rule) (task : String) : Bool :=
  match rule.task with
  | .absent => true
  | .null => false
  | .value (.one t) => t = "*" ∨ t = "" ∨ t = task
  | .value (.many ts) => task ∈ ts

/-- `_rule_matches`; `router.py:1178–1191`. -/
def isMatch (rule : Rule) (task profile : String) : Bool :=
  rule.enabled && rule.matchesProfile profile && rule.matchesTask task

/-- The rule is a block rule in force for the task and profile. -/
def isBlock (rule : Rule) (task profile : String) : Bool :=
  rule.action = some "block" && rule.isMatch task profile && !rule.untargeted

end Rule

namespace RouterEnv

variable (env : RouterEnv)

/-- `_rule_target`; `router.py:1193–1217`. -/
def ruleTarget (rule : Rule) (s : Step) : Bool :=
  let provider := Rule.concrete rule.provider
  let model := Rule.concrete rule.model
  provider.all (· = s.provider) && model.all (fun m ↦ env.logical m = env.logical s.model) &&
    (provider.isSome || model.isSome)

/-- The loop state of `_apply_blocks`. -/
structure Blocked where
  candidates : List Step
  fired : List Fired
  blockedModels : List String

/-- One iteration of `_apply_blocks`; `router.py:1236–1254`. -/
def applyBlock (task profile : String) (acc : Blocked) (rule : Rule) : Blocked :=
  if !rule.isBlock task profile then acc else
    let candidates := acc.candidates.filter (fun s ↦ !env.ruleTarget rule s)
    if candidates.length < acc.candidates.length then
      { candidates
        fired := acc.fired ++ [.block]
        blockedModels :=
          match rule.provider.filter (· ≠ ""), rule.model.filter (· ≠ "") with
          | none, some m => env.logical m :: acc.blockedModels
          | _, _ => acc.blockedModels }
    else { acc with candidates }

/-- `_apply_blocks`; `router.py:1219–1255`. Its `blocked_providers` is read by nobody. -/
def applyBlocks (rules : List Rule) (chain : List Step) (task profile : String) : Blocked :=
  rules.foldl (env.applyBlock task profile) ⟨chain, [], []⟩

/-- The step is matched by a block rule in force. -/
def blockedBy (rules : List Rule) (task profile : String) (s : Step) : Bool :=
  rules.any (fun rule ↦ rule.isBlock task profile && env.ruleTarget rule s)

/-- The result of `_resolve_prefer`. -/
structure Preference where
  target : Option String
  provider : Option String
  fired : List Fired

/-- `_resolve_prefer`, the rules still to be looked at; `router.py:1257–1317`. -/
def resolvePrefer (chain : List Step) (task profile : String) :
    List Rule → List Fired → Preference
  | [], fired => ⟨none, none, fired⟩
  | rule :: rest, fired =>
    if rule.action ≠ some "prefer" ∨ !rule.isMatch task profile ∨ rule.untargeted then
      resolvePrefer chain task profile rest fired
    else
      let provider := Rule.concrete rule.provider
      match Rule.concrete rule.model with
      | some m =>
        let target := env.logical m
        if rule.minScore.any (fun gate ↦ env.getModelScore target task < gate) then
          resolvePrefer chain task profile rest (fired ++ [.preferSkippedLowScore])
        else if chain.any (fun s ↦ provider.all (· = s.provider) && env.logical s.model = target)
          then ⟨some target, provider, fired ++ [.prefer]⟩
        else resolvePrefer chain task profile rest (fired ++ [.preferUnserved])
      | none =>
        -- provider-only prefer: a tiebreak, the model is still scored
        if chain.any (env.ruleTarget rule) then ⟨none, provider, fired ++ [.prefer]⟩
        else resolvePrefer chain task profile rest fired

/-! ### What the rules decide -/

/-- The block loop keeps exactly the steps that no block rule in force names. -/
theorem candidates_applyBlocks (rules : List Rule) (chain : List Step) (task profile : String) :
    (env.applyBlocks rules chain task profile).candidates =
      chain.filter (fun s ↦ !env.blockedBy rules task profile s) := by
  have hfold : ∀ (rules : List Rule) (acc : Blocked),
      (rules.foldl (env.applyBlock task profile) acc).candidates =
        acc.candidates.filter (fun s ↦ !env.blockedBy rules task profile s) := by
    intro rules
    induction rules with
    | nil => intro acc; simp [blockedBy]
    | cons rule rest ih =>
      intro acc
      rw [List.foldl_cons, ih]
      have hstep : (env.applyBlock task profile acc rule).candidates =
          acc.candidates.filter
            (fun s ↦ !(rule.isBlock task profile && env.ruleTarget rule s)) := by
        unfold applyBlock
        cases hblock : rule.isBlock task profile with
        | false => simp
        | true =>
          simp only [Bool.not_true, Bool.false_eq_true, if_false, Bool.true_and]
          split <;> rfl
      rw [hstep, List.filter_filter]
      congr 1
      funext s
      simp only [blockedBy, List.any_cons]
      cases rule.isBlock task profile && env.ruleTarget rule s <;> simp
  exact hfold rules ⟨chain, [], []⟩

/-- Blocking looks at the provider and the logical model only. -/
theorem blockedBy_congr {rules : List Rule} {task profile : String} {s t : Step}
    (hprovider : s.provider = t.provider) (hlogical : env.logical s.model = env.logical t.model) :
    env.blockedBy rules task profile s = env.blockedBy rules task profile t := by
  simp only [blockedBy, ruleTarget, hprovider, hlogical]

/-- A preferred target model is served by a step of the chain. -/
theorem resolvePrefer_served {chain : List Step} {task profile target : String}
    {rules : List Rule} {fired : List Fired}
    (h : (env.resolvePrefer chain task profile rules fired).target = some target) :
    ∃ s ∈ chain, env.logical s.model = target := by
  induction rules generalizing fired with
  | nil => simp [resolvePrefer] at h
  | cons rule rest ih =>
    rw [resolvePrefer] at h
    split at h
    · exact ih h
    · dsimp only at h
      split at h
      · next m _ =>
        split at h
        · exact ih h
        · split at h
          · next hserved =>
            obtain rfl := Option.some.inj h
            obtain ⟨s, hs, hmatch⟩ := List.any_eq_true.mp hserved
            simp only [Bool.and_eq_true, decide_eq_true_eq] at hmatch
            exact ⟨s, hs, hmatch.2⟩
          · exact ih h
      · split at h
        · simp at h
        · exact ih h

end RouterEnv
end LcpGateway.Router
