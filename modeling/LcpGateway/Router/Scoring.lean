import LcpGateway.Pipeline.TryChain
import LcpGateway.Router.Classify
import Mathlib.Data.List.Dedup

/-!
# Model scoring and the chain builder

Library `Router`. Source `src/api/router.py:755–1146`. A target model is chosen without
regard to providers; the chain is then built for it once, health and credit only ordering
the steps. Scores are exact rationals. Two things Python leaves open are inputs: the order
in which a set is enumerated, and the draw of the `explore` policy.
-/

namespace LcpGateway.Router
open LcpGateway.Base LcpGateway.Breaker LcpGateway.Chat LcpGateway.Config LcpGateway.Pipeline

/-- An enumeration order of sets of model names. -/
structure SetOrder where
  enumerate : List String → List String
  perm : ∀ l, (enumerate l).Perm l

/-- The routing policies; any other stored string behaves as `eager`. -/
inductive Policy where
  | eager
  | costFirst
  | explore
  | other (name : String)
  deriving DecidableEq, Repr

/-- What the router reads besides the request: configuration, capability matrix, cost bias,
the `drained` verdict of the cost plugins, and the two open choices. -/
structure RouterEnv where
  cfg : GatewayConfig
  matrix : Dict String (Dict String Rat)
  costBias : Rat
  drained : String → Bool
  order : SetOrder
  draw : List String → Nat

/-- `DEFAULT_CAPABILITY.get(logical, 0.5)`; `router.py:352–355`. -/
def defaultCapability (logical : String) : Rat :=
  if logical = "deepseek-v4-pro" then 85 / 100
  else if logical = "deepseek-v4-flash" then 65 / 100
  else 1 / 2

/-- `_MODEL_PRICES.get(model, 1.0)`; `router.py:367–371`. -/
def modelPrice (model : String) : Rat :=
  if model = "deepseek-v4-pro" then 198 / 100
  else if model = "deepseek-v4-flash" then 27 / 100
  else 1

/-- `max(_MODEL_PRICES.values())`. -/
def maxPrice : Rat := 198 / 100

/-- `_HYSTERESIS`; `router.py:365`. -/
def hysteresis : Rat := 5 / 100

/-- `_HEALTH_BONUS`; `router.py:373–378`. -/
def healthBonus : Status → Rat
  | .healthy => 5 / 100
  | .degraded => -(3 / 100)
  | .dead => -(25 / 100)

namespace RouterEnv

variable (env : RouterEnv)

/-- `logical_model_name` on the router's registry. -/
def logical (model : String) : String := env.cfg.registry.logicalModelName model

/-- `get_model_score`; `router.py:755–777`. -/
def getModelScore (model task : String) : Rat :=
  let logical := env.logical model
  let benchmark := env.cfg.registry.benchmarkModelName logical
  (((env.matrix.get? task).bind (·.get? benchmark))).getD (defaultCapability logical)

/-- `_credit_bonus`; `router.py:848–854`. -/
def creditBonus (provider : String) : Rat := if env.drained provider then -(10 / 100) else 0

/-- `score_step`, given the breaker status of the step's provider; `router.py:856–874`. -/
def scoreStep (provider model task : String) (bias : Option Rat) (status : Status) : Rat :=
  env.getModelScore model task + bias.getD env.costBias * (1 - modelPrice model / maxPrice) +
    healthBonus status + env.creditBonus provider

/-- `_score_model`: an empty provider is always healthy; `router.py:886–901`. -/
def scoreModel (logicalModel task : String) (bias : Option Rat) : Rat :=
  env.scoreStep "" logicalModel task bias .healthy

/-- `_candidate_models`; `router.py:989–1011`. -/
def candidateModels (chain : List Step) (blockedModels : List String) (requestTokens : Nat) :
    List String :=
  ((chain.map (fun s ↦ env.logical s.model)).dedup.filter (· ∉ blockedModels)).filter
    (fun m ↦ env.cfg.fitsContext m requestTokens)

/-- The candidates with their scores, best first; ties stay in enumeration order;
`router.py:1025–1028`. -/
def scoredModels (candidates : List String) (task : String) (bias : Option Rat) :
    List (Rat × String) :=
  ((env.order.enumerate candidates).map (fun m ↦ (env.scoreModel m task bias, m))).insertionSort
    (fun p q ↦ q.1 ≤ p.1)

/-- The models within hysteresis of the best score: the `explore` pool. -/
def explorePool (scored : List (Rat × String)) (bestScore : Rat) : List String :=
  (scored.filter (fun p ↦ bestScore - hysteresis ≤ p.1)).map Prod.snd

/-- `_choose_target_model`; `router.py:1013–1045`. -/
def chooseTargetModel (candidates : List String) (task : String) (policy : Policy)
    (minScore : Rat) (bias : Option Rat) (defaultLogical : String) : Option String :=
  let scored := env.scoredModels candidates task bias
  match scored with
  | [] => none
  | (bestScore, bestModel) :: _ =>
    if bestScore < minScore then none else
      let pool := explorePool scored bestScore
      if policy = .explore ∧ 1 < pool.length then pool[env.draw pool % pool.length]?
      -- eager / cost_first: no flapping away from the default within hysteresis
      else if bestModel ≠ defaultLogical ∧
          bestScore ≤ env.scoreModel defaultLogical task bias + hysteresis
        then some defaultLogical else some bestModel

/-! ### The chain builder -/

/-- `_provider_health_rank`; `router.py:1047–1060`. -/
def healthRank (cb : CircuitBreaker) (profile : String) (s : Step) : Nat :=
  match cb.statusOf (keyOf env.cfg profile s) with
  | .healthy => 0
  | .degraded => 1
  | .dead => 2

/-- The sort key of `_build_chain_for_model`: preferred, health, credit; `router.py:1132–1137`. -/
def sortKey (cb : CircuitBreaker) (profile : String) (preferred : Option String) (s : Step) :
    Nat × Nat × Nat :=
  (if preferred = some s.provider ∧ s.provider ≠ "" then 0 else 1, env.healthRank cb profile s,
    if env.drained s.provider then 1 else 0)

/-- Tuple order. -/
def keyLe (k l : Nat × Nat × Nat) : Prop :=
  k.1 < l.1 ∨ k.1 = l.1 ∧ (k.2.1 < l.2.1 ∨ k.2.1 = l.2.1 ∧ k.2.2 ≤ l.2.2)

instance (k l : Nat × Nat × Nat) : Decidable (keyLe k l) := by
  unfold keyLe
  infer_instance

/-- `steps.sort(key=_key)`. -/
def sortSteps (cb : CircuitBreaker) (profile : String) (preferred : Option String)
    (steps : List Step) : List Step :=
  steps.insertionSort
    (fun s t ↦ keyLe (env.sortKey cb profile preferred s) (env.sortKey cb profile preferred t))

/-- The step emitted for a provider that serves the target; `router.py:1111–1115`. -/
def respell (target : String) (s : Step) : Step :=
  ⟨s.provider, env.cfg.registry.providerModelName target s.provider, s.baseUrl.filter (· ≠ "")⟩

/-- The target loop: one respelled step per serving provider; `router.py:1099–1116`. -/
def targetSteps (target : String) : List Step → List String → List Step
  | [], _ => []
  | s :: rest, seen =>
    if s.provider ∈ seen then targetSteps target rest seen
    else if env.logical s.model = target
      then env.respell target s :: targetSteps target rest (s.provider :: seen)
      else targetSteps target rest seen

/-- The steps left as fallbacks, before the context gate; `router.py:1117–1119`. -/
def otherSteps (chain : List Step) (target : String) : List Step :=
  chain.filter (fun s ↦ (s.provider, s.model) ∉
    (env.targetSteps target chain []).map (fun t ↦ (t.provider, t.model)))

/-- `_build_chain_for_model`; `router.py:1077–1146`. -/
def buildChainForModel (cb : CircuitBreaker) (chain : List Step) (target : String)
    (preferred : Option String) (profile : String) (requestTokens : Nat) : List Step :=
  let fallbacks := (env.otherSteps chain target).filter
    (fun s ↦ env.cfg.fitsContext (env.logical s.model) requestTokens)
  env.sortSteps cb profile preferred (env.targetSteps target chain []) ++
    env.sortSteps cb profile preferred fallbacks

/-! ### What the builder emits -/

/-- Sorting keeps the steps. -/
@[simp] theorem mem_sortSteps {cb : CircuitBreaker} {profile : String} {preferred : Option String}
    {steps : List Step} {s : Step} :
    s ∈ env.sortSteps cb profile preferred steps ↔ s ∈ steps := by
  rw [sortSteps, List.mem_insertionSort]

/-- A target step is the respelling of a chain step that uses the target model. -/
theorem mem_targetSteps {target : String} {chain : List Step} {seen : List String} {t : Step}
    (h : t ∈ env.targetSteps target chain seen) :
    ∃ s ∈ chain, env.logical s.model = target ∧ t = env.respell target s := by
  induction chain generalizing seen with
  | nil => simp [targetSteps] at h
  | cons s rest ih =>
    rw [targetSteps] at h
    split at h
    · obtain ⟨s', hs', hrest⟩ := ih h
      exact ⟨s', List.mem_cons_of_mem s hs', hrest⟩
    · split at h
      · next htarget =>
        rcases List.mem_cons.mp h with rfl | h
        · exact ⟨s, List.mem_cons_self, htarget, rfl⟩
        · obtain ⟨s', hs', hrest⟩ := ih h
          exact ⟨s', List.mem_cons_of_mem s hs', hrest⟩
      · obtain ⟨s', hs', hrest⟩ := ih h
        exact ⟨s', List.mem_cons_of_mem s hs', hrest⟩

/-- Every provider that serves the target gets a target step. -/
theorem exists_targetStep {target : String} {chain : List Step} {seen : List String} {s : Step}
    (hs : s ∈ chain) (htarget : env.logical s.model = target) (hseen : s.provider ∉ seen) :
    ∃ t ∈ env.targetSteps target chain seen, t.provider = s.provider := by
  induction chain generalizing seen with
  | nil => simp at hs
  | cons s' rest ih =>
    rw [targetSteps]
    by_cases hskip : s'.provider ∈ seen
    · rw [if_pos hskip]
      rcases List.mem_cons.mp hs with rfl | hs
      · exact absurd hskip hseen
      · exact ih hs hseen
    · rw [if_neg hskip]
      by_cases hserves : env.logical s'.model = target
      · rw [if_pos hserves]
        by_cases hprovider : s'.provider = s.provider
        · exact ⟨_, List.mem_cons_self, hprovider⟩
        · rcases List.mem_cons.mp hs with rfl | hs
          · exact absurd rfl hprovider
          · have hunseen : s.provider ∉ s'.provider :: seen := by simp [hseen, Ne.symm hprovider]
            obtain ⟨t, ht, hp⟩ := ih hs hunseen
            exact ⟨t, List.mem_cons_of_mem _ ht, hp⟩
      · rw [if_neg hserves]
        rcases List.mem_cons.mp hs with rfl | hs
        · exact absurd htarget hserves
        · exact ih hs hseen

/-- The built chain is the target steps and the fitting fallbacks. -/
theorem mem_buildChainForModel {cb : CircuitBreaker} {chain : List Step} {target : String}
    {preferred : Option String} {profile : String} {requestTokens : Nat} {s : Step} :
    s ∈ env.buildChainForModel cb chain target preferred profile requestTokens ↔
      s ∈ env.targetSteps target chain [] ∨
        s ∈ env.otherSteps chain target ∧
          env.cfg.fitsContext (env.logical s.model) requestTokens = true := by
  simp [buildChainForModel]

/-- A model served by a step of the chain gets a chain. -/
theorem buildChainForModel_ne_nil {cb : CircuitBreaker} {chain : List Step} {target : String}
    {preferred : Option String} {profile : String} {requestTokens : Nat}
    (h : ∃ s ∈ chain, env.logical s.model = target) :
    env.buildChainForModel cb chain target preferred profile requestTokens ≠ [] := by
  obtain ⟨s, hs, htarget⟩ := h
  obtain ⟨t, ht, -⟩ := env.exists_targetStep hs htarget (List.not_mem_nil)
  exact List.ne_nil_of_mem (env.mem_buildChainForModel.mpr (.inl ht))

/-! ### What the choice settles on -/

/-- A candidate model is the model of a chain step. -/
theorem mem_candidateModels {chain : List Step} {blockedModels : List String}
    {requestTokens : Nat} {model : String}
    (h : model ∈ env.candidateModels chain blockedModels requestTokens) :
    ∃ s ∈ chain, env.logical s.model = model := by
  have hchain := (List.mem_filter.mp (List.mem_filter.mp h).1).1
  exact List.mem_map.mp (List.mem_dedup.mp hchain)

variable {env}

/-- A model chosen among the candidates is a candidate or the kept default. -/
theorem chooseTargetModel_eq_some {candidates : List String} {task : String} {policy : Policy}
    {minScore : Rat} {bias : Option Rat} {defaultLogical target : String}
    (h : env.chooseTargetModel candidates task policy minScore bias defaultLogical =
      some target) : target ∈ candidates ∨ target = defaultLogical := by
  have hscored : ∀ p ∈ env.scoredModels candidates task bias, p.2 ∈ candidates := by
    intro p hp
    rw [scoredModels, List.mem_insertionSort] at hp
    obtain ⟨m, hm, rfl⟩ := List.mem_map.mp hp
    exact (env.order.perm candidates).mem_iff.mp hm
  unfold chooseTargetModel at h
  dsimp only at h
  split at h
  · cases h
  · next bestScore bestModel rest hcases =>
    split at h
    · cases h
    · split at h
      · have hpool := List.mem_of_getElem? h
        obtain ⟨p, hp, rfl⟩ := List.mem_map.mp hpool
        exact .inl (hscored p (List.mem_of_mem_filter hp))
      · split at h
        · exact .inr (Option.some.inj h).symm
        · obtain rfl := Option.some.inj h
          exact .inl (hscored (bestScore, bestModel) (by rw [hcases]; exact List.mem_cons_self))

end RouterEnv
end LcpGateway.Router
