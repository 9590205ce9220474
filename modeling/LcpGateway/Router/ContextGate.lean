import LcpGateway.Router.SelectStep

/-!
# The context gate of step selection

Library `Router`. `select_step` excludes the models whose context window cannot hold the
request and an output reserve (`src/api/router.py:1560–1605,967–1011,1121–1130`). The gate
reads the size off the classification, which records it on the token-count path only; and
the hysteresis of `_choose_target_model` may return a default the gate excluded. These are
the two ways an answered chain holds a step that is too small although one that fits was
available.
-/

namespace LcpGateway.Router
open LcpGateway.Base LcpGateway.Breaker LcpGateway.Chat LcpGateway.Config LcpGateway.Pipeline

/-- The window of a logical model holds the request and the output reserve. -/
def Holds (cfg : GatewayConfig) (tokens : Nat) (logical : String) : Prop :=
  tokens + GatewayConfig.contextOutputReserve ≤ cfg.contextWindowFor logical

namespace RouterEnv

variable (env : RouterEnv)

/-- The window of a step's model holds the request. -/
def StepHolds (tokens : Nat) (s : Step) : Prop := Holds env.cfg tokens (env.logical s.model)

/-- Every provider's spelling of the target holds the request. -/
def TargetHolds (candidates : List Step) (target : String) (tokens : Nat) : Prop :=
  ∀ s ∈ candidates, env.logical s.model = target → env.StepHolds tokens (env.respell target s)

/-- Every candidate that is not a spelling of the target holds the request. -/
def OthersHold (candidates : List Step) (target : String) (tokens : Nat) : Prop :=
  ∀ s ∈ env.otherSteps candidates target, env.StepHolds tokens s

/-- With a positive count the gate decides whether the window holds the request. -/
theorem fitsContext_iff {cfg : GatewayConfig} {tokens : Nat} (hpos : 0 < tokens)
    (logical : String) : cfg.fitsContext logical tokens = true ↔ Holds cfg tokens logical := by
  have hne : tokens ≠ 0 := by omega
  simp [GatewayConfig.fitsContext, Holds, hne]

/-- The target steps of a chain hold the request exactly when every spelling does. -/
theorem targetSteps_hold_iff {candidates : List Step} {target : String} {tokens : Nat} :
    (∀ t ∈ env.targetSteps target candidates [], env.StepHolds tokens t) ↔
      env.TargetHolds candidates target tokens := by
  constructor
  · intro hall s hs htarget
    obtain ⟨t, ht, hprovider⟩ := env.exists_targetStep hs htarget (List.not_mem_nil)
    obtain ⟨s₀, -, -, hspell⟩ := env.mem_targetSteps ht
    have hmodel : t.model = (env.respell target s).model := by
      rw [hspell] at hprovider ⊢
      have : s₀.provider = s.provider := hprovider
      simp only [respell, this]
    have := hall t ht
    rwa [StepHolds, hmodel] at this
  · intro hall t ht
    obtain ⟨s, hs, htarget, rfl⟩ := env.mem_targetSteps ht
    exact hall s hs htarget

/-- With the gate off, a built chain holds the request exactly when the target's spellings
and all other candidates do. -/
theorem buildChain_holds_iff_of_off {cb : CircuitBreaker} {candidates : List Step}
    {target : String} {preferred : Option String} {profile : String} {tokens : Nat} :
    (∀ s ∈ env.buildChainForModel cb candidates target preferred profile 0,
      env.StepHolds tokens s) ↔
    env.TargetHolds candidates target tokens ∧ env.OthersHold candidates target tokens := by
  have hoff : ∀ logical, env.cfg.fitsContext logical 0 = true := fun _ ↦ by
    simp [GatewayConfig.fitsContext]
  simp only [env.mem_buildChainForModel, hoff, and_true, or_imp, forall_and,
    env.targetSteps_hold_iff, OthersHold]

/-- With the gate on, the fallbacks hold the request by construction. -/
theorem buildChain_holds_iff_of_on {cb : CircuitBreaker} {candidates : List Step}
    {target : String} {preferred : Option String} {profile : String} {tokens : Nat}
    (hpos : 0 < tokens) :
    (∀ s ∈ env.buildChainForModel cb candidates target preferred profile tokens,
      env.StepHolds tokens s) ↔ env.TargetHolds candidates target tokens := by
  simp only [env.mem_buildChainForModel, fitsContext_iff hpos, or_imp, forall_and,
    env.targetSteps_hold_iff]
  refine and_iff_left_of_imp fun _ s hs ↦ ?_
  exact hs.2

variable {env}

/-- With the gate on, the target holds the request unless it is the default of the chain,
kept by hysteresis. -/
theorem target_holds_of_on {scope : RoutingScope} {detail : ClassifyResult} {policy : Policy}
    {head : Step} {blocked : Blocked} {pref : Preference} {tokens : Nat} {target : String}
    (hpos : 0 < tokens)
    (h : env.chooseTarget scope detail policy head blocked (env.gatedPreference pref tokens)
      tokens = .target target) :
    Holds env.cfg tokens target ∨ target = env.logical head.model := by
  rcases env.chooseTarget_eq_target h with hmandate | ⟨-, hmem | hdefault⟩
  · refine .inl ?_
    unfold gatedPreference at hmandate
    split at hmandate
    · next wanted hwanted =>
      split at hmandate
      · cases hmandate
      · next hfits =>
        obtain rfl := Option.some.inj (hwanted.symm.trans hmandate)
        exact (fitsContext_iff hpos _).mp (by simpa [hpos] using hfits)
    · next hnone =>
      rw [hnone] at hmandate
      cases hmandate
  · exact .inl ((fitsContext_iff hpos _).mp (by simpa using (List.mem_filter.mp hmem).2))
  · exact .inr hdefault

end RouterEnv

/-- Narrowing to the declared intents keeps the recorded token count. -/
theorem tokenCount_narrowToIntents (intents : List String) (detail : ClassifyResult) :
    (narrowToIntents intents detail).tokenCount = detail.tokenCount := by
  unfold narrowToIntents
  split
  · rfl
  · split
    · rfl
    · split <;> rfl

/-- The scores of the two models of the runs below. -/
def twoModelEnv : RouterEnv :=
  { plainEnv ((Dict.empty.set "qwen3.6-27b" [("context_window", .int 8192)]).set
      "deepseek-v4-flash" [("context_window", .int 131072)]) with
    matrix := Dict.empty.set "code_generation"
      ((Dict.empty.set "qwen3.6-27b" (1 / 10)).set "deepseek-v4-flash" (9 / 10)) }

/-- The chain of the runs below. -/
def twoModelChain : List Step :=
  [⟨"llamacpp", "qwen3.6-27b", none⟩, ⟨"opencode", "deepseek-v4-flash", none⟩]

/-- A request of four tokens is answered with the large model first. -/
theorem selectStep_twoModels :
    (twoModelEnv.selectStep (ruleScope []) silentReader (fun _ ↦ 0) [silentMessage] []
      twoModelChain (CircuitBreaker.new defaultCbConfig)).chain = some twoModelChain.reverse := by
  decide +kernel

end LcpGateway.Router
