import LcpGateway.Router.SelectStep

/-!
# Block rules over a whole request

Library `Router`. Block rules are applied to the router's own copy of the chain
(`src/api/router.py:1583–1588`), and `try_chain` walks its configured chain whenever the
router answers nothing (`src/api/request_pipeline.py:812–826`). A chain the router does
answer holds no blocked step, unless the registry spells the target model in a way that
resolves to another one.
-/

namespace LcpGateway.Router
open LcpGateway.Base LcpGateway.Breaker LcpGateway.Chat LcpGateway.Config LcpGateway.Pipeline

namespace RouterEnv

variable (env : RouterEnv)

/-- A respelling whose provider-side name does not resolve back to the target. -/
def Strays (candidates : List Step) (s : Step) : Prop :=
  ∃ s₀ ∈ candidates, s = env.respell (env.logical s₀.model) s₀ ∧
    env.logical s.model ≠ env.logical s₀.model

variable {env} {scope : RoutingScope} {reader : Reader} {clock : Nat → Time}
  {messages : List Message} {tools : List Tool} {chain result : List Step} {cb : CircuitBreaker}

/-- A step of an answered chain is not blocked, unless its respelling strays. -/
theorem blockedBy_of_mem_selection
    (h : (env.selectStep scope reader clock messages tools chain cb).chain = some result)
    {s : Step} (hs : s ∈ result) :
    let c := env.consider scope reader clock messages tools chain cb
    ¬ env.Strays c.blocked.candidates s →
      env.blockedBy scope.rules c.detail.task scope.profile s = false := by
  intro c hstrays
  have hunblocked : ∀ t ∈ c.blocked.candidates,
      env.blockedBy scope.rules c.detail.task scope.profile t = false := by
    intro t ht
    rw [env.candidates_consider] at ht
    simpa using (List.mem_filter.mp ht).2
  obtain ⟨-, target, -, rfl⟩ := env.selectStep_eq_some h
  rcases env.mem_buildChainForModel.mp hs with htarget | ⟨hother, -⟩
  · obtain ⟨s₀, hs₀, rfl, hspell⟩ := env.mem_targetSteps htarget
    have hlogical : env.logical s.model = env.logical s₀.model := by
      by_contra hne
      exact hstrays ⟨s₀, hs₀, hspell, hne⟩
    have hprovider : s.provider = s₀.provider := by
      rw [hspell]
      rfl
    rw [env.blockedBy_congr hprovider hlogical]
    exact hunblocked s₀ hs₀
  · exact hunblocked s (List.mem_filter.mp hother).1

end RouterEnv

end LcpGateway.Router
