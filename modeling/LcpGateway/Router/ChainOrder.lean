import LcpGateway.Router.ChainBuild

/-!
# The order of the built chain

Library `Router`. Source `src/api/router.py:1077–1146`. The result is two stably sorted lists, the
emitted steps and the spares. Read by model it is in order unless a target step under an alias
is left among the spares: there it is sorted with the fallbacks, behind emitted steps it may
outrank.
-/

namespace LcpGateway.Router
open LcpGateway.Base LcpGateway.Breaker LcpGateway.Chat LcpGateway.Config LcpGateway.Pipeline

/-- Every provider's spelling of a registered model resolves to the model. -/
def SpellingsMapBack (registry : Registry) : Prop :=
  ∀ model entry, registry.get? model = some entry →
    ∀ provider, registry.logicalModelName (registry.providerModelName model provider) = model

namespace RouterEnv

variable (env : RouterEnv) (cb : CircuitBreaker) (profile : String) (preferred : Option String)

/-- The step may stand in front of the other: preferred, health and credit. -/
def Before (s t : Step) : Prop :=
  keyLe (env.sortKey cb profile preferred s) (env.sortKey cb profile preferred t)

instance (s t : Step) : Decidable (env.Before cb profile preferred s t) :=
  inferInstanceAs (Decidable (keyLe _ _))

instance : DecidableRel (env.Before cb profile preferred) := fun _ _ ↦ inferInstance

instance : Std.Total (env.Before cb profile preferred) where
  total s t := by
    unfold Before keyLe
    omega

instance : IsTrans Step (env.Before cb profile preferred) where
  trans s t u := by
    unfold Before keyLe
    omega

/-- The attempts occur in this order in the chain, or at one place. -/
def InChainOrder (chain : List Step) (t u : Step) : Prop :=
  ∃ (i j : Nat) (s s' : Step), i ≤ j ∧ chain[i]? = some s ∧ chain[j]? = some s' ∧
    env.attempt s = env.attempt t ∧ env.attempt s' = env.attempt u

/-- Ordered by rank, and inside one band as in the chain. -/
def Banded (chain : List Step) (t u : Step) : Prop :=
  env.Before cb profile preferred t u ∧
    (env.Before cb profile preferred u t → env.InChainOrder chain t u)

/-- What the built chain should be: made of attempts of the chain, target steps in front, and
each of the two groups in order. -/
structure Arranged (chain : List Step) (target : String) (result : List Step) : Prop where
  origin : ∀ t ∈ result, ∃ s ∈ chain, env.attempt s = env.attempt t
  targetsFirst : result.Pairwise (fun t u ↦ env.logical u.model = target →
    env.logical t.model = target)
  targets : (result.filter (fun t ↦ env.logical t.model = target)).Pairwise
    (env.Banded cb profile preferred chain)
  others : (result.filter (fun t ↦ env.logical t.model ≠ target)).Pairwise
    (env.Banded cb profile preferred chain)

/-- The target under every provider's spelling resolves to itself. -/
def Settled (target : String) : Prop :=
  ∀ provider, env.logical (env.cfg.registry.providerModelName target provider) = target

/-- Every target step among the spares ranks behind every leader, and before every fallback. -/
structure AliasesInPlace (chain : List Step) (target : String) (requestTokens : Nat) :
    Prop where
  behindLeaders : ∀ a ∈ env.spares chain target requestTokens, env.logical a.model = target →
    ∀ l ∈ env.leaders target chain, env.Banded cb profile preferred chain l a
  beforeFallbacks : (env.spares chain target requestTokens).Pairwise fun f g ↦
    (env.logical f.model = target → env.logical g.model ≠ target →
      env.Before cb profile preferred f g) ∧
    (env.logical f.model ≠ target → env.logical g.model = target →
      ¬env.Before cb profile preferred f g)

/-- The emitted steps, whose spelling is that of another model, are attempts of the chain, in
order, and in front of spares that all are fallbacks. -/
structure StrangersInPlace (chain : List Step) (target : String) (requestTokens : Nat) :
    Prop where
  origin : ∀ l ∈ env.leaders target chain, ∃ s ∈ chain,
    env.attempt s = env.attempt (env.respell target l)
  emitted : (env.leaders target chain).Pairwise fun l m ↦
    env.Before cb profile preferred l m → env.Before cb profile preferred m l →
      env.InChainOrder chain (env.respell target l) (env.respell target m)
  spares : ∀ f ∈ env.spares chain target requestTokens, env.logical f.model ≠ target ∧
    ∀ l ∈ env.leaders target chain,
      env.Banded cb profile preferred chain (env.respell target l) f

variable {env cb profile preferred} {chain : List Step} {target : String} {requestTokens : Nat}

/-- Respelling a step keeps its rank. -/
@[simp] theorem sortKey_respell (l : Step) :
    env.sortKey cb profile preferred (env.respell target l) =
      env.sortKey cb profile preferred l := by
  have hbase : ∀ base : Option String,
      env.cfg.resolveBaseUrl l.provider (base.filter (· ≠ "")) =
        env.cfg.resolveBaseUrl l.provider base := by
    intro base
    simp only [GatewayConfig.resolveBaseUrl, Option.filter_filter, Bool.and_self]
  have hkey : keyOf env.cfg profile (env.respell target l) = keyOf env.cfg profile l := by
    simp only [keyOf, respell, hbase]
  simp only [sortKey, healthRank, hkey]
  rfl

/-- Leaders come in chain order. -/
theorem leaders_sublist : (env.leaders target chain).Sublist chain := by
  induction chain with
  | nil => exact List.Sublist.slnil
  | cons s rest ih =>
    rw [leaders]
    split
    · exact (List.filter_sublist.trans ih).cons_cons s
    · exact ih.cons s

variable (env) in
/-- The steps of a sublist are in chain order. -/
theorem inChainOrder_of_sublist {steps : List Step} (h : steps.Sublist chain) :
    steps.Pairwise (env.InChainOrder chain) := by
  refine List.Pairwise.sublist h (List.pairwise_iff_getElem.mpr fun i j hi hj hij ↦ ?_)
  exact ⟨i, j, chain[i], chain[j], Nat.le_of_lt hij, List.getElem?_eq_getElem hi,
    List.getElem?_eq_getElem hj, rfl, rfl⟩

variable (cb profile preferred) in
/-- A stable sort puts two steps in order that are in chain order. -/
theorem emitted_banded {t u : Step} (h : env.InChainOrder chain t u) :
    Emitted (env.Before cb profile preferred) (env.Banded cb profile preferred chain) t u :=
  ⟨fun hle ↦ ⟨hle, fun _ ↦ h⟩, fun hnot ↦
    ⟨(Std.Total.total t u).resolve_left hnot, fun hle ↦ absurd hle hnot⟩⟩

/-- What `Arranged` asks of two steps of the result, the first one standing in front. -/
structure Fine (env : RouterEnv) (cb : CircuitBreaker) (profile : String)
    (preferred : Option String) (chain : List Step) (target : String) (t u : Step) : Prop where
  front : env.logical u.model = target → env.logical t.model = target
  targets : env.logical t.model = target → env.logical u.model = target →
    env.Banded cb profile preferred chain t u
  others : env.logical t.model ≠ target → env.logical u.model ≠ target →
    env.Banded cb profile preferred chain t u

/-- Arranged chains, pair by pair. -/
theorem arranged_iff {result : List Step} :
    env.Arranged cb profile preferred chain target result ↔
      (∀ t ∈ result, ∃ s ∈ chain, env.attempt s = env.attempt t) ∧
        result.Pairwise (Fine env cb profile preferred chain target) := by
  constructor
  · rintro ⟨horigin, hfront, htargets, hothers⟩
    rw [List.pairwise_filter] at htargets hothers
    refine ⟨horigin, hfront.imp₂ ?_ (htargets.and hothers)⟩
    rintro t u hfront ⟨htargets, hothers⟩
    exact ⟨hfront, by simpa using htargets, by simpa using hothers⟩
  · rintro ⟨horigin, hfine⟩
    refine ⟨horigin, hfine.imp Fine.front, ?_, ?_⟩
    · rw [List.pairwise_filter]
      exact hfine.imp fun h ↦ by simpa using h.targets
    · rw [List.pairwise_filter]
      exact hfine.imp fun h ↦ by simpa using h.others

/-- Two target steps that are banded stand well. -/
theorem Fine.of_targets {t u : Step} (ht : env.logical t.model = target)
    (hu : env.logical u.model = target) (h : env.Banded cb profile preferred chain t u) :
    Fine env cb profile preferred chain target t u :=
  ⟨fun _ ↦ ht, fun _ _ ↦ h, fun _ hother ↦ absurd hu hother⟩

/-- Two fallbacks that are banded stand well. -/
theorem Fine.of_others {t u : Step} (ht : env.logical t.model ≠ target)
    (hu : env.logical u.model ≠ target) (h : env.Banded cb profile preferred chain t u) :
    Fine env cb profile preferred chain target t u :=
  ⟨fun htarget ↦ absurd htarget hu, fun htarget ↦ absurd htarget ht, fun _ _ ↦ h⟩

/-- Two stable sorts in a row, pair by pair. -/
theorem pairwise_buildChainForModel_iff {Q : Step → Step → Prop} :
    (env.buildChainForModel cb chain target preferred profile requestTokens).Pairwise Q ↔
      (env.leaders target chain).Pairwise (fun l m ↦
        Emitted (env.Before cb profile preferred) Q (env.respell target l)
          (env.respell target m)) ∧
      (env.spares chain target requestTokens).Pairwise
        (Emitted (env.Before cb profile preferred) Q) ∧
      ∀ l ∈ env.leaders target chain, ∀ f ∈ env.spares chain target requestTokens,
        Q (env.respell target l) f := by
  have hsort : ∀ steps : List Step, (env.sortSteps cb profile preferred steps).Pairwise Q ↔
      steps.Pairwise (Emitted (env.Before cb profile preferred) Q) := fun _ ↦
    pairwise_insertionSort_iff (env.Before cb profile preferred)
  rw [buildChainForModel, fallbacks_eq, emittedSteps_eq, List.pairwise_append, hsort, hsort,
    List.pairwise_map]
  simp only [mem_sortSteps, List.forall_mem_map]

/-- A step before or behind another one keeps its place when it is respelled. -/
theorem before_respell {l t : Step} :
    (env.Before cb profile preferred (env.respell target l) t ↔
      env.Before cb profile preferred l t) ∧
    (env.Before cb profile preferred t (env.respell target l) ↔
      env.Before cb profile preferred t l) := by
  simp [Before]

/-- With a settled target a respelled leader is the same attempt. -/
theorem attempt_respell (hsettled : env.Settled target) {l : Step}
    (hl : env.logical l.model = target) :
    env.attempt (env.respell target l) = env.attempt l := by
  simp only [attempt, respell, hsettled l.provider, hl, Option.filter_filter, Bool.and_self]

/-- With a settled target the result is arranged exactly when the aliases are in place. -/
theorem arranged_iff_of_settled (hsettled : env.Settled target) :
    env.Arranged cb profile preferred chain target
        (env.buildChainForModel cb chain target preferred profile requestTokens) ↔
      env.AliasesInPlace cb profile preferred chain target requestTokens := by
  have hattempt : ∀ l ∈ env.leaders target chain,
      env.attempt (env.respell target l) = env.attempt l := fun l hl ↦
    attempt_respell hsettled (mem_leaders hl).2
  have htarget : ∀ l, env.logical (env.respell target l).model = target := fun l ↦
    hsettled l.provider
  have hbanded : ∀ l ∈ env.leaders target chain, ∀ t,
      env.Banded cb profile preferred chain (env.respell target l) t ↔
        env.Banded cb profile preferred chain l t := by
    intro l hl t
    simp only [Banded, before_respell.1, before_respell.2, InChainOrder, hattempt l hl]
  rw [arranged_iff, pairwise_buildChainForModel_iff]
  constructor
  · rintro ⟨-, -, hspares, hcross⟩
    refine ⟨fun a ha hatarget l hl ↦ ?_, hspares.imp ?_⟩
    · exact (hbanded l hl a).mp ((hcross l hl a ha).targets (htarget l) hatarget)
    · rintro f g ⟨hle, hnot⟩
      refine ⟨fun hf hg ↦ ?_, fun hf hg hbefore ↦ ?_⟩
      · by_contra hbefore
        exact hg ((hnot hbefore).front hf)
      · exact hf ((hle hbefore).front hg)
  · rintro ⟨hbehind, hbefore⟩
    refine ⟨?_, ?_, ?_, ?_⟩
    · intro t ht
      rw [(buildChainForModel_perm cb preferred profile requestTokens).mem_iff] at ht
      rcases List.mem_append.mp ht with ht | ht
      · obtain ⟨l, hl, rfl⟩ := List.mem_map.mp ht
        exact ⟨l, (mem_leaders hl).1, (hattempt l hl).symm⟩
      · exact ⟨t, (mem_spares ht).1, rfl⟩
    · -- leaders are in chain order, and all of them are target steps
      refine (inChainOrder_of_sublist env leaders_sublist).imp_of_mem ?_
      intro l m hl hm horder
      have hboth : env.InChainOrder chain (env.respell target l) (env.respell target m) := by
        simpa only [InChainOrder, hattempt l hl, hattempt m hm] using horder
      obtain ⟨hle, hnot⟩ := emitted_banded cb profile preferred hboth
      exact ⟨fun h ↦ Fine.of_targets (htarget l) (htarget m) (hle h),
        fun h ↦ Fine.of_targets (htarget m) (htarget l) (hnot h)⟩
    · refine hbefore.imp₂ ?_ (inChainOrder_of_sublist env List.filter_sublist)
      rintro f g ⟨hfirst, hlast⟩ horder
      obtain ⟨hle, hnot⟩ := emitted_banded cb profile preferred horder
      constructor
      · intro h
        refine ⟨fun hg ↦ ?_, fun _ _ ↦ hle h, fun _ _ ↦ hle h⟩
        by_contra hf
        exact hlast hf hg h
      · intro h
        refine ⟨fun hf ↦ ?_, fun _ _ ↦ hnot h, fun _ _ ↦ hnot h⟩
        by_contra hg
        exact h (hfirst hf hg)
    · intro l hl f hf
      exact ⟨fun _ ↦ htarget l, fun _ hftarget ↦ (hbanded l hl f).mpr (hbehind f hf hftarget l hl),
        fun h ↦ absurd (htarget l) h⟩

/-- With emitted steps that are of another model, every step is to be in one order. -/
theorem arranged_iff_of_unsettled
    (hother : ∀ l, env.logical (env.respell target l).model ≠ target) :
    env.Arranged cb profile preferred chain target
        (env.buildChainForModel cb chain target preferred profile requestTokens) ↔
      env.StrangersInPlace cb profile preferred chain target requestTokens := by
  rw [arranged_iff, pairwise_buildChainForModel_iff]
  constructor
  · rintro ⟨horigin, hemitted, -, hcross⟩
    have hfallback : ∀ f ∈ env.spares chain target requestTokens,
        env.logical f.model ≠ target := by
      intro f hf hftarget
      obtain ⟨l, hl, -⟩ := exists_leader_iff.mpr ⟨f, (mem_spares hf).1, rfl, hftarget⟩
      exact hother l ((hcross l hl f hf).front hftarget)
    refine ⟨fun l hl ↦ ?_, hemitted.imp ?_, fun f hf ↦ ⟨hfallback f hf, fun l hl ↦ ?_⟩⟩
    · refine horigin _ ?_
      rw [mem_buildChainForModel, emittedSteps_eq]
      exact .inl (List.mem_map_of_mem hl)
    · rintro l m ⟨hle, -⟩ hlm hml
      have hfine := hle (by simpa [before_respell.1, before_respell.2] using hlm)
      refine ((hfine.others (hother l) (hother m)).2 ?_)
      simpa [before_respell.1, before_respell.2] using hml
    · exact (hcross l hl f hf).others (hother l) (hfallback f hf)
  · rintro ⟨horigin, hemitted, hspares⟩
    refine ⟨?_, hemitted.imp ?_, ?_, ?_⟩
    · intro t ht
      rw [(buildChainForModel_perm cb preferred profile requestTokens).mem_iff] at ht
      rcases List.mem_append.mp ht with ht | ht
      · obtain ⟨l, hl, rfl⟩ := List.mem_map.mp ht
        exact horigin l hl
      · exact ⟨t, (mem_spares ht).1, rfl⟩
    · intro l m horder
      constructor
      · intro hlm
        refine Fine.of_others (hother l) (hother m) ⟨hlm, fun hml ↦ ?_⟩
        exact horder (by simpa [before_respell.1, before_respell.2] using hlm)
          (by simpa [before_respell.1, before_respell.2] using hml)
      · intro hnot
        exact Fine.of_others (hother m) (hother l)
          ⟨(Std.Total.total _ _).resolve_left hnot, fun hlm ↦ absurd hlm hnot⟩
    · refine (inChainOrder_of_sublist env List.filter_sublist).imp_of_mem ?_
      intro f g hf hg horder
      obtain ⟨hle, hnot⟩ := emitted_banded cb profile preferred horder
      have hf := (hspares f hf).1
      have hg := (hspares g hg).1
      exact ⟨fun h ↦ Fine.of_others hf hg (hle h), fun h ↦ Fine.of_others hg hf (hnot h)⟩
    · intro l hl f hf
      exact Fine.of_others (hother l) (hspares f hf).1 ((hspares f hf).2 l hl)

/-- In a registry whose spellings map back, the built chain is arranged if and only if the aliases
left among the spares are in place; for a target whose own name resolves to another model, if and
only if the steps emitted for it pass for steps of that model. -/
theorem arranged_buildChain_iff (env : RouterEnv) (cb : CircuitBreaker) (profile : String)
    (preferred : Option String) (chain : List Step) (target : String) (requestTokens : Nat)
    (hspelling : SpellingsMapBack env.cfg.registry) :
    env.Arranged cb profile preferred chain target
        (env.buildChainForModel cb chain target preferred profile requestTokens) ↔
      (env.Settled target →
        env.AliasesInPlace cb profile preferred chain target requestTokens) ∧
      (¬env.Settled target →
        env.StrangersInPlace cb profile preferred chain target requestTokens) := by
  by_cases hsettled : env.Settled target
  · rw [arranged_iff_of_settled hsettled]
    simp only [hsettled, true_implies, not_true_eq_false, false_implies, and_true]
  · -- a registered target is settled, so this one is spelled by its own name everywhere
    have hunregistered : env.cfg.registry.get? target = none := by
      cases hentry : env.cfg.registry.get? target with
      | none => rfl
      | some entry => exact absurd (hspelling target entry hentry) hsettled
    have hspelled : ∀ provider,
        env.cfg.registry.providerModelName target provider = target := by
      intro provider
      rw [Registry.providerModelName, hunregistered]
    have hother : ∀ l, env.logical (env.respell target l).model ≠ target := by
      intro l heq
      refine hsettled fun provider ↦ ?_
      rw [hspelled]
      rwa [respell, hspelled] at heq
    rw [arranged_iff_of_unsettled hother]
    simp only [hsettled, false_implies, true_and, not_false_eq_true, true_implies]

end RouterEnv

/-- The vendor's spelling maps back. -/
theorem spellingsMapBack_vendorEnv : SpellingsMapBack vendorEnv.cfg.registry := by
  intro model entry hentry provider
  obtain rfl : "flash" = model := by
    simp only [vendorEnv, Dict.get?_set, Dict.get?_empty] at hentry
    split at hentry
    · assumption
    · simp at hentry
  have hspelled : vendorEnv.cfg.registry.providerModelName "flash" provider =
      if provider = "commandcode" then "deepseek/flash" else "flash" := by
    simp only [Registry.providerModelName, vendorEnv, Dict.get?_set, if_true, Dict.get?_empty,
      eq_comm (a := provider)]
    split <;> rfl
  rw [hspelled]
  split
  · decide +kernel
  · decide +kernel

/-- A chain with a fallback in front of a target step under its bare name. -/
def aliasedChain : List Step := [⟨"llamacpp", "qwen", none⟩, ⟨"commandcode", "flash", none⟩]

/-- The chain below is arranged if and only if its alias is in place. -/
theorem arranged_aliasedChain_iff :
    vendorEnv.Arranged (CircuitBreaker.new defaultCbConfig) "" none aliasedChain "flash"
        (vendorEnv.buildChainForModel (CircuitBreaker.new defaultCbConfig) aliasedChain "flash"
          none "" 0) ↔
      (vendorEnv.Settled "flash" →
        vendorEnv.AliasesInPlace (CircuitBreaker.new defaultCbConfig) "" none aliasedChain "flash"
          0) ∧
      (¬vendorEnv.Settled "flash" →
        vendorEnv.StrangersInPlace (CircuitBreaker.new defaultCbConfig) "" none aliasedChain
          "flash" 0) :=
  RouterEnv.arranged_buildChain_iff vendorEnv (CircuitBreaker.new defaultCbConfig) "" none
    aliasedChain "flash" 0 spellingsMapBack_vendorEnv

/-- The target step stays a fallback and stands behind a step of another model. -/
theorem alias_behind_fallback :
    SpellingsMapBack vendorEnv.cfg.registry ∧
    vendorEnv.buildChainForModel (CircuitBreaker.new defaultCbConfig) aliasedChain "flash" none ""
        0 =
      [⟨"commandcode", "deepseek/flash", none⟩, ⟨"llamacpp", "qwen", none⟩,
        ⟨"commandcode", "flash", none⟩] ∧
    ¬vendorEnv.Arranged (CircuitBreaker.new defaultCbConfig) "" none aliasedChain "flash"
      (vendorEnv.buildChainForModel (CircuitBreaker.new defaultCbConfig) aliasedChain "flash" none
        "" 0) := by
  have hbuilt : vendorEnv.buildChainForModel (CircuitBreaker.new defaultCbConfig) aliasedChain
      "flash" none "" 0 = [⟨"commandcode", "deepseek/flash", none⟩, ⟨"llamacpp", "qwen", none⟩,
        ⟨"commandcode", "flash", none⟩] := by decide +kernel
  refine ⟨spellingsMapBack_vendorEnv, hbuilt, fun harranged ↦ ?_⟩
  have hfront := harranged.targetsFirst
  rw [hbuilt] at hfront
  simp only [List.pairwise_cons, List.mem_cons, List.not_mem_nil, or_false] at hfront
  have hqwen := hfront.2.1 _ rfl (by decide +kernel)
  exact absurd hqwen (by decide +kernel)

end LcpGateway.Router
