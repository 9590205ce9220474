import LcpGateway.Base.StableSort
import LcpGateway.Router.SelectStep

/-!
# What the chain builder keeps

Library `Router`. Source `src/api/router.py:1077–1146`. Of the steps that serve the target the
first one of each provider is emitted, in the registry's spelling; the fallbacks are the steps
whose provider and spelling are not among those emitted. So a target step under an alias is
emitted and stays a fallback, and a second target step of a provider, in the registry's
spelling, is gone with its base URL. Up to the order, the result is the leaders, respelled, and
the spares.
-/

namespace LcpGateway.Router
open LcpGateway.Base LcpGateway.Breaker LcpGateway.Chat LcpGateway.Config LcpGateway.Pipeline

namespace RouterEnv

variable (env : RouterEnv)

/-- What a step attempts: provider, logical model, and the base URL when it is set. -/
def attempt (s : Step) : String × String × Option String :=
  (s.provider, env.logical s.model, s.baseUrl.filter (· ≠ ""))

/-- The step is under the registry's spelling of the target for its provider. -/
def Canonical (target : String) (s : Step) : Prop :=
  s.model = env.cfg.registry.providerModelName target s.provider

instance (target : String) (s : Step) : Decidable (env.Canonical target s) :=
  inferInstanceAs (Decidable (_ = _))

/-- The first target step of each provider, in chain order. -/
def leaders (target : String) : List Step → List Step
  | [] => []
  | s :: rest =>
    if env.logical s.model = target
      then s :: (leaders target rest).filter (fun l ↦ l.provider ≠ s.provider)
      else leaders target rest

/-- The provider of the step serves the target. -/
def Serves (chain : List Step) (target provider : String) : Prop :=
  ∃ s ∈ chain, s.provider = provider ∧ env.logical s.model = target

instance (chain : List Step) (target provider : String) :
    Decidable (env.Serves chain target provider) :=
  inferInstanceAs (Decidable (∃ s ∈ chain, _ ∧ _))

/-- The fitting steps that do not stand for the emitted step of their provider. -/
def spares (chain : List Step) (target : String) (requestTokens : Nat) : List Step :=
  chain.filter (fun s ↦
    ¬(env.Serves chain target s.provider ∧ env.Canonical target s) ∧
      env.cfg.fitsContext (env.logical s.model) requestTokens)

/-- A step that should be attempted: of the target, or a fallback that holds the request. -/
def Wanted (target : String) (requestTokens : Nat) (s : Step) : Prop :=
  env.logical s.model = target ∨ env.cfg.fitsContext (env.logical s.model) requestTokens = true

variable {env} {target : String} {chain : List Step}

/-- Leaders are target steps of the chain. -/
theorem mem_leaders {l : Step} (h : l ∈ env.leaders target chain) :
    l ∈ chain ∧ env.logical l.model = target := by
  induction chain with
  | nil => simp [leaders] at h
  | cons s rest ih =>
    rw [leaders] at h
    split at h
    · next htarget =>
      rcases List.mem_cons.mp h with rfl | h
      · exact ⟨List.mem_cons_self, htarget⟩
      · obtain ⟨hmem, hserves⟩ := ih (List.mem_of_mem_filter h)
        exact ⟨List.mem_cons_of_mem s hmem, hserves⟩
    · obtain ⟨hmem, hserves⟩ := ih h
      exact ⟨List.mem_cons_of_mem s hmem, hserves⟩

/-- A provider that serves the target has a leader. -/
theorem exists_leader_iff {provider : String} :
    (∃ l ∈ env.leaders target chain, l.provider = provider) ↔
      env.Serves chain target provider := by
  constructor
  · rintro ⟨l, hl, hprovider⟩
    exact ⟨l, (mem_leaders hl).1, hprovider, (mem_leaders hl).2⟩
  · rintro ⟨s, hs, hprovider, htarget⟩
    induction chain with
    | nil => simp at hs
    | cons first rest ih =>
      rw [leaders]
      by_cases hsame : env.logical first.model = target
      · rw [if_pos hsame]
        by_cases hfirst : first.provider = provider
        · exact ⟨first, List.mem_cons_self, hfirst⟩
        · rcases List.mem_cons.mp hs with rfl | hs
          · exact absurd hprovider hfirst
          · obtain ⟨l, hl, hlp⟩ := ih hs
            have hother : l.provider ≠ first.provider := fun h ↦ hfirst (h ▸ hlp)
            exact ⟨l, List.mem_cons_of_mem _ (List.mem_filter.mpr ⟨hl, by simpa using hother⟩), hlp⟩
      · rw [if_neg hsame]
        rcases List.mem_cons.mp hs with rfl | hs
        · exact absurd htarget hsame
        · exact ih hs

/-- Leaders come from different providers. -/
theorem leaders_pairwise :
    (env.leaders target chain).Pairwise (fun l m ↦ l.provider ≠ m.provider) := by
  induction chain with
  | nil => exact List.Pairwise.nil
  | cons s rest ih =>
    rw [leaders]
    split
    · refine List.pairwise_cons.mpr ⟨fun m hm ↦ ?_, ih.filter _⟩
      have hother := (List.mem_filter.mp hm).2
      exact (of_decide_eq_true hother).symm
    · exact ih

/-- The target loop emits the leaders of the providers it has not seen. -/
theorem targetSteps_eq (seen : List String) :
    env.targetSteps target chain seen =
      ((env.leaders target chain).filter (fun l ↦ l.provider ∉ seen)).map (env.respell target) := by
  induction chain generalizing seen with
  | nil => rfl
  | cons s rest ih =>
    rw [targetSteps, leaders]
    by_cases hseen : s.provider ∈ seen
    · rw [if_pos hseen, ih]
      split
      · rw [List.filter_cons_of_neg (by simpa using hseen), List.filter_filter]
        refine congrArg _ (List.filter_congr fun l hl ↦ ?_)
        by_cases hl : l.provider = s.provider <;> simp [hl, hseen]
      · rfl
    · rw [if_neg hseen]
      split
      · rw [List.filter_cons_of_pos (by simpa using hseen), List.map_cons, ih, List.filter_filter]
        refine congrArg _ (congrArg _ (List.filter_congr fun l hl ↦ ?_))
        by_cases hl : l.provider = s.provider <;> simp [hl]
      · rw [ih]

/-- The target loop of the builder emits the leaders. -/
theorem emittedSteps_eq :
    env.targetSteps target chain [] = (env.leaders target chain).map (env.respell target) := by
  rw [targetSteps_eq, List.filter_eq_self.mpr (by simp)]

/-- The fallbacks of the builder are the spares. -/
theorem fallbacks_eq (requestTokens : Nat) :
    (env.otherSteps chain target).filter
      (fun s ↦ env.cfg.fitsContext (env.logical s.model) requestTokens) =
        env.spares chain target requestTokens := by
  rw [otherSteps, List.filter_filter, spares]
  refine List.filter_congr fun s hs ↦ ?_
  have hemitted : (s.provider, s.model) ∈
      (env.targetSteps target chain []).map (fun t ↦ (t.provider, t.model)) ↔
        env.Serves chain target s.provider ∧ env.Canonical target s := by
    rw [emittedSteps_eq, ← exists_leader_iff]
    simp only [List.map_map, List.mem_map, Function.comp_apply, respell, Prod.mk.injEq, Canonical]
    constructor
    · rintro ⟨l, hl, hprovider, hmodel⟩
      exact ⟨⟨l, hl, hprovider⟩, by rw [← hmodel, hprovider]⟩
    · rintro ⟨⟨l, hl, hprovider⟩, hmodel⟩
      exact ⟨l, hl, hprovider, by rw [hmodel, hprovider]⟩
  simp [hemitted, Bool.and_comm]

/-! ### Lost and repeated attempts -/

/-- The attempts of the emitted steps are different. -/
theorem nodup_emitted :
    ((env.leaders target chain).map (fun l ↦ env.attempt (env.respell target l))).Nodup := by
  refine List.Pairwise.map _ ?_ leaders_pairwise
  intro l m hprovider heq
  exact hprovider (congrArg Prod.fst heq)

/-- Up to the order, the result is the emitted steps and the spares. -/
theorem buildChainForModel_perm (cb : CircuitBreaker) (preferred : Option String)
    (profile : String) (requestTokens : Nat) :
    (env.buildChainForModel cb chain target preferred profile requestTokens).Perm
      ((env.leaders target chain).map (env.respell target) ++
        env.spares chain target requestTokens) := by
  rw [buildChainForModel, fallbacks_eq, emittedSteps_eq]
  exact (List.perm_insertionSort _ _).append (List.perm_insertionSort _ _)

/-- How often the result makes an attempt. -/
theorem count_buildChainForModel (cb : CircuitBreaker) (preferred : Option String)
    (profile : String) (requestTokens : Nat) (a : String × String × Option String) :
    ((env.buildChainForModel cb chain target preferred profile requestTokens).map
        env.attempt).count a =
      (if ∃ l ∈ env.leaders target chain, env.attempt (env.respell target l) = a then 1 else 0) +
        ((env.spares chain target requestTokens).map env.attempt).count a := by
  rw [((buildChainForModel_perm cb preferred profile requestTokens).map env.attempt).count_eq,
    List.map_append, List.count_append, List.map_map]
  refine congrArg (· + _) ?_
  have hcount := nodup_emitted.count (a := a) (l := (env.leaders target chain).map
    (fun l ↦ env.attempt (env.respell target l)))
  simp only [List.mem_map] at hcount
  exact hcount

variable (env) in
/-- Every wanted attempt of the chain is left exactly once: the spares are different attempts,
none of them repeats an emitted one, and a wanted step that is no spare is the attempt of an
emitted step or of a spare. -/
structure AttemptsKept (chain : List Step) (target : String) (requestTokens : Nat) : Prop where
  distinct : ((env.spares chain target requestTokens).map env.attempt).Nodup
  apart : ∀ f ∈ env.spares chain target requestTokens, ∀ l ∈ env.leaders target chain,
    env.attempt (env.respell target l) ≠ env.attempt f
  covered : ∀ s ∈ chain, env.Wanted target requestTokens s →
    s ∉ env.spares chain target requestTokens →
      (∃ l ∈ env.leaders target chain, env.attempt (env.respell target l) = env.attempt s) ∨
        ∃ f ∈ env.spares chain target requestTokens, env.attempt f = env.attempt s

/-- A spare is a wanted step of the chain. -/
theorem mem_spares {requestTokens : Nat} {f : Step}
    (h : f ∈ env.spares chain target requestTokens) :
    f ∈ chain ∧ env.cfg.fitsContext (env.logical f.model) requestTokens = true ∧
      ¬(env.Serves chain target f.provider ∧ env.Canonical target f) := by
  obtain ⟨hmem, hspare⟩ := List.mem_filter.mp h
  obtain ⟨hother, hfits⟩ := of_decide_eq_true hspare
  exact ⟨hmem, hfits, hother⟩

/-- Every wanted step of the chain is attempted exactly once if and only if the attempts are
kept apart. -/
theorem attempted_once_iff (env : RouterEnv) (cb : CircuitBreaker) (chain : List Step)
    (target : String) (preferred : Option String) (profile : String) (requestTokens : Nat) :
    (∀ s ∈ chain, env.Wanted target requestTokens s →
      ((env.buildChainForModel cb chain target preferred profile requestTokens).map
        env.attempt).count (env.attempt s) = 1) ↔
      env.AttemptsKept chain target requestTokens := by
  simp only [count_buildChainForModel]
  constructor
  · intro hall
    have hspare : ∀ f ∈ env.spares chain target requestTokens,
        (¬∃ l ∈ env.leaders target chain, env.attempt (env.respell target l) = env.attempt f) ∧
          ((env.spares chain target requestTokens).map env.attempt).count (env.attempt f) = 1 := by
      intro f hf
      have hpos := List.count_pos_iff.mpr (List.mem_map_of_mem (f := env.attempt) hf)
      have honce := hall f (mem_spares hf).1 (.inr (mem_spares hf).2.1)
      split at honce
      · omega
      · next hemitted => exact ⟨hemitted, by omega⟩
    refine ⟨List.nodup_iff_count_eq_one.mpr fun a ha ↦ ?_, fun f hf l hl heq ↦ ?_,
      fun s hs hwanted _ ↦ ?_⟩
    · obtain ⟨f, hf, rfl⟩ := List.mem_map.mp ha
      exact (hspare f hf).2
    · exact (hspare f hf).1 ⟨l, hl, heq⟩
    · have honce := hall s hs hwanted
      split at honce
      · next hemitted => exact .inl hemitted
      · have hpos : 0 < ((env.spares chain target requestTokens).map env.attempt).count
            (env.attempt s) := by omega
        exact .inr (List.mem_map.mp (List.count_pos_iff.mp hpos))
  · intro hkept s hs hwanted
    split
    · next hemitted =>
      obtain ⟨l, hl, heq⟩ := hemitted
      rw [List.count_eq_zero.mpr]
      intro hmem
      obtain ⟨f, hf, hfs⟩ := List.mem_map.mp hmem
      exact hkept.apart f hf l hl (heq.trans hfs.symm)
    · next hemitted =>
      have hmem : env.attempt s ∈ (env.spares chain target requestTokens).map env.attempt := by
        by_cases hspare : s ∈ env.spares chain target requestTokens
        · exact List.mem_map_of_mem hspare
        · exact List.mem_map.mpr ((hkept.covered s hs hwanted hspare).resolve_left hemitted)
      rw [List.count_eq_one_of_mem hkept.distinct hmem]

end RouterEnv

/-- A registry with one model that one provider spells with a vendor prefix. -/
def vendorEnv : RouterEnv :=
  { plainEnv Dict.empty with
    cfg := ⟨Dict.empty, Dict.empty,
      Dict.empty.set "flash" ⟨"flash", Dict.empty.set "commandcode" "deepseek/flash"⟩,
      fun _ model ↦ model⟩ }

/-- A target step under its bare name is emitted in the vendor's spelling and stays a fallback;
of two target steps under the vendor's spelling one base URL is lost. -/
theorem alias_repeated_and_baseUrl_lost :
    let cb := CircuitBreaker.new defaultCbConfig
    let bare : Step := ⟨"commandcode", "flash", none⟩
    let east : Step := ⟨"commandcode", "deepseek/flash", some "east"⟩
    let west : Step := ⟨"commandcode", "deepseek/flash", some "west"⟩
    (vendorEnv.Wanted "flash" 0 bare ∧
      ((vendorEnv.buildChainForModel cb [bare] "flash" none "" 0).map vendorEnv.attempt).count
        (vendorEnv.attempt bare) = 2) ∧
    (vendorEnv.Wanted "flash" 0 west ∧
      ((vendorEnv.buildChainForModel cb [east, west] "flash" none "" 0).map
        vendorEnv.attempt).count (vendorEnv.attempt west) = 0) := by
  unfold RouterEnv.Wanted
  decide +kernel

end LcpGateway.Router
