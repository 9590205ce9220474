import LcpGateway.Base.StableSort
import LcpGateway.Router.SelectStep

/-!
# The target choice

Library `Router`. Source `src/api/router.py:989–1045`. Outside `explore` the choice has two
outcomes above the floor: the chain default whenever no candidate beats it by more than the
hysteresis, and otherwise the first of the best candidates. The default is not looked up among
the candidates, and which of two equally good candidates is first is up to the enumeration of
the set.
-/

namespace LcpGateway.Router
open LcpGateway.Base LcpGateway.Breaker LcpGateway.Chat LcpGateway.Config LcpGateway.Pipeline

namespace RouterEnv

variable (env : RouterEnv)

/-- No candidate beats `model` by more than the hysteresis. -/
def WithinHysteresis (candidates : List String) (task : String) (bias : Option Rat)
    (model : String) : Prop :=
  ∀ m ∈ candidates, env.scoreModel m task bias ≤ env.scoreModel model task bias + hysteresis

instance (candidates : List String) (task : String) (bias : Option Rat) (model : String) :
    Decidable (env.WithinHysteresis candidates task bias model) :=
  inferInstanceAs (Decidable (∀ m ∈ candidates, _ ≤ _))

/-- No candidate reaches the floor. -/
def BelowFloor (candidates : List String) (task : String) (minScore : Rat)
    (bias : Option Rat) : Prop :=
  ∀ m ∈ candidates, env.scoreModel m task bias < minScore

/-- The candidates `explore` draws from. -/
def contenders (candidates : List String) (task : String) (bias : Option Rat) : List String :=
  candidates.filter (env.WithinHysteresis candidates task bias)

/-- The choice is a draw among several contenders. -/
def Draws (candidates : List String) (task : String) (policy : Policy)
    (bias : Option Rat) : Prop :=
  policy = .explore ∧ 1 < (env.contenders candidates task bias).length

/-- What a chosen target should be: a candidate above the floor and close to the best. -/
structure Acceptable (candidates : List String) (task : String) (minScore : Rat)
    (bias : Option Rat) (target : String) : Prop where
  candidate : target ∈ candidates
  floor : minScore ≤ env.scoreModel target task bias
  close : env.WithinHysteresis candidates task bias target

variable {env} {candidates : List String} {task : String} {policy : Policy} {minScore : Rat}
  {bias : Option Rat} {defaultLogical : String}

/-- The pairs of the score list. -/
theorem mem_scoredModels {p : Rat × String} :
    p ∈ env.scoredModels candidates task bias ↔
      p.2 ∈ candidates ∧ p.1 = env.scoreModel p.2 task bias := by
  rw [scoredModels, List.mem_insertionSort, List.mem_map]
  constructor
  · rintro ⟨m, hm, rfl⟩
    exact ⟨(env.order.perm candidates).mem_iff.mp hm, rfl⟩
  · rintro ⟨hmem, hscore⟩
    exact ⟨p.2, (env.order.perm candidates).mem_iff.mpr hmem, by rw [← hscore]⟩

/-- The score list starts with a best candidate. -/
theorem scoredModels_eq_cons {best : Rat} {model : String} {rest : List (Rat × String)}
    (h : env.scoredModels candidates task bias = (best, model) :: rest) :
    model ∈ candidates ∧ best = env.scoreModel model task bias ∧
      ∀ m ∈ candidates, env.scoreModel m task bias ≤ best := by
  have hhead : (best, model) ∈ env.scoredModels candidates task bias := by
    rw [h]
    exact List.mem_cons_self
  obtain ⟨hmem, hscore⟩ := mem_scoredModels.mp hhead
  refine ⟨hmem, hscore, fun m hm ↦ ?_⟩
  have hm' : (env.scoreModel m task bias, m) ∈ env.scoredModels candidates task bias :=
    mem_scoredModels.mpr ⟨hm, rfl⟩
  rw [scoredModels, List.mem_insertionSort] at hm'
  exact (rel_of_insertionSort_eq_cons _ h).2 _ hm'

/-- Only an empty candidate set has no scores. -/
theorem scoredModels_eq_nil_iff :
    env.scoredModels candidates task bias = [] ↔ candidates = [] := by
  rw [List.eq_nil_iff_forall_not_mem, List.eq_nil_iff_forall_not_mem]
  constructor
  · intro h m hm
    exact h (env.scoreModel m task bias, m) (mem_scoredModels.mpr ⟨hm, rfl⟩)
  · intro h p hp
    exact h p.2 (mem_scoredModels.mp hp).1

/-- The pool of `explore` holds the contenders. -/
theorem explorePool_perm {best : Rat} {model : String} {rest : List (Rat × String)}
    (h : env.scoredModels candidates task bias = (best, model) :: rest) :
    (explorePool (env.scoredModels candidates task bias) best).Perm
      (env.contenders candidates task bias) := by
  obtain ⟨hmem, hscore, hbest⟩ := scoredModels_eq_cons h
  have hclose : ∀ m, best - hysteresis ≤ env.scoreModel m task bias ↔
      env.WithinHysteresis candidates task bias m := by
    intro m
    constructor
    · intro hm m' hm'
      linarith [hbest m' hm']
    · intro hm
      linarith [hm model hmem]
  have hpool : (explorePool (env.scoredModels candidates task bias) best).Perm
      (explorePool ((env.order.enumerate candidates).map
        (fun m ↦ (env.scoreModel m task bias, m))) best) :=
    ((List.perm_insertionSort _ _).filter _).map _
  refine hpool.trans ?_
  simp only [explorePool, List.filter_map, List.map_map]
  have hid : (Prod.snd ∘ fun m ↦ (env.scoreModel m task bias, m)) = id := rfl
  rw [hid, List.map_id, contenders]
  have hdecide : ((fun p : Rat × String ↦ decide (best - hysteresis ≤ p.1)) ∘
      fun m ↦ (env.scoreModel m task bias, m)) =
        fun m ↦ decide (env.WithinHysteresis candidates task bias m) :=
    funext fun m ↦ decide_eq_decide.mpr (hclose m)
  rw [hdecide]
  exact (env.order.perm candidates).filter _

/-! ### The three exits -/

/-- Below the floor there is no choice. -/
theorem chooseTargetModel_of_belowFloor
    (h : env.BelowFloor candidates task minScore bias) :
    env.chooseTargetModel candidates task policy minScore bias defaultLogical = none := by
  unfold chooseTargetModel
  dsimp only
  split
  · rfl
  · next best model rest hscored =>
    obtain ⟨hmem, hscore, -⟩ := scoredModels_eq_cons hscored
    rw [if_pos (by rw [hscore]; exact h model hmem)]

/-- What is known above the floor. -/
theorem exists_best (h : ¬env.BelowFloor candidates task minScore bias) :
    ∃ best model rest, env.scoredModels candidates task bias = (best, model) :: rest ∧
      minScore ≤ best := by
  obtain ⟨m, hm, hfloor⟩ : ∃ m ∈ candidates, minScore ≤ env.scoreModel m task bias := by
    simpa [BelowFloor] using h
  cases hscored : env.scoredModels candidates task bias with
  | nil =>
    rw [scoredModels_eq_nil_iff.mp hscored] at hm
    simp at hm
  | cons p rest =>
    exact ⟨p.1, p.2, rest, rfl, hfloor.trans ((scoredModels_eq_cons hscored).2.2 m hm)⟩

/-- Above the floor `explore` draws among its contenders when there are several. -/
theorem chooseTargetModel_of_draws (defaultLogical : String)
    (hfloor : ¬env.BelowFloor candidates task minScore bias)
    (hdraws : env.Draws candidates task policy bias) :
    ∃ pool, pool.Perm (env.contenders candidates task bias) ∧ ∀ draw : List String → Nat,
      ({ env with draw } : RouterEnv).chooseTargetModel candidates task policy minScore bias
        defaultLogical = pool[draw pool % pool.length]? := by
  obtain ⟨best, model, rest, hscored, hbest⟩ := exists_best hfloor
  have hperm := explorePool_perm hscored
  refine ⟨_, hperm, fun draw ↦ ?_⟩
  have hscored' : ({ env with draw } : RouterEnv).scoredModels candidates task bias =
      (best, model) :: rest := hscored
  unfold chooseTargetModel
  rw [hscored']
  dsimp only
  rw [if_neg (not_lt.mpr hbest), ← hscored,
    if_pos ⟨hdraws.1, by rw [hperm.length_eq]; exact hdraws.2⟩]

/-- Above the floor and without a draw, the default is kept when no candidate clearly beats it;
otherwise the first of the best candidates is chosen. -/
theorem chooseTargetModel_of_settled (hfloor : ¬env.BelowFloor candidates task minScore bias)
    (hsettled : ¬env.Draws candidates task policy bias) :
    env.chooseTargetModel candidates task policy minScore bias defaultLogical =
      if env.WithinHysteresis candidates task bias defaultLogical then some defaultLogical
      else (env.scoredModels candidates task bias).head?.map Prod.snd := by
  obtain ⟨best, model, rest, hscored, hbest⟩ := exists_best hfloor
  have hperm := explorePool_perm hscored
  obtain ⟨hmem, hscore, hmax⟩ := scoredModels_eq_cons hscored
  have hpool : ¬(policy = .explore ∧
      1 < (explorePool ((best, model) :: rest) best).length) := by
    rw [← hscored, hperm.length_eq]
    exact hsettled
  unfold chooseTargetModel
  rw [hscored]
  dsimp only
  rw [if_neg (not_lt.mpr hbest), if_neg hpool]
  by_cases hdefault : model = defaultLogical
  · rw [if_neg (fun h ↦ h.1 hdefault)]
    simp [hdefault]
  · have hiff : best ≤ env.scoreModel defaultLogical task bias + hysteresis ↔
        env.WithinHysteresis candidates task bias defaultLogical := by
      constructor
      · intro h m hm
        exact (hmax m hm).trans h
      · intro h
        rw [hscore]
        exact h model hmem
    simp only [ne_eq, hdefault, not_false_eq_true, true_and, hiff, List.head?_cons,
      Option.map_some]

/-- The model a settled choice takes when the default is beaten is a best candidate. -/
theorem exists_firstBest (hfloor : ¬env.BelowFloor candidates task minScore bias) :
    ∃ model, (env.scoredModels candidates task bias).head?.map Prod.snd = some model ∧
      model ∈ candidates ∧ minScore ≤ env.scoreModel model task bias ∧
      ∀ m ∈ candidates, env.scoreModel m task bias ≤ env.scoreModel model task bias := by
  obtain ⟨best, model, rest, hscored, hbest⟩ := exists_best hfloor
  obtain ⟨hmem, rfl, hmax⟩ := scoredModels_eq_cons hscored
  exact ⟨model, by rw [hscored]; rfl, hmem, hbest, hmax⟩

/-! ### What is chosen -/

/-- Every draw is acceptable when every contender reaches the floor. -/
theorem acceptable_of_draws_iff (hfloor : ¬env.BelowFloor candidates task minScore bias)
    (hdraws : env.Draws candidates task policy bias) :
    (∀ (draw : List String → Nat) (target : String),
      ({ env with draw } : RouterEnv).chooseTargetModel candidates task policy minScore bias
          defaultLogical = some target →
        env.Acceptable candidates task minScore bias target) ↔
      ∀ m ∈ env.contenders candidates task bias, minScore ≤ env.scoreModel m task bias := by
  obtain ⟨pool, hperm, hchoice⟩ := chooseTargetModel_of_draws defaultLogical hfloor hdraws
  simp only [hchoice]
  constructor
  · intro hall m hm
    obtain ⟨i, hi, hget⟩ := List.mem_iff_getElem.mp (hperm.mem_iff.mpr hm)
    have hdrawn : pool[i % pool.length]? = some m := by
      rw [Nat.mod_eq_of_lt hi, List.getElem?_eq_getElem hi, hget]
    exact (hall (fun _ ↦ i) m hdrawn).floor
  · intro hall draw target htarget
    have hmem := hperm.mem_iff.mp (List.mem_of_getElem? htarget)
    obtain ⟨hcandidate, hclose⟩ := List.mem_filter.mp hmem
    exact ⟨hcandidate, hall target hmem, of_decide_eq_true hclose⟩

/-- A settled choice is acceptable when a default that is kept is a candidate above the floor. -/
theorem acceptable_of_settled_iff (hfloor : ¬env.BelowFloor candidates task minScore bias)
    (hsettled : ¬env.Draws candidates task policy bias) :
    (∀ (draw : List String → Nat) (target : String),
      ({ env with draw } : RouterEnv).chooseTargetModel candidates task policy minScore bias
          defaultLogical = some target →
        env.Acceptable candidates task minScore bias target) ↔
      (env.WithinHysteresis candidates task bias defaultLogical →
        defaultLogical ∈ candidates ∧ minScore ≤ env.scoreModel defaultLogical task bias) := by
  have hchoice : ∀ draw : List String → Nat,
      ({ env with draw } : RouterEnv).chooseTargetModel candidates task policy minScore bias
          defaultLogical =
        if env.WithinHysteresis candidates task bias defaultLogical then some defaultLogical
        else (env.scoredModels candidates task bias).head?.map Prod.snd :=
    fun _ ↦ chooseTargetModel_of_settled hfloor hsettled
  simp only [hchoice]
  obtain ⟨model, hfirst, hmem, hbest, hmax⟩ := exists_firstBest hfloor
  constructor
  · intro hall hkept
    have hdefault := hall env.draw defaultLogical (if_pos hkept)
    exact ⟨hdefault.candidate, hdefault.floor⟩
  · intro hdefault draw target htarget
    split at htarget
    · next hkept =>
      obtain rfl := Option.some.inj htarget
      exact ⟨(hdefault hkept).1, (hdefault hkept).2, hkept⟩
    · have hsame : model = target := Option.some.inj (hfirst.symm.trans htarget)
      subst hsame
      refine ⟨hmem, hbest, fun m hm ↦ (hmax m hm).trans ?_⟩
      norm_num [hysteresis]

end RouterEnv

/-- A two-model router whose first model holds few tokens. -/
def smallHeadEnv : RouterEnv := plainEnv (Dict.empty.set "small" [("context_window", .int 8192)])

namespace RouterEnv

variable {env : RouterEnv} {candidates : List String} {task : String} {policy : Policy}
  {minScore : Rat} {bias : Option Rat} {defaultLogical : String}

/-- The enumeration that starts with a given member. -/
def startingWith (first : String) : SetOrder where
  enumerate l := if first ∈ l then first :: l.erase first else l
  perm l := by
    split
    · next hmem => exact (List.perm_cons_erase hmem).symm
    · exact List.Perm.refl l

/-- A best candidate that is enumerated first is chosen over equally good ones. -/
theorem firstBest_startingWith {first : String} (hmem : first ∈ candidates)
    (hbest : ∀ m ∈ candidates, env.scoreModel m task bias ≤ env.scoreModel first task bias) :
    (({ env with order := startingWith first } : RouterEnv).scoredModels candidates task
      bias).head?.map Prod.snd = some first := by
  unfold scoredModels
  simp only [startingWith, hmem, if_true, List.map_cons]
  rw [List.insertionSort_cons_of_forall_rel]
  · rfl
  · intro p hp
    obtain ⟨m, hm, rfl⟩ := List.mem_map.mp hp
    exact hbest m (List.mem_of_mem_erase hm)

/-- The first best candidate does not depend on the enumeration exactly when it beats all the
others. -/
theorem firstBest_order_free_iff (hfloor : ¬env.BelowFloor candidates task minScore bias) :
    (∀ order order' : SetOrder,
      (({ env with order } : RouterEnv).scoredModels candidates task bias).head?.map Prod.snd =
        (({ env with order := order' } : RouterEnv).scoredModels candidates task
          bias).head?.map Prod.snd) ↔
      ∃ m ∈ candidates, ∀ m' ∈ candidates, m' ≠ m →
        env.scoreModel m' task bias < env.scoreModel m task bias := by
  constructor
  · intro hsame
    obtain ⟨m, -, hmem, -, hmax⟩ := exists_firstBest hfloor
    refine ⟨m, hmem, fun m' hm' hne ↦ lt_of_le_of_ne (hmax m' hm') fun htie ↦ hne ?_⟩
    have hmax' : ∀ m ∈ candidates, env.scoreModel m task bias ≤ env.scoreModel m' task bias := by
      rw [htie]
      exact hmax
    have hboth := hsame (startingWith m') (startingWith m)
    rw [firstBest_startingWith hm' hmax', firstBest_startingWith hmem hmax] at hboth
    exact Option.some.inj hboth
  · rintro ⟨m, hmem, hstrict⟩ order order'
    have hfirst : ∀ order : SetOrder, (({ env with order } : RouterEnv).scoredModels candidates
        task bias).head?.map Prod.snd = some m := by
      intro order
      have hfloor' : ¬({ env with order } : RouterEnv).BelowFloor candidates task minScore bias :=
        hfloor
      obtain ⟨model, hfirst, hmodel, -, hmax⟩ := exists_firstBest hfloor'
      by_cases hne : model = m
      · rw [hfirst, hne]
      · exact absurd (hmax m hmem) (not_le.mpr (hstrict model hmodel hne))
    rw [hfirst, hfirst]

end RouterEnv

/-- A router on which the chain default scores low and the other two models are unknown. -/
def tiedEnv : RouterEnv :=
  { plainEnv Dict.empty with
    matrix := Dict.empty.set "code_generation" (Dict.empty.set "default" (1 / 10)) }

/-- A chain of a weak default and two unknown models. -/
def tiedChain : List Step :=
  [⟨"llamacpp", "default", none⟩, ⟨"opencode", "left", none⟩, ⟨"commandcode", "right", none⟩]

end LcpGateway.Router
