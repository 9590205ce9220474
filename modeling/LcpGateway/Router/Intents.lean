import LcpGateway.Config.ProfileFields
import LcpGateway.Router.SelectStep

/-!
# Declared intents and the margin gate

Library `Router`. Source `src/api/router.py:150–172,1445–1511,1631–1656` and
`src/api/task_classifier.py:37–113,186–207`. The labels a classification can carry are those of
the exemplar table, free of surrounding blanks, so that narrowing compares what it returns. The
embedder is a given function and may fail on a text; how a label that is no string is written
out, on the path for a profile that does not validate, is given too.
-/

namespace LcpGateway.Router
open LcpGateway.Base LcpGateway.Breaker LcpGateway.Chat LcpGateway.Config LcpGateway.Pipeline

/-- The tasks of `TASK_EXEMPLARS`; `task_classifier.py:37–113`. -/
def TASK_EXEMPLARS : List String :=
  ["agentic_multi_step", "unit_tests", "code_generation", "debugging", "research_deep",
    "reasoning_chain", "planning", "casual_chat"]

/-- The embedder behind the classifier: which tasks have a centroid, and the cosine of a text
with each of them unless embedding the text fails. -/
structure Embedder where
  minScore : Rat
  hasCentroid : String → Bool
  cosine : String → Option (String → Rat)

namespace Embedder

variable (embedder : Embedder)

/-- `SemanticClassifier.top_scores` with `k = 5`; `task_classifier.py:186–207`. -/
def topScores (text : String) : List (String × Rat) :=
  match embedder.cosine text with
  | none => []
  | some cosine =>
    (((TASK_EXEMPLARS.filter embedder.hasCentroid).map
      (fun task ↦ (task, cosine task))).insertionSort
      (fun p q ↦ q.2 ≤ p.2)).take 5

/-- The classifier the router asks. -/
def classifier : SemanticClassifier := ⟨embedder.minScore, embedder.topScores⟩

/-- Every scored task is an exemplar task. -/
theorem topScores_mem {text : String} {p : String × Rat} (h : p ∈ embedder.topScores text) :
    p.1 ∈ TASK_EXEMPLARS := by
  unfold topScores at h
  split at h
  · simp at h
  · have hsorted := List.mem_of_mem_take h
    rw [List.mem_insertionSort] at hsorted
    obtain ⟨task, htask, rfl⟩ := List.mem_map.mp hsorted
    exact List.mem_of_mem_filter htask

end Embedder

/-- A label of a validated profile. -/
def labelOf : Json → Option String
  | .str label => some label
  | _ => none

/-- `_profile_intents`, given the fields of the profile; `router.py:150–172`. -/
def profileIntents (render : Json → String) (profile : String) (prof : Fields) : List String :=
  if profile = "" then [] else
    match validateProfileFields profile prof with
    | .ok out =>
      match out.lookup "intents" with
      | some (.arr labels) => labels.filterMap labelOf
      | _ => []
    -- a profile that does not validate keeps its labels as they are written
    | .error _ =>
      match prof.lookup "intents" with
      | some (.arr raw) => (raw.map render).filter (fun label ↦ strip label ≠ "")
      | _ => []

/-- `_intent_margin_gate`, given the fields of the profile; `router.py:1480–1497`. -/
def profileMarginGate (profile : String) (prof : Fields) : Rat :=
  if profile = "" then 0 else
    match validateProfileFields profile prof with
    | .ok out =>
      match out.lookup "intent_margin_gate" with
      | some (.float (.fin gate)) => gate
      | _ => 0
    | .error _ => 0

/-! ### Narrowing -/

/-- The labels of the table are written without surrounding blanks. -/
theorem strip_of_mem_TASK_EXEMPLARS {task : String} (h : task ∈ TASK_EXEMPLARS) :
    strip task = task := by
  have hall : ∀ task ∈ TASK_EXEMPLARS, strip task = task := by decide +kernel
  exact hall task h

/-- The semantic stage answers exemplar tasks. -/
theorem semanticStage_mem {embedder : Option Embedder} {intent task : String}
    (h : (semanticStage (embedder.map Embedder.classifier) intent).2.2.2 = some task) :
    task ∈ TASK_EXEMPLARS := by
  unfold semanticStage at h
  cases embedder with
  | none => simp at h
  | some embedder =>
    dsimp only [Option.map_some] at h
    split at h
    · simp at h
    · split at h
      · simp at h
      · next first score rest hscores =>
        have hmem : (first, score) ∈ embedder.topScores intent := by
          rw [show embedder.topScores intent = (first, score) :: rest from hscores]
          exact List.mem_cons_self
        split at h
        · obtain rfl := Option.some.inj h
          exact embedder.topScores_mem hmem
        · simp at h

/-- A classified task is an exemplar task. -/
theorem task_classifyTaskDetail_mem (norm : MessageNorm) (tok : Tokenizer)
    (embedder : Option Embedder) (messages : List Message) (tools : List Tool) :
    (classifyTaskDetail norm tok (embedder.map Embedder.classifier) messages tools).task ∈
      TASK_EXEMPLARS := by
  have hagentic : "agentic_multi_step" ∈ TASK_EXEMPLARS := by decide
  have hresearch : "research_deep" ∈ TASK_EXEMPLARS := by decide
  have hcasual : "casual_chat" ∈ TASK_EXEMPLARS := by decide
  have hcode : "code_generation" ∈ TASK_EXEMPLARS := by decide
  unfold classifyTaskDetail
  dsimp only
  split
  · exact hagentic
  · split
    · next task htask => exact semanticStage_mem htask
    · split
      · exact hagentic
      · split
        · exact hagentic
        · split
          · exact hresearch
          · split
            · exact hcasual
            · exact hcode

/-- Narrowing keeps the scores. -/
theorem semantic_narrowToIntents (intents : List String) (detail : ClassifyResult) :
    (narrowToIntents intents detail).semantic = detail.semantic := by
  unfold narrowToIntents
  split
  · rfl
  · split
    · rfl
    · split <;> rfl

/-- Where the narrowed task comes from. -/
structure Narrowed (intents : List String) (detail narrowed : ClassifyResult) : Prop where
  declared : narrowed.task ∈ intents
  kept : detail.task ∈ intents → narrowed.task = detail.task
  ranked : detail.task ∉ intents → ∀ scored,
    (detail.semantic.getD []).find? (fun p ↦ p.1 ∈ intents) = some scored →
      narrowed.task = scored.1

/-- With intents declared, a task without surrounding blanks is narrowed. -/
theorem narrowed_narrowToIntents {intents : List String} {detail : ClassifyResult}
    (hdeclares : intents ≠ []) (hstrip : strip detail.task = detail.task) :
    Narrowed intents detail (narrowToIntents intents detail) := by
  unfold narrowToIntents
  split
  · exact absurd rfl hdeclares
  · next first rest =>
    rw [hstrip]
    by_cases hmem : detail.task ∈ first :: rest
    · rw [if_pos hmem]
      exact ⟨hmem, fun _ ↦ rfl, fun hnot ↦ absurd hmem hnot⟩
    · rw [if_neg hmem]
      split
      · next task score hfind =>
        have hdeclared := List.find?_some hfind
        refine ⟨of_decide_eq_true hdeclared, fun h ↦ absurd h hmem, ?_⟩
        intro _ scored hscored
        exact congrArg Prod.fst (Option.some.inj (hfind.symm.trans hscored))
      · next hfind =>
        refine ⟨List.mem_cons_self, fun h ↦ absurd h hmem, ?_⟩
        intro _ scored hscored
        rw [hfind] at hscored
        simp at hscored

/-! ### The gate -/

/-- Two scored tasks have a margin. -/
theorem intentMargin_of_two {detail : ClassifyResult} {first second : String × Rat}
    {rest : List (String × Rat)} (h : detail.semantic = some (first :: second :: rest)) :
    intentMargin detail = some (first.2 - second.2) := by
  rw [intentMargin, h]

/-- Fewer than two scored tasks have none. -/
theorem intentMargin_of_few {detail : ClassifyResult}
    (h : (detail.semantic.getD []).length < 2) : intentMargin detail = none := by
  unfold intentMargin
  split
  · next hscores =>
    rw [hscores] at h
    exact absurd h (by simp)
  · rfl

namespace RouterEnv

variable (env : RouterEnv) {scope : RoutingScope} {detail : ClassifyResult} {policy : Policy}
  {head : Step} {blocked : Blocked} {pref : Preference} {tokens : Nat}

/-- Without a preferred model a margin below a positive gate leaves the request alone. -/
theorem chooseTarget_of_close {margin : Rat} (hpref : pref.target = none)
    (hmargin : intentMargin detail = some margin) (hlt : margin < scope.marginGate)
    (hpos : 0 < scope.marginGate) :
    env.chooseTarget scope detail policy head blocked pref tokens = .marginGate margin := by
  unfold chooseTarget
  rw [hpref, hmargin, Option.filter_some, if_pos (decide_eq_true hlt)]
  exact if_pos hpos

/-- Without a gate, or without a margin, the choice is the one at gate zero. -/
theorem chooseTarget_of_ungated
    (h : ¬0 < scope.marginGate ∨ intentMargin detail = none) :
    env.chooseTarget scope detail policy head blocked pref tokens =
      env.chooseTarget { scope with marginGate := 0 } detail policy head blocked pref tokens := by
  have hscored : ∀ gate, (¬0 < gate ∨ intentMargin detail = none) → pref.target = none →
      env.chooseTarget { scope with marginGate := gate } detail policy head blocked pref tokens =
        chooseTarget.scoredChoice env scope detail policy head blocked tokens := by
    intro gate hgate hpref
    unfold chooseTarget
    rw [hpref]
    dsimp only
    rcases hgate with hgate | hmargin
    · split
      · rw [if_neg hgate]
        rfl
      · rfl
    · rw [hmargin]
      rfl
  cases hpref : pref.target with
  | some target =>
    unfold chooseTarget
    rw [hpref]
  | none =>
    rw [hscored 0 (.inl (by norm_num)) hpref]
    exact hscored scope.marginGate h hpref

end RouterEnv

end LcpGateway.Router
