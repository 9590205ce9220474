import LcpGateway.Router.Rules

/-!
# Step selection

Library `Router`. Source `src/api/router.py:1445–1726`. `select_step` classifies the request,
drops the steps the breaker refuses, applies the block rules and chooses a target model; then
it either answers a chain built for that model, or answers nothing and the caller keeps its
own chain. The settings of the profile's scope arrive resolved. Of a decision row the
audit note is left out.
-/

namespace LcpGateway.Router
open LcpGateway.Base LcpGateway.Breaker LcpGateway.Chat LcpGateway.Config LcpGateway.Pipeline

/-- The effective routing settings of one profile. -/
structure RoutingScope where
  profile : String
  policy : Policy
  minScore : Rat
  rules : List Rule
  intents : List String
  marginGate : Rat

/-- How a request is read for classification. -/
structure Reader where
  norm : MessageNorm
  tok : Tokenizer
  clf : Option SemanticClassifier

/-- The `action` of a decision row. -/
inductive DecisionAction where
  | marginGate
  | belowMinScore
  | keepDefault
  | prefer
  | explore
  | reorder
  deriving DecidableEq, Repr

/-- A decision row; `router.py:660–682,1662–1724`. -/
structure Decision where
  task : String
  path : ClassifyPath
  policy : Policy
  fired : List Fired
  action : DecisionAction
  model : String
  provider : String
  score : Rat
  fromStep : Option Step
  deriving DecidableEq, Repr

/-- What `select_step` answers, records and leaves behind. -/
structure Selection where
  chain : Option (List Step)
  decision : Option Decision
  cb : CircuitBreaker

/-- `_narrow_to_intents`; `router.py:1445–1478`. -/
def narrowToIntents (intents : List String) (detail : ClassifyResult) : ClassifyResult :=
  match intents with
  | [] => detail
  | first :: _ =>
    if strip detail.task ∈ intents then detail else
      match (detail.semantic.getD []).find? (fun p ↦ p.1 ∈ intents) with
      | some (task, _) => { detail with task, path := .intentNarrowed }
      | none => { detail with task := first, path := .intentDeclared }

/-- `_intent_margin`; `router.py:1499–1511`. -/
def intentMargin (detail : ClassifyResult) : Option Rat :=
  match detail.semantic with
  | some (top1 :: top2 :: _) => some (top1.2 - top2.2)
  | _ => none

/-- The policy named by a policy rule. -/
def Rule.policyValue (rule : Rule) : Option Policy :=
  match rule.policy with
  | some "eager" => some .eager
  | some "cost_first" => some .costFirst
  | some "explore" => some .explore
  | _ => none

/-- The policy after the policy rules in force; the last one wins; `router.py:1576–1581`. -/
def effectivePolicy (rules : List Rule) (task profile : String) (policy : Policy) : Policy :=
  rules.foldl (fun policy rule ↦
    if rule.action = some "policy" ∧ rule.isMatch task profile
      then rule.policyValue.getD policy else policy) policy

/-- The choice between the preference and the scores. -/
inductive Choice where
  | marginGate (margin : Rat)
  | belowMinScore
  | target (model : String)
  deriving DecidableEq, Repr

namespace RouterEnv

variable (env : RouterEnv)

/-- The breaker gate of `select_step`, step by step; `router.py:1567–1574`. -/
def availableSteps (profile : String) (clock : Nat → Time) :
    List Step → Nat → CircuitBreaker → List Step × CircuitBreaker
  | [], _, cb => ([], cb)
  | s :: rest, i, cb =>
    let (available, cb) := cb.isAvailable (clock i) (keyOf env.cfg profile s)
    let (kept, cb) := availableSteps profile clock rest (i + 1) cb
    (if available then s :: kept else kept, cb)

/-- The preference after the context gate; `router.py:1592–1603`. -/
def gatedPreference (pref : Preference) (requestTokens : Nat) : Preference :=
  match pref.target with
  | some target =>
    if 0 < requestTokens ∧ !env.cfg.fitsContext target requestTokens
      then ⟨none, none, pref.fired ++ [.preferContextExcluded]⟩ else pref
  | none => pref

/-- `min(self.cost_bias + 0.15, 0.5)` under `cost_first`; `router.py:1624`. -/
def biasOf (policy : Policy) : Option Rat :=
  if policy = .costFirst then some (min (env.costBias + 15 / 100) (1 / 2)) else none

/-- The target choice of `select_step`; `router.py:1631–1678`. -/
def chooseTarget (scope : RoutingScope) (detail : ClassifyResult) (policy : Policy)
    (head : Step) (blocked : Blocked) (pref : Preference) (requestTokens : Nat) : Choice :=
  match pref.target with
  | some target => .target target
  | none =>
    match (intentMargin detail).filter (· < scope.marginGate) with
    | some margin => if 0 < scope.marginGate then .marginGate margin else
        scoredChoice
    | none => scoredChoice
where
  /-- The scoring path. -/
  scoredChoice : Choice :=
    match env.chooseTargetModel
      (env.candidateModels blocked.candidates blocked.blockedModels requestTokens) detail.task
      policy scope.minScore (env.biasOf policy) (env.logical head.model) with
    | some target => .target target
    | none => .belowMinScore

/-- The last step of `select_step`: build the chain for the target and compare its head;
`router.py:1680–1726`. -/
def settleTarget (scope : RoutingScope) (detail : ClassifyResult) (policy : Policy)
    (cb : CircuitBreaker) (head : Step) (blocked : Blocked) (pref : Preference)
    (requestTokens : Nat) (target : String) : Selection :=
  let fired := blocked.fired ++ pref.fired
  let result := env.buildChainForModel cb blocked.candidates target pref.provider scope.profile
    requestTokens
  match result with
  | [] => ⟨none, none, cb⟩
  | first :: _ =>
    let score := roundDigits 3 (env.scoreModel target detail.task (env.biasOf policy))
    let unchanged := first.provider = head.provider ∧ first.model = head.model
    let row := fun action fromStep ↦
      (⟨detail.task, detail.path, policy, fired, action, first.model, first.provider, score,
        fromStep⟩ : Decision)
    if unchanged ∧ .prefer ∉ fired then ⟨none, some (row .keepDefault none), cb⟩
    else
      let action : DecisionAction :=
        if .prefer ∈ fired then .prefer else if policy = .explore then .explore else .reorder
      ⟨some result, some (row action (some head)), cb⟩

/-- What `select_step` has worked out before it chooses a target. -/
structure Considered where
  detail : ClassifyResult
  policy : Policy
  blocked : Blocked
  pref : Preference
  cb : CircuitBreaker

/-- Classification, breaker gate, rules and preference; `router.py:1555–1604`. -/
def consider (scope : RoutingScope) (reader : Reader) (clock : Nat → Time)
    (messages : List Message) (tools : List Tool) (chain : List Step) (cb : CircuitBreaker) :
    Considered :=
  let detail := narrowToIntents scope.intents
    (classifyTaskDetail reader.norm reader.tok reader.clf messages tools)
  let (available, cb) := env.availableSteps scope.profile clock chain 0 cb
  let blocked := env.applyBlocks scope.rules available detail.task scope.profile
  { detail, blocked, cb
    policy := effectivePolicy scope.rules detail.task scope.profile scope.policy
    pref := env.gatedPreference
      (env.resolvePrefer blocked.candidates detail.task scope.profile scope.rules [])
      detail.tokenCount }

/-- The preferred model, or else the model the scores pick, when the request is not left alone. -/
def targetOf (scope : RoutingScope) (c : Considered) : Option String :=
  match c.blocked.candidates with
  | [] => none
  | head :: _ =>
    match env.chooseTarget scope c.detail c.policy head c.blocked c.pref c.detail.tokenCount with
    | .target target => some target
    | _ => none

/-- `select_step` on a non-empty chain, routing being enabled; `router.py:1513–1726`. -/
def selectStep (scope : RoutingScope) (reader : Reader) (clock : Nat → Time)
    (messages : List Message) (tools : List Tool) (chain : List Step) (cb : CircuitBreaker) :
    Selection :=
  let c := env.consider scope reader clock messages tools chain cb
  match c.blocked.candidates with
  | [] => ⟨none, none, c.cb⟩
  | head :: _ =>
    let row := fun action score ↦
      (⟨c.detail.task, c.detail.path, c.policy, c.blocked.fired ++ c.pref.fired, action,
        head.model, head.provider, roundDigits 3 score, none⟩ : Decision)
    match env.chooseTarget scope c.detail c.policy head c.blocked c.pref c.detail.tokenCount with
    | .marginGate margin => ⟨none, some (row .marginGate margin), c.cb⟩
    | .belowMinScore =>
      ⟨none, some (row .belowMinScore
        (env.scoreModel (env.logical head.model) c.detail.task (env.biasOf c.policy))), c.cb⟩
    | .target target =>
      env.settleTarget scope c.detail c.policy c.cb head c.blocked c.pref c.detail.tokenCount
        target

/-- The routing service `try_chain` calls. -/
def asRouter (scope : RoutingScope) (reader : Reader) (clock : Nat → Time)
    (chain : List Step) : Pipeline.Router := fun cb body ↦
  let selection := env.selectStep scope reader clock body.messageList
    (body.tools.toOption.getD []) chain cb
  (selection.chain, selection.cb)

/-- The state in front of the choice lets `select_step` answer nothing: every step is blocked or
unavailable, the intents are too close, no score reaches the minimum, or the chain built for the
target keeps the default in front and no prefer rule fired. -/
inductive AnswersNothing (scope : RoutingScope) (c : Considered) : Prop
  | noCandidate (hcandidates : c.blocked.candidates = [])
  | marginGate {head : Step} {rest : List Step} {margin : Rat}
      (hcandidates : c.blocked.candidates = head :: rest)
      (hchoice : env.chooseTarget scope c.detail c.policy head c.blocked c.pref
        c.detail.tokenCount = .marginGate margin)
  | belowMinScore {head : Step} {rest : List Step}
      (hcandidates : c.blocked.candidates = head :: rest)
      (hchoice : env.chooseTarget scope c.detail c.policy head c.blocked c.pref
        c.detail.tokenCount = .belowMinScore)
  | keepDefault {head first : Step} {rest more : List Step} {target : String}
      (hcandidates : c.blocked.candidates = head :: rest)
      (hchoice : env.chooseTarget scope c.detail c.policy head c.blocked c.pref
        c.detail.tokenCount = .target target)
      (hbuilt : env.buildChainForModel c.cb c.blocked.candidates target c.pref.provider
        scope.profile c.detail.tokenCount = first :: more)
      (hhead : first.provider = head.provider ∧ first.model = head.model)
      (hprefer : .prefer ∉ c.blocked.fired ++ c.pref.fired)

/-! ### What an answered chain is made of -/

variable {scope : RoutingScope} {reader : Reader} {clock : Nat → Time}
  {messages : List Message} {tools : List Tool} {chain result : List Step} {cb : CircuitBreaker}

/-- An answered chain was built for the chosen target, from the available steps that no
block rule names. -/
theorem selectStep_eq_some
    (h : (env.selectStep scope reader clock messages tools chain cb).chain = some result) :
    let c := env.consider scope reader clock messages tools chain cb
    result ≠ [] ∧ ∃ target, env.targetOf scope c = some target ∧
      result = env.buildChainForModel c.cb c.blocked.candidates target c.pref.provider
        scope.profile c.detail.tokenCount := by
  intro c
  unfold selectStep at h
  dsimp only at h
  split at h
  · cases h
  · next head rest hcandidates =>
    split at h
    · cases h
    · cases h
    · next target htarget =>
      unfold settleTarget at h
      dsimp only at h
      split at h
      · cases h
      · next first more hbuilt =>
        split at h
        · cases h
        · obtain rfl := Option.some.inj h
          refine ⟨by simp [hbuilt], target, ?_, rfl⟩
          simp only [targetOf, c, hcandidates, htarget]

/-- The target is the preferred model, a candidate model, or the model of the head. -/
theorem chooseTarget_eq_target {detail : ClassifyResult} {policy : Policy} {head : Step}
    {blocked : Blocked} {pref : Preference} {tokens : Nat} {target : String}
    (h : env.chooseTarget scope detail policy head blocked pref tokens = .target target) :
    pref.target = some target ∨ pref.target = none ∧
      (target ∈ env.candidateModels blocked.candidates blocked.blockedModels tokens ∨
        target = env.logical head.model) := by
  have hscored : chooseTarget.scoredChoice env scope detail policy head blocked tokens =
      .target target →
        target ∈ env.candidateModels blocked.candidates blocked.blockedModels tokens ∨
          target = env.logical head.model := by
    intro h
    unfold chooseTarget.scoredChoice at h
    split at h
    · next chosen hchosen =>
      obtain rfl := Choice.target.inj h
      exact chooseTargetModel_eq_some hchosen
    · cases h
  unfold chooseTarget at h
  split at h
  · next mandate hmandate =>
    obtain rfl := Choice.target.inj h
    exact .inl hmandate
  · next hnone =>
    refine .inr ⟨hnone, ?_⟩
    split at h
    · split at h
      · cases h
      · exact hscored h
    · exact hscored h

/-- The candidates are the available steps that no block rule names. -/
theorem candidates_consider :
    let c := env.consider scope reader clock messages tools chain cb
    c.blocked.candidates = (env.availableSteps scope.profile clock chain 0 cb).1.filter
      (fun s ↦ !env.blockedBy scope.rules c.detail.task scope.profile s) :=
  env.candidates_applyBlocks _ _ _ _

/-- The model `select_step` settles on is served by a candidate. -/
theorem chooseTarget_served {head : Step} {rest : List Step} {target : String}
    (hcandidates : (env.consider scope reader clock messages tools chain cb).blocked.candidates =
      head :: rest)
    (hchoice : let c := env.consider scope reader clock messages tools chain cb
      env.chooseTarget scope c.detail c.policy head c.blocked c.pref c.detail.tokenCount =
        .target target) :
    ∃ s ∈ (env.consider scope reader clock messages tools chain cb).blocked.candidates,
      env.logical s.model = target := by
  rcases env.chooseTarget_eq_target hchoice with hmandate | ⟨-, hmem | rfl⟩
  · simp only [consider, gatedPreference] at hmandate
    split at hmandate
    · split at hmandate
      · cases hmandate
      · exact env.resolvePrefer_served hmandate
    · exact env.resolvePrefer_served hmandate
  · exact env.mem_candidateModels hmem
  · exact ⟨head, by rw [hcandidates]; exact List.mem_cons_self, rfl⟩

/-- The exits that answer nothing. -/
theorem selectStep_eq_none_iff :
    (env.selectStep scope reader clock messages tools chain cb).chain = none ↔
      env.AnswersNothing scope (env.consider scope reader clock messages tools chain cb) := by
  constructor
  · intro h
    unfold selectStep at h
    dsimp only at h
    split at h
    · next hcandidates => exact .noCandidate hcandidates
    · next head rest hcandidates =>
      split at h
      · next margin hchoice => exact .marginGate hcandidates hchoice
      · next hchoice => exact .belowMinScore hcandidates hchoice
      · next target hchoice =>
        unfold settleTarget at h
        dsimp only at h
        split at h
        · next hbuilt =>
          have hserved := env.chooseTarget_served hcandidates hchoice
          exact absurd hbuilt (env.buildChainForModel_ne_nil hserved)
        · next first more hbuilt =>
          split at h
          · next hkept => exact .keepDefault hcandidates hchoice hbuilt hkept.1 hkept.2
          · cases h
  · intro h
    unfold selectStep
    dsimp only
    cases h with
    | noCandidate hcandidates => rw [hcandidates]
    | marginGate hcandidates hchoice => rw [hcandidates]; dsimp only; rw [hchoice]
    | belowMinScore hcandidates hchoice => rw [hcandidates]; dsimp only; rw [hchoice]
    | keepDefault hcandidates hchoice hbuilt hhead hprefer =>
      rw [hcandidates]
      dsimp only
      rw [hchoice]
      simp only [settleTarget, hbuilt, hhead, hprefer, and_self, not_false_eq_true, if_true]

end RouterEnv

/-- What the helpers read off user messages without text, the embedder being down. -/
def silentReader : Reader where
  norm :=
    { contentText := fun _ ↦ ""
      isClientContext := fun _ ↦ false
      contextTail := fun _ ↦ none
      stripChatMentions := fun text ↦ text
      extractIntentText := fun messages ↦
        ("", ⟨"first_user_fallback", 0, messages.length, 0, 0, false⟩) }
  tok := { encodedLength := fun text ↦ text.length, toolText := fun _ ↦ "" }
  clf := none

/-- A user message without text. -/
def silentMessage : Message :=
  ⟨.value "user", some (.str ""), .absent, .absent, .absent, .absent⟩

/-- A router without capability scores, credit verdicts or registry entries. -/
def plainEnv (limits : Dict String Limits) : RouterEnv where
  cfg := ⟨Dict.empty, limits, Dict.empty, fun _ model ↦ model⟩
  matrix := Dict.empty
  costBias := 15 / 100
  drained := fun _ ↦ false
  order := ⟨fun l ↦ l, fun l ↦ List.Perm.refl l⟩
  draw := fun _ ↦ 0

/-- The settings of a profile that stores nothing but rules. -/
def ruleScope (rules : List Rule) : RoutingScope := ⟨"pi", .eager, 0, rules, [], 0⟩

end LcpGateway.Router
