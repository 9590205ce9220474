import LcpGateway.Base.FirstMatch
import LcpGateway.Base.Object
import LcpGateway.Router.SelectStep

/-!
# Routing rules in any order

Library `Router`. Sources `src/server/endpoints.py:2086–2133` and
`src/api/router.py:1178–1317,1576–1604`. The API accepts one rule for each pair of a profile and an
intent, as they are written. The router reads the first prefer rule that a step can serve, and the
last policy rule.
-/

namespace LcpGateway.Router
open LcpGateway.Base LcpGateway.Breaker LcpGateway.Chat LcpGateway.Config LcpGateway.Pipeline

/-! ## Accepted rules -/

section Accepting

-- `str` and `float` of a value; `float` is none for a `TypeError` or a `ValueError`
variable (str : Json → String) (float : Json → Option PyFloat)

/-- `rule.get(key)` is truthy. -/
def hasTruthy (rule : Fields) (key : String) : Bool := (rule.lookup key).any Json.truthy

/-- `rule.get(key)` is one of some texts. -/
def fieldIn (rule : Fields) (key : String) (texts : List String) : Bool :=
  (rule.lookup key).any (fun v ↦ texts.any v.isStr)

/-- What is wrong with the fields of a rule; `endpoints.py:2107–2119`. -/
def fieldProblem (rule : Fields) : Option String :=
  if !fieldIn rule "action" ["prefer", "block", "policy"] then
    some "action must be prefer | block | policy"
  else if !fieldIn rule "action" ["policy"] && !hasTruthy rule "provider" &&
      !hasTruthy rule "model" then
    some "prefer/block need provider and/or model"
  else if fieldIn rule "action" ["policy"] &&
      !fieldIn rule "policy" ["eager", "cost_first", "explore"] then
    some "policy rule needs a valid policy"
  else
    match rule.lookup "min_score" with
    | none => none
    | some .null => none
    | some v => if (float v).isSome then none else some "min_score must be a number"

/-- `str(value or "*").strip() or "*"`. -/
def keyText (value : Option Json) : String :=
  let text := strip (str ((value.getD .null).orElse (.str "*")))
  if text = "" then "*" else text

/-- The key of a rule: its profile and its intent; `endpoints.py:2121–2127`. -/
def ruleKey (rule : Fields) : String × TaskPattern :=
  (keyText str (rule.lookup "profile"),
    match rule.lookup "task" with
    | some (.arr tasks) => .many (tasks.map (fun t ↦ strip (str t)))
    | task => .one (keyText str task))

/-- The intent of a key as the refusal shows it. -/
def TaskPattern.shown : TaskPattern → String
  | .one task => task
  | .many tasks => String.intercalate ", " tasks

/-- The loop of the validator; `endpoints.py:2103–2133`. -/
def validateFrom (i : Nat) (seen : List ((String × TaskPattern) × Nat)) : List Json → Option String
  | [] => none
  | doc :: rest =>
    match doc.fields? with
    | none => some ("rule " ++ toString i ++ " must be an object")
    | some rule =>
      match fieldProblem float rule with
      | some problem => some ("rule " ++ toString i ++ ": " ++ problem)
      | none =>
        let key := ruleKey str rule
        match seen.lookup key with
        | some j =>
          some ("rule " ++ toString i ++ ": intent '" ++ key.2.shown ++ "' (profile " ++ key.1 ++
            ") already has a rule — rule " ++ toString j ++
            ". One rule per intent; edit that one instead of adding a second.")
        | none => validateFrom (i + 1) ((key, i) :: seen) rest

/-- `validate_routing_rules`; `endpoints.py:2086–2133`. -/
def validateRoutingRules : Json → Option String
  | .arr docs => validateFrom str float 0 [] docs
  | _ => some "'rules' must be a list"

/-- A provider or model that is a text or falsy. -/
def nameOf (value : Option Json) : Option (Option String) :=
  match value.filter Json.truthy with
  | some (.str s) => some (some s)
  | some _ => none
  | none => some none

/-- A gate as it compares: no score is below a gate that is not a number. -/
def gateOf (value : Option Json) : Option (Option Rat) :=
  match value with
  | none => some none
  | some .null => some none
  | some v =>
    match float v with
    | some (.fin r) => some (some r)
    | some (.inf true) => some none
    | some .nan => some none
    | _ => none

/-- A stored rule as the router reads it. A profile or task that is neither a text nor a list equals
none; the providers, models and gates left out are those that are no texts and no numbers. -/
def Rule.ofJson (doc : Json) : Option Rule := do
  let rule ← doc.fields?
  let provider ← nameOf (rule.lookup "provider")
  let model ← nameOf (rule.lookup "model")
  let minScore ← gateOf float (rule.lookup "min_score")
  some
    { action := (rule.lookup "action").bind Json.text?
      enabled := (rule.lookup "enabled").all Json.truthy
      profile :=
        match rule.lookup "profile" with
        | none => .absent
        | some (.str s) => .value s
        | some _ => .null
      task :=
        match rule.lookup "task" with
        | none => .absent
        | some (.str s) => .value (.one s)
        | some (.arr tasks) => .value (.many (tasks.filterMap Json.text?))
        | some _ => .null
      provider
      model
      minScore
      policy := (rule.lookup "policy").bind Json.text? }

variable {str float}

/-- Every rule of an accepted list is an object whose fields are in order. -/
theorem fieldProblem_of_accepted {docs : List Json} {i : Nat}
    {seen : List ((String × TaskPattern) × Nat)} (h : validateFrom str float i seen docs = none) :
    ∀ doc ∈ docs, ∃ rule, doc.fields? = some rule ∧ fieldProblem float rule = none := by
  induction docs generalizing i seen with
  | nil => simp
  | cons doc rest ih =>
    rw [validateFrom] at h
    cases hfields : doc.fields? with
    | none => simp [hfields] at h
    | some rule =>
      cases hproblem : fieldProblem float rule with
      | some problem => simp [hfields, hproblem] at h
      | none =>
        cases hseen : seen.lookup (ruleKey str rule) with
        | some j => simp [hfields, hproblem, hseen] at h
        | none =>
          simp only [hfields, hproblem, hseen] at h
          rw [List.forall_mem_cons]
          exact ⟨⟨rule, hfields, hproblem⟩, ih h⟩

/-- A field that is one of some texts is read as one of them. -/
theorem exists_of_fieldIn {rule : Fields} {key : String} {texts : List String}
    (h : fieldIn rule key texts = true) :
    ∃ s ∈ texts, (rule.lookup key).bind Json.text? = some s := by
  rw [fieldIn] at h
  cases hlookup : rule.lookup key with
  | none => simp [hlookup] at h
  | some v =>
    simp only [hlookup, Option.any_some, List.any_eq_true] at h
    obtain ⟨s, hs, hv⟩ := h
    cases v with
    | str t =>
      have hts : t = s := by simpa [Json.isStr] using hv
      exact ⟨s, hs, by rw [← hts]; rfl⟩
    | _ => simp [Json.isStr] at hv

/-- A policy rule of an accepted list names a policy. -/
theorem isSome_policyValue {docs : List Json} {rules : List Rule}
    (haccepted : validateRoutingRules str float (.arr docs) = none)
    (hread : docs.mapM (Rule.ofJson float) = some rules) {rule : Rule} (hrule : rule ∈ rules)
    (haction : rule.action = some "policy") : rule.policyValue.isSome := by
  obtain ⟨doc, hdoc, hof⟩ := (mem_mapM_iff hread).mp hrule
  obtain ⟨fields, hfields, hproblem⟩ := fieldProblem_of_accepted haccepted doc hdoc
  simp only [Rule.ofJson, hfields, Option.bind_eq_bind, Option.bind_some,
    Option.bind_eq_some_iff] at hof
  obtain ⟨provider, -, model, -, minScore, -, hof⟩ := hof
  obtain rfl := Option.some.inj hof
  have hpolicy : fieldIn fields "action" ["policy"] = true := by
    rw [fieldIn]
    cases hlookup : fields.lookup "action" with
    | none => simp [hlookup] at haction
    | some v =>
      cases v with
      | str s => simpa [hlookup, Json.text?, Json.isStr] using haction
      | _ => simp [hlookup, Json.text?] at haction
  have hvalid : fieldIn fields "policy" ["eager", "cost_first", "explore"] = true := by
    by_contra hvalid
    rw [fieldProblem] at hproblem
    simp only [hpolicy, Bool.not_true, Bool.false_and, hvalid, Bool.true_and] at hproblem
    split at hproblem <;> simp at hproblem
  obtain ⟨s, hs, htext⟩ := exists_of_fieldIn hvalid
  simp only [List.mem_cons, List.not_mem_nil, or_false] at hs
  rcases hs with rfl | rfl | rfl <;> simp [Rule.policyValue, htext]

end Accepting

/-! ## The outcome of a list -/

/-- What the rules decide about a chain: the steps left, the preferred model and provider, and the
policy. -/
structure RuleOutcome where
  candidates : List Step
  target : Option String
  provider : Option String
  policy : Policy
  deriving DecidableEq, Repr

/-- The rule is a policy rule in force. -/
def Rule.isPolicy (rule : Rule) (task profile : String) : Bool :=
  rule.action = some "policy" && rule.isMatch task profile

/-- The policy rules in force all name one policy. -/
def PolicySettled (rules : List Rule) : Prop :=
  ∀ task profile, ∀ rule ∈ rules, ∀ rule' ∈ rules, rule.isPolicy task profile = true →
    rule'.isPolicy task profile = true → rule.policyValue = rule'.policyValue

namespace RouterEnv

variable (env : RouterEnv)

/-- The outcome of the rules, in the order of `select_step`; `router.py:1576–1604`. -/
def ruleOutcome (rules : List Rule) (task profile : String) (policy : Policy) (chain : List Step) :
    RuleOutcome :=
  let blocked := env.applyBlocks rules chain task profile
  let pref := env.resolvePrefer blocked.candidates task profile rules []
  ⟨blocked.candidates, pref.target, pref.provider, effectivePolicy rules task profile policy⟩

/-- The rule is a prefer rule in force whose model, if it names one, passes the gate. -/
def isPrefer (rule : Rule) (task profile : String) : Bool :=
  rule.action = some "prefer" && rule.isMatch task profile && !rule.untargeted &&
    (Rule.concrete rule.model).all (fun m ↦
      !rule.minScore.any (fun gate ↦ env.getModelScore (env.logical m) task < gate))

/-- What a prefer rule asks for: a logical model and a provider. -/
def preferenceOf (rule : Rule) : Option String × Option String :=
  ((Rule.concrete rule.model).map env.logical, Rule.concrete rule.provider)

/-- The rule is a prefer rule in force that some step outside the block rules can serve. -/
def Servable (rules : List Rule) (task profile : String) (rule : Rule) : Prop :=
  env.isPrefer rule task profile = true ∧
    ∃ s, env.ruleTarget rule s = true ∧ env.blockedBy rules task profile s = false

/-- The prefer rules in force that can be served all ask for the same. -/
def PreferSettled (rules : List Rule) : Prop :=
  ∀ task profile, ∀ rule ∈ rules, ∀ rule' ∈ rules, env.Servable rules task profile rule →
    env.Servable rules task profile rule' → env.preferenceOf rule = env.preferenceOf rule'

/-- A prefer rule that the chain can serve. -/
def fires (chain : List Step) (task profile : String) (rule : Rule) : Bool :=
  env.isPrefer rule task profile && chain.any (env.ruleTarget rule)

/-- What the first prefer rule that the chain can serve asks for. -/
def firstPreference (chain : List Step) (task profile : String) (rules : List Rule) :
    Option String × Option String :=
  ((rules.find? (env.fires chain task profile)).map env.preferenceOf).getD (none, none)

variable {env} {rules rules' : List Rule} (task profile : String) (policy : Policy)
  (chain : List Step)

/-- The preference is what the first rule that the chain can serve asks for. -/
theorem resolvePrefer_eq_find? (fired : List Fired) :
    ((env.resolvePrefer chain task profile rules fired).target,
        (env.resolvePrefer chain task profile rules fired).provider) =
      env.firstPreference chain task profile rules := by
  rw [firstPreference]
  induction rules generalizing fired with
  | nil => rfl
  | cons rule rest ih =>
    rw [resolvePrefer, List.find?_cons]
    by_cases hskip : rule.action ≠ some "prefer" ∨ !rule.isMatch task profile ∨ rule.untargeted
    · have hfires : env.fires chain task profile rule = false := by
        rw [fires, isPrefer]
        rcases hskip with h | h | h <;> simp_all
      rw [if_pos hskip, hfires, ih]
    · rw [if_neg hskip]
      simp only [not_or, ne_eq, not_not, Bool.not_eq_true, Bool.not_eq_false'] at hskip
      obtain ⟨haction, hmatch, htargeted⟩ := hskip
      cases hmodel : Rule.concrete rule.model with
      | none =>
        have hfires : env.fires chain task profile rule = chain.any (env.ruleTarget rule) := by
          simp [fires, isPrefer, haction, hmatch, htargeted, hmodel]
        rw [hfires]
        dsimp only
        cases hany : chain.any (env.ruleTarget rule) with
        | true => simp [preferenceOf, hmodel]
        | false => simpa using ih fired
      | some m =>
        have hserved : chain.any (fun s ↦ (Rule.concrete rule.provider).all (· = s.provider) &&
            env.logical s.model = env.logical m) = chain.any (env.ruleTarget rule) := by
          congr 1
          funext s
          simp [ruleTarget, hmodel, eq_comm]
        dsimp only
        cases hgate : rule.minScore.any (fun gate ↦
            decide (env.getModelScore (env.logical m) task < gate)) with
        | true =>
          have hfires : env.fires chain task profile rule = false := by
            simp [fires, isPrefer, hmodel, hgate]
          rw [hfires]
          simpa using ih _
        | false =>
          have hfires : env.fires chain task profile rule = chain.any (env.ruleTarget rule) := by
            simp [fires, isPrefer, haction, hmatch, htargeted, hmodel, hgate]
          rw [hfires, hserved]
          cases hany : chain.any (env.ruleTarget rule) with
          | true => simp [preferenceOf, hmodel]
          | false => simpa using ih _

/-- The policy is the one of the last policy rule in force. -/
theorem effectivePolicy_eq_find?
    (hvalid : ∀ rule ∈ rules, rule.action = some "policy" → rule.policyValue.isSome) :
    effectivePolicy rules task profile policy =
      ((rules.reverse.find? (fun rule ↦ rule.isPolicy task profile)).map
        (fun rule ↦ rule.policyValue.getD .eager)).getD policy := by
  rw [← foldl_overwrite_eq_find?, effectivePolicy]
  refine List.foldl_ext _ _ _ fun policy rule hrule ↦ ?_
  by_cases haction : rule.action = some "policy"
  · obtain ⟨value, hvalue⟩ := Option.isSome_iff_exists.mp (hvalid rule hrule haction)
    simp [Rule.isPolicy, haction, hvalue]
  · simp [Rule.isPolicy, haction]

/-- Blocking does not look at the order of the rules. -/
theorem blockedBy_perm (h : rules.Perm rules') (s : Step) :
    env.blockedBy rules task profile s = env.blockedBy rules' task profile s := by
  rw [blockedBy, blockedBy, Bool.eq_iff_iff, List.any_eq_true, List.any_eq_true]
  simp only [h.mem_iff]

/-- The steps left do not depend on the order of the rules. -/
theorem candidates_perm (h : rules.Perm rules') :
    (env.applyBlocks rules chain task profile).candidates =
      (env.applyBlocks rules' chain task profile).candidates := by
  rw [candidates_applyBlocks, candidates_applyBlocks]
  simp only [env.blockedBy_perm task profile h]

/-- A rule that the steps left can serve is servable. -/
theorem servable_of_fires {rule : Rule}
    (h : env.fires (env.applyBlocks rules chain task profile).candidates task profile rule = true) :
    env.Servable rules task profile rule := by
  rw [fires, Bool.and_eq_true, List.any_eq_true] at h
  obtain ⟨hprefer, s, hs, htarget⟩ := h
  rw [candidates_applyBlocks] at hs
  exact ⟨hprefer, s, htarget, by simpa using (List.mem_filter.mp hs).2⟩

/-- The outcome, by the first prefer rule that the steps left can serve and the last policy rule. -/
theorem ruleOutcome_eq
    (hvalid : ∀ rule ∈ rules, rule.action = some "policy" → rule.policyValue.isSome) :
    env.ruleOutcome rules task profile policy chain =
      ⟨(env.applyBlocks rules chain task profile).candidates,
        (env.firstPreference (env.applyBlocks rules chain task profile).candidates task profile
          rules).1,
        (env.firstPreference (env.applyBlocks rules chain task profile).candidates task profile
          rules).2,
        ((rules.reverse.find? (fun rule ↦ rule.isPolicy task profile)).map
          (fun rule ↦ rule.policyValue.getD .eager)).getD policy⟩ := by
  rw [ruleOutcome, ← effectivePolicy_eq_find? task profile policy hvalid,
    ← env.resolvePrefer_eq_find? task profile _ []]

/-- Settled rules decide the same in any order. -/
theorem ruleOutcome_eq_of_perm (h : rules.Perm rules')
    (hvalid : ∀ rule ∈ rules, rule.action = some "policy" → rule.policyValue.isSome)
    (hpolicy : PolicySettled rules) (hprefer : env.PreferSettled rules) :
    env.ruleOutcome rules task profile policy chain =
      env.ruleOutcome rules' task profile policy chain := by
  have hvalid' : ∀ rule ∈ rules', rule.action = some "policy" → rule.policyValue.isSome :=
    fun rule hrule ↦ hvalid rule (h.mem_iff.mpr hrule)
  have hpref := map_find?_eq_of_perm (f := env.preferenceOf) h
    fun rule hrule rule' hrule' hfires hfires' ↦
      hprefer task profile rule hrule rule' hrule'
        (env.servable_of_fires task profile chain hfires)
        (env.servable_of_fires task profile chain hfires')
  have hreverse : rules.reverse.Perm rules'.reverse :=
    (List.reverse_perm rules).trans (h.trans (List.reverse_perm rules').symm)
  have hlast := map_find?_eq_of_perm (p := fun rule ↦ rule.isPolicy task profile)
    (f := fun rule : Rule ↦ rule.policyValue.getD .eager) hreverse
      fun rule hrule rule' hrule' hin hin' ↦ by
        rw [hpolicy task profile rule (List.mem_reverse.mp hrule) rule' (List.mem_reverse.mp hrule')
          hin hin']
  rw [ruleOutcome_eq task profile policy chain hvalid,
    ruleOutcome_eq task profile policy chain hvalid',
    ← env.candidates_perm task profile chain h, firstPreference, firstPreference, hpref, hlast]

variable (h : ∀ rules', rules'.Perm rules → ∀ task profile policy chain,
  env.ruleOutcome rules' task profile policy chain =
    env.ruleOutcome rules task profile policy chain)
  (hvalid : ∀ rule ∈ rules, rule.action = some "policy" → rule.policyValue.isSome)
include h hvalid

/-- Rules that decide the same in any order name one policy. -/
theorem policySettled_of_perm : PolicySettled rules := by
  intro task profile rule hrule rule' hrule' hin hin'
  have hsome : ∀ r ∈ rules, r.isPolicy task profile = true →
      r.policyValue = some (r.policyValue.getD .eager) := by
    intro r hr hr'
    rw [Rule.isPolicy, Bool.and_eq_true, decide_eq_true_eq] at hr'
    obtain ⟨value, hvalue⟩ := Option.isSome_iff_exists.mp (hvalid r hr hr'.1)
    rw [hvalue, Option.getD_some]
  have hsame := eq_of_find?_perm (p := fun rule ↦ rule.isPolicy task profile)
    (f := fun rule : Rule ↦ rule.policyValue.getD .eager) (l := rules.reverse) (c := .eager)
    (fun l' hl' ↦ by
      have hperm : l'.reverse.Perm rules :=
        (List.reverse_perm l').trans (hl'.trans (List.reverse_perm rules))
      have houtcome := congrArg RuleOutcome.policy (h _ hperm task profile .eager [])
      rw [ruleOutcome_eq task profile .eager [] hvalid, ruleOutcome_eq task profile .eager []
        (fun r hr ↦ hvalid r (hperm.mem_iff.mp hr)), List.reverse_reverse] at houtcome
      exact houtcome)
    (List.mem_reverse.mpr hrule) (List.mem_reverse.mpr hrule') hin hin'
  rw [hsome rule hrule hin, hsome rule' hrule' hin']
  exact congrArg some hsame

/-- Rules that decide the same in any order ask for one model and provider. -/
theorem preferSettled_of_perm : env.PreferSettled rules := by
  rintro task profile rule hrule rule' hrule' ⟨hprefer, s, hserves, hs⟩
    ⟨hprefer', s', hserves', hs'⟩
  have hcandidates : (env.applyBlocks rules [s, s'] task profile).candidates = [s, s'] := by
    rw [candidates_applyBlocks]
    simp [hs, hs']
  refine eq_of_find?_perm (p := env.fires [s, s'] task profile) (f := env.preferenceOf)
    (c := (none, none)) (fun l' hl' ↦ ?_) hrule hrule'
    (by simp [fires, hprefer, hserves]) (by simp [fires, hprefer', hserves'])
  have houtcome := h l' hl' task profile .eager [s, s']
  rw [ruleOutcome_eq task profile .eager [s, s'] hvalid, ruleOutcome_eq task profile .eager [s, s']
    (fun r hr ↦ hvalid r (hl'.mem_iff.mp hr)), env.candidates_perm task profile [s, s'] hl',
    hcandidates] at houtcome
  exact Prod.ext (congrArg RuleOutcome.target houtcome) (congrArg RuleOutcome.provider houtcome)

end RouterEnv

/-- The order of an accepted list decides nothing exactly when the policy rules in force agree on
the policy, and the prefer rules in force that can be served on the model and the provider. -/
theorem ruleOutcome_perm_iff {str : Json → String} {float : Json → Option PyFloat} (env : RouterEnv)
    {docs : List Json} {rules : List Rule}
    (haccepted : validateRoutingRules str float (.arr docs) = none)
    (hread : docs.mapM (Rule.ofJson float) = some rules) :
    (∀ rules', rules'.Perm rules → ∀ task profile policy chain,
        env.ruleOutcome rules' task profile policy chain =
          env.ruleOutcome rules task profile policy chain) ↔
      PolicySettled rules ∧ env.PreferSettled rules := by
  have hvalid : ∀ rule ∈ rules, rule.action = some "policy" → rule.policyValue.isSome :=
    fun rule hrule haction ↦ isSome_policyValue haccepted hread hrule haction
  constructor
  · intro h
    exact ⟨RouterEnv.policySettled_of_perm h hvalid, RouterEnv.preferSettled_of_perm h hvalid⟩
  · rintro ⟨hpolicy, hprefer⟩ rules' hperm task profile policy chain
    exact (RouterEnv.ruleOutcome_eq_of_perm task profile policy chain hperm.symm hvalid hpolicy
      hprefer).symm

/-- A stored rule that prefers a model for an intent of a profile. -/
def preferDoc (task model : String) : Json :=
  .obj [("task", .str task), ("profile", .str "l2"), ("action", .str "prefer"),
    ("model", .str model)]

/-- The text of a value that is one. -/
def plainText (v : Json) : String := v.text?.getD ""

/-- Rules for two intents. -/
theorem ruleOutcome_perm_two_intents :
    let docs := [preferDoc "planning" "deepseek-v4-pro", preferDoc "debugging" "deepseek-v4-flash"]
    let rules := [⟨some "prefer", true, .value "l2", .value (.one "planning"), none,
        some "deepseek-v4-pro", none, none⟩,
      ⟨some "prefer", true, .value "l2", .value (.one "debugging"), none,
        some "deepseek-v4-flash", none, none⟩]
    validateRoutingRules plainText Json.number? (.arr docs) = none ∧
      docs.mapM (Rule.ofJson Json.number?) = some rules ∧
      ((∀ rules', rules'.Perm rules → ∀ task profile policy chain,
          (plainEnv Dict.empty).ruleOutcome rules' task profile policy chain =
            (plainEnv Dict.empty).ruleOutcome rules task profile policy chain) ↔
        PolicySettled rules ∧ (plainEnv Dict.empty).PreferSettled rules) := by
  intro docs rules
  have haccepted : validateRoutingRules plainText Json.number? (.arr docs) = none := by
    decide +kernel
  have hread : docs.mapM (Rule.ofJson Json.number?) = some rules := by decide +kernel
  exact ⟨haccepted, hread, ruleOutcome_perm_iff (plainEnv Dict.empty) haccepted hread⟩

/-- A rule for every intent next to one for `planning` is accepted, and of the two the first one
decides the model of a planning request. -/
theorem accepted_order_decides :
    let docs := [preferDoc "*" "deepseek-v4-pro", preferDoc "planning" "deepseek-v4-flash"]
    let rules := [⟨some "prefer", true, .value "l2", .value (.one "*"), none,
        some "deepseek-v4-pro", none, none⟩,
      ⟨some "prefer", true, .value "l2", .value (.one "planning"), none,
        some "deepseek-v4-flash", none, none⟩]
    let chain := [⟨"deepseek", "deepseek-v4-pro", none⟩, ⟨"opencode", "deepseek-v4-flash", none⟩]
    let outcome := fun rules ↦
      (plainEnv Dict.empty).ruleOutcome rules "planning" "l2" .eager chain
    validateRoutingRules plainText Json.number? (.arr docs) = none ∧
      docs.mapM (Rule.ofJson Json.number?) = some rules ∧ rules.reverse.Perm rules ∧
      (outcome rules).target = some "deepseek-v4-pro" ∧
      (outcome rules.reverse).target = some "deepseek-v4-flash" := by
  intro docs rules chain outcome
  exact ⟨by decide +kernel, by decide +kernel, List.reverse_perm rules, by decide +kernel,
    by decide +kernel⟩

end LcpGateway.Router
