import LcpGateway.Pipeline.TryChain

/-!
# Who reads the limits of a model

Library `Server`. Sources `src/server/endpoints.py:690–765`, `src/api/request_pipeline.py:877–888`
and `src/api/config.py:673–685`. Limits declared under the logical or the benchmark name are meant
for every spelling of a model. The vision gate and the models listing read the table under the
step's own spelling.
-/

namespace LcpGateway.Server
open LcpGateway.Base LcpGateway.Chat LcpGateway.Config LcpGateway.Pipeline

/-! ## The listing -/

/-- A number as Python compares it. -/
def numberOf : Json → Option PyFloat
  | .bool b => some (.fin (if b then 1 else 0))
  | .int i => some (.fin i)
  | .float x => some x
  | _ => none

/-- `x > y` on floats. -/
def floatGt : PyFloat → PyFloat → Bool
  | .fin x, .fin y => y < x
  | .inf false, .fin _ => true
  | .fin _, .inf true => true
  | .inf false, .inf true => true
  | _, _ => false

/-- `ctx > max_context`; a value that is no number raises. -/
def exceeds (ctx largest : Json) : Option Bool :=
  (numberOf ctx).bind fun x ↦ (numberOf largest).map fun y ↦ floatGt x y

/-- `limits.get("context_window", 128000)`. -/
def contextWindow (limits : Limits) : Json := (limits.lookup "context_window").getD (.int 128000)

/-- `limits.get("supports_vision", False)`, when it is truthy. -/
def vision (limits : Limits) : Bool := (limits.lookup "supports_vision").any Json.truthy

/-- What the loop over the steps of a profile has collected. -/
structure ProfileEntry where
  providers : List (String × String × Json)
  maxContext : Json
  supportsVision : Bool
  description : Json

/-- The entry before the first step. -/
def ProfileEntry.start : ProfileEntry := ⟨[], .int 0, false, .str ""⟩

/-- One step of a profile, with the limits found for its model; `endpoints.py:736–752`. -/
def listStep (limits : String → Limits) (entry : ProfileEntry) (step : Step) :
    Option ProfileEntry :=
  let found := limits step.model
  let ctx := contextWindow found
  (exceeds ctx entry.maxContext).map fun larger ↦
    { providers := entry.providers ++ [(step.provider, step.model, ctx)],
      maxContext := if larger then ctx else entry.maxContext,
      supportsVision := entry.supportsVision || vision found,
      description := if entry.description.truthy then entry.description
        else ((found.lookup "description").filter Json.truthy).getD entry.description }

/-- The entry of a profile; `none` when a window is no number. -/
def listProfile (limits : String → Limits) (chain : List Step) : Option ProfileEntry :=
  chain.foldlM (listStep limits) .start

namespace ProfileEntry

/-- The context and the vision values of an entry. -/
def advertised (entry : ProfileEntry) : List (String × String × Json) × Json × Bool :=
  (entry.providers, entry.maxContext, entry.supportsVision)

end ProfileEntry

variable (cfg : GatewayConfig)

/-- `model_limits.get(mid, {})`. -/
def literalLimits (model : String) : Limits := (cfg.modelLimits.get? model).getD []

/-- `get_model_limits(mid) or {}`. -/
def resolvedLimits (model : String) : Limits := (cfg.getModelLimits model).getD []

/-- The entry of a profile in the listing; `_serve_models`. -/
def servedEntry (chain : List Step) : Option ProfileEntry := listProfile (literalLimits cfg) chain

/-! ## Agreement -/

/-- The readers take for a step what `get_model_limits` gives for its model. -/
structure ReadersAgree (step : Step) : Prop where
  gate : ∀ body : Body, hasImageContent body.messageList = true →
    supportsContent cfg body step = vision (resolvedLimits cfg step.model)
  listed : (servedEntry cfg [step]).map ProfileEntry.advertised =
    (listProfile (resolvedLimits cfg) [step]).map ProfileEntry.advertised

/-- The limits are declared under the step's own spelling, or what is declared under the canonical
names is what goes without saying: no vision and the default window. -/
def DeclaredLiterally (step : Step) : Prop :=
  (cfg.limitsEntry step.model).isSome = true ∨
    ∀ entry, (cfg.canonicalNames step.model).findSome? cfg.limitsEntry = some entry →
      vision entry = false ∧ contextWindow entry = .int 128000

variable {cfg}

/-- An own entry is found by both lookups. -/
theorem literalLimits_of_own {model : String} (h : (cfg.limitsEntry model).isSome = true) :
    literalLimits cfg model = resolvedLimits cfg model := by
  obtain ⟨entry, hentry⟩ := Option.isSome_iff_exists.mp h
  have hget : cfg.modelLimits.get? model = some entry := (Option.filter_eq_some_iff.mp hentry).1
  rw [literalLimits, hget, resolvedLimits, GatewayConfig.getModelLimits, List.findSome?_cons,
    hentry]

/-- Without an own entry the literal lookup finds nothing, and the other one goes on. -/
theorem limits_of_no_own {model : String} (h : cfg.limitsEntry model = none) :
    literalLimits cfg model = [] ∧
      resolvedLimits cfg model =
        ((cfg.canonicalNames model).findSome? cfg.limitsEntry).getD [] := by
  constructor
  · unfold literalLimits
    cases hget : cfg.modelLimits.get? model with
    | none => rfl
    | some entry =>
      have hempty : entry = [] := by
        simpa [GatewayConfig.limitsEntry, hget, Option.filter] using h
      simp [hempty]
  · rw [resolvedLimits, GatewayConfig.getModelLimits, List.findSome?_cons, h]

/-- The values are the same when limits are declared literally. -/
theorem values_eq_iff (step : Step) :
    (vision (literalLimits cfg step.model) = vision (resolvedLimits cfg step.model) ∧
        contextWindow (literalLimits cfg step.model) =
          contextWindow (resolvedLimits cfg step.model)) ↔
      DeclaredLiterally cfg step := by
  unfold DeclaredLiterally
  cases hown : cfg.limitsEntry step.model with
  | some entry =>
    have hsome : (cfg.limitsEntry step.model).isSome = true := by rw [hown]; rfl
    rw [literalLimits_of_own hsome]
    simp
  | none =>
    obtain ⟨hliteral, hresolved⟩ := limits_of_no_own hown
    rw [hliteral, hresolved]
    cases (cfg.canonicalNames step.model).findSome? cfg.limitsEntry with
    | none => simp
    | some entry =>
      have hvision : vision [] = false := rfl
      have hcontext : contextWindow [] = .int 128000 := rfl
      rw [hvision, hcontext, Option.getD_some]
      constructor
      · rintro ⟨hv, hc⟩
        right
        intro other hother
        obtain rfl : entry = other := Option.some.inj hother
        exact ⟨hv.symm, hc.symm⟩
      · rintro (hsome | h)
        · cases hsome
        · obtain ⟨hv, hc⟩ := h entry rfl
          exact ⟨hv.symm, hc.symm⟩

/-- One step of the listing sees the window and the vision of a model only. -/
theorem listStep_congr {f g : String → Limits} {step : Step} {e e' : ProfileEntry}
    (hvision : vision (f step.model) = vision (g step.model))
    (hcontext : contextWindow (f step.model) = contextWindow (g step.model))
    (he : e.advertised = e'.advertised) :
    (listStep f e step).map ProfileEntry.advertised =
      (listStep g e' step).map ProfileEntry.advertised := by
  simp only [ProfileEntry.advertised, Prod.mk.injEq] at he
  obtain ⟨hproviders, hmax, hsupports⟩ := he
  simp only [listStep, hvision, hcontext, hmax, Option.map_map]
  cases exceeds (contextWindow (g step.model)) e'.maxContext with
  | none => rfl
  | some larger => simp [ProfileEntry.advertised, hproviders, hsupports]

/-- So does the listing of a profile. -/
theorem listProfile_congr {f g : String → Limits} {chain : List Step}
    (h : ∀ step ∈ chain, vision (f step.model) = vision (g step.model) ∧
      contextWindow (f step.model) = contextWindow (g step.model)) :
    (listProfile f chain).map ProfileEntry.advertised =
      (listProfile g chain).map ProfileEntry.advertised := by
  have hrun : ∀ (chain : List Step) (e e' : ProfileEntry),
      (∀ step ∈ chain, vision (f step.model) = vision (g step.model) ∧
        contextWindow (f step.model) = contextWindow (g step.model)) →
      e.advertised = e'.advertised →
      (chain.foldlM (listStep f) e).map ProfileEntry.advertised =
        (chain.foldlM (listStep g) e').map ProfileEntry.advertised := by
    intro chain
    induction chain with
    | nil =>
      intro e e' _ he
      simp [he]
    | cons step rest ih =>
      intro e e' h he
      have hhead := h step List.mem_cons_self
      have hstep := listStep_congr hhead.1 hhead.2 he
      rw [List.foldlM_cons, List.foldlM_cons]
      cases hf : listStep f e step with
      | none =>
        rw [hf, Option.map_none, eq_comm, Option.map_eq_none_iff] at hstep
        rw [hstep]
        rfl
      | some next =>
        rw [hf, Option.map_some, eq_comm, Option.map_eq_some_iff] at hstep
        obtain ⟨next', hg, hnext⟩ := hstep
        rw [hg]
        exact ih next next' (fun s hs ↦ h s (List.mem_cons_of_mem _ hs)) hnext.symm
  exact hrun chain .start .start h rfl

/-- The listing of one step shows its window and its vision. -/
theorem listProfile_singleton (f : String → Limits) (step : Step) :
    (listProfile f [step]).map ProfileEntry.advertised =
      (exceeds (contextWindow (f step.model)) (.int 0)).map fun larger ↦
        ([(step.provider, step.model, contextWindow (f step.model))],
          if larger then contextWindow (f step.model) else .int 0, vision (f step.model)) := by
  simp only [listProfile, List.foldlM_cons, List.foldlM_nil, listStep, ProfileEntry.start,
    List.nil_append, Bool.false_or]
  cases exceeds (contextWindow (f step.model)) (.int 0) <;> rfl

/-- A body with an image. -/
def imageBody : Body where
  model := none
  messages := some [⟨.value "user", some (.arr [.obj [("type", .str "image_url")]]), .absent,
    .absent, .absent, .absent⟩]
  tools := .absent
  stream := false

/-- The readers agree with `get_model_limits` exactly on literally declared limits. -/
theorem readersAgree_iff (step : Step) :
    ReadersAgree cfg step ↔ DeclaredLiterally cfg step := by
  rw [← values_eq_iff]
  constructor
  · intro h
    have hvision : vision (literalLimits cfg step.model) =
        vision (resolvedLimits cfg step.model) := by
      have hgate := h.gate imageBody rfl
      rwa [supportsContent] at hgate
    refine ⟨hvision, ?_⟩
    cases hown : cfg.limitsEntry step.model with
    | some entry =>
      have hsome : (cfg.limitsEntry step.model).isSome = true := by rw [hown]; rfl
      rw [literalLimits_of_own hsome]
    | none =>
      have hlisted := h.listed
      rw [servedEntry, listProfile_singleton, listProfile_singleton,
        (limits_of_no_own hown).1] at hlisted
      have hdefault : exceeds (contextWindow []) (.int 0) = some true := by decide
      rw [hdefault, Option.map_some, eq_comm, Option.map_eq_some_iff] at hlisted
      obtain ⟨larger, -, heq⟩ := hlisted
      simp only [Prod.mk.injEq, List.cons.injEq, true_and, and_true] at heq
      rw [(limits_of_no_own hown).1, heq.1]
  · rintro ⟨hvision, hcontext⟩
    constructor
    · intro body himage
      rw [← hvision]
      simp only [supportsContent, himage, Bool.not_true, Bool.false_or]
      rfl
    · apply listProfile_congr
      intro other hother
      obtain rfl := List.mem_singleton.mp hother
      exact ⟨hvision, hcontext⟩

/-- `get_model_limits` depends on the logical name of a model, its own entry apart. -/
theorem getModelLimits_eq_of_logical {model model' : String}
    (hlogical : cfg.registry.logicalModelName model = cfg.registry.logicalModelName model')
    (h : cfg.limitsEntry model = none) (h' : cfg.limitsEntry model' = none) :
    cfg.getModelLimits model = cfg.getModelLimits model' := by
  have hcanonical : cfg.canonicalNames model = cfg.canonicalNames model' := by
    simp only [GatewayConfig.canonicalNames, hlogical]
  rw [GatewayConfig.getModelLimits, GatewayConfig.getModelLimits, List.findSome?_cons,
    List.findSome?_cons, h, h', hcanonical]

/-- The readers agree with `get_model_limits` exactly where limits are declared literally; a profile
of such steps is listed with its limits; and spellings of one model share what is declared under
its names. -/
theorem limitReaders_iff (cfg : GatewayConfig) :
    (∀ step, ReadersAgree cfg step ↔ DeclaredLiterally cfg step) ∧
      (∀ chain : List Step, (∀ step ∈ chain, DeclaredLiterally cfg step) →
        (servedEntry cfg chain).map ProfileEntry.advertised =
          (listProfile (resolvedLimits cfg) chain).map ProfileEntry.advertised) ∧
      ∀ model model',
        cfg.registry.logicalModelName model = cfg.registry.logicalModelName model' →
        cfg.limitsEntry model = none → cfg.limitsEntry model' = none →
          cfg.getModelLimits model = cfg.getModelLimits model' := by
  refine ⟨readersAgree_iff, fun chain h ↦ ?_, fun model model' ↦ getModelLimits_eq_of_logical⟩
  apply listProfile_congr
  intro step hmem
  exact (values_eq_iff step).mpr (h step hmem)

/-- Limits declared under the logical name of a model that a provider spells with a prefix. -/
def prefixedConfig : GatewayConfig where
  apiBase := Dict.empty
  modelLimits := Dict.empty.set "flash"
    [("context_window", .int 64000), ("supports_vision", .bool true)]
  registry := Dict.empty.set "flash" ⟨"flash", Dict.empty.set "opencode" "vendor/flash"⟩
  apiModel := fun _ model ↦ model

/-- The gate turns an image away that `get_model_limits` would let through. -/
theorem not_readersAgree_prefixed :
    ¬ ReadersAgree prefixedConfig ⟨"opencode", "vendor/flash", none⟩ := by
  intro h
  have hgate := h.gate imageBody rfl
  have hliteral : supportsContent prefixedConfig imageBody ⟨"opencode", "vendor/flash", none⟩ =
      false := rfl
  have hresolved : vision (resolvedLimits prefixedConfig "vendor/flash") = true := by
    decide +kernel
  exact nomatch hliteral.symm.trans (hgate.trans hresolved)

end LcpGateway.Server
