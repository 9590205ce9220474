import LcpGateway.Accounting.Usage

/-!
# Recording a completion

Library `Accounting`. Source `src/api/request_pipeline.py:1050–1105` and the columns of
`src/api/models.py:30–48`. Cost calculation and the insert run inside one guarded block of the
handler, so a completion is recorded exactly when neither of them raises.
-/

namespace LcpGateway.Accounting
open LcpGateway.Base LcpGateway.Config

/-- A row of `requests`. -/
structure RequestRow where
  profile : String
  model : String
  provider : String
  promptTokens : Json
  completionTokens : Json
  cacheHitTokens : Json
  cacheMissTokens : Json
  cost : PyFloat
  success : Bool
  errorType : Option String
  errorDetail : Option String
  toolsBlocked : Option String

/-- SQLite takes the value: no list or object, and an integer of 64 bits. -/
def storable : Json → Bool
  | .arr _ => false
  | .obj _ => false
  | .int i => -2 ^ 63 ≤ i && i < 2 ^ 63
  | _ => true

/-- The value of a JSON string. -/
def strValue : Json → Option String
  | .str s => some s
  | _ => none

/-- `",".join(tools_blocked) if tools_blocked else None`. -/
def joinBlocked (toolsBlocked : List Json) : Option (Option String) :=
  if toolsBlocked = [] then some none
  else (toolsBlocked.mapM strValue).map (fun names ↦ some (",".intercalate names))

/-- The insert of `record_cost`; `request_pipeline.py:1050–1080`. -/
def recordCost (profile model provider : String) (info : CostInfo) (success : Bool)
    (errorType : Option String) (toolsBlocked : List Json) (errorDetail : Option String) :
    Option RequestRow := do
  let blocked ← joinBlocked toolsBlocked
  let row : RequestRow :=
    { profile, model, provider
      promptTokens := info.promptTokens
      completionTokens := info.completionTokens
      cacheHitTokens := .int info.cacheHitTokens
      cacheMissTokens := info.cacheMissTokens
      cost := info.cost
      success, errorType, errorDetail
      toolsBlocked := blocked }
  if storable row.promptTokens && storable row.completionTokens &&
      storable row.cacheHitTokens && storable row.cacheMissTokens
  then some row else none

/-- The guarded accounting of a completion; `handler.py:629–645`. -/
def account (cfg : GatewayConfig) (book : PriceBook) (ts : BillingTime)
    (profile provider model : String) (usage : Json) (toolsBlocked : List Json) :
    Option RequestRow := do
  let info ← calculateCost cfg book ts provider model usage
  recordCost profile model provider info true none toolsBlocked none

/-! ### When nothing raises -/

/-- What the first cache field that holds an amount holds. -/
def firstCount (usage : Json) (fields : List String) : Option Converted :=
  (fields.map (fun field ↦ (readPath usage (splitPath field)).toInt)).find? (· ≠ .refused)

/-- The cache loop reads the first field that holds an amount. -/
theorem readCacheHits_eq (usage : Json) (fields : List String) :
    readCacheHits usage fields =
      match firstCount usage fields with
      | none => some 0
      | some (.value i) => some (max 0 i)
      | some _ => none := by
  induction fields with
  | nil => rfl
  | cons field rest ih =>
    unfold readCacheHits firstCount
    rw [List.map_cons]
    cases hfield : (readPath usage (splitPath field)).toInt with
    | value i => simp
    | overflow => simp
    | refused =>
      rw [List.find?_cons_of_neg (by simp)]
      exact ih

/-- The three rates of a row are numbers. -/
structure RatesReadable (rates : PriceRow) : Prop where
  cacheHit : (rateOf rates "cache_hit").isSome
  cacheMiss : (rateOf rates "cache_miss").isSome
  output : (rateOf rates "output").isSome

/-- The arithmetic goes through exactly on numbers. -/
theorem tokenCost_isSome_iff (rates : PriceRow) (hit : Int) (miss output : Json) :
    (tokenCost rates hit miss output).isSome ↔
      RatesReadable rates ∧ miss.number?.isSome ∧ output.number?.isSome := by
  have hfields : RatesReadable rates ↔ (rateOf rates "cache_hit").isSome ∧
      (rateOf rates "cache_miss").isSome ∧ (rateOf rates "output").isSome :=
    ⟨fun h ↦ ⟨h.cacheHit, h.cacheMiss, h.output⟩, fun ⟨h₁, h₂, h₃⟩ ↦ ⟨h₁, h₂, h₃⟩⟩
  rw [hfields, tokenCost]
  cases rateOf rates "cache_hit" <;> cases rateOf rates "cache_miss" <;>
    cases rateOf rates "output" <;> cases miss.number? <;> cases output.number? <;> simp

/-- Where a row prices the completion its rates and both counts are numbers. -/
def Priceable (cfg : GatewayConfig) (book : PriceBook) (ts : BillingTime)
    (provider model : String) (miss output : Json) : Prop :=
  ∀ row, book.formulaRow cfg provider model = some row →
    RatesReadable (selectRates row ts) ∧ miss.number?.isSome ∧ output.number?.isSome

private theorem plugin_miss_number {prompt : Json} (miss : Json) (hit : Int)
    (hprompt : prompt.number?.isSome) :
    (if hit = 0 ∧ miss.number? = some (.fin 0) then prompt else miss).number?.isSome ↔
      miss.number?.isSome := by
  split
  · next h => simp [hprompt, h.2]
  · rfl

/-- A configured price is worked out exactly when its arithmetic goes through. -/
theorem configCost_isSome_iff (pricing : Option PriceRow) (ts : BillingTime) (hit : Int)
    (miss output : Json) :
    (configCost pricing ts hit miss output).isSome ↔ ∀ row, pricing = some row →
      RatesReadable (selectRates row ts) ∧ miss.number?.isSome ∧ output.number?.isSome := by
  cases pricing with
  | none => simp [configCost]
  | some row =>
    simp only [configCost, Option.isSome_map, Option.some.injEq, forall_eq']
    exact tokenCost_isSome_iff (selectRates row ts) hit miss output

/-- A completion gets a price or a zero exactly when its arithmetic goes through. -/
theorem price_isSome_iff (cfg : GatewayConfig) (book : PriceBook) (ts : BillingTime)
    (provider model : String) (prompt output : Json) (hit : Int) (miss : Json)
    (hprompt : prompt.number?.isSome) :
    (book.price cfg ts provider model prompt output hit miss).isSome ↔
      Priceable cfg book ts provider model miss output := by
  unfold PriceBook.price PriceBook.pluginCost Priceable PriceBook.formulaRow
  cases book.plugins.lookup provider with
  | none =>
    simp only [Option.bind_eq_bind, Option.bind_some]
    exact configCost_isSome_iff _ ts hit miss output
  | some plugin =>
    cases plugin with
    | free => simp [CostPlugin.calculateCost]
    | table freeOnes tableName pricing =>
      simp only [CostPlugin.calculateCost]
      by_cases hfree : model ∈ freeOnes
      · simp [hfree]
      · simp only [hfree, if_false]
        cases pricing.lookup (tableName model) with
        | none =>
          simp only [Option.bind_eq_bind, Option.bind_some, Option.none_or]
          exact configCost_isSome_iff _ ts hit miss output
        | some row =>
          simp only [Option.some_or, Option.some.injEq, forall_eq']
          rw [← plugin_miss_number miss hit hprompt,
            ← tokenCost_isSome_iff (selectRates row ts) hit]
          cases tokenCost (selectRates row ts) hit
            (if hit = 0 ∧ miss.number? = some (.fin 0) then prompt else miss) output <;> simp

/-- A default miss count is a number that can be stored when the prompt count is one. -/
theorem missDefault_eq_some {prompt : Json} {hit : Int} {p : PyFloat} (hp : prompt.number? = some p)
    (hhit : 0 ≤ hit) :
    ∃ fallback, missDefault prompt hit = some fallback ∧ fallback.number?.isSome ∧
      (storable prompt → storable fallback) := by
  refine ⟨if p.gtInt hit then prompt.subInt hit else .int 0, by rw [missDefault, hp]; rfl, ?_⟩
  split
  · next hgt =>
    cases prompt with
    | bool b =>
      obtain rfl : p = .fin (if b then 1 else 0) := by simpa [Json.number?] using hp.symm
      refine ⟨rfl, fun _ ↦ ?_⟩
      cases b
      · simp [PyFloat.gtInt] at hgt
        omega
      · have hlt : hit < 1 := by simpa [PyFloat.gtInt, ← Int.cast_lt (R := Rat)] using hgt
        simp [Json.subInt, storable]
        omega
    | int n =>
      obtain rfl : p = .fin n := by simpa [Json.number?] using hp.symm
      refine ⟨rfl, fun hstore ↦ ?_⟩
      simp [Json.subInt, storable, PyFloat.gtInt] at hgt hstore ⊢
      omega
    | float x => exact ⟨rfl, fun _ ↦ rfl⟩
    | null | str | arr | obj => simp [Json.number?] at hp
  · exact ⟨rfl, fun _ ↦ by simp [storable]⟩

/-- A usage block the accounting goes through on. -/
structure Accountable (cfg : GatewayConfig) (book : PriceBook) (ts : BillingTime)
    (provider model : String) (usage : Json) (toolsBlocked : List Json) : Prop where
  object : usage.isObj
  prompt : (tokenField usage "prompt_tokens").number?.isSome
  promptFits : storable (tokenField usage "prompt_tokens")
  completionFits : storable (tokenField usage "completion_tokens")
  missFits : ∀ miss, usage.get? "prompt_cache_miss_tokens" = some miss → storable miss
  cacheCount : ∀ count, firstCount usage (book.cacheFields provider) = some count →
    ∃ i, count = .value i ∧ i < 2 ^ 63
  price : ∀ row, book.formulaRow cfg provider model = some row →
    RatesReadable (selectRates row ts) ∧
      (∀ miss, usage.get? "prompt_cache_miss_tokens" = some miss → miss.number?.isSome) ∧
      (tokenField usage "completion_tokens").number?.isSome
  tools : ∀ name ∈ toolsBlocked, (strValue name).isSome

/-- The insert goes through exactly on values SQLite takes and names that are strings. -/
theorem recordCost_isSome_iff (profile model provider : String) (info : CostInfo)
    (success : Bool) (errorType : Option String) (toolsBlocked : List Json)
    (errorDetail : Option String) :
    (recordCost profile model provider info success errorType toolsBlocked errorDetail).isSome ↔
      (∀ name ∈ toolsBlocked, (strValue name).isSome) ∧
        (storable info.promptTokens ∧ storable info.completionTokens ∧
          storable (.int info.cacheHitTokens) ∧ storable info.cacheMissTokens) := by
  have hjoin : (joinBlocked toolsBlocked).isSome ↔
      ∀ name ∈ toolsBlocked, (strValue name).isSome := by
    unfold joinBlocked
    split
    · next h => simp [h]
    · rw [Option.isSome_map, isSome_mapM_iff]
  rw [← hjoin, recordCost]
  cases joinBlocked toolsBlocked with
  | none => simp
  | some blocked => simp [and_assoc]

/-- A cache count is never negative. -/
theorem readCacheHits_nonneg {usage : Json} {fields : List String} {hit : Int}
    (h : readCacheHits usage fields = some hit) : 0 ≤ hit := by
  rw [readCacheHits_eq] at h
  split at h
  · exact le_of_eq (Option.some.inj h)
  · exact (Option.some.inj h) ▸ le_max_left 0 _
  · simp at h

/-- The cache count is read and fits its column. -/
theorem cacheCount_iff (usage : Json) (fields : List String) :
    (∃ hit, readCacheHits usage fields = some hit ∧ storable (.int hit)) ↔
      ∀ count, firstCount usage fields = some count → ∃ i, count = .value i ∧ i < 2 ^ 63 := by
  rw [readCacheHits_eq]
  cases firstCount usage fields with
  | none => simp [storable]
  | some count =>
    cases count with
    | value i => simp [storable]
    | refused | overflow => simp

private theorem getD_iff {p : Json → Prop} {field : Option Json} {fallback : Json}
    (h : p fallback) : p (field.getD fallback) ↔ ∀ v, field = some v → p v := by
  cases field <;> simp [h]

/-- A completion gets its row exactly when its usage block can be accounted for. -/
theorem account_isSome_iff (cfg : GatewayConfig) (book : PriceBook) (ts : BillingTime)
    (profile provider model : String) (usage : Json) (toolsBlocked : List Json) :
    (account cfg book ts profile provider model usage toolsBlocked).isSome ↔
      Accountable cfg book ts provider model usage toolsBlocked := by
  have hcount := cacheCount_iff usage (book.cacheFields provider)
  unfold account calculateCost
  by_cases hobj : usage.isObj
  case neg =>
    constructor
    · intro h
      simp [hobj] at h
    · intro h
      exact absurd h.object hobj
  simp only [hobj, Bool.not_true, Bool.false_eq_true, if_false]
  cases hhits : readCacheHits usage (book.cacheFields provider) with
  | none =>
    constructor
    · intro h
      simp at h
    · intro h
      obtain ⟨hit, hread, _⟩ := hcount.mpr h.cacheCount
      simp [hhits] at hread
  | some hit =>
    have hbound : storable (.int hit) ↔
        ∀ count, firstCount usage (book.cacheFields provider) = some count →
          ∃ i, count = .value i ∧ i < 2 ^ 63 := by
      rw [← hcount, hhits]
      simp
    cases hprompt : (tokenField usage "prompt_tokens").number? with
    | none =>
      constructor
      · intro h
        simp [missDefault, hprompt] at h
      · intro h
        simpa [hprompt] using h.prompt
    | some p =>
      obtain ⟨fallback, hfallback, hnumber, hfits⟩ :=
        missDefault_eq_some hprompt (readCacheHits_nonneg hhits)
      have hprice := price_isSome_iff cfg book ts provider model
        (tokenField usage "prompt_tokens") (tokenField usage "completion_tokens") hit
        ((usage.get? "prompt_cache_miss_tokens").getD fallback) (by simp [hprompt])
      -- the default miss count is a number, so only a reported one can fail
      simp only [Priceable, getD_iff (p := fun v ↦ v.number?.isSome) hnumber] at hprice
      simp only [hfallback, Option.bind_eq_bind, Option.bind_some]
      cases hcost : book.price cfg ts provider model (tokenField usage "prompt_tokens")
          (tokenField usage "completion_tokens") hit
          ((usage.get? "prompt_cache_miss_tokens").getD fallback) with
      | none =>
        rw [hcost] at hprice
        constructor
        · intro h
          simp at h
        · intro h
          simpa using hprice.mpr h.price
      | some priced =>
        rw [hcost] at hprice
        simp only [Option.bind_some, pure, recordCost_isSome_iff]
        constructor
        · rintro ⟨htools, hp, ho, hh, hm⟩
          have hmiss := (getD_iff (p := fun v ↦ storable v = true) (hfits hp)).mp hm
          exact ⟨hobj, by simp [hprompt], hp, ho, hmiss, hbound.mp hh, hprice.mp rfl, htools⟩
        · intro h
          refine ⟨h.tools, h.promptFits, h.completionFits, hbound.mpr h.cacheCount, ?_⟩
          exact (getD_iff (p := fun v ↦ storable v = true) (hfits h.promptFits)).mpr h.missFits

end LcpGateway.Accounting
