import LcpGateway.Server.StatusLines

/-!
# Completions and their rows

Library `Server`. Every reader of the usage block of a full reply, together: verification in
front of the guarded block (`src/server/handler.py:612–614`), cost calculation and the insert
inside it (`:629–645`), the headers behind it (`:649–656`).
-/

namespace LcpGateway.Server
open LcpGateway.Base LcpGateway.Breaker LcpGateway.Chat LcpGateway.Config LcpGateway.Pipeline
  LcpGateway.Accounting

/-- The completion went out with the provider's status, and one row records it. -/
structure Served.Completed (s : Served) (status : Nat) (response : Json)
    (provider model : String) : Prop where
  sent : s.sent.head? = some (.completion status response)
  recorded : ∃ row, s.rows = [row] ∧ row.success = true ∧ row.provider = provider ∧
    row.model = model

/-- The row of a completion names what answered. -/
theorem account_eq_some {cfg : GatewayConfig} {book : PriceBook} {ts : BillingTime}
    {profile provider model : String} {usage : Json} {toolsBlocked : List Json}
    {row : RequestRow}
    (h : account cfg book ts profile provider model usage toolsBlocked = some row) :
    row.success = true ∧ row.provider = provider ∧ row.model = model := by
  unfold account at h
  cases hinfo : calculateCost cfg book ts provider model usage with
  | none => simp [hinfo] at h
  | some info =>
    rw [hinfo] at h
    simp only [Option.bind_eq_bind, Option.bind_some, recordCost] at h
    cases hjoin : joinBlocked toolsBlocked with
    | none => simp [hjoin] at h
    | some blocked =>
      simp only [hjoin, Option.bind_some] at h
      split at h
      · obtain rfl := Option.some.inj h
        exact ⟨rfl, rfl, rfl⟩
      · simp at h

namespace Gateway

variable (gw : Gateway) (env : Surroundings) (a : Admitted)

/-- The full-body branch sends and records a completion exactly when its headers encode and its
usage block can be accounted for. -/
theorem serveFull_completed_iff (messages : List Message) (fields : List (String × Json))
    (status : Nat) (provider model : String) (ops : List Op) (t : Tail)
    (ht : (gw.serveFull env a messages (.obj fields) status provider model).conclude a.profile
      = t) :
    (⟨t.sent, t.rows, ops, none⟩ : Served).Completed status (.obj fields) provider model ↔
      env.headersEncode a.profile ∧
        Accountable gw.cfg gw.book env.billedAt provider model (usageOf fields) a.blockedTools := by
  subst ht
  have hverify := verify_isSome_iff messages (usageOf fields)
  have haccount := account_isSome_iff gw.cfg gw.book env.billedAt a.profile provider model
    (usageOf fields) a.blockedTools
  unfold serveFull
  obtain hv | ⟨verification, hv⟩ := Option.eq_none_or_eq_some (verify messages (usageOf fields))
  · -- the exception of the verifier is answered with an error
    refine ⟨fun h ↦ ?_, fun ⟨_, h⟩ ↦ ?_⟩
    · have hsent := h.sent
      simp [hv, Tail.conclude] at hsent
    · rw [hv] at hverify
      simpa using hverify.mpr ⟨h.object, h.prompt⟩
  · by_cases hheaders : env.headersEncode a.profile
    case neg =>
      refine ⟨fun h ↦ ?_, fun ⟨h, _⟩ ↦ absurd h hheaders⟩
      have hsent := h.sent
      simp [hv, hheaders, Tail.conclude] at hsent
    simp only [hv, hheaders, true_and, ← haccount]
    cases hrow : account gw.cfg gw.book env.billedAt a.profile provider model (usageOf fields)
        a.blockedTools with
    | none =>
      refine ⟨fun h ↦ ?_, fun h ↦ by simp at h⟩
      obtain ⟨row, hrows, _⟩ := h.recorded
      cases htext : extractMessageText fields <;>
        simp [htext, Tail.conclude, Raised.failure] at hrows
    | some row =>
      refine ⟨fun _ ↦ rfl, fun _ ↦ ⟨?_, row, ?_, account_eq_some hrow⟩⟩
      · cases htext : extractMessageText fields <;> simp [Tail.conclude]
      · cases htext : extractMessageText fields <;> simp [Tail.conclude, Raised.failure]

end Gateway

/-- A full JSON object the chain answers with is sent on with its status, and recorded in one
row, exactly when the headers encode and the usage block can be accounted for. -/
theorem completion_recorded_iff (gw : Gateway) (env : Surroundings) (req : ChatRequest)
    (a : Admitted) (w : Walk) (fields : List (String × Json)) (status : Nat)
    (provider model : String) (hreceive : gw.receive req = .admitted a)
    (hfull : a.body.stream = false) (hmiss : env.cached = none) (hcalm : env.trouble = none)
    (hreply : tryChain gw.cfg a.profile a.config.chain env.inject env.router env.fullCalls
      env.breaker a.body = (w, .response (.obj fields) status provider model)) :
    (gw.serveChatCompletions env req).Completed status (.obj fields) provider model ↔
      env.headersEncode a.profile ∧
        Accountable gw.cfg gw.book env.billedAt provider model (usageOf fields)
          a.blockedTools := by
  have hserved : gw.serveChatCompletions env req = gw.exchangeFull env a := by
    simp [Gateway.serveChatCompletions, hreceive, hfull, hmiss, Gateway.exchange, hcalm]
  rw [hserved, Gateway.exchangeFull, hreply]
  exact gw.serveFull_completed_iff env a w.body.messageList fields status provider model _ _ rfl

/-- A usage block of three prompt tokens and one completion token is recorded. -/
theorem completion_recorded_iff_plainUsage :
    (openGateway.serveChatCompletions
        (quietSurroundings ⟨[], .closed⟩ (.obj [("usage", .obj [("prompt_tokens", .int 3),
          ("completion_tokens", .int 1)])])) (helloRequest false)).Completed 200
      (.obj [("usage", .obj [("prompt_tokens", .int 3), ("completion_tokens", .int 1)])])
      "deepseek" "deepseek-v4-pro" := by
  have huse : usageOf [("usage", .obj [("prompt_tokens", .int 3), ("completion_tokens", .int 1)])] =
      .obj [("prompt_tokens", .int 3), ("completion_tokens", .int 1)] := rfl
  refine (completion_recorded_iff openGateway _ (helloRequest false) _ _ _ 200 "deepseek"
    "deepseek-v4-pro" rfl rfl rfl rfl rfl).mpr ⟨rfl, ?_⟩
  have hmiss : (Json.obj [("prompt_tokens", .int 3), ("completion_tokens", .int 1)]).get?
      "prompt_cache_miss_tokens" = none := rfl
  rw [huse]
  refine ⟨rfl, rfl, rfl, rfl, fun miss h ↦ ?_, fun count h ↦ ?_, fun row h ↦ ?_,
    fun name h ↦ ?_⟩
  · simp [hmiss] at h
  · have hnone : firstCount (.obj [("prompt_tokens", .int 3), ("completion_tokens", .int 1)])
        (openGateway.book.cacheFields "deepseek") = none := by decide
    simp [hnone] at h
  · have hrow : openGateway.book.formulaRow openGateway.cfg "deepseek" "deepseek-v4-pro" =
        some v4ProPricing := rfl
    obtain rfl : v4ProPricing = row := Option.some.inj (hrow.symm.trans h)
    exact ⟨⟨rfl, rfl, rfl⟩, fun miss h ↦ by simp [hmiss] at h, rfl⟩
  · simp at h

/-- A `null` usage block is answered with an error, and a `null` completion count loses the row
of a model with a price. -/
theorem completion_failed_by_usage :
    (¬ ∀ fields, (openGateway.serveChatCompletions (quietSurroundings ⟨[], .closed⟩ (.obj fields))
      (helloRequest false)).sent.head? = some (.completion 200 (.obj fields))) ∧
    ¬ ∀ fields, (openGateway.serveChatCompletions (quietSurroundings ⟨[], .closed⟩ (.obj fields))
      (helloRequest false)).rows.length = 1 := by
  constructor
  · intro hall
    have herror : some (Sent.error 500 "LCP-5001") =
        some (.completion 200 (.obj [("usage", .null)])) := hall [("usage", .null)]
    simp at herror
  · intro hall
    have hlost : 0 = 1 := hall [("usage", .obj [("prompt_tokens", .int 3),
      ("completion_tokens", .null)])]
    omega

end LcpGateway.Server
