import LcpGateway.Server.Authentication

/-!
# Status lines and broken streams

Library `Server`. A stream leaves `try_chain` as a lazy reader, after the success of its
provider was recorded and outside every handler of provider errors
(`src/api/request_pipeline.py:971,1004`). The handler therefore answers a request once, and
counts a broken stream, exactly when nothing goes wrong behind the headers of a response.
-/

namespace LcpGateway.Server
open LcpGateway.Base LcpGateway.Breaker LcpGateway.Chat LcpGateway.Config LcpGateway.Pipeline
  LcpGateway.Accounting

namespace Served

/-- Exactly one status line was written. -/
def OneStatusLine (s : Served) : Prop := s.sent.length = 1

/-- A stream that broke while it was read is a failure of its provider and no success. -/
def CountsBrokenStream (s : Served) : Prop :=
  ∀ provider, s.brokenStream = some provider →
    (∃ now k errorType reason, .recordFailure now k errorType reason ∈ s.breakerOps ∧
      k.provider = provider) ∧
    ∀ now k, .recordSuccess now k ∈ s.breakerOps → k.provider ≠ provider

end Served

/-- The client takes the headers, no read the handler makes fails, and the text of what the
client got can be extracted. -/
structure StreamClean (env : Surroundings) (profile : String) (s : Stream) : Prop where
  headers : env.headersEncode profile
  flush : env.client.accepts 0
  reads : s.ending = .closed ∨ ¬ env.client.accepts s.chunks.length
  text : SseShaped env.loads (env.decode (env.client.delivered s.chunks).flatten)

/-- A reply that passes verification has headers that encode and no object for its choices. -/
def ReplyClean (env : Surroundings) (profile : String) (response : Json) : Prop :=
  ∀ fields, response = .obj fields →
    (usageOf fields).isObj → (tokenField (usageOf fields) "prompt_tokens").number?.isSome →
      env.headersEncode profile ∧
        ∀ choices, fields.lookup "choices" = some (.obj choices) → choices = []

/-- The status lines of a tail, its error response included. -/
theorem Tail.length_conclude (profile : String) (t : Tail) :
    (t.conclude profile).sent.length = t.sent.length + if t.raised.isSome then 1 else 0 := by
  unfold Tail.conclude
  cases h : t.raised <;> simp

/-- Verification goes through exactly on an object with a numeric prompt count. -/
theorem verify_isSome_iff (messages : List Message) (usage : Json) :
    (verify messages usage).isSome ↔
      usage.isObj ∧ (tokenField usage "prompt_tokens").number?.isSome := by
  unfold verify
  by_cases h : usage.isObj <;> simp [h]

namespace Gateway

variable (gw : Gateway) (env : Surroundings) (a : Admitted)

/-- The streaming branch writes one status line, ends without an exception and reads its stream
without a failure exactly when the stream is clean. -/
theorem serveStream_clean_iff (s : Stream) (status : Nat) (provider model : String) :
    ((gw.serveStream env a s status provider model).1.raised = none ∧
      (gw.serveStream env a s status provider model).2 = none) ↔
      StreamClean env a.profile s := by
  unfold serveStream
  by_cases hheaders : env.headersEncode a.profile
  case neg => exact ⟨fun h ↦ by simp [hheaders] at h, fun h ↦ absurd h.headers hheaders⟩
  by_cases hflush : env.client.accepts 0
  case neg => exact ⟨fun h ↦ by simp [hflush] at h, fun h ↦ absurd h.flush hflush⟩
  simp only [hheaders, hflush, Bool.not_true, Bool.or_self, Bool.false_eq_true, if_false,
    relay_eq s hflush]
  have htext := extractSseText_isSome_iff env.loads
    (env.decode (env.client.delivered s.chunks).flatten)
  have hclean : StreamClean env a.profile s ↔
      (s.ending = .closed ∨ ¬ env.client.accepts s.chunks.length) ∧
        (extractSseText env.loads (env.decode (env.client.delivered s.chunks).flatten)).isSome :=
    ⟨fun h ↦ ⟨h.reads, htext.mpr h.text⟩, fun h ↦ ⟨hheaders, hflush, h.1, htext.mp h.2⟩⟩
  rw [hclean]
  cases hsse : extractSseText env.loads
      (env.decode (env.client.delivered s.chunks).flatten) with
  | none =>
    by_cases htaken : env.client.accepts s.chunks.length
    · cases hending : s.ending <;> simp [htaken]
    · simp [htaken]
  | some reply =>
    by_cases htaken : env.client.accepts s.chunks.length
    · cases hending : s.ending <;> simp [htaken]
    · simp [htaken]

/-- The streaming branch writes one status line of its own. -/
theorem length_serveStream (s : Stream) (status : Nat) (provider model : String) :
    (gw.serveStream env a s status provider model).1.sent.length = 1 := by
  unfold serveStream
  split
  · rfl
  · dsimp only
    split
    · rfl
    · rfl
    · split <;> rfl

/-- Only the stream of the answering provider can break. -/
theorem serveStream_broken {s : Stream} {status : Nat} {provider model broken : String}
    (h : (gw.serveStream env a s status provider model).2 = some broken) : broken = provider := by
  unfold serveStream at h
  split at h
  · simp at h
  · dsimp only at h
    split at h
    · exact (Option.some.inj h).symm
    · exact (Option.some.inj h).symm
    · split at h <;> split at h <;> simp_all

/-- The full-body branch ends in one status line exactly when the reply is clean. -/
theorem serveFull_clean_iff (messages : List Message) (response : Json) (status : Nat)
    (provider model : String) :
    ((gw.serveFull env a messages response status provider model).conclude a.profile).sent.length
        = 1 ↔ ReplyClean env a.profile response := by
  rw [Tail.length_conclude]
  unfold serveFull ReplyClean
  cases response with
  | obj fields =>
    have hverify := verify_isSome_iff messages (usageOf fields)
    have htext := extractMessageText_isSome_iff fields
    have hreply : (∀ fields', Json.obj fields = .obj fields' → (usageOf fields').isObj →
        (tokenField (usageOf fields') "prompt_tokens").number?.isSome →
          env.headersEncode a.profile ∧
            ∀ choices, fields'.lookup "choices" = some (.obj choices) → choices = []) ↔
        ((verify messages (usageOf fields)).isSome →
          env.headersEncode a.profile ∧ (extractMessageText fields).isSome) := by
      simp only [Json.obj.injEq, forall_eq', hverify, htext, and_imp]
    rw [hreply]
    obtain hv | ⟨verification, hv⟩ := Option.eq_none_or_eq_some (verify messages (usageOf fields))
    · simp [hv]
    · by_cases hheaders : env.headersEncode a.profile
      · obtain ht | ⟨text, ht⟩ := Option.eq_none_or_eq_some (extractMessageText fields)
        · simp [hv, hheaders, ht]
        · simp [hv, hheaders, ht]
      · simp [hv, hheaders]
  | null | bool | int | float | str | arr => simp

/-- A log without a stream keeps the contract when it holds one response. -/
theorem contract_of_length_eq_one {sent : List Sent} (rows : List RequestRow) (ops : List Op)
    (h : sent.length = 1) :
    (⟨sent, rows, ops, none⟩ : Served).OneStatusLine ∧
      (⟨sent, rows, ops, none⟩ : Served).CountsBrokenStream := by
  refine ⟨h, ?_⟩
  intro provider hbroken
  simp at hbroken

/-- A request whose walk does not answer ends in one status line and no broken stream. -/
theorem unanswered_contract {R : Type} (ops : List Op) (result : Result R) :
    (unanswered a ops result).OneStatusLine ∧ (unanswered a ops result).CountsBrokenStream :=
  contract_of_length_eq_one _ ops (Tail.length_conclude a.profile _)

/-- A streamed request keeps the contract exactly when the stream it is answered with is clean. -/
theorem exchangeStream_contract_iff :
    (gw.exchangeStream env a).OneStatusLine ∧ (gw.exchangeStream env a).CountsBrokenStream ↔
      ∀ s status provider model,
        (tryChain gw.cfg a.profile a.config.chain env.inject env.router env.streamCalls
          env.breaker a.body).2 = .response s status provider model →
        StreamClean env a.profile s := by
  unfold exchangeStream
  cases hchain : tryChain gw.cfg a.profile a.config.chain env.inject env.router env.streamCalls
      env.breaker a.body with
  | mk w result =>
    cases result with
    | response s status provider model =>
      obtain ⟨now, k, hsuccess, hk⟩ := recordSuccess_mem_tryChainOps
        (by rw [hchain] : (tryChain gw.cfg a.profile a.config.chain env.inject env.router
          env.streamCalls env.breaker a.body).2 = .response s status provider model)
      have hclean := gw.serveStream_clean_iff env a s status provider model
      have hlength := gw.length_serveStream env a s status provider model
      simp only [Result.response.injEq]
      constructor
      · rintro ⟨hone, hcounts⟩ s' status' provider' model' ⟨rfl, rfl, rfl, rfl⟩
        refine hclean.mp ⟨?_, ?_⟩
        · simpa [Served.OneStatusLine, Tail.length_conclude, hlength] using hone
        · by_contra hbroken
          obtain ⟨broken, hbroken⟩ := Option.ne_none_iff_exists'.mp hbroken
          obtain rfl := gw.serveStream_broken env a hbroken
          exact (hcounts broken hbroken).2 now k hsuccess hk
      · intro h
        obtain ⟨hraised, hbroken⟩ := hclean.mpr (h s status provider model ⟨rfl, rfl, rfl, rfl⟩)
        refine ⟨?_, ?_⟩
        · simp [Served.OneStatusLine, Tail.length_conclude, hlength, hraised]
        · intro broken h
          simp [hbroken] at h
    | rejected | exhausted | indexError => simpa using unanswered_contract a _ _

/-- A request for a full body keeps the contract exactly when its reply is clean. -/
theorem exchangeFull_contract_iff :
    (gw.exchangeFull env a).OneStatusLine ∧ (gw.exchangeFull env a).CountsBrokenStream ↔
      ∀ response status provider model,
        (tryChain gw.cfg a.profile a.config.chain env.inject env.router env.fullCalls
          env.breaker a.body).2 = .response response status provider model →
        ReplyClean env a.profile response := by
  unfold exchangeFull
  cases hchain : tryChain gw.cfg a.profile a.config.chain env.inject env.router env.fullCalls
      env.breaker a.body with
  | mk w result =>
    cases result with
    | response response status provider model =>
      have hclean := gw.serveFull_clean_iff env a w.body.messageList response status provider model
      simp only [Result.response.injEq]
      constructor
      · rintro ⟨hone, _⟩ response' status' provider' model' ⟨rfl, rfl, rfl, rfl⟩
        exact hclean.mp hone
      · intro h
        exact ⟨hclean.mpr (h response status provider model ⟨rfl, rfl, rfl, rfl⟩),
          fun _ h ↦ by simp at h⟩
    | rejected | exhausted | indexError => simpa using unanswered_contract a _ _

/-- Behind the prompt cache the contract is that of the branch the request takes. -/
theorem exchange_contract_iff :
    (gw.exchange env a).OneStatusLine ∧ (gw.exchange env a).CountsBrokenStream ↔
      (env.trouble = none →
        if a.body.stream then (gw.exchangeStream env a).OneStatusLine ∧
          (gw.exchangeStream env a).CountsBrokenStream
        else (gw.exchangeFull env a).OneStatusLine ∧
          (gw.exchangeFull env a).CountsBrokenStream) := by
  unfold exchange
  cases htrouble : env.trouble with
  | none => cases a.body.stream <;> simp
  | some e =>
    simp only [reduceCtorEq, false_implies, iff_true]
    apply contract_of_length_eq_one
    rw [Tail.length_conclude]
    rfl

end Gateway

/-- Nothing goes wrong outside the handler's `try` or behind the headers of a response: the
profile can be read, the key manager answers, a stream is clean, and so is a reply that passes
verification. -/
structure Undisturbed (gw : Gateway) (env : Surroundings) (req : ChatRequest) : Prop where
  profile : gw.ProfileReadable req
  key : gw.KeyAnswered req
  stream : ∀ a, gw.receive req = .admitted a → a.body.stream = true → env.trouble = none →
    ∀ s status provider model,
      (tryChain gw.cfg a.profile a.config.chain env.inject env.router env.streamCalls
        env.breaker a.body).2 = .response s status provider model →
      StreamClean env a.profile s
  full : ∀ a, gw.receive req = .admitted a → a.body.stream = false → env.cached = none →
    env.trouble = none →
    ∀ response status provider model,
      (tryChain gw.cfg a.profile a.config.chain env.inject env.router env.fullCalls
        env.breaker a.body).2 = .response response status provider model →
      ReplyClean env a.profile response

/-- A request is answered with one status line, and a stream that breaks while it is read is
counted against its provider, exactly when nothing goes wrong outside the handler's `try` or
behind the headers of a response. -/
theorem serveChatCompletions_contract_iff (gw : Gateway) (env : Surroundings)
    (req : ChatRequest) :
    (gw.serveChatCompletions env req).OneStatusLine ∧
        (gw.serveChatCompletions env req).CountsBrokenStream ↔
      Undisturbed gw env req := by
  have hcrashed := gw.receive_eq_crashed_iff req
  unfold Gateway.serveChatCompletions
  cases hreceive : gw.receive req with
  | crashed =>
    rw [hreceive] at hcrashed
    constructor
    · intro h
      simp [Served.OneStatusLine] at h
    · intro h
      exact absurd ⟨h.profile, h.key⟩ (hcrashed.mp rfl)
  | refused status text =>
    obtain ⟨hprofile, hkey⟩ : gw.ProfileReadable req ∧ gw.KeyAnswered req := by
      simpa [hreceive] using hcrashed
    constructor
    · intro _
      refine ⟨hprofile, hkey, ?_, ?_⟩ <;> intro a ha <;> simp [hreceive] at ha
    · intro _
      exact Gateway.contract_of_length_eq_one [] [] rfl
  | admitted a =>
    obtain ⟨hprofile, hkey⟩ : gw.ProfileReadable req ∧ gw.KeyAnswered req := by
      simpa [hreceive] using hcrashed
    have hsame : ∀ b, gw.receive req = .admitted b → a = b := by
      intro b hb
      simpa [hreceive] using hb
    have hexchange := gw.exchange_contract_iff env a
    cases hstream : a.body.stream with
    | true =>
      simp only [hstream, if_true, gw.exchangeStream_contract_iff env a] at hexchange ⊢
      rw [hexchange]
      constructor
      · intro h
        refine ⟨hprofile, hkey, ?_, ?_⟩
        · intro b hb _
          rwa [← hsame b hb]
        · intro b hb hfull
          rw [← hsame b hb, hstream] at hfull
          simp at hfull
      · intro h
        exact h.stream a hreceive hstream
    | false =>
      simp only [hstream, Bool.false_eq_true, if_false, gw.exchangeFull_contract_iff env a]
        at hexchange ⊢
      have hnotStream : ∀ b, gw.receive req = .admitted b → b.body.stream ≠ true := by
        intro b hb
        rw [← hsame b hb, hstream]
        simp
      cases hcached : env.cached with
      | some body =>
        constructor
        · intro _
          refine ⟨hprofile, hkey, ?_, ?_⟩
          · intro b hb hstream'
            exact absurd hstream' (hnotStream b hb)
          · intro b _ _ hmiss
            simp [hcached] at hmiss
        · intro _
          exact Gateway.contract_of_length_eq_one [] [] rfl
      | none =>
        dsimp only
        rw [hexchange]
        constructor
        · intro h
          refine ⟨hprofile, hkey, ?_, ?_⟩
          · intro b hb hstream'
            exact absurd hstream' (hnotStream b hb)
          · intro b hb _ _
            rwa [← hsame b hb]
        · intro h
          exact h.full a hreceive hstream hcached

/-- A client that never disconnects and a stream that times out after its first chunk: a second
status line, and a success of the provider. -/
theorem serveChatCompletions_timeout_midStream :
    (¬ ∀ gw env req, (Gateway.serveChatCompletions gw env req).OneStatusLine) ∧
      ¬ ∀ gw env req, (Gateway.serveChatCompletions gw env req).CountsBrokenStream := by
  constructor
  · intro hall
    have hone := hall openGateway (quietSurroundings ⟨[[100]], .timedOut⟩ .null) (helloRequest true)
    have htwo : 2 = 1 := hone
    omega
  · intro hall
    have hcounts := hall openGateway (quietSurroundings ⟨[[100]], .timedOut⟩ .null)
      (helloRequest true) "deepseek" rfl
    have hops : (openGateway.serveChatCompletions (quietSurroundings ⟨[[100]], .timedOut⟩ .null)
        (helloRequest true)).breakerOps =
        [.isAvailable 0 ⟨"deepseek", "", "pi"⟩, .recordSuccess 1 ⟨"deepseek", "", "pi"⟩] := rfl
    rw [hops] at hcounts
    exact hcounts.2 1 ⟨"deepseek", "", "pi"⟩ (by simp) rfl

end LcpGateway.Server
