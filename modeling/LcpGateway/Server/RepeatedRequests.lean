import LcpGateway.Server.PromptCache

/-!
# Requests that are repeated

Library `Server`. Source `src/api/prompt_cache.py:27–56` and
`src/server/handler.py:435–451,603–610`. A request that was answered is found in the cache when it
comes again exactly when the gateway sent it to the primary model as the client wrote it. Two
requests are taken for one exactly when they agree in the parts of the key, whatever their other
fields are.
-/

namespace LcpGateway.Server
open LcpGateway.Base LcpGateway.Breaker LcpGateway.Chat LcpGateway.Config LcpGateway.Pipeline

/-! ### What was let in -/

/-- Stripping tools keeps the messages and the stream flag. -/
theorem stripForbiddenTools_messages (body : Body) (forbidden : Option (List String)) :
    (stripForbiddenTools body forbidden).1.messages = body.messages := by
  unfold stripForbiddenTools
  split
  · split
    · rfl
    · split <;> rfl
  · rfl

/-- What is left of the tools are tools of the request. -/
theorem mem_stripForbiddenTools {body : Body} {forbidden : Option (List String)} {tools : List Tool}
    (h : (stripForbiddenTools body forbidden).1.tools = .value tools) :
    ∃ all, body.tools = .value all ∧ tools ⊆ all := by
  unfold stripForbiddenTools at h
  split at h
  · next all hall =>
    split at h
    · exact ⟨tools, h, List.Subset.refl tools⟩
    · split at h
      · obtain rfl := DictField.value.inj h
        exact ⟨all, hall, List.nil_subset all⟩
      · exact ⟨tools, h, List.Subset.refl tools⟩
      · obtain rfl := DictField.value.inj h
        exact ⟨all, hall, List.filter_subset_self _⟩
  · exact ⟨tools, h, List.Subset.refl tools⟩

/-- Tools that are no list are left as they are. -/
theorem tools_stripForbiddenTools {body : Body} {forbidden : Option (List String)}
    (h : (stripForbiddenTools body forbidden).1.tools.toOption = none) :
    (stripForbiddenTools body forbidden).1.tools = body.tools := by
  cases htools : body.tools with
  | absent => simp [stripForbiddenTools, htools]
  | null => simp [stripForbiddenTools, htools]
  | value tools =>
    unfold stripForbiddenTools at h
    rw [htools] at h
    dsimp only at h
    split at h
    · exact nomatch htools ▸ h
    · split at h
      · exact nomatch h
      · exact nomatch htools ▸ h
      · exact nomatch h

namespace Gateway

variable (gw : Gateway) (fmt : Formatting) (env : Surroundings)

/-- The body that was let in is the stripped body of the request, and it has messages. -/
theorem body_of_admitted {req : DocumentRequest} {a : Admitted}
    (h : gw.receive req.toChat = .admitted a) :
    a.body = (stripForbiddenTools req.doc.body a.config.forbiddenTools).1 ∧
      ∃ messages, req.doc.body.messages = some messages := by
  rcases gw.receive_cases req.toChat with
    ⟨profile, -, hreceive, -⟩ | ⟨-, ⟨_, _, hrefused⟩, -⟩ | ⟨-, hcrashed, -⟩
  · rw [hreceive] at h
    unfold receiveProfile at h
    split at h
    · exact nomatch h
    · next config hconfig =>
      split at h
      · exact nomatch h
      · exact nomatch h
      · split at h
        · exact nomatch h
        · dsimp only [DocumentRequest.toChat] at h
          split at h
          · exact nomatch h
          · next hmessages =>
            split at h
            · exact nomatch h
            · obtain rfl := Admission.admitted.inj h
              refine ⟨rfl, ?_⟩
              cases hsome : req.doc.body.messages with
              | none => simp [Body.messageList, hsome] at hmessages
              | some messages => exact ⟨messages, rfl⟩
  · rw [hrefused] at h
    exact nomatch h
  · rw [hcrashed] at h
    exact nomatch h

/-! ### What was sent -/

/-- Behind the cache no reply comes out of it. -/
theorem cached_not_mem_exchange {a : Admitted} (hplain : a.body.stream = false) (body : Json) :
    Sent.cached body ∉ (gw.exchange env a).sent := by
  have hconclude : ∀ t : Tail, Sent.cached body ∉ t.sent →
      Sent.cached body ∉ (t.conclude a.profile).sent := by
    intro t ht
    unfold Tail.conclude
    split
    · exact ht
    · simpa using ht
  unfold exchange
  split
  · exact hconclude _ (by simp)
  · rw [hplain, if_neg Bool.false_ne_true]
    unfold exchangeFull
    dsimp only
    split
    · refine hconclude _ ?_
      unfold serveFull
      split
      · split
        · simp
        · dsimp only
          split
          · simp
          · split <;> simp
      · simp
    · exact hconclude _ (by simp)

/-- A full body was sent because the chain answered with it. -/
theorem answered_of_completion {a : Admitted} (hplain : a.body.stream = false) {status : Nat}
    {reply : Json} (h : (gw.exchange env a).sent = [.completion status reply]) :
    env.trouble = none ∧ ∃ w status' provider model,
      gw.walkFull env a = (w, .response reply status' provider model) := by
  have hconclude : ∀ t : Tail, (t.conclude a.profile).sent = [.completion status reply] →
      Sent.completion status reply ∈ t.sent := by
    intro t ht
    unfold Tail.conclude at ht
    split at ht
    · simp [ht]
    · have hmem : Sent.completion status reply ∈ t.sent ++ [_] := ht ▸ List.mem_singleton.mpr rfl
      simpa using hmem
  unfold exchange at h
  split at h
  · exact nomatch hconclude _ h
  · next htrouble =>
    refine ⟨htrouble, ?_⟩
    rw [hplain, if_neg Bool.false_ne_true] at h
    unfold exchangeFull at h
    dsimp only at h
    split at h
    · next w response status' provider model hwalk =>
      have hsent := hconclude _ h
      suffices hresponse : response = reply from ⟨w, status', provider, model, hresponse ▸ hwalk⟩
      unfold serveFull at hsent
      split at hsent
      · split at hsent
        · exact nomatch hsent
        · dsimp only at hsent
          split at hsent
          · simp at hsent
          · split at hsent <;> exact (Sent.completion.inj (List.mem_singleton.mp hsent)).2.symm
      · exact nomatch hsent
    · exact nomatch hconclude _ h

/-! ### The key of a stored reply -/

/-- The request comes through as the client wrote it: the last step it was sent to has the primary
model, its messages hold no key that the gateway drops and are sent as they are, and its tools are
sorted by name. -/
structure Repeatable (memories : Option (List Message → List Memory)) (a : Admitted)
    (doc : Document) (steps : List Step) : Prop where
  primary : steps.getLast?.map Step.model = some a.config.primaryModel
  plain : doc.fields.lookup "messages" = some (.arr (a.body.messageList.map Message.toJson))
  verbatim : Verbatim gw.cfg steps (recalledBlock memories a.body.messageList) a.body.messageList
  sorted : (requestTools a.body).Pairwise (fun s t ↦ s.key ≤ t.key)

end Gateway

section Stored

variable {gw : Gateway} {fmt : Formatting} {a : Admitted} {doc : Document} {messages : List Message}

/-- A walk that stores a reply has the messages of the client in it exactly when these are plain and
nothing changed them. -/
theorem messages_stored_iff (hmessages : doc.body.messages = some messages)
    {sent : List Message} (hsent : ∀ msg ∈ sent, msg.Faithful) :
    Json.arr (sent.map Message.toJson) = (doc.fields.lookup "messages").getD (.arr []) ↔
      doc.fields.lookup "messages" = some (.arr (messages.map Message.toJson)) ∧
        sent = messages := by
  obtain ⟨items, hlookup, hread⟩ := doc.lookup_messages hmessages
  rw [hlookup, Option.getD_some]
  constructor
  · intro h
    obtain rfl := Json.arr.inj h
    rw [mapM_map_of_forall fun msg hmsg ↦ Message.ofJson_toJson (hsent msg hmsg)] at hread
    obtain rfl := Option.some.inj hread
    exact ⟨rfl, rfl⟩
  · rintro ⟨hplain, rfl⟩
    exact (Option.some.inj hplain).symm

/-- Sorting tools leaves them where they are exactly when they are in order. -/
theorem normalizeToolsForCache_eq_self_iff (tools : List Tool) :
    normalizeToolsForCache tools = tools ↔ tools.Pairwise (fun s t ↦ s.key ≤ t.key) := by
  have htotal : Std.Total (fun s t : Tool ↦ s.key ≤ t.key) := ⟨fun s t ↦ le_total s.key t.key⟩
  have htrans : IsTrans Tool (fun s t : Tool ↦ s.key ≤ t.key) :=
    ⟨fun _ _ _ hst htu ↦ le_trans hst htu⟩
  constructor
  · intro h
    rw [← h]
    exact List.pairwise_insertionSort _ tools
  · exact fun h ↦ h.insertionSort_eq

/-- The definitions of faithful tools tell them apart. -/
theorem map_definition_inj {tools tools' : List Tool} (h : ∀ tool ∈ tools, tool.Faithful)
    (h' : ∀ tool ∈ tools', tool.Faithful) :
    tools.map Tool.definition = tools'.map Tool.definition ↔ tools = tools' := by
  constructor
  · intro heq
    have hread := mapM_map_of_forall fun tool htool ↦ (h tool htool).reads
    rw [heq, mapM_map_of_forall fun tool htool ↦ (h' tool htool).reads] at hread
    exact (Option.some.inj hread).symm
  · rintro rfl
    rfl

/-- Faithful tools have definitions whose keys are in order. -/
theorem ordered_tools {tools : List Tool} (h : ∀ tool ∈ tools, tool.Faithful) :
    (Json.arr (tools.map Tool.definition)).Ordered := by
  refine .arr fun v hv ↦ ?_
  obtain ⟨tool, htool, rfl⟩ := List.mem_map.mp hv
  exact (h tool htool).ordered

/-- Sorting the tools keeps them. -/
theorem mem_prepareTools {tools : DictField (List Tool)} {tool : Tool}
    (h : tool ∈ (prepareTools tools).toOption.getD []) : tool ∈ tools.toOption.getD [] := by
  cases tools with
  | absent | null => exact h
  | value tools =>
    cases tools with
    | nil => exact h
    | cons first rest => exact (List.mem_insertionSort _).mp h

/-- The tools of an object the gateway wrote to have their keys in order. -/
theorem ordered_written_tools (doc : Document) {tools : DictField (List Tool)}
    (h : ∀ tool ∈ tools.toOption.getD [], tool.Faithful) {v : Json}
    (hv : (tools.toOption.map (fun tools ↦ Json.arr (tools.map Tool.definition))).or
      (doc.fields.lookup "tools") = some v) : v.Ordered := by
  cases tools with
  | absent | null => exact ordered_of_lookup doc.ordered hv
  | value tools => exact Option.some.inj hv ▸ ordered_tools h

/-- The tools of a key behind a forward are those in front of it exactly when they are sorted. -/
theorem tools_stored_iff (htools : ∀ tool ∈ requestTools a.body, tool.Faithful) {body : Body}
    (hbody : body.tools = prepareTools a.body.tools) :
    ((doc.rewritten body).lookup "tools").filter Json.truthy =
        ((a.strippedFields doc).lookup "tools").filter Json.truthy ↔
      (requestTools a.body).Pairwise (fun s t ↦ s.key ≤ t.key) := by
  rw [Document.lookup_rewritten_tools, Admitted.strippedFields, Document.lookup_writeTools, hbody]
  cases hvalue : a.body.tools with
  | absent | null => simp [prepareTools, DictField.toOption, requestTools, hvalue]
  | value tools =>
    have hlist : requestTools a.body = tools := by simp [requestTools, hvalue, DictField.toOption]
    rw [hlist] at htools ⊢
    cases tools with
    | nil => simp [prepareTools, DictField.toOption]
    | cons tool rest =>
      have hsorted : ∀ t ∈ normalizeToolsForCache (tool :: rest), t.Faithful := fun t ht ↦
        htools t ((List.mem_insertionSort _).mp ht)
      have htruthy : ∀ ts : List Tool, ts.length = rest.length + 1 →
          (Json.arr (ts.map Tool.definition)).truthy = true := by
        intro ts hts
        cases ts with
        | nil => simp at hts
        | cons t more => rfl
      have hlength : (normalizeToolsForCache (tool :: rest)).length = rest.length + 1 :=
        List.length_insertionSort _ _
      rw [← normalizeToolsForCache_eq_self_iff, ← map_definition_inj hsorted htools]
      simp only [prepareTools, List.isEmpty_cons, Bool.false_eq_true, if_false,
        DictField.toOption, Option.map_some, Option.some_or, Option.filter_some, htruthy _ hlength,
        htruthy (tool :: rest) rfl, if_true, Option.some.injEq, Json.arr.injEq]

/-- The front of a key shows its model. -/
theorem limitText_eq_iff (fmt : Formatting) (profile model model' : String)
    {fields fields' : Fields}
    (h : fields.lookup "max_tokens" = fields'.lookup "max_tokens") :
    fmt.limitText profile model fields = fmt.limitText profile model' fields' ↔ model = model' := by
  rw [Formatting.limitText, Formatting.limitText, h, List.append_cancel_left_eq, List.cons.injEq]
  simp only [true_and, List.append_cancel_right_eq, String.toList_inj]

/-- The key of a stored reply is the key the request was looked up under exactly when the request
came through as the client wrote it. -/
theorem storedKey_eq_iff {env : Surroundings} {memories : Option (List Message → List Memory)}
    {req : DocumentRequest} {w : Walk} {reply : Json} {status : Nat} {provider model : String}
    (hdigest : Function.Injective fmt.digest) (hadmitted : gw.receive req.toChat = .admitted a)
    (hwalk : gw.walkFull (env.recalling memories) a =
      (w, .response reply status provider model)) :
    fmt.makeKey a.profile model (req.doc.rewritten w.body) = Gateway.lookupKey fmt a req.doc ↔
      gw.Repeatable memories a req.doc (w.forwarded.map Forward.step) := by
  obtain ⟨hstripped, messages, hmessages⟩ := gw.body_of_admitted hadmitted
  obtain ⟨before, here, hbody, hsteps, rfl⟩ := tryChain_answered hwalk
  have hasked : a.body.messages = some messages := by
    rw [hstripped, stripForbiddenTools_messages, hmessages]
  have hlist : a.body.messageList = messages := by simp [Body.messageList, hasked]
  have hsent : w.body.messages =
      some (lastForwarded gw.cfg before here (recalledBlock memories messages) messages) := by
    rw [hbody, messages_forwardedBody]
    exact congrArg (Option.map _) (messages_injectMemory memories hasked)
  have hkept : w.body.tools = prepareTools a.body.tools := by
    rw [hbody, tools_forwardedBody]
    cases memories <;> rfl
  have hfaithful := faithful_lastForwarded gw.cfg before here (recalledBlock memories messages)
    (req.doc.faithful_messages hmessages)
  have htools : ∀ tool ∈ requestTools a.body, tool.Faithful := by
    cases hvalue : a.body.tools with
    | absent | null => simp [requestTools, hvalue, DictField.toOption]
    | value tools =>
      obtain ⟨all, hall, hsubset⟩ := mem_stripForbiddenTools (hstripped ▸ hvalue)
      intro tool htool
      rw [requestTools, hvalue] at htool
      exact req.doc.faithful_tools hall tool (hsubset htool)
  have hlimit : (req.doc.rewritten w.body).lookup "max_tokens" =
      (a.strippedFields req.doc).lookup "max_tokens" := by
    rw [req.doc.lookup_rewritten_of_ne w.body (by decide), Admitted.strippedFields,
      Document.lookup_writeTools_of_ne (by decide)]
  have hlast : (w.forwarded.map Forward.step).getLast?.map Step.model = some here.step.model := by
    rw [hsteps]
    simp
  have hwritten := req.doc.lookup_rewritten_messages hsent
  have hclient : (a.strippedFields req.doc).lookup "messages" = req.doc.fields.lookup "messages" :=
    Document.lookup_writeTools_of_ne (by decide)
  have hmade := messages_stored_iff hmessages hfaithful
  have hverbatim := lastForwarded_eq_self_iff gw.cfg before here memories messages
  rw [Gateway.lookupKey, fmt.makeKey_eq_iff hdigest, limitText_eq_iff fmt _ _ _ hlimit,
    fmt.messagesText_eq_iff, fmt.toolsText_eq_iff, tools_stored_iff htools hkept, hwritten, hclient,
    Option.getD_some, hmade]
  · rw [← hsteps] at hverbatim
    constructor
    · rintro ⟨hmodel, ⟨hplain, hself⟩, hsorted⟩
      exact ⟨hmodel ▸ hlast, hlist.symm ▸ hplain, hlist.symm ▸ hverbatim.mp hself, hsorted⟩
    · rintro ⟨hmodel, hplain, hsame, hsorted⟩
      rw [hlist] at hplain hsame
      exact ⟨Option.some.inj (hlast.symm.trans hmodel), ⟨hplain, hverbatim.mpr hsame⟩, hsorted⟩
  · intro v hv
    rw [Document.lookup_rewritten_tools, hkept] at hv
    exact ordered_written_tools req.doc (fun tool htool ↦ htools tool (mem_prepareTools htool)) hv
  · intro v hv
    rw [Admitted.strippedFields, Document.lookup_writeTools] at hv
    exact ordered_written_tools req.doc htools hv
  · intro v hv
    rw [hwritten] at hv
    refine Option.some.inj hv ▸ .arr fun item hitem ↦ ?_
    obtain ⟨msg, hmsg, rfl⟩ := List.mem_map.mp hitem
    exact Message.ordered_toJson (hfaithful msg hmsg)
  · intro v hv
    exact ordered_of_lookup req.doc.ordered (hclient ▸ hv)

end Stored

namespace Gateway

variable (gw : Gateway) (fmt : Formatting)

/-- A request whose reply was sent to the client: it was not in the cache, the chain answered it,
and the reply was stored. -/
theorem stored_of_sent {env : Surroundings} {req : DocumentRequest} {a : Admitted}
    {askedAt storedAt : Time} {cache after : PromptCache} {served : Served} {status : Nat}
    {reply : Json} (hadmitted : gw.receive req.toChat = .admitted a)
    (hplain : a.body.stream = false)
    (hserved : gw.servePrompt fmt env req askedAt storedAt cache = (served, after))
    (hsent : served.sent = [.completion status reply]) :
    ∃ w status' provider model,
      gw.walkFull env a = (w, .response reply status' provider model) ∧
      (cache.get (lookupKey fmt a req.doc) askedAt).1 = none ∧
      (cache.get (lookupKey fmt a req.doc) askedAt).2.set
        (fmt.makeKey a.profile model (req.doc.rewritten w.body)) storedAt reply = some after := by
  unfold servePrompt at hserved
  rw [hadmitted] at hserved
  dsimp only at hserved
  rw [hplain, if_neg Bool.false_ne_true] at hserved
  split at hserved
  · obtain ⟨rfl, -⟩ := Prod.mk.inj hserved
    exact nomatch hsent
  · next missed hget =>
    rw [hget]
    split at hserved
    · next hnone =>
      obtain ⟨rfl, -⟩ := Prod.mk.inj hserved
      obtain ⟨htrouble, w, status', provider, model, hwalk⟩ :=
        gw.answered_of_completion env hplain hsent
      simp [replyToStore, htrouble, hwalk] at hnone
    · next key stored hstored =>
      split at hserved
      · next hset =>
        obtain ⟨rfl, rfl⟩ := Prod.mk.inj hserved
        obtain ⟨htrouble, w, status', provider, model, hwalk⟩ :=
          gw.answered_of_completion env hplain hsent
        simp only [replyToStore, htrouble, hwalk, Option.some.injEq, Prod.mk.injEq] at hstored
        obtain ⟨rfl, rfl⟩ := hstored
        exact ⟨w, status', provider, model, hwalk, rfl, hset⟩
      · obtain ⟨rfl, -⟩ := Prod.mk.inj hserved
        simp [unstored, Tail.conclude, Raised.status] at hsent

/-- A request is answered from the cache exactly when its key is there. -/
theorem sent_cached_iff {env : Surroundings} {req : DocumentRequest} {a : Admitted}
    {askedAt storedAt : Time} {cache : PromptCache} {reply : Json}
    (hadmitted : gw.receive req.toChat = .admitted a) (hplain : a.body.stream = false) :
    (gw.servePrompt fmt env req askedAt storedAt cache).1.sent = [.cached reply] ↔
      (cache.get (lookupKey fmt a req.doc) askedAt).1 = some reply := by
  have hexchange : (gw.exchange env a).sent ≠ [.cached reply] := fun h ↦
    gw.cached_not_mem_exchange env hplain reply (h ▸ List.mem_singleton.mpr rfl)
  have hunstored : (gw.unstored env a).sent ≠ [.cached reply] := by
    simp [unstored, Tail.conclude]
  unfold servePrompt
  rw [hadmitted]
  dsimp only
  rw [hplain, if_neg Bool.false_ne_true]
  split
  · next hget => simp [hget]
  · next hget =>
    rw [hget]
    split
    · simpa using hexchange
    · split
      · simpa using hexchange
      · simpa using hunstored

/-- A request whose reply was sent is answered from the cache with that reply when it comes again in
time and nothing was stored under its key or evicted meanwhile, exactly when it came through as the
client wrote it. -/
theorem repeat_cached_iff (hdigest : Function.Injective fmt.digest) (env env' : Surroundings)
    (memories : Option (List Message → List Memory)) (req : DocumentRequest) (a : Admitted)
    (steps : List Step) (askedAt storedAt repeatedAt storedAt' : Time)
    (cache after cache' : PromptCache) (served : Served) (status : Nat) (reply : Json)
    (hadmitted : gw.receive req.toChat = .admitted a) (hplain : a.body.stream = false)
    (hserved : gw.servePrompt fmt (env.recalling memories) req askedAt storedAt cache =
      (served, after))
    (hsent : served.sent = [.completion status reply])
    (hsteps : (gw.walkFull (env.recalling memories) a).1.forwarded.map Forward.step = steps)
    (hmeanwhile : PromptCache.Undisturbed (lookupKey fmt a req.doc) repeatedAt after cache')
    (hintime : repeatedAt ≤ storedAt + cache.ttl) :
    (gw.servePrompt fmt env' req repeatedAt storedAt' cache').1.sent = [.cached reply] ↔
      gw.Repeatable memories a req.doc steps := by
  obtain ⟨w, status', provider, model, hwalk, hmissed, hset⟩ :=
    gw.stored_of_sent fmt hadmitted hplain hserved hsent
  obtain ⟨hown, hothers⟩ := PromptCache.get?_set hset
  rw [PromptCache.ttl_get] at hown
  rw [gw.sent_cached_iff fmt hadmitted hplain, ← hsteps, hwalk,
    ← storedKey_eq_iff hdigest hadmitted hwalk, PromptCache.get_fst_eq_some_iff]
  constructor
  · rintro ⟨expires, hentry, -⟩
    by_contra hne
    have hnone := hmeanwhile.get? (hothers _ hne (PromptCache.get?_of_missed hmissed)) nofun
    exact nomatch hnone.symm.trans hentry
  · intro hkey
    rw [hkey] at hown
    have hkept := hmeanwhile.get? hown (by simpa using hintime)
    exact ⟨storedAt + cache.ttl, hkept, hintime⟩

end Gateway

/-! ### Two requests under one key -/

/-- Two requests that agree in the parts of the key: the joined text of profile, primary model and
`max_tokens`, the messages, and the tools that are left. -/
structure SameParts (fmt : Formatting) (a a' : Admitted) (doc doc' : Document) : Prop where
  limit : fmt.limitText a.profile a.config.primaryModel (a.strippedFields doc) =
    fmt.limitText a'.profile a'.config.primaryModel (a'.strippedFields doc')
  messages : doc.fields.lookup "messages" = doc'.fields.lookup "messages"
  tools : requestTools a.body = requestTools a'.body

/-- The object a step would be sent: the request behind the forwards `before` and the one at
`here`. -/
def Gateway.forwardedFields (gw : Gateway) (memories : Option (List Message → List Memory))
    (before : List Attempt) (here : Attempt) (a : Admitted) (doc : Document) : Fields :=
  doc.rewritten (forwardedBody gw.cfg before here
    (injectMemory (memories.map injectMemoryContext) a.body))

section TwoRequests

variable {gw : Gateway} {fmt : Formatting} {req req' : DocumentRequest} {a a' : Admitted}

/-- The tools of a request that was let in are faithful. -/
theorem faithful_requestTools (h : gw.receive req.toChat = .admitted a) :
    ∀ tool ∈ requestTools a.body, tool.Faithful := by
  obtain ⟨hstripped, -⟩ := gw.body_of_admitted h
  cases hvalue : a.body.tools with
  | absent | null => simp [requestTools, hvalue, DictField.toOption]
  | value tools =>
    obtain ⟨all, hall, hsubset⟩ := mem_stripForbiddenTools (hstripped ▸ hvalue)
    intro tool htool
    rw [requestTools, hvalue] at htool
    exact req.doc.faithful_tools hall tool (hsubset htool)

/-- The tools of a key are the tools that are left, unless there are none. -/
theorem lookup_strippedFields_tools (h : gw.receive req.toChat = .admitted a) :
    ((a.strippedFields req.doc).lookup "tools").filter Json.truthy =
      if requestTools a.body = [] then none
      else some (.arr ((requestTools a.body).map Tool.definition)) := by
  obtain ⟨hstripped, -⟩ := gw.body_of_admitted h
  rw [Admitted.strippedFields, Document.lookup_writeTools]
  have hkept : a.body.tools.toOption = none → req.doc.body.tools = a.body.tools := fun hnone ↦ by
    rw [hstripped] at hnone ⊢
    exact (tools_stripForbiddenTools hnone).symm
  cases hvalue : a.body.tools with
  | absent =>
    rw [req.doc.lookup_tools, hkept (by rw [hvalue]; rfl), hvalue]
    simp [requestTools, hvalue, DictField.toOption, DictField.json?]
  | null =>
    rw [req.doc.lookup_tools, hkept (by rw [hvalue]; rfl), hvalue]
    simp [requestTools, hvalue, DictField.toOption, DictField.json?, Json.truthy]
  | value tools =>
    cases tools <;> simp [requestTools, hvalue, DictField.toOption, Json.truthy]

/-- The tools of a request that was let in have their keys in order. -/
theorem ordered_lookup_tools (h : gw.receive req.toChat = .admitted a) {v : Json}
    (hv : (a.strippedFields req.doc).lookup "tools" = some v) : v.Ordered := by
  rw [Admitted.strippedFields, Document.lookup_writeTools] at hv
  exact ordered_written_tools req.doc (faithful_requestTools h) hv

/-- Two requests have one key exactly when they agree in its parts. -/
theorem lookupKey_eq_iff (hdigest : Function.Injective fmt.digest)
    (h : gw.receive req.toChat = .admitted a) (h' : gw.receive req'.toChat = .admitted a') :
    Gateway.lookupKey fmt a req.doc = Gateway.lookupKey fmt a' req'.doc ↔
      SameParts fmt a a' req.doc req'.doc := by
  obtain ⟨-, messages, hmessages⟩ := gw.body_of_admitted h
  obtain ⟨-, messages', hmessages'⟩ := gw.body_of_admitted h'
  obtain ⟨items, hitems, -⟩ := req.doc.lookup_messages hmessages
  obtain ⟨items', hitems', -⟩ := req'.doc.lookup_messages hmessages'
  have hclient : ∀ (a : Admitted) (doc : Document),
      (a.strippedFields doc).lookup "messages" = doc.fields.lookup "messages" := fun _ _ ↦
    Document.lookup_writeTools_of_ne (by decide)
  have hsame : (Json.arr items = Json.arr items') ↔
      req.doc.fields.lookup "messages" = req'.doc.fields.lookup "messages" := by
    rw [hitems, hitems', Option.some.injEq]
  have htools : ((a.strippedFields req.doc).lookup "tools").filter Json.truthy =
      ((a'.strippedFields req'.doc).lookup "tools").filter Json.truthy ↔
        requestTools a.body = requestTools a'.body := by
    rw [lookup_strippedFields_tools h, lookup_strippedFields_tools h']
    have hinj := map_definition_inj (faithful_requestTools h) (faithful_requestTools h')
    split
    · next hnil =>
      split
      · next hnil' => exact iff_of_true rfl (hnil.trans hnil'.symm)
      · next hne' => exact iff_of_false nofun fun heq ↦ hne' (heq ▸ hnil)
    · next hne =>
      split
      · next hnil' => exact iff_of_false nofun fun heq ↦ hne (heq ▸ hnil')
      · rw [Option.some.injEq, Json.arr.injEq, hinj]
  rw [Gateway.lookupKey, Gateway.lookupKey, fmt.makeKey_eq_iff hdigest, fmt.messagesText_eq_iff,
    fmt.toolsText_eq_iff, htools, hclient, hclient, hitems, hitems', Option.getD_some,
    Option.getD_some, hsame]
  · exact ⟨fun ⟨hlimit, hlist, hleft⟩ ↦ ⟨hlimit, hlist, hleft⟩,
      fun hparts ↦ ⟨hparts.limit, hparts.messages, hparts.tools⟩⟩
  · exact fun v hv ↦ ordered_lookup_tools h hv
  · exact fun v hv ↦ ordered_lookup_tools h' hv
  · exact fun v hv ↦ ordered_of_lookup req.doc.ordered ((hclient a req.doc).symm.trans hv)
  · exact fun v hv ↦ ordered_of_lookup req'.doc.ordered ((hclient a' req'.doc).symm.trans hv)

/-- A forward of a request sends what stands in it, but for the model, the messages and the tools.
-/
theorem lookup_forwardedFields (memories : Option (List Message → List Memory))
    (before : List Attempt) (here : Attempt) {key : String}
    (hkey : key ∉ ["model", "messages", "tools"]) :
    (gw.forwardedFields memories before here a req.doc).lookup key =
      (a.strippedFields req.doc).lookup key := by
  rw [Gateway.forwardedFields, req.doc.lookup_rewritten_of_ne _ hkey, Admitted.strippedFields]
  simp only [List.mem_cons, List.not_mem_nil, or_false, not_or] at hkey
  exact (Document.lookup_writeTools_of_ne hkey.2.2).symm

/-- Requests that agree in the parts of the key are sent with the same messages. -/
theorem messages_forwardedFields (h : gw.receive req.toChat = .admitted a)
    (h' : gw.receive req'.toChat = .admitted a')
    (hmessages : req.doc.fields.lookup "messages" = req'.doc.fields.lookup "messages")
    (memories : Option (List Message → List Memory)) (before : List Attempt) (here : Attempt) :
    (gw.forwardedFields memories before here a req.doc).lookup "messages" =
      (gw.forwardedFields memories before here a' req'.doc).lookup "messages" := by
  obtain ⟨hstripped, messages, hsome⟩ := gw.body_of_admitted h
  obtain ⟨hstripped', messages', hsome'⟩ := gw.body_of_admitted h'
  obtain ⟨items, hitems, hread⟩ := req.doc.lookup_messages hsome
  obtain ⟨items', hitems', hread'⟩ := req'.doc.lookup_messages hsome'
  obtain rfl : items = items' :=
    Json.arr.inj (Option.some.inj (hitems.symm.trans (hmessages.trans hitems')))
  obtain rfl : messages = messages' := Option.some.inj (hread.symm.trans hread')
  have hsent : ∀ {a : Admitted} {req : DocumentRequest},
      a.body = (stripForbiddenTools req.doc.body a.config.forbiddenTools).1 →
      req.doc.body.messages = some messages →
      (gw.forwardedFields memories before here a req.doc).lookup "messages" =
        some (.arr ((lastForwarded gw.cfg before here (recalledBlock memories messages)
          messages).map Message.toJson)) := by
    intro a req hbody hmessages
    refine req.doc.lookup_rewritten_messages ?_
    rw [messages_forwardedBody, messages_injectMemory memories
      (by rw [hbody, stripForbiddenTools_messages, hmessages])]
    rfl
  rw [hsent hstripped hsome, hsent hstripped' hsome']

/-- Tools that are left are sent in order, and an empty list or none as it stands. -/
theorem tools_forwardedFields (memories : Option (List Message → List Memory))
    (before : List Attempt) (here : Attempt) :
    (gw.forwardedFields memories before here a req.doc).lookup "tools" =
      if requestTools a.body = [] then (a.strippedFields req.doc).lookup "tools"
      else some (.arr ((normalizeToolsForCache (requestTools a.body)).map Tool.definition)) := by
  have hkept : (injectMemory (memories.map injectMemoryContext) a.body).tools = a.body.tools := by
    cases memories <;> rfl
  rw [Gateway.forwardedFields, Document.lookup_rewritten_tools, tools_forwardedBody, hkept,
    Admitted.strippedFields, Document.lookup_writeTools]
  cases hvalue : a.body.tools with
  | absent | null => simp [prepareTools, DictField.toOption, requestTools, hvalue]
  | value tools =>
    cases tools with
    | nil => simp [prepareTools, DictField.toOption, requestTools, hvalue]
    | cons tool rest => simp [prepareTools, DictField.toOption, requestTools, hvalue]

/-- A forward of a request names the model of its step. -/
theorem model_forwardedFields (memories : Option (List Message → List Memory))
    (before : List Attempt) (here : Attempt) :
    (gw.forwardedFields memories before here a req.doc).lookup "model" =
      some (.str (gw.cfg.apiModel here.step.provider here.step.model)) := by
  rw [Gateway.forwardedFields, Document.rewritten, Document.lookup_writeTools_of_ne (by decide),
    Document.lookup_writeMessages_of_ne (by decide)]
  exact lookup_setField.trans (if_pos rfl)

end TwoRequests

namespace Gateway

/-- Two requests of one key are to one profile and would be forwarded alike, field for field,
exactly when those that agree in the parts of the key agree in the profile and in every other field
too. -/
theorem sameKey_sameForward_iff (gw : Gateway) (fmt : Formatting)
    (hdigest : Function.Injective fmt.digest) (req req' : DocumentRequest) (a a' : Admitted)
    (h : gw.receive req.toChat = .admitted a) (h' : gw.receive req'.toChat = .admitted a') :
    (lookupKey fmt a req.doc = lookupKey fmt a' req'.doc →
      a.profile = a'.profile ∧ ∀ memories before here key,
        (gw.forwardedFields memories before here a req.doc).lookup key =
          (gw.forwardedFields memories before here a' req'.doc).lookup key) ↔
    (SameParts fmt a a' req.doc req'.doc →
      a.profile = a'.profile ∧ ∀ key, key ≠ "model" →
        (a.strippedFields req.doc).lookup key = (a'.strippedFields req'.doc).lookup key) := by
  rw [lookupKey_eq_iff hdigest h h']
  refine imp_congr_right fun hparts ↦ and_congr_right fun _ ↦ ⟨fun hsent key hkey ↦ ?_,
    fun hfields memories before here key ↦ ?_⟩
  · have hone := hsent none [] ⟨⟨"", "", none⟩, fun _ ↦ none⟩ key
    by_cases hmessages : key = "messages"
    · subst hmessages
      rw [Admitted.strippedFields, Admitted.strippedFields,
        Document.lookup_writeTools_of_ne (by decide), Document.lookup_writeTools_of_ne (by decide)]
      exact hparts.messages
    · by_cases htools : key = "tools"
      · subst htools
        rw [tools_forwardedFields, tools_forwardedFields, ← hparts.tools] at hone
        split at hone
        · exact hone
        · next hne =>
          have hleft := lookup_strippedFields_tools h
          have hleft' := lookup_strippedFields_tools h'
          rw [if_neg hne] at hleft
          rw [← hparts.tools, if_neg hne] at hleft'
          rw [(Option.filter_eq_some_iff.mp hleft).1, (Option.filter_eq_some_iff.mp hleft').1]
      · have hother : key ∉ ["model", "messages", "tools"] := by simp [hkey, hmessages, htools]
        rwa [lookup_forwardedFields _ _ _ hother, lookup_forwardedFields _ _ _ hother] at hone
  · by_cases hmodel : key = "model"
    · subst hmodel
      rw [model_forwardedFields, model_forwardedFields]
    · by_cases hmessages : key = "messages"
      · subst hmessages
        exact messages_forwardedFields h h' hparts.messages memories before here
      · by_cases htools : key = "tools"
        · subst htools
          rw [tools_forwardedFields, tools_forwardedFields, ← hparts.tools, hfields _ hmodel]
        · have hother : key ∉ ["model", "messages", "tools"] := by
            simp [hmodel, hmessages, htools]
          rw [lookup_forwardedFields _ _ _ hother, lookup_forwardedFields _ _ _ hother,
            hfields _ hmodel]

end Gateway

/-! ### A prompt that is repeated -/

/-- Floats written as quotients in lowest terms. -/
def quotientText : FloatText where
  repr := fun r ↦ intText r.num ++ 'e' :: intText r.den
  injective := fun r r' h ↦ by
    have hmem : ∀ i : Int, 'e' ∉ intText i := fun i hi ↦ by
      rcases isDigit_of_mem_intText hi with hdigit | heq
      · exact absurd hdigit (by decide)
      · exact absurd heq (by decide)
    obtain ⟨hnum, -, hden⟩ := (List.append_cons_inj_of_notMem (hmem _) (hmem _)).mp h
    exact Rat.ext (intText_injective hnum) (by exact_mod_cast intText_injective hden)
  plain := fun r c hc ↦ by
    have hdigits : ∀ i : Int, c ∈ intText i → c.isDigit ∨ c ∈ ['.', 'e', '+', '-'] := fun i hi ↦ by
      rcases isDigit_of_mem_intText hi with hdigit | rfl
      · exact .inl hdigit
      · exact .inr (by decide)
    rcases List.mem_append.mp hc with hnum | hden
    · exact hdigits _ hnum
    · rcases List.mem_cons.mp hden with rfl | hden
      · exact .inr (by decide)
      · exact hdigits _ hden
  marked := fun r ↦ .inr (List.mem_append_right _ List.mem_cons_self)

/-- A formatting with the text of a key for its digest. -/
def plainFormatting : Formatting where
  float := quotientText
  container := fun _ ↦ []
  digest := id

/-- A document of one system prompt. -/
def promptDocument (prompt : String) : Document where
  fields := [("messages", .arr [.obj [("content", .str prompt), ("role", .str "system")]])]
  ordered := .obj (by simp) fun e he ↦ by
    obtain rfl := List.mem_singleton.mp he
    refine .arr fun v hv ↦ ?_
    obtain rfl := List.mem_singleton.mp hv
    exact .obj (by simp) fun e he ↦ by
      simp only [List.mem_cons, List.not_mem_nil, or_false] at he
      rcases he with rfl | rfl
      · exact .str _
      · exact .str _
  body := ⟨none, some [⟨.value "system", some (.str prompt), .absent, .absent, .absent, .absent⟩],
    .absent, false⟩
  reads := rfl

/-- A request of one system prompt. -/
def promptRequest (prompt : String) : DocumentRequest where
  path := "/pi/chat/completions"
  authorization := ""
  doc := promptDocument prompt

/-- The request as it is let in. -/
def promptAdmitted (prompt : String) : Admitted where
  profile := "pi"
  config := ⟨some (.bool false), some [], [⟨"deepseek", "deepseek-v4-pro", none⟩]⟩
  body := (promptDocument prompt).body
  blockedTools := []

/-- The cache behind the first request of a prompt. -/
def promptCache (prompt : String) : PromptCache :=
  (openGateway.servePrompt plainFormatting
    ((quietSurroundings ⟨[], .closed⟩ (.obj [])).recalling none) (promptRequest prompt) 0 1
    PromptCache.new).2

/-- A prompt without white space at its end is answered from the cache when it is repeated. -/
theorem repeat_cached_brief :
    (openGateway.servePrompt plainFormatting (quietSurroundings ⟨[], .closed⟩ .null)
      (promptRequest "Be brief.") 2 2 (promptCache "Be brief.")).1.sent = [.cached (.obj [])] := by
  refine (Gateway.repeat_cached_iff openGateway plainFormatting Function.injective_id
    (quietSurroundings ⟨[], .closed⟩ (.obj [])) (quietSurroundings ⟨[], .closed⟩ .null) none
    (promptRequest "Be brief.") (promptAdmitted "Be brief.") [⟨"deepseek", "deepseek-v4-pro", none⟩]
    0 1 2 2 PromptCache.new (promptCache "Be brief.") (promptCache "Be brief.") _ 200 (.obj []) rfl
    rfl rfl rfl rfl (.refl _) (by decide +kernel)).mpr ⟨rfl, rfl, ⟨rfl, ?_, ?_, ?_⟩, .nil⟩
  · intro msg hmsg
    obtain rfl := List.mem_singleton.mp hmsg
    exact ⟨rfl, rfl, fun s _ hs ↦ Json.str.inj (Option.some.inj hs) ▸ rfl, by decide, nofun, nofun,
      nofun⟩
  · exact fun id ↦ ⟨nofun, nofun⟩
  · intro _ msg hmsg
    obtain rfl := List.mem_singleton.mp hmsg
    exact nofun

/-- A system prompt that ends in a line break is stored under another key than it is looked up
under. -/
theorem repeat_misses_trailing_newline :
    ¬ ∀ (gw : Gateway) (fmt : Formatting) (env env' : Surroundings)
        (memories : Option (List Message → List Memory)) (req : DocumentRequest) (a : Admitted)
        (askedAt storedAt repeatedAt storedAt' : Time) (cache after cache' : PromptCache)
        (served : Served) (status : Nat) (reply : Json),
      gw.receive req.toChat = .admitted a → a.body.stream = false →
      gw.servePrompt fmt (env.recalling memories) req askedAt storedAt cache = (served, after) →
      served.sent = [.completion status reply] →
      PromptCache.Undisturbed (Gateway.lookupKey fmt a req.doc) repeatedAt after cache' →
      repeatedAt ≤ storedAt + cache.ttl →
      (gw.servePrompt fmt env' req repeatedAt storedAt' cache').1.sent = [.cached reply] := by
  intro hall
  have hcached := hall openGateway plainFormatting (quietSurroundings ⟨[], .closed⟩ (.obj []))
    (quietSurroundings ⟨[], .closed⟩ (.obj [])) none (promptRequest "Be brief.\n")
    (promptAdmitted "Be brief.\n") 0 1 2 2 PromptCache.new (promptCache "Be brief.\n")
    (promptCache "Be brief.\n") _ 200 (.obj []) rfl rfl rfl rfl (.refl _) (by decide +kernel)
  have hforwarded : (openGateway.servePrompt plainFormatting
      (quietSurroundings ⟨[], .closed⟩ (.obj [])) (promptRequest "Be brief.\n") 2 2
      (promptCache "Be brief.\n")).1.sent = [.completion 200 (.obj [])] := rfl
  exact nomatch hcached.symm.trans hforwarded

/-! ### Two requests of one prompt -/

/-- A document of one system prompt and one more field behind it. -/
def fieldDocument (key : String) (value : Json) (hkey : "messages" ≤ key) (hvalue : value.Ordered)
    (body : Body)
    (reads : Body.ofFields [("messages", .arr [.obj [("content", .str "Be brief."),
      ("role", .str "system")]]), (key, value)] = some body) : Document where
  fields := [("messages", .arr [.obj [("content", .str "Be brief."), ("role", .str "system")]]),
    (key, value)]
  ordered := .obj (by simpa using hkey) fun e he ↦ by
    simp only [List.mem_cons, List.not_mem_nil, or_false] at he
    rcases he with rfl | rfl
    · have hprompt : (promptDocument "Be brief.").fields.lookup "messages" = some _ := rfl
      exact ordered_of_lookup (promptDocument "Be brief.").ordered hprompt
    · exact hvalue
  body := body
  reads := reads

/-- A request of one system prompt and a temperature. -/
def warmRequest (temperature : Int) : DocumentRequest where
  path := "/pi/chat/completions"
  authorization := ""
  doc := fieldDocument "temperature" (.int temperature) (by decide) (.int temperature)
    (promptDocument "Be brief.").body rfl

/-- A request of one system prompt that names a model. -/
def namedRequest (model : String) : DocumentRequest where
  path := "/pi/chat/completions"
  authorization := ""
  doc := fieldDocument "model" (.str model) (by decide) (.str model)
    { (promptDocument "Be brief.").body with model := some model } rfl

/-- The request that names a model as it is let in. -/
def namedAdmitted (model : String) : Admitted :=
  { promptAdmitted "Be brief." with body := (namedRequest model).doc.body }

/-- Requests that differ in the model they name are forwarded alike. -/
theorem sameKey_sameForward_names :
    "pi" = "pi" ∧ ∀ memories before here key,
      (openGateway.forwardedFields memories before here (namedAdmitted "fast")
          (namedRequest "fast").doc).lookup key =
        (openGateway.forwardedFields memories before here (namedAdmitted "slow")
          (namedRequest "slow").doc).lookup key := by
  refine (Gateway.sameKey_sameForward_iff openGateway plainFormatting Function.injective_id
    (namedRequest "fast") (namedRequest "slow") (namedAdmitted "fast") (namedAdmitted "slow") rfl
    rfl).mpr (fun _ ↦ ⟨rfl, fun key hkey ↦ ?_⟩) rfl
  have hne : (key == "model") = false := by simpa using hkey
  simp [Admitted.strippedFields, Document.writeTools, namedAdmitted, namedRequest, fieldDocument,
    promptDocument, List.lookup_cons, hne]

/-- Requests that differ in the temperature alone have one key and are forwarded differently. -/
theorem sameKey_ignores_temperature :
    ¬ ∀ (gw : Gateway) (fmt : Formatting) (req req' : DocumentRequest) (a a' : Admitted),
      Function.Injective fmt.digest → gw.receive req.toChat = .admitted a →
      gw.receive req'.toChat = .admitted a' →
      Gateway.lookupKey fmt a req.doc = Gateway.lookupKey fmt a' req'.doc →
      a.profile = a'.profile ∧ ∀ memories before here key,
        (gw.forwardedFields memories before here a req.doc).lookup key =
          (gw.forwardedFields memories before here a' req'.doc).lookup key := by
  intro hall
  have hkey : Gateway.lookupKey plainFormatting (promptAdmitted "Be brief.") (warmRequest 0).doc =
      Gateway.lookupKey plainFormatting (promptAdmitted "Be brief.") (warmRequest 1).doc := rfl
  have hsent := (hall openGateway plainFormatting (warmRequest 0) (warmRequest 1)
    (promptAdmitted "Be brief.") (promptAdmitted "Be brief.") Function.injective_id rfl rfl hkey).2
    none [] ⟨⟨"deepseek", "deepseek-v4-pro", none⟩, fun _ ↦ none⟩ "temperature"
  have hvalue : some (Json.int 0) = some (Json.int 1) := hsent
  exact absurd (Json.int.inj (Option.some.inj hvalue)) (by decide)

end LcpGateway.Server
