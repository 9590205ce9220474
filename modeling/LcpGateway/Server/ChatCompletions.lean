import LcpGateway.Accounting.Recording
import LcpGateway.Pipeline.BreakerLog
import LcpGateway.Pipeline.PreFlight
import LcpGateway.Server.Sse
import LcpGateway.Server.Stream

/-!
# The chat completions handler

Library `Server`. Source `src/server/handler.py:158–210,293–719`. A request ends in the log of
what the handler did: the status lines it wrote, the rows it recorded, the breaker calls of the
chain walk. A status line is written by `send_response`, whether or not the client still reads
it. Fields the request path only hands on, header texts and the error payloads' messages are
left out.
-/

namespace LcpGateway.Server
open LcpGateway.Base LcpGateway.Breaker LcpGateway.Chat LcpGateway.Config LcpGateway.Pipeline
  LcpGateway.Accounting

/-- An exception, by the `except` clauses of the handler; `handler.py:681–714`. -/
inductive Raised where
  | toolBlocked
  | badRequest (message : String)
  | allProvidersFailed (message : String)
  | provider (code : String) (status : Nat) (message : String)
  | lcp (code : String) (status : Nat)
  | other
  deriving DecidableEq, Repr

namespace Raised

/-- The status and code `_send_error` answers with; `handler.py:170–191`, `exceptions.py`. -/
def status : Raised → Nat × String
  | .toolBlocked => (403, "LCP-4002")
  | .badRequest _ => (400, "LCP-2004")
  | .allProvidersFailed _ => (502, "LCP-3001")
  | .provider code status _ => (status, code)
  | .lcp code status => (status, code)
  | .other => (500, "LCP-5001")

/-- The error type and detail of the failure row, for the clauses that record one. -/
def failure : Raised → Option (String × String)
  | .badRequest message => some ("provider_bad_request", message)
  | .allProvidersFailed message => some ("all_providers_failed", message)
  | .provider code _ message => some (code, message)
  | _ => none

end Raised

/-- One response the handler began: `abandoned` never got past its headers. -/
inductive Sent where
  | error (status : Nat) (text : String)
  | cached (body : Json)
  | completion (status : Nat) (body : Json)
  | stream (status : Nat) (chunks : List Chunk)
  | abandoned (status : Nat)

/-- What `_read_body` gives; `model` is `body.get("model")`. -/
inductive Incoming where
  | unreadable
  | notObject
  | object (model : Json) (body : Body)

/-- A request as the handler receives it. -/
structure ChatRequest where
  path : String
  authorization : String
  body : Incoming

/-- The fields of a profile the handler reads; `authRequired` is the raw value of the key. -/
structure ProfileConfig where
  authRequired : Option Json
  forbiddenTools : Option (List String)
  chain : List Step

/-- `profile_cfg.get("auth_required", True)`, as a condition. -/
def ProfileConfig.requiresAuth (config : ProfileConfig) : Bool :=
  (config.authRequired.getD (.bool true)).truthy

/-- The answer of `validate_key`. -/
structure KeyInfo where
  id : Option Nat
  allowedProfiles : Option String

/-- How `validate_key` ends: with a key, with `None`, or with an exception. -/
inductive Validation where
  | accepted (info : KeyInfo)
  | refused
  | raised

/-- What the handler is set up with. `keyManager` is `validate_key` of the resolved service (a
resolution that raises is one whose `validate_key` does), `budgetBlock` is
`_check_budget_block`. -/
structure Gateway where
  cfg : GatewayConfig
  profiles : List (String × ProfileConfig)
  keyManager : Option (String → Validation)
  budgetBlock : String → Option Nat → Option String
  book : PriceBook

/-- What the surroundings answer to one request. `trouble` is an exception of the statements in
front of the upstream's answer that the chain walk does not raise itself; `nearLimit` is what
the pre-flight of the chain walk warns of. -/
structure Surroundings where
  client : Client
  estimate : Nat × PyFloat
  cached : Option Json
  nearLimit : Option (Nat × Int)
  trouble : Option Raised
  billedAt : BillingTime
  readTimeout : Nat
  decode : List UInt8 → String
  loads : String → Loads
  inject : Option (List Message → List Message)
  router : Option Router
  breaker : CircuitBreaker
  streamCalls : Nat → Call Stream
  fullCalls : Nat → Call Json

/-- A request the gate in front of the chain let through. -/
structure Admitted where
  profile : String
  config : ProfileConfig
  body : Body
  blockedTools : List Json

/-- The outcome of the statements in front of the prompt cache. `crashed` is an exception
outside the handler's `try`. -/
inductive Admission where
  | crashed
  | refused (status : Nat) (text : String)
  | admitted (a : Admitted)

/-- The log of one request. `brokenStream` is the provider whose stream raised while it was
read. -/
structure Served where
  sent : List Sent
  rows : List RequestRow
  breakerOps : List Op
  brokenStream : Option String

/-! ### In front of the chain -/

/-- `_resolve_profile`; `handler.py:193–201`. -/
def resolveProfile (profiles : List (String × ProfileConfig)) (path : String) : Option String :=
  match (path.toList.rdropWhile (· = '/')).splitOn '/' with
  | _ :: candidate :: _ =>
    if (profiles.lookup (String.ofList candidate)).isSome then some (String.ofList candidate)
    else none
  | _ => none

/-- `(body.get("model") or "").strip()`; `none` is an `AttributeError`. -/
def modelName (model : Json) : Option String :=
  if !model.truthy then some ""
  else
    match model with
    | .str s => some (strip s)
    | _ => none

/-- The name of a blocked tool; `request_pipeline.py:131,141`. -/
def toolName (fallback : String) (tool : Tool) : Json :=
  (((tool.definition.get? "function").getD (.obj [])).get? "name").getD (.str fallback)

/-- `strip_forbidden_tools`; `request_pipeline.py:125–148`. -/
def stripForbiddenTools (body : Body) (forbidden : Option (List String)) : Body × List Json :=
  match body.tools with
  | .value tools =>
    if tools.isEmpty then (body, [])
    else
      match forbidden with
      | none => ({ body with tools := .value [] }, tools.map (toolName "unknown"))
      | some [] => (body, [])
      | some names =>
        let isForbidden := fun tool ↦ names.any (fun name ↦ (toolName "" tool).isStr name)
        ({ body with tools := .value (tools.filter (fun tool ↦ !isForbidden tool)) },
          (tools.filter isForbidden).map (toolName ""))
  | _ => (body, [])

/-- `[p.strip() for p in allowed.split(",") if p.strip()]`; `handler.py:350`. -/
def allowedList (allowed : String) : List String :=
  ((allowed.toList.splitOn ',').map (fun p ↦ strip (String.ofList p))).filter (· ≠ "")

/-- `profile in allowed_list`, when the key names profiles; `handler.py:348–354`. -/
def KeyInfo.allows (info : KeyInfo) (profile : String) : Bool :=
  match info.allowedProfiles.filter (· ≠ "") with
  | none => true
  | some allowed => profile ∈ allowedList allowed

/-- How the authentication block ends; the error is its status and code. `crashed` is an
exception that the block does not catch. -/
inductive Authentication where
  | crashed
  | refused (status : Nat) (code : String)
  | passed (keyId : Option Nat)

namespace Gateway

variable (gw : Gateway)

/-- The budget check of a key; `handler.py:357–367`. -/
def keyBlocked (profile : String) (info : KeyInfo) : Bool :=
  (info.id.filter (· ≠ 0)).any (fun id ↦ (gw.budgetBlock profile (some id)).any (· ≠ ""))

/-- The authentication block; `handler.py:332–382`. -/
def authenticate (profile : String) (config : ProfileConfig) (authorization : String) :
    Authentication :=
  if !config.requiresAuth then .passed none
  else if !startsWith "Bearer " authorization then .refused 401 "LCP-1001"
  else
    match gw.keyManager with
    | none => .refused 401 "LCP-1001"
    | some validateKey =>
      match validateKey (String.ofList (authorization.toList.drop 7)) with
      | .raised => .crashed
      | .refused => .refused 401 "LCP-1001"
      | .accepted info =>
        if !info.allows profile then .refused 403 "LCP-1003"
        else if gw.keyBlocked profile info then .refused 429 "LCP-1002"
        else .passed info.id

/-- Authentication, budgets and the checks of the body; `handler.py:327–413`. -/
def receiveProfile (req : ChatRequest) (profile : String) : Admission :=
  match gw.profiles.lookup profile with
  | none => .refused 400 s!"profile not found: {profile}"
  | some config =>
    match gw.authenticate profile config req.authorization with
    | .crashed => .crashed
    | .refused status code => .refused status code
    | .passed keyId =>
      if (gw.budgetBlock profile keyId).any (· ≠ "") then .refused 429 "LCP-4290"
      else
        match req.body with
        | .object _ body =>
          if body.messageList.isEmpty then .refused 400 "missing required field: messages"
          else
            match config.chain with
            -- `profile_cfg["chain"][0]`
            | [] => .refused 500 "LCP-5001"
            | _ :: _ =>
              let (body, blockedTools) := stripForbiddenTools body config.forbiddenTools
              .admitted ⟨profile, config, body, blockedTools⟩
        -- a value without `get` raises inside the `try`
        | _ => .refused 500 "LCP-5001"

/-- The statements in front of the prompt cache; `handler.py:293–435`. -/
def receive (req : ChatRequest) : Admission :=
  if !isInfix "/chat/completions" req.path then .refused 404 "not found"
  else
    match req.body, resolveProfile gw.profiles req.path with
    | .unreadable, _ => .refused 400 "invalid JSON body"
    | _, some profile => gw.receiveProfile req profile
    | .notObject, none => .crashed
    | .object model _, none =>
      match modelName model with
      | none => .crashed
      | some name =>
        if (gw.profiles.lookup name).isSome then gw.receiveProfile req name
        else
          let path := req.path
          .refused 400 s!"unknown profile in path: {path}. Use /PROFILE/chat/completions or set model to a profile name."

end Gateway

/-! ### Behind the chain -/

/-- `send_header` encodes as latin-1. -/
def isLatin1 (s : String) : Bool := s.toList.all (fun c ↦ c.toNat < 256)

/-- The warning header, when there is one, can be written. -/
def Surroundings.headersEncode (env : Surroundings) (profile : String) : Bool :=
  env.nearLimit.all (fun near ↦ isLatin1 (contextWarning near.1 near.2 profile))

/-- What the statements behind the chain did, up to the exception that ended them. -/
structure Tail where
  sent : List Sent
  rows : List RequestRow
  raised : Option Raised

/-- The row of a failed request; `handler.py:688–691,695–698,704–707`. -/
def failureRow (profile errorType errorDetail : String) : Option RequestRow :=
  recordCost profile "unknown" "unknown" ⟨.int 0, .int 0, 0, .int 0, .fin 0, false⟩ false
    (some errorType) [] (some errorDetail)

/-- The outer `except` clauses; `handler.py:681–714`. -/
def Tail.conclude (profile : String) (t : Tail) : Tail :=
  match t.raised with
  | none => t
  | some e =>
    { sent := t.sent ++ [.error e.status.1 e.status.2]
      rows := t.rows ++ (e.failure.bind (fun f ↦ failureRow profile f.1 f.2)).toList
      raised := none }

namespace Gateway

variable (gw : Gateway) (env : Surroundings) (a : Admitted)

/-- The accounting of a finished stream; `handler.py:532–576`. -/
def accountStream (provider model : String) (text : String) : Option RequestRow :=
  let estimated := recordCost a.profile model provider
    ⟨.int env.estimate.1, .int 0, 0, .int env.estimate.1, env.estimate.2, false⟩ true none
    a.blockedTools none
  match (extractLastSseChunk env.loads text).filter Json.truthy with
  | none => estimated
  | some chunk =>
    if !chunk.isObj then none
    else
      match (chunk.get? "usage").filter Json.truthy with
      | none => estimated
      | some usage =>
        account gw.cfg gw.book env.billedAt a.profile provider model usage a.blockedTools

/-- The message of a read timeout; `request_pipeline.py:641–644`. -/
def timeoutMessage (provider : String) : String :=
  let seconds := env.readTimeout
  s!"Provider {provider} stream read timed out after {seconds}s"

/-- The streaming branch; `handler.py:504–601`. -/
def serveStream (s : Stream) (status : Nat) (provider model : String) : Tail × Option String :=
  -- the headers are written outside the guard of the relay loop
  if !env.headersEncode a.profile || !env.client.accepts 0 then
    (⟨[.abandoned status], [], some .other⟩, none)
  else
    let (chunks, stop) := relay env.client s.ending s.chunks 1
    let sent := [Sent.stream status chunks]
    match stop with
    | .upstream .timedOut =>
      (⟨sent, [], some (.provider "LCP-2001" 504 (timeoutMessage env provider))⟩, some provider)
    | .upstream .failed => (⟨sent, [], some .other⟩, some provider)
    | _ =>
      let text := env.decode chunks.flatten
      let rows := (gw.accountStream env a provider model text).toList
      -- a connection error of the upstream is taken for a client disconnect
      let broken := if stop = .upstream .reset then some provider else none
      match extractSseText env.loads text with
      | none => (⟨sent, rows, some .other⟩, broken)
      | some _ => (⟨sent, rows, none⟩, broken)

/-- The full-body branch; `handler.py:603–679`. `messages` are those the walk forwarded. -/
def serveFull (messages : List Message) (response : Json) (status : Nat)
    (provider model : String) : Tail :=
  match response with
  | .obj fields =>
    match verify messages (usageOf fields) with
    -- verification runs outside the guarded block
    | none => ⟨[], [], some .other⟩
    | some _ =>
      let rows := (account gw.cfg gw.book env.billedAt a.profile provider model (usageOf fields)
        a.blockedTools).toList
      if !env.headersEncode a.profile then ⟨[.abandoned status], rows, some .other⟩
      else
        match extractMessageText fields with
        | none => ⟨[.completion status response], rows, some .other⟩
        | some _ => ⟨[.completion status response], rows, none⟩
  | _ => ⟨[], [], some .other⟩

/-- The exception a chain walk that does not answer raises. -/
def chainRaised {R : Type} : Result R → Raised
  | .rejected message => .allProvidersFailed message
  | .exhausted message => .allProvidersFailed message
  | _ => .other

/-- The log of a request whose chain walk does not answer. -/
def unanswered {R : Type} (ops : List Op) (result : Result R) : Served :=
  let t := Tail.conclude a.profile ⟨[], [], some (chainRaised result)⟩
  ⟨t.sent, t.rows, ops, none⟩

/-- A streamed request; `handler.py:493–601,681–714`. -/
def exchangeStream : Served :=
  let ops := tryChainOps gw.cfg a.profile a.config.chain env.inject env.router env.streamCalls
    env.breaker a.body
  match tryChain gw.cfg a.profile a.config.chain env.inject env.router env.streamCalls
      env.breaker a.body with
  | (_, .response s status provider model) =>
    let (t, broken) := gw.serveStream env a s status provider model
    let t := t.conclude a.profile
    ⟨t.sent, t.rows, ops, broken⟩
  | (_, result) => unanswered a ops result

/-- A request for a full body; `handler.py:493–502,603–714`. -/
def exchangeFull : Served :=
  let ops := tryChainOps gw.cfg a.profile a.config.chain env.inject env.router env.fullCalls
    env.breaker a.body
  match tryChain gw.cfg a.profile a.config.chain env.inject env.router env.fullCalls
      env.breaker a.body with
  | (w, .response response status provider model) =>
    let t := gw.serveFull env a w.body.messageList response status provider model
    let t := t.conclude a.profile
    ⟨t.sent, t.rows, ops, none⟩
  | (_, result) => unanswered a ops result

/-- The request behind the prompt cache; `handler.py:453–719`. -/
def exchange : Served :=
  match env.trouble with
  | some e =>
    let t := Tail.conclude a.profile ⟨[], [], some e⟩
    ⟨t.sent, t.rows, [], none⟩
  | none => if a.body.stream then gw.exchangeStream env a else gw.exchangeFull env a

/-- `_serve_chat_completions`; `handler.py:293–719`. -/
def serveChatCompletions (req : ChatRequest) : Served :=
  match gw.receive req with
  | .crashed => ⟨[], [], [], none⟩
  | .refused status text => ⟨[.error status text], [], [], none⟩
  | .admitted a =>
    match (if a.body.stream then none else env.cached) with
    | some body => ⟨[.cached body], [], [], none⟩
    | none => gw.exchange env a

end Gateway

/-! ### A plain exchange -/

/-- One open profile with one step, the built-in plugins and no configured price. -/
def openGateway : Gateway where
  cfg := ⟨Dict.empty, Dict.empty, Dict.empty, fun _ model ↦ model⟩
  profiles := [("pi", ⟨some (.bool false), some [], [⟨"deepseek", "deepseek-v4-pro", none⟩]⟩)]
  keyManager := none
  budgetBlock := fun _ _ ↦ none
  book := ⟨builtinPlugins, [], Dict.empty⟩

/-- A client that stays, a fresh breaker, and an upstream that answers the first call. -/
def quietSurroundings (stream : Stream) (reply : Json) : Surroundings where
  client := ⟨none⟩
  estimate := (1, .fin 0)
  cached := none
  nearLimit := none
  trouble := none
  billedAt := ⟨0, 12⟩
  readTimeout := 300
  decode := fun bytes ↦ String.ofList (bytes.map (fun b ↦ Char.ofNat b.toNat))
  loads := fun _ ↦ .invalid
  inject := none
  router := none
  breaker := CircuitBreaker.new defaultCbConfig
  streamCalls := fun _ ↦ ⟨0, 1, fun _ ↦ none, .response stream 200⟩
  fullCalls := fun _ ↦ ⟨0, 1, fun _ ↦ none, .response reply 200⟩

/-- A request of one user message. -/
def helloRequest (stream : Bool) : ChatRequest where
  path := "/pi/chat/completions"
  authorization := ""
  body := .object .null
    ⟨none, some [⟨.value "user", some (.str "hello"), .absent, .absent, .absent, .absent⟩],
      .absent, stream⟩

end LcpGateway.Server
