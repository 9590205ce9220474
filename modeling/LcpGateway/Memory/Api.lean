import LcpGateway.Base.Noninterference
import LcpGateway.Memory.Backend
import LcpGateway.Server.Authentication
import LcpGateway.Server.Routes

/-!
# The memory API

Library `Memory`. Sources `src/server/endpoints.py:3278–3414` and
`src/server/handler.py:1097–1104,1180–1189`. A request is answered at once, or becomes a call of the
backend under its profile and a number. The calls of all requests take their database operations in
any order. The profiles and the key manager do not change meanwhile.
-/

namespace LcpGateway.Memory
open LcpGateway.Base LcpGateway.Config LcpGateway.Server LcpGateway.Server.Routes

/-- A request. `body` is what `_read_body` gives, `none` an exception; `newId` and `now` are what
`uuid4` and `time` would give it. -/
structure Request where
  method : Method
  path : String
  authorization : String
  body : Option Json
  newId : String
  now : PyFloat

/-- The gateway with its memory; `none` is a module that is not installed. -/
structure Host (V : Type) where
  gw : Gateway
  modelsPaths : List String
  backend : Option (Lance V)

/-- The gateway's tables, and the calls under way by profile and number. -/
structure State (V : Type) where
  tables : Tables V
  tasks : String → Nat → Option (Task V)

/-- Nothing is stored and nothing under way. -/
def State.empty {V : Type} : State V := ⟨fun _ ↦ none, fun _ _ ↦ none⟩

/-- What is left of a call of a profile. -/
def State.setTask {V : Type} (s : State V) (profile : String) (number : Nat)
    (task : Option (Task V)) : State V :=
  { s with
    tasks := Function.update s.tasks profile (Function.update (s.tasks profile) number task) }

/-- What an operation of a call leaves: its table, and the answer or the rest of the call. -/
def State.settle {V : Type} (s : State V) (profile : String) (number : Nat)
    (left : Option (List (Row V)) × (Answer ⊕ Task V)) : State V × Option Answer :=
  (({ s with tables := Function.update s.tables profile left.1 } : State V).setTask profile number
    left.2.getRight?, left.2.getLeft?)

/-- A request comes in, or a call takes its next database operation. -/
inductive Event where
  | arrive (number : Nat) (req : Request)
  | proceed (profile : String) (number : Nat)

/-- `_memory_profile`; `endpoints.py:3294–3300`. -/
def memoryProfile (profiles : List (String × ProfileConfig)) (path : String) : Option String :=
  match segments (path.toList.rdropWhile (· = '/')) with
  | _ :: candidate :: word :: _ :: _ =>
    if (profiles.lookup (String.ofList candidate)).isSome && String.ofList word == "memory" then
      some (String.ofList candidate)
    else none
  | _ => none

/-- The profile and the action of a request of the memory API; `handler.py:1097–1104,1180–1189`. -/
def memoryTarget (gw : Gateway) (modelsPaths : List String) (req : Request) :
    Option (String × String) :=
  match dispatch (buildRoutes modelsPaths) req.method req.path with
  | some call =>
    if call.name = "memory.count" then (memoryProfile gw.profiles req.path).map (·, "count")
    else if call.name = "memory.write" then
      match memoryProfile gw.profiles req.path, (segments (pathNoQuery req.path))[3]? with
      | some profile, some action => some (profile, String.ofList action)
      | _, _ => none
    else none
  | none => none

/-- `_memory_auth`; `endpoints.py:3302–3335`. `none` lets the request pass. -/
def memoryAuth (gw : Gateway) (profile authorization : String) : Option Answer :=
  if !((gw.profiles.lookup profile).map ProfileConfig.requiresAuth).getD true then none
  else if !startsWith "Bearer " authorization then
    some (coded 401 "LCP-4010" "API key required for this profile.")
  else
    match gw.keyManager with
    | none => some internal
    | some validateKey =>
      match validateKey (String.ofList (authorization.toList.drop 7)) with
      | .raised => some internal
      | .refused => some (coded 401 "LCP-4011" "invalid or revoked API key")
      | .accepted info =>
        if info.allows profile then none
        else some (coded 403 "LCP-4030" ("key does not have access to profile '" ++ profile ++ "'"))

/-- The answer without a backend; `endpoints.py:3344–3352`. -/
def notInstalled : Answer :=
  coded 501 "LCP-5010" ("Memory plugin is not installed or disabled — " ++
    "install the Memory (LanceDB) module from the Setup page.")

/-- `(a or b or "").strip()`; `none` is an `AttributeError`. -/
def firstText (values : List (Option Json)) : Option String :=
  match (values.filterMap id).find? Json.truthy with
  | none => some ""
  | some (.str s) => some (strip s)
  | some _ => none

/-- `_MEMORY_ACTIONS`. -/
def memoryActions : List String := ["retain", "recall", "forget", "count"]

section Receive

variable {V : Type} (L : Lance V) (req : Request) (body : Json)

/-- `retain` in front of its first database operation; `endpoints.py:3377–3388` and
`lancedb_backend.py:135–154`. -/
def receiveRetain : Except Answer (Task V) :=
  match firstText [body.get? "content"] with
  | none => .error internal
  | some content =>
    if content = "" then .error (badRequest "missing 'content' field")
    else
      match L.sanitize content ((body.get? "metadata").getD .null)
          ((body.get? "tags").getD .null) with
      | .error (.memory text) => .error (badRequest text)
      | .error (.other _) => .error internal
      | .ok (content, metadata, tags) =>
        match L.embed content with
        | .error trouble => .error trouble.embedding
        | .ok vector => .ok (.retain ⟨req.newId, content, metadata, tags, vector, req.now⟩)

/-- `recall` in front of its first database operation; `endpoints.py:3389–3399`. -/
def receiveRecall : Except Answer (Task V) :=
  match firstText [body.get? "query", body.get? "content"] with
  | none => .error internal
  | some query =>
    if query = "" then .error (badRequest "missing 'query' field")
    else
      match (((body.get? "top_k").filter Json.truthy).getD (.int 10)).toInt with
      | .value topK => .ok (.recallRows query topK ((body.get? "tag_filter").getD .null))
      | _ => .error internal

/-- `forget` in front of its first database operation; `endpoints.py:3401–3406`. -/
def receiveForget : Except Answer (Task V) :=
  match firstText [body.get? "memory_id"] with
  | none => .error internal
  | some id =>
    if id = "" then .error (badRequest "missing 'memory_id' field") else .ok (.forget id)

end Receive

namespace Host

variable {V : Type} (host : Host V)

/-- `_serve_memory_api` in front of the first database operation; `endpoints.py:3355–3414`. -/
def receive (profile action : String) (req : Request) : Except Answer (Task V) :=
  if !memoryActions.contains action then
    .error (404, .obj [("error", .str ("unknown memory action: " ++ action))])
  else
    match memoryAuth host.gw profile req.authorization with
    | some refusal => .error refusal
    | none =>
      match host.backend with
      | none => .error notInstalled
      | some L =>
        if action = "count" then .ok .count
        else
          match req.body with
          | none => .error (badRequest "invalid JSON body")
          | some body =>
            if !body.isObj then .error internal
            else if action = "retain" then receiveRetain L req body
            else if action = "recall" then receiveRecall body
            else receiveForget body

/-- A request comes in, or a call takes its next database operation; the answer is given when the
call is over. -/
def respond (s : State V) : Event → State V × Option Answer
  | .arrive number req =>
    match memoryTarget host.gw host.modelsPaths req with
    | none => (s, none)
    | some (profile, action) =>
      if (s.tasks profile number).isSome then (s, none)
      else
        match host.receive profile action req with
        | .error answer => (s, some answer)
        | .ok task => (s.setTask profile number (some task), none)
  | .proceed profile number =>
    match s.tasks profile number, host.backend with
    | some task, some L => s.settle profile number (L.operate profile s.tables task)
    | _, _ => (s, none)

/-- The state behind one event. -/
abbrev step : State V → Event → State V := advanceBy host.respond

/-- The profile an event is about. -/
def profileOf : Event → Option String
  | .arrive _ req => (memoryTarget host.gw host.modelsPaths req).map Prod.fst
  | .proceed profile _ => some profile

/-- The event is about this profile. -/
def concerns (profile : String) (event : Event) : Bool := host.profileOf event = some profile

end Host
end LcpGateway.Memory
