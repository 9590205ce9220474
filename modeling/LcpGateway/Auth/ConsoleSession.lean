import LcpGateway.Base.Interleave
import LcpGateway.Base.Object

/-!
# The console session

Library `Auth`. Source `src/api/cost_plugins/console_oauth.py`. The tokens of the OpenCode console
are one stored object. Calls read it, may exchange a refresh token with one of two endpoints, and
write the whole object back, with other calls in between. Encryption and the JSON text of the
object are left out: what is saved is read back.
-/

namespace LcpGateway.Auth.Console
open LcpGateway.Base

/-- `float()`, where `none` is a `TypeError` or a `ValueError`, and the text of a time. -/
structure Python where
  float : Json → Option PyFloat
  stamp : Rat → String

/-- `fields.get(key)`. -/
def field (fields : Fields) (key : String) : Json := (fields.lookup key).getD .null

/-- `tokens.get(key) or state.get(key) or fallback`. -/
def pick (key fallback : String) (state tokens : Fields) : Json :=
  (field tokens key).orElse ((field state key).orElse (.str fallback))

/-- `SCOPE`. -/
def scope : String := "usage:read org:manage"

/-- `DEVICE_CLIENT_ID`. -/
def deviceClientId : String := "opencode-cli"

/-- `REFRESH_SKEW_SEC`. -/
def refreshSkewSec : Int := 120

section

variable (py : Python)

/-- `_expiry`; `console_oauth.py:436–441`. -/
def expiry (now : Rat) (tokens : Fields) : PyFloat :=
  match py.float ((field tokens "expires_in").orElse (.int 0)) with
  | some x => if x = .fin 0 then .fin 0 else (PyFloat.fin now).add x
  | none => .fin 0

/-- The fields that `merge_tokens` writes; `console_oauth.py:472–477`. -/
def mergedFields (now : Rat) (state tokens : Fields) : Fields :=
  [("access_token", pick "access_token" "" state tokens),
    ("refresh_token", pick "refresh_token" "" state tokens),
    ("token_type", pick "token_type" "Bearer" state tokens),
    ("scope", pick "scope" scope state tokens),
    ("expires_at", .float (expiry py now tokens)), ("updated_at", .str (py.stamp now))]

/-- `merge_tokens`; `console_oauth.py:465–478`. -/
def mergeTokens (now : Rat) (state tokens : Fields) : Fields :=
  setFields (mergedFields py now state tokens) state

/-- The access token is not near its expiry; `console_oauth.py:490–495`. -/
def fresh (now : Rat) (state : Fields) : Bool :=
  let expiresAt := (py.float ((field state "expires_at").orElse (.int 0))).getD (.fin 0)
  (field state "access_token").truthy &&
    (expiresAt = .fin 0 || (expiresAt.add (.fin (-now))).gtInt refreshSkewSec)

end

/-- The two servers that exchange tokens: `DEVICE_TOKEN_URL` and `TOKEN_URL`. -/
inductive Endpoint where
  | device
  | oauth
  deriving DecidableEq, Repr

/-- A refresh token, with the endpoint and the client it is exchanged for. -/
structure Grant where
  endpoint : Endpoint
  client : Json
  token : Json

/-- `state.get("flow") or "pkce"`, as `refresh` goes by it; `console_oauth.py:261–278,504–505`. -/
def endpointOf (state : Fields) : Endpoint :=
  if ((field state "flow").orElse (.str "pkce")).isStr "device" then .device else .oauth

/-- The refresh token of a state, when it has one and a client. -/
def held (state : Fields) : Option Grant :=
  if (field state "refresh_token").truthy && (field state "client_id").truthy then
    some ⟨endpointOf state, field state "client_id", field state "refresh_token"⟩
  else none

/-- The refresh token of a reply. -/
def grantOf (endpoint : Endpoint) (client : Json) (reply : Fields) : Option Grant :=
  if (field reply "refresh_token").truthy then
    some ⟨endpoint, client, field reply "refresh_token"⟩
  else none

/-- A call, with the replies and times it gets. A refresh that fails has no reply. -/
inductive Call where
  | deviceLogin (now : Rat) (reply : Fields)
  | codeLogin (client : Json) (now : Rat) (reply : Fields)
  | accessToken (force : Bool) (asked answered : Rat) (reply : Option Fields)
  | rememberOrg (org : String)
  | clear

/-- The stored object. Saving raises without a master key. -/
structure Vault where
  session : Option Fields
  writable : Bool

/-- `save_tokens`. -/
def Vault.save (v : Vault) (state : Fields) : Vault :=
  if v.writable then { v with session := some state } else v

/-- What the device login starts from; `console_oauth.py:606`. -/
def deviceState : Fields := [("client_id", .str deviceClientId), ("flow", .str "device")]

namespace Call

variable (py : Python)

/-- The refresh token that `current_access_token` sends, when it has read `seen`. -/
def presents (seen : Option Fields) : Call → Option Grant
  | .accessToken force asked _ _ =>
    seen.bind fun state ↦ if fresh py asked state && !force then none else held state
  | _ => none

/-- The refresh token the call is given. -/
def issues (seen : Option Fields) (call : Call) : Option Grant :=
  match call with
  | .deviceLogin _ reply =>
    if (field reply "access_token").truthy then grantOf .device (.str deviceClientId) reply
    else none
  | .codeLogin client _ reply => if client.truthy then grantOf .oauth client reply else none
  | .accessToken _ _ _ reply =>
    (call.presents py seen).bind fun g ↦ reply.bind (grantOf g.endpoint g.client)
  | _ => none

/-- What a call that has read `seen` leaves: `current_access_token`, `remember_org_id`, `clear`
and the logins; `console_oauth.py:371–378,481–519,533–535,585–608`. -/
def commit (v : Vault) (seen : Option Fields) (call : Call) : Vault :=
  match call with
  | .deviceLogin now reply =>
    if (field reply "access_token").truthy then v.save (mergeTokens py now deviceState reply) else v
  | .codeLogin client now reply =>
    if client.truthy then v.save (mergeTokens py now [("client_id", client)] reply) else v
  | .accessToken _ _ answered reply =>
    match seen, call.presents py seen, reply with
    | some state, some _, some tokens => v.save (mergeTokens py answered state tokens)
    | _, _, _ => v
  | .rememberOrg org =>
    let state := seen.getD []
    if org = "" || (field state "org_id").isStr org then v
    else v.save (setField "org_id" (.str org) state)
  | .clear => { v with session := none }

end Call

/-- Calls that read the object and later write it. -/
def sessionCalls (py : Python) (calls : Nat → Call) : TwoStep Nat Vault (Option Fields) where
  read := fun _ v ↦ v.session
  commit := fun i seen v ↦ (calls i).commit py v seen

end LcpGateway.Auth.Console
