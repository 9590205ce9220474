import LcpGateway.Auth.CredentialStore
import LcpGateway.Base.Effects
import LcpGateway.Breaker.Machine
import LcpGateway.Config.Store

/-!
# What the configuration endpoints work on

Library `Server`. The configuration in memory and its settings rows, the credential store and the
circuit breaker, as the handlers of `src/server/endpoints.py` reach them. A handler answers, stops
with an error answer, or stops with an exception; what it has changed by then stays changed.
-/

namespace LcpGateway.Server
open LcpGateway.Base LcpGateway.Config LcpGateway.Auth LcpGateway.Breaker

/-- The state behind the configuration endpoints. A key of a dictionary that is not text is kept
as `json.dumps` spells it, and `textKeys` tells that there is none. -/
structure Site where
  raw : Sections
  textKeys : Bool
  settings : SettingsStore
  credentials : Option CredentialStore
  breaker : CircuitBreaker

/-- How a handler stops: `_send_json` with an error status, or an exception. -/
inductive Stop where
  | refused (status : Nat) (message : String)
  | raised
  deriving DecidableEq, Repr

/-- A handler of the server. -/
abbrev Handler := EStateM Stop Site

/-- A value that is there; without it the handler raises. -/
def orRaise {α : Type} (o : Option α) : Handler α := orStop .raised o

/-- A value that is there; without it the handler answers with an error. -/
def orRefuse {α : Type} (o : Option α) (status : Nat) (message : String) : Handler α :=
  orStop (.refused status message) o

/-- The handler answers with an error. -/
def refuseIf (c : Bool) (status : Nat) (message : String) : Handler Unit :=
  stopIf (.refused status message) c

namespace Site

variable (site : Site)

/-- `config.raw[section] = value`. -/
def setSection (s : Section) (value : Json) : Site :=
  { site with raw := fun t ↦ if t = s then value else site.raw t }

/-- `config.save()`. -/
def save : Site := { site with settings := Config.save site.raw site.settings }

/-- `name in config.providers`. -/
def hasProvider (name : String) : Bool := ((site.raw .providers).get? name).isSome

/-- `name in config.profiles`. -/
def hasProfile (name : String) : Bool := ((site.raw .profiles).get? name).isSome

/-- `config.raw["profiles"][name]`. -/
def profile? (name : String) : Option Fields := ((site.raw .profiles).get? name).bind Json.fields?

/-- `config.raw["profiles"][name] = pcfg`. -/
def setProfile (name : String) (pcfg : Fields) : Site :=
  match site.raw .profiles with
  | .obj profiles => site.setSection .profiles (.obj (setField name (.obj pcfg) profiles))
  | _ => site

/-- Another credential store. -/
def setCredentials (credentials : Option CredentialStore) : Site :=
  { site with credentials := credentials }

/-- The credential store changed, when there is one. -/
def withCredentials (f : CredentialStore → CredentialStore) : Site :=
  site.setCredentials (site.credentials.map f)

/-- `circuit_breaker.forget_provider(name)`. -/
def forgetProvider (name : String) : Site :=
  { site with breaker := (site.breaker.forgetProvider name).2 }

end Site

/-- A loop over `config.raw["profiles"].items()` that changes the profiles in place. -/
def eachProfile (f : String × Json → (String × Json) × Bool) : Handler Unit := do
  let site ← get
  let profiles ← orRaise (site.raw .profiles).fields?
  modify (·.setSection .profiles (.obj (updateEach f profiles).1))
  orRaise (if (updateEach f profiles).2 then some () else none)

/-- `if key in body: …` with `body[key]`. -/
def whenField (body : Json) (key : String) (act : Json → Handler Unit) : Handler Unit := do
  let present ← orRaise (body.contains? key)
  if present then do
    let value ← orRaise (body.subscript? key)
    act value
  else pure ()

/-- `store.set(name, value)` on the credential store, which must be there. -/
def storeKey (name : String) (value : Json) : Handler Unit := do
  let site ← get
  let store ← orRefuse site.credentials 500 "credential store not initialized"
  let plaintext ← orRaise (value.orElse (.str "")).text?
  let store ← orRaise (store.set name plaintext)
  modify (·.setCredentials (some store))

/-! ### Learned context windows -/

/-- What the loop of `_auto_learn_model_contexts` does with one model. -/
inductive Learned where
  | raised
  | skipped
  | entered (limits : Fields)

/-- One discovered model; `endpoints.py:215–228`. -/
def learnOne (limits : Fields) (model : Json) : Learned :=
  match model with
  | .obj m =>
    match (((m.lookup "id").getD .null).orElse (.str "")).text? with
    | none => .raised
    | some id =>
      let ctx := ((m.lookup "context_length").getD .null).orElse ((m.lookup "n_ctx").getD .null)
      if strip id = "" ∨ ctx.truthy = false then .skipped else
        match ctx.toInt with
        | .refused => .skipped
        | .overflow => .raised
        | .value window =>
          match ((limits.lookup (strip id)).getD (.obj [])).fields? with
          | some entry => .entered (setField (strip id)
              (.obj (setField "context_window" (.int window) entry)) limits)
          | none => .raised
  | _ => .skipped

/-- The loop: the limits it leaves, the number of models learned, and whether it ended. -/
def learnLoop : List Json → Fields → Fields × Nat × Bool
  | [], limits => (limits, 0, true)
  | model :: rest, limits =>
    match learnOne limits model with
    | .raised => (limits, 0, false)
    | .skipped => learnLoop rest limits
    | .entered limits =>
      let r := learnLoop rest limits
      (r.1, r.2.1 + 1, r.2.2)

/-- `_auto_learn_model_contexts` on the models that were discovered; an exception ends it without
a save; `endpoints.py:195–233`. -/
def Site.autoLearn (discovered : List Json) (site : Site) : Site :=
  match site.raw .modelLimits with
  | .obj limits =>
    let r := learnLoop discovered limits
    let site := site.setSection .modelLimits (.obj r.1)
    if r.2.2 ∧ 0 < r.2.1 then site.save else site
  | _ => site

/-! ### What accepted runs do -/

variable {site site' : Site}

/-- A written section is read back, every other one is unchanged. -/
theorem raw_setSection (s t : Section) (value : Json) :
    (site.setSection s value).raw t = if t = s then value else site.raw t := rfl

/-- A section written twice. -/
theorem setSection_setSection (s : Section) (value value' : Json) :
    (site.setSection s value).setSection s value' = site.setSection s value' := by
  unfold Site.setSection
  congr 1
  funext t
  by_cases ht : t = s <;> simp [ht]

/-- A section written with the value it has. -/
theorem setSection_self (s : Section) : site.setSection s (site.raw s) = site := by
  have hraw : (fun t ↦ if t = s then site.raw s else site.raw t) = site.raw := by
    funext t
    by_cases ht : t = s <;> simp [ht]
  rw [Site.setSection, hraw]

/-- A loop that goes through changes every profile. -/
theorem eachProfile_ok {f : String × Json → (String × Json) × Bool}
    (h : eachProfile f site = .ok () site') :
    ∃ profiles, site.raw .profiles = .obj profiles ∧ (∀ e ∈ profiles, (f e).2 = true) ∧
      site' = site.setSection .profiles (.obj (profiles.map (fun e ↦ (f e).1))) := by
  simp only [eachProfile, orRaise, get_bind_eq_ok, modify_bind_eq_ok, orStop_bind_eq_ok,
    orStop_eq_ok] at h
  obtain ⟨profiles, hprofiles, hdone, rfl⟩ := h
  have hdone : (updateEach f profiles).2 = true := by
    by_contra hnot
    simp [hnot] at hdone
  obtain ⟨hmap, hall⟩ := updateEach_done hdone
  exact ⟨profiles, fields?_eq_some_iff.mp hprofiles, hall, by rw [hmap]⟩

/-- A field that is given is acted on. -/
theorem whenField_ok {body : Json} {key : String} {act : Json → Handler Unit}
    (h : whenField body key act site = .ok () site') :
    (body.contains? key = some false ∧ site' = site) ∨
      ∃ fields value, body = .obj fields ∧ fields.lookup key = some value ∧
        act value site = .ok () site' := by
  simp only [whenField, orRaise, orStop_bind_eq_ok] at h
  obtain ⟨present, hpresent, h⟩ := h
  cases present with
  | false => exact .inl ⟨hpresent, (pure_eq_ok.mp h).2⟩
  | true =>
    simp only [if_true, orStop_bind_eq_ok] at h
    obtain ⟨value, hvalue, h⟩ := h
    obtain ⟨fields, hfields, hlookup⟩ := Option.bind_eq_some_iff.mp hvalue
    exact .inr ⟨fields, value, fields?_eq_some_iff.mp hfields, hlookup, h⟩

/-- A stored key changes the credentials only. -/
theorem storeKey_ok {name : String} {value : Json} (h : storeKey name value site = .ok () site') :
    ∃ store, site' = site.setCredentials (some store) := by
  simp only [storeKey, orRaise, orRefuse, get_bind_eq_ok, orStop_bind_eq_ok, modify_eq_ok] at h
  obtain ⟨_, -, _, -, store, -, rfl⟩ := h
  exact ⟨store, rfl⟩

/-- Learning touches the limits and the stored settings only. -/
theorem autoLearn_eq (site : Site) (discovered : List Json) :
    ∃ raw settings, site.autoLearn discovered = { site with raw := raw, settings := settings } := by
  unfold Site.autoLearn
  split
  · dsimp only
    split <;> exact ⟨_, _, rfl⟩
  · exact ⟨_, _, rfl⟩

/-- Learning leaves the credentials alone. -/
theorem credentials_autoLearn (discovered : List Json) :
    (site.autoLearn discovered).credentials = site.credentials := by
  obtain ⟨raw, settings, heq⟩ := autoLearn_eq site discovered
  rw [heq]

/-- Learning leaves the breaker alone. -/
theorem breaker_autoLearn (discovered : List Json) :
    (site.autoLearn discovered).breaker = site.breaker := by
  obtain ⟨raw, settings, heq⟩ := autoLearn_eq site discovered
  rw [heq]

end LcpGateway.Server
