import LcpGateway.Auth.Lifecycle
import LcpGateway.Server.ChatCompletions
import LcpGateway.Spending.Budget

/-!
# Authentication

Library `Server`. Source `src/server/handler.py:301–451`. The block in front of the chain refuses
by early returns and by three caught exception classes; any other exception leaves the handler.
A request that is answered from the prompt cache or forwarded has passed it, and the budget
check behind it.
-/

namespace LcpGateway.Server
open LcpGateway.Base LcpGateway.Auth LcpGateway.Chat LcpGateway.Config LcpGateway.Pipeline

/-- The key service over a table of keys, at a time. -/
def keyService (p : Platform) (s : KeyStore) (now : Int) (raw : String) : Validation :=
  match (s.validateKey p raw now).2 with
  | some info => .accepted ⟨some info.id, info.allowedProfiles⟩
  | none => .refused

namespace Gateway

variable (gw : Gateway) (env : Surroundings) (req : ChatRequest)

/-- The profile a request is received under. -/
def profileOf : Option String :=
  if !isInfix "/chat/completions" req.path then none
  else
    match req.body, resolveProfile gw.profiles req.path with
    | .unreadable, _ => none
    | _, some profile => some profile
    | .notObject, none => none
    | .object model _, none =>
      (modelName model).filter (fun name ↦ (gw.profiles.lookup name).isSome)

/-- The profile is in the path, or the body is an object whose model is text or empty. -/
def ProfileReadable : Prop :=
  isInfix "/chat/completions" req.path → resolveProfile gw.profiles req.path = none →
    match req.body with
    | .unreadable => True
    | .notObject => False
    | .object model _ => (modelName model).isSome

/-- The key manager, when it is asked for a bearer key, answers without an exception. -/
def KeyAnswered : Prop :=
  ∀ profile config raw validateKey, gw.profileOf req = some profile →
    gw.profiles.lookup profile = some config → config.requiresAuth →
    req.authorization = "Bearer " ++ raw → gw.keyManager = some validateKey →
    validateKey raw ≠ .raised

/-- The header carries a bearer key that the key manager accepts, and whose profiles are not
limited or name this one. -/
def Authenticated (profile : String) : Prop :=
  ∃ raw validateKey info, req.authorization = "Bearer " ++ raw ∧
    gw.keyManager = some validateKey ∧ validateKey raw = .accepted info ∧
    ∀ allowed, info.allowedProfiles = some allowed → allowed ≠ "" →
      profile ∈ allowedList allowed

/-- The requests `try_chain` forwards to providers while this one is served; all of them, also
when `trouble` ends it first. -/
def upstream : List Forward :=
  match gw.receive req with
  | .admitted a =>
    if (if a.body.stream then none else env.cached).isSome then []
    else if a.body.stream then
      (tryChain gw.cfg a.profile a.config.chain env.inject env.router env.streamCalls
        env.breaker a.body).1.forwarded
    else
      (tryChain gw.cfg a.profile a.config.chain env.inject env.router env.fullCalls
        env.breaker a.body).1.forwarded
  | _ => []

/-- The request is forwarded to a provider or answered from the prompt cache. -/
def Serves : Prop :=
  gw.upstream env req ≠ [] ∨ ∃ body, .cached body ∈ (gw.serveChatCompletions env req).sent

end Gateway

/-! ### The block -/

/-- A bearer header is the scheme and a key. -/
theorem startsWith_bearer_iff (authorization : String) :
    startsWith "Bearer " authorization ↔
      authorization = "Bearer " ++ String.ofList (authorization.toList.drop 7) := by
  rw [startsWith, List.isPrefixOf_iff_prefix]
  constructor
  · rintro ⟨rest, hrest⟩
    apply String.toList_injective
    have hdrop : ("Bearer ".toList ++ rest).drop 7 = rest := rfl
    rw [String.toList_append, ← hrest, hdrop, String.toList_ofList (l := rest)]
  · intro h
    rw [h, String.toList_append]
    exact List.prefix_append _ _

/-- The key of a bearer header. -/
theorem drop_bearer (raw : String) : String.ofList (("Bearer " ++ raw).toList.drop 7) = raw := by
  apply String.toList_injective
  rw [String.toList_ofList, String.toList_append]
  rfl

/-- A key is limited to the profiles it names, when it names any. -/
theorem KeyInfo.allows_iff (info : KeyInfo) (profile : String) :
    info.allows profile ↔ ∀ allowed, info.allowedProfiles = some allowed → allowed ≠ "" →
      profile ∈ allowedList allowed := by
  unfold KeyInfo.allows
  cases info.allowedProfiles with
  | none => simp
  | some allowed => by_cases hempty : allowed = "" <;> simp [Option.filter_some, hempty]

namespace Gateway

variable (gw : Gateway) (env : Surroundings) (req : ChatRequest)

/-- Authentication raises exactly when the key manager does. -/
theorem authenticate_eq_crashed_iff (profile : String) (config : ProfileConfig)
    (authorization : String) :
    gw.authenticate profile config authorization = .crashed ↔
      config.requiresAuth ∧ ∃ raw validateKey, authorization = "Bearer " ++ raw ∧
        gw.keyManager = some validateKey ∧ validateKey raw = .raised := by
  unfold authenticate
  by_cases hauth : config.requiresAuth
  case neg => simp [hauth]
  by_cases hbearer : startsWith "Bearer " authorization
  case neg =>
    have hnot : ∀ raw, authorization ≠ "Bearer " ++ raw := by
      rintro raw rfl
      exact hbearer ((startsWith_bearer_iff _).mpr (by rw [drop_bearer]))
    simp [hauth, hbearer, hnot]
  obtain ⟨raw, rfl⟩ : ∃ raw, authorization = "Bearer " ++ raw :=
    ⟨_, (startsWith_bearer_iff _).mp hbearer⟩
  simp only [hauth, hbearer, drop_bearer, Bool.not_true, Bool.false_eq_true, if_false, true_and]
  constructor
  · intro h
    split at h
    · simp at h
    · next validateKey hmanager =>
      split at h
      · next hraised => exact ⟨raw, validateKey, rfl, hmanager, hraised⟩
      · simp at h
      · split at h
        · simp at h
        · split at h <;> simp at h
  · rintro ⟨raw', validateKey, heq, hmanager, hraised⟩
    have hsame : raw' = raw := by rw [← drop_bearer raw', ← heq, drop_bearer]
    rw [hsame] at hraised
    simp [hmanager, hraised]

/-- Whoever passes an authentication that is required has an accepted key for the profile. -/
theorem authenticated_of_passed {profile : String} {config : ProfileConfig} {keyId : Option Nat}
    (h : gw.authenticate profile config req.authorization = .passed keyId)
    (hauth : config.requiresAuth) : gw.Authenticated req profile := by
  unfold authenticate at h
  rw [hauth] at h
  simp only [Bool.not_true, Bool.false_eq_true, if_false] at h
  split at h
  · simp at h
  · next hbearer =>
    have hheader := (startsWith_bearer_iff req.authorization).mp (by simpa using hbearer)
    split at h
    · simp at h
    · next validateKey hmanager =>
      split at h
      · simp at h
      · simp at h
      · next info haccepted =>
        refine ⟨_, validateKey, info, hheader, hmanager, haccepted, ?_⟩
        rw [← KeyInfo.allows_iff]
        split at h
        · simp at h
        · next hallows => simpa using hallows

/-! ### The statements around it -/

/-- The checks under a profile raise exactly when authentication does. -/
theorem receiveProfile_eq_crashed_iff (profile : String) :
    gw.receiveProfile req profile = .crashed ↔
      ∃ config, gw.profiles.lookup profile = some config ∧
        gw.authenticate profile config req.authorization = .crashed := by
  unfold receiveProfile
  split
  · next hnone => simp [hnone]
  · next config hconfig =>
    simp only [hconfig, Option.some.injEq, exists_eq_left']
    cases hauth : gw.authenticate profile config req.authorization with
    | crashed => simp
    | refused status code => simp
    | passed keyId =>
      simp only [reduceCtorEq, iff_false]
      split
      · simp
      · split
        · split
          · simp
          · split
            · simp
            · simp
        · simp

/-- A request let in under a profile has passed the profile's authentication and the budget
check. -/
theorem passed_of_receiveProfile {profile : String} {a : Admitted}
    (h : gw.receiveProfile req profile = .admitted a) :
    a.profile = profile ∧ gw.profiles.lookup profile = some a.config ∧
      ∃ keyId, gw.authenticate profile a.config req.authorization = .passed keyId ∧
        (gw.budgetBlock profile keyId).any (· ≠ "") = false := by
  unfold receiveProfile at h
  split at h
  · simp at h
  · next config hconfig =>
    split at h
    · simp at h
    · simp at h
    · next keyId hpassed =>
      split at h
      · simp at h
      · next hbudget =>
        split at h
        · split at h
          · simp at h
          · split at h
            · simp at h
            · obtain rfl := Admission.admitted.inj h
              exact ⟨rfl, hconfig, keyId, hpassed, by simpa using hbudget⟩
        · simp at h

/-- What becomes of a request in front of the profile's checks: it is received under its profile,
or it has none and is answered with an error, or its profile cannot be read and an exception
leaves the handler. -/
theorem receive_cases :
    (∃ profile, gw.profileOf req = some profile ∧
        gw.receive req = gw.receiveProfile req profile ∧ gw.ProfileReadable req) ∨
      (gw.profileOf req = none ∧ (∃ status text, gw.receive req = .refused status text) ∧
        gw.ProfileReadable req) ∨
      (gw.profileOf req = none ∧ gw.receive req = .crashed ∧ ¬ gw.ProfileReadable req) := by
  unfold profileOf receive ProfileReadable
  by_cases hpath : isInfix "/chat/completions" req.path
  case neg => simp [hpath]
  simp only [hpath, Bool.not_true, Bool.false_eq_true, if_false, forall_const]
  cases hbody : req.body with
  | unreadable => simp
  | notObject =>
    cases resolveProfile gw.profiles req.path with
    | none => simp
    | some profile => simp
  | object model body =>
    cases resolveProfile gw.profiles req.path with
    | some profile => simp
    | none =>
      cases hname : modelName model with
      | none => simp [hname]
      | some name =>
        by_cases hknown : (gw.profiles.lookup name).isSome
        · refine .inl ⟨name, ?_, ?_, ?_⟩ <;> simp [hname, hknown, Option.filter_some]
        · refine .inr (.inl ⟨?_, ?_, ?_⟩) <;> simp [hname, hknown, Option.filter_some]

/-- A request that is let in has a profile, and has passed its authentication and the budget
check. -/
theorem passed_of_admitted {a : Admitted} (h : gw.receive req = .admitted a) :
    gw.profileOf req = some a.profile ∧ gw.profiles.lookup a.profile = some a.config ∧
      ∃ keyId, gw.authenticate a.profile a.config req.authorization = .passed keyId ∧
        (gw.budgetBlock a.profile keyId).any (· ≠ "") = false := by
  rcases gw.receive_cases req with
    ⟨profile, hprofile, hreceive, _⟩ | ⟨_, ⟨_, _, hrefused⟩, _⟩ | ⟨_, hcrashed, _⟩
  · rw [hreceive] at h
    obtain ⟨rfl, hconfig, hpassed⟩ := gw.passed_of_receiveProfile req h
    exact ⟨hprofile, hconfig, hpassed⟩
  · simp [hrefused] at h
  · simp [hcrashed] at h

/-- An exception leaves the handler in front of its `try` exactly when the profile cannot be
read or the key manager raises. -/
theorem receive_eq_crashed_iff :
    gw.receive req = .crashed ↔ ¬ (gw.ProfileReadable req ∧ gw.KeyAnswered req) := by
  rcases gw.receive_cases req with ⟨profile, hprofile, hreceive, hreadable⟩ |
    ⟨hprofile, ⟨_, _, hrefused⟩, hreadable⟩ | ⟨hprofile, hcrashed, hreadable⟩
  · simp only [hreceive, receiveProfile_eq_crashed_iff, authenticate_eq_crashed_iff, hreadable,
      true_and]
    constructor
    · rintro ⟨config, hconfig, hauth, raw, validateKey, hheader, hmanager, hraised⟩ hkey
      exact hkey profile config raw validateKey hprofile hconfig hauth hheader hmanager hraised
    · intro hkey
      simp only [KeyAnswered, hprofile, Option.some.injEq] at hkey
      push Not at hkey
      obtain ⟨_, config, raw, validateKey, rfl, hconfig, hauth, hheader, hmanager, hraised⟩ := hkey
      exact ⟨config, hconfig, hauth, raw, validateKey, hheader, hmanager, hraised⟩
  · have hkey : gw.KeyAnswered req := fun profile _ _ _ h ↦ by simp [hprofile] at h
    simp [hrefused, hreadable, hkey]
  · simp [hcrashed, hreadable]

/-! ### Behind it -/

/-- A request that is served has been let in. -/
theorem admitted_of_serves (h : gw.Serves env req) : ∃ a, gw.receive req = .admitted a := by
  unfold Serves upstream serveChatCompletions at h
  cases hreceive : gw.receive req with
  | crashed => simp [hreceive] at h
  | refused status text => simp [hreceive] at h
  | admitted a => exact ⟨a, rfl⟩

/-- A request that is served under a profile that requires a key carries one that the key
manager accepts for the profile. -/
theorem serves_authenticated (h : gw.Serves env req) :
    ∃ profile config, gw.profileOf req = some profile ∧
      gw.profiles.lookup profile = some config ∧
      (config.requiresAuth → gw.Authenticated req profile) := by
  obtain ⟨a, ha⟩ := gw.admitted_of_serves env req h
  obtain ⟨hprofile, hconfig, keyId, hpassed, -⟩ := gw.passed_of_admitted req ha
  exact ⟨a.profile, a.config, hprofile, hconfig, gw.authenticated_of_passed req hpassed⟩

/-- Over a table of budgets, a request that is served is not one they reject. -/
theorem not_rejects_of_serves {l : Spending.Ledger} (hbudgets : gw.budgetBlock = l.checkBudgetBlock)
    (h : gw.Serves env req) :
    ∃ a keyId, gw.receive req = .admitted a ∧
      gw.authenticate a.profile a.config req.authorization = .passed keyId ∧
      l.rejects a.profile keyId = false := by
  obtain ⟨a, ha⟩ := gw.admitted_of_serves env req h
  obtain ⟨-, -, keyId, hpassed, hbudget⟩ := gw.passed_of_admitted req ha
  refine ⟨a, keyId, ha, hpassed, ?_⟩
  rw [hbudgets] at hbudget
  exact hbudget

/-- Over a table of keys, the accepted key has an active row that has not expired. -/
theorem exists_row_of_authenticated {p : Platform} {s : KeyStore} {now : Int} {profile : String}
    (hservice : gw.keyManager = some (keyService p s now)) (h : gw.Authenticated req profile) :
    ∃ raw k, req.authorization = "Bearer " ++ raw ∧ s.find k.id = some k ∧
      k.keyHash = p.sha256 raw ∧ k.status = "active" ∧ k.expired p now = false := by
  obtain ⟨raw, validateKey, info, hheader, hmanager, haccepted, -⟩ := h
  obtain rfl : keyService p s now = validateKey := Option.some.inj (hservice.symm.trans hmanager)
  have haccepts : s.accepts p raw now := by
    unfold keyService at haccepted
    rw [KeyStore.accepts]
    split at haccepted
    · next hinfo => rw [hinfo]; rfl
    · simp at haccepted
  obtain ⟨k, hk⟩ := KeyStore.exists_of_accepts haccepts
  exact ⟨raw, k, hheader, hk⟩

end Gateway

/-- A gateway whose only profile says nothing about keys, over a table with one key for it. -/
def lockedGateway : Gateway :=
  { openGateway with
    profiles := [("pi", ⟨none, some [], [⟨"deepseek", "deepseek-v4-pro", none⟩]⟩)]
    keyManager := some (keyService samplePlatform
      (run (KeyStore.step samplePlatform) KeyStore.empty
        [(0, .create ⟨"", "default, pi", 0, "", ""⟩ rawZeros)]) 1) }

/-- A request with the key of the table is forwarded, and authenticated. -/
theorem serves_authenticated_key :
    ∃ profile config,
      lockedGateway.profileOf { helloRequest false with authorization := "Bearer " ++ rawZeros } =
          some profile ∧
        lockedGateway.profiles.lookup profile = some config ∧
        (config.requiresAuth → lockedGateway.Authenticated
          { helloRequest false with authorization := "Bearer " ++ rawZeros } profile) :=
  Gateway.serves_authenticated lockedGateway (quietSurroundings ⟨[], .closed⟩ (.obj []))
    { helloRequest false with authorization := "Bearer " ++ rawZeros }
    (.inl (fun h ↦ absurd (congrArg List.length h) (by decide +kernel)))

end LcpGateway.Server
