import LcpGateway.Auth.ConsoleSession

/-!
# Runs over the console session

Library `Auth`. Whatever the order in which calls read and write the session, a refresh token is
sent to the endpoint that gave it, for the client it was given to. When no call writes over another
session than it has read, the session holds the newest refresh token that was given.
-/

namespace LcpGateway.Auth.Console
open LcpGateway.Base

variable {py : Python}

/-! ## States -/

/-- The fields a reply brings. -/
theorem keys_mergedFields (now : Rat) (state tokens : Fields) :
    (mergedFields py now state tokens).map Prod.fst =
      ["access_token", "refresh_token", "token_type", "scope", "expires_at", "updated_at"] := rfl

/-- A field behind a reply. -/
theorem field_mergeTokens (now : Rat) (state tokens : Fields) (key : String) :
    field (mergeTokens py now state tokens) key =
      (((mergedFields py now state tokens).lookup key).or (state.lookup key)).getD .null := by
  have hnodup : ((mergedFields py now state tokens).map Prod.fst).Nodup := by
    rw [keys_mergedFields]
    decide
  rw [field, mergeTokens, lookup_setFields hnodup]

/-- The refresh token is that of the reply, or else the one there was. -/
theorem refreshToken_mergeTokens (now : Rat) (state tokens : Fields) :
    field (mergeTokens py now state tokens) "refresh_token" =
      pick "refresh_token" "" state tokens := by
  rw [field_mergeTokens]
  rfl

/-- The client of a session stays. -/
theorem clientId_mergeTokens (now : Rat) (state tokens : Fields) :
    field (mergeTokens py now state tokens) "client_id" = field state "client_id" := by
  rw [field_mergeTokens]
  rfl

/-- The endpoint of a session stays. -/
theorem endpointOf_mergeTokens (now : Rat) (state tokens : Fields) :
    endpointOf (mergeTokens py now state tokens) = endpointOf state := by
  have hflow : field (mergeTokens py now state tokens) "flow" = field state "flow" := by
    rw [field_mergeTokens]
    rfl
  rw [endpointOf, hflow, endpointOf]

/-- A session with a client holds the refresh token of the reply, or else the one it held. -/
theorem held_mergeTokens {now : Rat} {state tokens : Fields}
    (hclient : (field state "client_id").truthy = true) :
    held (mergeTokens py now state tokens) =
      (grantOf (endpointOf state) (field state "client_id") tokens).or (held state) := by
  rw [held, refreshToken_mergeTokens, clientId_mergeTokens, endpointOf_mergeTokens, hclient, held,
    hclient, grantOf, pick, Json.orElse, Json.orElse]
  cases htokens : (field tokens "refresh_token").truthy with
  | true => simp [htokens]
  | false =>
    cases hstate : (field state "refresh_token").truthy with
    | true => simp [hstate]
    | false => simp [Json.truthy]

/-- Writing the org keeps the refresh token. -/
theorem held_setField_org (org : String) (state : Fields) :
    held (setField "org_id" (.str org) state) = held state := by
  have hother : ∀ key : String, "org_id" ≠ key →
      field (setField "org_id" (.str org) state) key = field state key := by
    intro key hne
    rw [field, lookup_setField, if_neg hne, field]
  rw [held, endpointOf, hother "refresh_token" (by decide), hother "client_id" (by decide),
    hother "flow" (by decide), held, endpointOf]

/-- A session without a refresh token gives what a login gives it. -/
theorem held_login {now : Rat} {state tokens : Fields}
    (hclient : (field state "client_id").truthy = true)
    (hnone : (field state "refresh_token").truthy = false) :
    held (mergeTokens py now state tokens) =
      grantOf (endpointOf state) (field state "client_id") tokens := by
  rw [held_mergeTokens hclient, held, hnone, Bool.false_and, if_neg Bool.false_ne_true,
    Option.or_none]

/-! ## Commits -/

/-- The call writes back the session it has read. -/
def Call.carries : Call → Bool
  | .accessToken _ _ _ _ => true
  | .rememberOrg _ => true
  | _ => false

/-- What a call may leave: the session as it is, none, or one that holds the refresh token the call
is given, or else one that it has read. -/
inductive Commits (py : Python) (v : Vault) (seen : Option Fields) (call : Call) : Vault → Prop where
  | kept (hissues : v.writable = true → call.issues py seen = none) : Commits py v seen call v
  | cleared : Commits py v seen call { v with session := none }
  | saved {state : Fields} (hheld : held state = call.issues py seen ∨ call.carries = true ∧
        held state = (call.issues py seen).or (seen.bind held)) :
      Commits py v seen call { v with session := some state }

/-- Saving keeps the session or replaces it. -/
theorem commits_save {v : Vault} {seen : Option Fields} {call : Call} {state : Fields}
    (hheld : held state = call.issues py seen ∨ call.carries = true ∧
      held state = (call.issues py seen).or (seen.bind held)) :
    Commits py v seen call (v.save state) := by
  rw [Vault.save]
  split_ifs with hwritable
  · exact .saved hheld
  · exact .kept fun h ↦ absurd h hwritable

/-- What is sent is what the session that was read holds. -/
theorem eq_of_presents {state : Fields} {call : Call} {g : Grant}
    (h : call.presents py (some state) = some g) :
    (field state "client_id").truthy = true ∧ held state = some g ∧
      g = ⟨endpointOf state, field state "client_id", field state "refresh_token"⟩ := by
  have hheld : held state = some g := by
    cases call with
    | accessToken force asked answered reply =>
      rw [Call.presents, Option.bind_some] at h
      split_ifs at h
      exact h
    | _ => cases h
  refine ⟨?_, hheld, ?_⟩ <;> rw [held] at hheld <;> split_ifs at hheld with htruthy
  · exact (Bool.and_eq_true_iff.mp htruthy).2
  · exact (Option.some.inj hheld).symm

/-- A call leaves one of three things. -/
theorem commits_commit (v : Vault) (seen : Option Fields) (call : Call) :
    Commits py v seen call (call.commit py v seen) := by
  cases call with
  | deviceLogin now reply =>
    rw [Call.commit]
    split_ifs with haccess
    · have hheld : held (mergeTokens py now deviceState reply) =
          grantOf .device (.str deviceClientId) reply := held_login rfl rfl
      refine commits_save (.inl ?_)
      rw [hheld, Call.issues, if_pos haccess]
    · exact .kept fun _ ↦ if_neg haccess
  | codeLogin client now reply =>
    rw [Call.commit]
    split_ifs with hclient
    · have hheld : held (mergeTokens py now [("client_id", client)] reply) =
          grantOf .oauth client reply := held_login hclient rfl
      refine commits_save (.inl ?_)
      rw [hheld, Call.issues, if_pos hclient]
    · exact .kept fun _ ↦ if_neg hclient
  | accessToken force asked answered reply =>
    cases seen with
    | none => exact .kept fun _ ↦ rfl
    | some state =>
      cases hpresents : Call.presents py (some state)
          (.accessToken force asked answered reply) with
      | none =>
        have hissues : Call.issues py (some state) (.accessToken force asked answered reply) =
            none := by rw [Call.issues, hpresents, Option.bind_none]
        simp only [Call.commit, hpresents]
        exact .kept fun _ ↦ hissues
      | some g =>
        cases reply with
        | none =>
          simp only [Call.commit, hpresents]
          exact .kept fun _ ↦ by rw [Call.issues, hpresents, Option.bind_some, Option.bind_none]
        | some tokens =>
          obtain ⟨hclient, hheld, rfl⟩ := eq_of_presents hpresents
          simp only [Call.commit, hpresents]
          refine commits_save (.inr ⟨rfl, ?_⟩)
          rw [held_mergeTokens hclient, Option.bind_some, Call.issues, hpresents,
            Option.bind_some, Option.bind_some]
  | rememberOrg org =>
    rw [Call.commit]
    split_ifs with hsame
    · exact .kept fun _ ↦ rfl
    · refine commits_save (.inr ⟨rfl, ?_⟩)
      have hissues : Call.issues py seen (.rememberOrg org) = none := rfl
      rw [held_setField_org, hissues, Option.none_or]
      cases seen with
      | none => rfl
      | some state => rfl
  | clear => exact .cleared

/-! ## Runs -/

section

variable (py : Python) (calls : Nat → Call)

/-- The refresh token that one step is given. -/
def givenBy (c : InFlight Nat Vault (Option Fields)) : Phase Nat → Option Grant
  | .read _ => none
  | .commit i => (c.seen i).bind fun seen ↦ (calls i).issues py seen

/-- The refresh tokens that are given along a run, in order. -/
def grants (c : InFlight Nat Vault (Option Fields)) (events : List (Phase Nat)) : List Grant :=
  (steps (sessionCalls py calls).step c events).filterMap fun p ↦ givenBy py calls p.1 p.2

/-- One more step. -/
theorem grants_concat (c : InFlight Nat Vault (Option Fields)) (events : List (Phase Nat))
    (event : Phase Nat) : grants py calls c (events ++ [event]) = grants py calls c events ++
      (givenBy py calls (run (sessionCalls py calls).step c events) event).toList := by
  rw [grants, steps_append, List.filterMap_append, grants, steps, steps]
  cases hgiven : givenBy py calls (run (sessionCalls py calls).step c events) event with
  | none => simp [hgiven]
  | some g => simp [hgiven]

/-- Every refresh token that is stored, or that a call has read, was given before. -/
def Given (events : List Grant) (c : InFlight Nat Vault (Option Fields)) : Prop :=
  (∀ state, c.store.session = some state → ∀ g, held state = some g → g ∈ events) ∧
    ∀ i state, c.seen i = some (some state) → ∀ g, held state = some g → g ∈ events

variable {py calls}

/-- A step keeps that every refresh token was given before. -/
theorem Given.step {given : List Grant} {c : InFlight Nat Vault (Option Fields)}
    (h : Given given c) (event : Phase Nat) :
    Given (given ++ (givenBy py calls c event).toList) ((sessionCalls py calls).step c event) := by
  have hlater : ∀ g, g ∈ given → g ∈ given ++ (givenBy py calls c event).toList :=
    fun g hg ↦ List.mem_append_left _ hg
  cases event with
  | read i =>
    refine ⟨fun state hstate g hg ↦ hlater g (h.1 state hstate g hg), fun j state hj g hg ↦ ?_⟩
    change Function.update c.seen i (some c.store.session) j = some (some state) at hj
    rw [Function.update_apply] at hj
    split_ifs at hj with hji
    · exact hlater g (h.1 state (Option.some.inj hj) g hg)
    · exact hlater g (h.2 j state hj g hg)
  | commit i =>
    cases hseen : c.seen i with
    | none =>
      rw [TwoStep.step, hseen]
      exact ⟨fun state hstate g hg ↦ hlater g (h.1 state hstate g hg),
        fun j state hj g hg ↦ hlater g (h.2 j state hj g hg)⟩
    | some seen =>
      rw [TwoStep.step, hseen, givenBy, hseen, Option.bind_some]
      rw [givenBy, hseen, Option.bind_some] at hlater
      refine ⟨fun state hstate g hg ↦ ?_, fun j state hj g hg ↦ hlater g (h.2 j state hj g hg)⟩
      have hcommits : Commits py c.store seen (calls i) ((calls i).commit py c.store seen) :=
        commits_commit c.store seen (calls i)
      change ((calls i).commit py c.store seen).session = some state at hstate
      generalize (calls i).commit py c.store seen = v' at hcommits hstate
      have hissued : (calls i).issues py seen = some g →
          g ∈ given ++ ((calls i).issues py seen).toList := by
        intro hissues
        rw [hissues]
        exact List.mem_append_right _ (List.mem_singleton_self g)
      cases hcommits with
      | kept hissues => exact hlater g (h.1 state hstate g hg)
      | cleared => cases hstate
      | saved hheld =>
        cases hstate
        rcases hheld with hheld | ⟨-, hheld⟩
        · exact hissued (hheld.symm.trans hg)
        · rw [hheld] at hg
          cases hissues : (calls i).issues py seen with
          | some g' =>
            rw [hissues, Option.some_or] at hg
            exact hissues ▸ hissued (hissues.trans hg)
          | none =>
            rw [hissues, Option.none_or] at hg
            obtain ⟨read, rfl, hread⟩ := Option.bind_eq_some_iff.mp hg
            exact hissues ▸ hlater g (h.2 i read hseen g hread)

/-- Behind a run that begins without a session, every refresh token was given before. -/
theorem given_run {v : Vault} (hv : v.session = none) (events : List (Phase Nat)) :
    Given (grants py calls (.start v) events)
      (run (sessionCalls py calls).step (.start v) events) := by
  induction events using List.reverseRecOn with
  | nil =>
    refine ⟨fun state hstate ↦ ?_, fun _ _ hnone ↦ absurd hnone.symm (Option.some_ne_none _)⟩
    exact absurd (hv.symm.trans hstate).symm (Option.some_ne_none _)
  | append_singleton events event ih =>
    rw [grants_concat, run_append]
    exact ih.step event

variable (py calls)

/-- Whatever the order of the reads and the writes, a refresh token is sent only to the endpoint
that gave it before, and only for the client it was given to. -/
theorem presented_given {v : Vault} (hv : v.session = none) (events : List (Phase Nat)) {i : Nat}
    {seen : Option Fields} {g : Grant}
    (hseen : (run (sessionCalls py calls).step (.start v) events).seen i = some seen)
    (hpresents : (calls i).presents py seen = some g) :
    g ∈ grants py calls (.start v) events := by
  cases seen with
  | none => cases hcall : calls i <;> rw [hcall] at hpresents <;> cases hpresents
  | some state =>
    exact (given_run hv events).2 i state hseen g (eq_of_presents hpresents).2.1

/-- A call that writes back what it has read finds it still there. -/
def Unstale (c : InFlight Nat Vault (Option Fields)) : Phase Nat → Prop
  | .read _ => True
  | .commit i => (calls i).carries = true → ∀ seen, c.seen i = some seen → seen = c.store.session

/-- What the session holds is the last refresh token that was given. -/
def Newest (given : List Grant) (c : InFlight Nat Vault (Option Fields)) : Prop :=
  c.store.writable = true ∧ ∀ state, c.store.session = some state → ∀ g, held state = some g →
    given.getLast? = some g

variable {py calls}

/-- A step that writes over what it has read keeps the newest refresh token. -/
theorem Newest.step {given : List Grant} {c : InFlight Nat Vault (Option Fields)}
    (h : Newest given c) (event : Phase Nat) (hunstale : Unstale calls c event) :
    Newest (given ++ (givenBy py calls c event).toList)
      ((sessionCalls py calls).step c event) := by
  cases event with
  | read i =>
    have hnone : givenBy py calls c (.read i) = none := rfl
    rw [hnone, Option.toList_none, List.append_nil]
    exact h
  | commit i =>
    cases hseen : c.seen i with
    | none =>
      rw [TwoStep.step, hseen, givenBy, hseen, Option.bind_none, Option.toList_none,
        List.append_nil]
      exact h
    | some seen =>
      rw [TwoStep.step, hseen, givenBy, hseen, Option.bind_some]
      have hcommits : Commits py c.store seen (calls i) ((calls i).commit py c.store seen) :=
        commits_commit c.store seen (calls i)
      change Newest _ ⟨(calls i).commit py c.store seen, c.seen⟩
      generalize (calls i).commit py c.store seen = v' at hcommits
      cases hcommits with
      | kept hissues =>
        rw [hissues h.1, Option.toList_none, List.append_nil]
        exact h
      | cleared => exact ⟨h.1, fun state hstate ↦ absurd hstate.symm (Option.some_ne_none _)⟩
      | @saved written hheld =>
        refine ⟨h.1, fun state hstate g hg ↦ ?_⟩
        cases hstate
        cases hissues : (calls i).issues py seen with
        | some g' =>
          -- the token that is given is the one that is saved
          rw [hissues, Option.some_or] at hheld
          have hsame : held written = some g' := hheld.elim id And.right
          rw [← hsame.symm.trans hg, Option.toList_some, List.getLast?_concat]
        | none =>
          rw [Option.toList_none, List.append_nil]
          rw [hissues, Option.none_or] at hheld
          rcases hheld with hheld | ⟨hcarries, hheld⟩
          · exact absurd (hheld.symm.trans hg).symm (Option.some_ne_none _)
          · rw [hheld] at hg
            obtain ⟨read, rfl, hread⟩ := Option.bind_eq_some_iff.mp hg
            exact h.2 read (hunstale hcarries _ hseen).symm g hread

variable (py calls)

end

/-! ## Two refreshes -/

/-- Numbers alone are read as floats. -/
def samplePython : Python where
  float := fun value ↦ value.number?
  stamp := fun _ ↦ "2026-09-26T00:00:00Z"

/-- A reply with both tokens, the access token good for an hour. -/
def tokenReply (access refresh : String) : Fields :=
  [("access_token", .str access), ("refresh_token", .str refresh), ("expires_in", .int 3600)]

/-- A login with the device code, and two refreshes an hour later. -/
def refreshes : Nat → Call
  | 0 => .deviceLogin 0 (tokenReply "a0" "r0")
  | 1 => .accessToken false 3600 3601 (some (tokenReply "a1" "r1"))
  | _ => .accessToken false 3600 3602 (some (tokenReply "a2" "r2"))

/-- The session of the login. -/
def loginState : Fields := mergeTokens samplePython 0 deviceState (tokenReply "a0" "r0")

/-- An hour later the access token is not fresh. -/
theorem fresh_loginState : fresh samplePython 3600 loginState = false := by decide +kernel

/-- So the refresh token is sent. -/
theorem presents_refreshes : (refreshes 1).presents samplePython (some loginState) =
      some ⟨.device, .str "opencode-cli", .str "r0"⟩ ∧
    (refreshes 2).presents samplePython (some loginState) =
      some ⟨.device, .str "opencode-cli", .str "r0"⟩ := by
  have hheld : held loginState = some ⟨.device, .str "opencode-cli", .str "r0"⟩ := rfl
  simp [refreshes, Call.presents, fresh_loginState, hheld]

-- both have read the session of the login
theorem presented_given_twice : (⟨.device, .str "opencode-cli", .str "r0"⟩ : Grant) ∈
    grants samplePython refreshes (.start ⟨none, true⟩)
      [.read 0, .commit 0, .read 1, .read 2, .commit 1] :=
  presented_given samplePython refreshes rfl _ (i := 2) rfl presents_refreshes.2

end LcpGateway.Auth.Console
