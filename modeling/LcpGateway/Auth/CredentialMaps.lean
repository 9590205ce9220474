import LcpGateway.Auth.CredentialStore
import LcpGateway.Base.SharedRows

/-!
# The three kinds of credential

Library `Auth`. Sources `src/api/credential_store.py:37–116` and the names that
`src/server/endpoints.py:911–914` accepts. API keys, cookies and workspace ids are meant to be three
maps from provider to secret. They share the rows of one table: an API key is stored under the bare
name, which may spell the row of a cookie or of a workspace id.
-/

namespace LcpGateway.Auth
open LcpGateway.Base

namespace CredentialStore

variable (store : CredentialStore) (provider : String)

/-- `set_cookie`. -/
def setCookie (cookie : String) : Option CredentialStore :=
  store.set (CredentialKind.cookie.slot provider) cookie

/-- `get_cookie`. -/
def getCookie : Option String := store.get (CredentialKind.cookie.slot provider)

/-- `set_workspace_id`. -/
def setWorkspaceId (wsId : String) : Option CredentialStore :=
  store.set (CredentialKind.workspaceId.slot provider) wsId

/-- `get_workspace_id`. -/
def getWorkspaceId : Option String := store.get (CredentialKind.workspaceId.slot provider)

/-- The write of one kind. -/
def setKind (kind : CredentialKind) (secret : String) : Option CredentialStore :=
  match kind with
  | .apiKey => store.set provider secret
  | .cookie => store.setCookie provider secret
  | .workspaceId => store.setWorkspaceId provider secret

/-- The read of one kind. -/
def getKind (kind : CredentialKind) : Option String :=
  match kind with
  | .apiKey => store.get provider
  | .cookie => store.getCookie provider
  | .workspaceId => store.getWorkspaceId provider

end CredentialStore

/-- A name a provider can be created with: any text but the empty one. -/
abbrev ProviderName : Type := { name : String // name ≠ "" }

/-- A kind of credential of a provider. -/
abbrev CredentialName : Type := CredentialKind × ProviderName

/-- The row a credential is stored in. -/
def CredentialName.row (c : CredentialName) : String := c.1.slot c.2.val

/-- A call that writes a credential; an empty secret clears it. -/
structure CredentialCall where
  name : CredentialName
  secret : String

/-- What is to be read behind the call. -/
def CredentialCall.value (call : CredentialCall) : Option String :=
  if call.secret = "" then none else some call.secret

/-- The store behind a call. -/
def CredentialStore.serve (store : CredentialStore) (call : CredentialCall) : CredentialStore :=
  (store.setKind call.name.2.val call.name.1 call.secret).getD store

/-- The store behind calls one after another. -/
def CredentialStore.serveAll (store : CredentialStore) (calls : List CredentialCall) :
    CredentialStore :=
  calls.foldl CredentialStore.serve store

/-- What a store answers to the reads. -/
def CredentialStore.reads (store : CredentialStore) (c : CredentialName) : Option String :=
  store.getKind c.2.val c.1

/-- Three maps that start with what the store answers, behind the same calls. -/
def secretsBehind (store : CredentialStore) (calls : List CredentialCall) :
    CredentialName → Option String :=
  writeAll store.reads (calls.map (fun call ↦ (call.name, call.value)))

variable {store : CredentialStore} {call : CredentialCall} {calls : List CredentialCall}

/-! ### Rows -/

/-- A row has a name that is not empty. -/
theorem row_ne_empty (c : CredentialName) : c.row ≠ "" := by
  obtain ⟨kind, provider⟩ := c
  intro h
  cases kind with
  | apiKey => exact provider.property h
  | cookie =>
    exact absurd (congrArg String.toList h) (by simp [CredentialName.row, CredentialKind.slot])
  | workspaceId =>
    exact absurd (congrArg String.toList h) (by simp [CredentialName.row, CredentialKind.slot])

/-- The API key of the provider that is named like the row of a credential; of an API key, it is
this key itself. -/
def CredentialName.namesake (c : CredentialName) : CredentialName :=
  (.apiKey, ⟨c.row, row_ne_empty c⟩)

/-- Credentials share a row exactly when they have the same namesake. -/
theorem row_eq_row_iff {c d : CredentialName} : c.row = d.row ↔ c.namesake = d.namesake := by
  simp [CredentialName.namesake]

/-! ### Calls -/

/-- A read reads the row of its credential. -/
theorem reads_eq (c : CredentialName) : store.reads c = store.get c.row := by
  obtain ⟨kind, provider⟩ := c
  cases kind <;> rfl

/-- A call writes the row of its credential. -/
theorem serve_eq : store.serve call = (store.set call.name.row call.secret).getD store := by
  obtain ⟨⟨kind, provider⟩, secret⟩ := call
  cases kind <;> rfl

/-- With a cipher a secret is read back from its row, and every other row reads as before. -/
theorem CredentialStore.set_of_fernet (tokens : Dict String String) (f : Fernet)
    (key secret : String) :
    ∃ tokens', (⟨tokens, some f⟩ : CredentialStore).set key secret = some ⟨tokens', some f⟩ ∧
      (⟨tokens', some f⟩ : CredentialStore).get =
        Function.update (⟨tokens, some f⟩ : CredentialStore).get key
          (if secret = "" then none else some secret) := by
  by_cases hempty : secret = ""
  · refine ⟨tokens.filterKeys (· ≠ key), by rw [hempty]; rfl, funext fun k ↦ ?_⟩
    rw [if_pos hempty, CredentialStore.get, Dict.get?_filterKeys]
    by_cases hk : k = key
    · rw [hk, Function.update_self]
      simp
    · rw [Function.update_of_ne hk, CredentialStore.get]
      simp [hk]
  · refine ⟨tokens.set key (f.encrypt secret), ?_, funext fun k ↦ ?_⟩
    · rw [CredentialStore.set, if_neg hempty, encryptSecret, if_neg hempty]
      rfl
    · rw [if_neg hempty, CredentialStore.get, Dict.get?_set]
      by_cases hk : k = key
      · rw [hk, Function.update_self, if_pos rfl, Option.bind_some, readable_encrypt f hempty]
      · rw [Function.update_of_ne hk, if_neg (Ne.symm hk), CredentialStore.get]

/-- With a cipher, what is read from the rows behind calls is what the calls have written. -/
theorem get_serveAll (tokens : Dict String String) (f : Fernet) (calls : List CredentialCall) :
    ((⟨tokens, some f⟩ : CredentialStore).serveAll calls).get =
      writeRows CredentialName.row (⟨tokens, some f⟩ : CredentialStore).get
        (calls.map (fun call ↦ (call.name, call.value))) := by
  induction calls generalizing tokens with
  | nil => rfl
  | cons call rest ih =>
    obtain ⟨tokens', hset, hget⟩ :=
      CredentialStore.set_of_fernet tokens f call.name.row call.secret
    have hserve : (⟨tokens, some f⟩ : CredentialStore).serve call = ⟨tokens', some f⟩ := by
      rw [serve_eq, hset, Option.getD_some]
    rw [CredentialStore.serveAll, List.foldl_cons, hserve, ← CredentialStore.serveAll, ih, hget]
    rfl

/-- Behind any calls the store answers as three maps exactly when every credential and the API key
of the provider that is named like its row were last given the same secret. -/
theorem serveAll_threeMaps_iff (tokens : Dict String String) (f : Fernet)
    (calls : List CredentialCall) :
    (∀ c, ((⟨tokens, some f⟩ : CredentialStore).serveAll calls).reads c =
        secretsBehind ⟨tokens, some f⟩ calls c) ↔
      ∀ c : CredentialName, secretsBehind ⟨tokens, some f⟩ calls c.namesake =
        secretsBehind ⟨tokens, some f⟩ calls c := by
  have hreads : (⟨tokens, some f⟩ : CredentialStore).reads =
      (⟨tokens, some f⟩ : CredentialStore).get ∘ CredentialName.row := funext reads_eq
  simp only [reads_eq, get_serveAll, secretsBehind, hreads]
  rw [writeRows_eq_writeAll_iff]
  constructor
  · exact fun h c ↦ h _ c rfl
  · intro h c d hrow
    rw [← h c, ← h d, row_eq_row_iff.mp hrow]

/-- A cipher that marks what it has encrypted. -/
def markingFernet : Fernet where
  encrypt plaintext := String.ofList ('t' :: plaintext.toList)
  decrypt token := some (String.ofList token.toList.tail)
  decrypt_encrypt plaintext := by simp
  encrypt_ne_empty plaintext h := by simpa using congrArg String.toList h

/-- The API key of a provider named "cookie:opencode". -/
def keyOfNamesake : CredentialCall := ⟨(.apiKey, ⟨"cookie:opencode", by decide⟩), "sk-1"⟩

/-- It is read as the cookie of opencode, which was never given one. -/
theorem cookie_read_from_namesake :
    ¬ ∀ c, ((⟨Dict.empty, some markingFernet⟩ : CredentialStore).serveAll [keyOfNamesake]).reads c =
      secretsBehind ⟨Dict.empty, some markingFernet⟩ [keyOfNamesake] c := by
  intro h
  have hcookie := h (.cookie, ⟨"opencode", by decide⟩)
  exact absurd hcookie (by decide +kernel)

end LcpGateway.Auth
