import LcpGateway.Server.ProviderEndpoints

/-!
# Credentials of deleted and renamed providers

Library `Server`. Sources `src/server/endpoints.py:975–1067`, `src/api/setup.py:416–455` and
`src/api/credential_store.py:37–116`. The setup page clears all three kinds of credential, the
Providers page the API key only; a rename writes what it can decrypt and clears the rest.
-/

namespace LcpGateway.Server
open LcpGateway.Base LcpGateway.Config LcpGateway.Auth LcpGateway.Breaker

/-- A request that frees the name of a provider. -/
inductive NameChange where
  | deleteOnPage (name : String)
  | removeInSetup (name : String)
  | rename (name : String) (body : Json)

namespace NameChange

/-- The name that is freed. -/
def name : NameChange → String
  | .deleteOnPage name => name
  | .removeInSetup name => name
  | .rename name _ => name

/-- The handler of the request. -/
def handler : NameChange → Handler Unit
  | .deleteOnPage name => serveProviderDelete name
  | .removeInSetup name => removeProvider name
  | .rename name body => serveProviderRename name body

/-- The name is free afterwards: a rename to the same name changes nothing. -/
def Frees : NameChange → Prop
  | .rename name body => newNameOf body ≠ name
  | _ => True

/-- The credentials follow the provider: a deletion leaves none, a rename moves each kind with its
plaintext. -/
def Follows (site site' : Site) : NameChange → Prop
  | .deleteOnPage name => ∀ store, site'.credentials = some store → store.Bare name
  | .removeInSetup name => ∀ store, site'.credentials = some store → store.Bare name
  | .rename name body => newNameOf body ≠ name → ∀ store, site.credentials = some store →
      ∃ store', site'.credentials = some store' ∧ store.Renamed store' name (newNameOf body)

/-- A deletion on the page meets no cookie and no workspace id of the name; a rename meets movable
kinds only. -/
def Guard (site : Site) : NameChange → Prop
  | .deleteOnPage name => ∀ store, site.credentials = some store →
      store.has (CredentialKind.cookie.slot name) = false ∧
        store.has (CredentialKind.workspaceId.slot name) = false
  | .removeInSetup _ => True
  | .rename name body => newNameOf body ≠ name → ∀ store, site.credentials = some store →
      ∀ kind, store.Movable name (newNameOf body) kind

end NameChange

/-- A provider that is created under the name, without an API key, has no credential. -/
def StartsBare (site : Site) (name : String) : Prop :=
  ∀ (boot : Boot) (fields : Fields) (discovered : List Json) (created : Site),
    fields.lookup "name" = some (.str name) →
    ((fields.lookup "api_key").getD .null).truthy = false →
    serveProviderCreate boot (.obj fields) discovered site = .ok () created →
    ∀ store, created.credentials = some store → store.Bare name

variable {site site' : Site} {name : String}

/-- A name without credentials stays bare until a key is given. -/
theorem startsBare_of_bare (h : ∀ store, site.credentials = some store → store.Bare name) :
    StartsBare site name := by
  intro boot fields discovered created _ hkey hrun store hstore
  obtain ⟨fields', providers, credentials, heq, -, hcredentials, rfl⟩ := serveProviderCreate_ok hrun
  obtain rfl := Json.obj.inj heq
  refine h store ?_
  rw [← hcredentials hkey]
  exact hstore

/-- Clearing the API key leaves nothing exactly when there is no cookie and no workspace id. -/
theorem bare_clear_iff (store : CredentialStore) (name : String) :
    (store.clear name).Bare name ↔
      store.has (CredentialKind.cookie.slot name) = false ∧
        store.has (CredentialKind.workspaceId.slot name) = false := by
  have hother : ∀ kind ≠ CredentialKind.apiKey, kind.slot name ≠ name := fun kind hne h ↦
    hne (CredentialStore.slot_injective name h)
  have hcookie := hother .cookie nofun
  have hwsid := hother .workspaceId nofun
  constructor
  · intro h
    have hc := h .cookie
    have hw := h .workspaceId
    rw [store.has_clear] at hc hw
    simpa [hcookie, hwsid] using And.intro hc hw
  · rintro ⟨hc, hw⟩ kind
    rw [store.has_clear]
    cases kind with
    | apiKey => simp [CredentialKind.slot]
    | cookie => simp [hc]
    | workspaceId => simp [hw]

/-- Clearing the rows of all kinds leaves nothing. -/
theorem bare_clearAll (store : CredentialStore) (name : String) :
    (CredentialKind.all.foldl (fun store kind ↦ store.clear (kind.slot name)) store).Bare name := by
  intro kind
  simp only [CredentialKind.all, List.foldl_cons, List.foldl_nil, CredentialStore.has_clear]
  cases kind <;> simp

/-- Every row of the old name is empty after a rename that moves the credentials. -/
theorem bare_of_renamed {store after : CredentialStore} {old new : String}
    (h : store.Renamed after old new) : after.Bare old :=
  fun kind ↦ (after.has_eq_false_iff _).mpr (h kind).1

/-- A deletion on the page clears the row of the API key. -/
theorem credentials_of_delete (h : serveProviderDelete name site = .ok () site') :
    site'.credentials = site.credentials.map (·.clear name) := by
  obtain ⟨_, _, -, -, -, -, rfl⟩ := serveProviderDelete_ok h
  rfl

/-- A removal in the setup clears the rows of all kinds. -/
theorem credentials_of_remove (h : removeProvider name site = .ok () site') :
    site'.credentials = site.credentials.map (fun store ↦
      CredentialKind.all.foldl (fun store kind ↦ store.clear (kind.slot name)) store) := by
  obtain ⟨_, _, -, -, -, rfl⟩ := removeProvider_ok h
  rfl

/-- A rename moves the rows of all kinds. -/
theorem credentials_of_rename {newName : String}
    (h : renameProvider name newName site = .ok () site') :
    site'.credentials = site.credentials.map (·.moveKinds name newName CredentialKind.all) := by
  obtain ⟨_, _, _, -, -, -, -, rfl⟩ := renameProvider_ok h
  rfl

/-- For every configuration and credential store: an accepted deletion or rename makes the
credentials follow the provider exactly when its condition holds, and then a provider created under
the freed name starts without one. -/
theorem credentials_follow_iff (site site' : Site) (change : NameChange)
    (h : change.handler site = .ok () site') :
    (change.Follows site site' ↔ change.Guard site) ∧
      (change.Follows site site' → change.Frees → StartsBare site' change.name) := by
  cases change with
  | deleteOnPage name =>
    refine ⟨?_, fun hfollows _ ↦ startsBare_of_bare hfollows⟩
    simp only [NameChange.Follows, NameChange.Guard, credentials_of_delete h,
      Option.map_eq_some_iff, forall_exists_index, and_imp, forall_apply_eq_imp_iff₂,
      bare_clear_iff]
  | removeInSetup name =>
    have hbare : ∀ store, site'.credentials = some store → store.Bare name := by
      intro store hstore
      rw [credentials_of_remove h] at hstore
      obtain ⟨before, -, rfl⟩ := Option.map_eq_some_iff.mp hstore
      exact bare_clearAll before name
    exact ⟨⟨fun _ ↦ trivial, fun _ ↦ hbare⟩, fun _ _ ↦ startsBare_of_bare hbare⟩
  | rename name body =>
    obtain ⟨-, ⟨hsame, rfl⟩ | ⟨hne, hmove⟩⟩ := serveProviderRename_ok h
    · exact ⟨⟨fun _ hne ↦ absurd hsame hne, fun _ hne ↦ absurd hsame hne⟩,
        fun _ hne ↦ absurd hsame hne⟩
    have hcredentials := credentials_of_rename hmove
    have hfollows : (NameChange.rename name body).Follows site site' ↔
        ∀ store, site.credentials = some store →
          store.Renamed (store.moveKinds name (newNameOf body) CredentialKind.all) name
            (newNameOf body) := by
      simp only [NameChange.Follows, hcredentials]
      refine ⟨fun h store hstore ↦ ?_,
        fun h _ store hstore ↦ ⟨_, by rw [hstore]; rfl, h store hstore⟩⟩
      obtain ⟨after, hafter, hrenamed⟩ := h hne store hstore
      rw [hstore] at hafter
      obtain rfl := Option.some.inj hafter
      exact hrenamed
    refine ⟨?_, fun hmoved _ ↦ startsBare_of_bare fun store hstore ↦ ?_⟩
    · rw [hfollows]
      simp only [CredentialStore.renamed_iff _ hne.symm]
      exact ⟨fun h _ ↦ h, fun h ↦ h hne⟩
    · rw [hcredentials] at hstore
      obtain ⟨before, hbefore, rfl⟩ := Option.map_eq_some_iff.mp hstore
      exact bare_of_renamed (hfollows.mp hmoved before hbefore)

/-- A cipher that marks what it has encrypted. -/
def sampleFernet : Fernet where
  encrypt plaintext := String.ofList ('t' :: ':' :: plaintext.toList)
  decrypt token :=
    match token.toList with
    | 't' :: ':' :: plaintext => some (String.ofList plaintext)
    | _ => none
  decrypt_encrypt plaintext := by simp
  encrypt_ne_empty plaintext h := by simpa using congrArg String.toList h

/-- A configured provider with the given rows in the credential store. -/
def vaultSite (tokens : Dict String String) : Site where
  raw := fun
    | .providers => .obj [("deepseek", .obj [])]
    | _ => .obj []
  textKeys := true
  settings := ⟨fun _ ↦ none⟩
  credentials := some ⟨tokens, some sampleFernet⟩
  breaker := .new defaultCbConfig

/-- A rename of the provider to "ds". -/
def sampleRename : NameChange := .rename "deepseek" (.obj [("new_name", .str "ds")])

/-- The rows of a readable API key and a readable cookie. -/
def readableRows : Dict String String :=
  (Dict.empty.set "deepseek" "t:key").set "cookie:deepseek" "t:session"

/-- The API key and the cookie follow a rename, and the old name is free. -/
theorem sampleRename_follows :
    sampleRename.Follows (vaultSite readableRows)
        (endState (sampleRename.handler (vaultSite readableRows))) ∧
      StartsBare (endState (sampleRename.handler (vaultSite readableRows))) "deepseek" := by
  have hboth := credentials_follow_iff (vaultSite readableRows) _ sampleRename
    (eq_ok_of_wentThrough (by decide +kernel))
  have hapart : ∀ kind other : CredentialKind, kind.slot "ds" ≠ other.slot "deepseek" := by
    intro kind other
    cases kind <;> cases other <;> decide +kernel
  have hfollows := hboth.1.mpr fun _ store hstore kind ↦ by
    obtain rfl := Option.some.inj hstore
    refine ⟨fun hhas ↦ ⟨?_, hapart kind⟩, fun _ ↦ .inl ?_⟩
    · cases kind with
      | apiKey => decide +kernel
      | cookie => decide +kernel
      | workspaceId => exact absurd hhas (by decide +kernel)
    · cases kind <;> decide +kernel
  exact ⟨hfollows, hboth.2 hfollows (by decide +kernel : newNameOf _ ≠ "deepseek")⟩

/-- A cookie outlives the deletion of its provider on the Providers page, and a rename destroys an
API key that cannot be decrypted. -/
theorem deletion_keeps_cookie_rename_destroys_key :
    ¬ (∀ (site site' : Site) (name : String),
      (NameChange.deleteOnPage name).handler site = .ok () site' →
        (NameChange.deleteOnPage name).Follows site site') ∧
    ¬ (∀ (site site' : Site) (name : String) (body : Json),
      (NameChange.rename name body).handler site = .ok () site' →
        (NameChange.rename name body).Follows site site') := by
  constructor
  · intro h
    have hbare := h (vaultSite readableRows) _ "deepseek" (eq_ok_of_wentThrough (by decide +kernel))
      _ rfl .cookie
    exact absurd hbare (by decide +kernel)
  · intro h
    obtain ⟨after, hafter, hrenamed⟩ := h (vaultSite (Dict.empty.set "deepseek" "stale")) _
      "deepseek" (.obj [("new_name", .str "ds")]) (eq_ok_of_wentThrough (by decide +kernel))
      (by decide) _ rfl
    obtain ⟨-, ⟨hnone, -⟩ | ⟨token, token', -, htoken, -⟩⟩ := hrenamed .apiKey
    · exact absurd hnone (by decide +kernel)
    · obtain rfl := Option.some.inj hafter
      exact absurd (htoken.symm.trans (by decide +kernel : _ = none)) (by simp)

end LcpGateway.Server
