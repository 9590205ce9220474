import LcpGateway.Base.Dict
import LcpGateway.Base.Relocate

/-!
# The credential store

Library `Auth`. Sources `src/api/credential_store.py:37–116`, `src/api/crypto.py:102–132` and the
move of `src/server/endpoints.py:1041–1056`. One table holds the tokens of all three kinds of
credential, under keys that carry the kind as a prefix. Database writes are taken to succeed.
-/

namespace LcpGateway.Auth
open LcpGateway.Base

/-- Fernet under the derived key, without the time stamp and the vector of a token. -/
structure Fernet where
  encrypt : String → String
  decrypt : String → Option String
  decrypt_encrypt : ∀ plaintext, decrypt (encrypt plaintext) = some plaintext
  encrypt_ne_empty : ∀ plaintext, encrypt plaintext ≠ ""

/-- `encrypt_secret`; without a master key it raises. -/
def encryptSecret (fernet : Option Fernet) (plaintext : String) : Option String :=
  if plaintext = "" then some "" else fernet.map (fun f ↦ f.encrypt plaintext)

/-- `decrypt_secret`: a token that cannot be decrypted reads as the empty text. -/
def decryptSecret (fernet : Option Fernet) (token : String) : String :=
  if token = "" then "" else (fernet.bind (fun f ↦ f.decrypt token)).getD ""

/-- `CredentialStore`: the tokens of the table, and the cipher when a master key can be had. -/
structure CredentialStore where
  tokens : Dict String String
  fernet : Option Fernet

/-- What is stored for a provider. -/
inductive CredentialKind where
  | apiKey
  | cookie
  | workspaceId
  deriving DecidableEq, Repr

/-- The kinds in the order a rename moves them. -/
def CredentialKind.all : List CredentialKind := [.apiKey, .cookie, .workspaceId]

/-- `provider`, `_cookie_key` and `_ws_id_key`: the key of a row. -/
def CredentialKind.slot : CredentialKind → String → String
  | .apiKey, provider => provider
  | .cookie, provider => "cookie:" ++ provider
  | .workspaceId, provider => "wsid:" ++ provider

/-- The plaintext `get` returns for a token; the empty text is none. -/
def readable (fernet : Option Fernet) (token : String) : Option String :=
  let plaintext := decryptSecret fernet token
  if plaintext = "" then none else some plaintext

/-- The token with the same plaintext, encrypted again. -/
def reseal (fernet : Option Fernet) (token : String) : Option String :=
  (readable fernet token).bind (encryptSecret fernet)

namespace CredentialStore

/-- `set(key, "")`. -/
def clear (store : CredentialStore) (key : String) : CredentialStore :=
  { store with tokens := store.tokens.filterKeys (· ≠ key) }

/-- `set`: an empty text clears the row; `none` when `encrypt_secret` raises. -/
def set (store : CredentialStore) (key plaintext : String) : Option CredentialStore :=
  if plaintext = "" then some (store.clear key)
  else (encryptSecret store.fernet plaintext).map (fun token ↦
    { store with tokens := store.tokens.set key token })

/-- `get`. -/
def get (store : CredentialStore) (key : String) : Option String :=
  (store.tokens.get? key).bind (readable store.fernet)

/-- `has`. -/
def has (store : CredentialStore) (key : String) : Bool := store.tokens.contains key

/-- The move of one kind; `endpoints.py:1045–1053`. -/
def moveKind (old new : String) (kind : CredentialKind) (store : CredentialStore) :
    Option CredentialStore :=
  if store.has (kind.slot old) then
    (store.set (kind.slot new) ((store.get (kind.slot old)).getD "")).bind
      (fun store ↦ store.set (kind.slot old) "")
  else some store

/-- The moves one after another, until one raises; `endpoints.py:1044–1056`. -/
def moveKinds (old new : String) : List CredentialKind → CredentialStore → CredentialStore
  | [], store => store
  | kind :: rest, store =>
    match store.moveKind old new kind with
    | some moved => moveKinds old new rest moved
    | none => store

/-- No credential of any kind is stored for the provider. -/
def Bare (store : CredentialStore) (provider : String) : Prop :=
  ∀ kind : CredentialKind, store.has (kind.slot provider) = false

/-- Every kind that was stored for `old` is stored for `new` now, as the same token or one with
the same plaintext, and nothing is stored for `old`. -/
def Renamed (store after : CredentialStore) (old new : String) : Prop :=
  ∀ kind : CredentialKind,
    Relocated (fun token token' ↦ token' = token ∨
        ∃ plaintext, readable store.fernet token = some plaintext ∧
          readable after.fernet token' = some plaintext)
      store.tokens.get? after.tokens.get? (kind.slot old) (kind.slot new)

/-- A stored token of the kind is readable and its new row is none of the old name; without one,
the new row is empty or of the old name. -/
def Movable (store : CredentialStore) (old new : String) (kind : CredentialKind) : Prop :=
  (store.has (kind.slot old) = true → (store.get (kind.slot old)).isSome ∧
    ∀ other : CredentialKind, kind.slot new ≠ other.slot old) ∧
  (store.has (kind.slot old) = false → store.has (kind.slot new) = false ∨
    ∃ other : CredentialKind, kind.slot new = other.slot old)

variable (store : CredentialStore) {old new : String}

/-- Clearing never raises. -/
@[simp] theorem set_empty (key : String) : store.set key "" = some (store.clear key) := rfl

/-- A row is stored. -/
theorem has_eq (key : String) : store.has key = (store.tokens.get? key).isSome := rfl

/-- No row is stored. -/
theorem has_eq_false_iff (key : String) :
    store.has key = false ↔ store.tokens.get? key = none := by
  rw [has_eq, Option.isSome_eq_false_iff, Option.isNone_iff_eq_none]

/-- A cleared row is gone, every other one is unchanged. -/
theorem get?_clear (key key' : String) :
    (store.clear key).tokens.get? key' =
      if key' = key then none else store.tokens.get? key' := by
  rw [clear, Dict.get?_filterKeys]
  by_cases h : key' = key <;> simp [h]

/-- A cleared row is gone, every other one is stored as before. -/
theorem has_clear (key key' : String) :
    (store.clear key).has key' = (decide (key' ≠ key) && store.has key') := by
  rw [has_eq, has_eq, get?_clear]
  by_cases h : key' = key <;> simp [h]

end CredentialStore

/-- A readable token has a text and a cipher. -/
theorem of_readable {fernet : Option Fernet} {token plaintext : String}
    (h : readable fernet token = some plaintext) :
    plaintext ≠ "" ∧ ∃ f, fernet = some f := by
  simp only [readable] at h
  split at h
  · simp at h
  · next hne =>
    obtain rfl := Option.some.inj h
    refine ⟨hne, ?_⟩
    cases fernet with
    | none => simp [decryptSecret] at hne
    | some f => exact ⟨f, rfl⟩

/-- A text that is encrypted is read back. -/
theorem readable_encrypt (f : Fernet) {plaintext : String} (hne : plaintext ≠ "") :
    readable (some f) (f.encrypt plaintext) = some plaintext := by
  simp [readable, decryptSecret, f.encrypt_ne_empty, f.decrypt_encrypt, hne]

/-- A token that is encrypted again has the plaintext it had. -/
theorem readable_reseal {fernet : Option Fernet} {token token' : String}
    (h : reseal fernet token = some token') :
    ∃ plaintext, readable fernet token = some plaintext ∧
      readable fernet token' = some plaintext := by
  obtain ⟨plaintext, hplain, hseal⟩ := Option.bind_eq_some_iff.mp h
  obtain ⟨hne, f, rfl⟩ := of_readable hplain
  rw [encryptSecret, if_neg hne] at hseal
  obtain rfl := Option.some.inj hseal
  exact ⟨plaintext, hplain, readable_encrypt f hne⟩

/-- The tokens that can be encrypted again are the readable ones. -/
theorem isSome_reseal (fernet : Option Fernet) (token : String) :
    (reseal fernet token).isSome = (readable fernet token).isSome := by
  cases hplain : readable fernet token with
  | none => simp [reseal, hplain]
  | some plaintext =>
    obtain ⟨hne, f, rfl⟩ := of_readable hplain
    simp [reseal, hplain, encryptSecret, hne]

namespace CredentialStore

variable (store : CredentialStore) {old new : String}

/-- A move never raises, and relocates the row of its kind. -/
theorem moveKind_eq (old new : String) (kind : CredentialKind) :
    ∃ moved, store.moveKind old new kind = some moved ∧ moved.fernet = store.fernet ∧
      moved.tokens.get? = relocate (reseal store.fernet) (kind.slot old) (kind.slot new)
        store.tokens.get? := by
  unfold moveKind
  cases hrow : store.tokens.get? (kind.slot old) with
  | none =>
    rw [if_neg (by simp [has_eq, hrow])]
    refine ⟨store, rfl, rfl, funext fun z ↦ ?_⟩
    rw [relocate]
    by_cases hz : z = kind.slot old <;> simp [hz, hrow]
  | some token =>
    rw [if_pos (by simp [has_eq, hrow])]
    cases hplain : readable store.fernet token with
    | none =>
      refine ⟨(store.clear (kind.slot new)).clear (kind.slot old), ?_, rfl, funext fun z ↦ ?_⟩
      · simp [get, hrow, hplain]
      · rw [get?_clear, get?_clear, relocate, hrow]
        simp [reseal, hplain]
    | some plaintext =>
      obtain ⟨hne, f, hf⟩ := of_readable hplain
      refine ⟨{ store with tokens := store.tokens.set (kind.slot new) (f.encrypt plaintext) }.clear
        (kind.slot old), ?_, rfl, funext fun z ↦ ?_⟩
      · have hget : store.get (kind.slot old) = some plaintext := by simp [get, hrow, hplain]
        simp [hget, set, hne, encryptSecret, hf]
      · rw [get?_clear, Dict.get?_set, relocate, hrow]
        have hseal : reseal store.fernet token = some (f.encrypt plaintext) := by
          rw [reseal, hplain, Option.bind_some, encryptSecret, if_neg hne, hf]
          rfl
        simp [hseal, eq_comm]

/-- A rename relocates the rows of its kinds one after another. -/
theorem moveKinds_eq (old new : String) (kinds : List CredentialKind) :
    (store.moveKinds old new kinds).fernet = store.fernet ∧
      (store.moveKinds old new kinds).tokens.get? =
        relocateAll (reseal store.fernet) (·.slot old) (·.slot new) kinds store.tokens.get? := by
  induction kinds generalizing store with
  | nil => exact ⟨rfl, rfl⟩
  | cons kind rest ih =>
    obtain ⟨moved, hmove, hfernet, htokens⟩ := store.moveKind_eq old new kind
    obtain ⟨hf, ht⟩ := ih moved
    rw [moveKinds, hmove, relocateAll, ← htokens, ← hfernet]
    exact ⟨hf, ht⟩

/-- The rows of one name are distinct. -/
theorem slot_injective (provider : String) :
    Function.Injective (fun kind : CredentialKind ↦ kind.slot provider) := by
  have hcookie : "cookie:".length = 7 := rfl
  have hwsid : "wsid:".length = 5 := rfl
  intro a b h
  have hlength : (a.slot provider).length = (b.slot provider).length := congrArg String.length h
  cases a <;> cases b <;>
    first
    | rfl
    | simp only [CredentialKind.slot, String.length_append, hcookie, hwsid] at hlength
      omega

/-- Two names have different rows of one kind. -/
theorem slot_ne (kind : CredentialKind) (hne : old ≠ new) : kind.slot old ≠ kind.slot new := by
  cases kind with
  | apiKey => exact hne
  | cookie =>
    exact fun h ↦ hne (String.append_right_inj ("cookie:") |>.mp h)
  | workspaceId =>
    exact fun h ↦ hne (String.append_right_inj ("wsid:") |>.mp h)

/-- A rename moves every credential exactly when every kind is movable. -/
theorem renamed_iff (hne : old ≠ new) :
    store.Renamed (store.moveKinds old new CredentialKind.all) old new ↔
      ∀ kind, store.Movable old new kind := by
  have hall : ∀ kind : CredentialKind, kind ∈ CredentialKind.all := by
    intro kind
    cases kind <;> decide
  obtain ⟨hfernet, htokens⟩ := store.moveKinds_eq old new CredentialKind.all
  have hreseal : ∀ token token', reseal store.fernet token = some token' → token' = token ∨
      ∃ plaintext, readable store.fernet token = some plaintext ∧
        readable store.fernet token' = some plaintext :=
    fun _ _ h ↦ .inr (readable_reseal h)
  have hmoves := relocated_iff store.tokens.get? CredentialKind.all hreseal (slot_injective old)
    (slot_injective new) (fun kind ↦ slot_ne kind hne) (by decide)
  unfold Renamed
  rw [hfernet, htokens]
  refine (forall_congr' fun kind ↦ ?_).trans (hmoves.trans (forall_congr' fun kind ↦ ?_))
  · simp [hall kind]
  · have hrow : ((store.tokens.get? (kind.slot old)).bind (reseal store.fernet)).isSome =
        (store.get (kind.slot old)).isSome := by
      rw [get]
      cases store.tokens.get? (kind.slot old) with
      | none => rfl
      | some token => exact isSome_reseal store.fernet token
    simp [hall, Movable, has_eq, hrow]

end CredentialStore
end LcpGateway.Auth
