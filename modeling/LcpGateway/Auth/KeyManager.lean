import LcpGateway.Base.Run
import LcpGateway.Base.Table
import Mathlib.Data.Rat.Defs

/-!
# The key manager

Library `Auth`. Source `src/api/key_manager.py:94–248` and `src/api/models.py:53–69`. Times are
instants in microseconds; a column that holds the text of one holds the instant. Raw keys are
given by the caller, in place of the random token.
-/

namespace LcpGateway.Auth
open LcpGateway.Base

/-- What the key manager takes from the interpreter: the SHA-256 hex digest of a text, and
`datetime.fromisoformat` with a missing time zone read as UTC; `none` is a `ValueError`. -/
structure Platform where
  sha256 : String → String
  fromIsoFormat : String → Option Int

/-- A row of `api_keys`. -/
structure ApiKey where
  id : Nat
  keyHash : String
  keyPrefix : String
  name : String
  allowedProfiles : Option String
  spendLimit : Rat
  totalSpend : Rat
  status : String
  createdAt : Int
  lastUsedAt : Option Int
  expiresAt : Option String
  revokedAt : Option Int
  metadataTags : Option String
  deriving DecidableEq

/-- The table `api_keys`; `key_hash` is unique. -/
structure KeyStore extends Table ApiKey ApiKey.id where
  unique : (rows.map ApiKey.keyHash).Nodup

/-- The arguments of `create_key`. -/
structure KeyRequest where
  name : String
  allowedProfiles : String
  spendLimit : Rat
  expiresAt : String
  metadataTags : String

/-- What `create_key` and `rotate_key` return of a new key. -/
structure IssuedKey where
  key : String
  id : Nat
  keyPrefix : String
  name : String

/-- What `validate_key` returns. -/
structure KeyInfo where
  id : Nat
  name : String
  allowedProfiles : Option String
  spendLimit : Rat
  totalSpend : Rat
  deriving DecidableEq

/-- A text column: an empty text is stored as `NULL`. -/
def orNone (s : String) : Option String := if s = "" then none else some s

/-- `raw_key[:12]`. -/
def keyPrefixOf (raw : String) : String := String.ofList (raw.toList.take 12)

namespace ApiKey

/-- The expiry check of `validate_key`: an expiry that cannot be read is ignored;
`key_manager.py:226–236`. -/
def expired (p : Platform) (k : ApiKey) (now : Int) : Bool :=
  ((k.expiresAt.filter (· ≠ "")).bind p.fromIsoFormat).any (fun exp ↦ exp < now)

/-- The row of a revoked key. -/
def revoke (now : Int) (k : ApiKey) : ApiKey :=
  { k with status := "revoked", revokedAt := some now }

/-- The row of a key that has just been used. -/
def touch (now : Int) (k : ApiKey) : ApiKey := { k with lastUsedAt := some now }

end ApiKey

namespace KeyStore

/-- The table without a key. -/
def empty : KeyStore := ⟨⟨[], 1, by simp, by simp⟩, by simp⟩

/-- The row of a hash. -/
def findHash (s : KeyStore) (hash : String) : Option ApiKey :=
  s.rows.find? (fun k ↦ k.keyHash = hash)

/-- The row of an id rewritten, its id and hash kept. -/
def update (s : KeyStore) (id : Nat) (f : ApiKey → ApiKey)
    (hf : ∀ k, (f k).id = k.id ∧ (f k).keyHash = k.keyHash) : KeyStore where
  toTable := s.modify id f (fun k ↦ (hf k).1)
  unique := by
    have hhashes : ApiKey.keyHash ∘ (fun k ↦ if k.id = id then f k else k) = ApiKey.keyHash := by
      funext k
      simp only [Function.comp_apply]
      split
      · exact (hf k).2
      · rfl
    rw [Table.modify, Table.rewrite, List.map_map, hhashes]
    exact s.unique

/-- A new row under the next id, of a hash not in the table. -/
def create (s : KeyStore) (k : ApiKey) (hhash : s.findHash k.keyHash = none) : KeyStore where
  toTable := s.insert { k with id := s.nextId } rfl
  unique := by
    rw [Table.insert, List.map_append, List.nodup_append]
    refine ⟨s.unique, by simp, ?_⟩
    intro h hh j hj
    obtain ⟨k', hk', rfl⟩ := List.mem_map.mp hh
    obtain rfl : j = k.keyHash := by simpa using hj
    have hne := List.find?_eq_none.mp hhash k' hk'
    simpa using hne

/-- A row added when its hash is new; the unique constraint refuses any other one. -/
def add (s : KeyStore) (k : ApiKey) : Option KeyStore :=
  if h : s.findHash k.keyHash = none then some (s.create k h) else none

/-- The row `create_key` adds; `key_manager.py:107–117`. -/
def newKey (p : Platform) (r : KeyRequest) (raw : String) (now : Int) : ApiKey where
  id := 0
  keyHash := p.sha256 raw
  keyPrefix := keyPrefixOf raw
  name := if r.name = "" then "Key " ++ keyPrefixOf raw else r.name
  allowedProfiles := orNone r.allowedProfiles
  spendLimit := r.spendLimit
  totalSpend := 0
  status := "active"
  createdAt := now
  lastUsedAt := none
  expiresAt := orNone r.expiresAt
  revokedAt := none
  metadataTags := orNone r.metadataTags

/-- The row `rotate_key` adds: the settings of the old one; `key_manager.py:150–160`. -/
def successor (p : Platform) (old : ApiKey) (raw : String) (now : Int) : ApiKey where
  id := 0
  keyHash := p.sha256 raw
  keyPrefix := keyPrefixOf raw
  name := old.name
  allowedProfiles := old.allowedProfiles
  spendLimit := old.spendLimit
  totalSpend := 0
  status := "active"
  createdAt := now
  lastUsedAt := none
  expiresAt := old.expiresAt
  revokedAt := none
  metadataTags := old.metadataTags

/-- The answer of an issued key. -/
def issued (s : KeyStore) (k : ApiKey) (raw : String) : IssuedKey :=
  ⟨raw, s.nextId, k.keyPrefix, k.name⟩

/-- `create_key`; `key_manager.py:94–132`. `none` is an `IntegrityError`. -/
def createKey (p : Platform) (s : KeyStore) (r : KeyRequest) (raw : String) (now : Int) :
    Option (KeyStore × IssuedKey) :=
  (s.add (newKey p r raw now)).map (fun s' ↦ (s', s.issued (newKey p r raw now) raw))

/-- `rotate_key`; `key_manager.py:134–173`. The outer `none` is an `IntegrityError`, the inner
one an unknown id. -/
def rotateKey (p : Platform) (s : KeyStore) (id : Nat) (raw : String) (now : Int) :
    Option (KeyStore × Option IssuedKey) :=
  match s.find id with
  | none => some (s, none)
  | some old =>
    let revoked := s.update id (ApiKey.revoke now) (fun _ ↦ ⟨rfl, rfl⟩)
    (revoked.add (successor p old raw now)).map (fun s' ↦
      (s', some (s.issued (successor p old raw now) raw)))

/-- `revoke_key`; `key_manager.py:175–185`. -/
def revokeKey (s : KeyStore) (id : Nat) (now : Int) : KeyStore × Bool :=
  match s.find id with
  | none => (s, false)
  | some _ => (s.update id (ApiKey.revoke now) (fun _ ↦ ⟨rfl, rfl⟩), true)

/-- `validate_key`; `key_manager.py:208–248`. -/
def validateKey (p : Platform) (s : KeyStore) (raw : String) (now : Int) :
    KeyStore × Option KeyInfo :=
  match s.rows.find? (fun k ↦ k.keyHash = p.sha256 raw && k.status = "active") with
  | none => (s, none)
  | some k =>
    if k.expired p now then (s, none)
    else
      (s.update k.id (ApiKey.touch now) (fun _ ↦ ⟨rfl, rfl⟩),
        some ⟨k.id, k.name, k.allowedProfiles, k.spendLimit, k.totalSpend⟩)

end KeyStore

/-- One call of the key manager. -/
inductive KeyCall where
  | create (r : KeyRequest) (raw : String)
  | rotate (id : Nat) (raw : String)
  | revoke (id : Nat)
  | validate (raw : String)

namespace KeyStore

/-- The table after a call at a time; one that raises leaves it as it is. -/
def step (p : Platform) (s : KeyStore) (call : Int × KeyCall) : KeyStore :=
  match call.2 with
  | .create r raw => ((s.createKey p r raw call.1).map Prod.fst).getD s
  | .rotate id raw => ((s.rotateKey p id raw call.1).map Prod.fst).getD s
  | .revoke id => (s.revokeKey id call.1).1
  | .validate raw => (s.validateKey p raw call.1).1

/-- `validate_key` accepts a raw key. -/
def accepts (p : Platform) (s : KeyStore) (raw : String) (now : Int) : Bool :=
  (s.validateKey p raw now).2.isSome

end KeyStore
end LcpGateway.Auth
