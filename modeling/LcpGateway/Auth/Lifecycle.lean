import LcpGateway.Auth.KeyManager

/-!
# The life of a key

Library `Auth`. Source `src/api/key_manager.py:94–248`. A row keeps its id, hash and expiry, and
a revoked row stays revoked; whether a raw key is accepted is decided by its row alone.
-/

namespace LcpGateway.Auth
open LcpGateway.Base

/-- What every call keeps of a row. -/
structure Ages (k k' : ApiKey) : Prop where
  id_eq : k'.id = k.id
  hash_eq : k'.keyHash = k.keyHash
  expires_eq : k'.expiresAt = k.expiresAt
  revoked : k.status = "revoked" → k'.status = "revoked"

namespace Ages

/-- A row that is left alone. -/
theorem refl (k : ApiKey) : Ages k k := ⟨rfl, rfl, rfl, fun h ↦ h⟩

/-- One change after another. -/
theorem trans {k k' k'' : ApiKey} (h : Ages k k') (h' : Ages k' k'') : Ages k k'' :=
  ⟨h'.id_eq.trans h.id_eq, h'.hash_eq.trans h.hash_eq, h'.expires_eq.trans h.expires_eq,
    fun hrevoked ↦ h'.revoked (h.revoked hrevoked)⟩

end Ages

namespace KeyStore

variable (p : Platform) {s : KeyStore} {id : Nat} {k : ApiKey}

/-- The row of an id decides whether its raw key is accepted. -/
theorem accepts_eq (hk : s.find id = some k) {raw : String} (hraw : k.keyHash = p.sha256 raw)
    (now : Int) : s.accepts p raw now = (k.status = "active" && !k.expired p now) := by
  have hhash : s.rows.find? (fun k ↦ k.keyHash = p.sha256 raw) = some k :=
    find?_of_mem_of_nodup s.unique (Table.mem_of_find hk).1 hraw
  have hfind := find?_and_of_nodup s.unique (fun k ↦ decide (k.status = "active")) (p.sha256 raw)
  simp only [Bool.and_comm (decide (_ = "active"))] at hfind
  rw [accepts, validateKey, hfind, hhash, Option.filter_some]
  by_cases hactive : k.status = "active"
  · by_cases hexpired : k.expired p now <;> simp [hactive, hexpired]
  · simp [hactive]

/-- A rewritten row, when the rewriting keeps what a call keeps. -/
theorem find_update (hk : s.find id = some k) (i : Nat) (f : ApiKey → ApiKey)
    (hf : ∀ k, (f k).id = k.id ∧ (f k).keyHash = k.keyHash) (hages : ∀ k, Ages k (f k)) :
    ∃ k', (s.update i f hf).find id = some k' ∧ Ages k k' := by
  have hfind := s.find_modify i id f (fun k ↦ (hf k).1)
  rw [hk, Option.map_some] at hfind
  refine ⟨_, hfind, ?_⟩
  split
  · exact hages k
  · exact Ages.refl k

/-- A row of a table that a new row was added to. -/
theorem find_add (hk : s.find id = some k) {new : ApiKey} {s' : KeyStore}
    (h : s.add new = some s') : s'.find id = some k := by
  unfold add at h
  split at h
  · obtain rfl := Option.some.inj h
    exact Table.find_insert hk { new with id := s.nextId } rfl
  · simp at h

private theorem ages_revoke (now : Int) (k : ApiKey) : Ages k (ApiKey.revoke now k) :=
  ⟨rfl, rfl, rfl, fun _ ↦ rfl⟩

/-- What one call does to the table: nothing, one row rewritten, one row added, or both. -/
inductive Effect (s : KeyStore) : Int × KeyCall → KeyStore → Prop
  | kept (call : Int × KeyCall) : Effect s call s
  | revoked (t : Int) (i : Nat) :
      Effect s (t, .revoke i) (s.update i (ApiKey.revoke t) (fun _ ↦ ⟨rfl, rfl⟩))
  | touched (t : Int) (raw : String) (i : Nat) :
      Effect s (t, .validate raw) (s.update i (ApiKey.touch t) (fun _ ↦ ⟨rfl, rfl⟩))
  | created (t : Int) (r : KeyRequest) (raw : String) (s' : KeyStore)
      (hadd : s.add (newKey p r raw t) = some s') : Effect s (t, .create r raw) s'
  | rotated (t : Int) (i : Nat) (raw : String) (old : ApiKey) (s' : KeyStore)
      (hadd : (s.update i (ApiKey.revoke t) (fun _ ↦ ⟨rfl, rfl⟩)).add (successor p old raw t) =
        some s') : Effect s (t, .rotate i raw) s'

/-- Every call has one of the effects. -/
theorem effect_step (s : KeyStore) (call : Int × KeyCall) : Effect p s call (s.step p call) := by
  obtain ⟨t, call⟩ := call
  cases call with
  | create r raw =>
    simp only [step, createKey, Option.map_map]
    cases hadd : s.add (newKey p r raw t) with
    | none => exact .kept _
    | some s' => exact .created t r raw s' hadd
  | rotate i raw =>
    simp only [step, rotateKey]
    split
    · exact .kept _
    · next old hold =>
      cases hadd : (s.update i (ApiKey.revoke t) (fun _ ↦ ⟨rfl, rfl⟩)).add
          (successor p old raw t) with
      | none => exact .kept _
      | some s' => exact .rotated t i raw old s' hadd
  | revoke i =>
    simp only [step, revokeKey]
    split
    · exact .kept _
    · exact .revoked t i
  | validate raw =>
    simp only [step, validateKey]
    split
    · exact .kept _
    · split
      · exact .kept _
      · exact .touched t raw _

/-- What a call does to a row. -/
theorem find_step (hk : s.find id = some k) (call : Int × KeyCall) :
    ∃ k', (s.step p call).find id = some k' ∧ Ages k k' := by
  have heffect := effect_step p s call
  generalize s.step p call = s' at heffect
  cases heffect with
  | kept => exact ⟨k, hk, Ages.refl k⟩
  | revoked t i => exact find_update hk i (ApiKey.revoke t) _ (ages_revoke t)
  | touched t raw i =>
    exact find_update hk i (ApiKey.touch t) _ (fun _ ↦ ⟨rfl, rfl, rfl, fun h ↦ h⟩)
  | created t r raw _ hadd => exact ⟨k, find_add hk hadd, Ages.refl k⟩
  | rotated t i raw old _ hadd =>
    obtain ⟨k', hk', hages⟩ := find_update hk i (ApiKey.revoke t) (fun _ ↦ ⟨rfl, rfl⟩)
      (ages_revoke t)
    exact ⟨k', find_add hk' hadd, hages⟩

/-- What a run does to a row. -/
theorem find_run (hk : s.find id = some k) (calls : List (Int × KeyCall)) :
    ∃ k', (run (step p) s calls).find id = some k' ∧ Ages k k' := by
  induction calls generalizing s k with
  | nil => exact ⟨k, hk, Ages.refl k⟩
  | cons call rest ih =>
    obtain ⟨k₁, hk₁, hages₁⟩ := find_step p hk call
    obtain ⟨k₂, hk₂, hages₂⟩ := ih hk₁
    exact ⟨k₂, hk₂, hages₁.trans hages₂⟩

/-- A revoked key is not accepted, now or later. -/
theorem not_accepts_of_revoked (hk : s.find id = some k) {raw : String}
    (hraw : k.keyHash = p.sha256 raw) (hrevoked : k.status = "revoked")
    (calls : List (Int × KeyCall)) (now : Int) :
    (run (step p) s calls).accepts p raw now = false := by
  obtain ⟨k', hk', hages⟩ := find_run p hk calls
  rw [accepts_eq p hk' (hages.hash_eq.trans hraw), hages.revoked hrevoked]
  rfl

/-- A key is not accepted after its expiry, now or later. -/
theorem not_accepts_of_expired (hk : s.find id = some k) {raw : String}
    (hraw : k.keyHash = p.sha256 raw) {now : Int} (hexpired : k.expired p now)
    (calls : List (Int × KeyCall)) : (run (step p) s calls).accepts p raw now = false := by
  obtain ⟨k', hk', hages⟩ := find_run p hk calls
  have hexpired' : k'.expired p now := by
    rw [ApiKey.expired, hages.expires_eq]
    exact hexpired
  rw [accepts_eq p hk' (hages.hash_eq.trans hraw), hexpired', Bool.not_true, Bool.and_false]

/-- An expiry that has passed stays passed. -/
theorem expired_of_le {p : Platform} {t now : Int} (h : k.expired p t) (hle : t ≤ now) :
    k.expired p now := by
  rw [ApiKey.expired, Option.any_eq_true] at h ⊢
  obtain ⟨exp, hexp, hlt⟩ := h
  refine ⟨exp, hexp, ?_⟩
  rw [decide_eq_true_eq] at hlt ⊢
  omega

/-- An accepted raw key has an active row that has not expired. -/
theorem exists_of_accepts {p : Platform} {raw : String} {now : Int} (h : s.accepts p raw now) :
    ∃ k, s.find k.id = some k ∧ k.keyHash = p.sha256 raw ∧ k.status = "active" ∧
      k.expired p now = false := by
  rw [accepts, validateKey] at h
  split at h
  · simp at h
  · next k hfind =>
    have hk := List.find?_some hfind
    simp only [Bool.and_eq_true, decide_eq_true_eq] at hk
    refine ⟨k, Table.find_of_mem (List.mem_of_find?_eq_some hfind), hk.1, hk.2, ?_⟩
    split at h
    · simp at h
    · next hexpired => simpa using hexpired

private theorem exists_of_find_update {i : Nat} {f : ApiKey → ApiKey}
    (hf : ∀ k, (f k).id = k.id ∧ (f k).keyHash = k.keyHash)
    (hexpires : ∀ k, (f k).expiresAt = k.expiresAt)
    (hactive : ∀ k, (f k).status = "active" → k.status = "active")
    (h : (s.update i f hf).find id = some k) :
    ∃ k₀, s.find id = some k₀ ∧ k.keyHash = k₀.keyHash ∧ k.expiresAt = k₀.expiresAt ∧
      (k.status = "active" → k₀.status = "active") := by
  have hfind := s.find_modify i id f (fun k ↦ (hf k).1)
  rw [show (s.modify i f _).find id = some k from h] at hfind
  obtain ⟨k₀, hk₀, rfl⟩ := Option.map_eq_some_iff.mp hfind.symm
  refine ⟨k₀, hk₀, ?_⟩
  split
  · exact ⟨(hf k₀).2, hexpires k₀, hactive k₀⟩
  · exact ⟨rfl, rfl, fun h ↦ h⟩

/-- Revoking and validating produce no working key. -/
theorem accepts_of_accepts_step {raw : String} {now : Int} {call : Int × KeyCall}
    (hcall : (∃ i, call.2 = .revoke i) ∨ ∃ raw', call.2 = .validate raw')
    (h : (s.step p call).accepts p raw now) : s.accepts p raw now := by
  obtain ⟨k, hk, hraw, hactive, hexpired⟩ := exists_of_accepts h
  have hback : ∃ k₀, s.find k.id = some k₀ ∧ k.keyHash = k₀.keyHash ∧
      k.expiresAt = k₀.expiresAt ∧ (k.status = "active" → k₀.status = "active") := by
    have heffect := effect_step p s call
    generalize s.step p call = s' at heffect hk
    cases heffect with
    | kept => exact ⟨k, hk, rfl, rfl, fun h ↦ h⟩
    | revoked t i =>
      exact exists_of_find_update (f := ApiKey.revoke t) (fun _ ↦ ⟨rfl, rfl⟩) (fun _ ↦ rfl)
        (fun _ h ↦ by simp [ApiKey.revoke] at h) hk
    | touched t raw' i =>
      exact exists_of_find_update (f := ApiKey.touch t) (fun _ ↦ ⟨rfl, rfl⟩) (fun _ ↦ rfl)
        (fun _ h ↦ h) hk
    | created | rotated => simp at hcall
  obtain ⟨k₀, hk₀, hhash, hexpires, hstatus⟩ := hback
  have hexpired₀ : k₀.expired p now = false := by
    rw [ApiKey.expired, ← hexpires]
    exact hexpired
  rw [accepts_eq p hk₀ (hhash.symm.trans hraw), hstatus hactive, hexpired₀]
  rfl

/-! ### Fresh raw keys -/

end KeyStore

/-- The raw key a call issues. -/
def KeyCall.rawKey : KeyCall → Option String
  | .create _ raw => some raw
  | .rotate _ raw => some raw
  | _ => none

/-- The raw keys a sequence of calls issues. -/
def rawKeys (calls : List (Int × KeyCall)) : List String := calls.filterMap (fun c ↦ c.2.rawKey)

namespace KeyStore

variable (p : Platform) {s : KeyStore} {id : Nat} {k : ApiKey}

private theorem map_hash_update (i : Nat) (f : ApiKey → ApiKey)
    (hf : ∀ k, (f k).id = k.id ∧ (f k).keyHash = k.keyHash) :
    (s.update i f hf).rows.map ApiKey.keyHash = s.rows.map ApiKey.keyHash := by
  change ((s.rows.map fun k ↦ if k.id = i then f k else k).map ApiKey.keyHash) = _
  rw [List.map_map]
  refine List.map_congr_left (fun k _ ↦ ?_)
  simp only [Function.comp_apply]
  split
  · exact (hf k).2
  · rfl

private theorem map_hash_add {new : ApiKey} {s' : KeyStore} (h : s.add new = some s') :
    s'.rows.map ApiKey.keyHash = s.rows.map ApiKey.keyHash ++ [new.keyHash] := by
  unfold add at h
  split at h
  · obtain rfl := Option.some.inj h
    change (s.rows ++ [{ new with id := s.nextId }]).map ApiKey.keyHash = _
    rw [List.map_append]
    rfl
  · simp at h

/-- A call adds the hash of the raw key it issues and no other. -/
theorem map_hash_step (call : Int × KeyCall) :
    ∀ h ∈ (s.step p call).rows.map ApiKey.keyHash,
      h ∈ s.rows.map ApiKey.keyHash ∨ ∃ raw, call.2.rawKey = some raw ∧ h = p.sha256 raw := by
  intro h hh
  have heffect := effect_step p s call
  generalize s.step p call = s' at heffect hh
  cases heffect with
  | kept => exact .inl hh
  | revoked | touched =>
    rw [map_hash_update] at hh
    exact .inl hh
  | created t r raw _ hadd =>
    rw [map_hash_add hadd, List.mem_append, List.mem_singleton] at hh
    exact hh.imp_right (fun he ↦ ⟨raw, rfl, he⟩)
  | rotated t i raw old _ hadd =>
    rw [map_hash_add hadd, map_hash_update, List.mem_append, List.mem_singleton] at hh
    exact hh.imp_right (fun he ↦ ⟨raw, rfl, he⟩)

/-- The hashes of a table are those of the raw keys issued. -/
theorem map_hash_run (calls : List (Int × KeyCall)) :
    ∀ h ∈ (run (step p) s calls).rows.map ApiKey.keyHash,
      h ∈ s.rows.map ApiKey.keyHash ∨ ∃ raw ∈ rawKeys calls, h = p.sha256 raw := by
  induction calls generalizing s with
  | nil => exact fun h hh ↦ .inl hh
  | cons call rest ih =>
    intro h hh
    rcases ih h hh with hstep | ⟨raw, hraw, he⟩
    · rcases map_hash_step p call h hstep with hold | ⟨raw, hraw, he⟩
      · exact .inl hold
      · exact .inr ⟨raw, List.mem_filterMap.mpr ⟨call, List.mem_cons_self, hraw⟩, he⟩
    · obtain ⟨c, hc, hcraw⟩ := List.mem_filterMap.mp hraw
      exact .inr ⟨raw, List.mem_filterMap.mpr ⟨c, List.mem_cons_of_mem _ hc, hcraw⟩, he⟩

/-- The hash of a raw key that is issued for the first time is new. -/
theorem findHash_of_fresh (hinj : Function.Injective p.sha256)
    {before rest : List (Int × KeyCall)} {call : Int × KeyCall} {raw : String}
    (hraw : call.2.rawKey = some raw) (hfresh : (rawKeys (before ++ call :: rest)).Nodup) :
    (run (step p) empty before).findHash (p.sha256 raw) = none := by
  have hnotin : raw ∉ rawKeys before := by
    have hsplit : rawKeys (before ++ call :: rest) = rawKeys before ++ raw :: rawKeys rest := by
      simp only [rawKeys, List.filterMap_append, List.filterMap_cons, hraw]
    rw [hsplit, List.nodup_append] at hfresh
    exact fun hmem ↦ hfresh.2.2 raw hmem raw List.mem_cons_self rfl
  rw [findHash, List.find?_eq_none]
  intro k hk hkey
  rcases map_hash_run p before k.keyHash (List.mem_map_of_mem hk) with hempty | ⟨raw', hraw', he⟩
  · simp [empty] at hempty
  · have hhash : k.keyHash = p.sha256 raw := by simpa using hkey
    obtain rfl := hinj (he.symm.trans hhash)
    exact hnotin hraw'

private theorem findHash_eq_none_iff (h : String) :
    s.findHash h = none ↔ h ∉ s.rows.map ApiKey.keyHash := by
  rw [findHash, List.find?_eq_none, List.mem_map]
  simp

private theorem add_of_fresh (new : ApiKey) (hfresh : s.findHash new.keyHash = none) :
    ∃ s', s.add new = some s' ∧ s'.find s.nextId = some { new with id := s.nextId } :=
  ⟨s.create new hfresh, by rw [add, dif_pos hfresh],
    s.find_insert_self { new with id := s.nextId } rfl⟩

/-- A creation with a fresh raw key adds its row. -/
theorem find_step_create (r : KeyRequest) {raw : String} (t : Int)
    (hfresh : s.findHash (p.sha256 raw) = none) :
    ∃ k, (s.step p (t, .create r raw)).find s.nextId = some k ∧ k.keyHash = p.sha256 raw ∧
      k.expiresAt = orNone r.expiresAt := by
  obtain ⟨s', hadd, hfind⟩ := add_of_fresh (newKey p r raw t) hfresh
  have hstep : s.step p (t, .create r raw) = s' := by
    simp [step, createKey, hadd]
  exact ⟨_, hstep ▸ hfind, rfl, rfl⟩

/-- A revocation revokes the row of its id. -/
theorem find_step_revoke (hk : s.find id = some k) (t : Int) :
    (s.step p (t, .revoke id)).find id = some (k.revoke t) := by
  have hstep : s.step p (t, .revoke id) =
      s.update id (ApiKey.revoke t) (fun _ ↦ ⟨rfl, rfl⟩) := by
    simp [step, revokeKey, hk]
  have hfind := s.find_modify id id (ApiKey.revoke t) (fun _ ↦ rfl)
  rw [hk, Option.map_some, if_pos (Table.mem_of_find hk).2] at hfind
  exact hstep ▸ hfind

/-- A rotation with a fresh raw key revokes the row of its id. -/
theorem find_step_rotate (hk : s.find id = some k) {raw : String} (t : Int)
    (hfresh : s.findHash (p.sha256 raw) = none) :
    (s.step p (t, .rotate id raw)).find id = some (k.revoke t) := by
  have hnew : (s.update id (ApiKey.revoke t) (fun _ ↦ ⟨rfl, rfl⟩)).findHash
      (successor p k raw t).keyHash = none := by
    rw [findHash_eq_none_iff, map_hash_update, ← findHash_eq_none_iff]
    exact hfresh
  obtain ⟨s', hadd, _⟩ := add_of_fresh (successor p k raw t) hnew
  have hstep : s.step p (t, .rotate id raw) = s' := by
    simp [step, rotateKey, hk, hadd]
  have hfind := s.find_modify id id (ApiKey.revoke t) (fun _ ↦ rfl)
  rw [hk, Option.map_some, if_pos (Table.mem_of_find hk).2] at hfind
  rw [hstep]
  exact find_add hfind hadd

end KeyStore

/-! ### Keys over runs -/

section Runs

variable (p : Platform)

/-- Over every sequence of calls with fresh raw keys at times that do not decrease, and every
later call in it: a raw key is not accepted after its key was revoked or rotated away, nor after
a call at which its expiry had passed, nor after the readable expiry it was created with; a
revoked row stays revoked, and no call other than a creation or a rotation produces a working
key. -/
theorem keys_stay_dead (hinj : Function.Injective p.sha256)
    (before mid rest : List (Int × KeyCall)) (t t' : Int) (call last : KeyCall)
    (htimes : ((before ++ (t, call) :: mid ++ (t', last) :: rest).map Prod.fst).Pairwise (· ≤ ·))
    (hfresh : (rawKeys (before ++ (t, call) :: mid ++ (t', last) :: rest)).Nodup) :
    let s := run (KeyStore.step p) KeyStore.empty before
    let s' := run (KeyStore.step p) KeyStore.empty (before ++ (t, call) :: mid)
    (∀ id k raw, s.find id = some k → k.keyHash = p.sha256 raw →
        (call = .revoke id ∨ ∃ raw', call = .rotate id raw') →
        s'.accepts p raw t' = false ∧ ∃ k', s'.find id = some k' ∧ k'.status = "revoked") ∧
      (∀ id k raw, s.find id = some k → k.keyHash = p.sha256 raw → k.expired p t →
        s'.accepts p raw t' = false) ∧
      (∀ r raw exp, call = .create r raw → r.expiresAt ≠ "" →
        p.fromIsoFormat r.expiresAt = some exp → exp < t' → s'.accepts p raw t' = false) ∧
      ((∃ id, last = .revoke id) ∨ (∃ raw, last = .validate raw) →
        ∀ raw now, (s'.step p (t', last)).accepts p raw now → s'.accepts p raw now) := by
  intro s s'
  have hs' : s' = run (KeyStore.step p) (s.step p (t, call)) mid := run_append _ before _
  have hle : t ≤ t' := by
    rw [List.map_append, List.pairwise_append] at htimes
    exact htimes.2.2 t (by simp) t' (by simp)
  have hfresh' : ∀ raw, call.rawKey = some raw → s.findHash (p.sha256 raw) = none := by
    intro raw hraw
    rw [List.append_assoc, List.cons_append] at hfresh
    have hraw' : ((t, call) : Int × KeyCall).2.rawKey = some raw := hraw
    exact KeyStore.findHash_of_fresh p hinj hraw' hfresh
  refine ⟨?_, ?_, ?_, ?_⟩
  · intro id k raw hk hraw hcall
    have hstep : (s.step p (t, call)).find id = some (k.revoke t) := by
      rcases hcall with rfl | ⟨raw', rfl⟩
      · exact KeyStore.find_step_revoke p hk t
      · exact KeyStore.find_step_rotate p hk t (hfresh' raw' rfl)
    obtain ⟨k', hk', hages⟩ := KeyStore.find_run p hstep mid
    rw [hs']
    exact ⟨KeyStore.not_accepts_of_revoked p hstep hraw rfl mid t', k', hk', hages.revoked rfl⟩
  · intro id k raw hk hraw hexpired
    have hrun := KeyStore.not_accepts_of_expired p hk hraw
      (KeyStore.expired_of_le hexpired hle) ((t, call) :: mid)
    rw [hs']
    exact hrun
  · rintro r raw exp rfl htext hexp hlt
    obtain ⟨k, hk, hraw, hexpires⟩ := KeyStore.find_step_create p r t (hfresh' raw rfl)
    have hexpired : k.expired p t' := by
      simp [ApiKey.expired, hexpires, orNone, htext, hexp, hlt, Option.filter_some]
    rw [hs']
    exact KeyStore.not_accepts_of_expired p hk hraw hexpired mid
  · intro hlast raw now haccepts
    exact KeyStore.accepts_of_accepts_step p hlast haccepts

end Runs

/-- A raw key. -/
def rawZeros : String := "lcp_000000000000000000000000000000000000000000000000"

/-- Another raw key. -/
def rawOnes : String := "lcp_111111111111111111111111111111111111111111111111"

/-- The digests of the two raw keys, and the instants of two texts. -/
def samplePlatform : Platform where
  sha256 := fun raw ↦
    if raw = rawZeros then "b0bec84de73e541f840572b86e4343740e308171ff0ead92c5e95d893c510086"
    else if raw = rawOnes then "980f9465c78699d3bef48b60afcd0bf0e776345c35b9494d09c70efcd71f66b8"
    else "?" ++ raw
  fromIsoFormat := fun text ↦ if text = "2026-01-01" then some 1767225600000000 else none

/-- A request for a key with an expiry. -/
def keyRequest (expiresAt : String) : KeyRequest := ⟨"", "", 0, expiresAt, ""⟩

private theorem ne_of_head {raw digest : String} (h : digest.toList.head? ≠ some '?') :
    digest ≠ "?" ++ raw := by
  rintro rfl
  exact h (by simp)

private theorem injective_sample : Function.Injective samplePlatform.sha256 := by
  intro x y hxy
  simp only [samplePlatform] at hxy
  split at hxy <;> rename_i hx
  · split at hxy <;> rename_i hy
    · exact hx.trans hy.symm
    · split at hxy
      · exact absurd hxy (by decide)
      · exact absurd hxy (ne_of_head (by decide))
  · split at hxy <;> rename_i hx'
    · split at hxy
      · exact absurd hxy (by decide)
      · split at hxy <;> rename_i hy
        · exact hx'.trans hy.symm
        · exact absurd hxy (ne_of_head (by decide))
    · split at hxy
      · exact absurd hxy.symm (ne_of_head (by decide))
      · split at hxy
        · exact absurd hxy.symm (ne_of_head (by decide))
        · exact String.toList_injective (by simpa using congrArg String.toList hxy)

/-- A key that was revoked is not accepted. -/
theorem revoked_key_not_accepted :
    (run (KeyStore.step samplePlatform) KeyStore.empty
      [(0, .create (keyRequest "") rawZeros), (1, .revoke 1)]).accepts samplePlatform rawZeros 2 =
        false :=
  ((keys_stay_dead samplePlatform injective_sample [(0, .create (keyRequest "") rawZeros)] [] []
    1 2 (.revoke 1) (.validate rawZeros) (by decide) (by decide)).1 1 _ rawZeros rfl rfl
      (.inl rfl)).1

/-- A key that was revoked and then rotated has a successor that is accepted, and a key whose
expiry cannot be read is accepted at any time. -/
theorem rotated_after_revocation_accepted :
    (run (KeyStore.step samplePlatform) KeyStore.empty
        [(0, .create (keyRequest "") rawZeros), (1, .revoke 1), (2, .rotate 1 rawOnes)]).accepts
          samplePlatform rawOnes 3 = true ∧
      (run (KeyStore.step samplePlatform) KeyStore.empty
        [(0, .create (keyRequest "not-a-date") rawZeros)]).accepts samplePlatform rawZeros
          1000000000000000000 = true := by
  decide +kernel

end LcpGateway.Auth
