import LcpGateway.Auth.Lifecycle
import LcpGateway.Spending.Ledger

/-!
# Budgets of a rotated key

Library `Spending`. Sources `src/api/key_manager.py:134–173` and `src/server/handler.py:780–814`.
A rotated key has a new id, and budgets stay bound to the old one: whether the block check still
answers is decided by the exhausted budgets that are bound to no key.
-/

namespace LcpGateway.Auth.KeyStore
open LcpGateway.Base

variable {p : Platform} {s s' : KeyStore} {id : Nat} {raw : String} {now : Int} {issued : IssuedKey}

/-- A rotation issues the raw key under the next id, with the settings of the old row. -/
theorem find_rotated (h : s.rotateKey p id raw now = some (s', some issued)) :
    issued.id = s.nextId ∧ issued.key = raw ∧ ∃ old, s.find id = some old ∧
      s'.find s.nextId = some { successor p old raw now with id := s.nextId } := by
  unfold rotateKey at h
  split at h
  · simp at h
  · next old hold =>
    obtain ⟨added, hadd, heq⟩ := Option.map_eq_some_iff.mp h
    obtain ⟨rfl, hissued⟩ := Prod.mk.inj heq
    obtain rfl := Option.some.inj hissued
    refine ⟨rfl, rfl, old, hold, ?_⟩
    unfold add at hadd
    split at hadd
    · obtain rfl := Option.some.inj hadd
      let revoked := s.update id (ApiKey.revoke now) (fun _ ↦ ⟨rfl, rfl⟩)
      exact revoked.find_insert_self { successor p old raw now with id := s.nextId } rfl
    · simp at hadd

/-- A request made with a rotated key carries its id. -/
theorem id_of_validateKey_rotated (h : s.rotateKey p id raw now = some (s', some issued))
    {t : Int} {info : KeyInfo} (hinfo : (s'.validateKey p issued.key t).2 = some info) :
    info.id = issued.id := by
  obtain ⟨hid, hkey, old, -, hfind⟩ := find_rotated h
  rw [hkey] at hinfo
  unfold validateKey at hinfo
  split at hinfo
  · simp at hinfo
  · next k hk =>
    split at hinfo
    · simp at hinfo
    · obtain rfl := Option.some.inj hinfo
      have hhash := List.find?_some hk
      simp only [Bool.and_eq_true, decide_eq_true_eq] at hhash
      have hmem := List.mem_of_find?_eq_some hk
      have heq := List.inj_on_of_nodup_map s'.unique hmem (Table.mem_of_find hfind).1 hhash.1
      rw [hid, heq]

end LcpGateway.Auth.KeyStore

namespace LcpGateway.Spending
open LcpGateway.Base

/-- A budget that blocks a profile, for the keys it applies to. -/
def Budget.blocksProfile (b : Budget) (profile : String) : Bool :=
  (b.profile = some profile || b.profile = none) && b.blocks

namespace Ledger

variable (l : Ledger) (profile : String)

/-- The block check of a key answers when a budget of the profile blocks that is bound to the
key or to none. -/
theorem checkBudgetBlock_isSome_iff (k : Nat) :
    (l.checkBudgetBlock profile (some k)).isSome ↔
      ∃ b ∈ l.rows, b.blocksProfile profile ∧ (b.keyId = some k ∨ b.keyId = none) := by
  rw [checkBudgetBlock, Option.isSome_map, List.find?_isSome]
  refine exists_congr fun b ↦ and_congr_right fun _ ↦ ?_
  simp only [Budget.inScope, Budget.blocksProfile, Bool.and_eq_true, Bool.or_eq_true,
    decide_eq_true_eq]
  tauto

/-- Without empty names, the handler rejects what the check answers. -/
theorem rejects_iff_isSome {l : Ledger} (hnames : ∀ b ∈ l.rows, b.name ≠ "")
    (keyId : Option Nat) :
    l.rejects profile keyId = true ↔ (l.checkBudgetBlock profile keyId).isSome := by
  unfold rejects
  cases hcheck : l.checkBudgetBlock profile keyId with
  | none => simp
  | some name =>
    obtain ⟨b, hb, rfl⟩ := Option.map_eq_some_iff.mp hcheck
    simp [hnames b (List.mem_of_find?_eq_some hb)]

/-- No budget that blocks the profile is bound to the old id, or one is bound to no key or to
the new id. -/
def LimitCarriesOver (old new : Nat) : Prop :=
  (∀ b ∈ l.rows, b.blocksProfile profile → b.keyId ≠ some old) ∨
    ∃ b ∈ l.rows, b.blocksProfile profile ∧ (b.keyId = some new ∨ b.keyId = none)

/-- The check of one id answers when that of another does, exactly when the limit carries over. -/
theorem isSome_imp_iff (old new : Nat) :
    ((l.checkBudgetBlock profile (some old)).isSome →
      (l.checkBudgetBlock profile (some new)).isSome) ↔ l.LimitCarriesOver profile old new := by
  simp only [checkBudgetBlock_isSome_iff, LimitCarriesOver]
  constructor
  · intro h
    by_cases hbound : ∃ b ∈ l.rows, b.blocksProfile profile ∧ b.keyId = some old
    · obtain ⟨b, hb, hblocks, hkey⟩ := hbound
      exact .inr (h ⟨b, hb, hblocks, .inl hkey⟩)
    · exact .inl fun b hb hblocks hkey ↦ hbound ⟨b, hb, hblocks, hkey⟩
  · rintro (hnone | hsome) ⟨b, hb, hblocks, hkey⟩
    · exact ⟨b, hb, hblocks, .inr (hkey.resolve_left (hnone b hb hblocks))⟩
    · exact hsome

end Ledger

open Auth

/-- A rotation keeps the block of a key on a profile exactly when no exhausted block budget of
the profile is bound to the key, or one is bound to no key (or to the id that is assigned next).
This is so for the answer of the check, and for the rejection when no budget has an empty
name. -/
theorem rotation_keeps_block_iff (p : Platform) (l : Ledger) (profile : String)
    {s s' : KeyStore} {id : Nat} {raw : String} {now : Int} {issued : IssuedKey}
    (hrotate : s.rotateKey p id raw now = some (s', some issued)) :
    (∀ t info, (s'.validateKey p issued.key t).2 = some info → info.id = issued.id) ∧
      (((l.checkBudgetBlock profile (some id)).isSome →
        (l.checkBudgetBlock profile (some issued.id)).isSome) ↔
          l.LimitCarriesOver profile id s.nextId) ∧
      ((∀ b ∈ l.rows, b.name ≠ "") →
        ((l.rejects profile (some id) → l.rejects profile (some issued.id)) ↔
          l.LimitCarriesOver profile id s.nextId)) := by
  obtain ⟨hid, -⟩ := KeyStore.find_rotated hrotate
  rw [hid]
  refine ⟨fun t info hinfo ↦ (KeyStore.id_of_validateKey_rotated hrotate hinfo).trans hid,
    l.isSome_imp_iff profile id s.nextId, fun hnames ↦ ?_⟩
  rw [Ledger.rejects_iff_isSome profile hnames, Ledger.rejects_iff_isSome profile hnames]
  exact l.isSome_imp_iff profile id s.nextId

/-! ### A budget of one key -/

/-- Digests that are the texts themselves, and no readable expiry. -/
def plainPlatform : Platform := ⟨id, fun _ ↦ none⟩

/-- One key, with id 1. -/
def oneKey : KeyStore :=
  (KeyStore.empty.step plainPlatform (0, .create ⟨"agent", "", 0, "", ""⟩ "lcp_old"))

/-- A block budget of ten dollars that is used up, of one key or of all. -/
def usedUp (keyId : Option Nat) : Ledger :=
  ⟨[⟨1, "cap", keyId, some "pi", 10, Rounded.zero.add 12, some "monthly", some "80", some "block",
    some "exceeded", none⟩], 2, List.nodup_singleton _,
    List.forall_mem_singleton.mpr Nat.one_lt_two⟩

/-- The budget of key 1 rejects it; the key that replaces it is not rejected. -/
theorem rotated_key_not_rejected :
    ∃ s' issued, oneKey.rotateKey plainPlatform 1 "lcp_new" 1 = some (s', some issued) ∧
      (usedUp (some 1)).rejects "pi" (some 1) = true ∧
      (usedUp (some 1)).rejects "pi" (some issued.id) = false :=
  ⟨_, _, rfl, by decide +kernel, by decide +kernel⟩

/-- A budget of the profile rejects the new key as it did the old one. -/
theorem profile_budget_rejects_rotated_key :
    ∃ s' issued, oneKey.rotateKey plainPlatform 1 "lcp_new" 1 = some (s', some issued) ∧
      (usedUp none).rejects "pi" (some 1) = true ∧
      (usedUp none).rejects "pi" (some issued.id) = true := by
  have hcarries : (usedUp none).LimitCarriesOver "pi" 1 oneKey.nextId :=
    .inr ⟨_, List.mem_singleton_self _, by decide +kernel, .inr rfl⟩
  have hrejects : (usedUp none).rejects "pi" (some 1) = true := by decide +kernel
  obtain ⟨s', issued, hrotate⟩ : ∃ s' issued,
      oneKey.rotateKey plainPlatform 1 "lcp_new" 1 = some (s', some issued) := ⟨_, _, rfl⟩
  refine ⟨s', issued, hrotate, hrejects, ?_⟩
  exact ((rotation_keeps_block_iff plainPlatform (usedUp none) "pi" hrotate).2.2
    (by decide +kernel)).mpr hcarries hrejects

end LcpGateway.Spending
