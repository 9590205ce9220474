import LcpGateway.Accounting.Pricing
import LcpGateway.Base.FirstMatch

/-!
# A provider's own rates

Library `Accounting`. Source `src/api/config.py:575–671`. A row of the provider should win over a
row for all providers. The two are searched together, spelling by spelling and in the order of the
rows, so it wins exactly when it is found first.
-/

namespace LcpGateway.Accounting
open LcpGateway.Base LcpGateway.Config

namespace ConfigPrice

/-- A row for all providers. -/
def isShared (row : ConfigPrice) : Bool :=
  match row.provider with
  | none => true
  | some p => p = "" || p = "*"

/-- A row of this provider. -/
def isOwn (provider : String) (row : ConfigPrice) : Bool :=
  row.provider = some provider && !row.isShared

/-- The row is about the spelling. -/
def isFor (spelling : String) (row : ConfigPrice) : Bool :=
  strip spelling ≠ "" && (row.model = strip spelling || lower row.model = lower (strip spelling))

end ConfigPrice

/-- A configuration without registry and limits. -/
def plainConfig : GatewayConfig where
  apiBase := Dict.empty
  modelLimits := Dict.empty
  registry := Dict.empty
  apiModel := fun _ model ↦ model

namespace PriceBook

variable (book : PriceBook) (cfg : GatewayConfig) (provider model : String)

/-- The row that `resolve_pricing` returns; `config.py:629–671`. -/
def resolvedRow : Option ConfigPrice :=
  let canonical := cfg.canonicalNames model
  let exact := book.findPricingRow provider model false
  let own := canonical.findSome? (fun probe ↦ book.findPricingRow provider probe false)
  let shared := canonical.findSome? (fun probe ↦ book.findPricingRow provider probe true)
  (exact.or own).or shared

/-- The rates that are looked up are those of that row. -/
theorem resolvePricing_eq_map :
    book.resolvePricing cfg provider model =
      (book.resolvedRow cfg provider model).map ConfigPrice.row := rfl

/-- The rows about the model, in the order of its spellings and of the rows. -/
def rowsFor : List ConfigPrice :=
  (model :: cfg.canonicalNames model).flatMap fun spelling ↦
    book.pricing.filter (ConfigPrice.isFor spelling)

/-- A row of the provider is returned when there is one, and no other row unless there is none. -/
structure PrefersOwn : Prop where
  own : (∃ row ∈ book.rowsFor cfg model, row.isOwn provider = true) →
    ∃ row ∈ book.rowsFor cfg model,
      book.resolvedRow cfg provider model = some row ∧ row.isOwn provider = true
  other : ∀ row, book.resolvedRow cfg provider model = some row → row.isOwn provider = false →
    ∀ own ∈ book.rowsFor cfg model, own.isOwn provider = false

/-- A row of the provider stands in front of every row for all providers. -/
def OwnFirst : Prop :=
  EveryPlace (fun before row _ ↦ row.isShared = true →
    ∃ own ∈ before, own.isOwn provider = true) (book.rowsFor cfg model)

variable {book cfg provider model}

/-- A row matches a provider when it is shared or the provider's own. -/
theorem providerMatches_eq (row : ConfigPrice) :
    providerMatches row.provider provider = (row.isShared || row.isOwn provider) := by
  unfold providerMatches ConfigPrice.isOwn ConfigPrice.isShared
  cases row.provider with
  | none => rfl
  | some p =>
    by_cases hempty : p = ""
    · simp [hempty]
    · by_cases hstar : p = "*" <;> simp [hempty, hstar]

/-- One search is the first matching row about its spelling. -/
theorem findPricingRow_eq (spelling : String) (anyProvider : Bool) :
    book.findPricingRow provider spelling anyProvider =
      book.pricing.find? fun row ↦ row.isFor spelling &&
        (anyProvider || (row.isShared || row.isOwn provider)) := by
  unfold findPricingRow
  dsimp only
  split
  · next h =>
    rw [eq_comm, List.find?_eq_none]
    simp [ConfigPrice.isFor, h]
  · next h => simp [ConfigPrice.isFor, h, providerMatches_eq]

/-- The steps with the provider are one search through the rows about the model. -/
theorem find?_rowsFor :
    (book.findPricingRow provider model false).or
        ((cfg.canonicalNames model).findSome? fun probe ↦
          book.findPricingRow provider probe false) =
      (book.rowsFor cfg model).find? fun row ↦ row.isShared || row.isOwn provider := by
  rw [rowsFor, find?_flatMap_filter, List.findSome?_cons]
  simp only [findPricingRow_eq, Bool.false_or]
  cases book.pricing.find? fun row ↦ row.isFor model && (row.isShared || row.isOwn provider) <;> rfl

/-- No row is the provider's own and for all. -/
theorem isShared_of_isOwn {row : ConfigPrice} (h : row.isOwn provider = true) :
    row.isShared = false := by
  simp only [ConfigPrice.isOwn, Bool.and_eq_true, Bool.not_eq_true'] at h
  exact h.2

/-- With a row of the provider the cross-provider step is not reached. -/
theorem resolvedRow_of_own (h : ∃ row ∈ book.rowsFor cfg model, row.isOwn provider = true) :
    book.resolvedRow cfg provider model =
      (book.rowsFor cfg model).find? fun row ↦ row.isShared || row.isOwn provider := by
  obtain ⟨row, hrow, hown⟩ := h
  have hmatch : (row.isShared || row.isOwn provider) = true := by rw [hown, Bool.or_true]
  obtain ⟨first, hfirst⟩ := Option.isSome_iff_exists.mp
    (List.find?_isSome (p := fun row ↦ row.isShared || row.isOwn provider)
      |>.mpr ⟨row, hrow, hmatch⟩)
  rw [resolvedRow, find?_rowsFor, hfirst, Option.some_or]

/-- With a row of the provider, one of them is returned when one stands first. -/
theorem resolvedRow_own_iff (h : ∃ row ∈ book.rowsFor cfg model, row.isOwn provider = true) :
    (∃ row, book.resolvedRow cfg provider model = some row ∧ row.isOwn provider = true) ↔
      book.OwnFirst cfg provider model := by
  rw [resolvedRow_of_own h]
  obtain ⟨own, hmem, hown⟩ := h
  have hmatch : ∀ row : ConfigPrice, ((row.isShared || row.isOwn provider) = true ∧
      row.isOwn provider = true) ↔ row.isOwn provider = true := by
    intro row
    cases row.isOwn provider <;> simp
  rw [find?_of_kind_iff ⟨own, hmem, (hmatch own).mpr hown⟩, OwnFirst]
  apply everyPlace_congr
  intro before row _ _
  simp only [hmatch]
  cases hkind : row.isOwn provider with
  | true => simp [isShared_of_isOwn hkind]
  | false => simp

/-- The provider's own rates win exactly when it has none, or one of them stands in front of every
shared row. -/
theorem prefersOwn_iff (book : PriceBook) (cfg : GatewayConfig) (provider model : String) :
    book.PrefersOwn cfg provider model ↔
      ((∃ row ∈ book.rowsFor cfg model, row.isOwn provider = true) →
        book.OwnFirst cfg provider model) := by
  constructor
  · intro h hown
    obtain ⟨row, -, hrow⟩ := h.own hown
    exact (resolvedRow_own_iff hown).mp ⟨row, hrow⟩
  · intro h
    have hreturned : (∃ row ∈ book.rowsFor cfg model, row.isOwn provider = true) →
        ∃ row, book.resolvedRow cfg provider model = some row ∧ row.isOwn provider = true :=
      fun hown ↦ (resolvedRow_own_iff hown).mpr (h hown)
    constructor
    · intro hown
      obtain ⟨row, hrow, hkind⟩ := hreturned hown
      have hmem : row ∈ book.rowsFor cfg model := by
        rw [resolvedRow_of_own hown] at hrow
        exact List.mem_of_find?_eq_some hrow
      exact ⟨row, hmem, hrow, hkind⟩
    · intro row hrow hnot own hmem
      by_contra hown
      obtain ⟨row', hrow', hkind⟩ := hreturned ⟨own, hmem, by simpa using hown⟩
      obtain rfl : row = row' := Option.some.inj (hrow.symm.trans hrow')
      simp [hnot] at hkind

/-- Prices with a shared row in front of the provider's own. -/
def sharedFirst : PriceBook where
  plugins := []
  pricing := [⟨some "*", "flash", []⟩, ⟨some "opencode", "flash", [("cache_miss", .int 1)]⟩]
  hitField := Dict.empty

/-- The shared row is returned although the provider has one. -/
theorem not_prefersOwn_sharedFirst : ¬ sharedFirst.PrefersOwn plainConfig "opencode" "flash" := by
  intro h
  have hmem : (⟨some "opencode", "flash", [("cache_miss", .int 1)]⟩ : ConfigPrice) ∈
      sharedFirst.rowsFor plainConfig "flash" := by
    refine List.mem_flatMap.mpr ⟨"flash", List.mem_cons_self, List.mem_filter.mpr ⟨?_, ?_⟩⟩
    · simp [sharedFirst]
    · decide +kernel
  obtain ⟨row, -, hrow, hown⟩ := h.own ⟨_, hmem, by decide⟩
  have hshared : sharedFirst.resolvedRow plainConfig "opencode" "flash" =
      some ⟨some "*", "flash", []⟩ := by
    have hfound : sharedFirst.findPricingRow "opencode" "flash" false =
        some ⟨some "*", "flash", []⟩ := by
      rw [findPricingRow_eq]
      exact List.find?_cons_of_pos (by decide +kernel)
    rw [resolvedRow, hfound, Option.some_or, Option.some_or]
  obtain rfl := Option.some.inj (hshared.symm.trans hrow)
  revert hown
  decide

end PriceBook
end LcpGateway.Accounting
