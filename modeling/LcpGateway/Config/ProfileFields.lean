import LcpGateway.Base.Number
import LcpGateway.Base.Object

/-!
# Profile fields

Library `Config`. `validate_profile_fields` of `src/api/config.py:318–416` with `validate_name` of
`src/api/profile_data.py:33,60–65`. The loader and the profile endpoints share it: what it returns
is a profile that it accepts again.
-/

namespace LcpGateway.Config
open LcpGateway.Base

/-- What the validation raises: a `ConfigError`, or the `OverflowError` of `float()`. -/
inductive FieldError where
  | config (message : String)
  | overflow
  deriving DecidableEq, Repr

/-- `INTENT_MAX_LEN`; `config.py:307`. -/
def INTENT_MAX_LEN : Nat := 64

/-- `INTENTS_MAX`; `config.py:308`. -/
def INTENTS_MAX : Nat := 32

/-- `ROUTING_MODES`; `config.py:312`. -/
def ROUTING_MODES : List String := ["", "static", "dynamic"]

/-- `PROFILE_DESC_MAX`; `config.py:315`. -/
def PROFILE_DESC_MAX : Nat := 120

/-- A character of `_NAME_RE`; `profile_data.py:33`. -/
def nameChar (c : Char) : Bool := c.isAlphanum || c = '.' || c = '_' || c = '-'

/-- `validate_name`; `profile_data.py:60–65`. -/
def validateName (name : String) : Except String String :=
  let name := strip name
  if 1 ≤ name.length ∧ name.length ≤ 64 ∧ name.toList.all nameChar ∧ name ≠ "." ∧ name ≠ ".." then
    .ok name
  else .error "invalid profile name"

variable (name : String)

/-- The check of `agent_profile`; `config.py:327–349`. -/
def agentProfile (value : Option Json) : Except FieldError String :=
  match value.getD (.str "") with
  | .null => .ok ""
  | .str s =>
    if strip s = "" then .ok "" else
      match validateName (strip s) with
      | .ok agent => .ok agent
      | .error e => .error (.config
          s!"Profile '{name}': 'agent_profile' must be a Hermes profile name ({e})")
  | _ => .error (.config s!"Profile '{name}': 'agent_profile' must be a Hermes profile name")

/-- The check of `routing`; `config.py:356–365`. -/
def routing (value : Option Json) : Except FieldError String :=
  let refused : Except FieldError String := .error (.config
    (s!"Profile '{name}': 'routing' must be one of ['static', 'dynamic']" ++
      " (or absent to inherit the gateway setting)"))
  match (value.getD (.str "")).orElse (.str "") with
  | .str s => if lower (strip s) ∈ ROUTING_MODES then .ok (lower (strip s)) else refused
  | _ => refused

/-- One label of `intents`, after the ones in `cleaned`; `config.py:375–384`. -/
def addIntent (cleaned : List String) (item : Json) : Except FieldError (List String) :=
  match item with
  | .str s =>
    let it := strip s
    if it = "" then
      .error (.config s!"Profile '{name}': every intent must be a non-empty string")
    else if INTENT_MAX_LEN < it.length then
      .error (.config
        (s!"Profile '{name}': intent '{String.ofList (it.toList.take 20)}…' exceeds " ++
        s!"{INTENT_MAX_LEN} chars"))
    else .ok (if it ∈ cleaned then cleaned else cleaned ++ [it])
  | _ => .error (.config s!"Profile '{name}': every intent must be a non-empty string")

/-- The check of `intents`; `config.py:367–385`. -/
def intents (value : Option Json) : Except FieldError (List String) :=
  let refused : Except FieldError (List String) := .error (.config
    s!"Profile '{name}': 'intents' must be a list of at most {INTENTS_MAX} labels")
  match value.getD (.arr []) with
  | .null => .ok []
  | .arr items => if INTENTS_MAX < items.length then refused else items.foldlM (addIntent name) []
  | _ => refused

/-- The range of a gate; `config.py:403–406`. -/
def gateInRange (gate : PyFloat) : Except FieldError PyFloat :=
  let refused : Except FieldError PyFloat := .error (.config
    s!"Profile '{name}': 'intent_margin_gate' must be between 0 and 1 (0 disables the gate)")
  match gate with
  | .fin r => if 0 ≤ r ∧ r ≤ 1 then .ok gate else refused
  | _ => refused

/-- The check of `intent_margin_gate`; `config.py:392–407`. -/
def intentMarginGate (value : Option Json) : Except FieldError PyFloat :=
  match value.getD (.float (.fin 0)) with
  | .null => gateInRange name (.fin 0)
  -- the least integer that rounds beyond the largest double
  | .int i => if (2 ^ 1024 - 2 ^ 970 : Nat) ≤ i.natAbs then .error .overflow
      else gateInRange name (.fin i)
  | .float x => gateInRange name x
  | _ => .error (.config
      s!"Profile '{name}': 'intent_margin_gate' must be a number between 0 and 1")

/-- `desc.strip()[:120]`. -/
def boundedDescription (desc : String) : String :=
  String.ofList ((strip desc).toList.take PROFILE_DESC_MAX)

/-- The check of `description`; `config.py:409–413`. -/
def description (value : Option Json) : Except FieldError String :=
  match value.getD (.str "") with
  | .null => .ok ""
  | .str s => .ok (boundedDescription s)
  | _ => .error (.config s!"Profile '{name}': 'description' must be a string")

/-- `validate_profile_fields`; `config.py:318–416`. -/
def validateProfileFields (prof : Fields) : Except FieldError Fields := do
  let agent ← agentProfile name (prof.lookup "agent_profile")
  let mode ← routing name (prof.lookup "routing")
  let labels ← intents name (prof.lookup "intents")
  let gate ← intentMarginGate name (prof.lookup "intent_margin_gate")
  let desc ← description name (prof.lookup "description")
  return setFields [("agent_profile", .str agent), ("routing", .str mode),
    ("intents", .arr (labels.map .str)), ("intent_margin_gate", .float gate),
    ("description", .str desc)] prof

/-- The fields that `validate_profile_fields` reads are accepted. -/
structure Loadable (prof : Fields) : Prop where
  agent : (agentProfile name (prof.lookup "agent_profile")).isOk
  mode : (routing name (prof.lookup "routing")).isOk
  labels : (intents name (prof.lookup "intents")).isOk
  gate : (intentMarginGate name (prof.lookup "intent_margin_gate")).isOk
  desc : (description name (prof.lookup "description")).isOk

variable {name : String} {prof out : Fields}

/-- A sequenced computation is accepted when both parts are. -/
theorem isOk_bind {ε α β : Type} {x : Except ε α} {f : α → Except ε β} :
    (x >>= f).isOk ↔ ∃ a, x = .ok a ∧ (f a).isOk := by
  cases x with
  | error e => simp [bind, Except.bind, Except.isOk, Except.toBool]
  | ok a => simp [bind, Except.bind]

/-- A computation is accepted when it has a result. -/
theorem isOk_iff {ε α : Type} {x : Except ε α} : x.isOk ↔ ∃ a, x = .ok a := by
  cases x <;> simp [Except.isOk, Except.toBool]

/-- The validation accepts the profiles with loadable fields. -/
theorem isOk_validateProfileFields :
    (validateProfileFields name prof).isOk ↔ Loadable name prof := by
  unfold validateProfileFields
  constructor
  · intro h
    obtain ⟨agent, hagent, h⟩ := isOk_bind.mp h
    obtain ⟨mode, hmode, h⟩ := isOk_bind.mp h
    obtain ⟨labels, hlabels, h⟩ := isOk_bind.mp h
    obtain ⟨gate, hgate, h⟩ := isOk_bind.mp h
    obtain ⟨desc, hdesc, -⟩ := isOk_bind.mp h
    exact ⟨isOk_iff.mpr ⟨agent, hagent⟩, isOk_iff.mpr ⟨mode, hmode⟩, isOk_iff.mpr ⟨labels, hlabels⟩,
      isOk_iff.mpr ⟨gate, hgate⟩, isOk_iff.mpr ⟨desc, hdesc⟩⟩
  · rintro ⟨hagent, hmode, hlabels, hgate, hdesc⟩
    obtain ⟨agent, hagent⟩ := isOk_iff.mp hagent
    obtain ⟨mode, hmode⟩ := isOk_iff.mp hmode
    obtain ⟨labels, hlabels⟩ := isOk_iff.mp hlabels
    obtain ⟨gate, hgate⟩ := isOk_iff.mp hgate
    obtain ⟨desc, hdesc⟩ := isOk_iff.mp hdesc
    rw [hagent, hmode, hlabels, hgate, hdesc]
    rfl

/-- Loadable fields are decided by the five that are read. -/
theorem Loadable.congr {prof' : Fields} (h : Loadable name prof)
    (hsame : ∀ key ∈ ["agent_profile", "routing", "intents", "intent_margin_gate", "description"],
      prof'.lookup key = prof.lookup key) : Loadable name prof' := by
  simp only [List.forall_mem_cons] at hsame
  obtain ⟨hagent, hmode, hlabels, hgate, hdesc, -⟩ := hsame
  exact ⟨hagent ▸ h.agent, hmode ▸ h.mode, hlabels ▸ h.labels, hgate ▸ h.gate, hdesc ▸ h.desc⟩

/-- A valid name is stripped, has a text and is valid again. -/
theorem validateName_ok {m agent : String} (h : validateName m = .ok agent) :
    strip agent = agent ∧ agent ≠ "" ∧ validateName agent = .ok agent := by
  unfold validateName at h
  dsimp only at h
  split at h
  · next hvalid =>
    obtain rfl := Except.ok.inj h
    refine ⟨strip_strip m, ?_, ?_⟩
    · intro hempty
      simp [hempty] at hvalid
    · rw [validateName, strip_strip, if_pos hvalid]
  · simp at h

/-- A returned `agent_profile` is accepted. -/
theorem agentProfile_ok {value : Option Json} {agent : String}
    (h : agentProfile name value = .ok agent) :
    agentProfile name (some (.str agent)) = .ok agent := by
  have hempty : agentProfile name (some (.str "")) = .ok "" := rfl
  unfold agentProfile at h
  split at h
  · obtain rfl := Except.ok.inj h
    exact hempty
  · split at h
    · obtain rfl := Except.ok.inj h
      exact hempty
    · split at h
      · next hvalid =>
        obtain rfl := Except.ok.inj h
        obtain ⟨hstrip, hne, hagain⟩ := validateName_ok hvalid
        rw [agentProfile, Option.getD_some]
        dsimp only
        rw [hstrip, if_neg hne, hagain]
      · simp at h
  · simp at h

/-- A returned `routing` is accepted. -/
theorem routing_ok {value : Option Json} {mode : String} (h : routing name value = .ok mode) :
    routing name (some (.str mode)) = .ok mode := by
  have hmode : mode ∈ ROUTING_MODES := by
    unfold routing at h
    dsimp only at h
    split at h
    · split at h
      · next hmem =>
        obtain rfl := Except.ok.inj h
        exact hmem
      · simp at h
    · simp at h
  simp only [ROUTING_MODES, List.mem_cons, List.not_mem_nil, or_false] at hmode
  rcases hmode with rfl | rfl | rfl
  · rfl
  · rfl
  · rfl

/-- A label as `intents` keeps it. -/
def KeptLabel (label : String) : Prop :=
  strip label = label ∧ label ≠ "" ∧ label.length ≤ INTENT_MAX_LEN

/-- Adding a label keeps the list free of repetitions. -/
theorem addIntent_ok {cleaned labels : List String} {item : Json}
    (h : addIntent name cleaned item = .ok labels) (hnodup : cleaned.Nodup)
    (hkept : ∀ l ∈ cleaned, KeptLabel l) :
    labels.Nodup ∧ (∀ l ∈ labels, KeptLabel l) ∧ labels.length ≤ cleaned.length + 1 := by
  unfold addIntent at h
  split at h
  · dsimp only at h
    split at h
    · simp at h
    · next s hne =>
      split at h
      · simp at h
      · next hlength =>
        obtain rfl := Except.ok.inj h
        split
        · exact ⟨hnodup, hkept, Nat.le_succ _⟩
        · next hfresh =>
          refine ⟨List.nodup_append.mpr ⟨hnodup, by simp, ?_⟩, ?_, by simp⟩
          · intro a ha b hb heq
            obtain rfl := List.mem_singleton.mp hb
            exact hfresh (heq ▸ ha)
          · intro l hl
            rcases List.mem_append.mp hl with hl | hl
            · exact hkept l hl
            · obtain rfl := List.mem_singleton.mp hl
              exact ⟨strip_strip s, hne, Nat.le_of_not_lt hlength⟩
  · simp at h

/-- What the loop over the labels returns. -/
theorem foldlM_addIntent_ok {items : List Json} {cleaned labels : List String}
    (h : items.foldlM (addIntent name) cleaned = .ok labels) (hnodup : cleaned.Nodup)
    (hkept : ∀ l ∈ cleaned, KeptLabel l) :
    labels.Nodup ∧ (∀ l ∈ labels, KeptLabel l) ∧ labels.length ≤ cleaned.length + items.length := by
  induction items generalizing cleaned with
  | nil =>
    obtain rfl := Except.ok.inj h
    exact ⟨hnodup, hkept, Nat.le_refl _⟩
  | cons item rest ih =>
    rw [List.foldlM_cons] at h
    cases hstep : addIntent name cleaned item with
    | error e => simp [hstep, bind, Except.bind] at h
    | ok next =>
      simp only [hstep, bind, Except.bind] at h
      obtain ⟨hn, hk, hl⟩ := addIntent_ok hstep hnodup hkept
      obtain ⟨hn', hk', hl'⟩ := ih h hn hk
      exact ⟨hn', hk', by simp only [List.length_cons]; omega⟩

/-- Kept labels go through the loop as they are. -/
theorem foldlM_addIntent_kept (cleaned : List String) {labels : List String}
    (hnodup : (cleaned ++ labels).Nodup) (hkept : ∀ l ∈ labels, KeptLabel l) :
    (labels.map Json.str).foldlM (addIntent name) cleaned = .ok (cleaned ++ labels) := by
  induction labels generalizing cleaned with
  | nil => simp [pure, Except.pure]
  | cons label rest ih =>
    rw [List.forall_mem_cons] at hkept
    obtain ⟨⟨hstrip, hne, hlength⟩, hrest⟩ := hkept
    have hfresh : label ∉ cleaned := fun hmem ↦
      (List.nodup_append.mp hnodup).2.2 label hmem label List.mem_cons_self rfl
    have hadd : addIntent name cleaned (.str label) = .ok (cleaned ++ [label]) := by
      simp [addIntent, hstrip, hne, Nat.not_lt_of_le hlength, hfresh]
    rw [List.append_cons] at hnodup ⊢
    rw [List.map_cons, List.foldlM_cons, hadd]
    exact ih _ hnodup hrest

/-- Returned `intents` are accepted. -/
theorem intents_ok {value : Option Json} {labels : List String}
    (h : intents name value = .ok labels) :
    intents name (some (.arr (labels.map .str))) = .ok labels := by
  have hlabels : labels.Nodup ∧ (∀ l ∈ labels, KeptLabel l) ∧ labels.length ≤ INTENTS_MAX := by
    unfold intents at h
    dsimp only at h
    split at h
    · obtain rfl := Except.ok.inj h
      simp
    · split at h
      · simp at h
      · next hlength =>
        obtain ⟨hn, hk, hl⟩ := foldlM_addIntent_ok h List.nodup_nil (by simp)
        exact ⟨hn, hk, by simp only [List.length_nil] at hl; omega⟩
    · simp at h
  obtain ⟨hn, hk, hl⟩ := hlabels
  rw [intents, Option.getD_some]
  dsimp only
  rw [List.length_map, if_neg (by omega)]
  exact foldlM_addIntent_kept [] hn hk

/-- A gate in range is returned as it is. -/
theorem gateInRange_ok {x gate : PyFloat} (h : gateInRange name x = .ok gate) : gate = x := by
  unfold gateInRange at h
  dsimp only at h
  split at h
  · split at h
    · exact (Except.ok.inj h).symm
    · simp at h
  · simp at h

/-- A returned gate is accepted. -/
theorem intentMarginGate_ok {value : Option Json} {gate : PyFloat}
    (h : intentMarginGate name value = .ok gate) :
    intentMarginGate name (some (.float gate)) = .ok gate := by
  have hrange : ∃ x, gateInRange name x = .ok gate := by
    unfold intentMarginGate at h
    split at h
    · exact ⟨_, h⟩
    · split at h
      · simp at h
      · exact ⟨_, h⟩
    · exact ⟨_, h⟩
    · simp at h
  obtain ⟨x, hx⟩ := hrange
  obtain rfl := gateInRange_ok hx
  exact hx

/-- What the validation returns, field by field. -/
theorem validateProfileFields_ok (h : validateProfileFields name prof = .ok out) :
    ∃ agent mode labels gate desc,
      agentProfile name (prof.lookup "agent_profile") = .ok agent ∧
      routing name (prof.lookup "routing") = .ok mode ∧
      intents name (prof.lookup "intents") = .ok labels ∧
      intentMarginGate name (prof.lookup "intent_margin_gate") = .ok gate ∧
      description name (prof.lookup "description") = .ok desc ∧
      out = setFields [("agent_profile", .str agent), ("routing", .str mode),
        ("intents", .arr (labels.map .str)), ("intent_margin_gate", .float gate),
        ("description", .str desc)] prof := by
  obtain ⟨hagent, hmode, hlabels, hgate, hdesc⟩ :=
    isOk_validateProfileFields.mp (isOk_iff.mpr ⟨out, h⟩)
  obtain ⟨agent, hagent⟩ := isOk_iff.mp hagent
  obtain ⟨mode, hmode⟩ := isOk_iff.mp hmode
  obtain ⟨labels, hlabels⟩ := isOk_iff.mp hlabels
  obtain ⟨gate, hgate⟩ := isOk_iff.mp hgate
  obtain ⟨desc, hdesc⟩ := isOk_iff.mp hdesc
  refine ⟨agent, mode, labels, gate, desc, hagent, hmode, hlabels, hgate, hdesc, ?_⟩
  rw [validateProfileFields, hagent, hmode, hlabels, hgate, hdesc] at h
  exact (Except.ok.inj h).symm

/-- The fields that an update of a profile takes over; `endpoints.py:1585`. -/
def UPDATE_FIELDS : List String := ["agent_profile", "routing", "intents", "intent_margin_gate"]

/-- The validation returns all of these fields. -/
theorem isSome_lookup_of_ok (h : validateProfileFields name prof = .ok out) :
    ∀ key ∈ UPDATE_FIELDS, (out.lookup key).isSome := by
  obtain ⟨agent, mode, labels, gate, desc, -, -, -, -, -, rfl⟩ := validateProfileFields_ok h
  simp [UPDATE_FIELDS, setFields, lookup_setField]

/-- A profile with the returned fields and an accepted description is loadable. -/
theorem loadable_of_ok (h : validateProfileFields name prof = .ok out) {prof' : Fields}
    (hfields : ∀ key ∈ UPDATE_FIELDS, prof'.lookup key = out.lookup key)
    (hdesc : (description name (prof'.lookup "description")).isOk) : Loadable name prof' := by
  obtain ⟨agent, mode, labels, gate, desc, hagent, hmode, hlabels, hgate, -, rfl⟩ :=
    validateProfileFields_ok h
  simp only [UPDATE_FIELDS, List.forall_mem_cons, setFields, List.foldl_cons, List.foldl_nil,
    lookup_setField] at hfields
  obtain ⟨hagent', hmode', hlabels', hgate', -⟩ := hfields
  refine ⟨?_, ?_, ?_, ?_, hdesc⟩
  · rw [hagent']
    exact isOk_iff.mpr ⟨agent, agentProfile_ok hagent⟩
  · rw [hmode']
    exact isOk_iff.mpr ⟨mode, routing_ok hmode⟩
  · rw [hlabels']
    exact isOk_iff.mpr ⟨labels, intents_ok hlabels⟩
  · rw [hgate']
    exact isOk_iff.mpr ⟨gate, intentMarginGate_ok hgate⟩

/-- What the validation returns is accepted again, with the same chain. -/
theorem loadable_validateProfileFields (h : validateProfileFields name prof = .ok out) :
    Loadable name out ∧ out.lookup "chain" = prof.lookup "chain" := by
  obtain ⟨agent, mode, labels, gate, desc, -, -, -, -, -, hout⟩ := validateProfileFields_ok h
  have hlookup : out.lookup "description" = some (.str desc) ∧
      out.lookup "chain" = prof.lookup "chain" := by
    rw [hout]
    simp [setFields, lookup_setField]
  refine ⟨loadable_of_ok h (fun _ _ ↦ rfl) ?_, hlookup.2⟩
  rw [hlookup.1]
  rfl

end LcpGateway.Config
