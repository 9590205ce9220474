import LcpGateway.Server.ProfileEndpoints

/-!
# Updates of a profile

Library `Server`. Source `src/server/endpoints.py:1556–1602`. An update writes the fields it takes
as they are given and the description into the live profile before the other fields are checked,
so a refusal comes too late for them; what it takes as given is not checked at all.
-/

namespace LcpGateway.Server
open LcpGateway.Base LcpGateway.Config LcpGateway.Breaker

/-! ### What an update asks for -/

/-- The fields that are stored as they are given; `endpoints.py:1568–1573`. -/
def TAKEN_FIELDS : List String := ["forbidden_tools", "chain", "auth_required"]

/-- The given ones of some fields. -/
def givenFields (keys : List String) (fields : Fields) : Fields :=
  keys.filterMap (fun key ↦ (fields.lookup key).map ((key, ·)))

/-- The description that is stored, when a text or null is given. -/
def givenText (fields : Fields) : Fields :=
  match (fields.lookup "description").bind givenDescription with
  | some text => [("description", .str (boundedDescription text))]
  | none => []

/-- What is written before the checks. -/
def earlyWrites (fields : Fields) : Fields := givenFields TAKEN_FIELDS fields ++ givenText fields

/-- The description is given and no text. -/
def BadDescription (fields : Fields) : Prop :=
  ∃ desc, fields.lookup "description" = some desc ∧ givenDescription desc = none

/-- A field is given that the update checks. -/
def ChecksFields (fields : Fields) : Prop := ∃ key ∈ UPDATE_FIELDS, hasField key fields = true

variable (name : String)

/-- The check gets to a gate that no float holds, and raises. -/
structure Overflows (prof : Fields) : Prop where
  agent : (agentProfile name (prof.lookup "agent_profile")).isOk
  mode : (routing name (prof.lookup "routing")).isOk
  labels : (intents name (prof.lookup "intents")).isOk
  gate : intentMarginGate name (prof.lookup "intent_margin_gate") = .error .overflow

/-- The update is refused: for its description, or for a field that is checked. `fields ++ pcfg`
is the profile with the given fields in front of its own. -/
def Refused (pcfg fields : Fields) : Prop :=
  BadDescription fields ∨
    (ChecksFields fields ∧ ¬ Loadable name (fields ++ pcfg) ∧ ¬ Overflows name (fields ++ pcfg))

/-- The update is accepted: its description is fine, and so are the fields when one is checked. -/
def Accepted (pcfg fields : Fields) : Prop :=
  ¬ BadDescription fields ∧ (ChecksFields fields → Loadable name (fields ++ pcfg))

/-- A refusal finds what was written before it already stored, and what is accepted makes a
profile that the loader takes. -/
structure FitsProfile (pcfg fields : Fields) : Prop where
  refused : Refused name pcfg fields → ∀ e ∈ earlyWrites fields, pcfg.lookup e.1 = some e.2
  accepted : Accepted name pcfg fields → LoadableProfile (name, .obj (fields ++ pcfg))

/-- The same for any body: one that is no object and names no field leaves the profile as it is. -/
def BodyFits (pcfg : Fields) : Json → Prop
  | .obj fields => FitsProfile name pcfg fields
  | body => (∀ key ∈ TAKEN_FIELDS ++ "description" :: UPDATE_FIELDS,
      body.contains? key = some false) → LoadableProfile (name, .obj pcfg)

/-- An update answered with 400 changes nothing, an accepted one leaves a profile that the loader
takes. -/
structure SoundUpdate (site : Site) (body : Json) : Prop where
  unchanged : ∀ message site',
    serveProfileUpdate name body site = .error (.refused 400 message) site' → site'.raw = site.raw
  stored : ∀ site', serveProfileUpdate name body site = .ok () site' →
    ∃ pcfg, site'.profile? name = some pcfg ∧ LoadableProfile (name, .obj pcfg)

/-! ### What the writes leave -/

variable {name : String} {site site' : Site} {pcfg fields prof prof' : Fields} {key : String}

/-- The first of some fields, and the others. -/
theorem givenFields_cons (key : String) (rest : List String) :
    givenFields (key :: rest) fields = match fields.lookup key with
      | some value => (key, value) :: givenFields rest fields
      | none => givenFields rest fields := by
  rw [givenFields, List.filterMap_cons]
  cases fields.lookup key <;> rfl

/-- The given ones among some fields are those of the body. -/
theorem lookup_givenFields (keys : List String) :
    (givenFields keys fields).lookup key = if key ∈ keys then fields.lookup key else none := by
  induction keys with
  | nil => rfl
  | cons k rest ih =>
    rw [givenFields_cons]
    by_cases hk : key = k
    · subst hk
      cases hgiven : fields.lookup key with
      | none => simp [ih, hgiven]
      | some value => simp
    · have hne : (key == k) = false := by simpa using hk
      have hmem : key ∈ k :: rest ↔ key ∈ rest := by simp [hk]
      rw [if_congr hmem rfl rfl, ← ih]
      cases fields.lookup k with
      | none => rfl
      | some value => simp [List.lookup_cons, hne]

/-- The given ones among some fields are some of them. -/
theorem sublist_givenFields (keys : List String) :
    ((givenFields keys fields).map Prod.fst).Sublist keys := by
  induction keys with
  | nil => exact .slnil
  | cons k rest ih =>
    rw [givenFields_cons]
    cases fields.lookup k with
    | none => exact ih.cons k
    | some value => exact ih.cons_cons k

/-- The description among the early writes. -/
theorem lookup_givenText :
    (givenText fields).lookup key = if key = "description" then
      ((fields.lookup "description").bind givenDescription).map
        (fun text ↦ .str (boundedDescription text)) else none := by
  unfold givenText
  cases (fields.lookup "description").bind givenDescription with
  | none => simp
  | some text => by_cases hkey : key = "description" <;> simp [hkey]

/-- Each field is written once before the checks. -/
theorem nodup_earlyWrites : ((earlyWrites fields).map Prod.fst).Nodup := by
  have htext : ((givenText fields).map Prod.fst).Sublist ["description"] := by
    unfold givenText
    split <;> simp
  have hsub := (@sublist_givenFields fields TAKEN_FIELDS).append htext
  rw [← List.map_append] at hsub
  exact List.Nodup.sublist hsub (by decide)

/-- The profile after the early writes. -/
def stored (pcfg fields : Fields) : Fields := setFields (earlyWrites fields) pcfg

/-- The profile that is checked. -/
def candidate (pcfg fields : Fields) : Fields :=
  setFields (givenFields UPDATE_FIELDS fields) (stored pcfg fields)

/-- What the profile has after the early writes. -/
theorem lookup_stored (hkey : key ≠ "description") :
    (stored pcfg fields).lookup key =
      if key ∈ TAKEN_FIELDS then (fields.lookup key).or (pcfg.lookup key) else pcfg.lookup key := by
  rw [stored, lookup_setFields nodup_earlyWrites, earlyWrites, List.lookup_append,
    lookup_givenFields, lookup_givenText, if_neg hkey, Option.or_none]
  split
  · rfl
  · rw [Option.none_or]

/-- The profile with the given fields in front has the fields that are checked. -/
theorem lookup_candidate (hkey : key ∈ UPDATE_FIELDS) :
    (candidate pcfg fields).lookup key = (fields ++ pcfg).lookup key := by
  have hnot : key ≠ "description" ∧ key ∉ TAKEN_FIELDS := by
    revert key
    decide
  rw [candidate,
    lookup_setFields ((by decide : UPDATE_FIELDS.Nodup).sublist (sublist_givenFields _)),
    lookup_givenFields, if_pos hkey, lookup_stored hnot.1, if_neg hnot.2, List.lookup_append]

/-- The description that is checked is fine when the given one is no other value than a text. -/
theorem description_candidate (hdesc : ¬ BadDescription fields) :
    (description name ((candidate pcfg fields).lookup "description")).isOk ↔
      (description name ((fields ++ pcfg).lookup "description")).isOk := by
  have hnodup := (by decide : UPDATE_FIELDS.Nodup).sublist (@sublist_givenFields fields _)
  have hnot : "description" ∉ UPDATE_FIELDS ∧ "description" ∉ TAKEN_FIELDS := by decide
  rw [candidate, lookup_setFields hnodup, lookup_givenFields, if_neg hnot.1, Option.none_or, stored,
    lookup_setFields nodup_earlyWrites, earlyWrites, List.lookup_append, lookup_givenFields,
    if_neg hnot.2, Option.none_or, lookup_givenText, if_pos rfl, List.lookup_append]
  cases hgiven : fields.lookup "description" with
  | none => rfl
  | some desc =>
    have htext : givenDescription desc ≠ none := fun hnone ↦ hdesc ⟨desc, hgiven, hnone⟩
    cases desc with
    | null => exact iff_of_true rfl rfl
    | str s => exact iff_of_true rfl rfl
    | bool b => exact absurd rfl htext
    | int n => exact absurd rfl htext
    | float x => exact absurd rfl htext
    | arr items => exact absurd rfl htext
    | obj inner => exact absurd rfl htext

/-- What is checked are the given fields in front of the stored ones. -/
theorem loadable_candidate_iff (hdesc : ¬ BadDescription fields) :
    Loadable name (candidate pcfg fields) ↔ Loadable name (fields ++ pcfg) := by
  have hsame : ∀ key ∈ UPDATE_FIELDS,
      (candidate pcfg fields).lookup key = (fields ++ pcfg).lookup key := fun _ ↦ lookup_candidate
  simp only [UPDATE_FIELDS, List.forall_mem_cons] at hsame
  obtain ⟨hagent, hmode, hlabels, hgate, -⟩ := hsame
  have hdesc' := @description_candidate name pcfg fields hdesc
  constructor
  · rintro ⟨agent, mode, labels, gate, desc⟩
    exact ⟨hagent ▸ agent, hmode ▸ mode, hlabels ▸ labels, hgate ▸ gate, hdesc'.mp desc⟩
  · rintro ⟨agent, mode, labels, gate, desc⟩
    exact ⟨hagent ▸ agent, hmode ▸ mode, hlabels ▸ labels, hgate ▸ gate, hdesc'.mpr desc⟩

/-- The check raises for the given fields in front of the stored ones. -/
theorem overflows_candidate_iff :
    Overflows name (candidate pcfg fields) ↔ Overflows name (fields ++ pcfg) := by
  have hsame : ∀ key ∈ UPDATE_FIELDS,
      (candidate pcfg fields).lookup key = (fields ++ pcfg).lookup key := fun _ ↦ lookup_candidate
  simp only [UPDATE_FIELDS, List.forall_mem_cons] at hsame
  obtain ⟨hagent, hmode, hlabels, hgate, -⟩ := hsame
  constructor
  · rintro ⟨agent, mode, labels, gate⟩
    exact ⟨hagent ▸ agent, hmode ▸ mode, hlabels ▸ labels, hgate ▸ gate⟩
  · rintro ⟨agent, mode, labels, gate⟩
    exact ⟨hagent ▸ agent, hmode ▸ mode, hlabels ▸ labels, hgate ▸ gate⟩

/-! ### When the check refuses -/

/-- Checking the name of an agent does not overflow. -/
theorem agentProfile_ne_overflow (value : Option Json) :
    agentProfile name value ≠ .error .overflow := by
  unfold agentProfile
  split
  · simp
  · split
    · simp
    · split <;> simp
  · simp

/-- Checking the routing does not overflow. -/
theorem routing_ne_overflow (value : Option Json) : routing name value ≠ .error .overflow := by
  unfold routing
  dsimp only
  split
  · split <;> simp
  · simp

/-- Adding a label does not overflow. -/
theorem addIntent_ne_overflow (cleaned : List String) (item : Json) :
    addIntent name cleaned item ≠ .error .overflow := by
  unfold addIntent
  split
  · dsimp only
    split
    · simp
    · split <;> simp
  · simp

/-- The loop over the labels does not overflow. -/
theorem foldlM_addIntent_ne_overflow (items : List Json) (cleaned : List String) :
    items.foldlM (addIntent name) cleaned ≠ .error .overflow := by
  induction items generalizing cleaned with
  | nil => exact fun h ↦ nomatch h
  | cons item rest ih =>
    rw [List.foldlM_cons]
    cases hadd : addIntent name cleaned item with
    | ok next => exact ih next
    | error e =>
      intro h
      exact addIntent_ne_overflow cleaned item (hadd.trans (congrArg _ (Except.error.inj h)))

/-- Checking the labels does not overflow. -/
theorem intents_ne_overflow (value : Option Json) : intents name value ≠ .error .overflow := by
  unfold intents
  dsimp only
  split
  · simp
  · split
    · simp
    · exact foldlM_addIntent_ne_overflow _ []
  · simp

/-- Checking the description does not overflow. -/
theorem description_ne_overflow (value : Option Json) :
    description name value ≠ .error .overflow := by
  unfold description
  split <;> simp

/-- A sequenced check stops with an error in its first part or in its second. -/
theorem bind_eq_error {ε α β : Type} {x : Except ε α} {f : α → Except ε β} {e : ε} :
    (x >>= f) = .error e ↔ x = .error e ∨ ∃ a, x = .ok a ∧ f a = .error e := by
  cases x with
  | ok a => simp [bind, Except.bind]
  | error e' => simp [bind, Except.bind]

/-- The check overflows at the gate. -/
theorem validateProfileFields_overflow_iff :
    validateProfileFields name prof = .error .overflow ↔ Overflows name prof := by
  simp only [validateProfileFields, bind_eq_error, agentProfile_ne_overflow, routing_ne_overflow,
    intents_ne_overflow, description_ne_overflow, false_or]
  constructor
  · rintro ⟨agent, hagent, mode, hmode, labels, hlabels, hgate | ⟨gate, -, desc, -, hpure⟩⟩
    · exact ⟨isOk_iff.mpr ⟨agent, hagent⟩, isOk_iff.mpr ⟨mode, hmode⟩,
        isOk_iff.mpr ⟨labels, hlabels⟩, hgate⟩
    · cases hpure
  · rintro ⟨hagent, hmode, hlabels, hgate⟩
    obtain ⟨agent, hagent⟩ := isOk_iff.mp hagent
    obtain ⟨mode, hmode⟩ := isOk_iff.mp hmode
    obtain ⟨labels, hlabels⟩ := isOk_iff.mp hlabels
    exact ⟨agent, hagent, mode, hmode, labels, hlabels, .inl hgate⟩

/-- How a check ends. -/
theorem validateProfileFields_cases (name : String) (prof : Fields) :
    (Loadable name prof ∧ ∃ out, validateProfileFields name prof = .ok out) ∨
      (¬ Loadable name prof ∧ ¬ Overflows name prof ∧
        ∃ message, validateProfileFields name prof = .error (.config message)) ∨
      (¬ Loadable name prof ∧ Overflows name prof ∧
        validateProfileFields name prof = .error .overflow) := by
  rw [← isOk_validateProfileFields, ← validateProfileFields_overflow_iff]
  cases validateProfileFields name prof with
  | ok out => exact .inl ⟨rfl, out, rfl⟩
  | error e =>
    have hnot : ¬ (Except.error e : Except FieldError Fields).isOk := Bool.false_ne_true
    cases e with
    | config message => exact .inr (.inl ⟨hnot, by simp, message, rfl⟩)
    | overflow => exact .inr (.inr ⟨hnot, rfl, rfl⟩)

/-! ### The run of an update -/

/-- A profile that is read is there. -/
theorem hasProfile_of_profile? (hpcfg : site.profile? name = some pcfg) :
    site.hasProfile name = true := by
  obtain ⟨value, hvalue, -⟩ := Option.bind_eq_some_iff.mp hpcfg
  exact Option.isSome_iff_exists.mpr ⟨value, hvalue⟩

/-- A profile written as it is. -/
theorem setProfile_self (hpcfg : site.profile? name = some pcfg) :
    site.setProfile name pcfg = site :=
  (ProfileEdit.refl hpcfg : ProfileEdit name .null site site pcfg pcfg).result.symm

/-- A field of an object that may be given. -/
theorem whenField_obj (act : Json → Handler Unit) (key : String) :
    whenField (.obj fields) key act site = match fields.lookup key with
      | some value => act value site
      | none => .ok () site := by
  have hpresent : (Json.obj fields).contains? key = some (hasField key fields) := rfl
  have hvalue : (Json.obj fields).subscript? key = fields.lookup key := rfl
  rw [whenField, hpresent, hvalue, hasField]
  cases fields.lookup key <;> rfl

/-- A field written to the profile after others. -/
theorem setProfileField_setProfile (hpcfg : site.profile? name = some pcfg) (key : String)
    (value : Json) : setProfileField name key value (site.setProfile name prof) =
      .ok () (site.setProfile name (setField key value prof)) := by
  have hread : (site.setProfile name prof).profile? name = some prof := profile?_setProfile hpcfg
  simp only [setProfileField, orRaise, get_bind, orStop_bind, hread]
  change EStateM.Result.ok () ((site.setProfile name prof).setProfile name _) = _
  rw [setProfile_setProfile]

/-- A given field is stored, one that is not given is left. -/
theorem whenField_setProfileField (hpcfg : site.profile? name = some pcfg) (key : String) :
    whenField (.obj fields) key (setProfileField name key) (site.setProfile name prof) =
      .ok () (site.setProfile name (setFields (givenFields [key] fields) prof)) := by
  rw [whenField_obj, givenFields_cons]
  cases fields.lookup key with
  | none => rfl
  | some value => exact setProfileField_setProfile hpcfg key value

/-- What acting on a given description does. -/
def describe (name : String) (desc : Json) : Handler Unit := do
  let text ← orRefuse (givenDescription desc) 400 "description must be a string"
  setProfileField name "description" (.str (boundedDescription text))

/-- The fields that are taken are written one after another. -/
theorem setFields_taken :
    setFields (givenFields TAKEN_FIELDS fields) prof =
      setFields (givenFields ["auth_required"] fields) (setFields (givenFields ["chain"] fields)
        (setFields (givenFields ["forbidden_tools"] fields) prof)) := by
  have hsplit : givenFields TAKEN_FIELDS fields = givenFields ["forbidden_tools"] fields ++
      (givenFields ["chain"] fields ++ givenFields ["auth_required"] fields) := by
    simp only [givenFields, ← List.filterMap_append]
    rfl
  rw [hsplit]
  simp only [setFields, List.foldl_append]

/-- An update gets to the description with the fields stored that are taken as they are. -/
theorem serveProfileUpdate_obj (hpcfg : site.profile? name = some pcfg) :
    serveProfileUpdate name (.obj fields) site =
      (whenField (.obj fields) "description" (describe name) >>= fun _ ↦
        updateFields name (.obj fields) >>= fun _ ↦ modify Site.save : Handler Unit)
        (site.setProfile name (setFields (givenFields TAKEN_FIELDS fields) pcfg)) := by
  have htools := @whenField_setProfileField name site pcfg fields pcfg hpcfg "forbidden_tools"
  rw [setProfile_self hpcfg] at htools
  rw [serveProfileUpdate, get_bind, refuseIf, stopIf_bind, hasProfile_of_profile? hpcfg,
    Bool.not_true, if_neg (by decide), bind_of_ok htools,
    bind_of_ok (whenField_setProfileField hpcfg "chain"),
    bind_of_ok (whenField_setProfileField hpcfg "auth_required"), setFields_taken]
  rfl

/-- An update with a description that is no text stops before the checks. -/
theorem serveProfileUpdate_badDescription (hpcfg : site.profile? name = some pcfg)
    (hdesc : BadDescription fields) : serveProfileUpdate name (.obj fields) site =
      .error (.refused 400 "description must be a string")
        (site.setProfile name (stored pcfg fields)) := by
  obtain ⟨desc, hgiven, hnone⟩ := hdesc
  have hstored : stored pcfg fields = setFields (givenFields TAKEN_FIELDS fields) pcfg := by
    simp [stored, earlyWrites, givenText, hgiven, hnone]
  rw [serveProfileUpdate_obj hpcfg, hstored]
  refine bind_of_error ?_ _
  rw [whenField_obj, hgiven]
  simp only [describe, orRefuse, hnone, orStop_bind]

/-- An update with a fine description gets to the checks. -/
theorem serveProfileUpdate_stored (hpcfg : site.profile? name = some pcfg)
    (hdesc : ¬ BadDescription fields) : serveProfileUpdate name (.obj fields) site =
      (updateFields name (.obj fields) >>= fun _ ↦ modify Site.save : Handler Unit)
        (site.setProfile name (stored pcfg fields)) := by
  have hrun : whenField (.obj fields) "description" (describe name)
      (site.setProfile name (setFields (givenFields TAKEN_FIELDS fields) pcfg)) =
        .ok () (site.setProfile name (stored pcfg fields)) := by
    rw [whenField_obj, stored, earlyWrites, givenText]
    cases hgiven : fields.lookup "description" with
    | none => simp
    | some desc =>
      cases htext : givenDescription desc with
      | none => exact absurd ⟨desc, hgiven, htext⟩ hdesc
      | some text =>
        simp only [describe, orRefuse, htext, orStop_bind, Option.bind_some]
        rw [setProfileField_setProfile hpcfg, setFields, setFields, List.foldl_append]
        rfl
  rw [serveProfileUpdate_obj hpcfg, bind_of_ok hrun]

/-- Whether a field is given that the update checks. -/
theorem mapM_contains? (fields : Fields) :
    UPDATE_FIELDS.mapM (fun key ↦ (Json.obj fields).contains? key) =
      some (UPDATE_FIELDS.map (fun key ↦ hasField key fields)) := rfl

/-- What is written when the checks are passed. -/
def checkedWrites (out : Fields) : Fields :=
  UPDATE_FIELDS.map (fun key ↦ (key, (out.lookup key).getD .null))

/-- The checks of an update. -/
theorem updateFields_stored (hpcfg : site.profile? name = some pcfg) :
    updateFields name (.obj fields) (site.setProfile name (stored pcfg fields)) =
      if UPDATE_FIELDS.any (fun key ↦ hasField key fields) then
        match validateProfileFields name (candidate pcfg fields) with
        | .ok out =>
          .ok () (site.setProfile name (setFields (checkedWrites out) (stored pcfg fields)))
        | .error (.config message) =>
          .error (.refused 400 message) (site.setProfile name (stored pcfg fields))
        | .error .overflow => .error .raised (site.setProfile name (stored pcfg fields))
      else .ok () (site.setProfile name (stored pcfg fields)) := by
  have hread : (site.setProfile name (stored pcfg fields)).profile? name =
      some (stored pcfg fields) := profile?_setProfile hpcfg
  have hany : (UPDATE_FIELDS.map (fun key ↦ hasField key fields)).any id =
      UPDATE_FIELDS.any (fun key ↦ hasField key fields) := by
    rw [List.any_map]
    rfl
  rw [updateFields, mapM_contains?, orRaise, orStop_bind]
  dsimp only
  rw [hany]
  split
  · have hfields : (Json.obj fields).fields? = some fields := rfl
    rw [hfields, orRaise, orStop_bind]
    dsimp only
    rw [get_bind, hread, orRaise, orStop_bind]
    change (validated name (candidate pcfg fields) >>= fun out ↦
      modify (·.setProfile name (setFields (checkedWrites out) (stored pcfg fields))) :
        Handler Unit) _ = _
    rw [validated]
    cases validateProfileFields name (candidate pcfg fields) with
    | ok out =>
      change EStateM.Result.ok ()
        ((site.setProfile name (stored pcfg fields)).setProfile name _) = _
      rw [setProfile_setProfile]
    | error e => cases e <;> rfl
  · rfl

/-! ### Bodies that are no objects -/

/-- A field in a body that is no object: naming it raises. -/
theorem whenField_notObj {body : Json} (hbody : body.fields? = none) (act : Json → Handler Unit)
    (key : String) : whenField body key act site =
      if body.contains? key = some false then .ok () site else .error .raised site := by
  have hvalue : body.subscript? key = none := by rw [Json.subscript?, hbody, Option.bind_none]
  rw [whenField, hvalue, orRaise, orStop_bind]
  cases body.contains? key with
  | none => rfl
  | some present => cases present <;> rfl

/-- Checked fields in a body that is no object: naming one raises. -/
theorem updateFields_notObj {body : Json} (hbody : body.fields? = none) :
    updateFields name body site =
      if ∀ key ∈ UPDATE_FIELDS, body.contains? key = some false then .ok () site
      else .error .raised site := by
  rw [updateFields, hbody, orRaise, orStop_bind]
  cases hpresent : UPDATE_FIELDS.mapM (fun key ↦ body.contains? key) with
  | none =>
    rw [if_neg]
    intro hfalse
    have hsome : UPDATE_FIELDS.mapM (fun key ↦ body.contains? key) =
        some [false, false, false, false] := by
      simp only [UPDATE_FIELDS, List.forall_mem_cons] at hfalse
      simp [UPDATE_FIELDS, hfalse.1, hfalse.2.1, hfalse.2.2.1, hfalse.2.2.2.1]
    cases hpresent.symm.trans hsome
  | some present =>
    simp only [UPDATE_FIELDS, List.mapM_cons, List.mapM_nil, Option.bind_eq_bind,
      Option.bind_eq_some_iff, Option.pure_def, Option.some.injEq] at hpresent
    obtain ⟨agent, hagent, _, ⟨mode, hmode, _, ⟨labels, hlabels, _, ⟨gate, hgate, _, rfl, rfl⟩,
      rfl⟩, rfl⟩, rfl⟩ := hpresent
    have hany : (∀ key ∈ UPDATE_FIELDS, body.contains? key = some false) ↔
        [agent, mode, labels, gate].any id = false := by
      simp [UPDATE_FIELDS, hagent, hmode, hlabels, hgate]
    rw [if_congr hany rfl rfl]
    dsimp only
    cases [agent, mode, labels, gate].any id <;> rfl

/-- A part that goes through or raises, and the rest of the run. -/
theorem bind_of_ite {x : Handler Unit} {c : Prop} [Decidable c] {f : Unit → Handler Unit}
    (h : x site = if c then .ok () site else .error .raised site) :
    (x >>= f) site = if c then f () site else .error .raised site := by
  split at h
  · next hc => rw [bind_of_ok h, if_pos hc]
  · next hc => rw [bind_of_error h, if_neg hc]

/-- An update with a body that is no object saves the profile as it is or raises. -/
theorem serveProfileUpdate_notObj {body : Json} (hpcfg : site.profile? name = some pcfg)
    (hbody : body.fields? = none) : serveProfileUpdate name body site =
      if ∀ key ∈ TAKEN_FIELDS ++ "description" :: UPDATE_FIELDS, body.contains? key = some false
      then .ok () site.save else .error .raised site := by
  rw [serveProfileUpdate, get_bind, refuseIf, stopIf_bind, hasProfile_of_profile? hpcfg,
    Bool.not_true, if_neg (by decide)]
  iterate 4 rw [bind_of_ite (whenField_notObj hbody _ _)]
  rw [bind_of_ite (updateFields_notObj hbody)]
  have hall : (∀ key ∈ TAKEN_FIELDS ++ "description" :: UPDATE_FIELDS,
      body.contains? key = some false) ↔ body.contains? "forbidden_tools" = some false ∧
        body.contains? "chain" = some false ∧ body.contains? "auth_required" = some false ∧
        body.contains? "description" = some false ∧
        ∀ key ∈ UPDATE_FIELDS, body.contains? key = some false := by
    simp only [TAKEN_FIELDS, List.cons_append, List.nil_append, List.forall_mem_cons]
  rw [if_congr hall rfl rfl]
  simp only [ite_and]
  rfl

/-! ### When an update is sound -/

/-- The configuration is the one from before when the profile is. -/
theorem raw_setProfile_eq_iff (hpcfg : site.profile? name = some pcfg) :
    (site.setProfile name prof).raw = site.raw ↔ prof = pcfg := by
  constructor
  · intro hraw
    have hread : (site.setProfile name prof).profile? name = some prof := profile?_setProfile hpcfg
    rw [Site.profile?, hraw] at hread
    exact Option.some.inj (hread.symm.trans hpcfg)
  · rintro rfl
    rw [setProfile_self hpcfg]

/-- A refused update is sound when it has changed nothing. -/
theorem soundUpdate_of_refused {body : Json} {message : String}
    (hpcfg : site.profile? name = some pcfg) (h : serveProfileUpdate name body site =
      .error (.refused 400 message) (site.setProfile name prof)) :
    SoundUpdate name site body ↔ prof = pcfg := by
  rw [← raw_setProfile_eq_iff hpcfg]
  constructor
  · intro hsound
    exact hsound.unchanged message _ h
  · intro hraw
    constructor
    · intro message' site' h'
      obtain ⟨-, rfl⟩ := EStateM.Result.error.inj (h.symm.trans h')
      exact hraw
    · intro site' h'
      exact nomatch h.symm.trans h'

/-- An accepted update is sound when it leaves a loadable profile. -/
theorem soundUpdate_of_ok {body : Json} (hpcfg : site.profile? name = some pcfg)
    (h : serveProfileUpdate name body site = .ok () (site.setProfile name prof).save) :
    SoundUpdate name site body ↔ LoadableProfile (name, .obj prof) := by
  have hread : (site.setProfile name prof).save.profile? name = some prof :=
    profile?_setProfile hpcfg
  constructor
  · intro hsound
    obtain ⟨pcfg', hpcfg', hloadable⟩ := hsound.stored _ h
    obtain rfl := Option.some.inj (hread.symm.trans hpcfg')
    exact hloadable
  · intro hloadable
    constructor
    · intro message site' h'
      exact nomatch h.symm.trans h'
    · intro site' h'
      obtain ⟨-, rfl⟩ := EStateM.Result.ok.inj (h.symm.trans h')
      exact ⟨prof, hread, hloadable⟩

/-- An update that raises is sound. -/
theorem soundUpdate_of_raised {body : Json}
    (h : serveProfileUpdate name body site = .error .raised site') :
    SoundUpdate name site body := by
  constructor
  · intro message site'' h'
    exact nomatch h.symm.trans h'
  · intro site'' h'
    exact nomatch h.symm.trans h'

/-- A profile is loadable when its chain is not empty and its fields are. -/
theorem loadableProfile_iff : LoadableProfile (name, .obj prof) ↔
    (∃ chain, prof.lookup "chain" = some chain ∧ chain.truthy) ∧ Loadable name prof := by
  constructor
  · rintro ⟨_, chain, heq, hchain, htruthy, hload⟩
    obtain rfl := Json.obj.inj heq
    exact ⟨⟨chain, hchain, htruthy⟩, hload⟩
  · rintro ⟨⟨chain, hchain, htruthy⟩, hload⟩
    exact ⟨prof, chain, rfl, hchain, htruthy, hload⟩

/-- The chain after the early writes. -/
theorem chain_stored :
    (stored pcfg fields).lookup "chain" = (fields ++ pcfg).lookup "chain" := by
  rw [lookup_stored (by decide), if_pos (by decide), List.lookup_append]

/-- Accepted fields make the stored profile loadable when its chain is not empty. -/
theorem loadableProfile_checked {out : Fields} (hdesc : ¬ BadDescription fields)
    (h : validateProfileFields name (candidate pcfg fields) = .ok out) :
    LoadableProfile (name, .obj (setFields (checkedWrites out) (stored pcfg fields))) ↔
      LoadableProfile (name, .obj (fields ++ pcfg)) := by
  have hload : Loadable name (candidate pcfg fields) :=
    isOk_validateProfileFields.mp (isOk_iff.mpr ⟨out, h⟩)
  have hnodup : ((checkedWrites out).map Prod.fst).Nodup := (by decide : UPDATE_FIELDS.Nodup)
  have hchain : (setFields (checkedWrites out) (stored pcfg fields)).lookup "chain" =
      (fields ++ pcfg).lookup "chain" := by
    rw [lookup_setFields hnodup, ← chain_stored]
    rfl
  have hchecked : Loadable name (setFields (checkedWrites out) (stored pcfg fields)) := by
    refine loadable_of_ok h (fun key hkey ↦ ?_) ?_
    · obtain ⟨value, hvalue⟩ := Option.isSome_iff_exists.mp (isSome_lookup_of_ok h key hkey)
      have hmem : (key, value) ∈ checkedWrites out :=
        List.mem_map.mpr ⟨key, hkey, by rw [hvalue, Option.getD_some]⟩
      rw [lookup_setFields hnodup, lookup_of_mem hnodup hmem, Option.some_or, hvalue]
    · have hsame : (setFields (checkedWrites out) (stored pcfg fields)).lookup "description" =
          (candidate pcfg fields).lookup "description" := by
        rw [lookup_setFields hnodup, candidate,
          lookup_setFields ((by decide : UPDATE_FIELDS.Nodup).sublist (sublist_givenFields _)),
          lookup_givenFields]
        rfl
      rw [hsame]
      exact hload.desc
  rw [loadableProfile_iff, loadableProfile_iff, hchain, ← loadable_candidate_iff hdesc]
  exact and_congr_right fun _ ↦ iff_of_true hchecked hload

/-- The profile after the early writes, when nothing is checked. -/
theorem loadableProfile_stored (hdesc : ¬ BadDescription fields) (hnone : ¬ ChecksFields fields) :
    LoadableProfile (name, .obj (stored pcfg fields)) ↔
      LoadableProfile (name, .obj (fields ++ pcfg)) := by
  have hcandidate : candidate pcfg fields = stored pcfg fields := by
    have hgiven : givenFields UPDATE_FIELDS fields = [] := by
      refine List.filterMap_eq_nil_iff.mpr fun key hkey ↦ Option.map_eq_none_iff.mpr ?_
      by_contra hsome
      exact hnone ⟨key, hkey, Option.isSome_iff_ne_none.mpr hsome⟩
    rw [candidate, hgiven]
    rfl
  rw [loadableProfile_iff, loadableProfile_iff, chain_stored, ← loadable_candidate_iff hdesc,
    hcandidate]

/-- Nothing was changed by the early writes when they write what is there. -/
theorem stored_eq_iff : stored pcfg fields = pcfg ↔
    ∀ e ∈ earlyWrites fields, pcfg.lookup e.1 = some e.2 :=
  setFields_eq_self_iff nodup_earlyWrites

/-- An update that gets to the checks is sound when a refusal finds the early writes stored and
what is accepted makes a loadable profile. -/
theorem soundUpdate_checks (hpcfg : site.profile? name = some pcfg)
    (hdesc : ¬ BadDescription fields) : SoundUpdate name site (.obj fields) ↔
      ((ChecksFields fields ∧ ¬ Loadable name (fields ++ pcfg) ∧
          ¬ Overflows name (fields ++ pcfg)) →
        ∀ e ∈ earlyWrites fields, pcfg.lookup e.1 = some e.2) ∧
      ((ChecksFields fields → Loadable name (fields ++ pcfg)) →
        LoadableProfile (name, .obj (fields ++ pcfg))) := by
  have hrun := @serveProfileUpdate_stored name site pcfg fields hpcfg hdesc
  have hchecks := @updateFields_stored name site pcfg fields hpcfg
  rw [← loadable_candidate_iff hdesc, ← overflows_candidate_iff]
  by_cases hgiven : ChecksFields fields
  · rw [if_pos (List.any_eq_true.mpr hgiven)] at hchecks
    simp only [hgiven, true_and, true_imp_iff]
    obtain ⟨hload, out, hout⟩ | ⟨hnot, hfits, message, hout⟩ | ⟨hnot, hover, hout⟩ :=
      validateProfileFields_cases name (candidate pcfg fields)
    · rw [hout] at hchecks
      rw [bind_of_ok hchecks] at hrun
      rw [soundUpdate_of_ok hpcfg hrun, loadableProfile_checked hdesc hout]
      simp [hload]
    · rw [hout] at hchecks
      rw [bind_of_error hchecks] at hrun
      rw [soundUpdate_of_refused hpcfg hrun, stored_eq_iff]
      simp [hnot, hfits]
    · rw [hout] at hchecks
      rw [bind_of_error hchecks] at hrun
      simp [soundUpdate_of_raised hrun, hnot, hover]
  · rw [if_neg (by simpa [ChecksFields] using hgiven)] at hchecks
    rw [bind_of_ok hchecks] at hrun
    rw [soundUpdate_of_ok hpcfg hrun, loadableProfile_stored hdesc hgiven]
    simp [hgiven]

/-- An update with an object is sound when the object fits the profile. -/
theorem soundUpdate_obj_iff (hpcfg : site.profile? name = some pcfg) :
    SoundUpdate name site (.obj fields) ↔ FitsProfile name pcfg fields := by
  by_cases hdesc : BadDescription fields
  · rw [soundUpdate_of_refused hpcfg (serveProfileUpdate_badDescription hpcfg hdesc), stored_eq_iff]
    constructor
    · intro hsame
      exact ⟨fun _ ↦ hsame, fun haccepted ↦ absurd hdesc haccepted.1⟩
    · intro hfits
      exact hfits.refused (.inl hdesc)
  · rw [soundUpdate_checks hpcfg hdesc]
    constructor
    · rintro ⟨hrefused, haccepted⟩
      exact ⟨fun h ↦ hrefused (h.resolve_left hdesc), fun h ↦ haccepted h.2⟩
    · rintro ⟨hrefused, haccepted⟩
      exact ⟨fun h ↦ hrefused (.inr h), fun h ↦ haccepted ⟨hdesc, h⟩⟩

/-- An update with a body that is no object is sound when it raises or the profile is loadable. -/
theorem soundUpdate_notObj_iff {body : Json} (hpcfg : site.profile? name = some pcfg)
    (hbody : body.fields? = none) : SoundUpdate name site body ↔
      ((∀ key ∈ TAKEN_FIELDS ++ "description" :: UPDATE_FIELDS, body.contains? key = some false) →
        LoadableProfile (name, .obj pcfg)) := by
  have hrun := serveProfileUpdate_notObj hpcfg hbody
  split at hrun
  · next hfalse =>
    have hsave : serveProfileUpdate name body site = .ok () (site.setProfile name pcfg).save := by
      rw [hrun, setProfile_self hpcfg]
    rw [soundUpdate_of_ok hpcfg hsave]
    exact ⟨fun hload _ ↦ hload, fun hload ↦ hload hfalse⟩
  · next hnamed => exact iff_of_true (soundUpdate_of_raised hrun) fun hfalse ↦ absurd hfalse hnamed

/-- An update keeps the configuration when it is refused and leaves a loadable profile when it is
accepted, exactly when the body fits the profile. -/
theorem soundUpdate_iff (hpcfg : site.profile? name = some pcfg) (body : Json) :
    SoundUpdate name site body ↔ BodyFits name pcfg body := by
  cases body with
  | obj fields => exact soundUpdate_obj_iff hpcfg
  | null => exact soundUpdate_notObj_iff hpcfg rfl
  | bool b => exact soundUpdate_notObj_iff hpcfg rfl
  | int n => exact soundUpdate_notObj_iff hpcfg rfl
  | float x => exact soundUpdate_notObj_iff hpcfg rfl
  | str s => exact soundUpdate_notObj_iff hpcfg rfl
  | arr items => exact soundUpdate_notObj_iff hpcfg rfl

/-! ### A profile with one model -/

/-- A profile with a chain of one step. -/
def cheapProfile : Fields :=
  [("chain", .arr [.obj [("provider", .str "opencode"), ("model", .str "deepseek-v4-flash")]])]

/-- A gateway with that profile. -/
def cheapSite : Site where
  raw := fun
    | .profiles => .obj [("cheap", .obj cheapProfile)]
    | _ => .obj []
  textKeys := true
  settings := ⟨fun _ ↦ none⟩
  credentials := none
  breaker := .new defaultCbConfig

/-- Choosing the static routing is a sound update. -/
theorem soundUpdate_static :
    SoundUpdate "cheap" cheapSite (.obj [("routing", .str "static")]) := by
  have hload : Loadable "cheap" ([("routing", .str "static")] ++ cheapProfile) :=
    ⟨rfl, by decide, rfl, rfl, rfl⟩
  refine (soundUpdate_iff (rfl : cheapSite.profile? "cheap" = some cheapProfile) _).mpr ⟨?_, ?_⟩
  · rintro (⟨desc, hgiven, -⟩ | ⟨-, hnot, -⟩)
    · exact nomatch hgiven
    · exact absurd hload hnot
  · intro _
    exact loadableProfile_iff.mpr ⟨⟨_, rfl, rfl⟩, hload⟩

/-- An update whose routing is refused empties the chain in memory. -/
theorem refused_update_empties_chain :
    ¬ SoundUpdate "cheap" cheapSite (.obj [("chain", .arr []), ("routing", .str "sideways")]) := by
  intro hsound
  have hcheap : cheapSite.profile? "cheap" = some cheapProfile := rfl
  have hraw := hsound.unchanged _ (cheapSite.setProfile "cheap" [("chain", .arr [])]) rfl
  have hprofile := (raw_setProfile_eq_iff hcheap).mp hraw
  simp [cheapProfile] at hprofile

end LcpGateway.Server
