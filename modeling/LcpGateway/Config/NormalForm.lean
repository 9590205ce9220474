import LcpGateway.Base.Casing
import LcpGateway.Config.ProfileFields

/-!
# Normalised profiles

Library `Config`. Source `src/api/config.py:318–416`. What `validate_profile_fields` returns is
accepted again, and all of it but the description is returned as it is. A description is stripped
before it is cut, so the cut can end it with white space that the next validation strips.
-/

namespace LcpGateway.Config
open LcpGateway.Base

/-- Behind the cut of a description there is nothing to strip: its last kept character is no white
space. -/
def CutCleanly (prof : Fields) : Prop :=
  ∀ s, prof.lookup "description" = some (.str s) →
    ∀ c, (strip s).toList[PROFILE_DESC_MAX - 1]? = some c → isSpace c = false

/-- A short text is only stripped. -/
theorem boundedDescription_of_le {s : String} (h : s.toList.length ≤ PROFILE_DESC_MAX) :
    boundedDescription s = strip s := by
  have hlength : (strip s).toList.length ≤ PROFILE_DESC_MAX := (length_strip_le s).trans h
  rw [boundedDescription, List.take_of_length_le hlength, String.ofList_toList]

/-- A description is bounded to itself again when there is no white space where it is cut. -/
theorem boundedDescription_again (s : String) :
    boundedDescription (boundedDescription s) = boundedDescription s ↔
      ∀ c, (strip s).toList[PROFILE_DESC_MAX - 1]? = some c → isSpace c = false := by
  obtain ⟨hhead, hlast⟩ := (strip_eq_self_iff (strip s)).mp (strip_strip s)
  have hshort : (boundedDescription s).toList.length ≤ PROFILE_DESC_MAX := by
    rw [boundedDescription, String.toList_ofList]
    exact List.length_take_le _ _
  rw [boundedDescription_of_le hshort, strip_eq_self_iff, boundedDescription,
    String.toList_ofList]
  have hne : PROFILE_DESC_MAX ≠ 0 := by decide
  rw [List.head?_take, if_neg hne, List.getLast?_take, if_neg hne]
  constructor
  · intro h c hc
    exact h.2 c (by rw [hc, Option.some_or])
  · intro h
    refine ⟨hhead, fun c hc ↦ ?_⟩
    cases hcut : (strip s).toList[PROFILE_DESC_MAX - 1]? with
    | none =>
      rw [hcut, Option.none_or] at hc
      exact hlast c hc
    | some d =>
      rw [hcut, Option.some_or] at hc
      exact h c (hcut.trans hc)

variable {name : String} {prof out : Fields}

/-- A returned description is returned as it is when it was cut cleanly. -/
theorem description_again {desc : String}
    (h : description name (prof.lookup "description") = .ok desc) :
    description name (some (.str desc)) = .ok desc ↔ CutCleanly prof := by
  have hnone (hempty : desc = "") (hvalue : ∀ s, prof.lookup "description" ≠ some (.str s)) :
      description name (some (.str desc)) = .ok desc ↔ CutCleanly prof := by
    have hcut : CutCleanly prof := fun s hs ↦ absurd hs (hvalue s)
    subst hempty
    exact iff_of_true rfl hcut
  cases hvalue : prof.lookup "description" with
  | none =>
    rw [hvalue] at h
    exact hnone (Except.ok.inj h).symm (by simp [hvalue])
  | some value =>
    rw [hvalue] at h
    cases value with
    | null => exact hnone (Except.ok.inj h).symm (by simp [hvalue])
    | str s =>
      obtain rfl : boundedDescription s = desc := Except.ok.inj h
      have hagain : description name (some (.str (boundedDescription s))) =
          .ok (boundedDescription (boundedDescription s)) := rfl
      rw [hagain, Except.ok.injEq, boundedDescription_again]
      constructor
      · intro hcut s' hs'
        obtain rfl : s = s' := by simpa [hvalue] using hs'
        exact hcut
      · intro hcut
        exact hcut s hvalue
    | bool b => simp [description] at h
    | int n => simp [description] at h
    | float x => simp [description] at h
    | arr items => simp [description] at h
    | obj fields => simp [description] at h

/-- A profile that is returned as it is has a description that is. -/
theorem description_of_again (h : validateProfileFields name out = .ok out) {desc : String}
    (hdesc : out.lookup "description" = some (.str desc)) :
    description name (some (.str desc)) = .ok desc := by
  obtain ⟨_, _, _, _, desc', -, -, -, -, hdesc', hout⟩ := validateProfileFields_ok h
  have hwritten : out.lookup "description" = some (.str desc') := by
    rw [hout]
    simp [setFields, lookup_setField]
  obtain rfl : desc = desc' := by simpa [hdesc] using hwritten
  rwa [hdesc] at hdesc'

/-- A normalised profile is returned as it is by the next validation exactly when its description
was cut cleanly. -/
theorem validateProfileFields_again_iff (h : validateProfileFields name prof = .ok out) :
    validateProfileFields name out = .ok out ↔ CutCleanly prof := by
  obtain ⟨agent, mode, labels, gate, desc, hagent, hmode, hlabels, hgate, hdesc, hout⟩ :=
    validateProfileFields_ok h
  have hlookup : out.lookup "agent_profile" = some (.str agent) ∧
      out.lookup "routing" = some (.str mode) ∧
      out.lookup "intents" = some (.arr (labels.map .str)) ∧
      out.lookup "intent_margin_gate" = some (.float gate) ∧
      out.lookup "description" = some (.str desc) := by
    rw [hout]
    simp [setFields, lookup_setField]
  obtain ⟨hagent', hmode', hlabels', hgate', hdesc'⟩ := hlookup
  rw [← description_again hdesc]
  constructor
  · intro hagain
    exact description_of_again hagain hdesc'
  · intro hagain
    rw [validateProfileFields, hagent', hmode', hlabels', hgate', hdesc', agentProfile_ok hagent,
      routing_ok hmode, intents_ok hlabels, intentMarginGate_ok hgate, hagain]
    have hsame : setFields [("agent_profile", .str agent), ("routing", .str mode),
        ("intents", .arr (labels.map .str)), ("intent_margin_gate", .float gate),
        ("description", .str desc)] out = out := by
      simp only [setFields, List.foldl_cons, List.foldl_nil, setField_of_lookup hagent',
        setField_of_lookup hmode', setField_of_lookup hlabels', setField_of_lookup hgate',
        setField_of_lookup hdesc']
    exact congrArg Except.ok hsame

/-- A profile with a description alone. -/
def described (desc : String) : Fields := [("description", .str desc)]

/-- What a profile with a description alone is normalised to. -/
theorem validateProfileFields_described (desc : String) :
    validateProfileFields name (described desc) =
      .ok [("description", .str (boundedDescription desc)), ("agent_profile", .str ""),
        ("routing", .str ""), ("intents", .arr []), ("intent_margin_gate", .float (.fin 0))] := rfl

/-- A description of a few words is returned as it is. -/
theorem validateProfileFields_again_briefly :
    validateProfileFields "cheap" [("description", .str "Small models"), ("agent_profile", .str ""),
        ("routing", .str ""), ("intents", .arr []), ("intent_margin_gate", .float (.fin 0))] =
      .ok [("description", .str "Small models"), ("agent_profile", .str ""),
        ("routing", .str ""), ("intents", .arr []), ("intent_margin_gate", .float (.fin 0))] := by
  have hbounded : boundedDescription "Small models" = "Small models" := by decide
  have hvalid := @validateProfileFields_described "cheap" "Small models"
  rw [hbounded] at hvalid
  refine (validateProfileFields_again_iff hvalid).mpr fun s hs c hc ↦ ?_
  obtain rfl : "Small models" = s := by simpa [described] using hs
  have hshort : (strip "Small models").toList[PROFILE_DESC_MAX - 1]? = none := by decide
  simp [hshort] at hc

/-- A description that is cut behind a blank. -/
def cutDescription : String := String.ofList (List.replicate 119 'a' ++ [' ', 'b'])

/-- Normalising it once more strips the blank. -/
theorem cutDescription_not_again :
    ∃ out, validateProfileFields "cheap" (described cutDescription) = .ok out ∧
      validateProfileFields "cheap" out ≠ .ok out := by
  refine ⟨_, validateProfileFields_described cutDescription, fun hagain ↦ ?_⟩
  have hdesc := description_of_again hagain rfl
  have hcut : (strip cutDescription).toList[PROFILE_DESC_MAX - 1]? = some ' ' := by decide +kernel
  have hspace := (boundedDescription_again cutDescription).mp (Except.ok.inj hdesc) ' ' hcut
  exact absurd hspace (by decide)

end LcpGateway.Config
