import LcpGateway.Breaker.Forgotten
import LcpGateway.Server.ConfigWrites

/-!
# Breaker entries of deleted and renamed providers

Library `Server`. Sources `src/server/endpoints.py:975–1067` and `src/api/setup.py:416–455`. Writes
of the configuration, breaker calls of requests in flight and restarts follow each other in any
order. Both deletions forget the provider, a rename leaves the entries of the old name.
-/

namespace LcpGateway.Server
open LcpGateway.Base LcpGateway.Config LcpGateway.Breaker

variable {boot : Boot} {site : Site}

/-! ### What the handlers do to the breaker -/

/-- A loop over the profiles does not reach the breaker. -/
theorem frames_eachProfile (f : String × Json → (String × Json) × Bool) :
    Frames Site.breaker (eachProfile f) :=
  frames_bind frames_get fun _ ↦ frames_bind (frames_orStop _ _) fun _ ↦
    frames_bind (frames_modify fun _ ↦ rfl) fun _ ↦ frames_orStop _ _

/-- A field that is acted on reaches what the act reaches. -/
theorem frames_whenField (body : Json) (key : String) {act : Json → Handler Unit}
    (h : ∀ value, Frames Site.breaker (act value)) : Frames Site.breaker (whenField body key act) :=
  frames_bind (frames_orStop _ _) fun _ ↦
    frames_ite (frames_bind (frames_orStop _ _) h) (frames_pure _)

/-- A stored key does not reach the breaker. -/
theorem frames_storeKey (name : String) (value : Json) :
    Frames Site.breaker (storeKey name value) :=
  frames_bind frames_get fun _ ↦ frames_bind (frames_orStop _ _) fun _ ↦
    frames_bind (frames_orStop _ _) fun _ ↦ frames_bind (frames_orStop _ _) fun _ ↦
      frames_modify fun _ ↦ rfl

/-- A provider's field does not reach the breaker. -/
theorem frames_setProviderField (name key : String) (value : Json) :
    Frames Site.breaker (setProviderField name key value) :=
  frames_bind frames_get fun _ ↦ frames_bind (frames_orStop _ _) fun _ ↦
    frames_bind (frames_orStop _ _) fun _ ↦ frames_modify fun _ ↦ rfl

/-- A creation does not reach the breaker. -/
theorem frames_providerCreate (boot : Boot) (body : Json) (discovered : List Json) :
    Frames Site.breaker (serveProviderCreate boot body discovered) :=
  frames_bind (frames_orStop _ _) fun _ ↦ frames_bind (frames_stopIf _ _) fun _ ↦
    frames_bind frames_get fun _ ↦ frames_bind (frames_orStop _ _) fun _ ↦
      frames_bind (frames_orStop _ _) fun _ ↦ frames_bind (frames_modify fun _ ↦ rfl) fun _ ↦
        frames_bind (frames_modify fun _ ↦ rfl) fun _ ↦
          frames_bind (frames_modify fun _ ↦ breaker_autoLearn discovered) fun _ ↦
            frames_ite (frames_storeKey _ _) (frames_pure _)

/-- An update does not reach the breaker. -/
theorem frames_providerUpdate (name : String) (body : Json) (discovered : List Json) :
    Frames Site.breaker (serveProviderUpdate name body discovered) :=
  frames_bind frames_get fun _ ↦ frames_bind (frames_stopIf _ _) fun _ ↦
    frames_bind (frames_whenField _ _ fun _ ↦ frames_storeKey _ _) fun _ ↦
      frames_bind (frames_whenField _ _ fun _ ↦ frames_setProviderField _ _ _) fun _ ↦
        frames_bind (frames_whenField _ _ fun _ ↦ frames_setProviderField _ _ _) fun _ ↦
          frames_bind (frames_modify fun _ ↦ rfl) fun _ ↦
            frames_modify fun _ ↦ breaker_autoLearn discovered

/-- A deletion that stops has not reached the breaker. -/
theorem stopFrames_providerDelete (name : String) :
    StopFrames Site.breaker (serveProviderDelete name) :=
  stopFrames_bind frames_get fun _ ↦ stopFrames_bind (frames_stopIf _ _) fun _ ↦
    stopFrames_bind (frames_orStop _ _) fun _ ↦ stopFrames_bind (frames_modify fun _ ↦ rfl) fun _ ↦
      stopFrames_bind (frames_eachProfile _) fun _ ↦
        stopFrames_bind (frames_modify fun _ ↦ rfl) fun _ ↦
          stopFrames_bind (frames_modify fun _ ↦ rfl) fun _ ↦ stopFrames_modify _

/-- A removal that stops has not reached the breaker. -/
theorem stopFrames_removeProvider (name : String) :
    StopFrames Site.breaker (removeProvider name) :=
  stopFrames_bind (frames_stopIf _ _) fun _ ↦ stopFrames_bind frames_get fun _ ↦
    stopFrames_bind (frames_orStop _ _) fun _ ↦ stopFrames_bind (frames_modify fun _ ↦ rfl) fun _ ↦
      stopFrames_bind (frames_eachProfile _) fun _ ↦
        stopFrames_bind (frames_modify fun _ ↦ rfl) fun _ ↦
          stopFrames_bind (frames_modify fun _ ↦ rfl) fun _ ↦ stopFrames_modify _

/-- A rename does not reach the breaker. -/
theorem frames_providerRename (name : String) (body : Json) :
    Frames Site.breaker (serveProviderRename name body) :=
  frames_bind (frames_orStop _ _) fun _ ↦ frames_bind (frames_orStop _ _) fun _ ↦
    frames_bind (frames_stopIf _ _) fun _ ↦ frames_bind frames_get fun _ ↦
      frames_bind (frames_stopIf _ _) fun _ ↦ frames_ite (frames_pure _) <|
        frames_bind frames_get fun _ ↦ frames_bind (frames_stopIf _ _) fun _ ↦
          frames_bind (frames_orStop _ _) fun _ ↦ frames_bind (frames_orStop _ _) fun _ ↦
            frames_bind (frames_modify fun _ ↦ rfl) fun _ ↦
              frames_bind (frames_eachProfile _) fun _ ↦
                frames_bind (frames_modify fun _ ↦ rfl) fun _ ↦ frames_modify fun _ ↦ rfl

/-- A written profile leaves the breaker alone. -/
theorem breaker_setProfile (name : String) (pcfg : Fields) :
    (site.setProfile name pcfg).breaker = site.breaker := by
  unfold Site.setProfile
  split <;> rfl

/-- A reorder does not reach the breaker. -/
theorem frames_chainReorder (profile : String) (body : Json) :
    Frames Site.breaker (serveChainReorder profile body) :=
  frames_bind frames_get fun _ ↦ frames_bind (frames_stopIf _ _) fun _ ↦
    frames_bind (frames_orStop _ _) fun _ ↦ frames_bind (frames_orStop _ _) fun _ ↦
      frames_bind (frames_stopIf _ _) fun _ ↦ frames_bind (frames_orStop _ _) fun _ ↦
        frames_bind (frames_orStop _ _) fun _ ↦ frames_bind (frames_orStop _ _) fun _ ↦
          frames_bind (frames_modify fun _ ↦ breaker_setProfile _ _) fun _ ↦
            frames_modify fun _ ↦ rfl

/-- The check of a profile does not reach the breaker. -/
theorem frames_validated (name : String) (prof : Fields) :
    Frames Site.breaker (validated name prof) := by
  unfold validated
  split <;> exact fun _ ↦ rfl

/-- A creation of a profile does not reach the breaker. -/
theorem frames_profileCreate (boot : Boot) (body : Json) :
    Frames Site.breaker (serveProfileCreate boot body) :=
  frames_bind (frames_orStop _ _) fun _ ↦ frames_bind (frames_orStop _ _) fun _ ↦
    frames_bind (frames_stopIf _ _) fun _ ↦ frames_bind frames_get fun _ ↦
      frames_bind (frames_stopIf _ _) fun _ ↦ frames_bind (frames_orStop _ _) fun _ ↦
        frames_bind (frames_orStop _ _) fun _ ↦ frames_bind (frames_orStop _ _) fun _ ↦
          frames_bind (frames_orStop _ _) fun _ ↦ frames_bind (frames_orStop _ _) fun _ ↦
            frames_bind (frames_stopIf _ _) fun _ ↦ frames_bind (frames_validated _ _) fun _ ↦
              frames_bind (frames_modify fun _ ↦ breaker_setProfile _ _) fun _ ↦
                frames_modify fun _ ↦ rfl

/-- A profile's field does not reach the breaker. -/
theorem frames_setProfileField (name key : String) (value : Json) :
    Frames Site.breaker (setProfileField name key value) :=
  frames_bind frames_get fun _ ↦ frames_bind (frames_orStop _ _) fun _ ↦
    frames_modify fun _ ↦ breaker_setProfile _ _

/-- The checked fields of a profile do not reach the breaker. -/
theorem frames_updateFields (name : String) (body : Json) :
    Frames Site.breaker (updateFields name body) :=
  frames_bind (frames_orStop _ _) fun _ ↦ frames_ite
    (frames_bind (frames_orStop _ _) fun _ ↦ frames_bind frames_get fun _ ↦
      frames_bind (frames_orStop _ _) fun _ ↦ frames_bind (frames_validated _ _) fun _ ↦
        frames_modify fun _ ↦ breaker_setProfile _ _) (frames_pure _)

/-- An update of a profile does not reach the breaker. -/
theorem frames_profileUpdate (name : String) (body : Json) :
    Frames Site.breaker (serveProfileUpdate name body) :=
  frames_bind frames_get fun _ ↦ frames_bind (frames_stopIf _ _) fun _ ↦
    frames_bind (frames_whenField _ _ fun _ ↦ frames_setProfileField _ _ _) fun _ ↦
      frames_bind (frames_whenField _ _ fun _ ↦ frames_setProfileField _ _ _) fun _ ↦
        frames_bind (frames_whenField _ _ fun _ ↦ frames_setProfileField _ _ _) fun _ ↦
          frames_bind (frames_whenField _ _ fun _ ↦ frames_bind (frames_orStop _ _) fun _ ↦
            frames_setProfileField _ _ _) fun _ ↦
              frames_bind (frames_updateFields _ _) fun _ ↦ frames_modify fun _ ↦ rfl

/-- A deletion of a profile does not reach the breaker. -/
theorem frames_profileDelete (name : String) :
    Frames Site.breaker (serveProfileDelete name) :=
  frames_bind frames_get fun _ ↦ frames_bind (frames_stopIf _ _) fun _ ↦
    frames_bind (frames_orStop _ _) fun _ ↦ frames_bind (frames_modify fun _ ↦ rfl) fun _ ↦
      frames_modify fun _ ↦ rfl

/-! ### The machine -/

/-- The name a write frees when it is accepted. -/
def Write.frees : Write → Option String
  | .providerDelete name => some name
  | .setupRemove name => some name
  | .providerRename name _ => some name
  | _ => none

/-- The provider whose breaker entries a write forgets at its end. -/
def Write.forgets : Write → Option String
  | .providerDelete name => some name
  | .setupRemove name => some name
  | _ => none

/-- What happens to a running gateway. -/
inductive Event where
  | write (w : Write)
  -- a breaker call of a request in flight or of an operator
  | call (op : Op)
  | restart

/-- The site, and the names that were freed and are not configured again. -/
structure Watched where
  site : Site
  gone : List String

/-- A new process on the stored settings; one whose configuration raises does not come up. -/
def Site.restart (boot : Boot) (site : Site) : Site :=
  match boot.hydrate site.settings with
  | some raw => { site with raw := raw, textKeys := true, breaker := site.breaker.restarted }
  | none => site

namespace Event

/-- The site after an event. -/
def after (boot : Boot) (site : Site) : Event → Site
  | .write w => w.step boot site
  | .call op => { site with breaker := site.breaker.step op }
  | .restart => site.restart boot

/-- The names an event frees. -/
def freed (boot : Boot) (site : Site) : Event → List String
  | .write w => if w.Accepted boot site then w.frees.toList else []
  | _ => []

/-- One event. -/
def step (boot : Boot) (w : Watched) (e : Event) : Watched where
  site := e.after boot w.site
  gone := (e.freed boot w.site ++ w.gone).filter (fun name ↦
    !(e.after boot w.site).hasProvider name)

/-- The event is not an accepted rename to another name while the old one has breaker entries, and
not a recording call for a name that is gone. -/
def Guard (boot : Boot) (w : Watched) : Event → Prop
  | .write (.providerRename name body) =>
    (Write.providerRename name body).Accepted boot w.site → newNameOf body ≠ name →
      w.site.breaker.Forgotten name
  | .write _ => True
  | .call op => ∀ k, op.creates = some k → k.provider ∉ w.gone
  | .restart => True

end Event

namespace Watched

/-- No breaker entry of a name that is gone is listed, in memory or after a restart. -/
def Clean (w : Watched) : Prop := ∀ name ∈ w.gone, w.site.breaker.Forgotten name

/-- A name that is gone is not configured. -/
def Absent (w : Watched) : Prop := ∀ name ∈ w.gone, w.site.hasProvider name = false

variable {w : Watched} {e : Event}

/-- The names that are gone after an event. -/
theorem mem_gone_step {name : String} : name ∈ (e.step boot w).gone ↔
    (name ∈ e.freed boot w.site ∨ name ∈ w.gone) ∧
      (e.after boot w.site).hasProvider name = false := by
  simp [Event.step, or_and_right]

/-- An event leaves no configured name among those that are gone. -/
theorem absent_step (boot : Boot) (w : Watched) (e : Event) : (e.step boot w).Absent :=
  fun _ h ↦ (mem_gone_step.mp h).2

/-- An event that frees nothing and brings no name back keeps the listing clean. -/
theorem Clean.step_of_kept (h : w.Clean) (hfreed : ∀ name ∈ e.freed boot w.site,
      (e.after boot w.site).hasProvider name = false →
        (e.after boot w.site).breaker.Forgotten name)
    (hkept : ∀ name, w.site.breaker.Forgotten name →
      (e.after boot w.site).breaker.Forgotten name) : (e.step boot w).Clean := by
  intro name hname
  obtain ⟨hfree | hgone, habsent⟩ := mem_gone_step.mp hname
  · exact hfreed name hfree habsent
  · exact hkept name (h name hgone)

end Watched

/-- A write that forgets no provider leaves the breaker alone. -/
theorem breaker_write (w : Write) (h : w.forgets = none) :
    (w.step boot site).breaker = site.breaker := by
  cases w with
  | providerCreate body discovered => exact frames_providerCreate boot body discovered site
  | providerUpdate name body discovered => exact frames_providerUpdate name body discovered site
  | providerDelete name => exact nomatch h
  | providerRename name body => exact frames_providerRename name body site
  | setupRemove name => exact nomatch h
  | chainReorder profile body => exact frames_chainReorder profile body site
  | profileCreate body => exact frames_profileCreate boot body site
  | profileUpdate name body => exact frames_profileUpdate name body site
  | profileDelete name => exact frames_profileDelete name site

/-- A deletion forgets its provider when it is accepted, and leaves the breaker alone otherwise. -/
theorem breaker_deletion (boot : Boot) (site : Site) {w : Write} {name : String}
    (h : w.forgets = some name) :
    (w.Accepted boot site ∧ (w.step boot site).breaker = (site.breaker.forgetProvider name).2) ∨
      (¬ w.Accepted boot site ∧ (w.step boot site).breaker = site.breaker) := by
  unfold Write.Accepted Write.step
  cases hrun : w.handler boot site with
  | ok _ after =>
    refine .inl ⟨rfl, ?_⟩
    cases w with
    | providerDelete name' =>
      obtain rfl := Option.some.inj h
      obtain ⟨_, _, -, -, -, -, rfl⟩ := serveProviderDelete_ok hrun
      rfl
    | setupRemove name' =>
      obtain rfl := Option.some.inj h
      obtain ⟨_, _, -, -, -, rfl⟩ := removeProvider_ok hrun
      rfl
    | _ => exact nomatch h
  | error e after =>
    refine .inr ⟨nofun, ?_⟩
    cases w with
    | providerDelete name' => exact stopFrames_providerDelete name' site e after hrun
    | setupRemove name' => exact stopFrames_removeProvider name' site e after hrun
    | _ => exact nomatch h

/-- What a deletion frees. -/
theorem Write.frees_of_forgets {w : Write} {name : String} (h : w.forgets = some name) :
    w.frees = some name := by
  cases w <;> first | exact h | exact nomatch h

/-- A deletion keeps the listing clean. -/
theorem Watched.Clean.step_deletion {w : Watched} (h : w.Clean) {d : Write} {name : String}
    (hd : d.forgets = some name) : ((Event.write d).step boot w).Clean := by
  rcases breaker_deletion boot w.site hd with ⟨haccepted, heq⟩ | ⟨hnot, heq⟩ <;>
    refine h.step_of_kept (fun freed hfreed _ ↦ ?_) fun other hother ↦ ?_
  · rw [Event.freed, if_pos haccepted, Write.frees_of_forgets hd] at hfreed
    obtain rfl := List.mem_singleton.mp hfreed
    rw [Event.after, heq]
    exact CircuitBreaker.forgotten_forgetProvider _ _
  · rw [Event.after, heq]
    exact hother.forgetProvider name
  · rw [Event.freed, if_neg hnot] at hfreed
    exact nomatch hfreed
  · rw [Event.after, heq]
    exact hother

/-- An accepted rename to another name takes the old one out of the configuration. -/
theorem hasProvider_renamed {name : String} {body : Json}
    (haccepted : (Write.providerRename name body).Accepted boot site)
    (hne : newNameOf body ≠ name) :
    ((Write.providerRename name body).step boot site).hasProvider name = false := by
  have hrun := eq_ok_of_wentThrough haccepted
  obtain ⟨-, ⟨hsame, -⟩ | ⟨-, hmove⟩⟩ := serveProviderRename_ok hrun
  · exact absurd hsame hne
  · obtain ⟨providers, profiles, entry, -, -, -, -, heq⟩ := renameProvider_ok hmove
    rw [Write.step, heq]
    simp [Site.hasProvider, Site.withCredentials, Site.setCredentials, Site.save, raw_setSection,
      Json.get?, lookup_setField, lookup_delField, hne]

/-- A rename that goes to the same name keeps it in the configuration. -/
theorem hasProvider_same {name : String} {body : Json}
    (haccepted : (Write.providerRename name body).Accepted boot site)
    (hsame : newNameOf body = name) :
    ((Write.providerRename name body).step boot site).hasProvider name = true := by
  have hrun := eq_ok_of_wentThrough haccepted
  obtain ⟨hname, ⟨-, heq⟩ | ⟨hne, -⟩⟩ := serveProviderRename_ok hrun
  · rw [Write.step, heq]
    exact hname
  · exact absurd hsame hne

/-- A rename keeps the listing clean exactly when the old name has no entries to leave behind. -/
theorem Watched.Clean.step_rename_iff {w : Watched} (h : w.Clean) (name : String) (body : Json) :
    ((Event.write (.providerRename name body)).step boot w).Clean ↔
      (Event.write (.providerRename name body)).Guard boot w := by
  have hbreaker : ((Write.providerRename name body).step boot w.site).breaker = w.site.breaker :=
    breaker_write _ rfl
  constructor
  · intro hclean haccepted hne
    have hgone : name ∈ ((Event.write (.providerRename name body)).step boot w).gone := by
      refine mem_gone_step.mpr ⟨.inl ?_, hasProvider_renamed haccepted hne⟩
      rw [Event.freed, if_pos haccepted]
      exact List.mem_singleton_self name
    rw [← hbreaker]
    exact hclean name hgone
  · intro hguard
    refine h.step_of_kept (fun freed hfreed habsent ↦ ?_) (fun other hother ↦ ?_) <;>
      rw [Event.after, hbreaker]
    · rw [Event.freed] at hfreed
      split at hfreed
      · next haccepted =>
        obtain rfl := List.mem_singleton.mp hfreed
        refine hguard haccepted fun hsame ↦ ?_
        rw [Event.after, hasProvider_same haccepted hsame] at habsent
        exact nomatch habsent
      · exact nomatch hfreed
    · exact hother

/-- A breaker call keeps the listing clean exactly when it records for no name that is gone. -/
theorem Watched.Clean.step_call_iff {w : Watched} (h : w.Clean) (habsent : w.Absent) (op : Op) :
    ((Event.call op).step boot w).Clean ↔ (Event.call op).Guard boot w := by
  constructor
  · intro hclean k hop hgone
    have hstill : k.provider ∈ ((Event.call op).step boot w).gone :=
      mem_gone_step.mpr ⟨.inr hgone, habsent _ hgone⟩
    exact ((h _ hgone).step_iff op).mp (hclean _ hstill) k hop rfl
  · intro hguard name hname
    obtain ⟨hfreed | hgone, -⟩ := mem_gone_step.mp hname
    · exact nomatch hfreed
    · exact ((h name hgone).step_iff op).mpr fun k hop hk ↦ hguard k hop (hk ▸ hgone)

/-- A restart keeps the listing clean. -/
theorem Watched.Clean.step_restart {w : Watched} (h : w.Clean) :
    (Event.restart.step boot w).Clean := by
  refine h.step_of_kept (fun _ hfreed ↦ nomatch hfreed) fun other hother ↦ ?_
  rw [Event.after, Site.restart]
  split
  · exact hother.restarted
  · exact hother

/-- Step lemma: from a clean listing, an event keeps it clean exactly when it meets its guard. -/
theorem Watched.Clean.step_iff {w : Watched} (h : w.Clean) (habsent : w.Absent) (e : Event) :
    (e.step boot w).Clean ↔ e.Guard boot w := by
  cases e with
  | call op => exact h.step_call_iff habsent op
  | restart => exact ⟨fun _ ↦ trivial, fun _ ↦ h.step_restart⟩
  | write d =>
    cases d with
    | providerRename name body => exact h.step_rename_iff name body
    | providerDelete name => exact ⟨fun _ ↦ trivial, fun _ ↦ h.step_deletion rfl⟩
    | setupRemove name => exact ⟨fun _ ↦ trivial, fun _ ↦ h.step_deletion rfl⟩
    | _ =>
      refine ⟨fun _ ↦ trivial, fun _ ↦ h.step_of_kept (fun freed hfreed ↦ ?_) fun other hother ↦ ?_⟩
      · rw [Event.freed] at hfreed
        split at hfreed <;> exact nomatch hfreed
      · rw [Event.after, breaker_write _ rfl]
        exact hother

/-- Over every run of configuration writes, breaker calls and restarts: after every event no entry
of a provider that was deleted or renamed away, and not created again, is listed in memory or after
a restart, exactly when every rename meets a name without entries and no call records for a name
that is gone. -/
theorem cascade_run_iff (boot : Boot) (site : Site) (events : List Event) :
    (∀ p ∈ steps (Event.step boot) ⟨site, []⟩ events, (p.2.step boot p.1).Clean) ↔
      ∀ p ∈ steps (Event.step boot) ⟨site, []⟩ events, p.2.Guard boot p.1 := by
  have hsafe : ∀ (w : Watched) (e : Event), w.Clean ∧ w.Absent → True →
      ((e.step boot w).Clean ↔ e.Guard boot w) := fun _ e hw _ ↦ hw.1.step_iff hw.2 e
  have hkeep : ∀ (w : Watched) (e : Event), w.Clean ∧ w.Absent → True → e.Guard boot w →
      (e.step boot w).Clean ∧ (e.step boot w).Absent :=
    fun w e hw _ hguard ↦ ⟨(hw.1.step_iff hw.2 e).mpr hguard, Watched.absent_step boot w e⟩
  exact steps_safe_iff hsafe hkeep _ events ⟨nofun, nofun⟩ (fun _ _ ↦ trivial)

/-- A key of the sample provider. -/
def sampleKey : Key := ⟨"opencode", "", "l1"⟩

/-- A request is in flight while its provider is deleted, and fails afterwards. -/
def deletedInFlight : List Event :=
  [.call (.isAvailable 0 sampleKey), .write (.providerDelete "opencode"),
    .call (.recordFailure 1 sampleKey none none)]

/-- A provider that has answered is renamed. -/
def renamedAfterUse : List Event :=
  [.call (.recordSuccess 0 sampleKey),
    .write (.providerRename "opencode" (.obj [("new_name", .str "oc")]))]

/-- The failure of a request in flight lists the deleted provider again, and a rename leaves the
entry of the old name. -/
theorem entries_outlive_provider :
    (¬ ∀ p ∈ steps (Event.step sampleBoot) ⟨sampleSite, []⟩ deletedInFlight,
      (p.2.step sampleBoot p.1).Clean) ∧
    ¬ ∀ p ∈ steps (Event.step sampleBoot) ⟨sampleSite, []⟩ renamedAfterUse,
      (p.2.step sampleBoot p.1).Clean := by
  constructor <;> intro h
  · simp only [deletedInFlight, steps, List.forall_mem_cons] at h
    have hlisted := (h.2.2.1 "opencode" (by decide +kernel) sampleKey rfl).1
    exact absurd hlisted (by decide +kernel)
  · simp only [renamedAfterUse, steps, List.forall_mem_cons] at h
    have hlisted := (h.2.1 "opencode" (by decide +kernel) sampleKey rfl).1
    exact absurd hlisted (by decide +kernel)

end LcpGateway.Server
