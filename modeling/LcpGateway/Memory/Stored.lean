import LcpGateway.Memory.Isolation

/-!
# What a profile's memory keeps

Library `Memory`. The table of a profile holds nothing but what its own clients sent. A fact stays,
whatever the order of the operations, until a request of the profile forgets it, when the listing of
tables is right and no two first facts of the profile come in at once.
-/

namespace LcpGateway.Memory
open LcpGateway.Base LcpGateway.Server LcpGateway.Server.Routes

variable {V : Type}

/-! ## What is stored -/

/-- The profile asks for no key, or the header carries one that is accepted for it. -/
def Admits (gw : Gateway) (profile authorization : String) : Prop :=
  (∃ config, gw.profiles.lookup profile = some config ∧ config.requiresAuth = false) ∨
    ∃ raw validateKey info, authorization = "Bearer " ++ raw ∧ gw.keyManager = some validateKey ∧
      validateKey raw = .accepted info ∧
      ∀ allowed, info.allowedProfiles = some allowed → allowed ≠ "" →
        profile ∈ allowedList allowed

/-- What passes the check of the key is admitted. -/
theorem admits_of_memoryAuth {gw : Gateway} {profile authorization : String}
    (h : memoryAuth gw profile authorization = none) : Admits gw profile authorization := by
  rw [memoryAuth] at h
  split at h
  · next hopen =>
    rw [Bool.not_eq_true'] at hopen
    cases hlookup : gw.profiles.lookup profile with
    | none => rw [hlookup] at hopen; cases hopen
    | some config => rw [hlookup] at hopen; exact .inl ⟨config, hlookup, hopen⟩
  · split at h
    · cases h
    · next hbearer =>
      rw [Bool.not_eq_true', Bool.not_eq_false] at hbearer
      split at h
      · cases h
      · next validateKey hmanager =>
        split at h
        · cases h
        · cases h
        · next info haccepted =>
          split at h
          · next hallows =>
            exact .inr ⟨_, validateKey, info, (startsWith_bearer_iff _).mp hbearer, hmanager,
              haccepted, (info.allows_iff profile).mp hallows⟩
          · cases h

/-- The text of the first field that has one. -/
theorem firstText_single {value : Option Json} {text : String}
    (h : firstText [value] = some text) (hne : text ≠ "") :
    ∃ raw, value = some (.str raw) ∧ text = strip raw := by
  cases value with
  | none => exact absurd (Option.some.inj h).symm hne
  | some v =>
    have hsingle : [some v].filterMap id = [v] := rfl
    rw [firstText, hsingle] at h
    split at h
    · exact absurd (Option.some.inj h).symm hne
    · next raw hfound =>
      have hmem := List.mem_of_find?_eq_some hfound
      rw [List.mem_singleton] at hmem
      exact ⟨raw, congrArg some hmem.symm, (Option.some.inj h).symm⟩
    · cases h

/-- The content that passes the checks of the backend. -/
theorem content_of_sanitize {L : Lance V} {content text : String} {metadata tags : Json}
    {rest : String × List String} (h : L.sanitize content metadata tags = .ok (text, rest)) :
    text = strip content := by
  rw [Lance.sanitize] at h
  repeat' split at h
  all_goals cases h
  rfl

/-- A request of the profile, with a key that is accepted for it, sent this fact. -/
def Host.Sent (host : Host V) (profile : String) (row : Row V) : Event → Prop
  | .arrive _ req =>
    memoryTarget host.gw host.modelsPaths req = some (profile, "retain") ∧
      Admits host.gw profile req.authorization ∧ row.id = req.newId ∧
      ∃ body content, req.body = some body ∧ body.get? "content" = some (.str content) ∧
        row.content = strip content ∧ strip content ≠ ""
  | .proceed _ _ => False

/-- What `retain` is to store is what the body holds. -/
theorem row_of_receiveRetain {L : Lance V} {req : Request} {body : Json} {task : Task V}
    {row : Row V} (h : receiveRetain L req body = .ok task) (hrow : task.row? = some row) :
    row.id = req.newId ∧ ∃ content, body.get? "content" = some (.str content) ∧
      row.content = strip content ∧ strip content ≠ "" := by
  rw [receiveRetain] at h
  split at h
  · cases h
  · next text htext =>
    split at h
    · cases h
    · next hne =>
      split at h
      · cases h
      · cases h
      · next content metadata tags hsanitize =>
        split at h
        · cases h
        · cases h
          cases hrow
          obtain ⟨raw, hraw, rfl⟩ := firstText_single htext hne
          have hcontent := content_of_sanitize hsanitize
          rw [strip_strip] at hcontent
          exact ⟨rfl, raw, hraw, hcontent, hne⟩

/-- A request that is to store a fact sent it. -/
theorem Host.sent_of_receive {host : Host V} {number : Nat} {req : Request}
    {profile action : String} {task : Task V} {row : Row V}
    (htarget : memoryTarget host.gw host.modelsPaths req = some (profile, action))
    (h : host.receive profile action req = .ok task) (hrow : task.row? = some row) :
    host.Sent profile row (.arrive number req) := by
  rw [receive] at h
  split at h
  · cases h
  · split at h
    · cases h
    · next hauth =>
      split at h
      · cases h
      · split at h
        · cases h
          cases hrow
        · split at h
          · cases h
          · next body hbody =>
            split at h
            · cases h
            · split at h
              · next hretain =>
                obtain ⟨hid, content, hcontent⟩ := row_of_receiveRetain h hrow
                exact ⟨hretain ▸ htarget, admits_of_memoryAuth hauth, hid, body, content, hbody,
                  hcontent⟩
              · split at h
                · rw [receiveRecall] at h
                  (repeat' split at h) <;> cases h
                  cases hrow
                · rw [receiveForget] at h
                  (repeat' split at h) <;> cases h
                  cases hrow

namespace Host

variable (host : Host V)

/-- Every fact that is stored or about to be was sent by one of these events. -/
def Sourced (events : List Event) (s : State V) : Prop :=
  ∀ profile, (∀ rows, s.tables profile = some rows → ∀ row ∈ rows,
      ∃ event ∈ events, host.Sent profile row event) ∧
    ∀ number task row, s.tasks profile number = some task → task.row? = some row →
      ∃ event ∈ events, host.Sent profile row event

variable {host}

/-- A step keeps where the facts come from. -/
theorem Sourced.step {events : List Event} {s : State V} (h : host.Sourced events s)
    {event : Event} (hevent : event ∈ events) : host.Sourced events (host.step s event) := by
  have hmove := host.move_step s event
  generalize host.step s event = s' at hmove
  intro profile
  cases hmove with
  | stays => exact h profile
  | @enters number req own action task htarget hreceive =>
    refine ⟨(h profile).1, fun n task' row htask hrow ↦ ?_⟩
    rw [State.tasks_setTask] at htask
    split_ifs at htask with hown
    · obtain ⟨rfl, -⟩ := hown
      cases htask
      exact ⟨_, hevent, sent_of_receive htarget hreceive hrow⟩
    · exact (h profile).2 n task' row htask hrow
  | @operates own number task L htask hbackend =>
    constructor
    · intro rows hrows row hrow
      rw [State.tables_settle] at hrows
      split_ifs at hrows with hown
      · subst hown
        have heffect := L.effect_operate profile s.tables task
        rw [hrows] at heffect
        generalize hafter : some rows = after at heffect
        cases heffect with
        | same => exact (h profile).1 rows hafter.symm row hrow
        | created hcreate =>
          cases hafter
          cases hrow
        | added hbefore =>
          cases hafter
          rcases List.mem_append.mp hrow with hrow | hrow
          · exact (h profile).1 _ hbefore row hrow
          · exact (h profile).2 number _ row htask (congrArg some (List.mem_singleton.mp hrow).symm)
        | deleted hbefore hmatched =>
          cases hafter
          exact (h profile).1 _ hbefore row (List.mem_of_mem_filter hrow)
      · exact (h profile).1 rows hrows row hrow
    · intro n task' row htask' hrow
      rw [State.tasks_settle] at htask'
      split_ifs at htask' with hown
      · obtain ⟨rfl, -⟩ := hown
        have hrest : (L.operate profile s.tables task).2 = .inr task' :=
          Sum.getRight?_eq_some_iff.mp htask'
        exact (h profile).2 number task row htask ((L.leads_of_operate hrest).row? hrow)
      · exact (h profile).2 n task' row htask' hrow

variable (host)

/-- In any order of the requests and of their database operations, the table of a profile holds
nothing but facts that requests of the profile sent, with a key that is accepted for it when it asks
for one. -/
theorem exists_sent_of_stored (events : List Event) {profile : String} {rows : List (Row V)}
    {row : Row V} (hrows : (run host.step .empty events).tables profile = some rows)
    (hrow : row ∈ rows) : ∃ event ∈ events, host.Sent profile row event := by
  have hempty : host.Sourced events .empty :=
    fun _ ↦ ⟨fun _ hnone ↦ absurd hnone.symm (Option.some_ne_none _),
      fun _ _ _ hnone ↦ absurd hnone.symm (Option.some_ne_none _)⟩
  have hkeep : ∀ (s : State V) (event : Event), host.Sourced events s → event ∈ events →
      host.Sourced events (host.step s event) := fun _ _ h hevent ↦ h.step hevent
  have hrun : host.Sourced events (run host.step .empty events) :=
    run_invariant hkeep .empty events hempty fun _ h ↦ h
  exact (hrun profile).1 rows hrows row hrow

end Host

/-- A fact of a profile with a key. -/
def teaRequest : Request := retainRequest "coder" "Bearer k" " tea " "1"

/-- The request and the operations of its call. -/
def teaCall (number : Nat) : List Event :=
  [.arrive number teaRequest, .proceed "coder" number, .proceed "coder" number,
    .proceed "coder" number]

/-- The row of the fact. -/
def teaRow : Row Unit := ⟨"1", "tea", "{}", [], (), .fin 0⟩

/-- The request goes to the memory of its profile. -/
theorem memoryTarget_teaRequest :
    memoryTarget twoProfiles.gw twoProfiles.modelsPaths teaRequest = some ("coder", "retain") := by
  decide +kernel

/-- It is let in, and the fact is to be stored. -/
theorem receive_teaRequest : twoProfiles.receive "coder" "retain" teaRequest =
    .ok (.retain teaRow) := rfl

/-- The fact is stored in the end. -/
theorem tables_teaCall :
    (run twoProfiles.step .empty (teaCall 0)).tables "coder" = some [teaRow] := by
  have hbackend : twoProfiles.backend = some sampleLance := rfl
  simp [teaCall, run, Host.step, advanceBy, Host.respond, memoryTarget_teaRequest,
    receive_teaRequest, hbackend, State.empty, State.setTask, State.settle, Lance.operate,
    sampleLance]

-- the key is accepted, and the content stripped
theorem exists_sent_of_stored_tea : ∃ event ∈ teaCall 0, twoProfiles.Sent "coder" teaRow event :=
  twoProfiles.exists_sent_of_stored (teaCall 0) tables_teaCall List.mem_cons_self

namespace Host

variable (host : Host V)

/-! ## What stays -/

/-- The backend deletes by a name without a quote what has that name. -/
def DeletesById : Prop :=
  ∀ L, host.backend = some L → ∀ id : String, '\'' ∉ id.toList →
    L.predicate (Lance.deletion id) = some fun row ↦ row.id == id

/-- A fact looks for its table when the listing is right and no other fact is about to create it,
and the names that are deleted hold no quote. -/
def Orderly (s : State V) : Event → Prop
  | .arrive _ _ => True
  | .proceed profile number =>
    match s.tasks profile number with
    | some (.retain _) => host.Lists profile s ∧
        ∀ other row, s.tasks profile other ≠ some (.openOrCreate row false)
    | some (.delete id _) => '\'' ∉ id.toList
    | _ => True

/-- The event deletes what has this name from the table of the profile. -/
def Forgets (profile id : String) (s : State V) : Event → Prop
  | .arrive _ _ => False
  | .proceed other number => other = profile ∧
      ∃ before, s.tasks profile number = some (.delete id before)

/-- A table that is about to be created is not there, and one call at most is about to create it. -/
def FirstAlone (s : State V) : Prop :=
  ∀ profile number row, s.tasks profile number = some (.openOrCreate row false) →
    s.tables profile = none ∧
      ∀ other row', s.tasks profile other = some (.openOrCreate row' false) → other = number

variable {host}

/-- A request does not begin in the middle of a call. -/
theorem receive_ne_openOrCreate {profile action : String} {req : Request} {row : Row V}
    {listed : Bool} : host.receive profile action req ≠ .ok (.openOrCreate row listed) := by
  intro h
  have hrow : (Task.openOrCreate row listed).row? = some row := rfl
  rw [receive] at h
  (repeat' split at h) <;> try cases h
  · rw [receiveRetain] at h
    (repeat' split at h) <;> cases h
  · rw [receiveRecall] at h
    (repeat' split at h) <;> cases h
  · rw [receiveForget] at h
    (repeat' split at h) <;> cases h

/-- A step in order keeps the first facts alone. -/
theorem FirstAlone.step {s : State V} {event : Event} (h : FirstAlone s)
    (horderly : host.Orderly s event) : FirstAlone (host.step s event) := by
  have hmove := host.move_step s event
  generalize host.step s event = s' at hmove
  intro profile n row hn
  cases hmove with
  | stays => exact h profile n row hn
  | @enters number req own action task htarget hreceive =>
    have hold : ∀ m row', (s.setTask own number (some task)).tasks profile m =
        some (.openOrCreate row' false) → s.tasks profile m = some (.openOrCreate row' false) := by
      intro m row' hm
      rw [State.tasks_setTask] at hm
      split_ifs at hm with hown
      · cases hm
        exact absurd hreceive receive_ne_openOrCreate
      · exact hm
    obtain ⟨hnone, halone⟩ := h profile n row (hold n row hn)
    exact ⟨hnone, fun m row' hm ↦ halone m row' (hold m row' hm)⟩
  | @operates own number task L htask hbackend =>
    rw [State.tasks_settle] at hn
    rw [State.tables_settle]
    by_cases hown : profile = own
    · subst hown
      -- who creates next was told that there is no table, and that no other creates it
      have hnext : ∀ row', (L.operate profile s.tables task).2.getRight? =
          some (.openOrCreate row' false) → task = .retain row' ∧ s.tables profile = none ∧
            ∀ m row'', s.tasks profile m ≠ some (.openOrCreate row'' false) := by
        intro row' hrest
        have hleads := L.leads_of_operate (Sum.getRight?_eq_some_iff.mp hrest)
        obtain ⟨rfl, hlisted⟩ := hleads.of_openOrCreate
        simp only [Orderly, htask] at horderly
        refine ⟨rfl, ?_, horderly.2⟩
        rw [← Option.not_isSome_iff_eq_none, ← horderly.1 L hbackend, ← List.contains_iff_mem,
          ← hlisted]
        exact Bool.false_ne_true
      rw [if_pos rfl]
      by_cases hnumber : n = number
      · subst hnumber
        rw [if_pos ⟨rfl, rfl⟩] at hn
        obtain ⟨rfl, hnone, halone⟩ := hnext row hn
        refine ⟨hnone, fun m row' hm ↦ ?_⟩
        rw [State.tasks_settle] at hm
        split_ifs at hm with hm'
        · exact hm'.2
        · exact absurd hm (halone m row')
      · rw [if_neg fun hboth ↦ hnumber hboth.2] at hn
        obtain ⟨hnone, halone⟩ := h profile n row hn
        constructor
        · have heffect := L.effect_operate profile s.tables task
          generalize (L.operate profile s.tables task).1 = after at heffect
          cases heffect with
          | same => exact hnone
          | created hcreate => exact absurd (halone number _ htask).symm hnumber
          | added hrows => exact absurd (hnone.symm.trans hrows) (Option.some_ne_none _).symm
          | deleted hrows hmatched =>
            exact absurd (hnone.symm.trans hrows) (Option.some_ne_none _).symm
        · intro m row' hm
          rw [State.tasks_settle] at hm
          split_ifs at hm with hm'
          · exact absurd hn ((hnext row' hm).2.2 n row)
          · exact halone m row' hm
    · rw [if_neg fun hboth ↦ hown hboth.1] at hn
      rw [if_neg hown]
      obtain ⟨hnone, halone⟩ := h profile n row hn
      refine ⟨hnone, fun m row' hm ↦ halone m row' ?_⟩
      rw [State.tasks_settle, if_neg fun hboth ↦ hown hboth.1] at hm
      exact hm

/-- A step in order that does not forget a fact leaves it stored. -/
theorem stored_step (hdeletes : host.DeletesById) {s : State V} {event : Event}
    (hfirst : FirstAlone s) (horderly : host.Orderly s event) {profile : String}
    {rows : List (Row V)} {row : Row V} (hrows : s.tables profile = some rows) (hrow : row ∈ rows)
    (hforgets : ¬ Forgets profile row.id s event) :
    ∃ rows', (host.step s event).tables profile = some rows' ∧ row ∈ rows' := by
  have hmove := host.move_step s event
  generalize host.step s event = s' at hmove
  cases hmove with
  | stays => exact ⟨rows, hrows, hrow⟩
  | enters htarget hreceive => exact ⟨rows, hrows, hrow⟩
  | @operates own number task L htask hbackend =>
    rw [State.tables_settle]
    split_ifs with hown
    · subst hown
      have heffect := L.effect_operate profile s.tables task
      generalize (L.operate profile s.tables task).1 = after at heffect
      cases heffect with
      | same => exact ⟨rows, hrows, hrow⟩
      | created hcreate =>
        have hnone := (hfirst profile number _ htask).1
        exact absurd (hnone.symm.trans hrows) (Option.some_ne_none _).symm
      | added hbefore =>
        obtain rfl := Option.some.inj (hrows.symm.trans hbefore)
        exact ⟨_, rfl, List.mem_append_left _ hrow⟩
      | @deleted id before _ matched hbefore hmatched =>
        obtain rfl := Option.some.inj (hrows.symm.trans hbefore)
        simp only [Orderly, htask] at horderly
        obtain rfl := Option.some.inj ((hdeletes L hbackend id horderly).symm.trans hmatched)
        have hother : row.id ≠ id := by
          rintro rfl
          exact hforgets ⟨rfl, before, htask⟩
        refine ⟨_, rfl, List.mem_filter.mpr ⟨hrow, ?_⟩⟩
        rw [Bool.not_eq_true', beq_eq_false_iff_ne]
        exact hother
    · exact ⟨rows, hrows, hrow⟩

variable (host)

/-- A stored fact stays, in any order of later requests and of their operations, until one of its
profile deletes its name: as long as the listing is right when a fact looks for its table, no other
fact is about to create that table, and no name that is deleted holds a quote. -/
theorem stored_stays (hdeletes : host.DeletesById) (events later : List Event)
    (horderly : ∀ p ∈ steps host.step .empty (events ++ later), host.Orderly p.1 p.2)
    {profile : String} {rows : List (Row V)} {row : Row V}
    (hrows : (run host.step .empty events).tables profile = some rows) (hrow : row ∈ rows)
    (hkept : ∀ p ∈ steps host.step (run host.step .empty events) later,
      ¬ Forgets profile row.id p.1 p.2) :
    ∃ rows', (run host.step .empty (events ++ later)).tables profile = some rows' ∧
      row ∈ rows' := by
  rw [steps_append] at horderly
  have hempty : FirstAlone (State.empty : State V) :=
    fun _ _ _ hnone ↦ absurd hnone.symm (Option.some_ne_none _)
  have hfirst : FirstAlone (run host.step .empty events) :=
    run_invariant_of_guard (fun _ _ h horderly ↦ h.step horderly) .empty events hempty
      fun p hp ↦ horderly p (List.mem_append_left _ hp)
  have hkeep : ∀ (s : State V) (event : Event),
      (FirstAlone s ∧ ∃ rows', s.tables profile = some rows' ∧ row ∈ rows') →
      (host.Orderly s event ∧ ¬ Forgets profile row.id s event) →
      FirstAlone (host.step s event) ∧
        ∃ rows', (host.step s event).tables profile = some rows' ∧ row ∈ rows' := by
    rintro s event ⟨hfirst, rows', hrows', hrow'⟩ ⟨horderly, hforgets⟩
    exact ⟨hfirst.step horderly, stored_step hdeletes hfirst horderly hrows' hrow' hforgets⟩
  rw [run_append]
  exact (run_invariant_of_guard hkeep _ later ⟨hfirst, rows, hrows, hrow⟩
    fun p hp ↦ ⟨horderly p (List.mem_append_right _ hp), hkept p hp⟩).2

end Host

/-- The sample database deletes by a plain name. -/
theorem deletesById_twoProfiles : twoProfiles.DeletesById := by
  intro L hL id hid
  cases hL
  have hname : ((Lance.deletion id).toList.drop 6).dropLast = id.toList := by
    have htext : (Lance.deletion id).toList = "id = '".toList ++ (id.toList ++ ['\'']) := by
      simp [Lance.deletion]
    have hdrop : ("id = '".toList ++ (id.toList ++ ['\''])).drop 6 = id.toList ++ ['\''] := rfl
    rw [htext, hdrop, List.dropLast_concat]
  have hquote : id.toList.contains '\'' = false := by
    rw [List.contains_eq_mem, decide_eq_false_iff_not]
    exact hid
  simp only [sampleLance, hname, hquote, String.ofList_toList]
  rfl

-- the same fact sent twice
theorem stored_stays_tea : ∃ rows', (run twoProfiles.step .empty (teaCall 0 ++ teaCall 1)).tables
    "coder" = some rows' ∧ teaRow ∈ rows' := by
  have hbackend : twoProfiles.backend = some sampleLance := rfl
  have hother : ∀ (number other : Nat) (row : Row Unit),
      Function.update (fun _ ↦ none) number (some (Task.retain teaRow)) other ≠
        some (.openOrCreate row false) := by
    intro number other row
    rw [Function.update_apply]
    split_ifs <;> simp
  have horderly : ∀ p ∈ steps twoProfiles.step .empty (teaCall 0 ++ teaCall 1),
      twoProfiles.Orderly p.1 p.2 := by
    simpa [teaCall, steps, Host.step, advanceBy, Host.respond, memoryTarget_teaRequest,
      receive_teaRequest, hbackend, State.empty, State.setTask, State.settle, Lance.operate,
      sampleLance, Host.Orderly, lists_twoProfiles] using ⟨hother 0, hother 1⟩
  have hkept : ∀ p ∈ steps twoProfiles.step (run twoProfiles.step .empty (teaCall 0)) (teaCall 1),
      ¬ Host.Forgets "coder" teaRow.id p.1 p.2 := by
    simp [teaCall, steps, run, Host.step, advanceBy, Host.respond, memoryTarget_teaRequest,
      receive_teaRequest, hbackend, State.empty, State.setTask, State.settle, Lance.operate,
      sampleLance, Host.Forgets]
  exact twoProfiles.stored_stays deletesById_twoProfiles (teaCall 0) (teaCall 1) horderly
    tables_teaCall List.mem_cons_self hkept

end LcpGateway.Memory
