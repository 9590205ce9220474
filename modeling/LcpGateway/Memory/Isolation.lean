import LcpGateway.Memory.Api

/-!
# The memories of profiles are apart

Library `Memory`. What an operation leaves of a call and of the table of its profile, what an event
does to the state, and that the clients of a profile are answered as if the others never came.
-/

namespace LcpGateway.Memory
open LcpGateway.Base LcpGateway.Server LcpGateway.Server.Routes

variable {V : Type}

/-! ## Operations -/

namespace Lance

variable (L : Lance V) {profile : String} {tables tables' : Tables V} {task : Task V}

/-- An operation reads the table of its profile and whether it is listed. -/
theorem operate_congr (hrows : tables profile = tables' profile)
    (hlisted : (L.tableNames tables).contains profile = (L.tableNames tables').contains profile) :
    L.operate profile tables task = L.operate profile tables' task := by
  cases task with
  | openOrCreate row listed => cases listed <;> simp only [operate, hrows]
  | _ => simp only [operate, hrows, hlisted]

end Lance

/-- The fact a call is to store. -/
def Task.row? : Task V → Option (Row V)
  | .retain row => some row
  | .openOrCreate row _ => some row
  | .add row => some row
  | _ => none

namespace Lance

variable (L : Lance V) {profile : String} {tables : Tables V} {task : Task V}

/-- What a call comes to next. -/
inductive Leads (L : Lance V) (profile : String) (tables : Tables V) : Task V → Task V → Prop where
  | looked {row : Row V} : Leads L profile tables (.retain row)
      (.openOrCreate row ((L.tableNames tables).contains profile))
  | opened {row : Row V} {listed : Bool} :
      Leads L profile tables (.openOrCreate row listed) (.add row)
  | embedded {query : String} {topK : Int} {tagFilter : Json} {vector : V} :
      Leads L profile tables (.recallRows query topK tagFilter) (.search vector topK tagFilter)
  | found {id : String} : Leads L profile tables (.forget id) (.countBefore id)
  | counted {id : String} {before : Nat} :
      Leads L profile tables (.countBefore id) (.delete id before)
  | present : Leads L profile tables .count .countRows

/-- A call that is not over comes to its next operation. -/
theorem leads_of_operate {rest : Task V} (h : (L.operate profile tables task).2 = .inr rest) :
    Leads L profile tables task rest := by
  cases task with
  | retain row => cases h; exact .looked
  | openOrCreate row listed =>
    cases listed <;> rw [operate] at h <;> split at h <;> cases h <;> exact .opened
  | add row => rw [operate] at h; (repeat' split at h) <;> cases h
  | recallRows query topK tagFilter =>
    rw [operate] at h
    (repeat' split at h) <;> cases h
    exact .embedded
  | search vector topK tagFilter => rw [operate] at h; split at h <;> cases h
  | forget id =>
    rw [operate] at h
    split at h <;> cases h
    exact .found
  | countBefore id =>
    rw [operate] at h
    split at h <;> cases h
    exact .counted
  | delete id before => rw [operate] at h; split at h <;> cases h
  | count =>
    rw [operate] at h
    split at h <;> cases h
    exact .present
  | countRows => cases h

variable {L} in
/-- A call keeps its fact. -/
theorem Leads.row? {rest : Task V} {row : Row V} (h : Leads L profile tables task rest)
    (hrow : rest.row? = some row) : task.row? = some row := by
  cases h <;> exact hrow

variable {L} in
/-- A fact that is about to be stored in a new table was looked up first. -/
theorem Leads.of_openOrCreate {row : Row V} {listed : Bool}
    (h : Leads L profile tables task (.openOrCreate row listed)) :
    task = .retain row ∧ listed = (L.tableNames tables).contains profile := by
  cases h
  exact ⟨rfl, rfl⟩

/-- What an operation does to the table of its profile. -/
inductive Effect (L : Lance V) (profile : String) (tables : Tables V) :
    Task V → Option (List (Row V)) → Prop where
  | same {task : Task V} : Effect L profile tables task (tables profile)
  | created {row : Row V} (hcreate : L.createError profile = none) :
      Effect L profile tables (.openOrCreate row false) (some [])
  | added {row : Row V} {rows : List (Row V)} (hrows : tables profile = some rows) :
      Effect L profile tables (.add row) (some (rows ++ [row]))
  | deleted {id : String} {before : Nat} {rows : List (Row V)} {matched : Row V → Bool}
      (hrows : tables profile = some rows) (hmatched : L.predicate (deletion id) = some matched) :
      Effect L profile tables (.delete id before) (some (rows.filter fun row ↦ !matched row))

/-- An operation has one of four effects. -/
theorem effect_operate (profile : String) (tables : Tables V) (task : Task V) :
    Effect L profile tables task (L.operate profile tables task).1 := by
  cases task with
  | openOrCreate row listed =>
    cases listed with
    | true =>
      rw [operate]
      split
      · next rows hrows => exact hrows ▸ .same
      · next hrows => exact hrows ▸ .same
    | false =>
      rw [operate]
      split
      · next hcreate => exact .created hcreate
      · exact .same
  | add row =>
    rw [operate]
    split
    · next hrows => exact hrows ▸ .same
    · next rows hrows =>
      split
      · exact .added hrows
      · exact hrows ▸ .same
  | delete id before =>
    rw [operate]
    split
    · next rows matched hrows hmatched => exact .deleted hrows hmatched
    · exact .same
  | recallRows query topK tagFilter => rw [operate]; (repeat' split) <;> exact .same
  | search vector topK tagFilter =>
    rw [operate]
    split
    · next rows hrows => exact hrows ▸ .same
    · next hrows => exact hrows ▸ .same
  | countBefore id =>
    rw [operate]
    split
    · next rows hrows => exact hrows ▸ .same
    · next hrows => exact hrows ▸ .same
  | retain row => exact .same
  | forget id => rw [operate]; split <;> exact .same
  | count => rw [operate]; split <;> exact .same
  | countRows => exact .same

end Lance

/-! ## Steps -/

/-- What is left of every call. -/
theorem State.tasks_setTask (s : State V) (profile : String) (number : Nat)
    (task : Option (Task V)) (other : String) (n : Nat) :
    (s.setTask profile number task).tasks other n =
      if other = profile ∧ n = number then task else s.tasks other n := by
  rw [setTask]
  by_cases hprofile : other = profile
  · subst hprofile
    by_cases hnumber : n = number <;> simp [hnumber]
  · simp [hprofile]

/-- What is left of every call behind an operation. -/
theorem State.tasks_settle (s : State V) (profile : String) (number : Nat)
    (left : Option (List (Row V)) × (Answer ⊕ Task V)) (other : String) (n : Nat) :
    (s.settle profile number left).1.tasks other n =
      if other = profile ∧ n = number then left.2.getRight? else s.tasks other n :=
  tasks_setTask _ profile number _ other n

/-- Every table behind an operation. -/
theorem State.tables_settle (s : State V) (profile : String) (number : Nat)
    (left : Option (List (Row V)) × (Answer ⊕ Task V)) (other : String) :
    (s.settle profile number left).1.tables other =
      if other = profile then left.1 else s.tables other := by
  by_cases hprofile : other = profile <;> simp [settle, setTask, hprofile]

namespace Host

variable (host : Host V)

/-- What one event does. -/
inductive Move (host : Host V) (s : State V) : Event → State V → Prop where
  | stays {event : Event} : Move host s event s
  | enters {number : Nat} {req : Request} {profile action : String} {task : Task V}
      (htarget : memoryTarget host.gw host.modelsPaths req = some (profile, action))
      (hreceive : host.receive profile action req = .ok task) :
      Move host s (.arrive number req) (s.setTask profile number (some task))
  | operates {profile : String} {number : Nat} {task : Task V} {L : Lance V}
      (htask : s.tasks profile number = some task) (hbackend : host.backend = some L) :
      Move host s (.proceed profile number)
        (s.settle profile number (L.operate profile s.tables task)).1

/-- A step is one of three moves. -/
theorem move_step (s : State V) (event : Event) : host.Move s event (host.step s event) := by
  cases event with
  | arrive number req =>
    rw [step, advanceBy, respond]
    split
    · exact .stays
    · next profile action htarget =>
      split
      · exact .stays
      · split
        · exact .stays
        · next task hreceive => exact .enters htarget hreceive
  | proceed profile number =>
    rw [step, advanceBy, respond]
    split
    · next task L htask hbackend => exact .operates htask hbackend
    · exact .stays

end Host

/-! ## Apart from the others -/

/-- What a profile has: its table and its calls. -/
def State.own (profile : String) (s : State V) : Option (List (Row V)) × (Nat → Option (Task V)) :=
  (s.tables profile, s.tasks profile)

/-- A call of another profile is no call of this one. -/
theorem State.own_setTask_of_ne {profile other : String} (h : profile ≠ other) (s : State V)
    (number : Nat) (task : Option (Task V)) :
    (s.setTask other number task).own profile = s.own profile := by
  simp only [own, setTask, Function.update_of_ne h]

/-- An operation of another profile leaves the table and the calls of this one. -/
theorem State.own_settle_of_ne {profile other : String} (h : profile ≠ other) (s : State V)
    (number : Nat) (left : Option (List (Row V)) × (Answer ⊕ Task V)) :
    (s.settle other number left).1.own profile = s.own profile := by
  rw [settle, own_setTask_of_ne h]
  simp only [own, Function.update_of_ne h]

/-- A call of a profile changes its calls alone. -/
theorem State.own_setTask (s : State V) (profile : String) (number : Nat)
    (task : Option (Task V)) : (s.setTask profile number task).own profile =
      (s.tables profile, Function.update (s.tasks profile) number task) := by
  simp only [own, setTask, Function.update_self]

/-- An operation of a profile changes its table and its calls. -/
theorem State.own_settle (s : State V) (profile : String) (number : Nat)
    (left : Option (List (Row V)) × (Answer ⊕ Task V)) :
    (s.settle profile number left).1.own profile =
      (left.1, Function.update (s.tasks profile) number left.2.getRight?) := by
  simp only [settle, own_setTask, Function.update_self]

namespace Host

variable (host : Host V)

/-- The listing is right about the table of a profile. -/
def Lists (profile : String) (s : State V) : Prop :=
  ∀ L, host.backend = some L → (profile ∈ L.tableNames s.tables ↔ (s.tables profile).isSome)

/-- What is another's event leaves a profile as it is. -/
theorem own_respond_of_not_concerns {profile : String} {s : State V} {event : Event}
    (h : host.concerns profile event = false) :
    (host.respond s event).1.own profile = s.own profile := by
  rw [concerns, decide_eq_false_iff_not] at h
  have hmove := host.move_step s event
  rw [step, advanceBy] at hmove
  generalize (host.respond s event).1 = s' at hmove
  cases hmove with
  | stays => rfl
  | enters htarget hreceive =>
    rw [profileOf, htarget] at h
    exact State.own_setTask_of_ne (fun heq ↦ h (congrArg some heq.symm)) _ _ _
  | operates htask hbackend =>
    exact State.own_settle_of_ne (fun heq ↦ h (congrArg some heq.symm)) _ _ _

/-- A profile's own events are answered from its table, its calls and the listing of its table. -/
theorem respond_congr {profile : String} {s t : State V} {event : Event}
    (hmine : host.concerns profile event = true) (hs : host.Lists profile s)
    (ht : host.Lists profile t) (hown : s.own profile = t.own profile) :
    (host.respond s event).1.own profile = (host.respond t event).1.own profile ∧
      (host.respond s event).2 = (host.respond t event).2 := by
  obtain ⟨htables, htasks⟩ := Prod.mk.inj hown
  rw [concerns, decide_eq_true_eq] at hmine
  cases event with
  | arrive number req =>
    rw [profileOf] at hmine
    obtain ⟨target, htarget, rfl⟩ := Option.map_eq_some_iff.mp hmine
    simp only [respond, htarget, htasks]
    split
    · exact ⟨hown, rfl⟩
    · split
      · exact ⟨hown, rfl⟩
      · rw [State.own_setTask, State.own_setTask, htables, htasks]
        exact ⟨rfl, rfl⟩
  | proceed own number =>
    rw [profileOf, Option.some.injEq] at hmine
    subst hmine
    simp only [respond, htasks]
    cases htask : t.tasks own number with
    | none => exact ⟨hown, rfl⟩
    | some task =>
      cases hbackend : host.backend with
      | none => exact ⟨hown, rfl⟩
      | some L =>
        have hlisted : (L.tableNames s.tables).contains own =
            (L.tableNames t.tables).contains own := by
          rw [Bool.eq_iff_iff, List.contains_iff_mem, List.contains_iff_mem, hs L hbackend,
            ht L hbackend, htables]
        have hsame : L.operate own s.tables task = L.operate own t.tables task :=
          L.operate_congr htables hlisted
        simp only [hsame]
        rw [State.own_settle, State.own_settle, htasks]
        exact ⟨rfl, rfl⟩

/-- In any order of the requests of all profiles and of their database operations, the clients of a
profile are answered, and its table ends, as if the others had never come. -/
theorem answers_eq_own (profile : String) (events : List Event)
    (hs : ∀ p ∈ steps host.step .empty events, host.Lists profile p.1)
    (ht : ∀ p ∈ steps host.step .empty (events.filter (host.concerns profile)),
      host.Lists profile p.1) :
    answersTo host.respond (host.concerns profile) .empty events =
        answersTo host.respond (host.concerns profile) .empty
          (events.filter (host.concerns profile)) ∧
      (run host.step .empty events).tables profile =
        (run host.step .empty (events.filter (host.concerns profile))).tables profile := by
  have hunwinding : Unwinding host.respond (host.concerns profile) (State.own profile)
      (host.Lists profile) :=
    { confined := fun s event h ↦ host.own_respond_of_not_concerns h
      answered := fun s t event hmine hs ht hown ↦ host.respond_congr hmine hs ht hown }
  obtain ⟨hanswers, hown⟩ := hunwinding.purge .empty .empty rfl events hs ht
  exact ⟨hanswers, (Prod.mk.inj hown).1⟩

end Host

/-- A database that lists its tables, and takes the filters of `forget` with a plain name. -/
def sampleLance : Lance Unit where
  embed := fun _ ↦ .ok ()
  tableNames := fun tables ↦ ["coder", "pi"].filter fun profile ↦ (tables profile).isSome
  openError := fun _ ↦ "not found"
  createError := fun _ ↦ none
  addError := fun _ ↦ none
  predicate := fun text ↦
    let name := (text.toList.drop 6).dropLast
    if name.contains '\'' then none else some fun row ↦ row.id == String.ofList name
  search := fun rows _ _ topK ↦ .ok ((rows.take topK.toNat).map (·, 0))
  str := fun _ ↦ "value"
  dumpsDict := fun _ ↦ some "{}"
  decodeMeta := fun _ ↦ .obj []

/-- A profile without keys, and one with a key of its own. -/
def twoProfiles : Host Unit where
  gw := { openGateway with
    profiles := ("coder", ⟨none, some [], []⟩) :: openGateway.profiles
    keyManager := some fun raw ↦ if raw = "k" then .accepted ⟨some 1, some "coder"⟩ else .refused }
  modelsPaths := defaultModelsPaths
  backend := some sampleLance

/-- A request that sends a fact. -/
def retainRequest (profile authorization content id : String) : Request where
  method := .post
  path := pathOf [profile, "memory", "retain"]
  authorization := authorization
  body := some (.obj [("content", .str content)])
  newId := id
  now := .fin 0

/-- The sample database lists the tables of both profiles. -/
theorem lists_twoProfiles {profile : String} (h : profile ∈ ["coder", "pi"]) (s : State Unit) :
    twoProfiles.Lists profile s := by
  intro L hL
  cases hL
  simp only [sampleLance, List.mem_filter, h, true_and]

-- two facts that are stored at the same time
theorem answers_eq_own_twoProfiles :
    let events := [.arrive 0 (retainRequest "coder" "Bearer k" "tea" "1"),
      .arrive 0 (retainRequest "pi" "" "coffee" "2"), .proceed "coder" 0, .proceed "pi" 0,
      .proceed "pi" 0, .proceed "coder" 0, .proceed "pi" 0, .proceed "coder" 0]
    answersTo twoProfiles.respond (twoProfiles.concerns "pi") .empty events =
        answersTo twoProfiles.respond (twoProfiles.concerns "pi") .empty
          (events.filter (twoProfiles.concerns "pi")) ∧
      (run twoProfiles.step .empty events).tables "pi" =
        (run twoProfiles.step .empty (events.filter (twoProfiles.concerns "pi"))).tables "pi" :=
  twoProfiles.answers_eq_own "pi" _ (fun p _ ↦ lists_twoProfiles (by decide) p.1)
    (fun p _ ↦ lists_twoProfiles (by decide) p.1)

end LcpGateway.Memory
