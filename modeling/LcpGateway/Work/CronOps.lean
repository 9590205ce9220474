import LcpGateway.Base.Dict
import LcpGateway.Base.Number
import LcpGateway.Base.Paths
import LcpGateway.Work.CronSnapshot
import LcpGateway.Work.Tasks

/-!
# Spooled cron operations

Library `Work`. Source `src/api/work_cron.py:160–321`. A payload becomes an operation in the spool
when every check of its action passes. The checks of a creation and of an edit differ: a created
schedule is checked by its length only, the character class of a script has the two dotted names,
and a working directory is checked by how its text begins.
-/

namespace LcpGateway.Work
open LcpGateway.Base

/-! ## The rules of the module -/

/-- `ACTIONS`. -/
def cronActions : List String := ["create", "edit", "pause", "resume", "run", "remove"]

/-- `_SCHEDULE_RE`. -/
def isSchedule (s : String) : Bool :=
  1 ≤ s.length && s.length ≤ 64 &&
    s.toList.all (fun c ↦ c.isAlphanum || " ,*/:+-".toList.contains c)

/-- `_SCRIPT_RE` and `_BASENAME_RE`. -/
def isBasename (s : String) : Bool :=
  1 ≤ s.length && s.length ≤ 80 && s.toList.all (fun c ↦ c.isAlphanum || "._-".toList.contains c)

/-- `_DELIVERS`, or an id on a platform. -/
def isDeliver (s : String) : Bool :=
  ["origin", "local", "all"].contains s ||
    ["telegram:", "discord:", "sms:", "signal:"].any (startsWith s)

/-- One line of a number of characters. -/
def isLine (most : Nat) (s : String) : Bool := s.length ≤ most && !s.toList.contains '\n'

/-- A file name: no separators, and none of the two dotted names. -/
def isBareFile (s : String) : Bool := isBasename s && s ≠ "." && s ≠ ".."

/-- The path is `/your/data` or lies below it, after normalisation. -/
def isDataDir (s : String) : Bool := (normpath s).LiesIn (normpath "/your/data")

/-! ## Operations -/

/-- What a creation writes. -/
structure CreateOp where
  name : String
  schedule : String
  prompt : Option String
  script : Option String
  noAgent : Bool
  deliver : String
  repeats : Option Int
  skill : Option String
  workdir : Option String
  deriving DecidableEq, Repr

/-- The changed fields of an edit. -/
structure EditFields where
  name : Option String
  schedule : Option String
  prompt : Option String
  script : Option String
  deliver : Option String
  noAgent : Option Bool
  deriving DecidableEq, Repr

/-- What an action writes beside itself and its profile. -/
inductive OpBody where
  | create (op : CreateOp)
  | edit (jobId : String) (fields : EditFields)
  | target (jobId : String)
  deriving DecidableEq, Repr

/-- An operation as `_validate_op` returns it. -/
structure CronOp where
  action : String
  profile : String
  body : OpBody
  deriving DecidableEq, Repr

/-- A record in the spool. -/
structure OpRecord where
  op : CronOp
  id : String
  createdAt : String
  status : String
  deriving DecidableEq, Repr

/-! ## Reading a payload -/

/-- `(fields.get(key) or "").strip()`, where it is a text. -/
def textField (fields : Fields) (key : String) : String :=
  match fields.lookup key with
  | some (.str s) => strip s
  | _ => ""

/-- The strip of a value that is neither a text nor falsy is an `AttributeError`. -/
def readCheck (fields : Fields) (key : String) : Check String :=
  .raiseUnless ((fields.lookup key).all (fun v ↦ !v.truthy || v.text?.isSome))

/-- The text, if there is one. -/
def nonEmpty (s : String) : Option String := if s = "" then none else some s

/-- `bool(fields.get(key))`. -/
def flagField (fields : Fields) (key : String) : Bool := (fields.lookup key).any Json.truthy

/-- `payload.get("repeat")`, unless it is `None`. -/
def repeatField (payload : Fields) : Option Json :=
  (payload.lookup "repeat").bind (fun v ↦ match v with
    | .null => none
    | v => some v)

/-- `int(repeat)` and its range; `work_cron.py:240–248`. -/
def repeatCheck (payload : Fields) : Check String :=
  match (repeatField payload).map Json.toInt with
  | none => .passes
  | some (.value n) => .refuseIf (n < 0 || 1000 < n) "repeat must be 0..1000"
  | some .refused => .refuses "repeat must be an integer"
  | some .overflow => .raises

/-- The checks of a creation; `work_cron.py:216–260`. -/
def createChecks (payload : Fields) : List (Check String) :=
  let name := textField payload "name"
  let schedule := textField payload "schedule"
  let prompt := textField payload "prompt"
  let script := textField payload "script"
  let deliver := (nonEmpty (textField payload "deliver")).getD "origin"
  let skill := textField payload "skill"
  let workdir := textField payload "workdir"
  [readCheck payload "name",
    .refuseIf (name = "" || !isLine 80 name) "name is required (<= 80 chars, one line)",
    readCheck payload "schedule",
    .refuseIf (schedule = "" || 64 < schedule.length)
      "schedule is required (e.g. '30m', '0 9 * * *')",
    readCheck payload "prompt",
    readCheck payload "script",
    .refuseIf (prompt = "" && script = "") "provide a prompt or a script for the job",
    .refuseIf (prompt ≠ "" && 8000 < prompt.length) "prompt too long (max 8000 chars)",
    .refuseIf (script ≠ "" && !isBasename script) "script must be a bare filename (no slashes)",
    .refuseIf (flagField payload "no_agent" && script = "") "no-agent jobs need a script",
    readCheck payload "deliver",
    .refuseIf (!isDeliver deliver) "deliver must be origin|local|all or a platform:… id",
    repeatCheck payload,
    readCheck payload "skill",
    .refuseIf (skill ≠ "" && (64 < skill.length || !isBasename skill))
      "skill must be a bare skill name",
    readCheck payload "workdir",
    .refuseIf (workdir ≠ "" && !startsWith workdir "/your/data/")
      "workdir must live under /your/data/"]

/-- What a creation writes. -/
def createOp (payload : Fields) : CreateOp where
  name := textField payload "name"
  schedule := textField payload "schedule"
  prompt := nonEmpty (textField payload "prompt")
  script := nonEmpty (textField payload "script")
  noAgent := flagField payload "no_agent"
  deliver := (nonEmpty (textField payload "deliver")).getD "origin"
  repeats := (repeatField payload).bind (fun v ↦ match v.toInt with
    | .value n => some n
    | _ => none)
  skill := nonEmpty (textField payload "skill")
  workdir := nonEmpty (textField payload "workdir")

/-- The fields of an edit: those under `fields`, or the payload. -/
def editSource (payload : Fields) : Fields :=
  match payload.lookup "fields" with
  | some (.obj fields) => fields
  | _ => payload

/-- What an edit writes. -/
def editFields (fields : Fields) : EditFields where
  name := nonEmpty (textField fields "name")
  schedule := nonEmpty (textField fields "schedule")
  prompt := nonEmpty (textField fields "prompt")
  script := nonEmpty (textField fields "script")
  deliver := nonEmpty (textField fields "deliver")
  noAgent := (fields.lookup "no_agent").bind (fun v ↦ match v with
    | .null => none
    | v => some v.truthy)

/-- An edit without a field. -/
def noEdit : EditFields := ⟨none, none, none, none, none, none⟩

/-- The checks of an edit; `work_cron.py:272–305`. -/
def editChecks (fields : Fields) : List (Check String) :=
  let new := editFields fields
  [readCheck fields "name",
    .refuseIf (new.name.any (fun name ↦ !isLine 80 name)) "name must be one line, <= 80 chars",
    readCheck fields "schedule",
    .refuseIf (new.schedule.any (fun schedule ↦ !isSchedule schedule)) "schedule looks invalid",
    readCheck fields "prompt",
    .refuseIf (new.prompt.any (fun prompt ↦ 8000 < prompt.length))
      "prompt too long (max 8000 chars)",
    readCheck fields "script",
    .refuseIf (new.script.any (fun script ↦ !isBasename script)) "script must be a bare filename",
    readCheck fields "deliver",
    .refuseIf (new.deliver.any (fun deliver ↦ !isDeliver deliver))
      "deliver must be origin|local|all or platform:…",
    .refuseIf (new = noEdit) "edit needs at least one field to change"]

/-! ## Submitting -/

/-- What a submission meets: the two reads of the snapshot, `repr` of a text, the new id and the
time. -/
structure CronSurroundings where
  names : Snapshot
  jobs : Snapshot
  repr : String → String
  opId : String
  createdAt : String

/-- `", ".join(sorted(known)) or "none"`. -/
def knownText (names : List String) : String :=
  let joined := String.intercalate ", " (names.dedup.insertionSort (· ≤ ·))
  if joined = "" then "none" else joined

/-- The profile is one of the snapshot's, where it names any; the message joins their names, which
is a `TypeError` when one is no text. -/
def knownProfileCheck (env : CronSurroundings) (profile : String) : Check String :=
  let names := profileNames env.names
  if names = [] ∨ names.any (fun name ↦ name.isStr profile) then .passes
  else match names.mapM Json.text? with
    | none => .raises
    | some texts => .refuses
        ("unknown profile " ++ env.repr profile ++ " (known: " ++ knownText texts ++ ")")

/-- The job is one of the profile's, where the snapshot has any. -/
def knownJobCheck (env : CronSurroundings) (profile jobId : String) : Check String :=
  let ids := jobIds env.jobs profile
  .refuseIf (!ids.isEmpty && !ids.any (fun i ↦ i.isStr jobId))
    ("job " ++ jobId ++ " not found under profile " ++ profile ++
      " (snapshot may be stale — refresh)")

/-- The action of a payload. -/
def actionOf (payload : Fields) : String := lower (textField payload "action")

/-- The checks of `_validate_op`; `work_cron.py:199–306`. -/
def opChecks (env : CronSurroundings) (payload : Fields) : List (Check String) :=
  let action := actionOf payload
  let profile := textField payload "profile"
  let jobId := textField payload "job_id"
  [readCheck payload "action",
    .refuseIf (!cronActions.contains action)
      ("action must be one of " ++ String.intercalate ", " cronActions),
    readCheck payload "profile",
    .refuseIf (profile = "" || 64 < profile.length) "profile is required"] ++
  profileNamesChecks env.names ++ [knownProfileCheck env profile] ++
  if action = "create" then createChecks payload
  else
    [readCheck payload "job_id",
      .refuseIf (jobId = "" || 20 < jobId.length) "job_id is required"] ++
    jobIdsChecks env.jobs profile ++ [knownJobCheck env profile jobId] ++
    if action = "edit" then editChecks (editSource payload) else []

/-- The operation that `_validate_op` returns. -/
def opOf (payload : Fields) : CronOp where
  action := actionOf payload
  profile := textField payload "profile"
  body :=
    if actionOf payload = "create" then .create (createOp payload)
    else if actionOf payload = "edit" then
      .edit (textField payload "job_id") (editFields (editSource payload))
    else .target (textField payload "job_id")

/-- The spool, by file name. -/
abbrev Spool : Type := Dict String OpRecord

/-- How `submit_cron_op` ends: with a record, a `ValueError` or another exception. -/
inductive SubmitEnd where
  | spooled (record : OpRecord)
  | valueError (message : String)
  | raised
  deriving DecidableEq, Repr

/-- `submit_cron_op`; `work_cron.py:309–321`. -/
def submitCronOp (env : CronSurroundings) (payload : Json) (spool : Spool) : SubmitEnd × Spool :=
  match payload with
  | .obj fields =>
    match Check.firstStop (opChecks env fields) with
    | .refuses message => (.valueError message, spool)
    | .raises => (.raised, spool)
    | .passes =>
      let record : OpRecord := ⟨opOf fields, env.opId, env.createdAt, "pending"⟩
      (.spooled record, spool.set (env.opId ++ ".json") record)
  | _ => (.raised, spool)

/-! ## Operations that satisfy the rules -/

/-- A created job satisfies the rules. -/
structure CreateOp.Sound (op : CreateOp) : Prop where
  name : op.name ≠ "" ∧ isLine 80 op.name = true
  schedule : isSchedule op.schedule = true
  work : op.prompt.isSome = true ∨ op.script.isSome = true
  prompt : ∀ prompt ∈ op.prompt, prompt.length ≤ 8000
  script : ∀ script ∈ op.script, isBareFile script = true
  agent : op.noAgent = true → op.script.isSome = true
  deliver : isDeliver op.deliver = true
  repeats : ∀ n ∈ op.repeats, 0 ≤ n ∧ n ≤ 1000
  skill : ∀ skill ∈ op.skill, skill.length ≤ 64 ∧ isBasename skill = true
  workdir : ∀ workdir ∈ op.workdir, isDataDir workdir = true

/-- Changed fields satisfy the rules. -/
structure EditFields.Sound (fields : EditFields) : Prop where
  changes : fields ≠ noEdit
  name : ∀ name ∈ fields.name, isLine 80 name = true
  schedule : ∀ schedule ∈ fields.schedule, isSchedule schedule = true
  prompt : ∀ prompt ∈ fields.prompt, prompt.length ≤ 8000
  script : ∀ script ∈ fields.script, isBareFile script = true
  deliver : ∀ deliver ∈ fields.deliver, isDeliver deliver = true

/-- What an action writes satisfies the rules. -/
def OpBody.Sound : OpBody → Prop
  | .create op => op.Sound
  | .edit jobId fields => jobId ≠ "" ∧ jobId.length ≤ 20 ∧ fields.Sound
  | .target jobId => jobId ≠ "" ∧ jobId.length ≤ 20

/-- An operation satisfies the rules of the module. -/
structure CronOp.Sound (op : CronOp) : Prop where
  action : op.action ∈ cronActions
  profile : op.profile ≠ "" ∧ op.profile.length ≤ 64
  body : op.body.Sound

/-- What a submission has to be: a `ValueError` that leaves the spool alone, or a sound operation in
the spool. -/
def SubmitSound (env : CronSurroundings) (spool : Spool) : SubmitEnd × Spool → Prop
  | (.spooled record, after) =>
    record.op.Sound ∧ after = spool.set (env.opId ++ ".json") record
  | (.valueError _, after) => after = spool
  | (.raised, _) => False

/-- The payload of a creation has what its checks leave open: a schedule in the alphabet, a script
that is no dotted name, and a working directory that stays below `/your/data`. -/
structure CreateFits (payload : Fields) : Prop where
  schedule : isSchedule (textField payload "schedule") = true
  script : textField payload "script" ≠ "." ∧ textField payload "script" ≠ ".."
  workdir : textField payload "workdir" ≠ "" → isDataDir (textField payload "workdir") = true

/-- The payload fits: it is an object, no check that is reached is left by an exception, and where
all checks pass a creation has what they leave open, and an edit no dotted script. -/
structure PayloadFits (env : CronSurroundings) (fields : Fields) : Prop where
  steady : Check.Steady (opChecks env fields)
  creates : Check.AllPass (opChecks env fields) → actionOf fields = "create" → CreateFits fields
  edits : Check.AllPass (opChecks env fields) → actionOf fields = "edit" →
    textField (editSource fields) "script" ≠ "." ∧ textField (editSource fields) "script" ≠ ".."

/-! ## What the checks give -/

/-- A text that is there. -/
theorem mem_nonEmpty_iff {s t : String} : t ∈ nonEmpty s ↔ s = t ∧ t ≠ "" := by
  unfold nonEmpty
  split_ifs with h
  · subst h
    simp only [Option.mem_def, reduceCtorEq, false_iff, not_and, not_not]
    exact fun h ↦ h.symm
  · simp only [Option.mem_def, Option.some.injEq]
    constructor
    · rintro rfl
      exact ⟨rfl, h⟩
    · exact And.left

/-- A read is left by an exception for a value that is neither a text nor falsy. -/
theorem readCheck_eq_raises_iff {fields : Fields} {key : String} :
    readCheck fields key = .raises ↔
      ∃ v, fields.lookup key = some v ∧ v.truthy = true ∧ v.text? = none := by
  unfold readCheck
  cases fields.lookup key with
  | none => simp [Check.raiseUnless]
  | some v => cases htruthy : v.truthy <;> cases htext : v.text? <;>
      simp [Check.raiseUnless, htruthy, htext]

/-- The repeats are left by an exception for an infinity. -/
theorem repeatCheck_eq_raises_iff {payload : Fields} : repeatCheck payload = .raises ↔
    ∃ v, repeatField payload = some v ∧ v.toInt = .overflow := by
  unfold repeatCheck
  cases repeatField payload with
  | none => simp
  | some v => cases hint : v.toInt <;> simp [hint]

/-- A number of repeats that passes is in its range. -/
theorem repeats_of_repeatCheck {payload : Fields} (h : repeatCheck payload = .passes) :
    ∀ n ∈ (createOp payload).repeats, 0 ≤ n ∧ n ≤ 1000 := by
  intro n hn
  simp only [createOp, Option.mem_def, Option.bind_eq_some_iff] at hn
  obtain ⟨v, hv, hvalue⟩ := hn
  unfold repeatCheck at h
  rw [hv, Option.map_some] at h
  cases hint : v.toInt with
  | value m =>
    rw [hint] at h hvalue
    obtain rfl := Option.some.inj hvalue
    simpa using h
  | refused =>
    rw [hint] at hvalue
    cases hvalue
  | overflow =>
    rw [hint] at hvalue
    cases hvalue

/-- A text is there when it is not empty. -/
@[simp] theorem isSome_nonEmpty {s : String} : (nonEmpty s).isSome = true ↔ s ≠ "" := by
  unfold nonEmpty
  split_ifs with h <;> simp [h]

/-- A script that passes is a bare file exactly when it is no dotted name. -/
theorem bareFile_nonEmpty_iff {s : String} (h : s ≠ "" → isBasename s = true) :
    (∀ script ∈ nonEmpty s, isBareFile script = true) ↔ s ≠ "." ∧ s ≠ ".." := by
  constructor
  · intro hbare
    constructor
    · rintro rfl
      exact absurd (hbare "." (by decide)) (by decide)
    · rintro rfl
      exact absurd (hbare ".." (by decide)) (by decide)
  · rintro ⟨hdot, hdots⟩ script hscript
    obtain ⟨rfl, hne⟩ := mem_nonEmpty_iff.mp hscript
    simp [isBareFile, h hne, hdot, hdots]

/-- A creation that passes its checks is sound exactly when its payload has what they leave
open. -/
theorem sound_createOp_iff {payload : Fields} (h : Check.AllPass (createChecks payload)) :
    (createOp payload).Sound ↔ CreateFits payload := by
  simp only [createChecks, Check.allPass_cons, Check.refuseIf_eq_passes, Bool.or_eq_false_iff,
    Bool.and_eq_false_iff, decide_eq_false_iff_not, Bool.not_eq_false', not_not, not_lt,
    ne_eq] at h
  obtain ⟨-, ⟨hname, hline⟩, -, -, -, -, hwork, hprompt, hscript, hagent, -, hdeliver, hrepeat, -,
    hskill, -, -, -⟩ := h
  have hbare := bareFile_nonEmpty_iff (s := textField payload "script") hscript.resolve_left
  constructor
  · intro hsound
    exact ⟨hsound.schedule, hbare.mp hsound.script,
      fun hne ↦ hsound.workdir _ (mem_nonEmpty_iff.mpr ⟨rfl, hne⟩)⟩
  · intro hfits
    refine ⟨⟨hname, hline⟩, hfits.schedule, ?_, ?_, hbare.mpr hfits.script, ?_, hdeliver,
      repeats_of_repeatCheck hrepeat, ?_, ?_⟩
    · simpa [createOp] using hwork
    · intro prompt hmem
      obtain ⟨rfl, hne⟩ := mem_nonEmpty_iff.mp hmem
      exact hprompt.resolve_left hne
    · intro hflag
      have hflag' : flagField payload "no_agent" = true := hflag
      rw [hflag'] at hagent
      simpa [createOp] using hagent
    · intro skill hmem
      obtain ⟨rfl, hne⟩ := mem_nonEmpty_iff.mp hmem
      exact hskill.resolve_left hne
    · intro workdir hmem
      obtain ⟨rfl, hne⟩ := mem_nonEmpty_iff.mp hmem
      exact hfits.workdir hne

/-- An edit that passes its checks is sound exactly when its script is no dotted name. -/
theorem sound_editFields_iff {fields : Fields} (h : Check.AllPass (editChecks fields)) :
    (editFields fields).Sound ↔
      textField fields "script" ≠ "." ∧ textField fields "script" ≠ ".." := by
  simp only [editChecks, Check.allPass_cons, Check.refuseIf_eq_passes, Option.any_eq_false,
    Bool.not_eq_false', decide_eq_false_iff_not, not_lt] at h
  obtain ⟨-, hname, -, hschedule, -, hprompt, -, hscript, -, hdeliver, hchanges, -⟩ := h
  have hbare := bareFile_nonEmpty_iff (s := textField fields "script")
    (fun hne ↦ hscript _ (mem_nonEmpty_iff.mpr ⟨rfl, hne⟩))
  constructor
  · exact fun hsound ↦ hbare.mp hsound.script
  · exact fun hfits ↦ ⟨hchanges, hname, hschedule, hprompt, hbare.mpr hfits, hdeliver⟩

/-- The action is one of the module's, and the profile is named, where all checks pass. -/
theorem head_of_allPass {env : CronSurroundings} {fields : Fields}
    (h : Check.AllPass (opChecks env fields)) : actionOf fields ∈ cronActions ∧
      textField fields "profile" ≠ "" ∧ (textField fields "profile").length ≤ 64 := by
  simp only [opChecks, Check.allPass_cons, Check.allPass_append, Check.refuseIf_eq_passes,
    Bool.or_eq_false_iff, decide_eq_false_iff_not, Bool.not_eq_false', not_lt] at h
  obtain ⟨⟨⟨⟨-, haction, -, hprofile, -⟩, -⟩, -⟩, -⟩ := h
  exact ⟨List.contains_iff_mem.mp haction, hprofile⟩

/-- The checks of a creation are among those of its operation. -/
theorem createChecks_of_allPass {env : CronSurroundings} {fields : Fields}
    (h : Check.AllPass (opChecks env fields)) (hcreate : actionOf fields = "create") :
    Check.AllPass (createChecks fields) := by
  rw [opChecks, Check.allPass_append, if_pos hcreate] at h
  exact h.2

/-- The job of another action is named, where all checks pass, and the checks of an edit pass. -/
theorem target_of_allPass {env : CronSurroundings} {fields : Fields}
    (h : Check.AllPass (opChecks env fields)) (hcreate : actionOf fields ≠ "create") :
    (textField fields "job_id" ≠ "" ∧ (textField fields "job_id").length ≤ 20) ∧
      (actionOf fields = "edit" → Check.AllPass (editChecks (editSource fields))) := by
  rw [opChecks, Check.allPass_append, if_neg hcreate] at h
  obtain ⟨-, h⟩ := h
  rw [Check.allPass_append] at h
  obtain ⟨hjob, hedit⟩ := h
  simp only [Check.allPass_cons, Check.allPass_append, Check.refuseIf_eq_passes,
    Bool.or_eq_false_iff, decide_eq_false_iff_not, not_lt] at hjob
  refine ⟨hjob.1.1.2.1, ?_⟩
  intro haction
  rwa [if_pos haction] at hedit

/-- An operation whose checks pass is sound exactly when its payload has what they leave open. -/
theorem sound_opOf_iff {env : CronSurroundings} {fields : Fields}
    (h : Check.AllPass (opChecks env fields)) : (opOf fields).Sound ↔
      (actionOf fields = "create" → CreateFits fields) ∧
        (actionOf fields = "edit" → textField (editSource fields) "script" ≠ "." ∧
          textField (editSource fields) "script" ≠ "..") := by
  obtain ⟨haction, hprofile⟩ := head_of_allPass h
  have hbody : (opOf fields).Sound ↔ (opOf fields).body.Sound :=
    ⟨CronOp.Sound.body, fun hsound ↦ ⟨haction, hprofile, hsound⟩⟩
  rw [hbody]
  by_cases hcreate : actionOf fields = "create"
  · have hopened : (opOf fields).body = .create (createOp fields) := if_pos hcreate
    rw [hopened]
    refine (sound_createOp_iff (createChecks_of_allPass h hcreate)).trans ?_
    simp [hcreate]
  · obtain ⟨hjob, hedit⟩ := target_of_allPass h hcreate
    by_cases haction : actionOf fields = "edit"
    · have hopened : (opOf fields).body =
          .edit (textField fields "job_id") (editFields (editSource fields)) := by
        simp only [opOf, if_neg hcreate, if_pos haction]
      rw [hopened]
      have hsound := sound_editFields_iff (hedit haction)
      simp only [OpBody.Sound, hsound]
      simp [hjob, haction]
    · have hopened : (opOf fields).body = .target (textField fields "job_id") := by
        simp only [opOf, if_neg hcreate, if_neg haction]
      rw [hopened]
      simp [OpBody.Sound, hjob, hcreate, haction]

/-- A submission is a `ValueError` or spools a sound operation exactly when its payload is an object
that fits. -/
theorem submitCronOp_sound_iff (env : CronSurroundings) (payload : Json) (spool : Spool) :
    SubmitSound env spool (submitCronOp env payload spool) ↔
      ∃ fields, payload = .obj fields ∧ PayloadFits env fields := by
  cases payload with
  | obj fields =>
    simp only [Json.obj.injEq, exists_eq_left', submitCronOp]
    cases hstop : Check.firstStop (opChecks env fields) with
    | passes =>
      have hpass := Check.firstStop_eq_passes_iff.mp hstop
      have hsteady : Check.Steady (opChecks env fields) := by
        rw [← Check.firstStop_ne_raises_iff, hstop]
        rintro ⟨⟩
      simp only [SubmitSound, and_true, sound_opOf_iff hpass]
      constructor
      · rintro ⟨hcreates, hedits⟩
        exact ⟨hsteady, fun _ ↦ hcreates, fun _ ↦ hedits⟩
      · rintro ⟨-, hcreates, hedits⟩
        exact ⟨hcreates hpass, hedits hpass⟩
    | refuses message =>
      have hopen : ¬ Check.AllPass (opChecks env fields) := by
        rw [← Check.firstStop_eq_passes_iff, hstop]
        rintro ⟨⟩
      have hsteady : Check.Steady (opChecks env fields) := by
        rw [← Check.firstStop_ne_raises_iff, hstop]
        rintro ⟨⟩
      exact iff_of_true rfl
        ⟨hsteady, fun hpass ↦ absurd hpass hopen, fun hpass ↦ absurd hpass hopen⟩
    | raises =>
      refine iff_of_false id ?_
      rintro ⟨hsteady, -, -⟩
      exact Check.firstStop_ne_raises_iff.mpr hsteady hstop
  | null | bool _ | int _ | float _ | str _ | arr _ =>
    simp [submitCronOp, SubmitSound]

/-- A creation whose checks pass and that lacks what they leave open is spooled all the same. -/
theorem not_submitSound_of_create {env : CronSurroundings} {fields : Fields} {spool : Spool}
    (hpass : Check.firstStop (opChecks env fields) = .passes)
    (hcreate : actionOf fields = "create") (hopen : ¬ CreateFits fields) :
    ¬ SubmitSound env spool (submitCronOp env (.obj fields) spool) := by
  intro hsound
  simp only [submitCronOp, hpass, SubmitSound, and_true] at hsound
  exact hopen (((sound_opOf_iff (Check.firstStop_eq_passes_iff.mp hpass)).mp hsound).1 hcreate)

/-- No snapshot, and a text that is its own `repr`. -/
def noSnapshot : CronSurroundings where
  names := none
  jobs := none
  repr s := s
  opId := "0123456789ab"
  createdAt := "2026-09-19T08:00:00Z"

/-- A creation with a schedule, a script and a working directory. -/
def creation (schedule script workdir : String) : Fields :=
  [("action", .str "create"), ("profile", .str "p"), ("name", .str "n"),
    ("schedule", .str schedule), ("script", .str script), ("workdir", .str workdir)]

/-- A schedule of two lines, a script that is the parent directory and a working directory outside
`/your/data` are spooled, and an action that is a number is no `ValueError`. -/
theorem not_submitSound_creation :
    (¬ SubmitSound noSnapshot Dict.empty (submitCronOp noSnapshot
        (.obj (creation "0 9\n* * *" "a.sh" "/your/data/a")) Dict.empty)) ∧
      (¬ SubmitSound noSnapshot Dict.empty (submitCronOp noSnapshot
        (.obj (creation "0 9 * * *" ".." "/your/data/a")) Dict.empty)) ∧
      (¬ SubmitSound noSnapshot Dict.empty (submitCronOp noSnapshot
        (.obj (creation "0 9 * * *" "a.sh" "/your/data/../../etc")) Dict.empty)) ∧
      ¬ SubmitSound noSnapshot Dict.empty
        (submitCronOp noSnapshot (.obj [("action", .int 5)]) Dict.empty) := by
  refine ⟨not_submitSound_of_create (by decide +kernel) (by decide +kernel) ?_,
    not_submitSound_of_create (by decide +kernel) (by decide +kernel) ?_,
    not_submitSound_of_create (by decide +kernel) (by decide +kernel) ?_, id⟩
  · intro h
    exact absurd h.schedule (by decide +kernel)
  · intro h
    exact absurd rfl h.script.2
  · intro h
    exact absurd (h.workdir (by decide +kernel)) (by decide +kernel)

end LcpGateway.Work
