import LcpGateway.Base.Rounding
import LcpGateway.Base.Run
import LcpGateway.Base.Text

/-!
# Module installs in the background

Library `Setup`. Source `src/api/setup.py:48,460–660,728–898`. An install is a worker that reports
to a board shared with the page; the memory module and the routing module have a worker and a board
each. A start joins the install on the board unless that has its final status. The worker writes
the final status, keeps a copy and clears the board one after the other.
-/

namespace LcpGateway.Setup
open LcpGateway.Base

/-! ## The board -/

/-- The status of an install. -/
inductive Status where
  | queued | running | done | failed
  deriving DecidableEq, Repr

/-- `_mem_install` and `_router_install`; `setup.py:525–532`. -/
structure Install where
  status : Status
  progress : Rat
  detail : String
  log : List String
  deriving DecidableEq

/-- The install a start puts on the board. -/
def Install.fresh : Install := ⟨.queued, 0, "Waiting to start…", []⟩

/-- `_LOG_MAX_LINES`. -/
def logMaxLines : Nat := 300

/-- `l[-n:]`. -/
def lastN {α : Type} (n : Nat) (l : List α) : List α := l.drop (l.length - n)

/-- `msg.rstrip("\n").strip("\r")`. -/
def cleanLine (msg : String) : String :=
  String.ofList (((msg.toList.rdropWhile (· = '\n')).dropWhile (· = '\r')).rdropWhile (· = '\r'))

/-- `round(min(max(progress, 0.0), 100.0), 1)`. -/
def shownProgress (progress : Rat) : Rat := roundDigits 1 (min (max progress 0) 100)

/-- A line of output in the log. -/
def Install.say (i : Install) (msg : String) : Install :=
  let clean := cleanLine msg
  if clean = "" then i
  else
    { i with
      detail := String.ofList (lastN 200 clean.toList)
      log := lastN logMaxLines (i.log ++ [clean]) }

/-- `_mem_update` and `_router_update`, on the install on the board; `setup.py:474–492`. -/
def Install.update (i : Install) (msg : Option String) (progress : Option Rat)
    (status : Option Status) : Install :=
  let i := { i with status := status.getD i.status }
  let i := { i with progress := (progress.map shownProgress).getD i.progress }
  match msg with
  | some msg => i.say msg
  | none => i

/-- `error_markers`; `setup.py:624–627`. -/
def errorMarkers : List String := ["traceback", "error", "fatal", "failed", "exception", "conflict",
  "cannot", "could not", "no matching", "not importable", "missing"]

/-- `_tail_mem_detail` and `_tail_router_detail`; `setup.py:616–639`. -/
def tailDetail (install : Option Install) (fallback : String) : String :=
  match install with
  | none => fallback
  | some i =>
    if i.log.isEmpty then fallback
    else
      let errorLines := i.log.filter fun line ↦
        errorMarkers.any (isInfix · (lower line)) && !isInfix "pip.pypa.io" (lower line)
      let picked := if errorLines.isEmpty then lastN 6 i.log else lastN 6 errorLines
      let tail := strip ("\n".intercalate picked)
      let tail := if tail = "" then strip ("\n".intercalate (lastN 6 i.log)) else tail
      if tail = "" then fallback
      else fallback ++ "\n" ++ String.ofList (lastN 800 tail.toList)

/-- The board and the terminal result of the install before; `_mem_install` and `_mem_last`. -/
structure Board where
  install : Option Install
  last : Option Install
  deriving DecidableEq

/-! ## The worker -/

/-- What a worker does in one step. -/
inductive Act where
  | update (msg : Option String) (progress : Option Rat) (status : Option Status)
  | fail (fallback : String)
  | keep
  | clear

/-- `_mem_finish` and `_router_finish`; `setup.py:495–504`. -/
def finish (status : Status) (detail : String) : List Act :=
  .update (some detail) none (some status) ::
    ((if status = .done then [.update none (some 100) none] else []) ++ [.keep, .clear])

/-- One step of a worker: the board behind it, and what the worker does next. -/
def perform (b : Board) : Act → Board × List Act
  | .update msg progress status =>
    ({ b with install := b.install.map (·.update msg progress status) }, [])
  -- the detail is made from the log as it is now
  | .fail fallback => (b, finish .failed (tailDetail b.install fallback))
  | .keep => ({ b with last := b.install <|> b.last }, [])
  | .clear => ({ b with install := none }, [])

/-- An exception, by the clause that catches it. -/
inductive Failure where
  | missing (text : String)
  | other (text : String)

/-- `except FileNotFoundError` and the clauses beside it; `setup.py:586–591`. -/
def failWith : Failure → List Act
  | .missing text => finish .failed ("Missing tool: " ++ text)
  | .other text => [.fail ("Install failed: " ++ text)]

/-- What a subprocess does: it is not started, or it writes lines and ends, with the text of the
`CalledProcessError` when its return code is not zero. -/
inductive Outcome where
  | raised (e : Failure)
  | ran (lines : List String) (error : Option String)

/-- The loop over the output; `setup.py:604–609`. -/
def streamLines (start stop : Rat) : Nat → List String → List Act
  | _, [] => []
  | seen, line :: rest =>
    .update (some line) none none ::
      ((if (seen + 1) % 3 = 0 then
          [.update none (some (start + (stop - start) * min (9 / 10) (((seen + 1 : Nat) : Rat) / 90))) none]
        else []) ++ streamLines start stop (seen + 1) rest)

/-- `_stream_mem` and `_stream_router` up to the return code; `setup.py:594–613`. -/
def stream (msg : String) (start stop : Rat) : Outcome → List Act
  | .raised _ => [.update (some msg) (some start) (some .running)]
  | .ran lines _ =>
    .update (some msg) (some start) (some .running) ::
      (streamLines start stop 0 lines ++ [.update none (some stop) none])

/-- The texts of a module. -/
structure Module where
  installing : String
  notEffective : String → String
  installed : String

/-- The memory module; `setup.py:549–585`. -/
def memory : Module where
  installing := "Installing memory deps (lancedb + sentence-transformers)…"
  notEffective site := "Memory deps install did not take effect. The deps are at " ++ site ++
    " — check the install log."
  installed := "Memory module installed."

/-- The routing module; `setup.py:819–855`. -/
def router : Module where
  installing := "Installing semantic-routing deps (sentence-transformers)…"
  notEffective site := "Semantic-routing deps install did not take effect. The deps are at " ++
    site ++ " — check the install log."
  installed := "Semantic routing module installed."

/-- What an install meets: the directory, and what each part of it comes to. -/
structure Env where
  site : String
  makedirs : Option Failure
  pip : Outcome
  available : Except Failure Bool
  download : Outcome
  setState : Option Failure

/-- The download of the model and what follows it; `setup.py:567–585`. -/
def download (m : Module) (env : Env) : List Act :=
  stream "Pre-downloading embedding model…" 70 100 env.download ++
    match env.download with
    | .raised e => failWith e
    | .ran _ error =>
      (match error with
        | some text =>
          [.update (some ("Model pre-download skipped (" ++ text ++
            ") — will download on first use.")) none none, .update none (some 100) none]
        | none => []) ++
      match env.setState with
      | some e => failWith e
      | none => finish .done m.installed

/-- `_run_memory_install` and `_run_router_install`; `setup.py:539–591,809–861`. -/
def runInstall (m : Module) (env : Env) : List Act :=
  .update (some ("Target directory: " ++ env.site)) none none ::
    match env.makedirs with
    | some e => failWith e
    | none =>
      stream m.installing 2 70 env.pip ++
        match env.pip with
        | .raised e => failWith e
        | .ran _ (some text) => failWith (.other text)
        | .ran _ none =>
          match env.available with
          | .error e => failWith e
          | .ok false => failWith (.other (m.notEffective env.site))
          | .ok true => download m env

/-- The install ends with its module installed. -/
def Env.succeeds (env : Env) : Bool :=
  env.makedirs.isNone &&
    (match env.pip with
      | .ran _ none => true
      | _ => false) &&
    (match env.available with
      | .ok available => available
      | .error _ => false) &&
    (match env.download with
      | .ran _ _ => true
      | .raised _ => false) && env.setState.isNone

/-! ## Runs -/

/-- The board and what its workers have left to do, in the order they were started. -/
structure Site where
  board : Board
  workers : List (List Act)

/-- A start, with what its install would meet, or a step of a worker. -/
inductive Event where
  | start (env : Env)
  | work (k : Nat)

/-- The install on the board has not ended. -/
def Board.open (b : Board) : Bool :=
  b.install.any fun i ↦ i.status = .queued || i.status = .running

/-- `start_memory_install` and `start_router_install` under the lock, and the workers' steps
between; `setup.py:517–536`. -/
def step (m : Module) (s : Site) : Event → Site
  | .start env =>
    if s.board.open then s
    else ⟨⟨some .fresh, none⟩, s.workers ++ [runInstall m env]⟩
  | .work k =>
    match s.workers[k]? with
    | some (act :: rest) =>
      let (board, front) := perform s.board act
      ⟨board, s.workers.set k (front ++ rest)⟩
    | _ => s

/-- Nothing has been installed. -/
def Site.idle : Site := ⟨⟨none, none⟩, []⟩

/-- The workers that have something left to do. -/
def Site.live (s : Site) : Nat := s.workers.countP (!·.isEmpty)

/-! ## What is left of a worker -/

/-- The progress an act reports, as shown. -/
def Act.shown : Act → Option Rat
  | .update _ progress _ => progress.map shownProgress
  | _ => none

/-- The progress values a worker has yet to report. -/
def progresses (acts : List Act) : List Rat := acts.filterMap Act.shown

/-- The rest of a worker that has not written its final status, with that status. -/
inductive Open : List Act → Status → Prop where
  | update {msg : Option String} {progress : Option Rat} {status : Option Status}
      {rest : List Act} {verdict : Status} (hstatus : status = none ∨ status = some .running)
      (hrest : Open rest verdict) : Open (.update msg progress status :: rest) verdict
  | fail {fallback : String} : Open [.fail fallback] .failed
  | finish {verdict : Status} {detail : String} (hverdict : verdict = .done ∨ verdict = .failed) :
      Open (finish verdict detail) verdict

/-- What is written while the install is open stays in front of the rest. -/
theorem Open.append {front rest : List Act} {verdict : Status}
    (hfront : ∀ act ∈ front, ∃ msg progress status, act = .update msg progress status ∧
      (status = none ∨ status = some .running)) (hrest : Open rest verdict) :
    Open (front ++ rest) verdict := by
  induction front with
  | nil => exact hrest
  | cons act front ih =>
    rw [List.forall_mem_cons] at hfront
    obtain ⟨⟨msg, progress, status, rfl, hstatus⟩, hfront⟩ := hfront
    exact .update hstatus (ih hfront)

/-- Output is written while the install is open. -/
theorem mem_streamLines {start stop : Rat} {seen : Nat} {lines : List String} {act : Act}
    (h : act ∈ streamLines start stop seen lines) :
    ∃ msg progress, act = .update msg progress none := by
  induction lines generalizing seen with
  | nil => exact absurd h List.not_mem_nil
  | cons line rest ih =>
    rw [streamLines, List.mem_cons, List.mem_append] at h
    rcases h with rfl | h | h
    · exact ⟨_, _, rfl⟩
    · split_ifs at h
      · rw [List.mem_singleton] at h
        exact ⟨_, _, h⟩
      · exact absurd h List.not_mem_nil
    · exact ih h

/-- A stream is written while the install is open. -/
theorem mem_stream {msg : String} {start stop : Rat} {o : Outcome} {act : Act}
    (h : act ∈ stream msg start stop o) : ∃ msg progress status,
      act = .update msg progress status ∧ (status = none ∨ status = some .running) := by
  cases o with
  | raised e =>
    rw [stream, List.mem_singleton] at h
    exact ⟨_, _, _, h, Or.inr rfl⟩
  | ran lines error =>
    rw [stream, List.mem_cons, List.mem_append, List.mem_singleton] at h
    rcases h with rfl | h | rfl
    · exact ⟨_, _, _, rfl, Or.inr rfl⟩
    · obtain ⟨msg, progress, rfl⟩ := mem_streamLines h
      exact ⟨_, _, _, rfl, Or.inl rfl⟩
    · exact ⟨_, _, _, rfl, Or.inl rfl⟩

/-- A failure ends the install as failed. -/
theorem open_failWith (e : Failure) : Open (failWith e) .failed := by
  cases e with
  | missing text => exact .finish (Or.inr rfl)
  | other text => exact .fail

/-- The status an install ends with. -/
def Env.verdict (env : Env) : Status := if env.succeeds then .done else .failed

/-- A worker starts open, and is to end as what it meets says. -/
theorem open_runInstall (m : Module) (env : Env) : Open (runInstall m env) env.verdict := by
  refine .update (Or.inl rfl) ?_
  obtain ⟨site, makedirs, pip, available, downloaded, setState⟩ := env
  rcases makedirs with _ | e
  case some => exact open_failWith e
  refine Open.append (fun act h ↦ mem_stream h) ?_
  rcases pip with e | ⟨lines, _ | text⟩
  case raised => exact open_failWith e
  case ran.some => exact open_failWith (.other text)
  rcases available with e | _ | _
  case error => exact open_failWith e
  case ok.false => exact open_failWith (.other (m.notEffective site))
  refine Open.append (fun act h ↦ mem_stream h) ?_
  rcases downloaded with e | ⟨lines, error⟩
  case raised => exact open_failWith e
  refine Open.append ?_ ?_
  · intro act h
    rcases error with _ | text
    · exact absurd h List.not_mem_nil
    · simp only [List.mem_cons, List.not_mem_nil, or_false] at h
      rcases h with rfl | rfl <;> exact ⟨_, _, _, rfl, Or.inl rfl⟩
  rcases setState with _ | e
  case some => exact open_failWith e
  exact .finish (Or.inl rfl)

/-! ## Progress -/

/-- More progress is shown as more. -/
theorem shownProgress_mono {p q : Rat} (h : p ≤ q) : shownProgress p ≤ shownProgress q :=
  roundDigits_mono 1 (min_le_min (max_le_max h le_rfl) le_rfl)

/-- No progress below zero is shown. -/
theorem shownProgress_nonneg (p : Rat) : 0 ≤ shownProgress p := by
  have hzero : roundDigits 1 0 = 0 := by
    rw [roundDigits_eq, zero_mul, ← Int.cast_zero, halfEven_intCast, Int.cast_zero, zero_div]
  exact hzero.symm.trans_le (roundDigits_mono 1 (le_min (le_max_right p 0) (by norm_num)))

/-- The values are at least a first one, and do not fall. -/
def Rising (p : Rat) (ps : List Rat) : Prop := (p :: ps).Pairwise (· ≤ ·)

/-- No value. -/
theorem Rising.nil (p : Rat) : Rising p [] := List.pairwise_singleton _ p

/-- A value in front of values that are at least as large. -/
theorem Rising.cons {p q : Rat} {ps : List Rat} (hle : p ≤ q) (h : Rising q ps) :
    Rising p (q :: ps) := by
  refine List.pairwise_cons.mpr ⟨List.forall_mem_cons.mpr ⟨hle, ?_⟩, h⟩
  exact fun r hr ↦ hle.trans ((List.pairwise_cons.mp h).1 r hr)

/-- The first value may be smaller. -/
theorem Rising.of_le {p q : Rat} {ps : List Rat} (hle : p ≤ q) (h : Rising q ps) : Rising p ps :=
  List.pairwise_cons.mpr ⟨fun r hr ↦ hle.trans ((List.pairwise_cons.mp h).1 r hr),
    (List.pairwise_cons.mp h).2⟩

/-- Values up to a bound, and values from the bound. -/
theorem Rising.append {p q : Rat} {ps qs : List Rat} (hps : Rising p ps) (hle : p ≤ q)
    (hbound : ∀ r ∈ ps, r ≤ q) (hqs : Rising q qs) : Rising p (ps ++ qs) := by
  rw [Rising, ← List.cons_append, List.pairwise_append]
  refine ⟨hps, (List.pairwise_cons.mp hqs).2, fun r hr t ht ↦ ?_⟩
  have hrq : r ≤ q := (List.mem_cons.mp hr).elim (fun h ↦ h ▸ hle) (hbound r)
  exact hrq.trans ((List.pairwise_cons.mp hqs).1 t ht)

/-- A report with a value. -/
@[simp] theorem progresses_some (msg : Option String) (p : Rat) (status : Option Status)
    (rest : List Act) :
    progresses (.update msg (some p) status :: rest) = shownProgress p :: progresses rest := rfl

/-- A report without one. -/
@[simp] theorem progresses_none (msg : Option String) (status : Option Status) (rest : List Act) :
    progresses (.update msg none status :: rest) = progresses rest := rfl

/-- The values of reports one after the other. -/
theorem progresses_append (acts acts' : List Act) :
    progresses (acts ++ acts') = progresses acts ++ progresses acts' :=
  List.filterMap_append

/-- The progress reported behind some lines of output. -/
def streamProgress (start stop : Rat) (seen : Nat) : Rat :=
  start + (stop - start) * min (9 / 10) ((seen : Rat) / 90)

/-- More lines are more progress. -/
theorem streamProgress_le_succ {start stop : Rat} (hle : start ≤ stop) (seen : Nat) :
    streamProgress start stop seen ≤ streamProgress start stop (seen + 1) := by
  have hmin : min (9 / 10 : Rat) ((seen : Rat) / 90) ≤ min (9 / 10) (((seen + 1 : Nat) : Rat) / 90) := by
    apply min_le_min le_rfl
    push_cast
    linarith
  have hmul := mul_le_mul_of_nonneg_left hmin (sub_nonneg.mpr hle)
  rw [streamProgress, streamProgress]
  linarith

/-- No lines are the progress of the whole. -/
theorem streamProgress_le_stop {start stop : Rat} (hle : start ≤ stop) (seen : Nat) :
    streamProgress start stop seen ≤ stop := by
  have hmin : min (9 / 10 : Rat) ((seen : Rat) / 90) ≤ 1 := (min_le_left _ _).trans (by norm_num)
  have hmul := mul_le_mul_of_nonneg_left hmin (sub_nonneg.mpr hle)
  rw [streamProgress]
  linarith

/-- The values reported for some output lie between those at both ends, and do not fall. -/
theorem rising_streamLines {start stop : Rat} (hle : start ≤ stop) (seen : Nat)
    (lines : List String) :
    Rising (shownProgress (streamProgress start stop seen))
        (progresses (streamLines start stop seen lines)) ∧
      ∀ p ∈ progresses (streamLines start stop seen lines), p ≤ shownProgress stop := by
  induction lines generalizing seen with
  | nil => exact ⟨Rising.nil _, fun p hp ↦ absurd hp List.not_mem_nil⟩
  | cons line rest ih =>
    obtain ⟨hrising, hbound⟩ := ih (seen + 1)
    have hsucc := shownProgress_mono (streamProgress_le_succ hle seen)
    have hsplit : progresses (streamLines start stop seen (line :: rest)) =
        (if (seen + 1) % 3 = 0 then [shownProgress (streamProgress start stop (seen + 1))] else []) ++
          progresses (streamLines start stop (seen + 1) rest) := by
      rw [streamLines, progresses_none, progresses_append]
      split_ifs <;> rfl
    rw [hsplit]
    split_ifs
    · refine ⟨Rising.cons hsucc hrising, List.forall_mem_cons.mpr ⟨?_, hbound⟩⟩
      exact shownProgress_mono (streamProgress_le_stop hle (seen + 1))
    · exact ⟨Rising.of_le hsucc hrising, hbound⟩

/-- A stream reports values between its ends that do not fall. -/
theorem rising_stream {start stop : Rat} (hle : start ≤ stop) (msg : String) (o : Outcome) :
    Rising (shownProgress start) (progresses (stream msg start stop o)) ∧
      ∀ p ∈ progresses (stream msg start stop o), p ≤ shownProgress stop := by
  have hends := shownProgress_mono hle
  cases o with
  | raised e =>
    refine ⟨Rising.cons le_rfl (Rising.nil _), fun p hp ↦ ?_⟩
    rw [List.mem_singleton.mp hp]
    exact hends
  | ran lines error =>
    obtain ⟨hrising, hbound⟩ := rising_streamLines hle 0 lines
    have hzero : streamProgress start stop 0 = start := by norm_num [streamProgress]
    rw [hzero] at hrising
    have hsplit : progresses (stream msg start stop (.ran lines error)) =
        shownProgress start ::
          (progresses (streamLines start stop 0 lines) ++ [shownProgress stop]) := by
      rw [stream, progresses_some, progresses_append]
      rfl
    rw [hsplit]
    refine ⟨Rising.cons le_rfl (hrising.append hends hbound (Rising.cons le_rfl (Rising.nil _))),
      List.forall_mem_cons.mpr ⟨hends, fun p hp ↦ ?_⟩⟩
    rcases List.mem_append.mp hp with hp | hp
    · exact hbound p hp
    · rw [List.mem_singleton.mp hp]

/-- The values a worker reports do not fall. -/
theorem rising_runInstall (m : Module) (env : Env) : Rising 0 (progresses (runInstall m env)) := by
  have hnone : ∀ e, progresses (failWith e) = [] := by
    rintro (text | text) <;> rfl
  have hfailed : ∀ p e, Rising p (progresses (failWith e)) := fun p e ↦ hnone e ▸ Rising.nil p
  have hpip := rising_stream (by norm_num : (2 : Rat) ≤ 70) m.installing env.pip
  have hdownload := rising_stream (by norm_num : (70 : Rat) ≤ 100)
    "Pre-downloading embedding model…" env.download
  have hstart : 0 ≤ shownProgress 2 := shownProgress_nonneg 2
  have hhundred : Rising (shownProgress 100) [shownProgress 100] := Rising.cons le_rfl (Rising.nil _)
  rw [runInstall, progresses_none]
  cases env.makedirs with
  | some e => exact hfailed 0 e
  | none =>
    rw [progresses_append]
    refine Rising.append (Rising.of_le hstart hpip.1) (shownProgress_nonneg 70) hpip.2 ?_
    rcases env.pip with e | ⟨lines, _ | text⟩
    · exact hfailed _ e
    · rcases env.available with e | _ | _
      · exact hfailed _ e
      · exact hfailed _ _
      · rw [download, progresses_append]
        refine Rising.append hdownload.1 (shownProgress_mono (by norm_num)) hdownload.2 ?_
        rcases env.download with e | ⟨lines, error⟩
        · exact hfailed _ e
        · have hend : Rising (shownProgress 100) (progresses (match env.setState with
              | some e => failWith e
              | none => finish .done m.installed)) := by
            cases env.setState with
            | some e => exact hfailed _ e
            | none => exact hhundred
          cases error with
          | none => exact hend
          | some text => exact Rising.cons le_rfl hend
    · exact hfailed _ _

end LcpGateway.Setup
