import LcpGateway.Setup.InstallJob

/-!
# Runs of the installs

Library `Setup`. Source `src/api/setup.py:460–660,728–898`. A start that meets an install with its
final status on the board starts a second worker beside the first one. Otherwise one worker at most
has something left to do, the progress of an install does not fall, and the result that is kept is
that of the last install.
-/

namespace LcpGateway.Setup
open LcpGateway.Base

/-! ## One worker -/

/-- The whole progress is shown as it is. -/
theorem shownProgress_hundred : shownProgress 100 = 100 := by
  have hscaled : (min (max (100 : Rat) 0) 100) * 10 ^ 1 = ((1000 : Int) : Rat) := by norm_num
  rw [shownProgress, roundDigits_eq, hscaled, halfEven_intCast]
  norm_num

/-- The install has its final status, and is whole when it is done. -/
structure Ended (i : Install) (verdict : Status) : Prop where
  status : i.status = verdict
  final : verdict = .done ∨ verdict = .failed
  whole : verdict = .done → i.progress = 100

/-- A board with what is left of its only worker, and the status the install ends with. -/
inductive Phase : Board → List Act → Status → Prop where
  | working {i : Install} {acts : List Act} {verdict : Status}
      (hstatus : i.status = .queued ∨ i.status = .running) (hacts : Open acts verdict)
      (hrising : Rising i.progress (progresses acts)) : Phase ⟨some i, none⟩ acts verdict
  | filling {i : Install} (hstatus : i.status = .done) (hle : i.progress ≤ 100) :
      Phase ⟨some i, none⟩ [.update none (some 100) none, .keep, .clear] .done
  | keeping {i : Install} {verdict : Status} (hended : Ended i verdict) :
      Phase ⟨some i, none⟩ [.keep, .clear] verdict
  | clearing {i : Install} {verdict : Status} (hended : Ended i verdict) :
      Phase ⟨some i, some i⟩ [.clear] verdict
  | finished {i : Install} {verdict : Status} (hended : Ended i verdict) :
      Phase ⟨none, some i⟩ [] verdict

/-- A line of output leaves the status and the progress as they are. -/
theorem Install.say_eq (i : Install) (msg : String) :
    (i.say msg).status = i.status ∧ (i.say msg).progress = i.progress := by
  rw [say]
  split_ifs <;> exact ⟨rfl, rfl⟩

/-- A report sets the status it names. -/
@[simp] theorem Install.status_update (i : Install) (msg : Option String) (progress : Option Rat)
    (status : Option Status) : (i.update msg progress status).status = status.getD i.status := by
  cases msg with
  | none => rfl
  | some msg => simp only [Install.update, say_eq]

/-- A report sets the progress it names. -/
@[simp] theorem Install.progress_update (i : Install) (msg : Option String) (progress : Option Rat)
    (status : Option Status) :
    (i.update msg progress status).progress = (progress.map shownProgress).getD i.progress := by
  cases msg with
  | none => rfl
  | some msg => simp only [Install.update, say_eq]

/-- A step of a worker that has not written its final status. -/
theorem Phase.perform_working {i : Install} {act : Act} {rest : List Act} {verdict : Status}
    (hstatus : i.status = .queued ∨ i.status = .running) (hacts : Open (act :: rest) verdict)
    (hrising : Rising i.progress (progresses (act :: rest))) :
    Phase (Setup.perform ⟨some i, none⟩ act).1 ((Setup.perform ⟨some i, none⟩ act).2 ++ rest)
      verdict := by
  generalize hall : act :: rest = acts at hacts
  cases hacts with
  | @update msg progress status rest' verdict hwritten hrest =>
    obtain ⟨rfl, rfl⟩ := List.cons.inj hall
    refine .working ?_ hrest ?_
    · rcases hwritten with rfl | rfl
      · simpa using hstatus
      · simp
    · change Rising (i.update msg progress status).progress (progresses rest)
      rw [Install.progress_update]
      cases progress with
      | none => exact hrising
      | some p => exact (List.pairwise_cons.mp hrising).2
  | fail =>
    obtain ⟨rfl, rfl⟩ := List.cons.inj hall
    exact .working hstatus (.finish (Or.inr rfl)) (Rising.nil _)
  | @finish verdict detail hverdict =>
    obtain ⟨rfl, rfl⟩ := List.cons.inj hall
    rcases hverdict with rfl | rfl
    · have hle : i.progress ≤ shownProgress 100 :=
        (List.pairwise_cons.mp hrising).1 _ List.mem_cons_self
      rw [shownProgress_hundred] at hle
      exact .filling (by simp) (by simpa using hle)
    · exact .keeping ⟨by simp, Or.inr rfl, fun h ↦ absurd h (by decide)⟩

/-- A step of the only worker. -/
theorem Phase.perform {b : Board} {act : Act} {rest : List Act} {verdict : Status}
    (h : Phase b (act :: rest) verdict) :
    Phase (Setup.perform b act).1 ((Setup.perform b act).2 ++ rest) verdict := by
  generalize hall : act :: rest = acts at h
  cases h with
  | working hstatus hacts hrising =>
    subst hall
    exact perform_working hstatus hacts hrising
  | filling hstatus hle =>
    obtain ⟨rfl, rfl⟩ := List.cons.inj hall
    exact .keeping ⟨by simpa using hstatus, Or.inl rfl, fun _ ↦ by simp [shownProgress_hundred]⟩
  | keeping hended =>
    obtain ⟨rfl, rfl⟩ := List.cons.inj hall
    exact .clearing hended
  | clearing hended =>
    obtain ⟨rfl, rfl⟩ := List.cons.inj hall
    exact .finished hended
  | finished hended => cases hall

/-- The only worker is over exactly when the board is clear. -/
theorem Phase.nil_iff {b : Board} {acts : List Act} {verdict : Status} (h : Phase b acts verdict) :
    acts = [] ↔ b.install = none := by
  cases h with
  | working hstatus hacts hrising =>
    constructor
    · rintro rfl
      cases hacts
    · exact fun h ↦ absurd h (Option.some_ne_none _)
  | filling hstatus hle => simp
  | keeping hended => simp
  | clearing hended => simp
  | finished hended => simp

/-! ## All workers -/

/-- One worker at most has something left to do, and fits the board. -/
structure Current (s : Site) (acts : List Act) (verdict : Status) (before after : List (List Act)) :
    Prop where
  split : s.workers = before ++ acts :: after
  others : ∀ w ∈ before ++ after, w = []
  phase : Phase s.board acts verdict

/-- There has been an install, and it is to end so or has. -/
def Site.EndsAs (s : Site) (verdict : Status) : Prop :=
  ∃ acts before after, Current s acts verdict before after

/-- Nothing has been installed, or one install is under way or over. -/
def Site.Sound (s : Site) : Prop :=
  (s.board.install = none ∧ ∀ w ∈ s.workers, w = []) ∨ ∃ verdict, s.EndsAs verdict

/-- Nothing is live when all workers are over. -/
theorem live_eq_zero_iff {workers : List (List Act)} {b : Board} :
    (Site.mk b workers).live = 0 ↔ ∀ w ∈ workers, w = [] := by
  simp [Site.live, List.countP_eq_zero]

/-- The workers that are live beside one. -/
theorem Current.live {s : Site} {acts : List Act} {verdict : Status}
    {before after : List (List Act)} (h : Current s acts verdict before after) :
    s.live = if acts = [] then 0 else 1 := by
  have hothers : (before ++ after).countP (!·.isEmpty) = 0 :=
    live_eq_zero_iff (b := s.board).mpr h.others
  rw [List.countP_append] at hothers
  rw [Site.live, h.split, List.countP_append, List.countP_cons]
  cases acts with
  | nil => simpa using hothers
  | cons act rest =>
    simp only [List.isEmpty_cons, Bool.not_false, if_true, reduceCtorEq, if_false]
    omega

/-- A step of some worker. -/
theorem Current.work {s : Site} {acts : List Act} {verdict : Status}
    {before after : List (List Act)} (h : Current s acts verdict before after) (m : Module)
    (k : Nat) : ∃ acts', Current (step m s (.work k)) acts' verdict before after := by
  by_cases hk : k = before.length
  · have hget : s.workers[k]? = some acts := by
      rw [h.split, hk, List.getElem?_append_right le_rfl, Nat.sub_self, List.getElem?_cons_zero]
    cases acts with
    | nil => exact ⟨[], by simpa [step, hget] using h⟩
    | cons act rest =>
      refine ⟨(perform s.board act).2 ++ rest, ?_, h.others, ?_⟩
      · rw [step, hget, h.split, hk]
        simp
      · rw [step, hget]
        exact h.phase.perform
  · have hget : s.workers[k]? = none ∨ s.workers[k]? = some [] := by
      cases hw : s.workers[k]? with
      | none => exact Or.inl rfl
      | some w =>
        refine Or.inr (congrArg some (h.others w ?_))
        rw [h.split] at hw
        rw [List.mem_append]
        rcases lt_or_gt_of_ne hk with hlt | hgt
        · rw [List.getElem?_append_left hlt] at hw
          exact Or.inl (List.mem_of_getElem? hw)
        · obtain ⟨n, hn⟩ := Nat.exists_eq_add_of_lt hgt
          rw [List.getElem?_append_right hgt.le, hn, Nat.add_assoc, Nat.add_sub_cancel_left,
            List.getElem?_cons_succ] at hw
          exact Or.inr (List.mem_of_getElem? hw)
    have hsame : step m s (.work k) = s := by
      rcases hget with hget | hget <;> rw [step, hget]
    exact ⟨acts, hsame.symm ▸ h⟩

/-- An accepted start of an install on a clear board. -/
theorem endsAs_start {s : Site} (hclear : s.board.install = none) (hover : ∀ w ∈ s.workers, w = [])
    (m : Module) (env : Env) : (step m s (.start env)).EndsAs env.verdict := by
  refine ⟨runInstall m env, s.workers, [], ?_, by simpa using hover, ?_⟩
  · simp [step, Board.open, hclear]
  · have hphase : Phase ⟨some .fresh, none⟩ (runInstall m env) env.verdict :=
      .working (Or.inl rfl) (open_runInstall m env) (rising_runInstall m env)
    simpa [step, Board.open, hclear] using hphase

/-- When the board is clear, no worker has anything left to do. -/
theorem Site.Sound.finished {s : Site} (h : s.Sound) (hclear : s.board.install = none) :
    ∀ w ∈ s.workers, w = [] := by
  rcases h with ⟨-, hover⟩ | ⟨verdict, acts, before, after, hcurrent⟩
  · exact hover
  · have hacts : acts = [] := hcurrent.phase.nil_iff.mpr hclear
    rw [hcurrent.split, hacts]
    intro w hw
    rcases List.mem_append.mp hw with hw | hw
    · exact hcurrent.others w (List.mem_append_left _ hw)
    · rcases List.mem_cons.mp hw with rfl | hw
      · rfl
      · exact hcurrent.others w (List.mem_append_right _ hw)

/-- A start on an open board changes nothing. -/
theorem step_join {m : Module} {s : Site} {env : Env} (h : s.board.open = true) :
    step m s (.start env) = s := by
  rw [step, if_pos h]

/-- The start joins the install on the board, or there is none. -/
def Clear (s : Site) : Event → Prop
  | .start _ => s.board.install = none ∨ s.board.open = true
  | .work _ => True

/-- What a step that meets a clear or open board keeps. -/
theorem sound_step (m : Module) (s : Site) (event : Event) (h : s.Sound) (hclear : Clear s event) :
    (step m s event).Sound := by
  cases event with
  | start env =>
    rcases hclear with hclear | hopen
    · exact Or.inr ⟨_, endsAs_start hclear (h.finished hclear) m env⟩
    · have hsame : step m s (.start env) = s := step_join hopen
      exact hsame.symm ▸ h
  | work k =>
    rcases h with ⟨hinstall, hover⟩ | ⟨verdict, acts, before, after, hcurrent⟩
    · have hsame : step m s (.work k) = s := by
        cases hw : s.workers[k]? with
        | none => rw [step, hw]
        | some w => rw [step, hw, hover w (List.mem_of_getElem? hw)]
      exact hsame.symm ▸ Or.inl ⟨hinstall, hover⟩
    · obtain ⟨acts', hcurrent'⟩ := hcurrent.work m k
      exact Or.inr ⟨verdict, acts', before, after, hcurrent'⟩

/-- One worker at most is live. -/
theorem Site.Sound.live_le {s : Site} (h : s.Sound) : s.live ≤ 1 := by
  rcases h with ⟨-, hover⟩ | ⟨verdict, acts, before, after, hcurrent⟩
  · exact (live_eq_zero_iff (b := s.board).mpr hover).le.trans zero_le_one
  · rw [hcurrent.live]
    split_ifs <;> simp

/-- Nothing runs at first. -/
theorem sound_idle : Site.Sound .idle := Or.inl ⟨rfl, fun _ hw ↦ absurd hw List.not_mem_nil⟩

/-- A step leaves one live worker at most exactly when a start meets no install with its final
status. -/
theorem live_step_iff (m : Module) (s : Site) (event : Event) (h : s.Sound) :
    (step m s event).live ≤ 1 ↔ Clear s event := by
  constructor
  · intro hlive
    cases event with
    | work k => trivial
    | start env =>
      by_contra hbusy
      rw [Clear, not_or, Bool.not_eq_true] at hbusy
      rcases h with ⟨hinstall, -⟩ | ⟨verdict, acts, before, after, hcurrent⟩
      · exact hbusy.1 hinstall
      · -- the worker that has written the final status is still live beside the new one
        have hacts : acts ≠ [] := fun hnil ↦ hbusy.1 (hcurrent.phase.nil_iff.mp hnil)
        have hone := hcurrent.live
        rw [if_neg hacts, Site.live] at hone
        rw [step, hbusy.2, Site.live, if_neg Bool.false_ne_true, List.countP_append, hone] at hlive
        simp [runInstall] at hlive
  · exact fun hclear ↦ (sound_step m s event h hclear).live_le

/-- In a run of starts and steps of workers, one worker at most is ever live exactly when no start
meets an install that has its final status and is still on the board. -/
theorem live_iff (m : Module) (events : List Event) :
    (∀ p ∈ steps (step m) .idle events, (step m p.1 p.2).live ≤ 1) ↔
      ∀ p ∈ steps (step m) .idle events, Clear p.1 p.2 := by
  have hsafe : ∀ (s : Site) (event : Event), s.Sound → True →
      ((step m s event).live ≤ 1 ↔ Clear s event) :=
    fun s event h _ ↦ live_step_iff m s event h
  have hkeep : ∀ (s : Site) (event : Event), s.Sound → True → Clear s event →
      (step m s event).Sound :=
    fun s event h _ hclear ↦ sound_step m s event h hclear
  exact steps_safe_iff hsafe hkeep .idle events sound_idle fun _ _ ↦ trivial

/-! ## The result -/

/-- The start joins the install on the board. -/
def Joins (s : Site) : Event → Prop
  | .start _ => s.board.open = true
  | .work _ => True

/-- The status an install is to end with does not depend on the order of the steps. -/
theorem endsAs_step (m : Module) (s : Site) (event : Event) {verdict : Status}
    (h : s.EndsAs verdict) (hjoins : Joins s event) : (step m s event).EndsAs verdict := by
  cases event with
  | start env =>
    have hsame : step m s (.start env) = s := step_join hjoins
    exact hsame.symm ▸ h
  | work k =>
    obtain ⟨acts, before, after, hcurrent⟩ := h
    obtain ⟨acts', hcurrent'⟩ := hcurrent.work m k
    exact ⟨acts', before, after, hcurrent'⟩

/-- An install that is started on a clear board, once its worker has nothing left to do. -/
theorem last_of_sound (m : Module) {s : Site} (hsound : s.Sound) (hclear : s.board.install = none)
    (env : Env) (events : List Event)
    (hjoin : ∀ p ∈ steps (step m) (step m s (.start env)) events, Joins p.1 p.2)
    (hover : (run (step m) (step m s (.start env)) events).live = 0) :
    ∃ i, (run (step m) (step m s (.start env)) events).board = ⟨none, some i⟩ ∧
      Ended i env.verdict := by
  have hstart := endsAs_start hclear (hsound.finished hclear) m env
  have hkeep : ∀ (s : Site) (event : Event), s.EndsAs env.verdict → Joins s event →
      (step m s event).EndsAs env.verdict :=
    fun s event h hjoins ↦ endsAs_step m s event h hjoins
  have hend := run_invariant_of_guard hkeep _ events hstart hjoin
  obtain ⟨acts, before, after, hcurrent⟩ := hend
  have hacts : acts = [] := by
    by_contra hne
    have hone := hcurrent.live
    rw [hover, if_neg hne] at hone
    exact absurd hone (by decide)
  have hphase := hcurrent.phase
  rw [hacts] at hphase
  generalize (run (step m) (step m s (.start env)) events).board = b at hphase
  cases hphase with
  | working hstatus hopen hrising => cases hopen
  | finished hended => exact ⟨_, rfl, hended⟩

/-- The state after a run whose starts all meet a clear or open board. -/
theorem sound_run (m : Module) (events : List Event)
    (h : ∀ p ∈ steps (step m) .idle events, Clear p.1 p.2) : (run (step m) .idle events).Sound :=
  run_invariant_of_guard (fun s event ↦ sound_step m s event) .idle events sound_idle h

/-- Whatever the workers' steps and the starts that join it, an install leaves the board clear and
its result kept once its worker has nothing left to do: done and whole when all its parts went
well, and failed otherwise. -/
theorem last_eq_verdict (m : Module) (before : List Event) (env : Env) (events : List Event)
    (hbefore : ∀ p ∈ steps (step m) .idle before, Clear p.1 p.2)
    (hclear : (run (step m) .idle before).board.install = none)
    (hjoin : ∀ p ∈ steps (step m) (run (step m) .idle (before ++ [.start env])) events,
      Joins p.1 p.2)
    (hover : (run (step m) .idle (before ++ [.start env] ++ events)).live = 0) :
    ∃ i, (run (step m) .idle (before ++ [.start env] ++ events)).board = ⟨none, some i⟩ ∧
      Ended i env.verdict := by
  rw [run_append, run_append] at hover ⊢
  rw [run_append] at hjoin
  exact last_of_sound m (sound_run m before hbefore) hclear env events hjoin hover

/-- An install on a machine without pip. -/
def withoutPip : Env where
  site := "/data/modules/memory"
  makedirs := none
  pip := .raised (.missing "pip")
  available := .ok false
  download := .raised (.missing "pip")
  setState := none

instance (s : Site) (event : Event) : Decidable (Joins s event) :=
  match event with
  | .start _ => inferInstanceAs (Decidable (s.board.open = true))
  | .work _ => .isTrue trivial

-- a second start comes in while the first install is under way
theorem last_eq_verdict_withoutPip : ∃ i, (run (step memory) .idle ([] ++ [.start withoutPip] ++
      [.work 0, .work 0, .start withoutPip, .work 0, .work 0, .work 0])).board = ⟨none, some i⟩ ∧
    Ended i .failed :=
  last_eq_verdict memory [] withoutPip _ (fun _ h ↦ absurd h List.not_mem_nil) rfl
    (by decide +kernel) (by decide +kernel)

/-! ## Progress -/

/-- The progress on the board does not fall. -/
def Forward (b b' : Board) : Prop :=
  ∀ i j, b.install = some i → b'.install = some j → i.progress ≤ j.progress

/-- What the only worker is about to report is not less than what is on the board. -/
theorem Phase.le_shown {i : Install} {last : Option Install} {msg : Option String} {p : Rat}
    {status : Option Status} {rest : List Act} {verdict : Status}
    (h : Phase ⟨some i, last⟩ (.update msg (some p) status :: rest) verdict) :
    i.progress ≤ shownProgress p := by
  cases h with
  | working hstatus hacts hrising => exact (List.pairwise_cons.mp hrising).1 _ List.mem_cons_self
  | filling hstatus hle => exact hle.trans_eq shownProgress_hundred.symm

/-- A step of the only worker does not take progress back. -/
theorem Phase.forward {b : Board} {act : Act} {rest : List Act} {verdict : Status}
    (h : Phase b (act :: rest) verdict) : Forward b (Setup.perform b act).1 := by
  obtain ⟨install, last⟩ := b
  rintro i j rfl hj
  cases act with
  | update msg progress status =>
    obtain rfl : i.update msg progress status = j := Option.some.inj hj
    rw [Install.progress_update]
    cases progress with
    | none => exact le_rfl
    | some p => exact h.le_shown
  | fail fallback => exact (Option.some.inj hj ▸ le_rfl)
  | keep => exact (Option.some.inj hj ▸ le_rfl)
  | clear => exact absurd hj.symm (Option.some_ne_none j)

/-- A step other than the start of a new install does not take progress back. -/
theorem forward_step (m : Module) (s : Site) (event : Event) (h : s.Sound)
    (hjoins : Joins s event) : Forward s.board (step m s event).board := by
  have hsame : Forward s.board s.board := fun i j hi hj ↦
    (Option.some.inj (hi.symm.trans hj) ▸ le_rfl)
  cases event with
  | start env =>
    have hjoined : step m s (.start env) = s := step_join hjoins
    exact hjoined.symm ▸ hsame
  | work k =>
    rw [step]
    cases hw : s.workers[k]? with
    | none => exact hsame
    | some w =>
      cases w with
      | nil => exact hsame
      | cons act rest =>
        rcases h with ⟨-, hover⟩ | ⟨verdict, acts, before, after, hcurrent⟩
        · exact absurd (hover _ (List.mem_of_getElem? hw)) (List.cons_ne_nil act rest)
        · have hmem := List.mem_of_getElem? hw
          rw [hcurrent.split, List.mem_append, List.mem_cons] at hmem
          have hacts : acts = act :: rest := by
            rcases hmem with hmem | rfl | hmem
            · exact absurd (hcurrent.others _ (List.mem_append_left _ hmem)) (List.cons_ne_nil _ _)
            · rfl
            · exact absurd (hcurrent.others _ (List.mem_append_right _ hmem)) (List.cons_ne_nil _ _)
          exact (hacts ▸ hcurrent.phase).forward

end LcpGateway.Setup
