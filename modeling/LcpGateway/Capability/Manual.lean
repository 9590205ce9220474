import LcpGateway.Capability.Matrix

/-!
# Scores entered by hand

Library `Capability`. Source `src/server/endpoints.py:2847–2911`. A score is stored under the label
of a release, by default today's date; whether the router then uses it, and what happens to the
model's other scores, depends on the release in effect before and after.
-/

namespace LcpGateway.Capability
open LcpGateway.Base

/-- The body of the request; a score is what `float()` reads, `none` when it raises. -/
structure ManualBody where
  model : String
  release : String
  scores : List (String × Option PyFloat)

/-- Why a request is refused. -/
inductive ManualFailure where
  | missingModel
  | scoresEmpty
  | notANumber (task : String)
  deriving DecidableEq, Repr

/-- A score of 0–100 or 0–1 as one of 0–1, with four digits; `endpoints.py:2885–2887`. -/
def normalized : PyFloat → PyFloat
  | .fin r => .fin (roundDigits 4 (max 0 (min 1 (if 1 < r then r / 100 else r))))
  | .inf negative => .fin (if negative then 0 else 1)
  | .nan => .fin 1

/-- The first row that a test selects is rewritten; without one, a row is added. -/
def upsertFirst (p : CapabilityRow → Bool) (f : CapabilityRow → CapabilityRow)
    (new : CapabilityRow) : List CapabilityRow → List CapabilityRow
  | [] => [new]
  | r :: rest => if p r then f r :: rest else r :: upsertFirst p f new rest

/-- `filter_by(model, task_type, source="manual", release_label)`. -/
def isManual (model task label : String) (r : CapabilityRow) : Bool :=
  r.model = model ∧ r.taskType = task ∧ r.source = "manual" ∧ r.releaseLabel = some label

/-- An existing row with a new score. -/
def rescore (raw : PyFloat) (now : String) (r : CapabilityRow) : CapabilityRow :=
  { r with score := normalized raw, rawScore := some raw, updatedAt := now }

/-- A new row. -/
def manualRow (model task label : String) (raw : PyFloat) (now : String) : CapabilityRow where
  model := model
  taskType := task
  score := normalized raw
  source := "manual"
  benchmarkCategory := none
  rawScore := some raw
  releaseLabel := some label
  updatedAt := now

/-- One score is stored; `endpoints.py:2879–2905`. -/
def storeScore (model label now : String) (rows : List CapabilityRow) (task : String)
    (raw : PyFloat) : List CapabilityRow :=
  upsertFirst (isManual model task label) (rescore raw now) (manualRow model task label raw now)
    rows

/-- The loop over the scores; one that is not a number drops them all. -/
def storeScores (model label now : String) :
    List CapabilityRow → List (String × Option PyFloat) → Except ManualFailure (List CapabilityRow)
  | rows, [] => .ok rows
  | _, (task, none) :: _ => .error (.notANumber task)
  | rows, (task, some raw) :: rest =>
    storeScores model label now (storeScore model label now rows task raw) rest

/-- `(body.get("model") or "").strip().lower()`. -/
def manualKey (model : String) : String := lower (strip model)

/-- `_serve_capability_manual_api`: the rows after the commit, with the stored model and label;
`endpoints.py:2847–2911`. -/
def serveCapabilityManual (rows : List CapabilityRow) (body : ManualBody) (today now : String) :
    Except ManualFailure (List CapabilityRow × String × String) :=
  let model := manualKey body.model
  let label := if strip body.release = "" then today else strip body.release
  if model = "" then .error .missingModel
  else if body.scores = [] then .error .scoresEmpty
  else (storeScores model label now rows body.scores).map (fun rows' ↦ (rows', model, label))

/-! ## The rows after the write -/

variable {model task label now : String} {raw : PyFloat}

/-- A selection that sees the written row is itself written. -/
theorem filter_upsertFirst_of_keeps {p q : CapabilityRow → Bool} {f : CapabilityRow → CapabilityRow}
    {new : CapabilityRow} (hnew : q new = true) (hp : ∀ r, p r = true → q r = true)
    (hf : ∀ r, p r = true → q (f r) = true) (rows : List CapabilityRow) :
    (upsertFirst p f new rows).filter q = upsertFirst p f new (rows.filter q) := by
  induction rows with
  | nil => simp [upsertFirst, hnew]
  | cons r rest ih =>
    by_cases hpr : p r = true
    · simp [upsertFirst, hpr, hp r hpr, hf r hpr]
    · by_cases hqr : q r = true <;> simp [upsertFirst, hpr, hqr, ih]

/-- A selection that does not see the written row is left alone. -/
theorem filter_upsertFirst_of_drops {p q : CapabilityRow → Bool} {f : CapabilityRow → CapabilityRow}
    {new : CapabilityRow} (hnew : q new = false) (hp : ∀ r, p r = true → q r = false)
    (hf : ∀ r, p r = true → q (f r) = false) (rows : List CapabilityRow) :
    (upsertFirst p f new rows).filter q = rows.filter q := by
  induction rows with
  | nil => simp [upsertFirst, hnew]
  | cons r rest ih =>
    by_cases hpr : p r = true
    · simp [upsertFirst, hpr, hp r hpr, hf r hpr]
    · by_cases hqr : q r = true <;> simp [upsertFirst, hpr, hqr, ih]

/-- The written row keeps its model, task, source and label. -/
theorem isManual_rescore {r : CapabilityRow} (h : isManual model task label r = true) :
    isManual model task label (rescore raw now r) = true := h

/-- A column that the written row has for sure decides which selections see it. -/
theorem filter_storeScore {q : CapabilityRow → Bool}
    (hq : ∀ r, isManual model task label r = true → q r = true) (rows : List CapabilityRow) :
    (storeScore model label now rows task raw).filter q =
      storeScore model label now (rows.filter q) task raw :=
  filter_upsertFirst_of_keeps (hq _ (by simp [isManual, manualRow])) hq
    (fun r hr ↦ hq _ (isManual_rescore hr)) rows

/-- The rows that a selection does not share with the written row. -/
theorem filter_storeScore_of_not {q : CapabilityRow → Bool}
    (hq : ∀ r, isManual model task label r = true → q r = false) (rows : List CapabilityRow) :
    (storeScore model label now rows task raw).filter q = rows.filter q :=
  filter_upsertFirst_of_drops (hq _ (by simp [isManual, manualRow])) hq
    (fun r hr ↦ hq _ (isManual_rescore hr)) rows

/-- The labels after the write. -/
theorem mem_labels_storeScore (rows : List CapabilityRow) (l : Option String) :
    l ∈ (storeScore model label now rows task raw).map CapabilityRow.releaseLabel ↔
      l = some label ∨ l ∈ rows.map CapabilityRow.releaseLabel := by
  induction rows with
  | nil => simp [storeScore, upsertFirst, manualRow]
  | cons r rest ih =>
    by_cases hr : isManual model task label r = true
    · have hlabel : r.releaseLabel = some label := by
        simp only [isManual, decide_eq_true_eq] at hr
        exact hr.2.2.2
      simp [storeScore, upsertFirst, hr, rescore, hlabel]
    · simp only [storeScore, upsertFirst, hr, Bool.false_eq_true, if_false, List.map_cons,
        List.mem_cons] at ih ⊢
      rw [ih]
      tauto

/-! ## The release in effect after the write -/

/-- The release of the write is in effect after it: it is pinned, or the pin has no rows (rows
without a release stand for no pin) and no newer release has any. -/
def TakesEffect (rows : List CapabilityRow) (active : Option String) (label : String) : Prop :=
  active = some label ∨ (active ∉ rows.map CapabilityRow.releaseLabel ∧
    ∀ l ∈ rows.filterMap CapabilityRow.releaseLabel, l ≤ label)

instance (rows : List CapabilityRow) (active : Option String) (label : String) :
    Decidable (TakesEffect rows active label) := inferInstanceAs (Decidable (_ ∨ _))

variable {rows : List CapabilityRow} {active : Option String}

private theorem mem_releases_storeScore (l : String) :
    l ∈ (storeScore model label now rows task raw).filterMap CapabilityRow.releaseLabel ↔
      l = label ∨ l ∈ rows.filterMap CapabilityRow.releaseLabel := by
  have hlabels : some l ∈ (storeScore model label now rows task raw).map
      CapabilityRow.releaseLabel ↔ _ := mem_labels_storeScore rows (some l)
  simpa only [List.mem_map, List.mem_filterMap, Option.some.injEq] using hlabels

/-- A write that takes effect makes its release the one in effect. -/
theorem releaseInEffect_of_takesEffect (h : TakesEffect rows active label) :
    releaseInEffect (storeScore model label now rows task raw) active = some label := by
  simp only [releaseInEffect, mem_labels_storeScore]
  rcases h with rfl | ⟨hpin, hnewest⟩
  · rw [if_pos (.inl rfl)]
  · by_cases hlabel : active = some label
    · rw [if_pos (.inl hlabel), hlabel]
    · rw [if_neg (by tauto), List.max?_eq_some_iff]
      refine ⟨(mem_releases_storeScore label).mpr (.inl rfl), fun l hl ↦ ?_⟩
      rcases (mem_releases_storeScore l).mp hl with rfl | hl
      · exact le_refl l
      · exact hnewest l hl

/-- A write that takes no effect leaves the release in effect, which is another one. -/
theorem releaseInEffect_of_not_takesEffect (model task now : String) (raw : PyFloat)
    (h : ¬ TakesEffect rows active label) :
    releaseInEffect (storeScore model label now rows task raw) active =
        releaseInEffect rows active ∧
      releaseInEffect rows active ≠ some label := by
  simp only [TakesEffect, not_or, not_and_or, not_not, not_forall, not_le] at h
  obtain ⟨hpinned, hpin | ⟨l, hl, hlt⟩⟩ := h
  · simp only [releaseInEffect, mem_labels_storeScore]
    rw [if_pos (.inr hpin), if_pos hpin]
    exact ⟨rfl, hpinned⟩
  · by_cases hpin : active ∈ rows.map CapabilityRow.releaseLabel
    · simp only [releaseInEffect, mem_labels_storeScore]
      rw [if_pos (.inr hpin), if_pos hpin]
      exact ⟨rfl, hpinned⟩
    · simp only [releaseInEffect, mem_labels_storeScore]
      rw [if_neg (by tauto), if_neg hpin]
      obtain ⟨newest, hnewest⟩ : ∃ newest,
          (rows.filterMap CapabilityRow.releaseLabel).max? = some newest := by
        rw [← Option.ne_none_iff_exists', Ne, List.max?_eq_none_iff]
        exact List.ne_nil_of_mem hl
      have hmax := List.max?_eq_some_iff.mp hnewest
      have hlabel : label < newest := lt_of_lt_of_le hlt (hmax.2 l hl)
      rw [hnewest, List.max?_eq_some_iff]
      refine ⟨⟨(mem_releases_storeScore newest).mpr (.inr hmax.1), fun l hl ↦ ?_⟩,
        fun heq ↦ hlabel.ne' (Option.some.inj heq)⟩
      rcases (mem_releases_storeScore l).mp hl with rfl | hl
      · exact hlabel.le
      · exact hmax.2 l hl

private theorem label_of_isManual {r : CapabilityRow} (h : isManual model task label r = true) :
    r.releaseLabel = some label := by
  simp only [isManual, decide_eq_true_eq] at h
  exact h.2.2.2

/-- A write that takes no effect leaves the live rows. -/
theorem live_of_not_takesEffect (h : ¬ TakesEffect rows active label) :
    live (storeScore model label now rows task raw) active = live rows active := by
  obtain ⟨hsame, hother⟩ := releaseInEffect_of_not_takesEffect model task now raw h
  rw [live, live, hsame, rowsOfRelease, rowsOfRelease, filter_storeScore_of_not,
    filter_storeScore_of_not]
  · intro r hr
    simp [label_of_isManual hr]
  · intro r hr
    simp [label_of_isManual hr, Ne.symm hother]

/-- After a write that takes effect, the live rows are those of its release, with the new score,
and the rows without a release. -/
theorem live_of_takesEffect (h : TakesEffect rows active label) :
    live (storeScore model label now rows task raw) active =
      storeScore model label now (rows.filter (fun r ↦ r.releaseLabel = some label)) task raw ++
        rows.filter (fun r ↦ r.releaseLabel = none) := by
  rw [live, releaseInEffect_of_takesEffect h, rowsOfRelease, filter_storeScore,
    filter_storeScore_of_not]
  · intro r hr
    simp [label_of_isManual hr]
  · intro r hr
    simp [label_of_isManual hr]

/-! ## The score of the written task -/

/-- A score from the one source that goes before a hand-set one. -/
def overridden (rows : List CapabilityRow) (task : String) : Option PyFloat :=
  ((ofTask rows task).find? (fun r ↦ r.source = "gateway_yaml")).map CapabilityRow.score

/-- The first row with the least priority is the one the score is taken from. -/
theorem argmin_eq_of_split {before after : List CapabilityRow} {r : CapabilityRow}
    (hbefore : ∀ a ∈ before, r.priority < a.priority)
    (hafter : ∀ a ∈ after, r.priority ≤ a.priority) :
    (before ++ r :: after).argmin CapabilityRow.priority = some r := by
  have hkept : ∀ (kept : Option CapabilityRow), (∀ c ∈ kept, r.priority < c.priority) →
      ∀ c ∈ before.foldl (List.argAux fun b c ↦ b.priority < c.priority) kept,
        r.priority < c.priority := by
    clear hafter
    induction before with
    | nil => exact fun _ h ↦ h
    | cons b rest ih =>
      rw [List.forall_mem_cons] at hbefore
      intro kept hk
      refine ih hbefore.2 _ fun c hc ↦ ?_
      cases kept with
      | none => exact Option.some.inj hc ▸ hbefore.1
      | some k =>
        simp only [List.argAux] at hc
        split at hc
        · exact Option.some.inj hc ▸ hbefore.1
        · exact hk c hc
  have hstays : after.foldl (List.argAux fun b c ↦ b.priority < c.priority) (some r) = some r := by
    clear hbefore hkept
    induction after with
    | nil => rfl
    | cons a rest ih =>
      rw [List.forall_mem_cons] at hafter
      simp only [List.foldl_cons, List.argAux, if_neg (Nat.not_lt.mpr hafter.1)]
      exact ih hafter.2
  have hfirst := hkept none (by simp)
  rw [List.argmin, List.foldl_append, List.foldl_cons]
  generalize before.foldl (List.argAux fun b c ↦ b.priority < c.priority) none = kept at hfirst ⊢
  cases kept with
  | none => exact hstays
  | some c =>
    simp only [List.argAux, if_pos (hfirst c rfl)]
    exact hstays

/-- Only one source goes before a hand-set score. -/
theorem one_le_priority {r : CapabilityRow} (h : r.source ≠ "gateway_yaml") : 1 ≤ r.priority := by
  unfold CapabilityRow.priority sourcePriority
  rw [if_neg h]
  repeat' split
  all_goals omega

/-- A source that is neither the first nor a hand-set one comes after a hand-set score. -/
theorem one_lt_priority {r : CapabilityRow} (h : r.source ≠ "gateway_yaml")
    (hmanual : r.source ≠ "manual") : 1 < r.priority := by
  unfold CapabilityRow.priority sourcePriority
  rw [if_neg h, if_neg hmanual]
  repeat' split
  all_goals omega

/-- The written row, and what is before it: no hand-set row of the same cell and release. -/
theorem storeScore_split (model task label now : String) (raw : PyFloat)
    (rows : List CapabilityRow) :
    ∃ before r after, storeScore model label now rows task raw = before ++ r :: after ∧
      r.source = "manual" ∧ r.score = normalized raw ∧
      ∀ a ∈ before, a ∈ rows ∧ isManual model task label a = false := by
  induction rows with
  | nil => exact ⟨[], _, [], rfl, rfl, rfl, by simp⟩
  | cons r rest ih =>
    by_cases hr : isManual model task label r = true
    · have hsource : r.source = "manual" := by
        simp only [isManual, decide_eq_true_eq] at hr
        exact hr.2.2.1
      exact ⟨[], rescore raw now r, rest, by simp [storeScore, upsertFirst, hr], hsource, rfl,
        by simp⟩
    · obtain ⟨before, r', after, hsplit, hsource, hscore, hbefore⟩ := ih
      refine ⟨r :: before, r', after, ?_, hsource, hscore, ?_⟩
      · simp only [storeScore] at hsplit ⊢
        simp [upsertFirst, hr, hsplit]
      · rw [List.forall_mem_cons]
        exact ⟨⟨List.mem_cons_self, by simpa using hr⟩,
          fun a ha ↦ ⟨List.mem_cons_of_mem r (hbefore a ha).1, (hbefore a ha).2⟩⟩

/-- The rows of a task in two lists. -/
theorem ofTask_append (rows others : List CapabilityRow) (task : String) :
    ofTask (rows ++ others) task = ofTask rows task ++ ofTask others task := List.filter_append ..

/-- The rows of the written task, in a release and without one. -/
theorem ofTask_declared (rows others : List CapabilityRow) :
    ofTask (storeScore model label now rows task raw ++ others) task =
      storeScore model label now (ofTask rows task) task raw ++ ofTask others task := by
  rw [ofTask_append, ofTask, filter_storeScore]
  · rfl
  · intro r hr
    simp only [isManual, decide_eq_true_eq] at hr
    simp [hr.2.1]

/-- The rows of another task. -/
theorem ofTask_declared_of_ne {task' : String} (h : task' ≠ task)
    (rows others : List CapabilityRow) :
    ofTask (storeScore model label now rows task raw ++ others) task' =
      ofTask (rows ++ others) task' := by
  rw [ofTask_append, ofTask_append, ofTask, filter_storeScore_of_not]
  · rfl
  · intro r hr
    simp only [isManual, decide_eq_true_eq] at hr
    simp [hr.2.1, Ne.symm h]

/-- The write leaves the rows of the source that goes before it. -/
theorem overridden_declared (model label now : String) (raw : PyFloat)
    (rows others : List CapabilityRow) :
    overridden (storeScore model label now rows task raw ++ others) task =
      overridden (rows ++ others) task := by
  rw [overridden, overridden, ← List.head?_filter, ← List.head?_filter, ofTask_declared,
    ofTask_append, List.filter_append, List.filter_append, filter_storeScore_of_not]
  intro r hr
  simp only [isManual, decide_eq_true_eq] at hr
  simp [hr.2.2.1]

/-- The score of the written task among the rows of its release and those without one. -/
theorem scoreOf_declared {rows : List CapabilityRow} (others : List CapabilityRow)
    (hrows : ∀ r ∈ rows, r.model = model ∧ r.releaseLabel = some label) :
    scoreOf (storeScore model label now rows task raw ++ others) task =
      some ((overridden (rows ++ others) task).getD (normalized raw)) := by
  rw [← overridden_declared model label now raw]
  set declared := storeScore model label now rows task raw ++ others with hdeclared
  cases hfind : (ofTask declared task).find? (fun r ↦ r.source = "gateway_yaml") with
  | some g =>
    obtain ⟨hg, before, after, hsplit, hbefore⟩ := List.find?_eq_some_iff_append.mp hfind
    have hzero : g.priority = 0 := by
      simp [CapabilityRow.priority, sourcePriority, of_decide_eq_true hg]
    have hmin : (ofTask declared task).argmin CapabilityRow.priority = some g := by
      rw [hsplit]
      refine argmin_eq_of_split (fun a ha ↦ ?_) (fun a _ ↦ by omega)
      have hne : a.source ≠ "gateway_yaml" := by simpa using hbefore a ha
      have hone := one_le_priority hne
      omega
    simp [scoreOf, overridden, hmin, hfind]
  | none =>
    have hnone : ∀ r ∈ ofTask declared task, r.source ≠ "gateway_yaml" := by
      simpa using List.find?_eq_none.mp hfind
    obtain ⟨before, r, after, hsplit, hsource, hscore, hbefore⟩ :=
      storeScore_split model task label now raw (ofTask rows task)
    have hcell : ofTask declared task = before ++ r :: (after ++ ofTask others task) := by
      rw [hdeclared, ofTask_declared, hsplit]
      simp
    have hone : r.priority = 1 := by simp [CapabilityRow.priority, sourcePriority, hsource]
    have hmin : (ofTask declared task).argmin CapabilityRow.priority = some r := by
      rw [hcell] at hnone ⊢
      refine argmin_eq_of_split (fun a ha ↦ ?_) (fun a ha ↦ ?_)
      · obtain ⟨hmem, hmanual⟩ := hbefore a ha
        obtain ⟨harow, hatask⟩ := List.mem_filter.mp hmem
        have hne : a.source ≠ "manual" := by
          simpa [isManual, hrows a harow, of_decide_eq_true hatask] using hmanual
        rw [hone]
        exact one_lt_priority (hnone a (List.mem_append_left _ ha)) hne
      · rw [hone]
        exact one_le_priority (hnone a (List.mem_append_right _ (List.mem_cons_of_mem r ha)))
    simp [scoreOf, overridden, hmin, hfind, hscore]

/-! ## What a declared score does to the matrix -/

/-- A score that goes before the declared one: of the task that a derived task takes its scores
from, or from the source that goes before a hand-set one. -/
def shadow (rows : List CapabilityRow) (task : String) : Option PyFloat :=
  ((proxyOf task).bind (scoreOf rows)).or (overridden rows task)

/-- When the score of a task is declared for a model with these rows: the write reaches the
router when the model's key is stored as it is and the release takes effect. Then no other score
goes before the declared one, the rows of the release and those without one hold what was in force
for the other tasks, and tasks derived from this one had the score already. A write that does not
reach the router declares what was in force already. -/
structure ScoreStands (rows : List CapabilityRow) (active : Option String) (stored : Bool)
    (label task : String) (score : PyFloat) : Prop where
  unshadowed : stored = true → TakesEffect rows active label →
    ∀ other, shadow (rowsOfRelease rows (some label)) task = some other → other = score
  kept : stored = true → TakesEffect rows active label →
    ∀ task', task' ≠ task → proxyOf task' ≠ some task →
      inForce (rowsOfRelease rows (some label)) task' = inForce (live rows active) task'
  mirrored : stored = true → TakesEffect rows active label →
    ∀ task', proxyOf task' = some task → inForce (live rows active) task' = some score
  unreached : ¬ (stored = true ∧ TakesEffect rows active label) →
    inForce (live rows active) task = some score

/-- The derived tasks, and what they take their scores from. -/
theorem eq_of_proxyOf {task source : String} (h : proxyOf task = some source) :
    source = "code_generation" ∧ (task = "debugging" ∨ task = "unit_tests") := by
  unfold proxyOf DERIVED_TASKS at h
  by_cases hdebug : "debugging" = task
  · subst hdebug
    exact ⟨(Option.some.inj h).symm, .inl rfl⟩
  · by_cases htests : "unit_tests" = task
    · subst htests
      exact ⟨(Option.some.inj h).symm, .inr rfl⟩
    · simp [hdebug, htests] at h

/-- No task is derived from a derived one. -/
theorem proxyOf_proxy {task source : String} (h : proxyOf task = some source) :
    proxyOf source = none ∧ source ≠ task := by
  obtain ⟨rfl, rfl | rfl⟩ := eq_of_proxyOf h
  · decide
  · decide

/-- The score in force for the written task after a write that takes effect. -/
theorem inForce_declared {rows : List CapabilityRow} (others : List CapabilityRow)
    (hrows : ∀ r ∈ rows, r.model = model ∧ r.releaseLabel = some label) :
    inForce (storeScore model label now rows task raw ++ others) task =
      some ((shadow (rows ++ others) task).getD (normalized raw)) := by
  rw [inForce, shadow, scoreOf_declared others hrows]
  cases hproxy : proxyOf task with
  | none => simp
  | some source =>
    have hsource := (proxyOf_proxy hproxy).2
    have hscore : scoreOf (storeScore model label now rows task raw ++ others) source =
        scoreOf (rows ++ others) source := by
      rw [scoreOf, scoreOf, ofTask_declared_of_ne hsource]
    rw [Option.bind_some, Option.bind_some, hscore]
    cases scoreOf (rows ++ others) source <;> simp

/-- The score in force for another task that is not derived from the written one. -/
theorem inForce_declared_of_ne {task' : String} (h : task' ≠ task)
    (hproxy : proxyOf task' ≠ some task) (rows others : List CapabilityRow) :
    inForce (storeScore model label now rows task raw ++ others) task' =
      inForce (rows ++ others) task' := by
  have hscore : ∀ t, t ≠ task → scoreOf (storeScore model label now rows task raw ++ others) t =
      scoreOf (rows ++ others) t := by
    intro t ht
    rw [scoreOf, scoreOf, ofTask_declared_of_ne ht]
  rw [inForce, inForce, hscore task' h]
  cases hsource : proxyOf task' with
  | none => rfl
  | some source =>
    have hne : source ≠ task := fun heq ↦ hproxy (heq ▸ hsource)
    rw [Option.bind_some, Option.bind_some, hscore source hne]

/-- A task derived from the written one has its score. -/
theorem inForce_mirrored {task' : String} (h : proxyOf task' = some task)
    {rows : List CapabilityRow} (others : List CapabilityRow)
    (hrows : ∀ r ∈ rows, r.model = model ∧ r.releaseLabel = some label) :
    inForce (storeScore model label now rows task raw ++ others) task' =
      some ((shadow (rows ++ others) task).getD (normalized raw)) := by
  rw [inForce, h, Option.bind_some, scoreOf_declared others hrows, Option.some_or, shadow,
    (proxyOf_proxy h).1, Option.bind_none, Option.none_or]

/-- A value that is taken in place of another equals it exactly when it is absent or equal. -/
private theorem getD_eq_iff (o : Option PyFloat) (x : PyFloat) :
    o.getD x = x ↔ ∀ y, o = some y → y = x := by
  cases o <;> simp

/-- The scores in force after a write that takes effect: the declared one and the others as they
were, exactly when it stands. -/
theorem declared_stands_iff {rows : List CapabilityRow} {active : Option String}
    (hmodel : ∀ r ∈ rows, r.model = model) (heffect : TakesEffect rows active label) :
    (inForce (live (storeScore model label now rows task raw) active) task =
        some (normalized raw) ∧
      ∀ task', task' ≠ task → inForce (live (storeScore model label now rows task raw) active)
        task' = inForce (live rows active) task') ↔
      ScoreStands rows active true label task (normalized raw) := by
  have hrows : ∀ r ∈ rows.filter (fun r ↦ r.releaseLabel = some label),
      r.model = model ∧ r.releaseLabel = some label := by
    intro r hr
    obtain ⟨hmem, hlabel⟩ := List.mem_filter.mp hr
    exact ⟨hmodel r hmem, of_decide_eq_true hlabel⟩
  rw [live_of_takesEffect heffect, inForce_declared _ hrows, Option.some.injEq, getD_eq_iff]
  constructor
  · rintro ⟨hshadow, hothers⟩
    refine ⟨fun _ _ ↦ hshadow, fun _ _ task' hne hproxy ↦ ?_, fun _ _ task' hproxy ↦ ?_,
      fun h ↦ absurd ⟨rfl, heffect⟩ h⟩
    · rw [← hothers task' hne, inForce_declared_of_ne hne hproxy]
      rfl
    · rw [← hothers task' (proxyOf_proxy hproxy).2.symm, inForce_mirrored hproxy _ hrows,
        (getD_eq_iff _ _).mpr hshadow]
  · intro h
    refine ⟨h.unshadowed rfl heffect, fun task' hne ↦ ?_⟩
    by_cases hproxy : proxyOf task' = some task
    · rw [inForce_mirrored hproxy _ hrows, h.mirrored rfl heffect task' hproxy]
      exact congrArg some ((getD_eq_iff _ _).mpr (h.unshadowed rfl heffect))
    · rw [inForce_declared_of_ne hne hproxy, ← h.kept rfl heffect task' hne hproxy]
      rfl

/-- What is in force after one score was stored for a model's key: the declared score, and the
other tasks as they were, exactly when it stands. -/
theorem stored_stands_iff {rows : List CapabilityRow} {active : Option String} {key : String} :
    (inForce (live (ofModel (storeScore key label now rows task raw) model) active) task =
        some (normalized raw) ∧
      ∀ task', task' ≠ task →
        inForce (live (ofModel (storeScore key label now rows task raw) model) active) task' =
          inForce (live (ofModel rows model) active) task') ↔
      ScoreStands (ofModel rows model) active (key = model) label task (normalized raw) := by
  by_cases hkey : key = model
  · subst hkey
    have hrows : ofModel (storeScore key label now rows task raw) key =
        storeScore key label now (ofModel rows key) task raw := by
      refine filter_storeScore (fun r hr ↦ ?_) rows
      simp only [isManual, decide_eq_true_eq] at hr
      simp [hr.1]
    rw [hrows, decide_eq_true rfl]
    by_cases heffect : TakesEffect (ofModel rows key) active label
    · refine declared_stands_iff (fun r hr ↦ ?_) heffect
      exact of_decide_eq_true (List.mem_filter.mp hr).2
    · rw [live_of_not_takesEffect heffect]
      exact ⟨fun h ↦ ⟨fun _ h' ↦ absurd h' heffect, fun _ h' ↦ absurd h' heffect,
        fun _ h' ↦ absurd h' heffect, fun _ ↦ h.1⟩,
        fun h ↦ ⟨h.unreached fun h' ↦ heffect h'.2, fun _ _ ↦ rfl⟩⟩
  · have hrows : ofModel (storeScore key label now rows task raw) model = ofModel rows model := by
      refine filter_storeScore_of_not (fun r hr ↦ ?_) rows
      simp only [isManual, decide_eq_true_eq] at hr
      simp [hr.1, hkey]
    rw [hrows, decide_eq_false hkey]
    exact ⟨fun h ↦ ⟨fun h' ↦ absurd h' (by simp), fun h' ↦ absurd h' (by simp),
      fun h' ↦ absurd h' (by simp), fun _ ↦ h.1⟩,
      fun h ↦ ⟨h.unreached (by simp), fun _ _ ↦ rfl⟩⟩

/-- An accepted request with one score under the default label: the router's matrix has the
declared score for the task and the model's other entries as before, exactly when the score
stands. -/
theorem manual_score_stands_iff {rows rows' : List CapabilityRow} {registry : ReleaseRegistry}
    {model task today now : String} {raw : PyFloat} {stored : String × String}
    (h : serveCapabilityManual rows ⟨model, "", [(task, some raw)]⟩ today now =
      .ok (rows', stored)) :
    ((loadCapabilityMatrix rows' registry none).getIn task model = some (normalized raw) ∧
      ∀ task', task' ≠ task → (loadCapabilityMatrix rows' registry none).getIn task' model =
        (loadCapabilityMatrix rows registry none).getIn task' model) ↔
      ScoreStands (ofModel rows model) (registry.activeRelease model)
        (manualKey model = model) today task (normalized raw) := by
  have hrows : rows' = storeScore (manualKey model) today now rows task raw := by
    unfold serveCapabilityManual at h
    dsimp only at h
    split at h
    · simp at h
    · rw [if_neg (by simp), if_pos (by decide)] at h
      exact (Prod.mk.inj (Except.ok.inj h)).1.symm
  simp only [getIn_loadCapabilityMatrix, hrows]
  exact stored_stands_iff

/-! ### A model with older scores -/

/-- A benchmark score of one release. -/
def benchmarked (task label : String) (score : Rat) : CapabilityRow :=
  ⟨"kimi-k3", task, .fin score, "livebench", none, none, some label, label⟩

/-- A score declared today hides the model's scores of the last release. -/
theorem declared_score_drops_others :
    ∃ rows' stored, serveCapabilityManual [benchmarked "code_generation" "2026-06-25" 0.9]
        ⟨"kimi-k3", "", [("planning", some (.fin 80))]⟩ "2026-09-01" "2026-09-01T00:00:00+00:00" =
          .ok (rows', stored) ∧
      (loadCapabilityMatrix [benchmarked "code_generation" "2026-06-25" 0.9] Dict.empty none).getIn
        "code_generation" "kimi-k3" = some (.fin 0.9) ∧
      (loadCapabilityMatrix rows' Dict.empty none).getIn "code_generation" "kimi-k3" = none :=
  ⟨_, _, rfl, by decide +kernel, by decide +kernel⟩

/-- The rows of a model whose only release is today's. -/
def releasedToday : List CapabilityRow := [benchmarked "code_generation" "2026-09-01" 0.9]

/-- A score declared for the release in effect is used and keeps the others. -/
theorem declared_score_joins_release :
    ∃ rows' stored, serveCapabilityManual releasedToday
        ⟨"kimi-k3", "", [("planning", some (.fin 80))]⟩ "2026-09-01" "2026-09-01T00:00:00+00:00" =
          .ok (rows', stored) ∧
      (loadCapabilityMatrix rows' Dict.empty none).getIn "planning" "kimi-k3" = some (.fin 0.8) ∧
      (loadCapabilityMatrix rows' Dict.empty none).getIn "code_generation" "kimi-k3" =
        (loadCapabilityMatrix releasedToday Dict.empty none).getIn "code_generation" "kimi-k3" := by
  obtain ⟨rows', stored, hserve⟩ : ∃ rows' stored, serveCapabilityManual releasedToday
      ⟨"kimi-k3", "", [("planning", some (.fin 80))]⟩ "2026-09-01" "2026-09-01T00:00:00+00:00" =
        .ok (rows', stored) := ⟨_, _, rfl⟩
  have hlive : live (ofModel releasedToday "kimi-k3") none =
      rowsOfRelease (ofModel releasedToday "kimi-k3") (some "2026-09-01") := by decide +kernel
  have hshadow : shadow (rowsOfRelease (ofModel releasedToday "kimi-k3") (some "2026-09-01"))
      "planning" = none := by decide +kernel
  have heffect : TakesEffect (ofModel releasedToday "kimi-k3") none "2026-09-01" := by
    decide +kernel
  have hscore : normalized (.fin 80) = .fin 0.8 := by decide +kernel
  have hstands : ScoreStands (ofModel releasedToday "kimi-k3")
      (ReleaseRegistry.activeRelease Dict.empty "kimi-k3") (manualKey "kimi-k3" = "kimi-k3")
      "2026-09-01" "planning" (normalized (.fin 80)) := by
    rw [show ReleaseRegistry.activeRelease Dict.empty "kimi-k3" = none from rfl]
    constructor
    · intro _ _ other hother
      exact absurd (hshadow.symm.trans hother) (by simp)
    · intro _ _ task' _ _
      rw [hlive]
    · intro _ _ task' hproxy
      exact absurd (eq_of_proxyOf hproxy).1 (by decide)
    · exact fun hnot ↦ absurd ⟨by decide +kernel, heffect⟩ hnot
  obtain ⟨hdeclared, hothers⟩ := (manual_score_stands_iff hserve).mpr hstands
  exact ⟨rows', stored, hserve, hdeclared.trans (by rw [hscore]), hothers _ (by decide)⟩

end LcpGateway.Capability
