import LcpGateway.Base.Dict
import LcpGateway.Base.Json
import LcpGateway.Base.Run
import LcpGateway.Base.Table
import Mathlib.Algebra.Order.Ring.Rat
import Mathlib.Tactic.Linarith

/-!
# The alert manager

Library `Alerts`. Source `src/api/alert_manager.py:97–231`. Memory keeps one alert for each key,
the database one row for each firing; `resolve` and `acknowledge` write the row that an
unordered query returns first, which is an input here. Failures of the database and the webhook
are left out, and so is the in-memory history, which nothing reads while an engine is attached.
-/

namespace LcpGateway.Alerts
open LcpGateway.Base

/-- The status of an alert. -/
inductive AlertStatus where
  | firing
  | resolved
  deriving DecidableEq, Repr

/-- An alert. -/
structure Alert where
  dedupKey : String
  rule : String
  severity : String
  title : String
  message : String
  metadata : Json
  status : AlertStatus
  acknowledged : Bool
  timestamp : String
  acknowledgedAt : Option String
  resolvedAt : Option String

/-- A row of the `alerts` table. -/
structure AlertRow where
  id : Nat
  alert : Alert

/-- The configuration of one rule. -/
structure RuleConfig where
  enabled : Bool
  minSeverity : String

/-- The manager over its table. -/
structure AlertManager where
  rules : Dict String RuleConfig
  cooldown : Rat
  active : Dict String Alert
  lastFire : Dict String Rat
  table : Table AlertRow AlertRow.id

/-- The arguments of `fire`. -/
structure FireCall where
  rule : String
  severity : String
  title : String
  message : String
  dedupKey : String
  metadata : Json

/-- A call: the time it reads, as a number or as a stamp, and which of the matching rows the
database returns first. -/
inductive AlertEvent where
  | fire (call : FireCall) (now : Rat) (stamp : String)
  | acknowledge (key : String) (stamp : String) (pick : Nat)
  | resolve (key : String) (stamp : String) (pick : Nat)

/-- `severities.get(severity, 0)`; `alert_manager.py:138`. -/
def severityLevel (severity : String) : Nat :=
  if severity = "critical" then 2 else if severity = "warning" then 1 else 0

/-- `int(t)`. -/
def wholeSeconds (t : Rat) : Int := t.num.tdiv t.den

namespace Alert

/-- The fields `acknowledge` writes. -/
def acknowledge (stamp : String) (alert : Alert) : Alert :=
  { alert with acknowledged := true, acknowledgedAt := some stamp }

/-- The fields `resolve` writes. -/
def resolve (stamp : String) (alert : Alert) : Alert :=
  { alert with status := .resolved, resolvedAt := some stamp }

end Alert

namespace AlertManager

/-- `AlertManager(engine)` over a table. -/
def fresh (rules : Dict String RuleConfig) (cooldown : Rat) (table : Table AlertRow AlertRow.id) :
    AlertManager := ⟨rules, cooldown, Dict.empty, Dict.empty, table⟩

variable (m : AlertManager)

/-- The rule is enabled and the severity meets its threshold; `alert_manager.py:133–142`. -/
def passes (call : FireCall) : Bool :=
  match m.rules.get? call.rule with
  | some cfg => cfg.enabled && severityLevel cfg.minSeverity ≤ severityLevel call.severity
  | none => true

/-- The key fired less than the cooldown ago; `alert_manager.py:145–152`. -/
def coolingDown (call : FireCall) (now : Rat) : Bool :=
  call.dedupKey ≠ "" && now - (m.lastFire.get? call.dedupKey).getD 0 < m.cooldown

/-- The alert `fire` builds; `alert_manager.py:154–165`. -/
def alertOf (call : FireCall) (now : Rat) (stamp : String) : Alert where
  dedupKey := if call.dedupKey = "" then s!"{call.rule}:{call.title}:{wholeSeconds now}"
    else call.dedupKey
  rule := call.rule
  severity := call.severity
  title := call.title
  message := call.message
  metadata := call.metadata
  status := .firing
  acknowledged := false
  timestamp := stamp
  acknowledgedAt := none
  resolvedAt := none

/-- `fire`; `alert_manager.py:117–177`. -/
def fire (call : FireCall) (now : Rat) (stamp : String) : AlertManager × Option Alert :=
  if !m.passes call then (m, none)
  else if m.coolingDown call now then (m, none)
  else
    let alert := alertOf call now stamp
    ({ m with
        active := m.active.set alert.dedupKey alert
        lastFire := if call.dedupKey = "" then m.lastFire else m.lastFire.set call.dedupKey now
        table := m.table.insert ⟨m.table.nextId, alert⟩ rfl }, some alert)

/-- `query(Alert).filter(dedup_key == key).first()`. -/
def firstRow (key : String) (pick : Nat) : Option AlertRow :=
  let rows := m.table.rows.filter (fun row ↦ row.alert.dedupKey = key)
  rows[pick % rows.length]?

/-- The row of an id after a change of its alert. -/
def writeRow (id : Nat) (f : Alert → Alert) : Table AlertRow AlertRow.id :=
  m.table.modify id (fun row ↦ { row with alert := f row.alert }) (fun _ ↦ rfl)

/-- `acknowledge`; `alert_manager.py:97–115`. -/
def acknowledge (key stamp : String) (pick : Nat) : AlertManager × Bool :=
  let active := match m.active.get? key with
    | some alert => m.active.set key (alert.acknowledge stamp)
    | none => m.active
  match m.firstRow key pick with
  | some row => ({ m with active, table := m.writeRow row.id (Alert.acknowledge stamp) }, true)
  | none => ({ m with active }, m.active.contains key)

/-- `resolve`; `alert_manager.py:179–205`. -/
def resolve (key stamp : String) (pick : Nat) : AlertManager × Bool :=
  let active := m.active.filterKeys (· ≠ key)
  match m.firstRow key pick with
  | some row => ({ m with active, table := m.writeRow row.id (Alert.resolve stamp) }, true)
  | none => ({ m with active }, m.active.contains key)

/-- `get_active_alerts`; `alert_manager.py:229–231`. -/
def getActiveAlerts : List Alert := m.active.entries.map Prod.snd

/-- One call. -/
def step : AlertEvent → AlertManager
  | .fire call now stamp => (m.fire call now stamp).1
  | .acknowledge key stamp pick => (m.acknowledge key stamp pick).1
  | .resolve key stamp pick => (m.resolve key stamp pick).1

/-- The key, as given, and the time of an alert that is fired. -/
def fired : AlertEvent → Option (String × Rat)
  | .fire call now stamp => (m.fire call now stamp).2.map (fun _ ↦ (call.dedupKey, now))
  | _ => none

/-- The alerts fired in a run. -/
def firings (events : List AlertEvent) : List (String × Rat) :=
  (steps step m events).filterMap (fun p ↦ p.1.fired p.2)

/-- Alerts of one non-empty key are the cooldown apart. -/
def Spaced (cooldown : Rat) (firings : List (String × Rat)) : Prop :=
  firings.Pairwise (fun a b ↦ a.1 = b.1 → a.1 ≠ "" → cooldown ≤ |b.2 - a.2|)

/-- After a `resolve` nothing of its key is listed as firing, in memory or in the database. -/
def ResolvedAfter (event : AlertEvent) : Prop :=
  ∀ key stamp pick, event = .resolve key stamp pick →
    (∀ alert ∈ (m.step event).getActiveAlerts, alert.dedupKey = key → alert.status ≠ .firing) ∧
      ∀ row ∈ (m.step event).table.rows, row.alert.dedupKey = key → row.alert.status ≠ .firing

/-- Of the rows with the key of a `resolve` none but the one the query returns is firing. -/
def OneFiring (event : AlertEvent) : Prop :=
  ∀ key stamp pick, event = .resolve key stamp pick →
    ∀ row ∈ m.table.rows, row.alert.dedupKey = key → row.alert.status = .firing →
      m.firstRow key pick = some row

/-- Memory files every alert under its own key. -/
def Keyed : Prop := ∀ key alert, m.active.get? key = some alert → alert.dedupKey = key

variable {m : AlertManager}

/-! ### Resolving -/

/-- The row the query returns is one of those with the key. -/
theorem mem_of_firstRow {key : String} {pick : Nat} {row : AlertRow}
    (h : m.firstRow key pick = some row) : row ∈ m.table.rows ∧ row.alert.dedupKey = key := by
  have hmem := List.mem_of_getElem? h
  exact ⟨List.mem_of_mem_filter hmem, of_decide_eq_true (List.mem_filter.mp hmem).2⟩

/-- The query returns a row when there is one. -/
theorem exists_firstRow {key : String} (pick : Nat) {row : AlertRow} (hrow : row ∈ m.table.rows)
    (hkey : row.alert.dedupKey = key) : ∃ first, m.firstRow key pick = some first := by
  have hmem : row ∈ m.table.rows.filter (fun row ↦ row.alert.dedupKey = key) :=
    List.mem_filter.mpr ⟨hrow, decide_eq_true hkey⟩
  exact ⟨_, List.getElem?_eq_getElem (Nat.mod_lt pick (List.length_pos_of_mem hmem))⟩

/-- The rows after one of them is written. -/
theorem mem_writeRow {id : Nat} {f : Alert → Alert} {row : AlertRow} :
    row ∈ (m.writeRow id f).rows ↔
      ∃ old ∈ m.table.rows,
        row = if old.id = id then { old with alert := f old.alert } else old := by
  simp only [writeRow, Table.modify, Table.rewrite, List.mem_map, eq_comm]

/-- `acknowledge` marks the alert of the key in memory. -/
theorem active_acknowledge (key stamp : String) (pick : Nat) (k : String) :
    (m.acknowledge key stamp pick).1.active.get? k =
      if key = k then (m.active.get? key).map (Alert.acknowledge stamp) else m.active.get? k := by
  have hactive : (m.acknowledge key stamp pick).1.active =
      ((m.active.get? key).map (fun alert ↦ m.active.set key (alert.acknowledge stamp))).getD
        m.active := by
    unfold acknowledge
    dsimp only
    cases m.active.get? key <;> cases m.firstRow key pick <;> rfl
  rw [hactive]
  cases hold : m.active.get? key with
  | none =>
    split
    · next hkey => rw [← hkey, Option.map_none, Option.getD_none, hold, Option.map_none]
    · rfl
  | some alert => rw [Option.map_some, Option.getD_some, Dict.get?_set, Option.map_some]

/-- `resolve` takes the key out of memory. -/
theorem active_resolve (key stamp : String) (pick : Nat) :
    (m.resolve key stamp pick).1.active = m.active.filterKeys (· ≠ key) := by
  unfold resolve
  dsimp only
  split <;> rfl

/-- Memory files alerts under their own key, whatever is called. -/
theorem keyed_step {event : AlertEvent} (h : m.Keyed) : (m.step event).Keyed := by
  intro key alert halert
  cases event with
  | fire call now stamp =>
    simp only [step, fire] at halert
    split at halert
    · exact h key alert halert
    · split at halert
      · exact h key alert halert
      · rw [Dict.get?_set] at halert
        split at halert
        · next hkey =>
          obtain rfl := Option.some.inj halert
          exact hkey
        · exact h key alert halert
  | acknowledge key' stamp pick =>
    have hactive : (m.acknowledge key' stamp pick).1.active.get? key = some alert := halert
    rw [active_acknowledge] at hactive
    split at hactive
    · next hkey =>
      obtain ⟨old, hold, rfl⟩ := Option.map_eq_some_iff.mp hactive
      exact h key old (hkey ▸ hold)
    · exact h key alert hactive
  | resolve key' stamp pick =>
    have hactive : (m.resolve key' stamp pick).1.active.get? key = some alert := halert
    rw [active_resolve, Dict.get?_filterKeys] at hactive
    split at hactive
    · exact h key alert hactive
    · cases hactive

/-- After a `resolve` memory lists no alert of its key. -/
theorem dedupKey_ne_of_resolve (h : m.Keyed) {key stamp : String} {pick : Nat} {alert : Alert}
    (halert : alert ∈ (m.resolve key stamp pick).1.getActiveAlerts) : alert.dedupKey ≠ key := by
  obtain ⟨⟨key', alert'⟩, hentry, rfl⟩ := List.mem_map.mp halert
  rw [active_resolve, Dict.mem_entries_iff, Dict.get?_filterKeys] at hentry
  split at hentry
  · next hkey =>
    rw [h key' alert' hentry]
    exact of_decide_eq_true hkey
  · cases hentry

/-- `resolve` writes the row the query returns. -/
theorem table_resolve (key stamp : String) (pick : Nat) :
    (m.resolve key stamp pick).1.table =
      ((m.firstRow key pick).map fun first ↦ m.writeRow first.id (Alert.resolve stamp)).getD
        m.table := by
  unfold resolve
  dsimp only
  split <;> simp_all

/-- Without a row to return there is none with the key. -/
theorem dedupKey_ne_of_firstRow {key : String} {pick : Nat} (h : m.firstRow key pick = none)
    {row : AlertRow} (hrow : row ∈ m.table.rows) : row.alert.dedupKey ≠ key := by
  intro hkey
  obtain ⟨first, hfirst⟩ := exists_firstRow pick hrow hkey
  rw [h] at hfirst
  cases hfirst

/-- After a `resolve` no row of the key is firing exactly when the returned row alone was. -/
theorem rows_resolve_iff (key stamp : String) (pick : Nat) :
    (∀ row ∈ (m.resolve key stamp pick).1.table.rows,
      row.alert.dedupKey = key → row.alert.status ≠ .firing) ↔
    ∀ row ∈ m.table.rows, row.alert.dedupKey = key → row.alert.status = .firing →
      m.firstRow key pick = some row := by
  rw [table_resolve]
  cases hfirst : m.firstRow key pick with
  | none =>
    have hno : ∀ row ∈ m.table.rows, row.alert.dedupKey ≠ key := fun _ ↦
      dedupKey_ne_of_firstRow hfirst
    exact iff_of_true (fun row hrow hkey ↦ absurd hkey (hno row hrow))
      (fun row hrow hkey ↦ absurd hkey (hno row hrow))
  | some first =>
    have hmem := mem_of_firstRow hfirst
    simp only [Option.map_some, Option.getD_some, mem_writeRow]
    constructor
    · intro hall row hrow hkey hfiring
      by_cases hid : row.id = first.id
      · have hrowfind := Table.find_of_mem hrow
        rw [hid, Table.find_of_mem hmem.1] at hrowfind
        exact hrowfind
      · exact absurd hfiring (hall row ⟨row, hrow, by rw [if_neg hid]⟩ hkey)
    · rintro hone row ⟨old, hold, rfl⟩ hkey
      split at hkey
      · next hid => simp [hid, Alert.resolve]
      · next hid =>
        rw [if_neg hid]
        intro hfiring
        obtain rfl := Option.some.inj (hone old hold hkey hfiring)
        exact hid rfl

/-- After a `resolve` nothing of the key is firing exactly when nothing but the written row was. -/
theorem resolvedAfter_iff {event : AlertEvent} (h : m.Keyed) :
    m.ResolvedAfter event ↔ m.OneFiring event := by
  refine forall_congr' fun key ↦ forall_congr' fun stamp ↦ forall_congr' fun pick ↦
    imp_congr_right fun hevent ↦ ?_
  subst hevent
  have hmemory : ∀ alert ∈ (m.step (.resolve key stamp pick)).getActiveAlerts,
      alert.dedupKey = key → alert.status ≠ .firing := fun alert halert hkey ↦
    absurd hkey (dedupKey_ne_of_resolve h halert)
  rw [and_iff_right hmemory]
  exact rows_resolve_iff key stamp pick

/-! ### The cooldown -/

/-- The two outcomes of `fire` for the cooldown: nothing, or an alert of a key that had not fired
for the cooldown. -/
theorem fire_cases (call : FireCall) (now : Rat) (stamp : String) :
    ((m.fire call now stamp).2 = none ∧ (m.fire call now stamp).1 = m) ∨
    ((m.fire call now stamp).2.isSome ∧ (call.dedupKey = "" ∨
        (m.fire call now stamp).1.lastFire = m.lastFire.set call.dedupKey now ∧
          m.cooldown ≤ now - (m.lastFire.get? call.dedupKey).getD 0) ∧
      (call.dedupKey = "" → (m.fire call now stamp).1.lastFire = m.lastFire)) := by
  unfold fire
  split
  · exact .inl ⟨rfl, rfl⟩
  · split
    · exact .inl ⟨rfl, rfl⟩
    · next hcooled =>
      by_cases hempty : call.dedupKey = ""
      · exact .inr ⟨rfl, .inl hempty, fun _ ↦ by simp [hempty]⟩
      · refine .inr ⟨rfl, .inr ⟨by simp [hempty], ?_⟩, fun h ↦ absurd h hempty⟩
        simpa [coolingDown, hempty] using hcooled

/-- The cooldown is never changed by a call. -/
theorem cooldown_step (event : AlertEvent) : (m.step event).cooldown = m.cooldown := by
  cases event with
  | fire call now stamp =>
    simp only [step, fire]
    split
    · rfl
    · split <;> rfl
  | acknowledge key stamp pick =>
    simp only [step, acknowledge]
    split <;> rfl
  | resolve key stamp pick =>
    simp only [step, resolve]
    split <;> rfl

/-- What a call adds to the firings, and what it does to the time a key fired last. -/
theorem fired_cases (event : AlertEvent) (key : String) (hkey : key ≠ "") :
    (m.fired event).all (fun f ↦ f.1 ≠ key) ∧
      (m.step event).lastFire.get? key = m.lastFire.get? key ∨
    ∃ now, m.fired event = some (key, now) ∧ (m.step event).lastFire.get? key = some now ∧
      m.cooldown ≤ now - (m.lastFire.get? key).getD 0 := by
  cases event with
  | fire call now stamp =>
    simp only [fired, step]
    rcases m.fire_cases call now stamp with ⟨hnone, hsame⟩ | ⟨hsome, hlast, hempty⟩
    · exact .inl (by simp [hnone, hsame])
    · obtain ⟨alert, halert⟩ := Option.isSome_iff_exists.mp hsome
      rw [halert]
      by_cases hcall : call.dedupKey = key
      · obtain ⟨hset, hcooled⟩ := hlast.resolve_left (hcall ▸ hkey)
        rw [hcall] at hset hcooled
        exact .inr ⟨now, by simp [hcall], by rw [hset, Dict.get?_set_self], hcooled⟩
      · refine .inl ⟨by simp [hcall], ?_⟩
        rcases hlast with h | ⟨hset, -⟩
        · rw [hempty h]
        · rw [hset, Dict.get?_set, if_neg hcall]
  | acknowledge key' stamp pick =>
    refine .inl ⟨rfl, ?_⟩
    simp only [step, acknowledge]
    split <;> rfl
  | resolve key' stamp pick =>
    refine .inl ⟨rfl, ?_⟩
    simp only [step, resolve]
    split <;> rfl

/-- A key that fired fires again no earlier than after the cooldown. -/
theorem le_of_mem_firings {key : String} {last : Rat} (hkey : key ≠ "")
    (hcooldown : 0 ≤ m.cooldown) (hlast : m.lastFire.get? key = some last)
    (events : List AlertEvent) :
    ∀ f ∈ m.firings events, f.1 = key → last + m.cooldown ≤ f.2 := by
  induction events generalizing m last with
  | nil => simp [firings, steps]
  | cons event rest ih =>
    have hconst := m.cooldown_step event
    have hrest : ∀ last', (m.step event).lastFire.get? key = some last' → last ≤ last' →
        ∀ f ∈ (m.step event).firings rest, f.1 = key → last + m.cooldown ≤ f.2 := by
      intro last' hlast' hle f hf hfkey
      have hlater := ih (by rw [hconst]; exact hcooldown) hlast' f hf hfkey
      rw [hconst] at hlater
      linarith
    intro f hf hfkey
    simp only [firings, steps, List.filterMap_cons] at hf
    rcases m.fired_cases event key hkey with ⟨hother, hsame⟩ | ⟨now, hfired, hnow, hcooled⟩
    · cases hevent : m.fired event with
      | none =>
        rw [hevent] at hf
        exact hrest last (hsame.trans hlast) le_rfl f hf hfkey
      | some first =>
        rw [hevent] at hf hother
        rcases List.mem_cons.mp hf with rfl | hf
        · exact absurd hfkey (by simpa using hother)
        · exact hrest last (hsame.trans hlast) le_rfl f hf hfkey
    · rw [hlast, Option.getD_some] at hcooled
      rw [hfired] at hf
      rcases List.mem_cons.mp hf with rfl | hf
      · linarith
      · exact hrest now hnow (by linarith) f hf hfkey

variable (m) in
/-- Alerts of one non-empty key are the cooldown apart. -/
theorem spaced_firings (events : List AlertEvent) : Spaced m.cooldown (m.firings events) := by
  rcases lt_or_ge m.cooldown 0 with hneg | hpos
  · exact List.pairwise_of_forall fun a b _ _ ↦ (le_of_lt hneg).trans (abs_nonneg _)
  · induction events generalizing m with
    | nil => exact List.Pairwise.nil
    | cons event rest ih =>
      have hconst := m.cooldown_step event
      have hrest := ih (m.step event) (by rw [hconst]; exact hpos)
      rw [hconst] at hrest
      simp only [firings, steps, List.filterMap_cons]
      cases hevent : m.fired event with
      | none => exact hrest
      | some first =>
        refine List.pairwise_cons.mpr ⟨fun later hlater hsame hne ↦ ?_, hrest⟩
        rcases m.fired_cases event first.1 hne with ⟨hother, -⟩ | ⟨now, hfired, hnow, -⟩
        · rw [hevent] at hother
          simp at hother
        · rw [hevent] at hfired
          have htime : first.2 = now := congrArg Prod.snd (Option.some.inj hfired)
          have hle := le_of_mem_firings hne (by rw [hconst]; exact hpos) hnow rest later hlater
            hsame.symm
          rw [hconst] at hle
          have hapart : m.cooldown ≤ later.2 - first.2 := by linarith
          exact hapart.trans (le_abs_self _)

/-- In every run over any table, alerts of one non-empty key are the cooldown apart; and every
`resolve` leaves nothing of its key firing if and only if, at every `resolve`, no row of the key
but the one the query returns is firing. -/
theorem resolved_and_spaced_iff (rules : Dict String RuleConfig) (cooldown : Rat)
    (table : Table AlertRow AlertRow.id) (events : List AlertEvent) :
    ((∀ p ∈ steps step (fresh rules cooldown table) events, p.1.ResolvedAfter p.2) ∧
      Spaced cooldown ((fresh rules cooldown table).firings events)) ↔
      ∀ p ∈ steps step (fresh rules cooldown table) events, p.1.OneFiring p.2 := by
  have hkeyed : (fresh rules cooldown table).Keyed := fun _ _ h ↦ absurd h (by simp [fresh])
  have hspaced : Spaced cooldown ((fresh rules cooldown table).firings events) :=
    spaced_firings (fresh rules cooldown table) events
  rw [and_iff_left hspaced]
  have hsafe : ∀ (m : AlertManager) (event : AlertEvent), m.Keyed → True →
      (m.ResolvedAfter event ↔ m.OneFiring event) := fun _ _ h _ ↦ resolvedAfter_iff h
  exact steps_safe_iff hsafe (fun _ _ h _ _ ↦ keyed_step h) _ events hkeyed (fun _ _ ↦ trivial)

/-- A firing of one key. -/
def budgetCall : FireCall :=
  ⟨"budget_breach", "warning", "Budget at 80%", "80% spent", "budget:1:t80", .null⟩

/-- Fired, resolved, fired again after the cooldown and resolved again: the row of the second
firing stays. -/
theorem second_firing_never_resolved :
    let before := run step (fresh Dict.empty 300 Table.empty)
      [.fire budgetCall 1000 "t1", .resolve "budget:1:t80" "t2" 0, .fire budgetCall 2000 "t3"]
    ¬before.ResolvedAfter (.resolve "budget:1:t80" "t4" 0) := by
  intro before hall
  have hrows : (before.step (.resolve "budget:1:t80" "t4" 0)).table.rows.map
      (fun row ↦ (row.alert.dedupKey, row.alert.status)) =
        [("budget:1:t80", .resolved), ("budget:1:t80", .firing)] := by decide +kernel
  have hmem : ("budget:1:t80", AlertStatus.firing) ∈
      (before.step (.resolve "budget:1:t80" "t4" 0)).table.rows.map
        (fun row ↦ (row.alert.dedupKey, row.alert.status)) := by
    rw [hrows]
    exact List.mem_cons_of_mem _ List.mem_cons_self
  obtain ⟨row, hrow, hpair⟩ := List.mem_map.mp hmem
  obtain ⟨hkey, hstatus⟩ := Prod.mk.inj hpair
  exact (hall "budget:1:t80" "t4" 0 rfl).2 row hrow hkey hstatus

end AlertManager
end LcpGateway.Alerts
