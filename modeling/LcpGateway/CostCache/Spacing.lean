import LcpGateway.CostCache.Pass

/-!
# The spacing of scrapes

Library `CostCache`. Source `src/api/cost_cache.py:610–660,698–711`. The steps of the refresher in
the order of their times, with the start of every scrape. The throttle compares the start of a pass
with the start of the pass that scraped the key before; what that pass had spent on other keys
before it came to the key is missing from the distance.
-/

namespace LcpGateway.CostCache
open LcpGateway.Base

/-- A call or a step of the pass, without the clock that it reads. -/
inductive Move where
  | request (provider : Option String) (kind : Option Kind)
  | invalidate (provider : Option String) (kind : Option Kind)
  | start
  | visit (ttl : Rat)
  | gate
  | finish (outcome : Outcome) (stamp ttl jitter : Rat)

/-- The event of a move at its time: every `time.time()` in it gives this time. -/
def Move.event (time : Rat) : Move → RefreshEvent
  | .request provider kind => .request provider kind
  | .invalidate provider kind => .invalidate provider kind
  | .start => .start time
  | .visit ttl => .visit ttl time
  | .gate => .gate
  | .finish outcome stamp ttl jitter => .finish outcome ⟨time, stamp, ttl, jitter⟩

namespace Refresher

/-- The key that a step lets through the throttle check. -/
def letsThrough (s : Refresher) : RefreshEvent → Option Key
  | .visit ttl clock => s.atVisit.bind fun q ↦ q.2.head?.filter fun key ↦
      !s.skips q.1 key ttl clock && !s.throttled q.1.now key
  | _ => none

variable {s s' : Refresher} {e : RefreshEvent} {key : Key} {p : Pass}

/-- A step that starts a scrape is the gate of its key, past the key's backoff. -/
theorem mem_started_iff : key ∈ s.started e ↔
    e = .gate ∧ ∃ p, s.pass = some p ∧ p.stage = .gate key ∧ s.heldBack p.now key = false := by
  cases e with
  | gate =>
    rw [started, eq_self, true_and]
    cases hgate : s.atGate with
    | none =>
      have hnone : ¬ ∃ p, s.pass = some p ∧ p.stage = .gate key ∧ s.heldBack p.now key = false := by
        rintro ⟨p, hpass, hstage, -⟩
        rw [atGate_eq_some_iff.mpr ⟨hpass, hstage⟩] at hgate
        cases hgate
      exact iff_of_false (Finset.notMem_empty key) hnone
    | some q =>
      obtain ⟨hpass, hstage⟩ := atGate_eq_some_iff.mp (show s.atGate = some (q.1, q.2) from hgate)
      rw [Option.elim_some]
      constructor
      · intro h
        split at h
        · exact absurd h (Finset.notMem_empty key)
        · next hfree =>
          obtain rfl := Finset.mem_singleton.mp h
          exact ⟨q.1, hpass, hstage, Bool.eq_false_iff.mpr hfree⟩
      · rintro ⟨p, hp, hstage', hfree⟩
        obtain rfl := Option.some.inj (hpass.symm.trans hp)
        obtain rfl := Stage.gate.inj (hstage.symm.trans hstage')
        rw [if_neg (by rw [hfree]; exact Bool.false_ne_true)]
        exact Finset.mem_singleton_self _
  | _ =>
    refine iff_of_false (Finset.notMem_empty key) ?_
    rintro ⟨h, -⟩
    cases h

/-- The throttle is never written. -/
theorem Transition.throttle (h : s.Transition e s') : s'.throttle = s.throttle := by
  cases h with
  | record => exact throttle_record _ _
  | _ => rfl

/-- A pass keeps its start; one that begins takes it from the clock. -/
theorem Transition.now (h : s.Transition e s') (hpass : s'.pass = some p) :
    (∃ q, s.pass = some q ∧ q.now = p.now) ∨ e = .start p.now := by
  cases h with
  | request | invalidate | idle => exact .inl ⟨p, hpass, rfl⟩
  | start now =>
    obtain rfl := Option.some.inj hpass
    exact .inr rfl
  | close => cases hpass
  | skip ttl clock q k rest hq | defer ttl clock q k rest hq | pick ttl clock q k rest hq =>
    obtain rfl := Option.some.inj hpass
    exact .inl ⟨q, hq, rfl⟩
  | hold q k hq | scrape q k hq =>
    obtain rfl := Option.some.inj hpass
    exact .inl ⟨q, hq, rfl⟩
  | record outcome moment q k hq =>
    obtain rfl := Option.some.inj hpass
    exact .inl ⟨q, hq, rfl⟩

/-- A throttle check starts no scrape. -/
theorem not_mem_started_of_letsThrough {k : Key} (h : s.letsThrough e = some k) :
    key ∉ s.started e := by
  intro hkey
  obtain ⟨rfl, -⟩ := mem_started_iff.mp hkey
  cases h

/-- The key that is let through stands in front of its gate. -/
theorem stage_of_letsThrough (h : s.letsThrough e = some key) :
    ∃ p, (s.step e).pass = some p ∧ p.stage = .gate key := by
  cases e with
  | visit ttl clock =>
    obtain ⟨⟨q, rest⟩, hvisit, hhead⟩ := Option.bind_eq_some_iff.mp h
    obtain ⟨hhead, hchecks⟩ := Option.filter_eq_some_iff.mp hhead
    obtain ⟨later, rfl⟩ := List.head?_eq_some_iff.mp hhead
    obtain ⟨hskips, hfree⟩ : s.skips q key ttl clock = false ∧ s.throttled q.now key = false := by
      simpa using hchecks
    refine ⟨{ q with rest := later, stage := .gate key }, ?_, rfl⟩
    rw [step, hvisit]
    simp [visit, hskips, hfree]
  | _ => cases h

/-- The checks bring a key in front of its gate that they let through. -/
theorem gate_of_visit {q : Pass} {k : Key} {rest : List Key} {ttl clock : Rat}
    (hbetween : q.stage = .between) (hpass : (s.visit q k rest ttl clock).pass = some p)
    (hstage : p.stage = .gate key) :
    k = key ∧ s.skips q k ttl clock = false ∧ s.throttled q.now k = false := by
  unfold visit at hpass
  split at hpass
  · obtain rfl := Option.some.inj hpass
    cases hbetween.symm.trans hstage
  · next hskips =>
    split at hpass
    · obtain rfl := Option.some.inj hpass
      cases hbetween.symm.trans hstage
    · next hfree =>
      obtain rfl := Option.some.inj hpass
      exact ⟨Stage.gate.inj hstage, Bool.eq_false_iff.mpr hskips, Bool.eq_false_iff.mpr hfree⟩

/-- In front of a gate stands the key that was there before, or that the step let through. -/
theorem gate_of_step (hpass : (s.step e).pass = some p) (hstage : p.stage = .gate key) :
    (s.pass = some p ∧ key ∉ s.started e) ∨ s.letsThrough e = some key := by
  have hkept (hp : s.pass = some p) (hgate : e ≠ .gate) :
      (s.pass = some p ∧ key ∉ s.started e) ∨ s.letsThrough e = some key :=
    .inl ⟨hp, fun h ↦ hgate (mem_started_iff.mp h).1⟩
  cases e with
  | request => exact hkept hpass (by rintro ⟨⟩)
  | invalidate => exact hkept hpass (by rintro ⟨⟩)
  | start now =>
    rw [step] at hpass
    split at hpass
    · obtain rfl := Option.some.inj hpass
      cases hstage
    · exact hkept hpass (by rintro ⟨⟩)
  | visit ttl clock =>
    rw [step] at hpass
    split at hpass
    · next q k rest hvisit =>
      obtain ⟨-, hbetween, -⟩ := atVisit_eq_some_iff.mp hvisit
      obtain ⟨rfl, hskips, hfree⟩ := gate_of_visit hbetween hpass hstage
      refine .inr ?_
      rw [letsThrough, hvisit, Option.bind_some, List.head?_cons, Option.filter_some, hskips, hfree]
      rfl
    · cases hpass
    · exact hkept hpass (by rintro ⟨⟩)
  | gate =>
    rw [step] at hpass
    split at hpass
    · next q k hgate =>
      unfold checkGate at hpass
      split at hpass
      · obtain rfl := Option.some.inj hpass
        cases hstage
      · obtain rfl := Option.some.inj hpass
        cases hstage
    · next hnone =>
      rw [atGate_eq_some_iff.mpr ⟨hpass, hstage⟩] at hnone
      cases hnone
  | finish outcome moment =>
    rw [step] at hpass
    split at hpass
    · obtain rfl := Option.some.inj hpass
      cases hstage
    · exact hkept hpass (by rintro ⟨⟩)

end Refresher

/-- The refresher, and the starts of the scrapes of each key, the last one first. -/
structure Timeline where
  state : Refresher
  scrapes : Key → List Rat

namespace Timeline

/-- Before the first step. -/
def init (s : Refresher) : Timeline := ⟨s, fun _ ↦ []⟩

/-- A move at its time. -/
def step (l : Timeline) (m : Rat × Move) : Timeline where
  state := l.state.step (m.2.event m.1)
  scrapes := fun key ↦
    if key ∈ l.state.started (m.2.event m.1) then m.1 :: l.scrapes key else l.scrapes key

/-- The moves of a history with the timelines in front of them. -/
def moves (s : Refresher) (history : List (Rat × Move)) : List (Timeline × (Rat × Move)) :=
  steps step (init s) history

/-- The times of a history do not fall. -/
def InOrder (history : List (Rat × Move)) : Prop :=
  history.Pairwise fun m later ↦ m.1 ≤ later.1

instance (history : List (Rat × Move)) : Decidable (InOrder history) := by
  unfold InOrder
  infer_instance

/-- A scrape that starts does so at least the throttle after every earlier one of its key. -/
def Spaced (l : Timeline) (m : Rat × Move) : Prop :=
  ∀ key ∈ l.state.started (m.2.event m.1), ∀ earlier ∈ l.scrapes key,
    l.state.throttle ≤ m.1 - earlier

/-- No scrape starts while the clock is before the next attempt at its key. -/
def PastBackoff (l : Timeline) (m : Rat × Move) : Prop :=
  ∀ key ∈ l.state.started (m.2.event m.1), ¬ m.1 < (l.state.nextAttempt.get? key).getD 0

/-- A key that the throttle check lets through was scraped no less than the throttle ago. -/
def CheckedByClock (l : Timeline) (m : Rat × Move) : Prop :=
  ∀ key ∈ l.state.letsThrough (m.2.event m.1), ∀ earlier ∈ l.scrapes key,
    l.state.throttle ≤ m.1 - earlier

instance (l : Timeline) (m : Rat × Move) : Decidable (l.Spaced m) := by
  unfold Spaced
  infer_instance

instance (l : Timeline) (m : Rat × Move) : Decidable (l.CheckedByClock m) := by
  unfold CheckedByClock
  infer_instance

/-- The pass under way began no later than the time. -/
def NotAhead (time : Rat) (l : Timeline) : Prop := ∀ p, l.state.pass = some p → p.now ≤ time

/-- Nor was the key in front of its gate scraped less than the throttle before the time. -/
structure Steady (time : Rat) (l : Timeline) : Prop where
  notAhead : NotAhead time l
  spaced : ∀ p key, l.state.pass = some p → p.stage = .gate key → ∀ earlier ∈ l.scrapes key,
    l.state.throttle ≤ time - earlier

variable {l : Timeline} {m : Rat × Move}

/-- A move that does not start the key's scrape adds none. -/
theorem scrapes_step {key : Key} (h : key ∉ l.state.started (m.2.event m.1)) :
    (l.step m).scrapes key = l.scrapes key := if_neg h

/-- A pass begins at the time of its move. -/
theorem eq_of_event_start {now : Rat} (h : m.2.event m.1 = .start now) : m.1 = now := by
  obtain ⟨time, move⟩ := m
  cases move with
  | start => exact RefreshEvent.start.inj h
  | _ => cases h

/-- No pass gets ahead of the clock. -/
theorem NotAhead.step {later : Rat} (h : NotAhead m.1 l) (hlater : m.1 ≤ later) :
    NotAhead later (l.step m) := by
  intro p hpass
  obtain ⟨q, hq, hnow⟩ | hstart := (l.state.transition (m.2.event m.1)).now hpass
  · rw [← hnow]
    exact (h q hq).trans hlater
  · rw [← eq_of_event_start hstart]
    exact hlater

/-- A scrape starts past the backoff of its key when its pass is not ahead of the clock. -/
theorem NotAhead.pastBackoff (h : NotAhead m.1 l) : l.PastBackoff m := by
  intro key hkey
  obtain ⟨-, p, hpass, -, hfree⟩ := Refresher.mem_started_iff.mp hkey
  have hpast : ¬ p.now < (l.state.nextAttempt.get? key).getD 0 := by
    simpa [Refresher.heldBack] using hfree
  exact fun hlt ↦ hpast ((h p hpass).trans_lt hlt)

/-- A scrape that starts is spaced where the key in front of the gate is. -/
theorem Steady.spaced_step (h : Steady m.1 l) : l.Spaced m := by
  intro key hkey
  obtain ⟨-, p, hpass, hstage, -⟩ := Refresher.mem_started_iff.mp hkey
  exact h.spaced p key hpass hstage

/-- A move whose throttle check agrees with the clock keeps the timeline steady. -/
theorem Steady.step {later : Rat} (h : Steady m.1 l) (hcheck : l.CheckedByClock m)
    (hlater : m.1 ≤ later) : Steady later (l.step m) := by
  refine ⟨h.notAhead.step hlater, fun p key hpass hstage earlier hearlier ↦ ?_⟩
  rw [show (l.step m).state.throttle = l.state.throttle from
    (l.state.transition (m.2.event m.1)).throttle]
  have hbefore : l.state.throttle ≤ m.1 - earlier := by
    obtain ⟨hp, hnot⟩ | hlets := Refresher.gate_of_step hpass hstage
    · rw [scrapes_step hnot] at hearlier
      exact h.spaced p key hp hstage earlier hearlier
    · rw [scrapes_step (Refresher.not_mem_started_of_letsThrough hlets)] at hearlier
      exact hcheck key hlets earlier hearlier
  linarith

/-- A throttle check that does not agree with the clock, and the gate at once behind it: what
starts there is not spaced. -/
theorem not_spaced_of_not_checkedByClock (hcheck : ¬ l.CheckedByClock m)
    (hgate : ((l.step m).state.started .gate).Nonempty) : ¬ (l.step m).Spaced (m.1, .gate) := by
  unfold CheckedByClock at hcheck
  push Not at hcheck
  obtain ⟨key, hlets, earlier, hearlier, hshort⟩ := hcheck
  obtain ⟨p, hpass, hstage⟩ := Refresher.stage_of_letsThrough hlets
  obtain ⟨k, hk⟩ := hgate
  -- the key in front of the gate is the one that was let through
  obtain ⟨-, q, hq, hk', -⟩ := Refresher.mem_started_iff.mp hk
  obtain rfl := Option.some.inj (hpass.symm.trans hq)
  obtain rfl := Stage.gate.inj (hstage.symm.trans hk')
  intro h
  refine absurd (h key hk earlier ?_) ?_
  · rw [scrapes_step (Refresher.not_mem_started_of_letsThrough hlets)]
    exact hearlier
  · rw [show (l.step m).state.throttle = l.state.throttle from
      (l.state.transition (m.2.event m.1)).throttle]
    exact not_le.mpr hshort

end Timeline

/-- One plugin that fetches both kinds. -/
def bothKinds : Refresher :=
  .fresh ⟨Dict.empty.set "deepseek" (fun _ ↦ true)⟩ 10 60 1800 Dict.empty

/-- A pass begins at 100, is held up for eight seconds by the first kind and scrapes the second one
at 108. The second kind is asked for, and another pass begins. -/
def slowFirstKind (again : Rat) : List (Rat × Move) :=
  [(100, .start), (100, .visit 1800), (100, .gate),
    (108, .finish (.returned (.obj [("plan", .str "pro")])) 108 1800 0),
    (108, .visit 1800), (108, .gate),
    (109, .finish (.returned (.obj [("total", .int 5)])) 109 1800 0), (109, .visit 1800),
    (109, .request (some "deepseek") (some .balance)),
    (again, .start), (again, .visit 1800), (again, .visit 1800), (again, .gate)]

end LcpGateway.CostCache
