import LcpGateway.Base.Run
import Mathlib.Data.List.Perm.Basic
import Mathlib.Logic.Function.Basic

/-!
# Interleaved two-step calls

Library `Base`. A call that reads a store and later commits a change computed from what it
read, with other calls in between. An interleaving keeps the two steps of every call in
order. The rule for runs: when a guard at every commit fixes what the commit does to an
observation of the store, the calls took effect one after another, in the order of their commits.
-/

namespace LcpGateway.Base

universe u

/-- A list made of two lists, the order of each kept. -/
inductive Shuffle {α : Type u} : List α → List α → List α → Prop where
  | nil : Shuffle [] [] []
  | left {x : α} {xs ys zs : List α} : Shuffle xs ys zs → Shuffle (x :: xs) ys (x :: zs)
  | right {y : α} {xs ys zs : List α} : Shuffle xs ys zs → Shuffle xs (y :: ys) (y :: zs)

/-- A shuffle has the members of its two lists. -/
theorem Shuffle.perm {α : Type u} {xs ys zs : List α} (h : Shuffle xs ys zs) :
    zs.Perm (xs ++ ys) := by
  induction h with
  | nil => exact List.Perm.refl _
  | left _ ih => exact ih.cons _
  | right _ ih => exact (ih.cons _).trans List.perm_middle.symm

/-- One of the two steps of a call. -/
inductive Phase (ι : Type) where
  | read (i : ι)
  | commit (i : ι)
  deriving DecidableEq, Repr

/-- The steps of some calls in an order that keeps the steps of each. -/
inductive Interleaving {ι : Type} : List ι → List (Phase ι) → Prop where
  | nil : Interleaving [] []
  | cons {i : ι} {calls : List ι} {events events' : List (Phase ι)} :
      Interleaving calls events → Shuffle [.read i, .commit i] events events' →
      Interleaving (i :: calls) events'

/-- The calls in the order of their commits. -/
def commitOrder {ι : Type} (events : List (Phase ι)) : List ι :=
  events.filterMap (fun event ↦
    match event with
    | .read _ => none
    | .commit i => some i)

/-- A commit comes before the commits that follow it. -/
@[simp] theorem commitOrder_commit {ι : Type} (i : ι) (events : List (Phase ι)) :
    commitOrder (.commit i :: events) = i :: commitOrder events := rfl

/-- Every call commits once. -/
theorem Interleaving.commitOrder_perm {ι : Type} {calls : List ι} {events : List (Phase ι)}
    (h : Interleaving calls events) : (commitOrder events).Perm calls := by
  induction h with
  | nil => exact List.Perm.refl _
  | cons _ hshuffle ih => exact (hshuffle.perm.filterMap _).trans (ih.cons _)

/-- The steps of two calls, one call after the other. -/
def serial {ι : Type} (i j : ι) : List (Phase ι) := [.read i, .commit i, .read j, .commit j]

/-- Two calls run one after the other, or both read before one commits. -/
theorem Interleaving.pair_cases {ι : Type} {i j : ι} {events : List (Phase ι)}
    (h : Interleaving [i, j] events) :
    (events = serial i j ∨ events = serial j i) ∨
      ∃ reads commits, events = reads ++ commits ∧
        (reads = [.read i, .read j] ∨ reads = [.read j, .read i]) ∧
        (commits = [.commit i, .commit j] ∨ commits = [.commit j, .commit i]) := by
  obtain _ | ⟨hj, hshuffle⟩ := h
  obtain _ | ⟨hnil, hj⟩ := hj
  cases hnil
  cases hj with
  | left hj =>
    cases hj with
    | left hj =>
      cases hj
      cases hshuffle with
      | left h =>
        cases h with
        | left h =>
          cases h with
          | right h =>
            cases h with
            | right h => cases h; exact .inl (.inl rfl)
        | right h =>
          cases h with
          | left h =>
            cases h with
            | right h => cases h; exact .inr ⟨_, _, rfl, .inl rfl, .inl rfl⟩
          | right h =>
            cases h with
            | left h => cases h; exact .inr ⟨_, _, rfl, .inl rfl, .inr rfl⟩
      | right h =>
        cases h with
        | left h =>
          cases h with
          | left h =>
            cases h with
            | right h => cases h; exact .inr ⟨_, _, rfl, .inr rfl, .inl rfl⟩
          | right h =>
            cases h with
            | left h => cases h; exact .inr ⟨_, _, rfl, .inr rfl, .inr rfl⟩
        | right h =>
          cases h with
          | left h =>
            cases h with
            | left h => cases h; exact .inl (.inr rfl)

/-- Calls of two steps: what a call reads, and the store it leaves when it commits with what
it has read. -/
structure TwoStep (ι σ ρ : Type) where
  read : ι → σ → ρ
  commit : ι → ρ → σ → σ

/-- A store with what the calls have read so far. -/
structure InFlight (ι σ ρ : Type) where
  store : σ
  seen : ι → Option ρ

/-- No call has started. -/
def InFlight.start {ι σ ρ : Type} (store : σ) : InFlight ι σ ρ := ⟨store, fun _ ↦ none⟩

namespace TwoStep

variable {ι σ ρ : Type} [DecidableEq ι] (T : TwoStep ι σ ρ)

/-- One step of one call; a commit without a read changes nothing. -/
def step (c : InFlight ι σ ρ) : Phase ι → InFlight ι σ ρ
  | .read i => ⟨c.store, Function.update c.seen i (some (T.read i c.store))⟩
  | .commit i =>
    match c.seen i with
    | some r => ⟨T.commit i r c.store, c.seen⟩
    | none => c

/-- A call whose two steps follow each other. -/
def atomic (s : σ) (i : ι) : σ := T.commit i (T.read i s) s

/-- Observed run: when every commit meets a guard under which it has one known effect on what is
observed of the store, a run has these effects in the order of its commits. -/
theorem observe_run {τ : Type} (obs : σ → τ) (effect : τ → ι → τ) {Inv : InFlight ι σ ρ → Prop}
    {Guard : InFlight ι σ ρ → ι → Prop} (hkeep : ∀ c event, Inv c → Inv (T.step c event))
    (hcommit : ∀ c i, Inv c → Guard c i →
      obs (T.step c (.commit i)).store = effect (obs c.store) i)
    (c : InFlight ι σ ρ) (events : List (Phase ι)) (hc : Inv c)
    (h : ∀ p ∈ steps T.step c events, ∀ i, p.2 = .commit i → Guard p.1 i) :
    obs (run T.step c events).store = (commitOrder events).foldl effect (obs c.store) := by
  induction events generalizing c with
  | nil => rfl
  | cons event rest ih =>
    rw [steps, List.forall_mem_cons] at h
    rw [run, ih _ (hkeep c event hc) h.2]
    cases event with
    | read i => rfl
    | commit i => rw [hcommit c i hc (h.1 i rfl), commitOrder_commit, List.foldl_cons]

variable {T} {i j : ι}

/-- Two calls that run one after the other. -/
theorem run_serial (hij : i ≠ j) (s : σ) :
    (run T.step (.start s) (serial i j)).store = T.atomic (T.atomic s i) j ∧
      (run T.step (.start s) (serial i j)).seen i = some (T.read i s) ∧
      (run T.step (.start s) (serial i j)).seen j = some (T.read j (T.atomic s i)) := by
  simp [run, serial, step, InFlight.start, atomic, hij]

/-- Two calls that both read before one of them commits. -/
theorem run_overlapping (hij : i ≠ j) (s : σ) {reads : List (Phase ι)}
    (hreads : reads = [.read i, .read j] ∨ reads = [.read j, .read i]) :
    (run T.step (.start s) (reads ++ [.commit i, .commit j])).store =
        T.commit j (T.read j s) (T.commit i (T.read i s) s) ∧
      (run T.step (.start s) (reads ++ [.commit i, .commit j])).seen i = some (T.read i s) ∧
      (run T.step (.start s) (reads ++ [.commit i, .commit j])).seen j = some (T.read j s) := by
  rcases hreads with rfl | rfl
  · simp [run, step, InFlight.start, hij]
  · simp [run, step, InFlight.start, Ne.symm hij]

end TwoStep
end LcpGateway.Base
