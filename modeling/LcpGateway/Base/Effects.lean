/-!
# Handlers that may stop

Library `Base`. A handler changes a state and may stop at any point; what it has changed by then
stays. `bind_eq_ok` takes a run that went through apart, one step at a time; `Frames` says what a
run leaves alone whether it goes through or stops, `StopFrames` what it leaves alone when it stops.
-/

namespace LcpGateway.Base

universe u

variable {ε σ α β : Type u} {s t : σ}

/-- The state a run ends in. -/
def endState : EStateM.Result ε σ α → σ
  | .ok _ t => t
  | .error _ t => t

/-- The run went through. -/
def wentThrough : EStateM.Result ε σ α → Bool
  | .ok _ _ => true
  | .error _ _ => false

/-- The value, or a stop. -/
def orStop (e : ε) : Option α → EStateM ε σ α
  | some a => pure a
  | none => throw e

/-- A stop when the condition holds. -/
def stopIf (e : ε) (c : Bool) : EStateM ε σ PUnit := if c then throw e else pure ⟨⟩

/-- A loop that changes items in place: the first one that stops it may be changed in part, the
ones behind it are left as they were. -/
def updateEach (f : α → α × Bool) : List α → List α × Bool
  | [] => ([], true)
  | x :: rest =>
    if (f x).2 then ((f x).1 :: (updateEach f rest).1, (updateEach f rest).2)
    else ((f x).1 :: rest, false)

/-- A run that went through, with the state it ends in. -/
theorem eq_ok_of_wentThrough {r : EStateM.Result ε σ PUnit} (h : wentThrough r = true) :
    r = .ok ⟨⟩ (endState r) := by
  cases r with
  | ok a t => rfl
  | error e t => exact nomatch h

/-- A run that goes through is a run of the first part and one of the second. -/
theorem bind_eq_ok {x : EStateM ε σ α} {f : α → EStateM ε σ β} {b : β} :
    (x >>= f) s = .ok b t ↔ ∃ a u, x s = .ok a u ∧ f a u = .ok b t := by
  change EStateM.bind x f s = .ok b t ↔ _
  unfold EStateM.bind
  cases x s with
  | ok a u =>
    constructor
    · exact fun h ↦ ⟨a, u, rfl, h⟩
    · rintro ⟨a', u', h, hf⟩
      obtain ⟨rfl, rfl⟩ := EStateM.Result.ok.inj h
      exact hf
  | error e u =>
    constructor
    · exact fun h ↦ nomatch h
    · rintro ⟨a', u', h, -⟩
      exact nomatch h

/-- A result changes nothing. -/
theorem pure_eq_ok {a b : α} : (pure a : EStateM ε σ α) s = .ok b t ↔ b = a ∧ t = s := by
  change EStateM.Result.ok a s = .ok b t ↔ _
  rw [EStateM.Result.ok.injEq]
  exact and_congr eq_comm eq_comm

/-- Reading the state changes nothing. -/
theorem get_eq_ok {a : σ} : (get : EStateM ε σ σ) s = .ok a t ↔ a = s ∧ t = s := by
  change EStateM.Result.ok s s = .ok a t ↔ _
  rw [EStateM.Result.ok.injEq]
  exact and_congr eq_comm eq_comm

/-- A change of the state. -/
theorem modify_eq_ok {f : σ → σ} {a : PUnit} :
    (modify f : EStateM ε σ PUnit) s = .ok a t ↔ t = f s := by
  change EStateM.Result.ok ⟨⟩ (f s) = .ok a t ↔ _
  rw [EStateM.Result.ok.injEq]
  exact ⟨fun h ↦ h.2.symm, fun h ↦ ⟨rfl, h.symm⟩⟩

/-- A value that is there. -/
theorem orStop_eq_ok {e : ε} {o : Option α} {a : α} :
    (orStop e o : EStateM ε σ α) s = .ok a t ↔ o = some a ∧ t = s := by
  cases o with
  | some b =>
    rw [orStop, pure_eq_ok, Option.some.injEq]
    exact and_congr_left fun _ ↦ eq_comm
  | none =>
    constructor
    · exact fun h ↦ nomatch h
    · rintro ⟨h, -⟩
      exact nomatch h

/-- A condition that does not hold. -/
theorem stopIf_eq_ok {e : ε} {c : Bool} {a : PUnit} :
    (stopIf e c : EStateM ε σ PUnit) s = .ok a t ↔ c = false ∧ t = s := by
  cases c with
  | true =>
    constructor
    · exact fun h ↦ nomatch h
    · rintro ⟨h, -⟩
      exact nomatch h
  | false => exact pure_eq_ok.trans ⟨fun h ↦ ⟨rfl, h.2⟩, fun h ↦ ⟨rfl, h.2⟩⟩

/-! ### First steps that are known

What is left of a run that first reads the state, changes it, takes a value or may stop. -/

section FirstSteps

variable {b : β}

/-- A run that reads the state first. -/
theorem get_bind_eq_ok {f : σ → EStateM ε σ β} :
    (get >>= f : EStateM ε σ β) s = .ok b t ↔ f s s = .ok b t := by
  simp only [bind_eq_ok, get_eq_ok, and_assoc, exists_and_left, exists_eq_left]

/-- A run that changes the state first. -/
theorem modify_bind_eq_ok {g : σ → σ} {f : PUnit → EStateM ε σ β} :
    (modify g >>= f : EStateM ε σ β) s = .ok b t ↔ f ⟨⟩ (g s) = .ok b t := by
  rw [bind_eq_ok]
  constructor
  · rintro ⟨⟨⟩, u, h, hf⟩
    obtain rfl := modify_eq_ok.mp h
    exact hf
  · exact fun h ↦ ⟨⟨⟩, g s, modify_eq_ok.mpr rfl, h⟩

/-- A run that takes a value first. -/
theorem orStop_bind_eq_ok {e : ε} {o : Option α} {f : α → EStateM ε σ β} :
    (orStop e o >>= f : EStateM ε σ β) s = .ok b t ↔ ∃ a, o = some a ∧ f a s = .ok b t := by
  simp only [bind_eq_ok, orStop_eq_ok, and_assoc, exists_and_left, exists_eq_left]

/-- A run that may stop first. -/
theorem stopIf_bind_eq_ok {e : ε} {c : Bool} {f : PUnit → EStateM ε σ β} :
    (stopIf e c >>= f : EStateM ε σ β) s = .ok b t ↔ c = false ∧ f ⟨⟩ s = .ok b t := by
  rw [bind_eq_ok]
  constructor
  · rintro ⟨⟨⟩, u, h, hf⟩
    obtain ⟨hc, rfl⟩ := stopIf_eq_ok.mp h
    exact ⟨hc, hf⟩
  · exact fun ⟨hc, hf⟩ ↦ ⟨⟨⟩, s, stopIf_eq_ok.mpr ⟨hc, rfl⟩, hf⟩

end FirstSteps

/-! ### Runs as they are -/

section Runs

/-- A run whose first part goes through. -/
theorem bind_of_ok {x : EStateM ε σ α} {a : α} (h : x s = .ok a t) (f : α → EStateM ε σ β) :
    (x >>= f) s = f a t := by
  change EStateM.bind x f s = _
  rw [EStateM.bind, h]

/-- A run whose first part stops. -/
theorem bind_of_error {x : EStateM ε σ α} {e : ε} (h : x s = .error e t)
    (f : α → EStateM ε σ β) : (x >>= f) s = .error e t := by
  change EStateM.bind x f s = _
  rw [EStateM.bind, h]

/-- A run that reads the state first. -/
theorem get_bind (f : σ → EStateM ε σ β) : (get >>= f : EStateM ε σ β) s = f s s := rfl

/-- A run that changes the state first. -/
theorem modify_bind (g : σ → σ) (f : PUnit → EStateM ε σ β) :
    (modify g >>= f : EStateM ε σ β) s = f ⟨⟩ (g s) := rfl

/-- A run that may stop first. -/
theorem stopIf_bind (e : ε) (c : Bool) (f : PUnit → EStateM ε σ β) :
    (stopIf e c >>= f : EStateM ε σ β) s = if c then .error e s else f ⟨⟩ s := by
  cases c <;> rfl

/-- A run that takes a value first. -/
theorem orStop_bind (e : ε) (o : Option α) (f : α → EStateM ε σ β) :
    (orStop e o >>= f : EStateM ε σ β) s = match o with
      | some a => f a s
      | none => .error e s := by
  cases o <;> rfl

end Runs

/-- An observation that the handler leaves alone. -/
def Frames (obs : σ → β) (x : EStateM ε σ α) : Prop := ∀ s, obs (endState (x s)) = obs s

variable {γ : Type u} {obs : σ → γ}

/-- What both parts leave alone. -/
theorem frames_bind {x : EStateM ε σ α} {f : α → EStateM ε σ β} (hx : Frames obs x)
    (hf : ∀ a, Frames obs (f a)) : Frames obs (x >>= f) := by
  intro s
  change obs (endState (EStateM.bind x f s)) = obs s
  have hs := hx s
  unfold EStateM.bind
  cases h : x s with
  | ok a u =>
    rw [h] at hs
    exact (hf a u).trans hs
  | error e u =>
    rw [h] at hs
    exact hs

/-- A result leaves everything alone. -/
theorem frames_pure (a : α) : Frames obs (pure a : EStateM ε σ α) := fun _ ↦ rfl

/-- Reading leaves everything alone. -/
theorem frames_get {obs : σ → γ} : Frames obs (get : EStateM ε σ σ) := fun _ ↦ rfl

/-- A change that the observation does not see. -/
theorem frames_modify {f : σ → σ} (h : ∀ s, obs (f s) = obs s) :
    Frames obs (modify f : EStateM ε σ PUnit) := fun s ↦ h s

/-- A stop leaves everything alone. -/
theorem frames_orStop (e : ε) (o : Option α) : Frames obs (orStop e o : EStateM ε σ α) := by
  cases o <;> exact fun _ ↦ rfl

/-- A stop leaves everything alone. -/
theorem frames_stopIf (e : ε) (c : Bool) : Frames obs (stopIf e c : EStateM ε σ PUnit) := by
  cases c <;> exact fun _ ↦ rfl

/-- What both branches leave alone. -/
theorem frames_ite {c : Prop} [Decidable c] {x y : EStateM ε σ α} (hx : Frames obs x)
    (hy : Frames obs y) : Frames obs (if c then x else y) := by
  split
  · exact hx
  · exact hy

/-- An observation that a stop of the handler leaves alone. -/
def StopFrames (obs : σ → β) (x : EStateM ε σ α) : Prop :=
  ∀ s e t, x s = .error e t → obs t = obs s

/-- A stop of the second part, after a first one that leaves the observation alone. -/
theorem stopFrames_bind {x : EStateM ε σ α} {f : α → EStateM ε σ β} (hx : Frames obs x)
    (hf : ∀ a, StopFrames obs (f a)) : StopFrames obs (x >>= f) := by
  intro s e t h
  change EStateM.bind x f s = .error e t at h
  have hs := hx s
  unfold EStateM.bind at h
  cases hrun : x s with
  | ok a u =>
    rw [hrun] at h hs
    exact (hf a u e t h).trans hs
  | error e' u =>
    rw [hrun] at h hs
    obtain ⟨-, rfl⟩ := EStateM.Result.error.inj h
    exact hs

/-- A change does not stop. -/
theorem stopFrames_modify (f : σ → σ) : StopFrames obs (modify f : EStateM ε σ PUnit) :=
  fun _ _ _ h ↦ nomatch h

/-- A loop that goes through updates every item. -/
theorem updateEach_done {f : α → α × Bool} {xs : List α} (h : (updateEach f xs).2 = true) :
    (updateEach f xs).1 = xs.map (fun x ↦ (f x).1) ∧ ∀ x ∈ xs, (f x).2 = true := by
  induction xs with
  | nil => exact ⟨rfl, fun _ hx ↦ nomatch hx⟩
  | cons x rest ih =>
    rw [updateEach] at h ⊢
    split at h
    · next hx =>
      obtain ⟨hmap, hrest⟩ := ih h
      rw [if_pos hx, hmap]
      exact ⟨rfl, List.forall_mem_cons.mpr ⟨hx, hrest⟩⟩
    · exact nomatch h

end LcpGateway.Base
