import LcpGateway.Base.Run
import LcpGateway.Components.Start

/-!
# Reloads and shutdown

Library `Components`. Source `src/api/runtime.py:114–204`. The calls of a runtime as the steps of
a machine. `start` sets up the least set closed under satisfied requirements, each component
after the owners of its keys; `shutdown` calls what is stacked in the reverse order.
-/

namespace LcpGateway.Components
open LcpGateway.Base

/-- A call on the runtime, with what the `setup` calls it makes end with. -/
inductive Op (δ : Type) where
  | start (setup : String → Outcome δ)
  | reload (name : String) (outcome : Outcome δ)
  | shutdown

namespace Runtime

variable {δ : Type}

/-- The runtime after a call; a call that raises leaves it. -/
def step (rt : Runtime δ) : Op δ → Runtime δ
  | .start setup =>
    match rt.start setup with
    | .ok rt' => rt'
    | .error _ => rt
  | .reload name outcome =>
    match rt.reload name outcome with
    | .ok reloaded => reloaded.rt
    | .error _ => rt
  | .shutdown => rt.shutdown.1

/-- A reload of one component. -/
def reloadOp (r : String × Outcome δ) : Op δ := .reload r.1 r.2

/-- A reload disposes of an active component and sets it up again; it is refused for others. -/
theorem step_reload (rt : Runtime δ) (name : String) (outcome : Outcome δ) :
    rt.step (.reload name outcome) =
      if (rt.component? name).isSome ∧ rt.active name = true then
        (rt.disposeOne name).setupOne name outcome
      else rt := by
  cases hcomp : rt.component? name with
  | none => simp [step, reload, hcomp]
  | some comp => cases hactive : rt.active name <;> simp [step, reload, hcomp, hactive]

/-- A reload keeps the setup order. -/
theorem order_step_reload (rt : Runtime δ) (r : String × Outcome δ) :
    (rt.step (reloadOp r)).order = rt.order := by
  rw [reloadOp, step_reload]
  split <;> rfl

/-- Reloads keep the setup order. -/
theorem order_run_reload (rt : Runtime δ) (reloads : List (String × Outcome δ)) :
    (run step rt (reloads.map reloadOp)).order = rt.order := by
  induction reloads generalizing rt with
  | nil => rfl
  | cons r rest ih => exact (ih (rt.step (reloadOp r))).trans (rt.order_step_reload r)

/-- Disposing of distinct components calls what each has stacked, in their order. -/
theorem foldl_disposeNext {names : List String} (h : names.Nodup) (rt : Runtime δ)
    (called : List δ) :
    (names.foldl disposeNext (rt, called)).2 = called ++ names.filterMap rt.disposers := by
  induction names generalizing rt called with
  | nil => simp
  | cons name rest ih =>
    rw [List.nodup_cons] at h
    have hrest : rest.filterMap (rt.disposeOne name).disposers = rest.filterMap rt.disposers := by
      refine List.filterMap_congr fun other hother ↦ ?_
      have hne : other ≠ name := fun heq ↦ h.1 (heq ▸ hother)
      simp [disposeOne, hne]
    rw [List.foldl_cons, disposeNext, ih h.2, hrest]
    cases hd : rt.disposers name <;> simp [hd]

/-- `shutdown` calls the stacked disposers in the reverse of the setup order, each once. -/
theorem shutdown_calls (rt : Runtime δ) (h : rt.order.Nodup) :
    rt.shutdown.2 = rt.order.reverse.filterMap rt.disposers := by
  simpa [shutdown] using foldl_disposeNext (List.nodup_reverse.mpr h) rt []

/-- The scheduled components are the least set closed under satisfied requirements. -/
theorem scheduled_isLeast (comps : List Component) :
    IsLeast {S | ClosedUnderRequires comps S} {c | c ∈ (scheduled comps).1} :=
  readiness.schedule_isLeast comps

/-- A scheduled component comes after components with its required keys. -/
theorem requiresWithin_before {comps before after : List Component} {c : Component}
    (h : (scheduled comps).1 = before ++ c :: after) :
    RequiresWithin {d | d ∈ before} c :=
  (readiness.schedule_ordered comps.length comps .nil).enabled_of_append h

/-- Closed sets do not depend on an order of the components. -/
theorem closedUnderRequires_perm {comps comps' : List Component} (h : comps'.Perm comps)
    (S : Set Component) : ClosedUnderRequires comps' S ↔ ClosedUnderRequires comps S :=
  forall_congr' fun _ ↦ imp_congr_left h.mem_iff

/-- `start` sets up the least set of components closed under "all required keys are root keys or
keys of a member", whatever the registration order; each once, after components that own its
required keys. `shutdown`, after any reloads, calls what is stacked in the reverse order. -/
theorem start_least_in_order_and_shutdown_reverse {comps comps' : List Component}
    (hperm : comps'.Perm comps) {rt rt' : Runtime δ}
    (hrt : Runtime.empty.registerAll comps = .ok rt)
    (hrt' : Runtime.empty.registerAll comps' = .ok rt') (setup setup' : String → Outcome δ) :
    IsLeast {S | ClosedUnderRequires comps S} {c | c ∈ rt.setUp setup} ∧
    {c | c ∈ rt'.setUp setup'} = {c | c ∈ rt.setUp setup} ∧
    (rt.setUp setup).Nodup ∧
    (∀ before c after, rt.setUp setup = before ++ c :: after → ∀ r ∈ c.requires,
      r ∈ ROOT_KEYS ∨ ∃ d ∈ before, r ∈ d.keys ∧
        (DistinctKeys comps → rt.provides r = some d.name)) ∧
    ∃ rt₁, rt.start setup = .ok rt₁ ∧
      rt₁.shutdown.2 =
        (rt.setUp setup).reverse.filterMap (fun c ↦ (setup c.name).disposer) ∧
      ∀ reloads : List (String × Outcome δ),
        (run step rt₁ (reloads.map reloadOp)).shutdown.2 =
          (rt.setUp setup).reverse.filterMap
            (fun c ↦ (run step rt₁ (reloads.map reloadOp)).disposers c.name) := by
  have hreg : rt.Registered comps := registered_empty.registerAll hrt
  have hreg' : rt'.Registered comps' := registered_empty.registerAll hrt'
  have hnodup := hreg.toRegistry.nodup_scheduled
  rw [hreg.setUp_eq, hreg'.setUp_eq]
  refine ⟨scheduled_isLeast comps, ?_, hnodup.of_map _, ?_, _, hreg.start_eq setup, ?_, ?_⟩
  · have hleast := scheduled_isLeast comps'
    simp only [closedUnderRequires_perm hperm] at hleast
    exact hleast.unique (scheduled_isLeast comps)
  · intro before c after hsplit r hr
    refine (requiresWithin_before hsplit r hr).imp_right ?_
    rintro ⟨d, hd, hkey⟩
    refine ⟨d, hd, hkey, fun hdistinct ↦ hreg.toRegistry.owner_of_distinct hdistinct ?_ hkey⟩
    exact mem_of_mem_scheduled (hsplit ▸ List.mem_append_left _ hd)
  · have horder := rt.order_afterSetups setup (scheduled comps).1
    rw [hreg.order_eq, List.nil_append] at horder
    rw [shutdown_calls _ (horder ▸ hnodup)]
    simp only [horder, ← List.map_reverse, List.filterMap_map]
    refine List.filterMap_congr fun c hc ↦ ?_
    have hmem : c.name ∈ (scheduled comps).1.map Component.name :=
      List.mem_map_of_mem (List.mem_reverse.mp hc)
    simp only [Function.comp_apply, disposers_afterSetups, if_pos hmem]
  · intro reloads
    have horder := rt.order_afterSetups setup (scheduled comps).1
    rw [hreg.order_eq, List.nil_append] at horder
    have horder' := order_run_reload
      ({ rt.afterSetups setup (scheduled comps).1 with started := true } : Runtime δ) reloads
    rw [shutdown_calls _ (horder'.trans horder ▸ hnodup), horder']
    simp only [horder, ← List.map_reverse, List.filterMap_map]
    rfl

/-- Components that wait for each other's keys, and one that waits for a key nobody has. -/
def sampleComponents : List Component :=
  [⟨"breaker", ["settings"], ["circuit_breaker"]⟩, ⟨"settings", ["engine"], []⟩,
    ⟨"lost", ["nowhere"], []⟩]

/-- Settings are set up before the breaker and disposed of after it. -/
theorem sample_start_then_shutdown :
    ∃ rt rt₁ : Runtime String, Runtime.empty.registerAll sampleComponents = .ok rt ∧
      rt.setUp (fun name ↦ .returned (some name)) =
        [⟨"settings", ["engine"], []⟩, ⟨"breaker", ["settings"], ["circuit_breaker"]⟩] ∧
      rt.start (fun name ↦ .returned (some name)) = .ok rt₁ ∧
      rt₁.shutdown.2 = ["breaker", "settings"] := by
  have hperm : sampleComponents.reverse.Perm sampleComponents := List.reverse_perm _
  obtain ⟨-, -, -, -, rt₁, hstart, hshutdown, -⟩ :=
    start_least_in_order_and_shutdown_reverse hperm rfl rfl
      (fun name ↦ .returned (some name)) (fun _ ↦ .raised)
  exact ⟨_, rt₁, rfl, rfl, hstart, hshutdown⟩

end Runtime
end LcpGateway.Components
