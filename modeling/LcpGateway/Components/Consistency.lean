import LcpGateway.Components.Lifecycle

/-!
# Active components and what they require

Library `Components`. Source `src/api/runtime.py:86–215`. A failed `setup` still counts as ready,
and `reload` may leave a component inactive under the components that require its keys. When
neither happens, what is set up or active has its required keys.
-/

namespace LcpGateway.Components
open LcpGateway.Base

namespace Runtime

variable {δ : Type}

/-- Every required key of an active component resolves. -/
def Consistent (rt : Runtime δ) : Prop :=
  ∀ comp ∈ rt.components, rt.active comp.name = true → ∀ r ∈ comp.requires, rt.Resolves r

/-- The calls of `setup` that a call of `start` makes, with the runtime each one is passed. -/
def startCalls (rt : Runtime δ) : Op δ → List (Runtime δ × Component)
  | .start setup => if rt.started then [] else (rt.boot setup).calls
  | .reload _ _ => []
  | .shutdown => []

/-- `start` calls no `setup` before the required keys resolve, and the call leaves active
components with theirs. -/
def Sound (rt : Runtime δ) (op : Op δ) : Prop :=
  (∀ call ∈ rt.startCalls op, ∀ r ∈ call.2.requires, call.1.Resolves r) ∧
    (rt.step op).Consistent

instance (rt : Runtime δ) : Decidable rt.Consistent :=
  inferInstanceAs (Decidable (∀ comp ∈ rt.components, rt.active comp.name = true →
    ∀ r ∈ comp.requires, rt.Resolves r))

instance (rt : Runtime δ) (op : Op δ) : Decidable (rt.Sound op) :=
  inferInstanceAs (Decidable (_ ∧ _))

/-- The least set of components closed under satisfied requirements. -/
def startable (comps : List Component) : Set Component := (readiness.enables {c | c ∈ comps}).lfp

/-- What keeps a call sound: at `start`, a key that a startable component requires is owned by
the startable component that has it, and the `setup` of that one returns; at `reload`, the `setup`
returns or no other active component requires a key of the reloaded one. -/
def Guard (rt : Runtime δ) : Op δ → Prop
  | .start setup => rt.started = false → ∀ c ∈ startable rt.components, ∀ r ∈ c.requires,
      r ∉ ROOT_KEYS → ∀ d ∈ startable rt.components, r ∈ d.keys →
        rt.provides r = some d.name ∧ (setup d.name).succeeds = true
  | .reload name outcome => (rt.component? name).isSome → rt.active name = true →
      outcome.succeeds = true ∨ ∀ d ∈ rt.components, rt.active d.name = true → d.name ≠ name →
        ∀ r ∈ d.requires, rt.provides r ≠ some name
  | .shutdown => True

/-- What holds between the calls. -/
structure Steady (comps : List Component) (rt : Runtime δ) : Prop where
  registry : rt.Registry comps
  registered : rt.started = false → rt.Registered comps
  consistent : rt.Consistent

/-- A root key or a key of an active owner resolves. -/
theorem resolves_iff (rt : Runtime δ) (key : String) :
    rt.Resolves key ↔
      key ∈ ROOT_KEYS ∨ ∃ owner, rt.provides key = some owner ∧ rt.active owner = true := by
  unfold Resolves resolve
  by_cases hroot : key ∈ ROOT_KEYS
  · simp [hroot, Except.isOk, Except.toBool]
  · cases hprovides : rt.provides key with
    | none => simp [hroot, Except.isOk, Except.toBool]
    | some owner =>
      cases hactive : rt.active owner <;> simp [hroot, hactive, Except.isOk, Except.toBool]

/-- A runtime without active components is consistent. -/
theorem consistent_of_idle {rt : Runtime δ} (h : ∀ name, rt.active name = false) :
    rt.Consistent := by
  intro comp _ hactive
  rw [h] at hactive
  simp at hactive

/-- A registered runtime is steady. -/
theorem Registered.steady {rt : Runtime δ} {comps : List Component} (h : rt.Registered comps) :
    rt.Steady comps :=
  ⟨h.toRegistry, fun _ ↦ h, consistent_of_idle h.idle⟩

/-- Scheduled components are the startable ones. -/
theorem mem_scheduled_iff (comps : List Component) (c : Component) :
    c ∈ (scheduled comps).1 ↔ c ∈ startable comps :=
  Set.ext_iff.mp (readiness.schedule_eq_lfp comps) c

/-! ## The calls of `start` -/

/-- A call of `setup` is passed what the components before it have left. -/
theorem mem_callsOf {setup : String → Outcome δ} {rt rt' : Runtime δ} {done : List Component}
    {c : Component} :
    (rt', c) ∈ rt.callsOf setup done ↔
      ∃ before after, done = before ++ c :: after ∧ rt' = rt.afterSetups setup before := by
  induction done generalizing rt with
  | nil => simp [callsOf]
  | cons d rest ih =>
    rw [callsOf, List.mem_cons, ih]
    constructor
    · rintro (hhead | ⟨before, after, rfl, rfl⟩)
      · obtain ⟨rfl, rfl⟩ := Prod.mk.inj hhead
        exact ⟨[], rest, rfl, rfl⟩
      · exact ⟨d :: before, after, rfl, rfl⟩
    · rintro ⟨before, after, hsplit, rfl⟩
      cases before with
      | nil =>
        obtain ⟨rfl, rfl⟩ := List.cons.inj hsplit
        exact .inl rfl
      | cons e before =>
        obtain ⟨rfl, rfl⟩ := List.cons.inj hsplit
        exact .inr ⟨before, after, rfl, rfl⟩

variable {rt : Runtime δ} {comps : List Component}

/-- Setups publish nothing new. -/
@[simp] theorem provides_afterSetups (rt : Runtime δ) (setup : String → Outcome δ)
    (done : List Component) : (rt.afterSetups setup done).provides = rt.provides := by
  induction done generalizing rt with
  | nil => rfl
  | cons d rest ih => exact ih (rt.setUpNext setup d)

/-- A key resolves once its owner was set up with success. -/
theorem resolves_afterSetups {setup : String → Outcome δ} {done : List Component} {d : Component}
    (hd : d ∈ done) {r : String} (howner : rt.provides r = some d.name)
    (hsetup : (setup d.name).succeeds = true) : (rt.afterSetups setup done).Resolves r := by
  rw [resolves_iff, provides_afterSetups]
  refine .inr ⟨d.name, howner, ?_⟩
  rw [active_afterSetups, if_pos (List.mem_map_of_mem hd), hsetup]

/-- A call of `start` that is not refused makes the scheduled calls. -/
theorem Registered.startCalls_eq (h : rt.Registered comps) (setup : String → Outcome δ) :
    rt.startCalls (.start setup) = rt.callsOf setup (scheduled comps).1 := by
  obtain ⟨progressed, hboot⟩ := h.boot_eq setup
  rw [startCalls, h.not_started, if_neg (by simp), hboot]
  rfl

/-- The step of a call of `start` that is not refused. -/
theorem Registered.step_start (h : rt.Registered comps) (setup : String → Outcome δ) :
    rt.step (.start setup) =
      { rt.afterSetups setup (scheduled comps).1 with started := true } := by
  simp only [step, h.start_eq]

/-- Under the guard, the required keys of a scheduled component resolve as soon as the components
before it are set up. -/
theorem Registered.resolves_before (h : rt.Registered comps) {setup : String → Outcome δ}
    (hguard : rt.Guard (.start setup)) {before after : List Component} {c : Component}
    (hsplit : (scheduled comps).1 = before ++ c :: after) {done : List Component}
    (hdone : ∀ d ∈ before, d ∈ done) :
    ∀ r ∈ c.requires, (rt.afterSetups setup done).Resolves r := by
  have hmem : ∀ d, d ∈ before ++ c :: after → d ∈ startable rt.components := by
    intro d hd
    rw [h.components_eq]
    exact (mem_scheduled_iff comps d).mp (hsplit ▸ hd)
  intro r hr
  by_cases hroot : r ∈ ROOT_KEYS
  · exact (resolves_iff _ _).mpr (.inl hroot)
  · obtain hroot' | ⟨d, hd, hkey⟩ := requiresWithin_before hsplit r hr
    · exact absurd hroot' hroot
    · obtain ⟨howner, hsetup⟩ := hguard h.not_started c (hmem c (by simp)) r hr hroot d
        (hmem d (List.mem_append_left _ hd)) hkey
      exact resolves_afterSetups (hdone d hd) howner hsetup

/-- An active component was set up. -/
theorem Registered.mem_scheduled_of_active (h : rt.Registered comps) {setup : String → Outcome δ}
    {c : Component} (hc : c ∈ comps)
    (hactive : (rt.afterSetups setup (scheduled comps).1).active c.name = true) :
    c ∈ (scheduled comps).1 := by
  rw [active_afterSetups, h.idle] at hactive
  split at hactive
  · next hname =>
    obtain ⟨d, hd, hdc⟩ := List.mem_map.mp hname
    rwa [← List.inj_on_of_nodup_map h.nodup (mem_of_mem_scheduled hd) hc hdc]
  · simp at hactive

/-- A guarded call of `start` is sound. -/
theorem Registered.sound_start (h : rt.Registered comps) {setup : String → Outcome δ}
    (hguard : rt.Guard (.start setup)) : rt.Sound (.start setup) := by
  constructor
  · rintro ⟨rt', c⟩ hcall
    rw [h.startCalls_eq, mem_callsOf] at hcall
    obtain ⟨before, after, hsplit, rfl⟩ := hcall
    exact h.resolves_before hguard hsplit fun _ hd ↦ hd
  · rw [h.step_start]
    intro c hc hactive r hr
    rw [show _ = comps from (h.toRegistry.afterSetups setup rt _).components_eq] at hc
    obtain ⟨before, after, hsplit⟩ :=
      List.append_of_mem (h.mem_scheduled_of_active hc hactive)
    have hbefore : ∀ d ∈ before, d ∈ (scheduled comps).1 := fun d hd ↦
      hsplit ▸ List.mem_append_left _ hd
    exact h.resolves_before hguard hsplit hbefore r hr

/-- With distinct keys, a sound call of `start` meets the guard. -/
theorem Registered.guard_start (h : rt.Registered comps) (hdistinct : DistinctKeys comps)
    {setup : String → Outcome δ} (hsound : rt.Sound (.start setup)) :
    rt.Guard (.start setup) := by
  intro _ c hc r hr hroot d hd hkey
  rw [h.components_eq, ← mem_scheduled_iff] at hc hd
  have howner := h.toRegistry.owner_of_distinct hdistinct (mem_of_mem_scheduled hd) hkey
  refine ⟨howner, ?_⟩
  obtain ⟨before, after, hsplit⟩ := List.append_of_mem hc
  have hresolves := hsound.1 (rt.afterSetups setup before, c)
    (by rw [h.startCalls_eq, mem_callsOf]; exact ⟨before, after, hsplit, rfl⟩) r hr
  rw [resolves_iff, provides_afterSetups, howner] at hresolves
  obtain hroot' | ⟨owner, heq, hactive⟩ := hresolves
  · exact absurd hroot' hroot
  · obtain rfl := Option.some.inj heq
    rw [active_afterSetups, h.idle] at hactive
    split at hactive
    · exact hactive
    · simp at hactive

/-! ## The other calls -/

/-- What is active after a reload that was not refused. -/
theorem active_reloaded (rt : Runtime δ) (name other : String) (outcome : Outcome δ) :
    ((rt.disposeOne name).setupOne name outcome).active other =
      if other = name then outcome.succeeds else rt.active other := by
  by_cases heq : other = name
  · subst heq
    simp [setupOne]
  · simp [setupOne, disposeOne, heq]

/-- A reload of a steady runtime is sound exactly when it meets the guard. -/
theorem Steady.sound_reload_iff (h : rt.Steady comps) (name : String) (outcome : Outcome δ) :
    rt.Sound (.reload name outcome) ↔ rt.Guard (.reload name outcome) := by
  simp only [Sound, startCalls, List.not_mem_nil, false_implies, implies_true, true_and,
    step_reload, Guard]
  split
  · next hreload =>
    obtain ⟨hsome, hactive⟩ := hreload
    simp only [hsome, hactive, forall_const]
    constructor
    · intro hconsistent
      refine or_iff_not_imp_left.mpr fun hfails d hd hdactive hne r hr howner ↦ ?_
      have hresolves := hconsistent d hd (by rw [active_reloaded, if_neg hne, hdactive]) r hr
      rw [resolves_iff] at hresolves
      obtain hroot | ⟨owner, heq, howneractive⟩ := hresolves
      · simp [h.registry.unreserved r hroot] at howner
      · obtain rfl : name = owner := Option.some.inj (howner.symm.trans heq)
        rw [active_reloaded, if_pos rfl] at howneractive
        exact hfails howneractive
    · intro hguard c hc hcactive r hr
      rw [active_reloaded] at hcactive
      have hbefore : rt.active c.name = true := by
        split at hcactive
        · next heq => rw [heq, hactive]
        · exact hcactive
      obtain hroot | ⟨owner, howner, howneractive⟩ :=
        (resolves_iff _ _).mp (h.consistent c hc hbefore r hr)
      · exact (resolves_iff _ _).mpr (.inl hroot)
      · refine (resolves_iff _ _).mpr (.inr ⟨owner, howner, ?_⟩)
        rw [active_reloaded]
        split
        · next heq =>
          subst heq
          by_cases hself : c.name = owner
          · rwa [if_pos hself] at hcactive
          · exact hguard.resolve_right fun hnone ↦ hnone c hc hbefore hself r hr howner
        · exact howneractive
  · next hrefused =>
    refine ⟨fun _ hsome hactive ↦ absurd ⟨hsome, hactive⟩ hrefused, fun _ ↦ h.consistent⟩

/-- Disposing keeps the registry. -/
theorem registry_foldl_disposeNext (h : rt.Registry comps) (names : List String)
    (called : List δ) : (names.foldl disposeNext (rt, called)).1.Registry comps := by
  induction names generalizing rt called with
  | nil => exact h
  | cons name rest ih =>
    have hnext : (rt.disposeOne name).Registry comps :=
      ⟨h.components_eq, h.nodup, h.owned, h.unreserved, h.published⟩
    exact ih hnext _

/-- After a shutdown the components are registered and none is started. -/
theorem Registry.shutdown (h : rt.Registry comps) : rt.shutdown.1.Registered comps := by
  have hdisposed := registry_foldl_disposeNext h rt.order.reverse []
  exact ⟨⟨hdisposed.components_eq, hdisposed.nodup, hdisposed.owned, hdisposed.unreserved,
    hdisposed.published⟩, fun _ ↦ rfl, rfl, rfl⟩

/-- A refused call of `start` changes nothing. -/
theorem step_start_of_started (hstarted : rt.started = true) (setup : String → Outcome δ) :
    rt.step (.start setup) = rt := by
  simp [step, start, hstarted]

/-- A guarded call on a steady runtime is sound. -/
theorem Steady.sound_of_guard (h : rt.Steady comps) {op : Op δ} (hguard : rt.Guard op) :
    rt.Sound op := by
  cases op with
  | start setup =>
    cases hstarted : rt.started with
    | false => exact (h.registered hstarted).sound_start hguard
    | true =>
      refine ⟨by simp [startCalls, hstarted], ?_⟩
      rw [step_start_of_started hstarted]
      exact h.consistent
  | reload name outcome => exact (h.sound_reload_iff name outcome).mpr hguard
  | shutdown => exact ⟨by simp [startCalls], consistent_of_idle h.registry.shutdown.idle⟩

/-- With distinct keys, a sound call on a steady runtime meets the guard. -/
theorem Steady.guard_of_sound (h : rt.Steady comps) (hdistinct : DistinctKeys comps) {op : Op δ}
    (hsound : rt.Sound op) : rt.Guard op := by
  cases op with
  | start setup =>
    intro hstarted
    exact (h.registered hstarted).guard_start hdistinct hsound hstarted
  | reload name outcome => exact (h.sound_reload_iff name outcome).mp hsound
  | shutdown => trivial

/-- A sound call on a steady runtime leaves one. -/
theorem Steady.step (h : rt.Steady comps) {op : Op δ} (hsound : rt.Sound op) :
    (rt.step op).Steady comps := by
  cases op with
  | start setup =>
    cases hstarted : rt.started with
    | true => rwa [step_start_of_started hstarted]
    | false =>
      have hconsistent := hsound.2
      rw [(h.registered hstarted).step_start] at hconsistent ⊢
      have hreg := h.registry.afterSetups setup rt (scheduled comps).1
      exact ⟨⟨hreg.components_eq, hreg.nodup, hreg.owned, hreg.unreserved, hreg.published⟩,
        fun hfalse ↦ absurd hfalse (by simp), hconsistent⟩
  | reload name outcome =>
    have hconsistent := hsound.2
    rw [step_reload] at hconsistent ⊢
    split
    · next hreload =>
      rw [if_pos hreload] at hconsistent
      refine ⟨⟨h.registry.components_eq, h.registry.nodup, h.registry.owned,
        h.registry.unreserved, h.registry.published⟩, fun hstarted ↦ ?_, hconsistent⟩
      have hidle := (h.registered hstarted).idle name
      rw [hreload.2] at hidle
      simp at hidle
    · exact h
  | shutdown => exact h.registry.shutdown.steady

/-- Every run over registered components: when its calls meet the guard, `start` never calls a
`setup` whose required keys do not resolve, and every state has its active components with all
their required keys. When no key is published twice, the guard is necessary too. -/
theorem runs_sound_of_guard (hrt : Runtime.empty.registerAll comps = .ok rt) (ops : List (Op δ)) :
    ((∀ p ∈ steps step rt ops, p.1.Guard p.2) → ∀ p ∈ steps step rt ops, p.1.Sound p.2) ∧
      (DistinctKeys comps →
        ((∀ p ∈ steps step rt ops, p.1.Sound p.2) ↔ ∀ p ∈ steps step rt ops, p.1.Guard p.2)) := by
  have hsteady : rt.Steady comps := (registered_empty.registerAll hrt).steady
  have hsafe : ∀ (rt : Runtime δ) (op : Op δ), rt.Steady comps → rt.Guard op → rt.Sound op :=
    fun _ _ h hguard ↦ h.sound_of_guard hguard
  have hkeep : ∀ (rt : Runtime δ) (op : Op δ), rt.Steady comps → rt.Guard op →
      (rt.step op).Steady comps := fun _ _ h hguard ↦ h.step (h.sound_of_guard hguard)
  refine ⟨steps_safe_of_guard hsafe hkeep rt ops hsteady, fun hdistinct ↦ ?_⟩
  exact steps_safe_iff
    (fun rt op h (_ : True) ↦ ⟨h.guard_of_sound hdistinct, hsafe rt op h⟩)
    (fun rt op h _ hguard ↦ hkeep rt op h hguard) rt ops hsteady (fun _ _ ↦ trivial)

/-- A required component whose `setup` raises when it starts, or when it is reloaded. -/
def brokenSettings : List Component := [⟨"settings", ["engine"], []⟩, ⟨"breaker", ["settings"], []⟩]

/-- The setups of a boot in which everything but the settings starts. -/
def withoutSettings (name : String) : Outcome Unit :=
  if name = "settings" then .raised else .returned none

/-- The breaker is set up and active although the settings it requires are not; and a reload of
the settings that fails leaves the breaker active without them. -/
theorem broken_settings_unsound :
    ∃ rt : Runtime Unit, Runtime.empty.registerAll brokenSettings = .ok rt ∧
      (¬ ∀ p ∈ steps step rt [.start withoutSettings], p.1.Sound p.2) ∧
      ¬ ∀ p ∈ steps step rt [.start (fun _ ↦ .returned none), .reload "settings" .raised],
        p.1.Sound p.2 := by
  exact ⟨_, rfl, by decide, by decide⟩

/-- A boot with every setup returning is sound, and so is a reload that succeeds. -/
theorem working_settings_sound :
    ∃ rt : Runtime Unit, Runtime.empty.registerAll brokenSettings = .ok rt ∧
      ∀ p ∈ steps step rt [.start (fun _ ↦ .returned none), .reload "settings" (.returned none)],
        p.1.Sound p.2 := by
  obtain ⟨rt, hrt⟩ : ∃ rt : Runtime Unit, Runtime.empty.registerAll brokenSettings = .ok rt :=
    ⟨_, rfl⟩
  have hreg := registered_empty.registerAll hrt
  have hdistinct : DistinctKeys brokenSettings := by decide
  refine ⟨rt, hrt, (runs_sound_of_guard hrt _).1 ?_⟩
  simp only [steps, List.forall_mem_cons]
  refine ⟨fun _ c _ r _ _ d hd hkey ↦ ⟨?_, rfl⟩, fun _ _ ↦ .inl rfl, by simp⟩
  rw [hreg.components_eq, ← mem_scheduled_iff] at hd
  exact hreg.toRegistry.owner_of_distinct hdistinct (mem_of_mem_scheduled hd) hkey

end Runtime
end LcpGateway.Components
