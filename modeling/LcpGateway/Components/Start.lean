import LcpGateway.Base.Schedule
import LcpGateway.Components.Runtime

/-!
# Starting the runtime

Library `Components`. Source `src/api/runtime.py:59–152`. The loop of `start` is the schedule of
the components under readiness: a component is ready when its required keys are root keys or keys
of components that were set up.
-/

namespace LcpGateway.Components
open LcpGateway.Base

/-- All required keys of a component are root keys or keys of members of a set. -/
def RequiresWithin (S : Set Component) (comp : Component) : Prop :=
  ∀ r ∈ comp.requires, r ∈ ROOT_KEYS ∨ ∃ d ∈ S, r ∈ d.keys

/-- A set that has every component whose required keys are root keys or keys of members. -/
def ClosedUnderRequires (comps : List Component) (S : Set Component) : Prop :=
  ∀ comp ∈ comps, RequiresWithin S comp → comp ∈ S

/-- Readiness of components. -/
def readiness : Readiness Component where
  Enabled := RequiresWithin
  mono hST h r hr := (h r hr).imp_right fun ⟨d, hd, hkey⟩ ↦ ⟨d, hST hd, hkey⟩
  enabled done comp :=
    comp.requires.all (fun r ↦ r ∈ ROOT_KEYS ++ done.flatMap Component.keys ∨ r ∈ ROOT_KEYS)
  enabled_iff done comp := by
    simp only [List.all_eq_true, decide_eq_true_eq, List.mem_append, List.mem_flatMap,
      RequiresWithin, Set.mem_ofPred_eq]
    exact forall₂_congr fun r _ ↦ ⟨fun h ↦ h.elim id Or.inl, Or.inl⟩

/-- No key of one component is a key of another. -/
def DistinctKeys (comps : List Component) : Prop :=
  comps.Pairwise (fun c d ↦ ∀ key ∈ c.keys, key ∉ d.keys)

instance (comps : List Component) : Decidable (DistinctKeys comps) :=
  inferInstanceAs (Decidable (comps.Pairwise _))

namespace Runtime

variable {δ : Type}

/-! ## What registration leaves -/

/-- The components of a runtime, and the owners of the keys they publish. -/
structure Registry (rt : Runtime δ) (comps : List Component) : Prop where
  components_eq : rt.components = comps
  nodup : (comps.map Component.name).Nodup
  owned : ∀ key owner, rt.provides key = some owner → ∃ d ∈ comps, d.name = owner ∧ key ∈ d.keys
  unreserved : ∀ key ∈ ROOT_KEYS, rt.provides key = none
  published : ∀ d ∈ comps, ∀ key ∈ d.keys, ∃ owner, rt.provides key = some owner

/-- A runtime with these components registered and none started. -/
structure Registered (rt : Runtime δ) (comps : List Component) : Prop
    extends Registry rt comps where
  idle : ∀ name, rt.active name = false
  order_eq : rt.order = []
  not_started : rt.started = false

/-- The empty runtime has nothing registered. -/
theorem registered_empty : (Runtime.empty : Runtime δ).Registered [] :=
  ⟨⟨rfl, List.nodup_nil, by simp [empty], fun _ _ ↦ rfl, by simp⟩, fun _ ↦ rfl, rfl, rfl⟩

/-- A provided key that is not refused is not a root key. -/
theorem not_mem_root_of_refusedKey {rt : Runtime δ} {name : String} {keys : List String}
    (h : rt.refusedKey name keys = none) : ∀ key ∈ keys, key ∉ ROOT_KEYS := by
  induction keys with
  | nil => simp
  | cons key rest ih =>
    unfold refusedKey at h
    split at h
    · simp at h
    · next hroot =>
      split at h
      · simp at h
      · exact List.forall_mem_cons.mpr ⟨hroot, ih h⟩

/-- A registered component comes last, under a new name. -/
theorem Registered.register {rt rt' : Runtime δ} {comps : List Component} {comp : Component}
    (h : rt.Registered comps) (hrt : rt.register comp = .ok rt') :
    rt'.Registered (comps ++ [comp]) := by
  unfold Runtime.register at hrt
  split at hrt
  · simp at hrt
  next hnew =>
  split at hrt
  · simp at hrt
  next hname =>
  split at hrt
  · simp at hrt
  next hkeys =>
  obtain rfl := Except.ok.inj hrt
  have hfresh : ∀ d ∈ comps, d.name ≠ comp.name := by
    simpa [component?, h.components_eq] using hnew
  have hroot : ∀ key ∈ comp.keys, key ∉ ROOT_KEYS :=
    List.forall_mem_cons.mpr ⟨hname, not_mem_root_of_refusedKey hkeys⟩
  refine ⟨⟨by simp [h.components_eq], ?_, ?_, ?_, ?_⟩, ?_, h.order_eq, h.not_started⟩
  · rw [List.map_append, List.nodup_append]
    refine ⟨h.nodup, by simp, ?_⟩
    intro name hmem name' hmem'
    obtain ⟨d, hd, rfl⟩ := List.mem_map.mp hmem
    obtain rfl : name' = comp.name := by simpa using hmem'
    exact hfresh d hd
  · intro key owner howner
    dsimp only at howner
    split at howner
    · next hkey => exact ⟨comp, by simp, Option.some.inj howner, hkey⟩
    · obtain ⟨d, hd, hrest⟩ := h.owned key owner howner
      exact ⟨d, List.mem_append_left _ hd, hrest⟩
  · intro key hkey
    dsimp only
    rw [if_neg fun hmem ↦ hroot key hmem hkey]
    exact h.unreserved key hkey
  · intro d hd key hkey
    dsimp only
    split
    · exact ⟨_, rfl⟩
    · next hother =>
      rcases List.mem_append.mp hd with hd | hd
      · exact h.published d hd key hkey
      · obtain rfl := List.mem_singleton.mp hd
        exact absurd hkey hother
  · intro name
    by_cases heq : name = comp.name <;> simp [heq, h.idle]

/-- Registration of a list. -/
theorem Registered.registerAll {rt rt' : Runtime δ} {comps more : List Component}
    (h : rt.Registered comps) (hrt : rt.registerAll more = .ok rt') :
    rt'.Registered (comps ++ more) := by
  induction more generalizing rt comps with
  | nil =>
    obtain rfl := Except.ok.inj hrt
    simpa using h
  | cons comp rest ih =>
    unfold Runtime.registerAll at hrt
    cases hcomp : rt.register comp with
    | error failure => simp [hcomp, bind, Except.bind] at hrt
    | ok rt₁ =>
      rw [hcomp] at hrt
      simpa using ih (h.register hcomp) hrt

/-- With distinct keys, the owner of a key is the component that has it. -/
theorem Registry.owner_of_distinct {rt : Runtime δ} {comps : List Component}
    (h : rt.Registry comps) (hdistinct : DistinctKeys comps) {d : Component} (hd : d ∈ comps)
    {key : String} (hkey : key ∈ d.keys) : rt.provides key = some d.name := by
  obtain ⟨owner, howner⟩ := h.published d hd key hkey
  obtain ⟨c, hc, rfl, hckey⟩ := h.owned key owner howner
  rw [howner]
  by_cases heq : c = d
  · rw [heq]
  · have hsymm : Std.Symm (fun c d : Component ↦ ∀ key ∈ c.keys, key ∉ d.keys) :=
      ⟨fun _ _ hcd key hkey hkey' ↦ hcd key hkey' hkey⟩
    exact absurd hkey (List.Pairwise.forall hdistinct hc hd heq key hckey)

/-! ## The loop as a schedule -/

/-- The runtime after one more component was set up. -/
def setUpNext (setup : String → Outcome δ) (rt : Runtime δ) (comp : Component) : Runtime δ :=
  { rt.setupOne comp.name (setup comp.name) with order := rt.order ++ [comp.name] }

/-- The runtime after the setups of some components. -/
def afterSetups (setup : String → Outcome δ) (rt : Runtime δ) (done : List Component) : Runtime δ :=
  done.foldl (setUpNext setup) rt

/-- The calls of `setup` for some components, with the runtime each one is passed. -/
def callsOf (setup : String → Outcome δ) : Runtime δ → List Component → List (Runtime δ × Component)
  | _, [] => []
  | rt, comp :: rest => (rt, comp) :: callsOf setup (setUpNext setup rt comp) rest

/-- One more component comes last among the calls. -/
theorem callsOf_snoc (setup : String → Outcome δ) (rt : Runtime δ) (done : List Component)
    (comp : Component) : callsOf setup rt (done ++ [comp]) =
      callsOf setup rt done ++ [(afterSetups setup rt done, comp)] := by
  induction done generalizing rt with
  | nil => rfl
  | cons d rest ih => exact congrArg ((rt, d) :: ·) (ih (setUpNext setup rt d))

/-- The calls are for the components, in their order. -/
theorem map_snd_callsOf (setup : String → Outcome δ) (rt : Runtime δ) (done : List Component) :
    (callsOf setup rt done).map Prod.snd = done := by
  induction done generalizing rt with
  | nil => rfl
  | cons d rest ih => exact congrArg (d :: ·) (ih (setUpNext setup rt d))

/-- The loop's state is given by the components that are done and those that wait. -/
def bootOf (rt : Runtime δ) (setup : String → Outcome δ) (progressed : Bool)
    (done waiting : List Component) : Boot δ where
  rt := afterSetups setup rt done
  pending := waiting
  ready := ROOT_KEYS ++ done.flatMap Component.keys
  progressed := progressed
  calls := callsOf setup rt done

variable (rt : Runtime δ) (setup : String → Outcome δ)

/-- A ready component is done. -/
theorem visit_of_ready {progressed : Bool} {done waiting : List Component} {comp : Component}
    (h : readiness.enabled done comp = true) :
    (rt.bootOf setup progressed done waiting).visit setup comp =
      rt.bootOf setup true (done ++ [comp]) (waiting.filter (·.name ≠ comp.name)) := by
  have hready : comp.requires.all
      (fun r ↦ r ∈ (rt.bootOf setup progressed done waiting).ready ∨ r ∈ ROOT_KEYS) = true := h
  rw [Boot.visit, if_pos hready]
  simp [bootOf, afterSetups, callsOf_snoc, setUpNext]

/-- A component that is not ready keeps waiting. -/
theorem visit_of_not_ready {progressed : Bool} {done waiting : List Component} {comp : Component}
    (h : ¬ readiness.enabled done comp = true) :
    (rt.bootOf setup progressed done waiting).visit setup comp =
      rt.bootOf setup progressed done waiting := by
  have hwait : ¬ comp.requires.all
      (fun r ↦ r ∈ (rt.bootOf setup progressed done waiting).ready ∨ r ∈ ROOT_KEYS) = true := h
  rw [Boot.visit, if_neg hwait]

/-- Taking a component out of `pending` leaves the others. -/
theorem filter_name_ne {skipped rest : List Component} {comp : Component}
    (h : ((skipped ++ comp :: rest).map Component.name).Nodup) :
    (skipped ++ comp :: rest).filter (·.name ≠ comp.name) = skipped ++ rest := by
  rw [List.map_append, List.map_cons, List.nodup_middle, List.nodup_cons, ← List.map_append] at h
  have hne : ∀ d ∈ skipped ++ rest, d.name ≠ comp.name := fun d hd heq ↦
    h.1 (List.mem_map.mpr ⟨d, hd, heq⟩)
  simp only [List.forall_mem_append] at hne
  rw [List.filter_append, List.filter_cons_of_neg (by simp),
    List.filter_eq_self.mpr (by simpa using hne.1), List.filter_eq_self.mpr (by simpa using hne.2)]

/-- The inner loop is a sweep of the components it has still to visit. -/
theorem foldl_visit (progressed : Bool) (done skipped rest : List Component)
    (h : ((skipped ++ rest).map Component.name).Nodup) :
    rest.foldl (Boot.visit setup) (rt.bootOf setup progressed done (skipped ++ rest)) =
      rt.bootOf setup
        (progressed || (readiness.sweep done rest).2.length < rest.length)
        (readiness.sweep done rest).1 (skipped ++ (readiness.sweep done rest).2) := by
  induction rest generalizing progressed done skipped with
  | nil => simp [Readiness.sweep]
  | cons comp rest ih =>
    rw [List.foldl_cons]
    by_cases hready : readiness.enabled done comp = true
    · have hrest : ((skipped ++ rest).map Component.name).Nodup :=
        h.sublist ((List.sublist_append_right [comp] rest).append_left skipped |>.map _)
      have hlt : (readiness.sweep (done ++ [comp]) rest).2.length < rest.length + 1 :=
        Nat.lt_succ_of_le (readiness.sweep_length_le _ _)
      rw [visit_of_ready rt setup hready, filter_name_ne h, ih _ _ _ hrest]
      simp [Readiness.sweep, hready, hlt]
    · have hassoc : skipped ++ comp :: rest = (skipped ++ [comp]) ++ rest := by simp
      rw [visit_of_not_ready rt setup hready, hassoc, ih _ _ _ (hassoc ▸ h)]
      simp [Readiness.sweep, hready]

/-- A turn of the outer loop is a sweep of the waiting components. -/
theorem pass_bootOf {progressed : Bool} {done waiting : List Component}
    (h : (waiting.map Component.name).Nodup) :
    (rt.bootOf setup progressed done waiting).pass setup =
      rt.bootOf setup (decide ((readiness.sweep done waiting).2.length < waiting.length))
        (readiness.sweep done waiting).1 (readiness.sweep done waiting).2 := by
  have hfold := rt.foldl_visit setup false done [] waiting h
  rw [Bool.false_or] at hfold
  exact hfold

/-- A sweep leaves distinct names distinct. -/
theorem nodup_sweep {done waiting : List Component}
    (h : ((done ++ waiting).map Component.name).Nodup) :
    (((readiness.sweep done waiting).1 ++ (readiness.sweep done waiting).2).map
      Component.name).Nodup :=
  (((readiness.sweep_perm done waiting).map Component.name).nodup_iff).mpr h

/-- The outer loop is the schedule. -/
theorem loop_bootOf (n : Nat) {done waiting : List Component}
    (h : ((done ++ waiting).map Component.name).Nodup) :
    ∃ progressed, Boot.loop setup n (rt.bootOf setup true done waiting) =
      rt.bootOf setup progressed (readiness.schedule n done waiting).1
        (readiness.schedule n done waiting).2 := by
  induction n generalizing done waiting with
  | zero => exact ⟨true, rfl⟩
  | succ n ih =>
    have hwaiting : (waiting.map Component.name).Nodup :=
      h.sublist ((List.sublist_append_right done waiting).map _)
    unfold Boot.loop Readiness.schedule
    by_cases hnil : waiting = []
    · subst hnil
      exact ⟨true, by simp [bootOf, Readiness.sweep]⟩
    · rw [if_pos ⟨hnil, rfl⟩, pass_bootOf rt setup hwaiting]
      split
      · next hprogress =>
        rw [decide_eq_true hprogress]
        exact ih (nodup_sweep h)
      · next hidle =>
        rw [decide_eq_false hidle]
        refine ⟨false, ?_⟩
        cases n <;> simp [Boot.loop, bootOf]

/-- The components that `start` sets up, and those it leaves. -/
def scheduled (comps : List Component) : List Component × List Component :=
  readiness.schedule comps.length [] comps

variable {rt}

/-- `start` runs the schedule of the registered components. -/
theorem Registered.boot_eq {comps : List Component} (h : rt.Registered comps) :
    ∃ progressed, rt.boot setup =
      rt.bootOf setup progressed (scheduled comps).1 (scheduled comps).2 := by
  have hnodup : ((([] : List Component) ++ comps).map Component.name).Nodup := h.nodup
  obtain ⟨progressed, hloop⟩ := rt.loop_bootOf setup comps.length hnodup
  refine ⟨progressed, ?_⟩
  rw [scheduled, ← hloop, boot, h.components_eq]
  simp [bootOf, afterSetups, callsOf]

/-- The components set up are the scheduled ones. -/
theorem Registered.setUp_eq {comps : List Component} (h : rt.Registered comps) :
    rt.setUp setup = (scheduled comps).1 := by
  obtain ⟨progressed, hboot⟩ := h.boot_eq setup
  rw [setUp, hboot]
  exact map_snd_callsOf setup rt _

/-! ## What the setups leave -/

section AfterSetups

variable (rt : Runtime δ)

/-- Setups leave the registry. -/
theorem Registry.afterSetups {comps : List Component} (h : rt.Registry comps)
    (done : List Component) : (rt.afterSetups setup done).Registry comps := by
  induction done generalizing rt with
  | nil => exact h
  | cons d rest ih =>
    exact ih (rt.setUpNext setup d) ⟨h.components_eq, h.nodup, h.owned, h.unreserved, h.published⟩

/-- Setups extend the order. -/
theorem order_afterSetups (done : List Component) :
    (rt.afterSetups setup done).order = rt.order ++ done.map Component.name := by
  induction done generalizing rt with
  | nil => simp [Runtime.afterSetups]
  | cons d rest ih =>
    have hrest := ih (rt.setUpNext setup d)
    simp only [setUpNext, List.append_assoc] at hrest
    exact hrest

/-- A component that was set up is active when its `setup` returned. -/
theorem active_afterSetups (done : List Component) (name : String) :
    (rt.afterSetups setup done).active name =
      if name ∈ done.map Component.name then (setup name).succeeds else rt.active name := by
  induction done generalizing rt with
  | nil => simp [Runtime.afterSetups]
  | cons d rest ih =>
    have hrest := ih (rt.setUpNext setup d)
    simp only [Runtime.afterSetups, List.foldl_cons, List.map_cons, List.mem_cons] at hrest ⊢
    rw [hrest]
    by_cases hname : name = d.name
    · subst hname
      simp [setUpNext, setupOne]
    · simp [setUpNext, setupOne, hname]

/-- A component that was set up has its disposer stacked. -/
theorem disposers_afterSetups (done : List Component) (name : String) :
    (rt.afterSetups setup done).disposers name =
      if name ∈ done.map Component.name then (setup name).disposer else rt.disposers name := by
  induction done generalizing rt with
  | nil => simp [Runtime.afterSetups]
  | cons d rest ih =>
    have hrest := ih (rt.setUpNext setup d)
    simp only [Runtime.afterSetups, List.foldl_cons, List.map_cons, List.mem_cons] at hrest ⊢
    rw [hrest]
    by_cases hname : name = d.name
    · subst hname
      simp [setUpNext, setupOne]
    · simp [setUpNext, setupOne, hname]

end AfterSetups

/-- What `start` leaves: the setups of the scheduled components, and nothing else. -/
theorem Registered.start_eq {comps : List Component} (h : rt.Registered comps) :
    rt.start setup =
      .ok { rt.afterSetups setup (scheduled comps).1 with started := true } := by
  obtain ⟨progressed, hboot⟩ := h.boot_eq setup
  have hactive : ∀ name, (rt.afterSetups setup (scheduled comps).1).active name =
      ((rt.afterSetups setup (scheduled comps).1).active name &&
        (scheduled comps).2.all (·.name ≠ name)) := by
    intro name
    rw [active_afterSetups, h.idle]
    split
    · next hdone =>
      have hperm := (readiness.schedule_perm comps.length [] comps).map Component.name
      have hnodup := hperm.nodup_iff.mpr h.nodup
      rw [List.map_append, List.nodup_append] at hnodup
      have hnot : (scheduled comps).2.all (·.name ≠ name) = true := by
        rw [List.all_eq_true]
        intro d hd
        have hne := hnodup.2.2 name hdone d.name (List.mem_map_of_mem hd)
        simpa using hne.symm
      rw [hnot, Bool.and_true]
    · simp
  rw [start, if_neg (by simp [h.not_started]), hboot]
  simp only [bootOf, ← hactive]

/-- The names of the scheduled components are distinct. -/
theorem Registry.nodup_scheduled {comps : List Component} (h : rt.Registry comps) :
    ((scheduled comps).1.map Component.name).Nodup := by
  have hperm := (readiness.schedule_perm comps.length [] comps).map Component.name
  exact (hperm.nodup_iff.mpr h.nodup).sublist ((List.sublist_append_left _ _).map _)

/-- Scheduled components are registered. -/
theorem mem_of_mem_scheduled {comps : List Component} {d : Component}
    (hd : d ∈ (scheduled comps).1) : d ∈ comps :=
  (readiness.schedule_perm comps.length [] comps).mem_iff.mp (List.mem_append_left _ hd)

end Runtime
end LcpGateway.Components
