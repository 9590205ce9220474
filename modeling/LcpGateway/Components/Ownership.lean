import LcpGateway.Base.Effects
import LcpGateway.Components.Lifecycle

/-!
# Owners of keys

Library `Components`. Source `src/api/runtime.py:59–104`. A published key belongs to a component,
and the name of a component is one of its keys. `register` looks up the keys that a component
provides among the published ones, and its name among the names only.
-/

namespace LcpGateway.Components
open LcpGateway.Base

namespace Runtime

variable {δ : Type}

/-! ## Registration, one statement after the other -/

/-- The first loop of `register`; `runtime.py:69–75`. -/
def checkKeys (name : String) : List String → EStateM RuntimeFailure (Runtime δ) Unit
  | [] => pure ()
  | key :: rest => do
    stopIf (.keyReserved name key) (key ∈ ROOT_KEYS)
    let rt ← get
    match rt.provides key with
    | some owner => throw (.keyTaken key owner)
    | none => checkKeys name rest

/-- `self._provides[key] = owner`. -/
def publish (key owner : String) (rt : Runtime δ) : Runtime δ :=
  { rt with provides := Function.update rt.provides key (some owner) }

/-- The last loop of `register`; `runtime.py:81–82`. -/
def publishKeys (owner : String) : List String → EStateM RuntimeFailure (Runtime δ) Unit
  | [] => pure ()
  | key :: rest => do
    modify (publish key owner)
    publishKeys owner rest

/-- `register` on the runtime that it changes; `runtime.py:65–82`. -/
def registerInPlace (comp : Component) : EStateM RuntimeFailure (Runtime δ) Unit := do
  let rt ← get
  stopIf (.nameTaken comp.name) (rt.component? comp.name).isSome
  stopIf (.nameReserved comp.name) (comp.name ∈ ROOT_KEYS)
  checkKeys comp.name comp.provides
  modify fun rt ↦ { rt with components := rt.components ++ [comp] }
  modify fun rt ↦ { rt with active := Function.update rt.active comp.name false }
  modify (publish comp.name comp.name)
  publishKeys comp.name comp.provides

/-- A call on the runtime: a registration, or one of the lifecycle. -/
inductive Call (δ : Type) where
  | register (comp : Component)
  | lifecycle (op : Op δ)

/-- The runtime after a call. -/
def call (rt : Runtime δ) : Call δ → Runtime δ
  | .register comp => endState (registerInPlace comp rt)
  | .lifecycle op => rt.step op

/-! ## What is expected of it -/

/-- The first component that claimed a key, by its name or by what it provides. -/
def firstClaimant (rt : Runtime δ) (key : String) : Option Component :=
  rt.components.find? (fun comp ↦ key ∈ comp.keys)

/-- Every key is owned by the first component that claimed it. -/
def FirstOwned (rt : Runtime δ) : Prop :=
  ∀ key, rt.provides key = (rt.firstClaimant key).map Component.name

/-- The name of a component resolves to it, once it is active. -/
def NamesResolve (rt : Runtime δ) : Prop :=
  ∀ comp ∈ rt.components, rt.component? comp.name = some comp ∧
    rt.resolve comp.name = if rt.active comp.name then .ok (.owner comp.name)
      else .error (.undeclaredDependency comp.name)

/-- A call leaves every key with the first component that claimed it and every name with its
component, and a registration that raises leaves the runtime. -/
structure KeepsOwners (rt : Runtime δ) (c : Call δ) : Prop where
  owned : (rt.call c).FirstOwned
  named : (rt.call c).NamesResolve
  raised : ∀ comp, c = .register comp → wentThrough (registerInPlace comp rt) = false →
    rt.call c = rt

/-- The component is a new one whose provided keys are all free, and its name is a key that is
published already. -/
def Displaces (rt : Runtime δ) (comp : Component) : Prop :=
  rt.component? comp.name = none ∧ comp.name ∉ ROOT_KEYS ∧
    rt.refusedKey comp.name comp.provides = none ∧ (rt.provides comp.name).isSome = true

/-- The call is no registration that displaces an owner. -/
def DisplacesNothing (rt : Runtime δ) (c : Call δ) : Prop :=
  ∀ comp, c = .register comp → ¬ rt.Displaces comp

/-! ## The statements together -/

variable {rt : Runtime δ}

/-- The first loop stops at the first key that is refused, and changes nothing. -/
theorem checkKeys_eq (name : String) (keys : List String) :
    checkKeys name keys rt = match rt.refusedKey name keys with
      | some failure => .error failure rt
      | none => .ok () rt := by
  induction keys with
  | nil => rfl
  | cons key rest ih =>
    rw [checkKeys, refusedKey, stopIf_bind]
    by_cases hroot : key ∈ ROOT_KEYS
    · rw [if_pos hroot, if_pos (decide_eq_true hroot)]
    · rw [if_neg hroot, if_neg (by simpa using hroot), get_bind]
      cases hkey : rt.provides key with
      | some owner => rfl
      | none => exact ih

/-- The owner of a key after one is published. -/
theorem provides_publish (key owner other : String) :
    (publish key owner rt).provides other = if other = key then some owner else rt.provides other :=
  Function.update_apply rt.provides key (some owner) other

/-- The last loop gives the keys to their owner. -/
theorem publishKeys_eq (owner : String) (keys : List String) :
    publishKeys owner keys rt = .ok ()
      { rt with
        provides := fun key ↦ if key ∈ keys then some owner else rt.provides key } := by
  induction keys generalizing rt with
  | nil => simp [publishKeys, pure, EStateM.pure]
  | cons key rest ih =>
    rw [publishKeys, modify_bind, ih]
    congr 2
    funext other
    rw [provides_publish]
    by_cases hrest : other ∈ rest
    · rw [if_pos hrest, if_pos (List.mem_cons_of_mem key hrest)]
    · rw [if_neg hrest]
      by_cases hkey : other = key
      · rw [if_pos hkey, hkey, if_pos List.mem_cons_self]
      · rw [if_neg hkey, if_neg (by simp [hkey, hrest])]

/-- The statements together are `register`, and where it raises they have changed nothing. -/
theorem registerInPlace_eq (rt : Runtime δ) (comp : Component) :
    registerInPlace comp rt = match rt.register comp with
      | .ok rt' => .ok () rt'
      | .error failure => .error failure rt := by
  rw [registerInPlace, get_bind, stopIf_bind, register]
  by_cases htaken : (rt.component? comp.name).isSome = true
  · rw [if_pos htaken, if_pos htaken]
  rw [if_neg htaken, if_neg htaken, stopIf_bind]
  by_cases hreserved : comp.name ∈ ROOT_KEYS
  · rw [if_pos hreserved, if_pos (decide_eq_true hreserved)]
  rw [if_neg hreserved, if_neg (by simpa using hreserved)]
  have hcheck := @checkKeys_eq δ rt comp.name comp.provides
  cases hrefused : rt.refusedKey comp.name comp.provides with
  | some failure =>
    rw [hrefused] at hcheck
    rw [bind_of_error hcheck]
  | none =>
    rw [hrefused] at hcheck
    rw [bind_of_ok hcheck, modify_bind, modify_bind, modify_bind, publishKeys_eq]
    congr 2
    funext key
    rw [provides_publish, Component.keys]
    by_cases hkey : key ∈ comp.provides
    · rw [if_pos hkey, if_pos (List.mem_cons_of_mem comp.name hkey)]
    · rw [if_neg hkey]
      by_cases hname : key = comp.name
      · rw [if_pos hname, hname, if_pos List.mem_cons_self]
      · rw [if_neg hname, if_neg (by simp [hname, hkey])]

/-- A registration that raises leaves the runtime; any other one is `register`. -/
theorem call_register (rt : Runtime δ) (comp : Component) :
    rt.call (.register comp) = match rt.register comp with
      | .ok rt' => rt'
      | .error _ => rt := by
  rw [call, registerInPlace_eq]
  cases rt.register comp <;> rfl

/-! ## The lifecycle -/

/-- The runtime has the same components and the same owners. -/
def SameOwners (rt rt' : Runtime δ) : Prop :=
  rt'.components = rt.components ∧ rt'.provides = rt.provides

/-- A visit of the start loop keeps the owners. -/
theorem sameOwners_visit (setup : String → Outcome δ) (b : Boot δ) (comp : Component) :
    SameOwners b.rt (b.visit setup comp).rt := by
  unfold Boot.visit
  split <;> exact ⟨rfl, rfl⟩

/-- The start loop keeps the owners. -/
theorem sameOwners_loop (setup : String → Outcome δ) (turns : Nat) (b : Boot δ) :
    SameOwners b.rt (Boot.loop setup turns b).rt := by
  have hvisits : ∀ (comps : List Component) (b : Boot δ),
      SameOwners b.rt (comps.foldl (Boot.visit setup) b).rt := by
    intro comps
    induction comps with
    | nil => exact fun b ↦ ⟨rfl, rfl⟩
    | cons comp rest ih =>
      intro b
      obtain ⟨hcomponents, hprovides⟩ := sameOwners_visit setup b comp
      obtain ⟨hcomponents', hprovides'⟩ := ih (b.visit setup comp)
      exact ⟨hcomponents'.trans hcomponents, hprovides'.trans hprovides⟩
  induction turns generalizing b with
  | zero => exact ⟨rfl, rfl⟩
  | succ turns ih =>
    unfold Boot.loop
    split
    · obtain ⟨hcomponents, hprovides⟩ := hvisits b.pending { b with progressed := false }
      obtain ⟨hcomponents', hprovides'⟩ := ih (b.pass setup)
      exact ⟨hcomponents'.trans hcomponents, hprovides'.trans hprovides⟩
    · exact ⟨rfl, rfl⟩

/-- A call of the lifecycle keeps the owners. -/
theorem sameOwners_step (rt : Runtime δ) (op : Op δ) : SameOwners rt (rt.step op) := by
  cases op with
  | start setup =>
    unfold step start
    cases rt.started with
    | true => exact ⟨rfl, rfl⟩
    | false => exact sameOwners_loop setup rt.components.length _
  | reload name outcome =>
    rw [step_reload]
    split <;> exact ⟨rfl, rfl⟩
  | shutdown =>
    have hdisposals : ∀ (names : List String) (acc : Runtime δ × List δ),
        SameOwners acc.1 (names.foldl disposeNext acc).1 := by
      intro names
      induction names with
      | nil => exact fun acc ↦ ⟨rfl, rfl⟩
      | cons name rest ih => exact fun acc ↦ ih (disposeNext acc name)
    exact hdisposals rt.order.reverse (rt, [])

/-! ## Who owns a key -/

variable {rt' : Runtime δ} {comp : Component}

/-- What an accepted registration has looked up, and what it leaves. -/
structure Accepts (rt rt' : Runtime δ) (comp : Component) : Prop where
  fresh : rt.component? comp.name = none
  unreserved : comp.name ∉ ROOT_KEYS
  unrefused : rt.refusedKey comp.name comp.provides = none
  components : rt'.components = rt.components ++ [comp]
  provides : ∀ key, rt'.provides key = if key ∈ comp.keys then some comp.name else rt.provides key

/-- A registration is accepted, or it raises and leaves the runtime. -/
theorem call_register_cases (rt : Runtime δ) (comp : Component) :
    wentThrough (registerInPlace comp rt) = true ∧ Accepts rt (rt.call (.register comp)) comp ∨
      ¬ rt.Displaces comp ∧ rt.call (.register comp) = rt := by
  rw [call_register, registerInPlace_eq, register]
  by_cases htaken : (rt.component? comp.name).isSome = true
  · rw [if_pos htaken]
    refine .inr ⟨fun h ↦ ?_, rfl⟩
    rw [h.1] at htaken
    cases htaken
  rw [if_neg htaken]
  by_cases hreserved : comp.name ∈ ROOT_KEYS
  · rw [if_pos hreserved]
    exact .inr ⟨fun h ↦ h.2.1 hreserved, rfl⟩
  rw [if_neg hreserved]
  cases hrefused : rt.refusedKey comp.name comp.provides with
  | some failure =>
    refine .inr ⟨fun h ↦ ?_, rfl⟩
    rw [h.2.2.1] at hrefused
    cases hrefused
  | none =>
    exact .inl ⟨rfl, Option.not_isSome_iff_eq_none.mp htaken, hreserved, hrefused, rfl,
      fun _ ↦ rfl⟩

/-- A name is a key. -/
theorem name_mem_keys (comp : Component) : comp.name ∈ comp.keys := List.mem_cons_self

/-- A provided key that is not refused is not published. -/
theorem provides_of_refusedKey {name : String} {keys : List String}
    (h : rt.refusedKey name keys = none) : ∀ key ∈ keys, rt.provides key = none := by
  induction keys with
  | nil => exact fun _ hkey ↦ absurd hkey List.not_mem_nil
  | cons key rest ih =>
    unfold refusedKey at h
    split at h
    · cases h
    · split at h
      · cases h
      · next hkey => exact List.forall_mem_cons.mpr ⟨hkey, ih h⟩

/-- The names are different, none is reserved, and each is owned by its component. -/
structure Named (rt : Runtime δ) : Prop where
  nodup : (rt.components.map Component.name).Nodup
  unreserved : ∀ comp ∈ rt.components, comp.name ∉ ROOT_KEYS
  owned : ∀ comp ∈ rt.components, rt.provides comp.name = some comp.name

/-- A new name is that of no component. -/
theorem Accepts.name_ne (h : Accepts rt rt' comp) : ∀ other ∈ rt.components,
    other.name ≠ comp.name := by
  intro other hother heq
  have hnone := List.find?_eq_none.mp h.fresh other hother
  exact hnone (decide_eq_true heq)

/-- An accepted registration keeps every name with its component. -/
theorem Accepts.named (h : Accepts rt rt' comp) (hnamed : rt.Named) : rt'.Named := by
  constructor
  · rw [h.components, List.map_append, List.map_singleton]
    refine List.nodup_append.mpr ⟨hnamed.nodup, List.nodup_singleton _, ?_⟩
    intro name hname name' hname'
    obtain ⟨other, hother, rfl⟩ := List.mem_map.mp hname
    rw [List.mem_singleton.mp hname']
    exact h.name_ne other hother
  · rw [h.components]
    intro other hother
    obtain hother | hother := List.mem_append.mp hother
    · exact hnamed.unreserved other hother
    · rw [List.mem_singleton.mp hother]
      exact h.unreserved
  · rw [h.components]
    intro other hother
    rw [h.provides]
    obtain hother | hother := List.mem_append.mp hother
    · have howned := hnamed.owned other hother
      -- a provided key that is somebody's name would have been refused
      have hkey : other.name ∉ comp.keys := by
        intro hkey
        obtain hname | hprovided := List.mem_cons.mp hkey
        · exact h.name_ne other hother hname
        · rw [provides_of_refusedKey h.unrefused _ hprovided] at howned
          cases howned
      rw [if_neg hkey, howned]
    · rw [List.mem_singleton.mp hother, if_pos (name_mem_keys comp)]

/-- Runtimes with the same owners have the same names. -/
theorem SameOwners.named (h : SameOwners rt rt') (hnamed : rt.Named) : rt'.Named := by
  obtain ⟨hcomponents, hprovides⟩ := h
  constructor
  · rw [hcomponents]
    exact hnamed.nodup
  · rw [hcomponents]
    exact hnamed.unreserved
  · rw [hcomponents, hprovides]
    exact hnamed.owned

/-- A name that is owned by its component resolves to it. -/
theorem Named.namesResolve (h : rt.Named) : rt.NamesResolve := by
  intro comp hcomp
  constructor
  · cases hfind : rt.component? comp.name with
    | none => exact absurd (decide_eq_true rfl) (List.find?_eq_none.mp hfind comp hcomp)
    | some found =>
      have hname : found.name = comp.name := by
        simpa using List.find?_some (p := fun c : Component ↦ c.name = comp.name) hfind
      have hmem := List.mem_of_find?_eq_some hfind
      rw [List.inj_on_of_nodup_map h.nodup hmem hcomp hname]
  · rw [resolve, if_neg (h.unreserved comp hcomp), h.owned comp hcomp]

/-- Every call keeps every name with its component. -/
theorem named_call (h : rt.Named) (c : Call δ) : (rt.call c).Named := by
  cases c with
  | register comp =>
    obtain ⟨-, haccepts⟩ | ⟨-, hsame⟩ := call_register_cases rt comp
    · exact haccepts.named h
    · rw [hsame]
      exact h
  | lifecycle op => exact (sameOwners_step rt op).named h

/-- An accepted registration leaves every key with its first claimant exactly when its name was
not published. -/
theorem Accepts.firstOwned_iff (h : Accepts rt rt' comp) (howned : rt.FirstOwned) :
    rt'.FirstOwned ↔ rt.provides comp.name = none := by
  have hclaimant : ∀ key, rt'.firstClaimant key =
      (rt.firstClaimant key).or (if key ∈ comp.keys then some comp else none) := by
    intro key
    rw [firstClaimant, h.components, List.find?_append, List.find?_singleton]
    simp only [decide_eq_true_eq]
    rfl
  constructor
  · intro hfirst
    have hname := hfirst comp.name
    rw [h.provides, if_pos (name_mem_keys comp), hclaimant] at hname
    cases hold : rt.firstClaimant comp.name with
    | none => rw [howned, hold, Option.map_none]
    | some other =>
      rw [hold, Option.some_or, Option.map_some] at hname
      have hother := List.mem_of_find?_eq_some hold
      exact absurd (Option.some.inj hname).symm (h.name_ne other hother)
  · intro hfree key
    rw [h.provides, hclaimant]
    by_cases hkey : key ∈ comp.keys
    · have hnone : rt.provides key = none := by
        obtain rfl | hprovided := List.mem_cons.mp hkey
        · exact hfree
        · exact provides_of_refusedKey h.unrefused key hprovided
      rw [howned, Option.map_eq_none_iff] at hnone
      rw [if_pos hkey, if_pos hkey, hnone, Option.none_or, Option.map_some]
    · rw [if_neg hkey, if_neg hkey, Option.or_none]
      exact howned key

/-- A call keeps the owners exactly when it is no registration that displaces one. -/
theorem keepsOwners_iff (hnamed : rt.Named) (howned : rt.FirstOwned) (c : Call δ) :
    rt.KeepsOwners c ↔ rt.DisplacesNothing c := by
  have hresolve := (named_call hnamed c).namesResolve
  cases c with
  | register comp =>
    obtain ⟨hthrough, haccepts⟩ | ⟨hnot, hsame⟩ := call_register_cases rt comp
    · have hiff := haccepts.firstOwned_iff howned
      constructor
      · rintro ⟨hfirst, -, -⟩ other ⟨rfl⟩ ⟨-, -, -, hpublished⟩
        rw [hiff.mp hfirst] at hpublished
        cases hpublished
      · intro hguard
        refine ⟨hiff.mpr ?_, hresolve, ?_⟩
        · rw [← Option.not_isSome_iff_eq_none]
          exact fun hpublished ↦ hguard comp rfl
            ⟨haccepts.fresh, haccepts.unreserved, haccepts.unrefused, hpublished⟩
        · rintro other ⟨rfl⟩ hraised
          rw [hthrough] at hraised
          cases hraised
    · constructor
      · rintro - other ⟨rfl⟩
        exact hnot
      · intro _
        refine ⟨?_, hresolve, fun _ _ _ ↦ hsame⟩
        rw [hsame]
        exact howned
  | lifecycle op =>
    constructor
    · intro _ comp hcall
      cases hcall
    · intro _
      refine ⟨?_, hresolve, fun comp hcall ↦ ?_⟩
      · obtain ⟨hcomponents, hprovides⟩ := sameOwners_step rt op
        intro key
        rw [call, hprovides, firstClaimant, hcomponents]
        exact howned key
      · cases hcall

/-- In every run of registrations and lifecycle calls, every name resolves to its component and a
registration that raises leaves the runtime; and every key stays with the first component that
claimed it exactly when no registration displaces an owner. -/
theorem keepsOwners_run_iff (calls : List (Call δ)) :
    (∀ p ∈ steps call (empty : Runtime δ) calls, (p.1.call p.2).NamesResolve) ∧
      ((∀ p ∈ steps call (empty : Runtime δ) calls, p.1.KeepsOwners p.2) ↔
        ∀ p ∈ steps call (empty : Runtime δ) calls, p.1.DisplacesNothing p.2) := by
  have hempty : (empty : Runtime δ).Named :=
    ⟨List.nodup_nil, fun _ hcomp ↦ absurd hcomp List.not_mem_nil,
      fun _ hcomp ↦ absurd hcomp List.not_mem_nil⟩
  have hkeep : ∀ (rt : Runtime δ) (c : Call δ), rt.Named → True → (rt.call c).Named :=
    fun _ c hnamed _ ↦ named_call hnamed c
  have hresolve : ∀ (rt : Runtime δ) (c : Call δ), rt.Named → True → (rt.call c).NamesResolve :=
    fun _ c hnamed _ ↦ (named_call hnamed c).namesResolve
  have hsafe : ∀ (rt : Runtime δ) (c : Call δ), rt.Named ∧ rt.FirstOwned → True →
      (rt.KeepsOwners c ↔ rt.DisplacesNothing c) :=
    fun _ c hinv _ ↦ keepsOwners_iff hinv.1 hinv.2 c
  have howned : ∀ (rt : Runtime δ) (c : Call δ), rt.Named ∧ rt.FirstOwned → True →
      rt.DisplacesNothing c → (rt.call c).Named ∧ (rt.call c).FirstOwned :=
    fun rt c hinv _ hguard ↦
      ⟨named_call hinv.1 c, ((hsafe rt c hinv trivial).mpr hguard).owned⟩
  exact ⟨steps_safe_of_guard hresolve hkeep empty calls hempty fun _ _ ↦ trivial,
    steps_safe_iff hsafe howned empty calls ⟨hempty, fun _ ↦ rfl⟩ fun _ _ ↦ trivial⟩

/-- A component that provides a key, and one that has the key for a name. -/
def sameKeyTwice : List (Call Unit) :=
  [.register ⟨"settings_store", [], ["settings"]⟩, .register ⟨"settings", [], []⟩]

/-- The key moves from the component that provides it to the one of that name. -/
theorem settings_displaced :
    ¬ ∀ p ∈ steps call (empty : Runtime Unit) sameKeyTwice, p.1.KeepsOwners p.2 := by
  intro h
  have hlast := (h _ (List.mem_cons_of_mem _ List.mem_cons_self)).owned "settings"
  have hmoved : (((empty : Runtime Unit).call
      (.register ⟨"settings_store", [], ["settings"]⟩)).call
        (.register ⟨"settings", [], []⟩)).provides "settings" = some "settings" := by decide
  rw [hmoved] at hlast
  exact absurd hlast (by decide)

end Runtime
end LcpGateway.Components
