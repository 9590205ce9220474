import Mathlib.Data.List.Nodup
import Mathlib.Data.List.Pairwise
import Mathlib.Logic.Function.Basic

/-!
# The component runtime

Library `Components`. Source `src/api/runtime.py:33–215` and `src/api/component.py:31–66`. What a
component's `setup` does is a parameter of the calls: it returns a disposer or `None`, or raises.
Disposers are values of an arbitrary type; the calls of disposers and setups are returned.
-/

namespace LcpGateway.Components

/-- A component: its name, the keys it reads and the keys it publishes. -/
structure Component where
  name : String
  requires : List String
  provides : List String
  deriving DecidableEq, Repr

/-- The keys that resolve to a component: its name and what it provides. -/
def Component.keys (comp : Component) : List String := comp.name :: comp.provides

/-- What a call of `setup` ends with. -/
inductive Outcome (δ : Type) where
  | returned (disposer : Option δ)
  | raised
  deriving DecidableEq, Repr

namespace Outcome

variable {δ : Type}

/-- The disposer to stack. -/
def disposer : Outcome δ → Option δ
  | .returned d => d
  | .raised => none

/-- The call returned. -/
def succeeds : Outcome δ → Bool
  | .returned _ => true
  | .raised => false

end Outcome

/-- Keys owned by the runtime itself. -/
def ROOT_KEYS : List String := ["config", "engine", "data_dir"]

/-- The runtime: components in registration order, the owner of every published key, the names
in setup order, the stacked disposers and the active flags. -/
structure Runtime (δ : Type) where
  components : List Component
  provides : String → Option String
  order : List String
  disposers : String → Option δ
  active : String → Bool
  started : Bool

/-- What the calls of the runtime raise. -/
inductive RuntimeFailure where
  | nameTaken (name : String)
  | nameReserved (name : String)
  | keyReserved (name key : String)
  | keyTaken (key owner : String)
  | alreadyStarted
  | notRegistered (name : String)
  | notActive (name : String)
  | undeclaredDependency (key : String)
  deriving DecidableEq, Repr

namespace Runtime

variable {δ : Type}

/-- `Runtime()`. -/
def empty : Runtime δ := ⟨[], fun _ ↦ none, [], fun _ ↦ none, fun _ ↦ false, false⟩

/-- `_components.get`. -/
def component? (rt : Runtime δ) (name : String) : Option Component :=
  rt.components.find? (fun comp ↦ comp.name = name)

/-! ## Registration -/

/-- The first provided key that is reserved or taken; `runtime.py:69–75`. -/
def refusedKey (rt : Runtime δ) (name : String) : List String → Option RuntimeFailure
  | [] => none
  | key :: rest =>
    if key ∈ ROOT_KEYS then some (.keyReserved name key)
    else
      match rt.provides key with
      | some owner => some (.keyTaken key owner)
      | none => rt.refusedKey name rest

/-- `register`; `runtime.py:59–82`. -/
def register (rt : Runtime δ) (comp : Component) : Except RuntimeFailure (Runtime δ) :=
  if (rt.component? comp.name).isSome then .error (.nameTaken comp.name)
  else if comp.name ∈ ROOT_KEYS then .error (.nameReserved comp.name)
  else
    match rt.refusedKey comp.name comp.provides with
    | some failure => .error failure
    | none => .ok { rt with
        components := rt.components ++ [comp]
        active := Function.update rt.active comp.name false
        provides := fun key ↦ if key ∈ comp.keys then some comp.name else rt.provides key }

/-- Components registered one after another. -/
def registerAll : Runtime δ → List Component → Except RuntimeFailure (Runtime δ)
  | rt, [] => .ok rt
  | rt, comp :: rest => rt.register comp >>= fun rt' ↦ registerAll rt' rest

/-! ## Resolution -/

/-- What a key resolves to. -/
inductive Resolved where
  | root (key : String)
  | owner (name : String)
  deriving DecidableEq, Repr

/-- `resolve`; `runtime.py:86–104`. -/
def resolve (rt : Runtime δ) (key : String) : Except RuntimeFailure Resolved :=
  if key ∈ ROOT_KEYS then .ok (.root key)
  else
    match rt.provides key with
    | none => .error (.undeclaredDependency key)
    | some owner =>
      if rt.active owner then .ok (.owner owner) else .error (.undeclaredDependency key)

/-- The call of `resolve` returns. -/
def Resolves (rt : Runtime δ) (key : String) : Prop := (rt.resolve key).isOk

instance (rt : Runtime δ) (key : String) : Decidable (rt.Resolves key) :=
  inferInstanceAs (Decidable (_ = true))

/-! ## Setup and disposal of one component -/

/-- `_setup_one`, with what the component's `setup` ends with; `runtime.py:185–194`. -/
def setupOne (rt : Runtime δ) (name : String) (outcome : Outcome δ) : Runtime δ :=
  { rt with
    disposers := Function.update rt.disposers name outcome.disposer
    active := Function.update rt.active name outcome.succeeds }

/-- `_dispose_one`, after the call of the disposer; `runtime.py:196–204`. -/
def disposeOne (rt : Runtime δ) (name : String) : Runtime δ :=
  { rt with
    disposers := Function.update rt.disposers name none
    active := Function.update rt.active name false }

/-- `_dependents`; `runtime.py:206–215`. -/
def dependents (rt : Runtime δ) (name : String) : List Component :=
  let provided := name :: ((rt.component? name).map Component.provides).getD []
  rt.components.filter (fun comp ↦ comp.requires.any (· ∈ provided))

/-! ## The lifecycle -/

/-- The state of `start`'s loop, with the calls of `setup` made so far and the runtime each one
was passed. -/
structure Boot (δ : Type) where
  rt : Runtime δ
  pending : List Component
  ready : List String
  progressed : Bool
  calls : List (Runtime δ × Component)

/-- The body of the inner loop; `runtime.py:130–137`. -/
def Boot.visit (setup : String → Outcome δ) (b : Boot δ) (comp : Component) : Boot δ :=
  if comp.requires.all (fun r ↦ r ∈ b.ready ∨ r ∈ ROOT_KEYS) then
    { rt := { b.rt.setupOne comp.name (setup comp.name) with order := b.rt.order ++ [comp.name] }
      pending := b.pending.filter (·.name ≠ comp.name)
      ready := b.ready ++ comp.keys
      progressed := true
      calls := b.calls ++ [(b.rt, comp)] }
  else b

/-- One turn of the outer loop, over a copy of what is pending. -/
def Boot.pass (setup : String → Outcome δ) (b : Boot δ) : Boot δ :=
  b.pending.foldl (Boot.visit setup) { b with progressed := false }

/-- The outer loop; `runtime.py:126–137`. A turn that makes progress takes a component out of
`pending`, so as many turns as components are enough. -/
def Boot.loop (setup : String → Outcome δ) : Nat → Boot δ → Boot δ
  | 0, b => b
  | n + 1, b => if b.pending ≠ [] ∧ b.progressed then Boot.loop setup n (b.pass setup) else b

/-- The loop of `start`, with what each component's `setup` ends with. -/
def boot (rt : Runtime δ) (setup : String → Outcome δ) : Boot δ :=
  Boot.loop setup rt.components.length
    { rt := rt, pending := rt.components, ready := ROOT_KEYS, progressed := true, calls := [] }

/-- The components that `start` calls the `setup` of, in the order of the calls. -/
def setUp (rt : Runtime δ) (setup : String → Outcome δ) : List Component :=
  (rt.boot setup).calls.map Prod.snd

/-- `start`; `runtime.py:114–152`. -/
def start (rt : Runtime δ) (setup : String → Outcome δ) : Except RuntimeFailure (Runtime δ) :=
  if rt.started then .error .alreadyStarted
  else .ok { (rt.boot setup).rt with
    active := fun name ↦
      (rt.boot setup).rt.active name && ((rt.boot setup).pending.all (·.name ≠ name))
    started := true }

/-- What `reload` does: the runtime after it, the disposer it called and the components it
notified. -/
structure Reloaded (δ : Type) where
  rt : Runtime δ
  disposed : Option δ
  notified : List Component

/-- `reload`, with what the component's `setup` ends with; `runtime.py:154–170`. -/
def reload (rt : Runtime δ) (name : String) (outcome : Outcome δ) :
    Except RuntimeFailure (Reloaded δ) :=
  if (rt.component? name).isNone then .error (.notRegistered name)
  else if ¬ rt.active name then .error (.notActive name)
  else
    let rt' := (rt.disposeOne name).setupOne name outcome
    .ok ⟨rt', rt.disposers name, rt'.dependents name⟩

/-- One turn of `shutdown`'s loop: a stacked disposer is called and taken off. -/
def disposeNext (acc : Runtime δ × List δ) (name : String) : Runtime δ × List δ :=
  (acc.1.disposeOne name, acc.2 ++ (acc.1.disposers name).toList)

/-- `shutdown`, with the disposers in the order of their calls; `runtime.py:172–181`. -/
def shutdown (rt : Runtime δ) : Runtime δ × List δ :=
  let disposed := rt.order.reverse.foldl disposeNext (rt, [])
  ({ disposed.1 with
      order := []
      disposers := fun _ ↦ none
      active := fun _ ↦ false
      started := false },
    disposed.2)

end Runtime
end LcpGateway.Components
