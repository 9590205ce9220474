import LcpGateway.Base.Run
import LcpGateway.Capability.RegistryWrites
import LcpGateway.Config.RoundTrip

/-!
# Runs of registry writes

Library `Capability`. Source `src/server/endpoints.py:2913–3040`. An upsert compares its ids with
the ids of the same provider, while a lookup knows no providers. What the accepted writes of a run
have to keep apart is said by `TakesNone`.
-/

namespace LcpGateway.Capability
open LcpGateway.Base LcpGateway.Config

namespace RegistryBody

/-- The name and the entry that an accepted upsert writes, as the name lookups read them. -/
def written (body : RegistryBody) : String × RegistryEntry :=
  (normalizeModelId (lower (strip body.logicalName)),
    { benchmarkKey := normalizeModelId (lower (strip body.benchmarkKey)),
      providerMappings := body.providerMappings.getD Dict.empty })

/-- The written name is normalized. -/
theorem flat_written (body : RegistryBody) : Flat body.written.1 := by
  unfold written
  dsimp only
  exact flat_normalizeModelId (lower (strip body.logicalName))

end RegistryBody

/-- A write to the registry over the API. -/
inductive RegistryWrite where
  | upsert (body : RegistryBody)
  | delete (logical : String)

namespace ReleaseRegistry

/-- The registry after a request; a refused one leaves it as it is. -/
def write (registry : ReleaseRegistry) : RegistryWrite → ReleaseRegistry
  | .upsert body =>
    match serveRegistryUpsert registry body with
    | .ok (registry', _, _) => registry'
    | .error _ => registry
  | .delete logical =>
    match serveRegistryDelete registry logical with
    | .ok registry' => registry'
    | .error _ => registry

/-- The entries in front of the place that a name has, or gets. -/
def inFront (registry : ReleaseRegistry) (name : String) : List (String × RegistryEntry) :=
  registry.names.entries.takeWhile (fun e ↦ e.1 ≠ name)

/-- The entries behind the place of a name. -/
def behind (registry : ReleaseRegistry) (name : String) : List (String × RegistryEntry) :=
  (registry.names.entries.dropWhile (fun e ↦ e.1 ≠ name)).tail

/-- An accepted upsert takes no id of another entry, and none of its own is taken. -/
def WritesApart (registry : ReleaseRegistry) : RegistryWrite → Prop
  | .upsert body => ∀ accepted, serveRegistryUpsert registry body = .ok accepted →
      TakesNone (registry.inFront body.written.1) (registry.behind body.written.1) body.written
  | .delete _ => True

variable {registry registry' : ReleaseRegistry}

/-- What an accepted upsert does. -/
theorem names_of_serveRegistryUpsert {body : RegistryBody} {action name : String}
    (h : serveRegistryUpsert registry body = .ok (registry', action, name)) :
    registry'.names = registry.names.set body.written.1 body.written.2 := by
  unfold serveRegistryUpsert at h
  dsimp only at h
  split at h
  · cases h
  · split at h
    · cases h
    · split at h
      · cases h
      · next mappings hmappings =>
        split at h
        · cases h
        · simp only [Except.ok.injEq, Prod.mk.injEq] at h
          rw [← h.1, names, Dict.mapValues_set]
          simp [RegistryBody.written, hmappings, upsertedEntry, names]

/-- What an accepted removal does. -/
theorem names_of_serveRegistryDelete {logical : String}
    (h : serveRegistryDelete registry logical = .ok registry') :
    registry'.names = registry.names.filterKeys (fun name ↦ name ≠ logical) := by
  unfold serveRegistryDelete at h
  split at h
  · rw [← Except.ok.inj h, names, Dict.mapValues_filterKeys]
    rfl
  · cases h

/-- Names are normalized and no id is taken. -/
structure Apart (registry : ReleaseRegistry) : Prop where
  flat : registry.names.NamesFlat
  untaken : Untaken registry.names.entries

/-- A write puts its entry in front of what is behind its place. -/
theorem entries_write (registry : ReleaseRegistry) (written : String × RegistryEntry) :
    (registry.names.set written.1 written.2).entries =
      registry.inFront written.1 ++ written :: registry.behind written.1 := by
  rw [Dict.entries_set]
  rfl

/-- The entries around a place are entries. -/
theorem around_sublist (registry : ReleaseRegistry) (name : String) :
    (registry.inFront name ++ registry.behind name).Sublist registry.names.entries := by
  have hsplit := List.takeWhile_append_dropWhile
    (p := fun e : String × RegistryEntry ↦ decide (e.1 ≠ name)) (l := registry.names.entries)
  have htail : (registry.inFront name ++ registry.behind name).Sublist
      (registry.inFront name ++ registry.names.entries.dropWhile fun e ↦ e.1 ≠ name) :=
    (List.Sublist.refl _).append (List.tail_sublist _)
  exact hsplit ▸ htail

/-- The names stay normalized. -/
theorem namesFlat_write (h : registry.names.NamesFlat) (body : RegistryBody) :
    Registry.NamesFlat (registry.names.set body.written.1 body.written.2) := by
  intro e hmem
  rw [entries_write, List.mem_append, List.mem_cons] at hmem
  have hold : ∀ e ∈ registry.inFront body.written.1 ++ registry.behind body.written.1,
      Flat e.1 := fun e he ↦ h e ((registry.around_sublist body.written.1).subset he)
  obtain hfront | heq | hbehind := hmem
  · exact hold e (List.mem_append_left _ hfront)
  · rw [heq]
    exact body.flat_written
  · exact hold e (List.mem_append_right _ hbehind)

/-- Writes that keep ids apart leave them apart. -/
theorem apart_write (h : registry.Apart) (w : RegistryWrite) (hw : registry.WritesApart w) :
    (registry.write w).Apart := by
  cases w with
  | upsert body =>
    unfold write
    dsimp only
    cases hserved : serveRegistryUpsert registry body with
    | error failure => exact h
    | ok accepted =>
      obtain ⟨registry', action, name⟩ := accepted
      have hnames := names_of_serveRegistryUpsert hserved
      constructor
      · rw [hnames]
        exact namesFlat_write h.flat body
      · rw [hnames, entries_write]
        exact (untaken_write_iff _ _ _).mpr
          ⟨h.untaken.sublist (registry.around_sublist _), hw _ hserved⟩
  | delete logical =>
    unfold write
    dsimp only
    cases hserved : serveRegistryDelete registry logical with
    | error failure => exact h
    | ok registry' =>
      have hnames := names_of_serveRegistryDelete hserved
      have hsub : registry'.names.entries.Sublist registry.names.entries := by
        rw [hnames]
        exact List.filter_sublist
      exact ⟨fun e he ↦ h.flat e (hsub.subset he), h.untaken.sublist hsub⟩

/-- The empty registry. -/
theorem apart_empty : Apart Dict.empty :=
  ⟨nofun, nofun, nofun, List.Pairwise.nil⟩

/-- An upsert of a model with one id. -/
def oneId (name provider id : String) : RegistryBody where
  logicalName := name
  benchmarkKey := name
  activeRelease := ""
  providerMappings := some (Dict.empty.set provider id)

end ReleaseRegistry
end LcpGateway.Capability
