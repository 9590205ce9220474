import LcpGateway.Base.Dict
import LcpGateway.Base.Text

/-!
# The model registry

Library `Config`. Source `src/api/router.py:76–98,447–536`. The registry maps each logical
model name to its benchmark key and its provider-side spellings; the reverse index resolves
any spelling back. The cached index is rebuilt whenever the registry changes, so it is
modelled as a function of the registry.
-/

namespace LcpGateway.Config
open LcpGateway.Base

/-- A registry entry, without the release columns the lookups do not read. -/
structure RegistryEntry where
  benchmarkKey : String
  providerMappings : Dict String String

/-- `{logical_name: entry}`. -/
abbrev Registry := Dict String RegistryEntry

/-- `index.setdefault(key, value)`. -/
def setDefault (index : Dict String String) (key value : String) : Dict String String :=
  if index.contains key then index else index.set key value

/-- `name.startswith(pre)`. -/
def startsWith (pre name : String) : Bool := pre.toList.isPrefixOf name.toList

/-- `name.endswith(suf)`. -/
def endsWith (suf name : String) : Bool := suf.toList.isSuffixOf name.toList

/-- `"/" in name`. -/
def hasSlash (name : String) : Bool := name.toList.contains '/'

/-- The path prefix step of `normalize_model_id`; `router.py:88–92`. -/
def stripModelPath (name : String) : String :=
  if startsWith "/models/" name then String.ofList (name.toList.drop 8)
  else if startsWith "/" name then String.ofList (name.toList.dropWhile (· = '/'))
  else name

/-- `normalize_model_id`; `router.py:76–98`. -/
def normalizeModelId (model : String) : String :=
  if model = "" then model else
    let name := stripModelPath (strip model)
    let name := if hasSlash name then lastSegment '/' name else name
    let name := if endsWith ".gguf" (lower name)
      then String.ofList (name.toList.take (name.toList.length - 5)) else name
    lower (strip name)

namespace Registry

/-- The declared spellings of one entry, verbatim; `router.py:468–473`. -/
def addDeclared (index : Dict String String) (logical : String) (entry : RegistryEntry) :
    Dict String String :=
  let index := index.set (lower logical) logical
  let index := if entry.benchmarkKey = "" then index
    else setDefault index (lower entry.benchmarkKey) logical
  entry.providerMappings.entries.foldl (fun index e ↦
    if e.2 = "" then index else setDefault index (lower e.2) logical) index

/-- The last path segments of one entry's spellings; `router.py:474–478`. -/
def addSegments (index : Dict String String) (logical : String) (entry : RegistryEntry) :
    Dict String String :=
  entry.providerMappings.entries.foldl (fun index e ↦
    if hasSlash e.2 then setDefault index (lower (strip (lastSegment '/' e.2))) logical
    else index) index

/-- `_alias_to_logical`; `router.py:447–482`. -/
def aliasToLogical (registry : Registry) : Dict String String :=
  let declared := registry.entries.foldl (fun index e ↦ addDeclared index e.1 e.2) Dict.empty
  registry.entries.foldl (fun index e ↦ addSegments index e.1 e.2) declared

/-- A truthy index hit. -/
def aliasOf (registry : Registry) (key : String) : Option String :=
  (registry.aliasToLogical.get? key).filter (· ≠ "")

/-- `logical_model_name`; `router.py:485–511`. -/
def logicalModelName (registry : Registry) (model : String) : String :=
  if model = "" then model else
    let key := lower (strip model)
    match registry.aliasOf key with
    | some mapped => mapped
    | none =>
      let bySegment := if hasSlash key then registry.aliasOf (strip (lastSegment '/' key)) else none
      bySegment.getD (normalizeModelId key)

/-- `benchmark_model_name`; `router.py:514–520`. -/
def benchmarkModelName (registry : Registry) (logical : String) : String :=
  match registry.get? logical with
  | some entry => entry.benchmarkKey
  | none => logical

/-- `provider_model_name`; `router.py:523–536`. -/
def providerModelName (registry : Registry) (logical provider : String) : String :=
  match registry.get? logical with
  | some entry => (entry.providerMappings.get? provider).getD logical
  | none => logical

end Registry
end LcpGateway.Config
