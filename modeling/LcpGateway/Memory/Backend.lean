import LcpGateway.Base.Double
import LcpGateway.Base.Object

/-!
# The memory backend

Library `Memory`. Source `src/api/memory/lancedb_backend.py`. A profile's facts are the rows of a
table of its own. Every call is a sequence of database operations, with the operations of other
calls in between. A table handle reads what the table holds when it is opened. Index building,
which changes no row, and logging are left out.
-/

namespace LcpGateway.Memory
open LcpGateway.Base

/-- A stored fact; `lancedb_backend.py:147–154`. -/
structure Row (V : Type) where
  id : String
  content : String
  metadata : String
  tags : List String
  vector : V
  createdAt : PyFloat

/-- The rows of every table; `none` is a table that does not exist. -/
abbrev Tables (V : Type) := String → Option (List (Row V))

/-- An exception with its text: a `MemoryError` of the backend, or any other. -/
inductive Trouble where
  | memory (text : String)
  | other (text : String)
  deriving DecidableEq, Repr

/-- The embedding model, LanceDB and the conversions of values that the backend calls. A table that
is created by overwriting is empty, rows are added behind the others, and `predicate` says which
rows the text of a filter deletes; `none` is a text that is no filter. -/
structure Lance (V : Type) where
  embed : String → Except Trouble V
  tableNames : Tables V → List String
  openError : String → String
  createError : String → Option String
  addError : Row V → Option String
  predicate : String → Option (Row V → Bool)
  search : List (Row V) → V → Option String → Int → Except String (List (Row V × Rat))
  str : Json → String
  dumpsDict : Json → Option String
  decodeMeta : String → Json

/-- A response: its status and body. -/
abbrev Answer := Nat × Json

/-- `self._send_json({"error": text}, 400)`. -/
def badRequest (text : String) : Answer := (400, .obj [("error", .str text)])

/-- The body of an error with a code. -/
def coded (status : Nat) (code message : String) : Answer :=
  (status, .obj [("error", .obj [("code", .str code), ("message", .str message)])])

/-- The answer to an exception that is no `MemoryError`; `endpoints.py:3408–3414`. -/
def internal : Answer := coded 500 "LCP-5001" "internal error"

/-- What `_embed` raises, as it leaves `retain` and `recall`; `lancedb_backend.py:139–144`. -/
def Trouble.embedding : Trouble → Answer
  | .memory text => badRequest text
  | .other text => badRequest ("embedding failed: " ++ text)

/-- A call of the backend, by the database operation it comes to next. -/
inductive Task (V : Type) where
  | retain (row : Row V)
  | openOrCreate (row : Row V) (listed : Bool)
  | add (row : Row V)
  | recallRows (query : String) (topK : Int) (tagFilter : Json)
  | search (vector : V) (topK : Int) (tagFilter : Json)
  | forget (id : String)
  | countBefore (id : String)
  | delete (id : String) (before : Nat)
  | count
  | countRows

namespace Lance

variable {V : Type} (L : Lance V)

/-- `[str(t).strip() for t in tags if str(t).strip()]`; `none` is a `TypeError`. -/
def tagTexts (tags : Json) : Option (List String) :=
  tags.iterate.map fun items ↦ (items.map fun item ↦ strip (L.str item)).filter (· ≠ "")

/-- `_sanitize`, with the metadata as the text that is stored; `lancedb_backend.py:125–131`. -/
def sanitize (content : String) (metadata tags : Json) :
    Except Trouble (String × String × List String) :=
  let content := strip content
  if content = "" then .error (.memory "memory content must be non-empty")
  else
    match L.dumpsDict (if metadata.truthy then metadata else .obj []) with
    | none => .error (.other "dict()")
    | some text =>
      match if tags.truthy then L.tagTexts tags else some [] with
      | none => .error (.other "tags")
      | some tags => .ok (content, text, tags)

/-- The text of a failure to open a table; `lancedb_backend.py:111–112`. -/
def accessFailure (profile error : String) : String :=
  "failed to access memory table '" ++ profile ++ "': " ++ error

/-- The filter of `forget`; `lancedb_backend.py:233`. -/
def deletion (id : String) : String := "id = '" ++ id ++ "'"

/-- The filter of `recall`; `lancedb_backend.py:184–193`. -/
def tagsHave (tags : List String) : String :=
  "array_has_all(tags, [" ++ ", ".intercalate (tags.map fun t ↦ "'" ++ t ++ "'") ++ "])"

/-- `round(1.0 / (1.0 + max(dist, 0.0)), 4)`. -/
def score (dist : Rat) : PyFloat := (PyFloat.fin (toDouble (1 / toDouble (1 + max dist 0)))).round 4

/-- One result; `lancedb_backend.py:212–223`. -/
def result (hit : Row V × Rat) : Json :=
  .obj [("id", .str hit.1.id), ("content", .str hit.1.content),
    ("metadata", L.decodeMeta hit.1.metadata), ("tags", .arr (hit.1.tags.map Json.str)),
    ("score", .float (score hit.2))]

/-- The answer to `recall`. -/
def results (hits : List (Row V × Rat)) : Answer :=
  (200, .obj [("results", .arr (hits.map L.result))])

/-- The search, and the search without the filter when it fails; `lancedb_backend.py:181–209`. -/
def find (rows : List (Row V)) (vector : V) (topK : Int) (tagFilter : Json) : Answer :=
  let plain := L.search rows vector none topK
  let filtered :=
    if tagFilter.truthy then
      match L.tagTexts tagFilter with
      | none => plain
      | some [] => plain
      | some tags =>
        match L.search rows vector (some (tagsHave tags)) topK with
        | .ok hits => .ok hits
        | .error _ => plain
    else plain
  match filtered with
  | .ok hits => L.results hits
  | .error text => badRequest ("memory recall failed: " ++ text)

/-- One database operation of a call of a profile: what its table holds afterwards, and the answer
or what is left of the call. -/
def operate (profile : String) (tables : Tables V) :
    Task V → Option (List (Row V)) × (Answer ⊕ Task V)
  | .retain row =>
    (tables profile, .inr (.openOrCreate row ((L.tableNames tables).contains profile)))
  | .openOrCreate row true =>
    match tables profile with
    | some rows => (some rows, .inr (.add row))
    | none => (none, .inl (badRequest
        ("failed to retain memory: " ++ accessFailure profile (L.openError profile))))
  | .openOrCreate row false =>
    match L.createError profile with
    | none => (some [], .inr (.add row))
    | some error => (tables profile, .inl (badRequest
        ("failed to retain memory: " ++ accessFailure profile error)))
  | .add row =>
    match tables profile with
    | none => (none, .inl (badRequest ("failed to retain memory: " ++ L.openError profile)))
    | some rows =>
      match L.addError row with
      | none => (some (rows ++ [row]), .inl (200, .obj [("memory_id", .str row.id)]))
      | some error => (some rows, .inl (badRequest ("failed to retain memory: " ++ error)))
  | .recallRows query topK tagFilter =>
    if topK ≤ 0 then (tables profile, .inl (L.results []))
    else if (L.tableNames tables).contains profile then
      match L.embed query with
      | .ok vector => (tables profile, .inr (.search vector topK tagFilter))
      | .error trouble => (tables profile, .inl trouble.embedding)
    else (tables profile, .inl (L.results []))
  | .search vector topK tagFilter =>
    match tables profile with
    | some rows => (some rows, .inl (L.find rows vector topK tagFilter))
    | none => (none, .inl (badRequest (accessFailure profile (L.openError profile))))
  | .forget id =>
    if (L.tableNames tables).contains profile then (tables profile, .inr (.countBefore id))
    else (tables profile, .inl (200, .obj [("deleted", .bool false)]))
  | .countBefore id =>
    match tables profile with
    | some rows => (some rows, .inr (.delete id rows.length))
    | none => (none, .inl (200, .obj [("deleted", .bool false)]))
  | .delete id before =>
    match tables profile, L.predicate (deletion id) with
    | some rows, some matched =>
      let kept := rows.filter fun row ↦ !matched row
      (some kept, .inl (200, .obj [("deleted", .bool (kept.length < before))]))
    | table, _ => (table, .inl (200, .obj [("deleted", .bool false)]))
  | .count =>
    if (L.tableNames tables).contains profile then (tables profile, .inr .countRows)
    else (tables profile, .inl (200, .obj [("count", .int 0)]))
  | .countRows =>
    let rows := (tables profile).getD []
    (tables profile, .inl (200, .obj [("count", .int rows.length)]))

end Lance
end LcpGateway.Memory
