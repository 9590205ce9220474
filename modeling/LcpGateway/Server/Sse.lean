import LcpGateway.Base.Json
import LcpGateway.Base.Text

/-!
# Server-sent events

Library `Server`. Source `src/server/sse_helpers.py:10–66`. The JSON decoder is a given
function of the data text: every result here holds for all of them.
-/

namespace LcpGateway.Server
open LcpGateway.Base

/-- What `json.loads` does: a value, a `ValueError`, or another exception. -/
inductive Loads where
  | value (v : Json)
  | invalid
  | raised

/-- The data of one line; nothing on other lines, empty data and the end marker. -/
def dataOf (line : List Char) : Option String :=
  if "data:".toList.isPrefixOf line then
    let data := strip (String.ofList (line.drop 5))
    if data = "" ∨ data = "[DONE]" then none else some data
  else none

/-- The data texts of a buffer, in order. -/
def dataTexts (text : String) : List String := (text.toList.splitOn '\n').filterMap dataOf

/-- A decoded data text, exceptions ignored. -/
def Loads.toOption : Loads → Option Json
  | .value v => some v
  | _ => none

/-- `extract_last_sse_chunk`; `sse_helpers.py:10–22`. -/
def extractLastSseChunk (loads : String → Loads) (text : String) : Option Json :=
  ((dataTexts text).mapM (fun data ↦ (loads data).toOption)).bind List.getLast?

/-- `(choice.get("delta") or {}).get("content")` when it is a string; the outer option is
empty when a value has no `get`. -/
def choiceText (choice : Json) : Option String :=
  if !choice.isObj then none else
    let delta := (choice.get? "delta").getD .null
    if !delta.truthy then some ""
    else if !delta.isObj then none
    else
      match delta.get? "content" with
      | some (.str s) => some s
      | _ => some ""

/-- The text of one payload: the loop over `payload.get("choices") or []`. -/
def payloadText (payload : Json) : Option String :=
  if !payload.isObj then none else
    let choices := (payload.get? "choices").getD .null
    if !choices.truthy then some ""
    else
      match choices with
      | .arr items => (items.mapM choiceText).map String.join
      -- a number is not iterable; the keys of an object and the characters of a string are
      -- strings, which have no `get`
      | _ => none

/-- The text of one data text; what does not decode is skipped. -/
def dataText (decoded : Loads) : Option String :=
  match decoded with
  | .value payload => payloadText payload
  | .invalid => some ""
  | .raised => none

/-- `extract_sse_text`; `sse_helpers.py:25–55`. `none` is an exception. -/
def extractSseText (loads : String → Loads) (text : String) : Option String :=
  ((dataTexts text).mapM (fun data ↦ dataText (loads data))).map String.join

/-- `extract_message_text`; `sse_helpers.py:58–65`. `none` is the `KeyError` of indexing an
object. -/
def extractMessageText (response : List (String × Json)) : Option String :=
  let contentOf : Json → String := fun choice ↦
    match ((choice.get? "message").getD .null).get? "content" with
    | some (.str s) => s
    | _ => ""
  let choices := (response.lookup "choices").getD .null
  if !choices.truthy then some ""
  else
    match choices with
    | .arr (first :: _) => some (contentOf first)
    | .obj _ => none
    | _ => some ""

/-! ### What the readers take -/

/-- A choice whose delta is missing, empty or an object. -/
def ChoiceShaped (choice : Json) : Prop :=
  choice.isObj ∧ ∀ delta, choice.get? "delta" = some delta → delta.truthy → delta.isObj

/-- A payload with a list of choices, or none. -/
def PayloadShaped (payload : Json) : Prop :=
  payload.isObj ∧ ∀ choices, payload.get? "choices" = some choices → choices.truthy →
    ∃ items, choices = .arr items ∧ ∀ choice ∈ items, ChoiceShaped choice

/-- Every data text of the buffer is skipped or decodes to a chunk of a completion. -/
def SseShaped (loads : String → Loads) (text : String) : Prop :=
  ∀ data ∈ dataTexts text,
    loads data ≠ .raised ∧ ∀ payload, loads data = .value payload → PayloadShaped payload

/-- A choice is read exactly when it is shaped like one. -/
theorem choiceText_isSome_iff (choice : Json) :
    (choiceText choice).isSome ↔ ChoiceShaped choice := by
  unfold choiceText ChoiceShaped
  by_cases hobj : choice.isObj
  · simp only [hobj, Bool.not_true, Bool.false_eq_true, if_false, true_and]
    cases hdelta : choice.get? "delta" with
    | none => simp [Json.truthy]
    | some delta =>
      simp only [Option.getD_some, Option.some.injEq, forall_eq']
      by_cases htrue : delta.truthy
      · by_cases hd : delta.isObj
        · simp only [htrue, hd, Bool.not_true, Bool.false_eq_true, if_false, forall_const,
            iff_true]
          split <;> rfl
        · simp [htrue, hd]
      · simp [htrue]
  · simp [hobj]

/-- A payload is read exactly when it is shaped like a chunk. -/
theorem payloadText_isSome_iff (payload : Json) :
    (payloadText payload).isSome ↔ PayloadShaped payload := by
  unfold payloadText PayloadShaped
  by_cases hobj : payload.isObj
  · simp only [hobj, Bool.not_true, Bool.false_eq_true, if_false, true_and]
    cases hchoices : payload.get? "choices" with
    | none => simp [Json.truthy]
    | some choices =>
      simp only [Option.getD_some, Option.some.injEq, forall_eq']
      by_cases htrue : choices.truthy
      · simp only [htrue, Bool.not_true, Bool.false_eq_true, if_false, forall_const]
        cases choices with
        | arr items =>
          simp only [Option.isSome_map, isSome_mapM_iff, choiceText_isSome_iff,
            Json.arr.injEq, exists_eq_left']
        | null | bool | int | float | str | obj => simp
      · simp [htrue]
  · simp [hobj]

/-- The text of a stream is extracted exactly when its data is shaped like chunks. -/
theorem extractSseText_isSome_iff (loads : String → Loads) (text : String) :
    (extractSseText loads text).isSome ↔ SseShaped loads text := by
  unfold extractSseText SseShaped
  rw [Option.isSome_map, isSome_mapM_iff]
  refine forall₂_congr fun data _ ↦ ?_
  cases hdata : loads data with
  | value payload => simp [dataText, payloadText_isSome_iff]
  | invalid | raised => simp [dataText]

/-- The text of a reply is extracted unless its choices are a non-empty object. -/
theorem extractMessageText_isSome_iff (response : List (String × Json)) :
    (extractMessageText response).isSome ↔
      ∀ fields, response.lookup "choices" = some (.obj fields) → fields = [] := by
  unfold extractMessageText
  cases hchoices : response.lookup "choices" with
  | none => simp [Json.truthy]
  | some choices =>
    cases choices with
    | obj fields => cases fields <;> simp [Json.truthy]
    | arr items => cases items <;> simp [Json.truthy]
    | null | bool | int | float | str => simp

end LcpGateway.Server
