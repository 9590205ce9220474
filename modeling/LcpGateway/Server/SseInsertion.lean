import LcpGateway.Base.Utf8
import LcpGateway.Pipeline.ReasoningStore
import LcpGateway.Server.ChatCompletions

/-!
# Events the client would ignore

Library `Server`. Sources `src/server/sse_helpers.py:10–55`,
`src/api/request_pipeline.py:249–284` and `src/server/handler.py:525–576`. Three readers go over
the bytes of a finished stream. The billing takes the usage of the last data event of a stream
that decodes throughout; the other two skip data that does not decode.
-/

namespace LcpGateway.Server
open LcpGateway.Accounting LcpGateway.Base LcpGateway.Config LcpGateway.Pipeline

/-! ## Billing -/

/-- What a finished stream is billed from: a reported usage, the estimate, or nothing when the last
event has no `get`. -/
inductive Billing where
  | reported (usage : Json)
  | estimated
  | failed

/-- The choice of `_serve_chat_completions`; `handler.py:532–563`. -/
def billing (loads : String → Loads) (text : String) : Billing :=
  match (extractLastSseChunk loads text).filter Json.truthy with
  | none => .estimated
  | some chunk =>
    if !chunk.isObj then .failed
    else
      match (chunk.get? "usage").filter Json.truthy with
      | none => .estimated
      | some usage => .reported usage

/-- The row that is written for it; `handler.py:552–566`. -/
def Gateway.billedRow (gw : Gateway) (env : Surroundings) (a : Admitted)
    (provider model : String) : Billing → Option RequestRow
  | .reported usage => account gw.cfg gw.book env.billedAt a.profile provider model usage
      a.blockedTools
  | .estimated => recordCost a.profile model provider
      ⟨.int env.estimate.1, .int 0, 0, .int env.estimate.1, env.estimate.2, false⟩ true none
      a.blockedTools none
  | .failed => none

/-- The accounting of a stream depends on its text through what it is billed from. -/
theorem accountStream_eq (gw : Gateway) (env : Surroundings) (a : Admitted)
    (provider model text : String) :
    gw.accountStream env a provider model text =
      gw.billedRow env a provider model (billing env.loads text) := by
  unfold Gateway.accountStream billing
  cases (extractLastSseChunk env.loads text).filter Json.truthy with
  | none => rfl
  | some chunk =>
    dsimp only
    split
    · rfl
    · cases (chunk.get? "usage").filter Json.truthy <;> rfl

/-- The last data event of a stream that decodes throughout reports this usage. -/
structure LastReports (loads : String → Loads) (text : String) (usage : Json) : Prop where
  decodes : ∀ data ∈ dataTexts text, (loads data).toOption.isSome = true
  last : ∃ data chunk, (dataTexts text).getLast? = some data ∧ loads data = .value chunk ∧
    chunk.isObj = true ∧ chunk.get? "usage" = some usage
  reported : usage.truthy = true

/-- A value that was decoded. -/
theorem toOption_eq_some_iff {decoded : Loads} {v : Json} :
    decoded.toOption = some v ↔ decoded = .value v := by
  cases decoded <;> simp [Loads.toOption]

/-- A usage is billed exactly when the last event reports it. -/
theorem billing_eq_reported_iff (loads : String → Loads) (text : String) (usage : Json) :
    billing loads text = .reported usage ↔ LastReports loads text usage := by
  have hlast : ∀ chunk, extractLastSseChunk loads text = some chunk ↔
      (∀ data ∈ dataTexts text, (loads data).toOption.isSome = true) ∧
        ∃ data, (dataTexts text).getLast? = some data ∧ loads data = .value chunk := by
    intro chunk
    rw [extractLastSseChunk, getLast?_mapM_eq_some_iff]
    simp only [toOption_eq_some_iff]
  unfold billing
  constructor
  · intro h
    split at h
    · cases h
    · next chunk hchunk =>
      obtain ⟨hextracted, -⟩ := Option.filter_eq_some_iff.mp hchunk
      obtain ⟨hdecodes, data, hdata, hloads⟩ := (hlast chunk).mp hextracted
      split at h
      · cases h
      · next hobj =>
        split at h
        · cases h
        · next found hfound =>
          obtain ⟨hget, htrue⟩ := Option.filter_eq_some_iff.mp hfound
          obtain rfl : found = usage := Billing.reported.inj h
          exact ⟨hdecodes, ⟨data, chunk, hdata, hloads, by simpa using hobj, hget⟩, htrue⟩
  · rintro ⟨hdecodes, ⟨data, chunk, hdata, hloads, hobj, hget⟩, htrue⟩
    have hfields : chunk.truthy = true := by
      cases chunk with
      | obj fields =>
        cases fields with
        | nil => cases hget
        | cons field rest => rfl
      | null | bool | int | float | str | arr => cases hobj
    rw [(hlast chunk).mpr ⟨hdecodes, data, hdata, hloads⟩, Option.filter_some, if_pos hfields]
    dsimp only
    rw [hobj, hget, Option.filter_some, if_pos htrue]
    rfl

/-! ## Bytes -/

/-- The data texts of a buffer. -/
def eventData (raw : List UInt8) : List String := dataTexts (Utf8.decode raw)

/-- The buffer ends with a line, or is empty. -/
def EndsLine (raw : List UInt8) : Prop := raw = [] ∨ ∃ lines, raw = lines ++ [10]

/-- An event between two parts of a buffer. -/
def inserted (before event behind : List UInt8) : List UInt8 := before ++ (event ++ 10 :: behind)

/-- The data of a buffer is that in front of a line end and that behind it. -/
theorem eventData_line (before behind : List UInt8) :
    eventData (before ++ 10 :: behind) = eventData before ++ eventData behind := by
  have hdecoded := Utf8.decodeFrom_append_ascii none before behind (b := 10) (by decide)
  have hnewline : Char.ofNat (10 : UInt8).toNat = '\n' := by decide
  have hsplit : ∀ xs ys : List Char,
      (xs ++ '\n' :: ys).splitOn '\n' = xs.splitOn '\n' ++ ys.splitOn '\n' := by
    intro xs ys
    simp only [List.splitOn_eq_splitOnP]
    exact List.splitOnP_append_cons xs ys rfl
  unfold eventData dataTexts Utf8.decode
  rw [String.toList_ofList, String.toList_ofList, String.toList_ofList, hdecoded, hnewline,
    hsplit, List.filterMap_append]

/-- No bytes, no data. -/
theorem eventData_nil : eventData [] = [] := by decide

/-- Data is appended behind a line end. -/
theorem eventData_append {before : List UInt8} (h : EndsLine before) (behind : List UInt8) :
    eventData (before ++ behind) = eventData before ++ eventData behind := by
  obtain rfl | ⟨lines, rfl⟩ := h
  · rw [eventData_nil, List.nil_append, List.nil_append]
  · rw [List.append_assoc, List.singleton_append, eventData_line, eventData_line lines [],
      eventData_nil, List.append_nil]

/-- The data of the event comes between that of the parts. -/
theorem eventData_inserted {before : List UInt8} (h : EndsLine before)
    (event behind : List UInt8) :
    eventData (inserted before event behind) =
      eventData before ++ (eventData event ++ eventData behind) := by
  rw [inserted, eventData_append h, eventData_line]

/-! ## Insertion -/

/-- The three readers find the same in two buffers. -/
structure SameReadings (loads : String → Loads) (raw raw' : List UInt8) : Prop where
  billing : billing loads (Utf8.decode raw') = billing loads (Utf8.decode raw)
  text : extractSseText loads (Utf8.decode raw') = extractSseText loads (Utf8.decode raw)
  captured : captureOfSse loads (Utf8.decode raw') = captureOfSse loads (Utf8.decode raw)

/-- An event the client would ignore: no data, or data that is not JSON, no object, or an object
whose choices are null. -/
inductive Ignored (loads : String → Loads) (event : List UInt8) : Prop
  | comment (h : eventData event = [])
  | undecodable (data : String) (h : eventData event = [data]) (hloads : loads data = .invalid)
  | noObject (data : String) (v : Json) (h : eventData event = [data])
      (hloads : loads data = .value v) (hobj : v.isObj = false)
  | nullChoices (data : String) (v : Json) (h : eventData event = [data])
      (hloads : loads data = .value v) (hobj : v.isObj = true)
      (hnull : v.get? "choices" = some .null)

/-- What each ignored event leaves alone. -/
structure LeftAlone (loads : String → Loads) (before event behind : List UInt8) : Prop where
  comment : eventData event = [] →
    SameReadings loads (before ++ behind) (inserted before event behind)
  undecodable : ∀ data, eventData event = [data] → loads data = .invalid →
    extractSseText loads (Utf8.decode (inserted before event behind)) =
        extractSseText loads (Utf8.decode (before ++ behind)) ∧
      captureOfSse loads (Utf8.decode (inserted before event behind)) =
        captureOfSse loads (Utf8.decode (before ++ behind)) ∧
      billing loads (Utf8.decode (inserted before event behind)) = .estimated
  nullChoices : ∀ data v, eventData event = [data] → loads data = .value v → v.isObj = true →
    v.get? "choices" = some .null →
      extractSseText loads (Utf8.decode (inserted before event behind)) =
        extractSseText loads (Utf8.decode (before ++ behind))
  notLast : ∀ data v, eventData event = [data] → loads data = .value v → eventData behind ≠ [] →
    billing loads (Utf8.decode (inserted before event behind)) =
      billing loads (Utf8.decode (before ++ behind))

section Insertion

variable {loads : String → Loads} {before event behind : List UInt8} {data : String}

/-- A buffer is read through its data. -/
theorem sameReadings_of_eventData {raw raw' : List UInt8} (h : eventData raw' = eventData raw) :
    SameReadings loads raw raw' := by
  have hdata : dataTexts (Utf8.decode raw') = dataTexts (Utf8.decode raw) := h
  constructor
  · rw [billing, billing, extractLastSseChunk, extractLastSseChunk, hdata]
  · rw [extractSseText, extractSseText, hdata]
  · rw [captureOfSse, captureOfSse, hdata]

/-- Data without text leaves the text alone. -/
theorem extractSseText_inserted (h : EndsLine before) (hevent : eventData event = [data])
    (hsilent : dataText (loads data) = some "") :
    extractSseText loads (Utf8.decode (inserted before event behind)) =
      extractSseText loads (Utf8.decode (before ++ behind)) := by
  have hinserted : dataTexts (Utf8.decode (inserted before event behind)) =
      eventData before ++ ([data] ++ eventData behind) := by
    rw [← hevent]
    exact eventData_inserted h event behind
  have hplain : dataTexts (Utf8.decode (before ++ behind)) =
      eventData before ++ eventData behind := eventData_append h behind
  have hjoin : ∀ xs ys : List String,
      String.join (xs ++ ([""] ++ ys)) = String.join (xs ++ ys) := by
    intro xs ys
    simp [String.join]
  rw [extractSseText, extractSseText, hinserted, hplain]
  simp only [List.mapM_append, List.mapM_cons, List.mapM_nil, hsilent]
  cases (eventData before).mapM fun data ↦ dataText (loads data) with
  | none => rfl
  | some xs =>
    cases (eventData behind).mapM fun data ↦ dataText (loads data) with
    | none => rfl
    | some ys => exact congrArg some (hjoin xs ys)

/-- Data that does not decode leaves the capture alone. -/
theorem captureOfSse_inserted (h : EndsLine before) (hevent : eventData event = [data])
    (hloads : (loads data).toOption = none) :
    captureOfSse loads (Utf8.decode (inserted before event behind)) =
      captureOfSse loads (Utf8.decode (before ++ behind)) := by
  have hchunks : (dataTexts (Utf8.decode (inserted before event behind))).filterMap
      (fun data ↦ (loads data).toOption) =
        (dataTexts (Utf8.decode (before ++ behind))).filterMap
          (fun data ↦ (loads data).toOption) := by
    have hinserted := eventData_inserted h event behind
    have hplain := eventData_append h behind
    unfold eventData at hinserted hplain hevent
    rw [hinserted, hplain, hevent]
    simp [hloads]
  rw [captureOfSse, captureOfSse, hchunks]

/-- Data that does not decode leaves no chunk to bill. -/
theorem billing_inserted_undecodable (h : EndsLine before) (hevent : eventData event = [data])
    (hloads : (loads data).toOption = none) :
    billing loads (Utf8.decode (inserted before event behind)) = .estimated := by
  have hnone : extractLastSseChunk loads (Utf8.decode (inserted before event behind)) = none := by
    rw [Option.eq_none_iff_forall_ne_some]
    intro chunk hchunk
    obtain ⟨hdecodes, -⟩ := getLast?_mapM_eq_some_iff.mp hchunk
    have hmem : data ∈ dataTexts (Utf8.decode (inserted before event behind)) := by
      change data ∈ eventData (inserted before event behind)
      simp [eventData_inserted h, hevent]
    have hsome := hdecodes data hmem
    rw [hloads] at hsome
    cases hsome
  rw [billing, hnone]
  rfl

/-- Data that decodes in front of other data leaves the last chunk alone. -/
theorem billing_inserted_of_decoded (h : EndsLine before) (hevent : eventData event = [data])
    (hloads : (loads data).toOption.isSome = true) (hbehind : eventData behind ≠ []) :
    billing loads (Utf8.decode (inserted before event behind)) =
      billing loads (Utf8.decode (before ++ behind)) := by
  have hlast : extractLastSseChunk loads (Utf8.decode (inserted before event behind)) =
      extractLastSseChunk loads (Utf8.decode (before ++ behind)) := by
    have hinserted := eventData_inserted h event behind
    have hplain := eventData_append h behind
    rw [hevent] at hinserted
    unfold eventData at hinserted hplain hbehind
    have hend : (dataTexts (Utf8.decode before) ++ ([data] ++
        dataTexts (Utf8.decode behind))).getLast? =
          (dataTexts (Utf8.decode before) ++ dataTexts (Utf8.decode behind)).getLast? := by
      rw [← List.append_assoc, List.getLast?_append_of_ne_nil _ hbehind,
        List.getLast?_append_of_ne_nil _ hbehind]
    ext chunk
    rw [extractLastSseChunk, extractLastSseChunk, hinserted, hplain, getLast?_mapM_eq_some_iff,
      getLast?_mapM_eq_some_iff, hend]
    simp only [List.forall_mem_append, List.forall_mem_singleton, hloads, true_and]
  rw [billing, billing, hlast]

/-- An object whose choices are null has no text. -/
theorem payloadText_nullChoices {v : Json} (hobj : v.isObj = true)
    (hnull : v.get? "choices" = some .null) : payloadText v = some "" := by
  unfold payloadText
  rw [hobj, hnull]
  rfl

end Insertion

/-- What an event that is inserted between two lines leaves alone. The usage that is billed is the
one of the last event, of a stream that decodes throughout; and the text of a stream of completion
chunks is extracted. -/
theorem sse_insertion (loads : String → Loads) :
    (∀ before event behind, EndsLine before → LeftAlone loads before event behind) ∧
      (∀ raw usage, billing loads (Utf8.decode raw) = .reported usage ↔
        LastReports loads (Utf8.decode raw) usage) ∧
      ∀ raw, SseShaped loads (Utf8.decode raw) →
        (extractSseText loads (Utf8.decode raw)).isSome = true := by
  refine ⟨fun before event behind h ↦ ?_, fun raw ↦ billing_eq_reported_iff loads _,
    fun raw ↦ (extractSseText_isSome_iff loads _).mpr⟩
  constructor
  · intro hcomment
    apply sameReadings_of_eventData
    rw [eventData_inserted h, hcomment, List.nil_append, eventData_append h]
  · intro data hevent hloads
    have hnone : (loads data).toOption = none := by rw [hloads]; rfl
    refine ⟨extractSseText_inserted h hevent ?_, captureOfSse_inserted h hevent hnone,
      billing_inserted_undecodable h hevent hnone⟩
    rw [hloads]
    rfl
  · intro data v hevent hloads hobj hnull
    apply extractSseText_inserted h hevent
    rw [hloads]
    exact payloadText_nullChoices hobj hnull
  · intro data v hevent hloads hbehind
    apply billing_inserted_of_decoded h hevent ?_ hbehind
    rw [hloads]
    rfl

/-- A chunk that reports seven prompt tokens. -/
def usageData : String := "\x7b\"usage\":\x7b\"prompt_tokens\":7\x7d\x7d"

/-- A chunk with null choices. -/
def nullData : String := "\x7b\"choices\":null\x7d"

/-- A decoder of the two. -/
def twoChunks (data : String) : Loads :=
  if data = usageData then .value (.obj [("usage", .obj [("prompt_tokens", .int 7)])])
  else if data = nullData then .value (.obj [("choices", .null)])
  else .invalid

/-- A stream that ends with its usage. -/
def usageStream : List UInt8 := Utf8.ascii ("data: " ++ usageData ++ "\n")

/-- The event of a chunk with null choices. -/
def nullEvent : List UInt8 := Utf8.ascii ("data: " ++ nullData)

/-- A chunk with null choices behind the usage hides it from the billing. -/
theorem nullEvent_hides_usage :
    EndsLine usageStream ∧ Ignored twoChunks nullEvent ∧
      LastReports twoChunks (Utf8.decode usageStream) (.obj [("prompt_tokens", .int 7)]) ∧
      ¬ SameReadings twoChunks (usageStream ++ []) (inserted usageStream nullEvent []) := by
  have hends : EndsLine usageStream :=
    .inr ⟨Utf8.ascii ("data: " ++ usageData), by decide +kernel⟩
  have husage : eventData usageStream = [usageData] := by
    rw [eventData, usageStream, Utf8.decode_ascii (by decide +kernel)]
    decide +kernel
  have hnull : eventData nullEvent = [nullData] := by
    rw [eventData, nullEvent, Utf8.decode_ascii (by decide +kernel)]
    decide +kernel
  have hreports : LastReports twoChunks (Utf8.decode usageStream)
      (.obj [("prompt_tokens", .int 7)]) := by
    unfold eventData at husage
    constructor
    · rw [husage]
      decide
    · exact ⟨_, .obj [("usage", .obj [("prompt_tokens", .int 7)])], by rw [husage]; rfl, rfl,
        rfl, rfl⟩
    · rfl
  refine ⟨hends, .nullChoices _ (.obj [("choices", .null)]) hnull rfl rfl rfl, hreports,
    fun hsame ↦ ?_⟩
  have hbilled := hsame.billing
  rw [List.append_nil, (billing_eq_reported_iff _ _ _).mpr hreports] at hbilled
  obtain ⟨-, ⟨data, chunk, hdata, hloads, -, hget⟩, -⟩ :=
    (billing_eq_reported_iff _ _ _).mp hbilled
  have hall := eventData_inserted hends nullEvent []
  rw [husage, hnull, eventData_nil] at hall
  unfold eventData at hall
  rw [hall] at hdata
  obtain rfl : nullData = data := Option.some.inj hdata
  obtain rfl : Json.obj [("choices", .null)] = chunk := Loads.value.inj hloads
  cases hget

end LcpGateway.Server
