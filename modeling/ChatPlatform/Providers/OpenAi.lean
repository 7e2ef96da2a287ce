import ChatPlatform.Providers.Port

/-!
# The OpenAI provider

The request payload, which keeps system messages in line, and the decoding of the
event stream. The text of the final result is the text of the deltas, and the text
of the final response only when there were none.
-/

namespace ChatPlatform
namespace OpenAi

variable {F : Type} [FloatOps F]

/-! ## The request payload -/

/-- One item of the payload. -/
structure PayloadMessage where
  /-- Author of the item. -/
  role : Role
  /-- The text of its only content part. -/
  text : Str
  deriving DecidableEq, Repr

/-- The request payload. -/
structure Payload where
  /-- The model asked for. -/
  model : Str
  /-- The items. -/
  input : List PayloadMessage
  deriving DecidableEq, Repr

/-- The messages in order, whatever their roles. -/
def buildPayload (input : ProviderInput F) (model : Str) : Payload :=
  { model
    input := (messagesForProvider input).map fun message =>
      ⟨message.role, message.content⟩ }

/-! ## Errors -/

/-- The normalized failure of an HTTP status. -/
def mapHttpStatus (statusCode : Int) : ProviderError :=
  if statusCode = 400 then
    { kind := .badRequest, message := "provider request failed".toList }
  else if statusCode = 401 ∨ statusCode = 403 then
    { kind := .auth, message := "provider auth failed".toList }
  else if statusCode = 429 then
    { kind := .rateLimit, message := "provider rate limited".toList }
  else if 500 ≤ statusCode ∧ statusCode ≤ 599 then
    { kind := .upstream, message := "provider upstream error".toList }
  else { kind := .unknown, message := "provider request failed".toList }

/-- The kind named by an error type. -/
def kindOfErrorType : Option Str → ProviderErrorKind
  | none => .unknown
  | some errorType =>
      if errorType = "invalid_request_error".toList then .badRequest
      else if errorType = "authentication_error".toList ∨
          errorType = "invalid_api_key".toList then .auth
      else if errorType = "rate_limit_error".toList then .rateLimit
      else .unknown

/-- The failure an event reports under `error`. -/
def extractStreamError (payload : Dict F) : Option ProviderError :=
  (Dict.getDict payload "error".toList).map fun error =>
    let status := Dict.safeInt error "status".toList
    let kind :=
      match status with
      | some status => (mapHttpStatus status).kind
      | none => kindOfErrorType (Dict.getStr error "type".toList)
    let message := (Dict.getStr error "message".toList).getD []
    { kind
      message :=
        if message = [] then "provider request failed".toList else message
      provider := "openai".toList
      httpStatus := status
      retryable := kind = .rateLimit || kind = .upstream || kind = .timeout
      errorCode := Dict.getStr error "code".toList }

/-- The failure that stands for any exception while the stream is decoded. -/
def unknownError : ProviderError :=
  { kind := .unknown, message := "provider unknown error".toList }

/-! ## The event stream -/

/-- One event: its name, if it has one, and its payload. -/
abbrev StreamEvent (F : Type) := Option Str × Dict F

/-- The type of an event: its name, else the type its payload gives. -/
def eventType (event : StreamEvent F) : Option Str :=
  match event.1 with
  | some (c :: name) => some (c :: name)
  | _ =>
      match Dict.getStr event.2 "type".toList with
      | some (c :: name) => some (c :: name)
      | _ => none

/-- The text an event adds, empty when it adds none. -/
def extractStreamDelta (event : StreamEvent F) : Str :=
  if eventType event = some "response.output_text.delta".toList then
    (Dict.getStr event.2 "delta".toList).getD []
  else []

/-- The final response an event carries. -/
def extractStreamResponsePayload (event : StreamEvent F) : Option (Dict F) :=
  if eventType event = some "response.completed".toList then
    Dict.getDict event.2 "response".toList
  else none

/-- What was read of a stream so far. -/
structure StreamProgress (F : Type) where
  /-- The deltas that were not empty. -/
  contentParts : List Str := []
  /-- The last final response. -/
  finalResponsePayload : Option (Dict F) := none

/-- Take note of one event. -/
def observe
    (progress : StreamProgress F)
    (event : StreamEvent F) : StreamProgress F :=
  let delta := extractStreamDelta event
  { contentParts :=
      if delta = [] then progress.contentParts
      else progress.contentParts ++ [delta]
    finalResponsePayload :=
      (extractStreamResponsePayload event).or progress.finalResponsePayload }

/-- Read events up to the first that reports a failure. -/
def readEvents (progress : StreamProgress F) :
    List (StreamEvent F) → StreamProgress F × Option ProviderError
  | [] => (progress, none)
  | event :: rest =>
      match extractStreamError event.2 with
      | some error => (progress, some error)
      | none => readEvents (observe progress event) rest

/-- The dictionaries in `value or []`; nothing when iterating it or asking an item
for a key raises. -/
def dictItems : Option (Value F) → Option (List (Dict F))
  | none => some []
  | some value =>
      if value.truthy then
        match value with
        | .list items => items.mapM fun item =>
            match item with
            | .dict entries => some entries
            | _ => none
        | _ => none
      else some []

/-- The text parts of one output item. -/
def outputTexts (item : Dict F) : Option (List Str) :=
  if Dict.getStr item "type".toList ≠ some "message".toList then some []
  else if Dict.getStr item "role".toList ≠ some "assistant".toList then some []
  else
    (dictItems (Dict.get item "content".toList)).map fun parts =>
      parts.filterMap fun part =>
        if Dict.getStr part "type".toList = some "output_text".toList then
          Dict.getStr part "text".toList
        else none

/-- The stripped text of a response, or a placeholder; nothing when the response
is malformed. -/
def extractOutputText (data : Dict F) : Option Str :=
  (dictItems (Dict.get data "output".toList)).bind fun items =>
    (items.mapM outputTexts).map fun texts =>
      let text := Text.strip texts.flatten.flatten
      if text = [] then "(empty response)".toList else text

/-- The text under a key, or a default when there is none. -/
def nonemptyStr (data : Dict F) (key default : Str) : Str :=
  match Dict.getStr data key with
  | some (c :: rest) => c :: rest
  | _ => default

/-- The result of a response; nothing when the response is malformed. -/
def buildProviderResult
    (data : Dict F)
    (model : Str)
    (latencyMs : Int) : Option ProviderResult := do
  let usage ←
    match Dict.get data "usage".toList with
    | none => some []
    | some value =>
        if value.truthy then
          match value with
          | .dict entries => some entries
          | _ => none
        else some []
  let content ← extractOutputText data
  let inputTokens := Dict.safeInt usage "input_tokens".toList
  let outputTokens := Dict.safeInt usage "output_tokens".toList
  let reported := Dict.safeInt usage "total_tokens".toList
  return {
    content
    provider := "openai".toList
    modelVersion := nonemptyStr data "model".toList model
    promptVersion := nonemptyStr data "prompt_version".toList "v1".toList
    inputTokens
    outputTokens
    totalTokens :=
      match reported, inputTokens, outputTokens with
      | none, some read, some written => some (read + written)
      | total, _, _ => total
    latencyMs := some latencyMs }

/-- What a stream is read with: the events, the failure of the event source after
them, and the data of the call. -/
structure StreamCall (F : Type) where
  /-- The events delivered. -/
  events : List (StreamEvent F)
  /-- The failure of the source after them, already normalized. -/
  interruption : Option ProviderError
  /-- The model of the call. -/
  model : Str
  /-- The measured duration. -/
  latencyMs : Int

/-- The response that stands for a missing final one. -/
def assembledPayload (text model : Str) : Dict F :=
  [("output".toList, .list [.dict
      [("type".toList, .str "message".toList),
        ("role".toList, .str "assistant".toList),
        ("content".toList, .list [.dict
          [("type".toList, .str "output_text".toList),
            ("text".toList, .str text)]])]]),
    ("model".toList, .str model)]

/-- The final result of what was read; nothing when the final response is
malformed. -/
def finalResult
    (call : StreamCall F)
    (progress : StreamProgress F) : Option ProviderStreamResult :=
  let text := progress.contentParts.flatten
  let payload :=
    match progress.finalResponsePayload with
    | some (entry :: rest) => entry :: rest
    | _ => assembledPayload text call.model
  (buildProviderResult payload call.model call.latencyMs).map fun result =>
    let content := if text = [] then result.content else text
    { content, providerResult := { result with content } }

/-- The chunks and the final result of a stream. -/
def consumeStream (call : StreamCall F) : StreamScript :=
  let (progress, reported) := readEvents {} call.events
  { chunks := progress.contentParts
    interruption := none
    final :=
      match reported.or call.interruption with
      | some error => .error (.provider error)
      | none =>
          match finalResult call progress with
          | some result => .ok result
          | none => .error (.provider unknownError) }

/-- A result's text is the text of the deltas when there was any. -/
theorem finalResult_content
    {call : StreamCall F}
    {progress : StreamProgress F}
    {result : ProviderStreamResult}
    (built : finalResult call progress = some result)
    (emitted : progress.contentParts.flatten ≠ []) :
    result.content = progress.contentParts.flatten := by
  unfold finalResult at built
  obtain ⟨parsed, -, same⟩ := Option.map_eq_some_iff.mp built
  rw [← same]
  simp [emitted]

end OpenAi
end ChatPlatform
