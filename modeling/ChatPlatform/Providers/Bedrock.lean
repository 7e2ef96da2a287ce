import ChatPlatform.Providers.Port

/-!
# The Bedrock provider

The request payload, in which system messages are hoisted out of the turns, and
the decoding of an event stream. The stream is read in a worker thread or, with an
injected client, inside the chunk iterator; both decode it alike.
-/

namespace ChatPlatform
namespace Bedrock

variable {F : Type} [FloatOps F]

/-! ## The request payload -/

/-- One turn of the payload. -/
structure PayloadMessage where
  /-- Author of the turn. -/
  role : Role
  /-- The text of its only content block. -/
  text : Str
  deriving DecidableEq, Repr

/-- The request payload. -/
structure Payload (F : Type) where
  /-- The model asked for. -/
  modelId : Str
  /-- The turns. -/
  messages : List PayloadMessage
  /-- The texts of the system blocks; the key is absent when there are none. -/
  system : List Str
  /-- Sampling temperature. -/
  temperature : Option F
  /-- Token limit of the answer. -/
  maxTokens : Option Int

/-- Split the messages into turns and system blocks. -/
def buildPayload (input : ProviderInput F) (model : Str) : Payload F :=
  let messages := messagesForProvider input
  { modelId := model
    messages := (messages.filter (·.role ≠ .system)).map fun message =>
      ⟨message.role, message.content⟩
    system := (messages.filter (·.role = .system)).map (·.content)
    temperature := input.temperature
    maxTokens := input.maxTokens }

/-! ## Errors -/

/-- The short message of a kind. -/
def defaultMessage : ProviderErrorKind → Str
  | .timeout => "provider timeout".toList
  | .auth => "provider auth failed".toList
  | .rateLimit => "provider rate limited".toList
  | .badRequest => "provider request failed".toList
  | .upstream => "provider upstream error".toList
  | .network | .unknown => "provider unknown error".toList

/-- The kind of an error code, compared in lower case. -/
def kindOfCode (code : Str) : ProviderErrorKind :=
  let normalized := Text.lower code
  if normalized ∈ ["accesstokenexception".toList, "accessdeniedexception".toList,
      "unrecognizedclientexception".toList, "securityexception".toList] then .auth
  else if normalized ∈ ["throttlingexception".toList,
      "toomanyrequestsexception".toList] then .rateLimit
  else if normalized ∈ ["validationexception".toList,
      "resourcenotfoundexception".toList] then .badRequest
  else if normalized ∈ ["modeltimeoutexception".toList, "timeoutexception".toList,
      "timeouterror".toList] then .timeout
  else if normalized ∈ ["internalserverexception".toList,
      "serviceunavailableexception".toList, "modelstreamerrorexception".toList,
      "modelstreamexception".toList, "modelnotreadyexception".toList] then .upstream
  else .unknown

/-- The normalized failure of an error code. -/
def providerErrorFromCode (code : Str) (httpStatus : Option Int) : ProviderError :=
  let kind := kindOfCode code
  { kind
    message := defaultMessage kind
    provider := "bedrock".toList
    httpStatus
    retryable := kind = .rateLimit || kind = .timeout || kind = .upstream
    errorCode := some code }

/-! ## The event stream -/

/-- The text an event adds, empty when it adds none. -/
def extractStreamDelta (event : Dict F) : Str :=
  match Dict.getDict event "contentBlockDelta".toList with
  | none => []
  | some delta =>
      match Dict.getDict delta "delta".toList with
      | none => []
      | some inner => (Dict.getStr inner "text".toList).getD []

/-- The failure an event reports under a key that ends in `Exception`. -/
def extractStreamError (event : Dict F) : Option ProviderError :=
  (event.find? fun entry => "Exception".toList.isSuffixOf entry.1).map
    fun entry => providerErrorFromCode entry.1 none

/-- What was read of a stream so far. -/
structure StreamProgress (F : Type) where
  /-- The deltas that were not empty. -/
  contentParts : List Str := []
  /-- The last usage record. -/
  usage : Option (Dict F) := none
  /-- The last reported latency. -/
  latencyMs : Option Int := none

/-- Take note of one event. -/
def observe (progress : StreamProgress F) (event : Dict F) : StreamProgress F :=
  let delta := extractStreamDelta event
  let metadata := (Dict.getDict event "metadata".toList).getD []
  { contentParts :=
      if delta = [] then progress.contentParts
      else progress.contentParts ++ [delta]
    usage := (Dict.getDict metadata "usage".toList).or progress.usage
    latencyMs :=
      match Dict.getDict metadata "metrics".toList with
      | some metrics => Dict.safeInt metrics "latencyMs".toList
      | none => progress.latencyMs }

/-- Read events up to the first that reports a failure. -/
def readEvents (progress : StreamProgress F) :
    List (Dict F) → StreamProgress F × Option ProviderError
  | [] => (progress, none)
  | event :: rest =>
      match extractStreamError event with
      | some error => (progress, some error)
      | none => readEvents (observe progress event) rest

/-- The result of a call from its parts. -/
def providerResultFromParts
    (content : Str)
    (usage : Dict F)
    (modelVersion promptVersion : Str)
    (latencyMs : Int) : ProviderResult :=
  let inputTokens := Dict.safeInt usage "inputTokens".toList
  let outputTokens := Dict.safeInt usage "outputTokens".toList
  let reported := Dict.safeInt usage "totalTokens".toList
  { content
    provider := "bedrock".toList
    modelVersion
    promptVersion
    inputTokens
    outputTokens
    totalTokens :=
      match reported, inputTokens, outputTokens with
      | none, some read, some written => some (read + written)
      | total, _, _ => total
    latencyMs := some (max 0 latencyMs) }

/-- What stands for an answer without text. -/
def emptyResponse : Str := "(empty response)".toList

/-- The stripped text, or a placeholder when nothing is left. -/
def normalizedContent (text : Str) : Str :=
  if Text.strip text = [] then emptyResponse else Text.strip text

/-- The text of a content block, empty when it has none; nothing when the block is no
dictionary. -/
def blockText : Value F → Option Str
  | .dict entries => some ((Dict.getStr entries "text".toList).getD [])
  | _ => none

/-- The text of some content blocks. -/
def extractTextContent (blocks : List (Value F)) : Option Str :=
  (blocks.mapM blockText).map fun parts => normalizedContent parts.flatten

/-- The result of a response; nothing when the response is malformed. -/
def buildProviderResult
    (data : Dict F)
    (defaultModel promptVersion : Str)
    (latencyMs : Int) : Option ProviderResult :=
  let output := (Dict.getDict data "output".toList).getD []
  let message := (Dict.getDict output "message".toList).getD []
  let contentBlocks :=
    match Dict.get message "content".toList with
    | some (.list blocks) => blocks
    | _ => []
  let usage := (Dict.getDict data "usage".toList).getD []
  let metrics := (Dict.getDict data "metrics".toList).getD []
  (extractTextContent contentBlocks).map fun content =>
    providerResultFromParts content usage defaultModel promptVersion
      ((Dict.safeInt metrics "latencyMs".toList).getD latencyMs)

/-- What a stream is read with: the events, the failure of the event source after
them, and the data of the call. -/
structure StreamCall (F : Type) where
  /-- The events delivered. -/
  events : List (Dict F)
  /-- The failure of the source after them, already normalized. -/
  interruption : Option ProviderError
  /-- The model of the call. -/
  model : Str
  /-- The prompt version of the call. -/
  promptVersion : Str
  /-- The measured duration. -/
  elapsedMs : Int

/-- The final result of what was read. -/
def finalResult
    (call : StreamCall F)
    (progress : StreamProgress F) : ProviderStreamResult :=
  let content := normalizedContent progress.contentParts.flatten
  { content
    providerResult := providerResultFromParts content (progress.usage.getD [])
      call.model call.promptVersion (progress.latencyMs.getD call.elapsedMs) }

/-- The chunks and the final result of a stream. -/
def decodeStream (call : StreamCall F) : StreamScript :=
  let (progress, reported) := readEvents {} call.events
  { chunks := progress.contentParts
    interruption := none
    final :=
      match reported.or call.interruption with
      | some error => .error (.provider error)
      | none => .ok (finalResult call progress) }

/-- The stream read in a worker thread. -/
def consumeStreamSync (call : StreamCall F) : StreamScript := decodeStream call

/-- The stream read inside the chunk iterator. -/
def buildInlineStreamSession (call : StreamCall F) : StreamScript :=
  decodeStream call

/-- The text of the deltas of some events. -/
def deltaText (events : List (Dict F)) : Str :=
  events.flatMap extractStreamDelta

private theorem contentParts_observe (progress : StreamProgress F) (event : Dict F) :
    (observe progress event).contentParts.flatten =
      progress.contentParts.flatten ++ extractStreamDelta event := by
  unfold observe
  by_cases empty : extractStreamDelta event = []
  · simp [empty]
  · simp [empty]

/-- The parts read from a stream without failures are the deltas of its events. -/
theorem readEvents_contentParts
    {progress finished : StreamProgress F}
    {events : List (Dict F)}
    (completes : readEvents progress events = (finished, none)) :
    finished.contentParts.flatten =
      progress.contentParts.flatten ++ deltaText events := by
  induction events generalizing progress with
  | nil =>
      simp only [readEvents, Prod.mk.injEq, and_true] at completes
      simp [completes, deltaText]
  | cons event rest inductionHypothesis =>
      unfold readEvents at completes
      cases reported : extractStreamError event with
      | some error => simp [reported] at completes
      | none =>
          rw [reported] at completes
          rw [inductionHypothesis completes, contentParts_observe]
          simp [deltaText]

end Bedrock
end ChatPlatform
