import ChatPlatform.Route.Prepare
import ChatPlatform.Store.Session

/-!
# The chat route

A request is answered at once or streamed. The first kind calls the provider inside
the write transaction; the second kind streams the answer to the client first and
stores it afterwards. Both report a failure to the client, and only the first kind
also stores a usage event about it.
-/

namespace ChatPlatform

/-- What a request is given: its body, its identity, what the dependencies made of
it, and what the other sides answer. -/
structure ChatCall (F : Type) where
  /-- The settings. -/
  settings : ChatSettings
  /-- The body. -/
  request : ChatRequest
  /-- Identifier of the request. -/
  requestId : Uuid
  /-- The tenant of the request. -/
  tenantId : Str
  /-- Fresh identifier of a new conversation. -/
  newConversationId : Uuid
  /-- Fresh identifier of the user message. -/
  userMessageId : Uuid
  /-- Fresh identifier of the assistant message. -/
  assistantMessageId : Uuid
  /-- Fresh identifier of the usage event of the turn. -/
  usageEventId : Uuid
  /-- Fresh identifier of the usage event of a failure. -/
  failureEventId : Uuid
  /-- What the memory dependency delivers. -/
  memory : ChatMemoryContext
  /-- What the document dependency delivers. -/
  rag : RagGenerationContext
  /-- The conversation row the session finds. -/
  lookup : Option ConversationRow
  /-- What the cache holds under the key of the request. -/
  cached : Option ResponseCache.Entry
  /-- What calling the provider does. -/
  generate : ProviderInput F → ChatService.GenerateOutcome
  /-- What asking the provider for a stream does. -/
  openStream : ProviderInput F → StreamBehaviour
  /-- Measured duration. -/
  elapsedMs : Int
  /-- The provider named in the usage event of a failure. -/
  errorProviderName : Str
  /-- Whether metrics are on and the request has an identity of its own. -/
  metricsEnabled : Bool

/-- A reference to a document as the client gets it. -/
structure RagSourceOut where
  /-- Citation marker. -/
  citation : Str
  /-- Identifier of the document. -/
  documentId : Uuid
  /-- Identifier of the passage. -/
  chunkId : Uuid
  /-- Rank given by the retrieval. -/
  rank : Int
  deriving DecidableEq

/-- The body of an answer. -/
structure ChatResponse where
  /-- Identifier of the request. -/
  requestId : Uuid
  /-- The conversation. -/
  conversationId : Uuid
  /-- The stored user message. -/
  userMessageId : Option Uuid
  /-- The stored assistant message. -/
  assistantMessageId : Option Uuid
  /-- Text of the answer. -/
  assistantContent : Option Str
  /-- The documents used. -/
  sources : List RagSourceOut
  /-- Whether the request succeeded. -/
  status : ChatStatus
  /-- What went wrong. -/
  errorMessage : Option Str
  deriving DecidableEq

/-- How the route returns. -/
inductive Reply
  /-- The stream of frames ended. -/
  | streamEnded
  /-- A response with a body. -/
  | response (body : ChatResponse)
  deriving DecidableEq

/-- A short message for a client or a row: never empty and never too long. -/
def sanitizeErrorMessage (message : Str) (maxLen : Int) : Str :=
  if Text.strip message = [] then Text.truncate "unknown error".toList maxLen
  else Text.truncate (Text.strip message) maxLen

/-- A token count that is absent or negative counts as zero. -/
def asIntOrZero (count : Option Int) : Int := max 0 (count.getD 0)

namespace ChatCall

variable {F : Type} [FloatOps F]

/-- The conversation of the request: the given one or a new one. -/
def conversationId (call : ChatCall F) : Uuid :=
  call.request.conversationId.getD call.newConversationId

/-- The memory after the resets and the cap. -/
def boundedMemory (call : ChatCall F) : ChatMemoryContext :=
  (boundedContexts F call.settings call.request call.memory call.rag).1

/-- The documents after the resets and the cap. -/
def boundedRag (call : ChatCall F) : RagGenerationContext :=
  (boundedContexts F call.settings call.request call.memory call.rag).2.1

/-- The request to the provider. -/
def input (call : ChatCall F) : ProviderInput F :=
  preparedInput F call.settings call.requestId call.request call.memory call.rag

/-- The documents as the client gets them. -/
def publicSources (call : ChatCall F) : List RagSourceOut :=
  call.boundedRag.sources.map fun source =>
    ⟨source.citation, source.documentId, source.chunkId, source.rank⟩

/-- The measured duration, never negative. -/
def latencyMs (call : ChatCall F) : Int := max 0 call.elapsedMs

/-- The row of a new conversation. -/
def conversationRow (call : ChatCall F) : StoredRow :=
  .conversation ⟨call.newConversationId, call.tenantId⟩

/-- The row of the user message. -/
def userRow (call : ChatCall F) : StoredRow :=
  .message call.userMessageId call.conversationId call.tenantId .user
    call.request.message

/-- The row of the assistant message. -/
def assistantRow (call : ChatCall F) (content : Str) : StoredRow :=
  .message call.assistantMessageId call.conversationId call.tenantId .assistant
    content

/-- The usage event of an answer given at once. -/
def answeredEvent (call : ChatCall F) (result : ProviderResult) : UsageEventRow where
  id := call.usageEventId
  provider := result.provider
  modelVersion := result.modelVersion
  promptVersion := result.promptVersion
  status := .success
  requestId := call.requestId
  latencyMs := call.latencyMs
  errorMessage := none
  conversationId := none
  messageId := some call.assistantMessageId
  inputTokens := some (asIntOrZero result.inputTokens)
  outputTokens := some (asIntOrZero result.outputTokens)
  totalTokens := some (asIntOrZero result.totalTokens)

/-- The usage event of a streamed answer; a call made instead of a stream leaves no
provider result. -/
def streamedEvent
    (call : ChatCall F)
    (result : Option ProviderResult) : UsageEventRow where
  id := call.usageEventId
  provider := (result.map (·.provider)).getD "unknown".toList
  modelVersion := (result.map (·.modelVersion)).getD "unknown".toList
  promptVersion := (result.map (·.promptVersion)).getD "unknown".toList
  status := .success
  requestId := call.requestId
  latencyMs := (result.bind (·.latencyMs)).getD call.latencyMs
  errorMessage := none
  conversationId := none
  messageId := some call.assistantMessageId
  inputTokens := result.bind (·.inputTokens)
  outputTokens := result.bind (·.outputTokens)
  totalTokens := result.bind (·.totalTokens)

/-- The usage event of a failure. -/
def failureEvent (call : ChatCall F) (message : Str) : UsageEventRow where
  id := call.failureEventId
  provider := call.errorProviderName
  modelVersion := "local".toList
  promptVersion := "v0".toList
  status := .error
  requestId := call.requestId
  latencyMs := call.latencyMs
  errorMessage :=
    some (sanitizeErrorMessage message call.settings.maxErrorMessageChars)
  conversationId := none
  messageId := none

/-- The response of an answer. -/
def successResponse (call : ChatCall F) (content : Str) : ChatResponse where
  requestId := call.requestId
  conversationId := call.conversationId
  userMessageId := some call.userMessageId
  assistantMessageId := some call.assistantMessageId
  assistantContent := some content
  sources := call.publicSources
  status := .success
  errorMessage := none

/-- The response of a failure. -/
def failureResponse (call : ChatCall F) (message : Str) : ChatResponse where
  requestId := call.requestId
  conversationId := call.conversationId
  userMessageId := none
  assistantMessageId := none
  assistantContent := none
  sources := []
  status := .error
  errorMessage :=
    some (sanitizeErrorMessage message call.settings.maxErrorMessageChars)

end ChatCall

namespace ChatRoute

open Program Session

/-! ## Frames -/

/-- A frame whose payload is the JSON text of a dictionary. -/
def sseJson (event : FrameName) (payload : Dict Empty) : Frame :=
  ⟨event, Json.dumps ⟨false, true⟩ (.dict payload)⟩

/-- The frame that refuses an unknown conversation. -/
def notFoundFrame : Frame :=
  sseJson .error [("error_kind".toList, .str "not_found".toList)]

/-- The frame that reports an exception. -/
def exceptionFrame : RouteException → Frame
  | .providerError error =>
      sseJson .error
        [("error_kind".toList, .str error.kind.text),
          ("retryable".toList, .bool error.retryable)]
  | _ => sseJson .error [("error_kind".toList, .str "internal".toList)]

variable {F : Type} [FloatOps F] {ρ α : Type}

/-- The last frame of an answer. -/
def doneFrame (call : ChatCall F) : Frame :=
  sseJson .done
    [("request_id".toList, .str call.requestId.text),
      ("conversation_id".toList, .str call.conversationId.text),
      ("user_message_id".toList, .str call.userMessageId.text),
      ("assistant_message_id".toList, .str call.assistantMessageId.text),
      ("status".toList, .str "success".toList),
      ("sources".toList, .list (call.publicSources.map fun source =>
        .dict
          [("citation".toList, .str source.citation),
            ("document_id".toList, .str source.documentId.text),
            ("chunk_id".toList, .str source.chunkId.text),
            ("rank".toList, .int source.rank)]))]

/-! ## Steps both kinds of request take -/

/-- An exception of the chat service, as the route meets it. -/
def routeException : ChatService.ServiceException → RouteException
  | .providerTimeout message => .providerTimeout message
  | .providerExecution message => .providerExecution message
  | .passedOn (.provider error) => .providerError error
  | .passedOn (.other name message) => .other name message

/-- Wait for the chat service and take its answer. -/
def awaitService
    (answer : Except ChatService.ServiceException α) : RouteProgram ρ α := do
  let answer ← awaitValue answer
  match answer with
  | .ok result => value result
  | .error exception => raise (.failure (routeException exception))

/-- Record the outcome for the metrics. -/
def setOutcome (outcome : GenerationOutcome) : RouteProgram ρ Unit :=
  modify fun world => { world with generationOutcome := some outcome }

/-- Record an answer for the metrics. -/
def setAnswered (result : Option ProviderResult) : RouteProgram ρ Unit :=
  modify fun world => { world with
    generationOutcome := some .ok
    metricsProviderResult := result }

/-- Create the conversation, or check that it exists and is the tenant's. -/
def openConversation
    (call : ChatCall F)
    (refuse : RouteProgram ρ Unit) : RouteProgram ρ Unit :=
  match call.request.conversationId with
  | none => do
      add call.conversationRow
      flush
  | some _ => do
      let conversation ← awaitValue call.lookup
      match conversation with
      | none => refuse
      | some conversation =>
          if conversation.tenantId ≠ call.tenantId then refuse else value ()

/-- Store a message. -/
def addMessage (row : StoredRow) : RouteProgram ρ Unit := do
  add row
  flush

/-- Write the metrics, unless the transaction has not been released. -/
def recordMetrics
    (call : ChatCall F)
    (unset : GenerationOutcome) : RouteProgram ρ Unit := do
  let inTransaction ← inspect (·.inTransaction)
  if inTransaction then value ()
  else if call.metricsEnabled then
    bestEffort fun world => { world with
      metrics := world.metrics ++
        [{ tenantId := call.tenantId
           ebm25 := call.settings.ebm25Enabled
           generationOutcome := world.generationOutcome.getD unset
           inputTokens := world.metricsProviderResult.bind (·.inputTokens)
           outputTokens := world.metricsProviderResult.bind (·.outputTokens)
           totalLatencyMs := call.latencyMs
           historyTruncated := call.boundedMemory.truncated
           historyRowCapReached := call.boundedMemory.historyRowCapReached }] }
  else value ()

/-! ## A streamed request -/

/-- Give the chunks to the client as they come. -/
def relayChunks (session : ChatService.ChatSession) : RouteProgram ρ Unit := do
  forEach session.chunks fun chunk => do
    let chunk ← awaitValue chunk
    yieldFrame ⟨.token, chunk⟩
  match session.interruption with
  | some exception => awaitService (.error exception)
  | none => awaitService (.ok ())

/-- Store a streamed answer. -/
def storeStreamed
    (call : ChatCall F)
    (result : ChatService.StreamChatResult) : RouteProgram Reply Unit :=
  let providerResult := result.providerResult.map (·.providerResult)
  transaction do
    openConversation call do
      setOutcome .notFound
      yieldFrame notFoundFrame
      exit .streamEnded
    addMessage call.userRow
    addMessage (call.assistantRow
      (Text.truncate result.assistantMessage.content
        call.settings.maxAssistantChars))
    setAnswered providerResult
    add (.usageEvent (call.streamedEvent providerResult))

/-- Stream, store, and tell the client. -/
def streamAndStore (call : ChatCall F) : RouteProgram Reply Unit := do
  let session ← awaitService
    (ChatService.streamChat (call.openStream call.input) (call.generate call.input))
  relayChunks session
  let result ← awaitService session.final
  storeStreamed call result
  yieldFrame (doneFrame call)

/-- The generator of the frames. -/
def eventGenerator (call : ChatCall F) : RouteProgram Reply Unit :=
  ensuring
    (catching (streamAndStore call) (exceptException fun exception => do
      setOutcome .error
      yieldFrame (exceptionFrame exception)
      exit .streamEnded))
    (recordMetrics call .cancelled)

/-! ## A request answered at once -/

/-- Read the response cache; every exception is a miss. -/
def cacheGet (call : ChatCall F) :
    RouteProgram ρ (Option ChatService.ChatServiceResult) :=
  catching
    (do
      let stored ← awaitValue call.cached
      value (ResponseCache.decode stored))
    (exceptException fun _ => value none)

/-- Write the response cache. -/
def cacheSet (result : ChatService.ChatServiceResult) : RouteProgram ρ Unit :=
  bestEffort fun world => { world with
    cacheWrites := world.cacheWrites ++ [ResponseCache.encode result] }

/-- Read the response cache unless it must not be consulted. -/
def consultCache (call : ChatCall F) :
    RouteProgram ρ (Option ChatService.ChatServiceResult) :=
  match cacheBypassReason call.settings with
  | some _ => value none
  | none => cacheGet call

/-- Write the response cache when there is something to keep. -/
def keepAnswer :
    Option ChatService.ChatServiceResult → RouteProgram ρ Unit
  | some result => cacheSet result
  | none => value ()

/-- Take the answer from the cache or from the provider, with what is to be kept in
the cache afterwards. -/
def generateAnswer (call : ChatCall F) :
    RouteProgram ρ
      (ChatService.ChatServiceResult × Option ChatService.ChatServiceResult) := do
  let hit ← consultCache call
  match hit with
  | some result => value (result, none)
  | none => do
      let result ← awaitService (ChatService.run (call.generate call.input))
      value (result,
        if cacheBypassReason call.settings = none then some result else none)

/-- Answer and store in one transaction. -/
def answerAndStore (call : ChatCall F) :
    RouteProgram Reply (Str × Option ChatService.ChatServiceResult) :=
  transaction do
    openConversation call do
      setOutcome .notFound
      raise (.failure .httpNotFound)
    addMessage call.userRow
    let generated ← generateAnswer call
    let content := Text.truncate generated.1.assistantMessage.content
      call.settings.maxAssistantChars
    addMessage (call.assistantRow content)
    setAnswered (some generated.1.providerResult)
    add (.usageEvent (call.answeredEvent generated.1.providerResult))
    value (content, generated.2)

/-- Drop what is left of the transaction, store a usage event about the failure and
report it. -/
def reportFailure
    (call : ChatCall F)
    (outcome : GenerationOutcome)
    (shown recorded : Str) : RouteProgram Reply Unit := do
  setOutcome outcome
  suppressed rollback
  suppressed (transaction (add (.usageEvent (call.failureEvent recorded))))
  exit (.response (call.failureResponse shown))

/-- The handlers of a request answered at once. -/
def answerHandler (call : ChatCall F) :
    Interruption → Option (RouteProgram Reply Unit)
  | .failure .httpNotFound => some (raise (.failure .httpNotFound))
  | .failure (.providerTimeout message) =>
      some (reportFailure call .timeout message message)
  | .failure (.providerExecution message) =>
      some (reportFailure call .error message message)
  | .failure exception =>
      some (reportFailure call .error "internal error".toList exception.text)
  | .cancelled => none
  | .generatorExit => none

/-- Answer a request at once. -/
def answer (call : ChatCall F) : RouteProgram Reply Unit :=
  ensuring
    (catching
      (do
        let stored ← answerAndStore call
        keepAnswer stored.2
        exit (.response (call.successResponse stored.1)))
      (answerHandler call))
    (recordMetrics call .error)

/-- The chat route. -/
def chat (call : ChatCall F) : RouteProgram Reply Unit :=
  if call.request.stream then eventGenerator call else answer call

end ChatRoute
end ChatPlatform
