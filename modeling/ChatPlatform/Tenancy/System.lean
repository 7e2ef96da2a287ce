import ChatPlatform.Foundation.Unwinding
import ChatPlatform.Memory.RenumberedReport
import ChatPlatform.Route.Prepare
import ChatPlatform.Route.ResponseCache
import Mathlib.Logic.Function.Basic

/-!
# Requests of several tenants

The requests in flight share the tables, the response cache and the counter of the
message rows. A request is a fixed plan of operations, and the operations of several
requests are interleaved in any order. What a provider, a client or a failure
contributes comes with the action. Rows are invisible to other requests until they
are committed, but their numbers are taken from the counter at once and never given
back.
-/

namespace ChatPlatform
namespace Tenancy

/-! ## What is shared and what is in flight -/

/-- What is the same for all requests. -/
structure Deployment (K : Type) where
  /-- The settings. -/
  settings : ChatSettings
  /-- The provider settings that are part of a cache key. -/
  cacheSettings : CacheSettings
  /-- What the ranking takes from the standard library. -/
  lexicon : Bm25.Lexicon K
  /-- The digest of a text. -/
  sha256 : Str → Fin (2 ^ 256)

/-- A request in flight: its tenant and a number of its own. -/
structure FlightId where
  /-- The tenant of the request. -/
  tenantId : Str
  /-- Tells the requests of a tenant apart. -/
  number : Nat
  deriving DecidableEq

/-- The operations of a request. -/
inductive Operation
  /-- Read the history and prepare the provider request. -/
  | read
  /-- Create the conversation, or check that it exists and is the tenant's. -/
  | openConversation
  /-- Insert the user message. -/
  | addUser
  /-- Look for the answer in the response cache. -/
  | consultCache
  /-- Call the provider, or stream its answer. -/
  | generate
  /-- Insert the assistant message. -/
  | addAssistant
  /-- Commit the transaction. -/
  | commit
  /-- Write the answer to the response cache. -/
  | keepAnswer
  deriving DecidableEq

/-- The operations of a request in order: a streamed request calls the provider before
its transaction, any other one inside. -/
def plan (request : ChatRequest) : List Operation :=
  if request.stream then
    [.read, .generate, .openConversation, .addUser, .addAssistant, .commit]
  else
    [.read, .openConversation, .addUser, .consultCache, .generate, .addAssistant,
      .commit, .keepAnswer]

/-- A request in flight. -/
structure Flight where
  /-- Identifier of the request. -/
  requestId : Uuid
  /-- The body. -/
  request : ChatRequest
  /-- Fresh identifier of a new conversation. -/
  newConversationId : Uuid
  /-- The conversation that the first statement of the history read found. -/
  owner : Option ConversationRow
  /-- The operations left. -/
  rest : List Operation
  /-- The messages of the provider request. -/
  messages : List ChatMessage := []
  /-- The conversation created and not committed. -/
  created : Option ConversationRow := none
  /-- The messages inserted and not committed. -/
  pending : List MessageRow := []
  /-- The text of the answer. -/
  answer : Str := []
  /-- What is to be kept in the cache. -/
  kept : Option ResponseCache.Payload := none

/-- The conversation of the request: the given one or a new one. -/
def Flight.conversationId (flight : Flight) : Uuid :=
  flight.request.conversationId.getD flight.newConversationId

/-- The request after it took the next operation of its plan. -/
def Flight.take (flight : Flight) (operation : Operation) : Option Flight :=
  if flight.rest.head? = some operation then
    some { flight with rest := flight.rest.tail }
  else none

/-- The shared state and the requests in flight. -/
structure State where
  /-- The committed rows. -/
  database : Database := {}
  /-- The number of the next message row. -/
  nextSequence : Int := 1
  /-- The response cache. -/
  cache : Str → Option ResponseCache.Entry := fun _ => none
  /-- The requests in flight. -/
  flights : FlightId → Option Flight := fun _ => none

/-! ## Actions and what they let the tenant observe -/

/-- What happens to a request. -/
inductive Event
  /-- It arrives, and the first statement of its history read looks for the
  conversation. -/
  | arrive (requestId : Uuid) (request : ChatRequest) (newConversationId : Uuid)
  /-- The rest of the history read, unless it fails. -/
  | read (fault : Option HistoryFault) (rag : RagGenerationContext)
  /-- The conversation is created or checked. -/
  | openConversation
  /-- The user message is inserted under a fresh identifier. -/
  | addUser (messageId : Uuid)
  /-- The cache is consulted, if it can be reached. -/
  | consultCache (reachable : Bool)
  /-- The provider answers. -/
  | generate (result : ChatService.ChatServiceResult)
  /-- The assistant message is inserted under a fresh identifier. -/
  | addAssistant (messageId : Uuid)
  /-- The transaction is committed. -/
  | commit
  /-- The answer is kept, if the cache can be reached. -/
  | keepAnswer (reachable : Bool)
  /-- The request ends early: a failure, a cancellation or a lost connection. -/
  | abort
  /-- The time to live of a cached answer has passed. -/
  | expire (messages : List ChatMessage)

/-- An event of a request. -/
structure Action where
  /-- The request. -/
  flight : FlightId
  /-- What happens to it. -/
  event : Event

/-- Whether the action is one of the tenant's. -/
def Action.ofTenant (tenantId : Str) (action : Action) : Bool :=
  action.flight.tenantId = tenantId

/-- What an action lets the tenant observe. -/
inductive Observation (F : Type)
  /-- Nothing. -/
  | silent
  /-- The provider request that was built. -/
  | prepared (input : ProviderInput F)
  /-- The conversation is unknown. -/
  | refused
  /-- The answer that the cache returned. -/
  | hit (content : Str)
  /-- The number of an inserted row. -/
  | numbered (sequence : Int)

/-! ## Steps -/

/-- What a step does to the shared state and to its request. -/
structure Effect (F : Type) where
  /-- The request afterwards, unless it has ended. -/
  flight : Option Flight
  /-- Whether a number is taken from the counter. -/
  draws : Bool := false
  /-- The rows that are committed. -/
  committed : Database := {}
  /-- The cache key that is set or removed. -/
  cacheWrite : Option (Str × Option ResponseCache.Entry) := none
  /-- What the tenant observes. -/
  observation : Observation F := .silent

/-- The state after an effect. -/
def Effect.apply {F : Type} (effect : Effect F) (id : FlightId) (state : State) :
    State where
  database :=
    { conversations :=
        state.database.conversations ++ effect.committed.conversations
      messages := state.database.messages ++ effect.committed.messages }
  nextSequence :=
    if effect.draws then state.nextSequence + 1 else state.nextSequence
  cache :=
    match effect.cacheWrite with
    | none => state.cache
    | some (key, entry) => Function.update state.cache key entry
  flights := Function.update state.flights id effect.flight

section Steps

variable (F : Type) [FloatOps F] {K : Type} [Field K] [LinearOrder K]

/-- The provider request of a flight: the conversation found at first, with the rows
that are committed now. -/
def builtInput
    (deployment : Deployment K)
    (state : State)
    (tenantId : Str)
    (flight : Flight)
    (fault : Option HistoryFault)
    (rag : RagGenerationContext) : ProviderInput F :=
  let read : Except HistoryFault Database :=
    match fault with
    | some fault => .error fault
    | none => .ok ⟨flight.owner.toList, state.database.messages⟩
  preparedInput F deployment.settings flight.requestId flight.request
    (getChatMemoryContext deployment.settings deployment.lexicon flight.request
      tenantId read).context rag

/-- The request after it inserted a message. -/
def Flight.insert
    (flight : Flight)
    (tenantId : Str)
    (messageId : Uuid)
    (sequence : Int)
    (role : Role)
    (content : Str) : Flight :=
  { flight with
    pending := flight.pending ++
      [⟨messageId, sequence, flight.conversationId, tenantId, role, content⟩] }

/-- What the response cache answers to a request. -/
def cachedAnswer
    (deployment : Deployment K)
    (state : State)
    (tenantId : Str)
    (flight : Flight)
    (reachable : Bool) : Option ChatService.ChatServiceResult :=
  match cacheBypassReason deployment.settings with
  | some _ => none
  | none =>
      if reachable then
        ResponseCache.decode (state.cache (ResponseCache.cacheKey deployment.sha256
          deployment.cacheSettings flight.messages tenantId))
      else none

/-- The primary key of the conversations: no committed row has the identifier of the
new one. -/
def Flight.keyFree (flight : Flight) (database : Database) : Bool :=
  flight.created.all fun row => database.conversations.all fun other => other.id ≠ row.id

/-- The effect of an event, if it can happen. -/
def effect
    (deployment : Deployment K)
    (state : State)
    (id : FlightId) : Event → Option (Effect F)
  | .arrive requestId request newConversationId =>
      match state.flights id with
      | some _ => none
      | none =>
          some
            { flight := some
                { requestId
                  request
                  newConversationId
                  owner := request.conversationId.bind fun conversationId =>
                    state.database.getConversation conversationId id.tenantId
                  rest := plan request } }
  | .read fault rag => do
      let flight ← (← state.flights id).take .read
      let input := builtInput F deployment state id.tenantId flight fault rag
      return {
        flight := some { flight with messages := input.messages }
        observation := .prepared input }
  | .openConversation => do
      let flight ← (← state.flights id).take .openConversation
      match flight.request.conversationId with
      | none =>
          return {
            flight := some { flight with
              created := some ⟨flight.newConversationId, id.tenantId⟩ } }
      | some conversationId =>
          match state.database.getConversation conversationId id.tenantId with
          | none => return { flight := none, observation := .refused }
          | some _ => return { flight := some flight }
  | .addUser messageId => do
      let flight ← (← state.flights id).take .addUser
      return {
        flight := some (flight.insert id.tenantId messageId state.nextSequence .user
          flight.request.message)
        draws := true
        observation := .numbered state.nextSequence }
  | .consultCache reachable => do
      let flight ← (← state.flights id).take .consultCache
      match cachedAnswer deployment state id.tenantId flight reachable with
      | none => return { flight := some flight }
      | some result =>
          return {
            flight := some { flight with
              answer := result.assistantMessage.content
              rest := flight.rest.tail }
            observation := .hit result.assistantMessage.content }
  | .generate result => do
      let flight ← (← state.flights id).take .generate
      return {
        flight := some { flight with
          answer := result.assistantMessage.content
          kept :=
            if cacheBypassReason deployment.settings = none then
              some (ResponseCache.encode result)
            else none } }
  | .addAssistant messageId => do
      let flight ← (← state.flights id).take .addAssistant
      return {
        flight := some (flight.insert id.tenantId messageId state.nextSequence
          .assistant (Text.truncate flight.answer deployment.settings.maxAssistantChars))
        draws := true
        observation := .numbered state.nextSequence }
  | .commit => do
      let flight ← (← state.flights id).take .commit
      if flight.keyFree state.database then
        return {
          flight := some { flight with created := none, pending := [] }
          committed := ⟨flight.created.toList, flight.pending⟩ }
      else none
  | .keepAnswer reachable => do
      let flight ← (← state.flights id).take .keepAnswer
      return {
        flight := none
        cacheWrite :=
          if reachable then
            flight.kept.map fun kept =>
              (ResponseCache.cacheKey deployment.sha256 deployment.cacheSettings
                flight.messages id.tenantId, some (.payload kept))
          else none }
  | .abort => do
      let _ ← state.flights id
      return { flight := none }
  | .expire messages =>
      some
        { flight := state.flights id
          cacheWrite := some (ResponseCache.cacheKey deployment.sha256
            deployment.cacheSettings messages id.tenantId, none) }

/-- One step of the system. -/
def step (deployment : Deployment K) (state : State) (action : Action) :
    Option (State × Observation F) :=
  (effect F deployment state action.flight action.event).map fun effect =>
    (effect.apply action.flight state, effect.observation)

end Steps

end Tenancy
end ChatPlatform
