import ChatPlatform.Providers.Port

/-!
# The chat service

The boundary between the route and the providers. A call runs under a time limit
and its failures are reduced to two kinds; a stream is passed on as it is, and a
provider without a stream is called instead and delivers one chunk.
-/

namespace ChatPlatform
namespace ChatService

/-- What calling the provider under the time limit does. -/
inductive GenerateOutcome
  /-- It returns in time. -/
  | returned (result : ProviderResult)
  /-- It raises. -/
  | raised (exception : ProviderException)
  /-- The time limit is reached. -/
  | timedOut
  deriving DecidableEq

/-- An exception that leaves the service. -/
inductive ServiceException
  /-- The provider took too long. -/
  | providerTimeout (message : Str)
  /-- The provider failed. -/
  | providerExecution (message : Str)
  /-- An exception of a stream, passed on unchanged. -/
  | passedOn (exception : ProviderException)
  deriving DecidableEq

/-- The result of a call. -/
structure ChatServiceResult where
  /-- The assistant's message. -/
  assistantMessage : ChatMessage
  /-- The provider's result. -/
  providerResult : ProviderResult
  deriving DecidableEq

/-- Call the provider and reduce its failures. -/
def run : GenerateOutcome → Except ServiceException ChatServiceResult
  | .returned result => .ok ⟨⟨.assistant, result.content⟩, result⟩
  | .timedOut => .error (.providerTimeout "provider timeout".toList)
  | .raised (.provider error) =>
      if error.kind = .timeout then
        .error (.providerTimeout "provider timeout".toList)
      else .error (.providerExecution error.message)
  | .raised (.other name _) =>
      if name = "TimeoutError".toList then
        .error (.providerTimeout "provider timeout".toList)
      else .error (.providerExecution "provider execution failed".toList)

/-- The final result of a streamed chat. -/
structure StreamChatResult where
  /-- The assistant's message. -/
  assistantMessage : ChatMessage
  /-- The provider's result; absent when the provider was called without a
  stream. -/
  providerResult : Option ProviderStreamResult
  deriving DecidableEq

/-- A stream as the route sees it. -/
structure ChatSession where
  /-- The chunks it delivers. -/
  chunks : List Str
  /-- The exception raised instead of a further chunk, if any. -/
  interruption : Option ServiceException
  /-- What asking for the final result does. -/
  final : Except ServiceException StreamChatResult
  deriving DecidableEq

/-- The session of a call made instead of a stream. -/
def fallbackSession (outcome : GenerateOutcome) :
    Except ServiceException ChatSession :=
  (run outcome).map fun result =>
    { chunks := [result.assistantMessage.content]
      interruption := none
      final := .ok ⟨result.assistantMessage, none⟩ }

/-- Open a stream at the provider; `outcome` is what a call would do, should it be
made instead. -/
def streamChat (behaviour : StreamBehaviour) (outcome : GenerateOutcome) :
    Except ServiceException ChatSession :=
  match behaviour with
  | .notCallable => fallbackSession outcome
  | .declines => fallbackSession outcome
  | .raises exception => .error (.passedOn exception)
  | .opens script =>
      .ok
        { chunks := script.chunks
          interruption := script.interruption.map .passedOn
          final :=
            match script.final with
            | .ok result => .ok ⟨⟨.assistant, result.content⟩, some result⟩
            | .error exception => .error (.passedOn exception) }

end ChatService
end ChatPlatform
