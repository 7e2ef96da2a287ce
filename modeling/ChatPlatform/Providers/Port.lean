import ChatPlatform.Prompt.Messages

/-!
# The provider port

What a provider returns and how it fails. A stream is a list of chunks followed by
a failure or a final result; a provider may have no stream, decline to open one,
or fail to open one.
-/

namespace ChatPlatform

/-- Kinds of normalized provider failures. -/
inductive ProviderErrorKind
  | timeout
  | network
  | auth
  | rateLimit
  | badRequest
  | upstream
  | unknown
  deriving DecidableEq, Repr

/-- The text of a kind. -/
def ProviderErrorKind.text : ProviderErrorKind → Str
  | .timeout => "timeout".toList
  | .network => "network".toList
  | .auth => "auth".toList
  | .rateLimit => "rate_limit".toList
  | .badRequest => "bad_request".toList
  | .upstream => "upstream".toList
  | .unknown => "unknown".toList

/-- A normalized provider failure. -/
structure ProviderError where
  /-- What kind of failure it is. -/
  kind : ProviderErrorKind
  /-- A short message. -/
  message : Str
  /-- The provider that failed. -/
  provider : Str := "unknown".toList
  /-- The HTTP status, if there was one. -/
  httpStatus : Option Int := none
  /-- Whether the provider says a retry may succeed. -/
  retryable : Bool := false
  /-- A code of the provider's own. -/
  errorCode : Option Str := none
  deriving DecidableEq, Repr

/-- An exception that leaves a provider. -/
inductive ProviderException
  /-- A normalized failure. -/
  | provider (error : ProviderError)
  /-- Any other exception, by class name and message. -/
  | other (name message : Str)
  deriving DecidableEq, Repr

/-- What a provider call returns. -/
structure ProviderResult where
  /-- The generated text. -/
  content : Str
  /-- The provider that answered. -/
  provider : Str
  /-- The model that answered. -/
  modelVersion : Str
  /-- The prompt version. -/
  promptVersion : Str
  /-- Tokens read. -/
  inputTokens : Option Int := none
  /-- Tokens written. -/
  outputTokens : Option Int := none
  /-- Their sum as reported. -/
  totalTokens : Option Int := none
  /-- Duration of the call. -/
  latencyMs : Option Int := none
  deriving DecidableEq, Repr

/-- The final result of a stream. -/
structure ProviderStreamResult where
  /-- The text of the stream. -/
  content : Str
  /-- The result of the call. -/
  providerResult : ProviderResult
  deriving DecidableEq, Repr

/-- The script of an open stream. -/
structure StreamScript where
  /-- The chunks it delivers. -/
  chunks : List Str
  /-- The exception raised instead of a further chunk, if any. -/
  interruption : Option ProviderException
  /-- What asking for the final result does. -/
  final : Except ProviderException ProviderStreamResult
  deriving DecidableEq

/-- How the stream ends once its chunks are delivered. -/
def StreamScript.ending (script : StreamScript) :
    Except ProviderException ProviderStreamResult :=
  match script.interruption with
  | some exception => .error exception
  | none => script.final

/-- What a provider does when it is asked for a stream. -/
inductive StreamBehaviour
  /-- The provider has no stream function. -/
  | notCallable
  /-- The stream function returns `None`. -/
  | declines
  /-- The stream function raises. -/
  | raises (exception : ProviderException)
  /-- The stream function returns a session. -/
  | opens (script : StreamScript)
  deriving DecidableEq

end ChatPlatform
