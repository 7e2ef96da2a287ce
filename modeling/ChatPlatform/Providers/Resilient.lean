import ChatPlatform.Foundation.Channel
import ChatPlatform.Providers.Port

/-!
# The resilient provider

A primary provider with a fallback. A retryable failure of the primary before it
emits anything starts the fallback. A driver task copies the chunks of the session
into a queue and always ends the queue with a marker; the consumer reads the queue
while the driver runs.
-/

namespace ChatPlatform
namespace ResilientProvider

/-- Whether a failure permits the fallback. -/
def isRetryableProviderError : ProviderException → Bool
  | .other _ _ => false
  | .provider error =>
      error.retryable || error.kind = .rateLimit || error.kind = .upstream ||
        error.kind = .timeout

/-- The kind of a failure; any foreign exception is unknown. -/
def failureKind : ProviderException → ProviderErrorKind
  | .provider error => error.kind
  | .other _ _ => .unknown

/-- The provider named by a result, or a default when it names none. -/
def resultProvider (result : ProviderResult) (default : Str) : Str :=
  if result.provider = [] then default else result.provider

/-- The two names a resilient provider logs. -/
structure Labels where
  /-- Name of the primary. -/
  providerName : Str
  /-- Name of the fallback. -/
  fallbackName : Str

/-- What a call does at either provider. -/
structure GenerateScript where
  /-- The call of the primary. -/
  primary : Except ProviderException ProviderResult
  /-- The call of the fallback, should it be made. -/
  fallback : Except ProviderException ProviderResult

/-- The primary's answer, or the fallback's after a retryable failure. The flag
says whether the fallback was called. -/
def generate (script : GenerateScript) :
    Except ProviderException ProviderResult × Bool :=
  match script.primary with
  | .ok result => (.ok result, false)
  | .error exception =>
      if isRetryableProviderError exception then (script.fallback, true)
      else (.error exception, false)

/-- What either provider does when asked for a stream. -/
structure StreamScripts where
  /-- The primary. -/
  primary : StreamBehaviour
  /-- The fallback. -/
  fallback : StreamBehaviour

/-- State shared by the driver task and the consumer, without the queue. -/
structure StreamState where
  /-- The final result, once there is one. -/
  finalResult : Option ProviderStreamResult := none
  /-- The failure, once there is one. -/
  error : Option ProviderException := none
  /-- Whether any chunk was emitted. -/
  firstChunkEmitted : Bool := false
  /-- Whether the primary emitted a chunk. -/
  firstTokenEmitted : Bool := false
  /-- Whether the fallback was used. -/
  fallbackUsed : Bool := false
  /-- Number of attempts. -/
  attemptsUsed : Nat := 1
  /-- The provider that is logged as the last one. -/
  finalProvider : Option Str := none
  /-- The kind of the failure that is logged. -/
  failureKind : Option ProviderErrorKind := none
  deriving DecidableEq

/-- Where the driver task is. -/
inductive Location
  /-- Copying the chunks of the session it was given. -/
  | consuming (script : StreamScript)
  /-- About to ask the fallback for a session, handling an exception. -/
  | startingFallback (handled : ProviderException)
  /-- Copying the chunks of the fallback's session. -/
  | consumingFallback (script : StreamScript)
  /-- In the final block. -/
  | finishing
  /-- Done. -/
  | finished
  deriving DecidableEq

/-- The driver task. -/
structure Driver where
  /-- The shared state. -/
  state : StreamState
  /-- Where the task is. -/
  location : Location
  /-- How often the fallback's stream function was called. -/
  fallbackStarts : Nat
  deriving DecidableEq

/-- Mark a chunk as emitted. -/
def noteChunk (state : StreamState) : StreamState :=
  { state with
    firstTokenEmitted := state.firstTokenEmitted || !state.fallbackUsed
    firstChunkEmitted := true }

/-- The session ended with a result. -/
def settle
    (default : Str)
    (state : StreamState)
    (result : ProviderStreamResult) : StreamState :=
  { state with
    finalResult := some result
    finalProvider := some (resultProvider result.providerResult default) }

/-- The stream failed. -/
def fail
    (provider : Str)
    (state : StreamState)
    (exception : ProviderException) : StreamState :=
  { state with
    error := some exception
    finalProvider := some provider
    failureKind := some (failureKind exception) }

/-- The provider the driver names for the session it was given. -/
def currentName (labels : Labels) (state : StreamState) : Str :=
  if state.fallbackUsed then labels.fallbackName else labels.providerName

/-- The session the driver was given is over. -/
def endSession
    (labels : Labels)
    (driver : Driver)
    (ending : Except ProviderException ProviderStreamResult) : Driver :=
  match ending with
  | .ok result =>
      { driver with
        state := settle (currentName labels driver.state) driver.state result
        location := .finishing }
  | .error exception =>
      if !driver.state.firstChunkEmitted && !driver.state.fallbackUsed &&
          isRetryableProviderError exception then
        { driver with
          state := { driver.state with fallbackUsed := true, attemptsUsed := 2 }
          location := .startingFallback exception }
      else
        { driver with
          state := fail (currentName labels driver.state) driver.state exception
          location := .finishing }

/-- Ask the fallback for a session. Without one the handled exception is raised
again, and every exception ends up in the shared state. -/
def startFallback
    (labels : Labels)
    (fallback : StreamBehaviour)
    (driver : Driver)
    (handled : ProviderException) : Driver :=
  let failed (exception : ProviderException) (starts : Nat) : Driver :=
    { state := fail labels.fallbackName driver.state exception
      location := .finishing
      fallbackStarts := driver.fallbackStarts + starts }
  match fallback with
  | .notCallable => failed handled 0
  | .declines => failed handled 1
  | .raises exception => failed exception 1
  | .opens script =>
      { driver with
        location := .consumingFallback script
        fallbackStarts := driver.fallbackStarts + 1 }

/-- The fallback's session is over. -/
def endFallback
    (labels : Labels)
    (driver : Driver)
    (ending : Except ProviderException ProviderStreamResult) : Driver :=
  match ending with
  | .ok result =>
      { driver with
        state := settle labels.fallbackName driver.state result
        location := .finishing }
  | .error exception =>
      { driver with
        state := fail labels.fallbackName driver.state exception
        location := .finishing }

/-- One step of the driver task: what it puts into the queue, and where it goes. -/
def driveStream
    (labels : Labels)
    (fallback : StreamBehaviour)
    (driver : Driver) : Option (List (Channel.Item Str) × Driver) :=
  match driver.location with
  | .consuming script =>
      match script.chunks with
      | chunk :: rest =>
          some ([.chunk chunk],
            { driver with
              state := noteChunk driver.state
              location := .consuming { script with chunks := rest } })
      | [] => some ([], endSession labels driver script.ending)
  | .startingFallback handled =>
      some ([], startFallback labels fallback driver handled)
  | .consumingFallback script =>
      match script.chunks with
      | chunk :: rest =>
          some ([.chunk chunk],
            { driver with
              state := noteChunk driver.state
              location := .consumingFallback { script with chunks := rest } })
      | [] => some ([], endFallback labels driver script.ending)
  | .finishing => some ([.stop], { driver with location := .finished })
  | .finished => none

/-- What asking a resilient provider for a stream does. -/
inductive Started
  /-- It returns `None`. -/
  | declined
  /-- It raises. -/
  | raised (exception : ProviderException)
  /-- It returns a session with a fresh queue and this driver task. -/
  | opened (driver : Driver)
  deriving DecidableEq

/-- Ask for a stream. The number says how often the fallback was asked. -/
def stream (scripts : StreamScripts) : Started × Nat :=
  match scripts.primary with
  | .notCallable => (.declined, 0)
  | .declines => (.declined, 0)
  | .opens script => (.opened ⟨{}, .consuming script, 0⟩, 0)
  | .raises exception =>
      if isRetryableProviderError exception then
        match scripts.fallback with
        | .notCallable => (.declined, 0)
        | .declines => (.declined, 1)
        | .raises fallbackException => (.raised fallbackException, 1)
        | .opens script =>
            (.opened ⟨{ fallbackUsed := true, attemptsUsed := 2 },
              .consuming script, 1⟩, 1)
      else (.raised exception, 0)

/-- The failure raised when the driver left neither a result nor an error. -/
def streamIncomplete (labels : Labels) : ProviderException :=
  .provider
    { kind := .unknown
      message := "provider stream incomplete".toList
      provider := labels.providerName }

/-- The final result, once the driver task is done. -/
def getFinalResult (labels : Labels) (driver : Driver) :
    Except ProviderException ProviderStreamResult :=
  match driver.state.error with
  | some exception => .error exception
  | none =>
      match driver.state.finalResult with
      | none => .error (streamIncomplete labels)
      | some result => .ok result

end ResilientProvider
end ChatPlatform
