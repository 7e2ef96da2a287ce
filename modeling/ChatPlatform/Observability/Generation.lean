import ChatPlatform.Observability.Tracing
import ChatPlatform.Providers.ChatService

/-!
# Generation inside a span

The chat service calls the provider inside a span, and forwards its stream inside one.
The consumer of the stream may come back for more, close it, or throw into it. Whatever
the tracer does, the consumer gets the chunks, the final result and the exceptions that
it gets without a tracer.
-/

namespace ChatPlatform
namespace Tracing

open ChatService Program

/-- A provider with states `π`. -/
structure StreamingProvider (π : Type) where
  /-- The name of its class. -/
  name : Str
  /-- A call under the time limit. -/
  generate : π → Except (Raised ServiceException) ProviderResult × π
  /-- The stream function, if there is one: whether it opens a session. -/
  stream : Option (π → Except (Raised ServiceException) Bool × π)
  /-- The next chunk of the session, if there is one. -/
  pull : π → Except (Raised ServiceException) (Option Str) × π
  /-- The final result of the session. -/
  finalResult : π → Except (Raised ServiceException) ProviderStreamResult × π

/-- A provider and the chunks its consumer got. -/
structure Streaming (π : Type) where
  /-- The state of the provider. -/
  provider : π
  /-- The chunks. -/
  streamed : List Str := []
  deriving DecidableEq

/-- What the consumer does with a chunk. -/
inductive Consumption
  /-- It asks for more. -/
  | resumes
  /-- It closes the stream, or throws into it. -/
  | throws (exception : Raised ServiceException)
  deriving DecidableEq

section Service

variable {π τ ρ M H α : Type}

/-- A part of the service without the seam. -/
abbrev PlainProgram (π ρ α : Type) : Type :=
  Program Consumption (Streaming π) ρ (Raised ServiceException) α

/-- A part of the service with the seam. -/
abbrev ServiceProgram (π τ ρ α : Type) : Type :=
  TracedProgram Consumption (Streaming π) τ ρ ServiceException α

/-- Call the provider. -/
def callProvider (call : π → Except (Raised ServiceException) α × π) :
    PlainProgram π ρ α :=
  fun state fates =>
    match call state.provider with
    | (.ok result, left) => (.next result, { state with provider := left }, fates)
    | (.error exception, left) => (.raised exception, { state with provider := left }, fates)

/-- Give a chunk to the consumer; a consumer that does not come back closes the
stream. -/
def yieldChunk (chunk : Str) : PlainProgram π ρ Unit :=
  fun state fates =>
    let given := { state with streamed := state.streamed ++ [chunk] }
    match fates with
    | [] => (.raised .generatorExit, given, [])
    | .resumes :: rest => (.next (), given, rest)
    | .throws exception :: rest => (.raised exception, given, rest)

/-- Give chunks to the consumer until the stream ends or the consumer does not come
back. -/
def forward (provider : StreamingProvider π) (state : Streaming π) :
    List Consumption → Outcome ρ (Raised ServiceException) Unit × Streaming π ×
      List Consumption
  | [] =>
      match provider.pull state.provider with
      | (.error exception, left) => (.raised exception, { state with provider := left }, [])
      | (.ok none, left) => (.next (), { state with provider := left }, [])
      | (.ok (some chunk), left) =>
          (.raised .generatorExit, ⟨left, state.streamed ++ [chunk]⟩, [])
  | fate :: rest =>
      match provider.pull state.provider with
      | (.error exception, left) =>
          (.raised exception, { state with provider := left }, fate :: rest)
      | (.ok none, left) => (.next (), { state with provider := left }, fate :: rest)
      | (.ok (some chunk), left) =>
          match fate with
          | .throws exception => (.raised exception, ⟨left, state.streamed ++ [chunk]⟩, rest)
          | .resumes => forward provider ⟨left, state.streamed ++ [chunk]⟩ rest

/-- The stream of a provider as its consumer meets it. -/
def forwardChunks (provider : StreamingProvider π) : PlainProgram π ρ Unit :=
  fun state fates => forward provider state fates

/-- The class of a failed call, and what is raised in its place. -/
def classify : ServiceException → Str × ServiceException
  | .passedOn (.provider error) =>
      if error.kind = .timeout then
        ("timeout".toList, .providerTimeout "provider timeout".toList)
      else ("provider_error".toList, .providerExecution error.message)
  | .passedOn (.other name _) =>
      if name = "TimeoutError".toList then
        ("timeout".toList, .providerTimeout "provider timeout".toList)
      else ("error".toList, .providerExecution "provider execution failed".toList)
  | .providerTimeout _ =>
      ("error".toList, .providerExecution "provider execution failed".toList)
  | .providerExecution _ =>
      ("error".toList, .providerExecution "provider execution failed".toList)

variable (tracer : Tracer τ ServiceException M H)

/-- Record how a generation ended. -/
def setGenerationOutcome (current : Option H) (outcome : Str) :
    ServiceProgram π τ ρ Unit :=
  setAttribute tracer current "rag.generation_outcome".toList (some (.text outcome))

/-- The span of a generation. -/
def generateSpan
    (provider : StreamingProvider π)
    (body : Option H → ServiceProgram π τ ρ α) : ServiceProgram π τ ρ α :=
  span tracer "rag.generate".toList
    [("provider.name".toList, some (.text provider.name))] body

/-- How a stream ended that was left with an exception. -/
def streamOutcome : Raised ServiceException → Str
  | .generatorExit => "cancelled".toList
  | .cancelled => "cancelled".toList
  | .exception _ => "error".toList
  | .interrupted _ => "error".toList

/-- Forward the stream of a provider inside a span. -/
def tracedGenerationStream (provider : StreamingProvider π) :
    ServiceProgram π τ ρ Unit :=
  generateSpan tracer provider fun current =>
    andThen (catching (beside (Telemetry τ) (forwardChunks provider)) fun exception =>
      some (andThen (setGenerationOutcome tracer current (streamOutcome exception))
        fun _ => raise exception))
      fun _ => setGenerationOutcome tracer current "ok".toList

/-- What is done with the exceptions of a call. -/
def runHandler (current : Option H) :
    Raised ServiceException → Option (ServiceProgram π τ ρ ProviderResult)
  | .exception exception =>
      some (andThen (setGenerationOutcome tracer current (classify exception).1)
        fun _ => raise (.exception (classify exception).2))
  | .cancelled => none
  | .generatorExit => none
  | .interrupted _ => none

/-- Call the provider inside a span, and reduce its failures. -/
def run (provider : StreamingProvider π) : ServiceProgram π τ ρ ChatServiceResult :=
  andThen (generateSpan tracer provider fun current =>
    andThen (catching (beside (Telemetry τ) (callProvider provider.generate))
      (runHandler tracer current)) fun result =>
      andThen (setGenerationOutcome tracer current "ok".toList) fun _ => value result)
    fun result => value ⟨⟨.assistant, result.content⟩, result⟩

/-- Call the provider instead of streaming, and give its answer as one chunk. -/
def fallbackStream (provider : StreamingProvider π) :
    ServiceProgram π τ ρ StreamChatResult :=
  andThen (run tracer provider) fun result =>
    andThen (beside (Telemetry τ) (yieldChunk result.assistantMessage.content)) fun _ =>
      value ⟨result.assistantMessage, none⟩

/-- The final result of a session. -/
def finalResult (provider : StreamingProvider π) : PlainProgram π ρ StreamChatResult :=
  andThen (callProvider provider.finalResult) fun result =>
    value ⟨⟨.assistant, result.content⟩, some result⟩

/-- A streamed chat as its consumer meets it: the chunks, and then the final result. -/
def streamChat (provider : StreamingProvider π) : ServiceProgram π τ ρ StreamChatResult :=
  match provider.stream with
  | none => fallbackStream tracer provider
  | some stream =>
      andThen (beside (Telemetry τ) (callProvider stream)) fun opened =>
        if opened then
          andThen (tracedGenerationStream tracer provider) fun _ =>
            beside (Telemetry τ) (finalResult provider)
        else fallbackStream tracer provider

/-! ## The service without the seam -/

/-- Call the provider and reduce its failures. -/
def plainRun (provider : StreamingProvider π) : PlainProgram π ρ ChatServiceResult :=
  andThen (catching (callProvider provider.generate) fun exception =>
    match exception with
    | .exception failure => some (raise (.exception (classify failure).2))
    | _ => none)
    fun result => value ⟨⟨.assistant, result.content⟩, result⟩

/-- Call the provider and give its answer as one chunk. -/
def plainFallback (provider : StreamingProvider π) : PlainProgram π ρ StreamChatResult :=
  andThen (plainRun provider) fun result =>
    andThen (yieldChunk result.assistantMessage.content) fun _ =>
      value ⟨result.assistantMessage, none⟩

/-- A streamed chat. -/
def plainStreamChat (provider : StreamingProvider π) :
    PlainProgram π ρ StreamChatResult :=
  match provider.stream with
  | none => plainFallback provider
  | some stream =>
      andThen (callProvider stream) fun opened =>
        if opened then andThen (forwardChunks provider) fun _ => finalResult provider
        else plainFallback provider

/-! ## The seam changes nothing -/

variable (provider : StreamingProvider π)

theorem silent_setGenerationOutcome (current : Option H) (outcome : Str) :
    Silent (setGenerationOutcome tracer current outcome : ServiceProgram π τ ρ Unit) :=
  silent_setAttribute tracer current _ _

/-- A wrapped stream is the stream. -/
theorem erases_tracedGenerationStream :
    Erases (tracedGenerationStream tracer provider : ServiceProgram π τ ρ Unit)
      (forwardChunks provider) := by
  have unwrapped : andThen
      (catching (forwardChunks provider) fun exception => some (raise exception))
      (fun _ => value ()) = (forwardChunks provider : PlainProgram π ρ Unit) := by
    rw [catching_raise]
    exact andThen_value (forwardChunks provider)
  rw [← unwrapped]
  unfold tracedGenerationStream generateSpan
  refine erases_span tracer fun current => ?_
  refine Erases.andThen ?_ fun _ =>
    Erases.silent (silent_setGenerationOutcome tracer current "ok".toList)
  refine Erases.catching (Erases.beside _) fun exception => .some ?_
  exact Erases.silentThen (silent_setGenerationOutcome tracer current _)
    fun _ => Erases.raise exception

/-- A call inside a span is the call. -/
theorem erases_run :
    Erases (run tracer provider : ServiceProgram π τ ρ ChatServiceResult)
      (plainRun provider) := by
  unfold run generateSpan plainRun
  refine Erases.andThen (erases_span tracer fun current => ?_) fun _ => Erases.value _
  rw [← andThen_value (catching (callProvider provider.generate) _)]
  refine Erases.andThen ?_ fun result =>
    Erases.silentThen (silent_setGenerationOutcome tracer current _)
      fun _ => Erases.value result
  refine Erases.catching (Erases.beside _) fun exception => ?_
  cases exception with
  | exception failure =>
      exact .some (Erases.silentThen (silent_setGenerationOutcome tracer current _)
        fun _ => Erases.raise _)
  | cancelled => exact .none
  | generatorExit => exact .none
  | interrupted name => exact .none

theorem erases_fallbackStream :
    Erases (fallbackStream tracer provider : ServiceProgram π τ ρ StreamChatResult)
      (plainFallback provider) :=
  Erases.andThen (erases_run tracer provider) fun _ =>
    Erases.andThen (Erases.beside _) fun _ => Erases.value _

/-- A streamed chat with the seam is the streamed chat. -/
theorem erases_streamChat :
    Erases (streamChat tracer provider : ServiceProgram π τ ρ StreamChatResult)
      (plainStreamChat provider) := by
  unfold streamChat plainStreamChat
  cases provider.stream with
  | none => exact erases_fallbackStream tracer provider
  | some stream =>
      refine Erases.andThen (Erases.beside _) fun opened => ?_
      cases opened with
      | true =>
          exact Erases.andThen (erases_tracedGenerationStream tracer provider)
            fun _ => Erases.beside _
      | false => exact erases_fallbackStream tracer provider

end Service

/-- Tracing is transparent. The body of a span runs exactly once, and how it ends is how
the span ends; spans may be nested. A call and a stream of the chat service give the
same chunks, the same result and the same exceptions whatever the tracer does and
whether there is one. -/
theorem tracing_transparent
    {φ σ τ ρ X M H α π : Type}
    (tracer : Tracer τ X M H)
    (serviceTracer : Tracer τ ServiceException M H)
    (provider : StreamingProvider π) :
    (∀ name attributes (body : Option H → TracedProgram φ σ τ ρ X α) state telemetry fates,
      ∃ current before after,
        span tracer name attributes body (state, telemetry) fates =
          ((body current (state, before) fates).1,
            ((body current (state, before) fates).2.1.1, after),
            (body current (state, before) fates).2.2)) ∧
    (∀ name attributes (body : Option H → TracedProgram φ σ τ ρ X α) plain,
      (∀ current, Erases (body current) plain) →
        Erases (span tracer name attributes body) plain) ∧
    IgnoresSilent (tracedGenerationStream serviceTracer provider :
      ServiceProgram π τ ρ Unit) ∧
    IgnoresSilent (streamChat serviceTracer provider :
      ServiceProgram π τ ρ StreamChatResult) ∧
    IgnoresSilent (run serviceTracer provider : ServiceProgram π τ ρ ChatServiceResult) ∧
    Erases (tracedGenerationStream serviceTracer provider : ServiceProgram π τ ρ Unit)
      (forwardChunks provider) ∧
    Erases (streamChat serviceTracer provider : ServiceProgram π τ ρ StreamChatResult)
      (plainStreamChat provider) ∧
    Erases (run serviceTracer provider : ServiceProgram π τ ρ ChatServiceResult)
      (plainRun provider) :=
  ⟨span_eq_body tracer,
    fun _ _ _ _ erasesBody => erases_span tracer erasesBody,
    (erases_tracedGenerationStream serviceTracer provider).ignoresSilent,
    (erases_streamChat serviceTracer provider).ignoresSilent,
    (erases_run serviceTracer provider).ignoresSilent,
    erases_tracedGenerationStream serviceTracer provider,
    erases_streamChat serviceTracer provider,
    erases_run serviceTracer provider⟩

/-! ## A sample stream -/

/-- A tracer that opens spans and fails at everything else. -/
def failingTracer : Tracer Unit ServiceException Unit Unit where
  startAsCurrentSpan _ _ := (.ok (), ())
  enter _ _ := (.ok (), ())
  setAttribute _ _ _ _ := (.error (.passedOn (.other "ValueError".toList [])), ())
  leave _ _ _ := (.error (.passedOn (.other "ExportError".toList [])), ())

/-- A provider that streams the words it still has. -/
def wordsProvider : StreamingProvider (List Str) where
  name := "Words".toList
  generate left := (.error .cancelled, left)
  stream := some fun left => (.ok true, left)
  pull
    | [] => (.ok none, [])
    | word :: left => (.ok (some word), left)
  finalResult left := (.error .cancelled, left)

/-- A consumer that is cancelled at the second word gets both words and its
cancellation, although the tracer fails. -/
theorem tracing_transparent_words :
    ∃ telemetry,
      (tracedGenerationStream failingTracer wordsProvider :
          ServiceProgram (List Str) Unit Empty Unit)
        (⟨["a".toList, "b".toList, "c".toList], []⟩, ⟨true, (), []⟩)
        [.resumes, .throws .cancelled] =
      (.raised .cancelled, (⟨["c".toList], ["a".toList, "b".toList]⟩, telemetry), []) := by
  have transparent := tracing_transparent (φ := Unit) (σ := Unit) (ρ := Empty) (α := Unit)
    failingTracer failingTracer wordsProvider
  exact transparent.2.2.2.2.2.1 ⟨["a".toList, "b".toList, "c".toList], []⟩
    ⟨true, (), []⟩ [.resumes, .throws .cancelled]

end Tracing
end ChatPlatform
