import ChatPlatform.Foundation.Channel
import ChatPlatform.Providers.Bedrock

/-!
# The two Bedrock sessions

A stream is read in two ways. A worker thread puts the deltas into a queue, leaves the
result or the failure in a shared state and puts a marker last; the session takes the
deltas out of the queue. Or the session's own generator reads the events, from one delta
to the next. However thread and session interleave, both ways deliver what reading the
events one after the other gives, and a response that is streamed gives the result of
the response.
-/

namespace ChatPlatform
namespace Bedrock

open Channel

variable {F : Type} [FloatOps F]

/-! ## The source -/

/-- What a session reads: the events, of any shape, and the exception their iteration
raises after them, already normalized. -/
structure StreamSource (F : Type) where
  /-- The events. -/
  events : List (Value F)
  /-- The failure of the iteration, if any. -/
  interruption : Option ProviderError := none

/-- The model, the prompt version and the measured duration of a session. -/
structure SessionCall where
  /-- The model of the call. -/
  model : Str
  /-- The prompt version of the call. -/
  promptVersion : Str
  /-- The measured duration. -/
  elapsedMs : Int

/-- The normalized failure of an exception without a code that is neither a timeout nor a
failed connection. -/
def unknownError : ProviderError where
  kind := .unknown
  message := "provider unknown error".toList
  provider := "bedrock".toList

/-- What one event does: its delta and what is known after it, or a failure. An event
that is no dictionary has no items. -/
def readEvent (progress : StreamProgress F) :
    Value F → Except ProviderError (Str × StreamProgress F)
  | .dict event =>
      match extractStreamError event with
      | some error => .error error
      | none => .ok (extractStreamDelta event, observe progress event)
  | _ => .error unknownError

/-- The final result of what was read. -/
def sessionResult
    (call : SessionCall)
    (progress : StreamProgress F) : ProviderStreamResult :=
  let content := normalizedContent progress.contentParts.flatten
  { content
    providerResult := providerResultFromParts content (progress.usage.getD [])
      call.model call.promptVersion (progress.latencyMs.getD call.elapsedMs) }

/-- The failure raised when a session left neither a result nor an error. -/
def streamIncomplete : ProviderError where
  kind := .unknown
  message := "provider stream incomplete".toList
  provider := "bedrock".toList

/-- The final result of a session from the two variables it leaves. -/
def finalOf
    (finalResult : Option ProviderStreamResult)
    (error : Option ProviderError) : Except ProviderError ProviderStreamResult :=
  match error with
  | some error => .error error
  | none =>
      match finalResult with
      | none => .error streamIncomplete
      | some result => .ok result

/-! ## The worker and its queue -/

/-- Where the worker is. -/
inductive WorkerLocation (F : Type)
  /-- In the loop over the events. -/
  | reading (rest : List (Value F))
  /-- At the end, before the marker. -/
  | finishing
  /-- Done. -/
  | finished

/-- The worker: what it read, the shared state, and where it is. -/
structure Worker (F : Type) where
  /-- What was read so far. -/
  progress : StreamProgress F := {}
  /-- The result in the shared state. -/
  finalResult : Option ProviderStreamResult := none
  /-- The failure in the shared state. -/
  error : Option ProviderError := none
  /-- Where the worker is. -/
  location : WorkerLocation F

/-- One step of the worker: what it puts into the queue, and where it goes. -/
def consumeStreamStep
    (call : SessionCall)
    (interruption : Option ProviderError)
    (worker : Worker F) : Option (List (Item Str) × Worker F) :=
  match worker.location with
  | .reading [] =>
      match interruption with
      | some error => some ([], { worker with error := some error, location := .finishing })
      | none =>
          some ([],
            { worker with
              finalResult := some (sessionResult call worker.progress)
              location := .finishing })
  | .reading (event :: rest) =>
      match readEvent worker.progress event with
      | .error error =>
          some ([], { worker with error := some error, location := .finishing })
      | .ok (delta, progress) =>
          some (if delta = [] then [] else [.chunk delta],
            { worker with progress, location := .reading rest })
  | .finishing => some ([.stop], { worker with location := .finished })
  | .finished => none

/-- The final result of the queue-based session, once the worker is done. -/
def Worker.getFinalResult (worker : Worker F) : Except ProviderError ProviderStreamResult :=
  finalOf worker.finalResult worker.error

/-! ## The generator -/

/-- How resuming the generator ends. -/
inductive Resumed (F : Type)
  /-- It yields a delta, with what it knows then and the events that remain. -/
  | yielded (delta : Str) (progress : StreamProgress F) (rest : List (Value F))
  /-- It is exhausted and leaves a result or a failure. -/
  | ended (finalResult : Option ProviderStreamResult) (error : Option ProviderError)

/-- Resume the generator: it reads events up to the next delta. -/
def resume
    (call : SessionCall)
    (interruption : Option ProviderError)
    (progress : StreamProgress F) : List (Value F) → Resumed F
  | [] =>
      match interruption with
      | some error => .ended none (some error)
      | none => .ended (some (sessionResult call progress)) none
  | event :: rest =>
      match readEvent progress event with
      | .error error => .ended none (some error)
      | .ok (delta, progress) =>
          if delta = [] then resume call interruption progress rest
          else .yielded delta progress rest

/-- What is left after a delta is shorter. -/
theorem length_lt_of_yielded
    {call : SessionCall}
    {interruption : Option ProviderError}
    {progress after : StreamProgress F}
    {events rest : List (Value F)}
    {delta : Str}
    (yields : resume call interruption progress events = .yielded delta after rest) :
    rest.length < events.length := by
  induction events generalizing progress with
  | nil =>
      unfold resume at yields
      cases interruption <;> cases yields
  | cons event others inductionHypothesis =>
      unfold resume at yields
      split at yields
      · cases yields
      · split at yields
        · exact (inductionHypothesis yields).trans (Nat.lt_succ_self _)
        · cases yields
          exact Nat.lt_succ_self _

/-- Resume the generator until it is exhausted: the deltas, and the final result then. -/
def drain
    (call : SessionCall)
    (interruption : Option ProviderError)
    (progress : StreamProgress F)
    (events : List (Value F)) : List Str × Except ProviderError ProviderStreamResult :=
  match _ : resume call interruption progress events with
  | .ended finalResult error => ([], finalOf finalResult error)
  | .yielded delta after rest =>
      let drained := drain call interruption after rest
      (delta :: drained.1, drained.2)
termination_by events.length
decreasing_by exact length_lt_of_yielded (by assumption)

/-! ## Reading the events one after the other -/

/-- Read events up to the first failure. -/
def readValues (progress : StreamProgress F) :
    List (Value F) → StreamProgress F × Option ProviderError
  | [] => (progress, none)
  | event :: rest =>
      match readEvent progress event with
      | .error error => (progress, some error)
      | .ok (_, after) => readValues after rest

/-- The outcome of what was read. -/
def outcomeOf
    (call : SessionCall)
    (interruption : Option ProviderError)
    (read : StreamProgress F × Option ProviderError) :
    Except ProviderError ProviderStreamResult :=
  match read.2.or interruption with
  | some error => .error error
  | none => .ok (sessionResult call read.1)

/-- A delta that is not empty becomes a part of the content. -/
theorem contentParts_of_readEvent
    {progress after : StreamProgress F}
    {event : Value F}
    {delta : Str}
    (read : readEvent progress event = .ok (delta, after)) :
    after.contentParts = progress.contentParts ++ if delta = [] then [] else [delta] := by
  unfold readEvent at read
  split at read
  · split at read
    · cases read
    · cases read
      unfold observe
      dsimp only
      split
      · exact (List.append_nil _).symm
      · rfl
  · cases read

/-- Events that are dictionaries are read as before. -/
theorem readValues_dicts (progress : StreamProgress F) (events : List (Dict F)) :
    readValues progress (events.map .dict) = readEvents progress events := by
  induction events generalizing progress with
  | nil => rfl
  | cons event rest inductionHypothesis =>
      rw [List.map_cons, readValues, readEvents, readEvent]
      cases extractStreamError event with
      | some error => rfl
      | none => exact inductionHypothesis (observe progress event)

/-! ## The generator delivers it -/

section

variable {call : SessionCall} {interruption : Option ProviderError}

private theorem drain_of_ended
    {progress : StreamProgress F}
    {events : List (Value F)}
    {finalResult : Option ProviderStreamResult}
    {error : Option ProviderError}
    (ends : resume call interruption progress events = .ended finalResult error) :
    drain call interruption progress events = ([], finalOf finalResult error) := by
  rw [drain]
  split
  · rename_i otherResult otherError endsSo
    rw [ends] at endsSo
    cases endsSo
    rfl
  · rename_i yields
    rw [ends] at yields
    cases yields

private theorem drain_of_yielded
    {progress after : StreamProgress F}
    {events rest : List (Value F)}
    {delta : Str}
    (yields : resume call interruption progress events = .yielded delta after rest) :
    drain call interruption progress events =
      (delta :: (drain call interruption after rest).1,
        (drain call interruption after rest).2) := by
  rw [drain]
  split
  · rename_i ends
    rw [yields] at ends
    cases ends
  · rename_i yieldsSo
    rw [yields] at yieldsSo
    cases yieldsSo
    rfl

/-- Draining passes over an event without a delta. -/
private theorem drain_of_silent
    {progress after : StreamProgress F}
    {event : Value F}
    {rest : List (Value F)}
    (read : readEvent progress event = .ok ([], after)) :
    drain call interruption progress (event :: rest) =
      drain call interruption after rest := by
  have same : resume call interruption progress (event :: rest) =
      resume call interruption after rest := by
    rw [resume, read]
    exact if_pos rfl
  cases resumed : resume call interruption after rest with
  | ended finalResult error =>
      rw [drain_of_ended resumed, drain_of_ended (same.trans resumed)]
  | yielded delta later others =>
      rw [drain_of_yielded resumed, drain_of_yielded (same.trans resumed)]

variable (call interruption) in
/-- Draining delivers the parts that are read, and ends as reading does. -/
theorem drain_spec (progress : StreamProgress F) (events : List (Value F)) :
    (readValues progress events).1.contentParts =
        progress.contentParts ++ (drain call interruption progress events).1 ∧
      (drain call interruption progress events).2 =
        outcomeOf call interruption (readValues progress events) := by
  induction events generalizing progress with
  | nil =>
      cases stops : interruption with
      | none =>
          have ends : resume call none progress [] =
              .ended (some (sessionResult call progress)) none := rfl
          rw [drain_of_ended ends]
          exact ⟨(List.append_nil _).symm, rfl⟩
      | some error =>
          have ends : resume call (some error) progress [] = .ended none (some error) := rfl
          rw [drain_of_ended ends]
          exact ⟨(List.append_nil _).symm, rfl⟩
  | cons event rest inductionHypothesis =>
      cases read : readEvent progress event with
      | error error =>
          have ends : resume call interruption progress (event :: rest) =
              .ended none (some error) := by rw [resume, read]
          rw [drain_of_ended ends, readValues, read]
          exact ⟨(List.append_nil _).symm, rfl⟩
      | ok done =>
          obtain ⟨delta, after⟩ := done
          obtain ⟨parts, final⟩ := inductionHypothesis after
          rw [contentParts_of_readEvent read] at parts
          rw [readValues, read]
          by_cases silent : delta = []
          · subst silent
            rw [if_pos rfl, List.append_nil] at parts
            rw [drain_of_silent read]
            exact ⟨parts, final⟩
          · have yields : resume call interruption progress (event :: rest) =
                .yielded delta after rest := by
              rw [resume, read]
              exact if_neg silent
            rw [if_neg silent, List.append_assoc] at parts
            rw [drain_of_yielded yields]
            exact ⟨parts, final⟩

/-! ## The queue delivers it -/

variable (call interruption) in
/-- The worker puts the parts that are read, then the marker, and leaves the outcome of
reading. -/
theorem emits_consumeStreamStep (progress : StreamProgress F) (events : List (Value F)) :
    ∃ chunks final steps,
      Emits (consumeStreamStep call interruption)
        { progress, location := .reading events } (chunks.map .chunk ++ [.stop]) final steps ∧
      (readValues progress events).1.contentParts = progress.contentParts ++ chunks ∧
      final.getFinalResult = outcomeOf call interruption (readValues progress events) := by
  have closes : ∀ worker : Worker F, worker.location = .finishing →
      Emits (consumeStreamStep call interruption) worker [.stop]
        { worker with location := .finished } 1 := by
    intro worker finishing
    have moves : consumeStreamStep call interruption worker =
        some ([.stop], { worker with location := .finished }) := by
      unfold consumeStreamStep
      rw [finishing]
    exact .step moves (.halted rfl)
  induction events generalizing progress with
  | nil =>
      cases interruption with
      | none =>
          have moves : consumeStreamStep call none { progress, location := .reading [] } =
              some ([], { progress, finalResult := some (sessionResult call progress),
                          location := .finishing }) := rfl
          exact ⟨[], _, _, .step moves (closes _ rfl), (List.append_nil _).symm, rfl⟩
      | some error =>
          have moves : consumeStreamStep call (some error)
              { progress, location := .reading [] } =
              some ([], { progress, error := some error, location := .finishing }) := rfl
          exact ⟨[], _, _, .step moves (closes _ rfl), (List.append_nil _).symm, rfl⟩
  | cons event rest inductionHypothesis =>
      cases read : readEvent progress event with
      | error error =>
          have moves : consumeStreamStep call interruption
              { progress, location := .reading (event :: rest) } =
              some ([], { progress, error := some error, location := .finishing }) := by
            unfold consumeStreamStep
            dsimp only
            rw [read]
          refine ⟨[], _, _, .step moves (closes _ rfl), ?_, ?_⟩
          · rw [readValues, read]
            exact (List.append_nil _).symm
          · rw [readValues, read]
            rfl
      | ok done =>
          obtain ⟨delta, after⟩ := done
          obtain ⟨chunks, final, steps, emits, parts, outcome⟩ := inductionHypothesis after
          rw [contentParts_of_readEvent read] at parts
          refine ⟨(if delta = [] then [] else [delta]) ++ chunks, final, steps + 1, ?_, ?_, ?_⟩
          · have moves : consumeStreamStep call interruption
                { progress, location := .reading (event :: rest) } =
                some (if delta = [] then [] else [.chunk delta],
                  { progress := after, location := .reading rest }) := by
              unfold consumeStreamStep
              dsimp only
              rw [read]
            have emitted := Emits.step moves emits
            rw [List.map_append, List.append_assoc]
            split at emitted
            · rename_i silent
              rw [if_pos silent]
              exact emitted
            · rename_i spoken
              rw [if_neg spoken]
              exact emitted
          · rw [readValues, read]
            dsimp only
            rw [parts, List.append_assoc]
          · rw [readValues, read]
            exact outcome

end

/-! ## The sessions agree -/

/-- A result without its duration. -/
def untimed (result : ProviderStreamResult) : ProviderStreamResult :=
  { result with providerResult := { result.providerResult with latencyMs := none } }

/-- The queue-based session, under every interleaving, and the inline session deliver the
same deltas and then the same result up to its duration, or the same failure. -/
structure SessionsAgree
    (source : StreamSource F)
    (queued inline : SessionCall) : Prop where
  /-- The queue-based session comes to an end. -/
  bounded : ∃ most, ∀ steps pipe,
    Run (consumeStreamStep queued source.interruption) steps
      (Pipe.start { location := .reading source.events }) pipe → steps ≤ most
  /-- At its end it delivered the deltas of the inline session. -/
  chunks : ∀ steps pipe,
    Run (consumeStreamStep queued source.interruption) steps
      (Pipe.start { location := .reading source.events }) pipe →
    Stuck (consumeStreamStep queued source.interruption) pipe →
      pipe.closed = true ∧
        pipe.received = (drain inline source.interruption {} source.events).1
  /-- Its final result is that of the inline session. -/
  final : ∀ steps pipe,
    Run (consumeStreamStep queued source.interruption) steps
      (Pipe.start { location := .reading source.events }) pipe →
    Stuck (consumeStreamStep queued source.interruption) pipe →
      pipe.producer.getFinalResult.map untimed =
        (drain inline source.interruption {} source.events).2.map untimed

/-- The duration of a call shows in the duration of the result only. -/
theorem untimed_outcomeOf
    {queued inline : SessionCall}
    (model : queued.model = inline.model)
    (promptVersion : queued.promptVersion = inline.promptVersion)
    (interruption : Option ProviderError)
    (read : StreamProgress F × Option ProviderError) :
    (outcomeOf queued interruption read).map untimed =
      (outcomeOf inline interruption read).map untimed := by
  unfold outcomeOf
  cases read.2.or interruption with
  | some error => rfl
  | none =>
      unfold sessionResult
      rw [model, promptVersion]
      rfl

/-- Two sessions for the same model and prompt version agree on every source. -/
theorem sessionsAgree
    (source : StreamSource F)
    {queued inline : SessionCall}
    (model : queued.model = inline.model)
    (promptVersion : queued.promptVersion = inline.promptVersion) :
    SessionsAgree source queued inline := by
  obtain ⟨chunks, final, steps, emits, parts, outcome⟩ :=
    emits_consumeStreamStep queued source.interruption {} source.events
  obtain ⟨inlineParts, inlineOutcome⟩ :=
    drain_spec inline source.interruption {} source.events
  have sameChunks : chunks = (drain inline source.interruption {} source.events).1 :=
    List.append_cancel_left (parts.symm.trans inlineParts)
  refine ⟨⟨_, fun steps pipe run => run_bounded emits run⟩, ?_, ?_⟩
  · intro done pipe run stuck
    obtain ⟨received, closed, -, -⟩ := delivered_of_stuck emits run stuck
    exact ⟨closed, received.trans sameChunks⟩
  · intro done pipe run stuck
    obtain ⟨-, -, -, producer⟩ := delivered_of_stuck emits run stuck
    rw [producer, outcome, inlineOutcome]
    exact untimed_outcomeOf model promptVersion source.interruption _

/-- On events that are dictionaries the sessions deliver the decoded stream. -/
theorem decodeStream_eq_drain (call : StreamCall F) :
    (decodeStream call).chunks =
        (drain ⟨call.model, call.promptVersion, call.elapsedMs⟩ call.interruption {}
          (call.events.map .dict)).1 ∧
      (decodeStream call).final =
        (drain ⟨call.model, call.promptVersion, call.elapsedMs⟩ call.interruption {}
          (call.events.map .dict)).2.mapError .provider := by
  obtain ⟨parts, outcome⟩ := drain_spec ⟨call.model, call.promptVersion, call.elapsedMs⟩
    call.interruption {} (call.events.map .dict)
  rw [readValues_dicts] at parts outcome
  rw [outcome]
  refine ⟨parts, ?_⟩
  unfold decodeStream outcomeOf
  dsimp only
  cases (readEvents {} call.events).2.or call.interruption <;> rfl

/-! ## Streamed responses -/

/-- The content blocks of a response. -/
def contentBlocks (data : Dict F) : List (Value F) :=
  let output := (Dict.getDict data "output".toList).getD []
  let message := (Dict.getDict output "message".toList).getD []
  match Dict.get message "content".toList with
  | some (.list blocks) => blocks
  | _ => []

/-- The text of a response; nothing when a block is no dictionary. -/
def responseText (data : Dict F) : Option Str :=
  ((contentBlocks data).mapM blockText).map (·.flatten)

/-- Events that stream a text: deltas of it, and events without a delta, metadata or a
failure in between. -/
inductive StreamsText : List (Value F) → Str → Prop
  /-- No event streams the empty text. -/
  | nil : StreamsText [] []
  /-- A delta with a piece of the text. -/
  | delta {block inner : Dict F} {piece text : Str} {rest : List (Value F)}
      (holdsDelta : Dict.getDict block "delta".toList = some inner)
      (holdsText : Dict.getStr inner "text".toList = some piece)
      (others : StreamsText rest text) :
      StreamsText (.dict [("contentBlockDelta".toList, .dict block)] :: rest) (piece ++ text)
  /-- An event that carries nothing. -/
  | silent {event : Dict F} {text : Str} {rest : List (Value F)}
      (noFailure : extractStreamError event = none)
      (noDelta : Dict.get event "contentBlockDelta".toList = none)
      (noMetadata : Dict.get event "metadata".toList = none)
      (others : StreamsText rest text) :
      StreamsText (.dict event :: rest) text

/-- The streaming form of a response: its text in deltas, then its usage and its metrics
in one metadata event. -/
structure StreamingForm (data : Dict F) (source : StreamSource F) (text : Str) : Prop where
  /-- The text of the response. -/
  read : responseText data = some text
  /-- The events. -/
  events : ∃ early metadata, source.events =
      early ++ [.dict [("metadata".toList, .dict metadata)]] ∧
    StreamsText early text ∧
    Dict.get metadata "usage".toList = Dict.get data "usage".toList ∧
    Dict.get metadata "metrics".toList = Dict.get data "metrics".toList
  /-- The iteration succeeds. -/
  uninterrupted : source.interruption = none

omit [FloatOps F] in
/-- An absent key holds no dictionary. -/
private theorem getDict_of_absent
    {entries : Dict F}
    {key : Str}
    (absent : Dict.get entries key = none) : Dict.getDict entries key = none := by
  rw [Dict.getDict, absent]

omit [FloatOps F] in
/-- The dictionary under the only key. -/
private theorem getDict_singleton (key : Str) (fields : Dict F) :
    Dict.getDict [(key, .dict fields)] key = some fields := by
  rw [Dict.getDict, Dict.get_cons, if_pos rfl]

omit [FloatOps F] in
/-- Under another key there is nothing. -/
private theorem get_singleton_of_ne
    {key other : Str}
    (different : key ≠ other)
    (value : Value F) : Dict.get [(key, value)] other = none := by
  rw [Dict.get_cons, if_neg different, Dict.get_nil]

omit [FloatOps F] in
/-- An event with one key that does not end in `Exception` reports no failure. -/
private theorem extractStreamError_singleton
    {key : Str}
    (other : "Exception".toList.isSuffixOf key = false)
    (value : Value F) : extractStreamError [(key, value)] = none := by
  rw [extractStreamError, List.find?_cons_of_neg (by rw [other]; exact Bool.false_ne_true)]
  rfl

/-- Reading events that stream a text adds the text, and nothing else. -/
theorem readValues_of_streamsText
    {events : List (Value F)}
    {text : Str}
    (streams : StreamsText events text)
    (progress : StreamProgress F) :
    ∃ after, (∀ rest, readValues progress (events ++ rest) = readValues after rest) ∧
      after.contentParts.flatten = progress.contentParts.flatten ++ text ∧
      after.usage = progress.usage ∧ after.latencyMs = progress.latencyMs := by
  induction streams generalizing progress with
  | nil => exact ⟨progress, fun _ => rfl, (List.append_nil _).symm, rfl, rfl⟩
  | @delta block inner piece text rest holdsDelta holdsText _ inductionHypothesis =>
      let event : Dict F := [("contentBlockDelta".toList, .dict block)]
      have noFailure : extractStreamError event = none :=
        extractStreamError_singleton (by decide) _
      have adds : extractStreamDelta event = piece := by
        rw [extractStreamDelta, getDict_singleton]
        dsimp only
        rw [holdsDelta]
        dsimp only
        rw [holdsText]
        rfl
      have noMetadata : Dict.getDict event "metadata".toList = none :=
        getDict_of_absent (get_singleton_of_ne (by decide) _)
      have kept : (observe progress event).usage = progress.usage ∧
          (observe progress event).latencyMs = progress.latencyMs := by
        unfold observe
        rw [noMetadata]
        exact ⟨rfl, rfl⟩
      have read : readEvent progress (.dict event) = .ok (piece, observe progress event) := by
        rw [readEvent, noFailure, adds]
      obtain ⟨after, reads, content, usage, latency⟩ :=
        inductionHypothesis (observe progress event)
      refine ⟨after, fun others => ?_, ?_, usage.trans kept.1, latency.trans kept.2⟩
      · rw [List.cons_append, readValues, read]
        exact reads others
      · rw [content, contentParts_of_readEvent read, List.flatten_append, List.append_assoc]
        split
        · rename_i empty
          rw [empty]
          rfl
        · rw [List.flatten_singleton]
  | @silent event text rest noFailure noDelta noMetadata _ inductionHypothesis =>
      have adds : extractStreamDelta event = [] := by
        rw [extractStreamDelta, getDict_of_absent noDelta]
      have same : observe progress event = progress := by
        rw [observe, adds, getDict_of_absent noMetadata]
        rfl
      have read : readEvent progress (.dict event) = .ok ([], progress) := by
        rw [readEvent, noFailure, adds, same]
      obtain ⟨after, reads, content, usage, latency⟩ := inductionHypothesis progress
      refine ⟨after, fun others => ?_, content, usage, latency⟩
      rw [List.cons_append, readValues, read]
      exact reads others

/-- A response with a text gives the result of its parts. -/
theorem buildProviderResult_of_text
    {data : Dict F}
    {text : Str}
    (read : responseText data = some text)
    (model promptVersion : Str)
    (latencyMs : Int) :
    buildProviderResult data model promptVersion latencyMs =
      some (providerResultFromParts (normalizedContent text)
        ((Dict.getDict data "usage".toList).getD []) model promptVersion
        ((Dict.safeInt ((Dict.getDict data "metrics".toList).getD [])
          "latencyMs".toList).getD latencyMs)) := by
  have content : extractTextContent (contentBlocks data) = some (normalizedContent text) := by
    obtain ⟨parts, given, joined⟩ := Option.map_eq_some_iff.mp read
    rw [extractTextContent, given, Option.map_some, joined]
  unfold buildProviderResult
  exact congrArg (Option.map _) content

/-- Reading the streaming form of a response gives its text, usage and duration. -/
theorem outcomeOf_of_streamingForm
    {data : Dict F}
    {source : StreamSource F}
    {text : Str}
    (form : StreamingForm data source text)
    (call : SessionCall) :
    outcomeOf call source.interruption (readValues {} source.events) =
      .ok { content := normalizedContent text
            providerResult := providerResultFromParts (normalizedContent text)
              ((Dict.getDict data "usage".toList).getD []) call.model call.promptVersion
              ((Dict.safeInt ((Dict.getDict data "metrics".toList).getD [])
                "latencyMs".toList).getD call.elapsedMs) } := by
  obtain ⟨early, metadata, events, streams, usage, metrics⟩ := form.events
  obtain ⟨after, reads, content, noUsage, noLatency⟩ := readValues_of_streamsText streams {}
  let event : Dict F := [("metadata".toList, .dict metadata)]
  have noFailure : extractStreamError event = none :=
    extractStreamError_singleton (by decide) _
  have adds : extractStreamDelta event = [] := by
    rw [extractStreamDelta, getDict_of_absent (get_singleton_of_ne (by decide) _)]
  have held : (Dict.getDict event "metadata".toList).getD [] = metadata := by
    rw [getDict_singleton]
    rfl
  have read : readEvent after (.dict event) = .ok ([], observe after event) := by
    rw [readEvent, noFailure, adds]
  have last : readValues {} source.events = (observe after event, none) := by
    rw [events, reads, readValues, read]
    rfl
  have parts : (observe after event).contentParts.flatten = text := by
    rw [contentParts_of_readEvent read, if_pos rfl, List.append_nil, content]
    rfl
  have sameUsage : (observe after event).usage = Dict.getDict data "usage".toList := by
    have found : Dict.getDict metadata "usage".toList =
        Dict.getDict data "usage".toList := by rw [Dict.getDict, Dict.getDict, usage]
    unfold observe
    dsimp only
    rw [held, found, noUsage]
    exact Option.or_none
  have sameLatency : (observe after event).latencyMs =
      Dict.safeInt ((Dict.getDict data "metrics".toList).getD []) "latencyMs".toList := by
    have found : Dict.getDict metadata "metrics".toList =
        Dict.getDict data "metrics".toList := by rw [Dict.getDict, Dict.getDict, metrics]
    unfold observe
    dsimp only
    rw [held, found, noLatency]
    cases Dict.getDict data "metrics".toList with
    | none => rfl
    | some held => rfl
  rw [outcomeOf, form.uninterrupted, last]
  dsimp only [Option.or]
  rw [sessionResult, parts, sameUsage, sameLatency]

/-- The two sessions agree on every source; and on the streaming form of a response both
give the content, the token counts and the model that the response itself gives. -/
theorem decoders_agree
    (source : StreamSource F)
    {queued inline : SessionCall}
    (model : queued.model = inline.model)
    (promptVersion : queued.promptVersion = inline.promptVersion) :
    SessionsAgree source queued inline ∧
      ∀ data text latencyMs, StreamingForm data source text →
        ∃ final result,
          (drain inline source.interruption {} source.events).2 = .ok final ∧
          buildProviderResult data inline.model inline.promptVersion latencyMs =
            some result ∧
          final.content = result.content ∧
          { final.providerResult with latencyMs := none } =
            { result with latencyMs := none } := by
  refine ⟨sessionsAgree source model promptVersion, ?_⟩
  intro data text latencyMs form
  obtain ⟨-, drained⟩ := drain_spec inline source.interruption {} source.events
  rw [outcomeOf_of_streamingForm form] at drained
  exact ⟨_, _, drained, buildProviderResult_of_text form.read _ _ latencyMs, rfl, rfl⟩

/-- Two deltas of a greeting and its token counts. -/
def greetingSource : StreamSource Empty where
  events :=
    [.dict [("contentBlockDelta".toList, .dict [("delta".toList,
        .dict [("text".toList, .str "Hel".toList)])])],
      .dict [("contentBlockDelta".toList, .dict [("delta".toList,
        .dict [("text".toList, .str "lo ".toList)])])],
      .dict [("metadata".toList, .dict [("usage".toList, .dict
        [("inputTokens".toList, .int 3), ("outputTokens".toList, .int 2)])])]]

/-- The greeting as one response. -/
def greetingResponse : Dict Empty :=
  [("output".toList, .dict [("message".toList, .dict [("content".toList, .list
      [.dict [("text".toList, .str "Hello ".toList)]])])]),
    ("usage".toList, .dict
      [("inputTokens".toList, .int 3), ("outputTokens".toList, .int 2)])]

/-- The events of the greeting are the streaming form of its response. -/
theorem streamingForm_greeting :
    StreamingForm greetingResponse greetingSource ("Hel".toList ++ ("lo ".toList ++ [])) where
  read := by decide +kernel
  events := by
    let counts : Value Empty :=
      .dict [("inputTokens".toList, .int 3), ("outputTokens".toList, .int 2)]
    refine ⟨greetingSource.events.take 2, [("usage".toList, counts)], rfl, ?_, rfl, rfl⟩
    exact .delta rfl rfl (.delta rfl rfl .nil)
  uninterrupted := rfl

/-- What the greeting gives, its duration apart. -/
def greetingResult : ProviderResult where
  content := "Hello".toList
  provider := "bedrock".toList
  modelVersion := "model".toList
  promptVersion := "v1".toList
  inputTokens := some 3
  outputTokens := some 2
  totalTokens := some 5

/-- The sessions agree on the greeting, and give what its response gives. -/
theorem decoders_agree_greeting :
    SessionsAgree greetingSource ⟨"model".toList, "v1".toList, 5⟩
        ⟨"model".toList, "v1".toList, 7⟩ ∧
      (∃ final,
        (drain ⟨"model".toList, "v1".toList, 7⟩ greetingSource.interruption {}
          greetingSource.events).2 = .ok final ∧
        final.content = "Hello".toList ∧
        { final.providerResult with latencyMs := none } = greetingResult) ∧
      buildProviderResult greetingResponse "model".toList "v1".toList 9 =
        some { greetingResult with latencyMs := some 9 } := by
  have response : buildProviderResult greetingResponse "model".toList "v1".toList 9 =
      some { greetingResult with latencyMs := some 9 } := by decide +kernel
  obtain ⟨agree, forms⟩ := @decoders_agree Empty _ greetingSource
    ⟨"model".toList, "v1".toList, 5⟩ ⟨"model".toList, "v1".toList, 7⟩ rfl rfl
  obtain ⟨final, result, drained, built, content, untimed⟩ :=
    forms greetingResponse _ 9 streamingForm_greeting
  rw [response] at built
  obtain rfl := Option.some.inj built
  exact ⟨agree, ⟨final, drained, content, untimed⟩, response⟩

end Bedrock
end ChatPlatform
