import ChatPlatform.Foundation.Erasure
import ChatPlatform.Foundation.Invariant
import ChatPlatform.Foundation.Text

/-!
# Spans

Code runs inside a span of a tracer that may fail at every call: when a span is made,
entered or left, and when an attribute is set. The seam ignores each of these failures
for itself, so the body of a span runs exactly once, and what it returns or raises
reaches the caller.
-/

namespace ChatPlatform
namespace Tracing

/-- Everything that can be raised: the first kind is what `except Exception` catches. -/
inductive Raised (X : Type)
  /-- An exception. -/
  | exception (exception : X)
  /-- The task was cancelled. -/
  | cancelled
  /-- A generator was closed. -/
  | generatorExit
  /-- Any other interruption, by class name. -/
  | interrupted (name : Str)
  deriving DecidableEq

/-- The value of an attribute. -/
inductive AttributeValue
  | text (text : Str)
  | number (number : Int)
  | flag (flag : Bool)
  deriving DecidableEq

/-- A tracer with states `τ`, span managers `M` and spans `H`: what each call does, an
exception or a result, and the state it leaves. -/
structure Tracer (τ X M H : Type) where
  /-- Make a span. -/
  startAsCurrentSpan : τ → Str → Except X M × τ
  /-- Enter it. -/
  enter : τ → M → Except X H × τ
  /-- Set an attribute on a span. -/
  setAttribute : τ → H → Str → AttributeValue → Except X Unit × τ
  /-- Leave a span, with the exception that was raised in it, if any. -/
  leave : τ → M → Option (Raised X) → Except X Unit × τ

/-- The state of the seam. -/
structure Telemetry (τ : Type) where
  /-- Whether there is a tracer. -/
  enabled : Bool
  /-- The state of the tracer. -/
  tracer : τ
  /-- The attribute keys that were refused. -/
  rejectedAttributeKeys : List Str := []
  deriving DecidableEq

/-- A program beside the state of the seam. -/
abbrev TracedProgram (φ σ τ ρ X α : Type) : Type :=
  Program φ (σ × Telemetry τ) ρ (Raised X) α

/-! ## The declared attributes -/

/-- Identity of a request. -/
def identityAttributes : List Str :=
  ["request.instance_id".toList, "request.correlation_id".toList]

/-- Counts, flags and classes of a stage. -/
def stageAttributes : List Str :=
  ["rag.candidate_count".toList, "rag.ranked_count".toList,
    "rag.top_k_candidates".toList, "rag.top_n".toList, "rag.fallback_used".toList,
    "rag.evaluator_triggered".toList, "rag.evaluator_verdict".toList,
    "rag.rewrite_outcome".toList, "rag.retrieval_outcome".toList,
    "rag.evaluate_outcome".toList, "rag.generation_outcome".toList,
    "memory.mode".toList, "memory.outcome".toList, "memory.window_turn_count".toList,
    "memory.corpus_turn_count".toList, "memory.selected_count".toList,
    "memory.history_truncated".toList, "memory.history_row_cap_reached".toList,
    "provider.name".toList, "provider.model".toList]

/-- Whether a key may be emitted. -/
def isAllowedAttribute (key : Str) : Bool :=
  (identityAttributes ++ stageAttributes).contains key

/-- How many refused keys are kept. -/
def maxRejected : Nat := 256

open Program

section Seam

variable {φ σ τ ρ X M H α β : Type}

/-- Keep a refused key, while there is room. -/
def Telemetry.reject (telemetry : Telemetry τ) (key : Str) : Telemetry τ :=
  if telemetry.rejectedAttributeKeys.length < maxRejected then
    { telemetry with
      rejectedAttributeKeys := telemetry.rejectedAttributeKeys ++ [key] }
  else telemetry

/-- Record that a key was refused. -/
def recordRejected (key : Str) : TracedProgram φ σ τ ρ X Unit :=
  Program.modify fun both => (both.1, both.2.reject key)

/-- The attributes that have a value and an allowed key; the other keys are
recorded. -/
def filtered :
    List (Str × Option AttributeValue) →
      TracedProgram φ σ τ ρ X (List (Str × AttributeValue))
  | [] => value []
  | (_, none) :: rest => filtered rest
  | (key, some content) :: rest =>
      if isAllowedAttribute key then
        andThen (filtered rest) fun kept => value ((key, content) :: kept)
      else andThen (recordRejected key) fun _ => filtered rest

/-- Call the tracer. -/
def callTracer (call : τ → Except X β × τ) : TracedProgram φ σ τ ρ X β :=
  fun both fates =>
    match call both.2.tracer with
    | (.ok result, left) => (.next result, (both.1, { both.2 with tracer := left }), fates)
    | (.error exception, left) =>
        (.raised (.exception exception), (both.1, { both.2 with tracer := left }), fates)

/-- What `except Exception` does with what it catches. -/
def exceptException (handler : TracedProgram φ σ τ ρ X α) :
    Raised X → Option (TracedProgram φ σ τ ρ X α)
  | .exception _ => some handler
  | .cancelled => none
  | .generatorExit => none
  | .interrupted _ => none

/-- Run a call and ignore its exceptions. -/
def swallowed (body : TracedProgram φ σ τ ρ X Unit) : TracedProgram φ σ τ ρ X Unit :=
  catching body (exceptException (value ()))

/-- Run a block that is left with an exception of its own, and then leave the span with
it or without one. -/
def leaving
    (tracer : Tracer τ X M H)
    (manager : M)
    (body : TracedProgram φ σ τ ρ X α) : TracedProgram φ σ τ ρ X α :=
  fun both fates =>
    match body both fates with
    | (.raised exception, after, left) =>
        ensuring (raise exception)
          (swallowed (callTracer (tracer.leave · manager (some exception)))) after left
    | (ending, after, left) =>
        ensuring (fun both fates => (ending, both, fates))
          (swallowed (callTracer (tracer.leave · manager none))) after left

/-- Make a span and enter it; nothing when one of the two fails. -/
def entered (tracer : Tracer τ X M H) (name : Str) :
    TracedProgram φ σ τ ρ X (Option (M × H)) :=
  catching
    (andThen (callTracer (tracer.startAsCurrentSpan · name)) fun manager =>
      andThen (callTracer (tracer.enter · manager)) fun current =>
        value (some (manager, current)))
    (exceptException (value none))

/-- Set the attributes a span is opened with. -/
def setAttributes
    (tracer : Tracer τ X M H)
    (current : H)
    (attributes : List (Str × Option AttributeValue)) : TracedProgram φ σ τ ρ X Unit :=
  swallowed (andThen (filtered attributes) fun kept =>
    forEach kept fun pair =>
      swallowed (callTracer (tracer.setAttribute · current pair.1 pair.2)))

/-- Run a body inside a span, which is given to it; without a tracer, and when the span
cannot be opened, it is given nothing. -/
def span
    (tracer : Tracer τ X M H)
    (name : Str)
    (attributes : List (Str × Option AttributeValue))
    (body : Option H → TracedProgram φ σ τ ρ X α) : TracedProgram φ σ τ ρ X α :=
  andThen (inspect (·.2.enabled)) fun enabled =>
    if !enabled then body none
    else
      andThen (entered tracer name) fun opened =>
        match opened with
        | none => body none
        | some (manager, current) =>
            andThen (setAttributes tracer current attributes) fun _ =>
              leaving tracer manager (body (some current))

/-- Set an attribute on a span, if there is one. -/
def setAttribute
    (tracer : Tracer τ X M H)
    (current : Option H)
    (key : Str)
    (content : Option AttributeValue) : TracedProgram φ σ τ ρ X Unit :=
  match current, content with
  | some current, some content =>
      if !isAllowedAttribute key then recordRejected key
      else swallowed (callTracer (tracer.setAttribute · current key content))
  | _, _ => value ()

/-! ## The seam is silent -/

variable (tracer : Tracer τ X M H)

theorem silent_recordRejected (key : Str) :
    Silent (recordRejected key : TracedProgram φ σ τ ρ X Unit) :=
  fun _ telemetry _ => ⟨(), telemetry.reject key, rfl⟩

theorem silent_filtered (attributes : List (Str × Option AttributeValue)) :
    Silent (filtered attributes :
      TracedProgram φ σ τ ρ X (List (Str × AttributeValue))) := by
  induction attributes with
  | nil => exact Silent.value []
  | cons pair rest inductionHypothesis =>
      obtain ⟨key, content⟩ := pair
      cases content with
      | none => exact inductionHypothesis
      | some content =>
          unfold filtered
          split
          · exact Silent.andThen inductionHypothesis fun _ => Silent.value _
          · exact Silent.andThen (silent_recordRejected key) fun _ => inductionHypothesis

/-- A call whose exceptions are ignored is silent. -/
theorem silent_swallowed_call (call : τ → Except X Unit × τ) :
    Silent (swallowed (callTracer call) : TracedProgram φ σ τ ρ X Unit) := by
  intro state telemetry fates
  unfold swallowed catching callTracer
  dsimp only
  rcases call telemetry.tracer with ⟨outcome, left⟩
  cases outcome with
  | ok result => exact ⟨(), _, rfl⟩
  | error exception => exact ⟨(), _, rfl⟩

theorem silent_entered (name : Str) :
    Silent (entered tracer name : TracedProgram φ σ τ ρ X (Option (M × H))) := by
  intro state telemetry fates
  unfold entered catching andThen callTracer
  dsimp only
  rcases tracer.startAsCurrentSpan telemetry.tracer name with ⟨made, middle⟩
  cases made with
  | error exception => exact ⟨none, _, rfl⟩
  | ok manager =>
      dsimp only
      rcases tracer.enter middle manager with ⟨opened, left⟩
      cases opened with
      | error exception => exact ⟨none, _, rfl⟩
      | ok current => exact ⟨some (manager, current), _, rfl⟩

theorem silent_setAttributes
    (current : H)
    (attributes : List (Str × Option AttributeValue)) :
    Silent (setAttributes tracer current attributes : TracedProgram φ σ τ ρ X Unit) :=
  Silent.catching (Silent.andThen (silent_filtered attributes) fun _ =>
    Silent.forEach fun _ => silent_swallowed_call _)

theorem silent_setAttribute
    (current : Option H)
    (key : Str)
    (content : Option AttributeValue) :
    Silent (setAttribute tracer current key content : TracedProgram φ σ τ ρ X Unit) := by
  unfold setAttribute
  split
  · split
    · exact silent_recordRejected key
    · exact silent_swallowed_call _
  · exact Silent.value ()

/-! ## The body of a span -/

/-- Leaving a span changes nothing but the state of the seam. -/
theorem leaving_eq
    (manager : M)
    (body : TracedProgram φ σ τ ρ X α)
    (both : σ × Telemetry τ)
    (fates : List φ) :
    ∃ after, leaving tracer manager body both fates =
      ((body both fates).1, ((body both fates).2.1.1, after), (body both fates).2.2) := by
  unfold leaving
  rcases body both fates with ⟨outcome, after, left⟩
  cases outcome with
  | next result =>
      exact (silent_swallowed_call (tracer.leave · manager none)).ensuring
        (fun both fates => (.next result, both, fates)) after left
  | exit result =>
      exact (silent_swallowed_call (tracer.leave · manager none)).ensuring
        (fun both fates => (.exit result, both, fates)) after left
  | raised exception =>
      exact (silent_swallowed_call (tracer.leave · manager (some exception))).ensuring
        (raise exception) after left

/-- The body of a span runs exactly once, from the state and the fates the span was
opened with, and how it ends is how the span ends. -/
theorem span_eq_body
    (name : Str)
    (attributes : List (Str × Option AttributeValue))
    (body : Option H → TracedProgram φ σ τ ρ X α)
    (state : σ)
    (telemetry : Telemetry τ)
    (fates : List φ) :
    ∃ current before after,
      span tracer name attributes body (state, telemetry) fates =
        ((body current (state, before) fates).1,
          ((body current (state, before) fates).2.1.1, after),
          (body current (state, before) fates).2.2) := by
  have looked : inspect (fun both : σ × Telemetry τ => both.2.enabled) (state, telemetry)
      fates = ((.next telemetry.enabled : Outcome ρ (Raised X) Bool), (state, telemetry),
        fates) := rfl
  unfold span
  rw [andThen_of_next looked]
  split
  · exact ⟨none, telemetry, _, rfl⟩
  · obtain ⟨opened, middle, ran⟩ :=
      silent_entered (ρ := ρ) tracer name state telemetry fates
    rw [andThen_of_next ran]
    cases opened with
    | none => exact ⟨none, middle, _, rfl⟩
    | some pair =>
        obtain ⟨manager, current⟩ := pair
        obtain ⟨_, before, set⟩ :=
          silent_setAttributes tracer current attributes state middle fates
        obtain ⟨after, left⟩ :=
          leaving_eq tracer manager (body (some current)) (state, before) fates
        refine ⟨some current, before, after, ?_⟩
        dsimp only
        rw [andThen_of_next set, left]

/-- A span around a body that erases, erases as its body. -/
theorem erases_span
    {name : Str}
    {attributes : List (Str × Option AttributeValue)}
    {body : Option H → TracedProgram φ σ τ ρ X α}
    {plain : Program φ σ ρ (Raised X) α}
    (erasesBody : ∀ current, Erases (body current) plain) :
    Erases (span tracer name attributes body) plain := by
  intro state telemetry fates
  obtain ⟨current, before, after, ran⟩ :=
    span_eq_body tracer name attributes body state telemetry fates
  obtain ⟨_, ranBody⟩ := erasesBody current state before fates
  refine ⟨after, ?_⟩
  rw [ran, ranBody]

end Seam

end Tracing
end ChatPlatform
