import ChatPlatform.Providers.Resilient

/-!
# A stream comes from one provider

Whatever the two providers do and however driver and consumer interleave, the
consumer sees the chunks of one session, the queue ends with one marker, and the
final result is that of the session delivered.
-/

namespace ChatPlatform
namespace ResilientProvider

open Channel

/-- The failure of the primary before it emitted any chunk. -/
def earlyFailure : StreamBehaviour → Option ProviderException
  | .raises exception => some exception
  | .opens script =>
      match script.chunks, script.ending with
      | [], .error exception => some exception
      | _, _ => none
  | _ => none

/-- The chunks of a session, how it ends, and how often the fallback was asked for
a stream. -/
inductive Delivers (scripts : StreamScripts) :
    List Str → Except ProviderException ProviderStreamResult → Nat → Prop
  /-- The primary's session, unless it failed early and may be replaced. -/
  | primary {script : StreamScript}
      (opened : scripts.primary = .opens script)
      (final : ∀ exception, earlyFailure scripts.primary = some exception →
        isRetryableProviderError exception = false) :
      Delivers scripts script.chunks script.ending 0
  /-- The fallback's session, after a retryable failure before any chunk. -/
  | fallback {exception : ProviderException} {script : StreamScript}
      (failed : earlyFailure scripts.primary = some exception)
      (retryable : isRetryableProviderError exception = true)
      (opened : scripts.fallback = .opens script) :
      Delivers scripts script.chunks script.ending 1
  /-- The fallback fails to open a session: its own error is the last one. -/
  | fallbackRaised {exception raised : ProviderException}
      (failed : earlyFailure scripts.primary = some exception)
      (retryable : isRetryableProviderError exception = true)
      (raises : scripts.fallback = .raises raised) :
      Delivers scripts [] (.error raised) 1
  /-- The fallback has no stream: the primary's error is the last one. -/
  | fallbackMissing {exception : ProviderException}
      (failed : earlyFailure scripts.primary = some exception)
      (retryable : isRetryableProviderError exception = true)
      (missing : scripts.fallback = .notCallable) :
      Delivers scripts [] (.error exception) 0
  /-- The fallback declines to open a session: the primary's error is the last
  one. -/
  | fallbackDeclined {exception : ProviderException}
      (failed : earlyFailure scripts.primary = some exception)
      (retryable : isRetryableProviderError exception = true)
      (declines : scripts.fallback = .declines) :
      Delivers scripts [] (.error exception) 1

/-- What holds in every run of the driver task and the consumer. -/
structure StreamGuarantee
    (labels : Labels)
    (fallback : StreamBehaviour)
    (driver : Driver)
    (chunks : List Str)
    (outcome : Except ProviderException ProviderStreamResult)
    (starts : Nat) : Prop where
  /-- Every run is finite, with one bound for all. -/
  bounded : ∃ limit, ∀ steps pipe,
    Run (driveStream labels fallback) steps (.start driver) pipe → steps ≤ limit
  /-- The consumer only ever sees a prefix of the chunks. -/
  oneSession : ∀ steps pipe,
    Run (driveStream labels fallback) steps (.start driver) pipe →
      pipe.received <+: chunks
  /-- The fallback is asked no more often than stated. -/
  startsAtMost : ∀ steps pipe,
    Run (driveStream labels fallback) steps (.start driver) pipe →
      pipe.producer.fallbackStarts ≤ starts
  /-- When nothing can move, all chunks and then one marker were taken, the queue
  is empty, and the final result is available. -/
  ends : ∀ steps pipe,
    Run (driveStream labels fallback) steps (.start driver) pipe →
      Stuck (driveStream labels fallback) pipe →
        pipe.taken = chunks.map .chunk ++ [.stop] ∧ pipe.queue = [] ∧
          pipe.producer.location = .finished ∧
            getFinalResult labels pipe.producer = outcome ∧
              pipe.producer.fallbackStarts = starts

/-! ## The driver on its own -/

/-- The driver alone puts the items, halts with the outcome, and has asked the
fallback as often as stated. -/
private def Drives
    (labels : Labels)
    (fallback : StreamBehaviour)
    (driver : Driver)
    (items : List (Item Str))
    (outcome : Except ProviderException ProviderStreamResult)
    (starts : Nat) : Prop :=
  ∃ final steps,
    Emits (driveStream labels fallback) driver items final steps ∧
      final.location = .finished ∧ getFinalResult labels final = outcome ∧
        final.fallbackStarts = starts

variable {labels : Labels} {fallback : StreamBehaviour}

/-- A step that puts one item. -/
private theorem Drives.put
    {driver after : Driver}
    {item : Item Str}
    {later : List (Item Str)}
    {outcome : Except ProviderException ProviderStreamResult}
    {starts : Nat}
    (moves : driveStream labels fallback driver = some ([item], after))
    (rest : Drives labels fallback after later outcome starts) :
    Drives labels fallback driver (item :: later) outcome starts := by
  obtain ⟨final, steps, emits, finished, result, count⟩ := rest
  exact ⟨final, steps + 1, .step moves emits, finished, result, count⟩

/-- A step that puts nothing. -/
private theorem Drives.silent
    {driver after : Driver}
    {later : List (Item Str)}
    {outcome : Except ProviderException ProviderStreamResult}
    {starts : Nat}
    (moves : driveStream labels fallback driver = some ([], after))
    (rest : Drives labels fallback after later outcome starts) :
    Drives labels fallback driver later outcome starts := by
  obtain ⟨final, steps, emits, finished, result, count⟩ := rest
  exact ⟨final, steps + 1, .step moves emits, finished, result, count⟩

/-- In the final block the driver puts the marker. -/
private theorem drives_finishing
    {state : StreamState}
    {outcome : Except ProviderException ProviderStreamResult}
    {starts : Nat}
    (result : getFinalResult labels ⟨state, .finishing, starts⟩ = outcome) :
    Drives labels fallback ⟨state, .finishing, starts⟩ [.stop] outcome starts := by
  have finished :
      Drives labels fallback ⟨state, .finished, starts⟩ [] outcome starts :=
    ⟨⟨state, .finished, starts⟩, 0, .halted rfl, rfl, result, rfl⟩
  have moves : driveStream labels fallback ⟨state, .finishing, starts⟩ =
      some ([.stop], ⟨state, .finished, starts⟩) := rfl
  exact Drives.put moves finished

/-- The fallback's session decides the outcome. -/
private theorem drives_consumingFallback
    {state : StreamState}
    (clean : state.error = none)
    (script : StreamScript)
    (starts : Nat) :
    Drives labels fallback ⟨state, .consumingFallback script, starts⟩
      (script.chunks.map .chunk ++ [.stop]) script.ending starts := by
  obtain ⟨chunks, interruption, final⟩ := script
  induction chunks generalizing state with
  | nil =>
      refine Drives.silent rfl ?_
      cases ending : StreamScript.ending ⟨[], interruption, final⟩ with
      | ok result =>
          refine drives_finishing ?_
          simp [getFinalResult, settle, clean]
      | error exception => exact drives_finishing rfl
  | cons chunk rest inductionHypothesis =>
      have moves : driveStream labels fallback
          ⟨state, .consumingFallback ⟨chunk :: rest, interruption, final⟩, starts⟩ =
        some ([.chunk chunk], ⟨noteChunk state,
          .consumingFallback ⟨rest, interruption, final⟩, starts⟩) := rfl
      have cleanAfter : (noteChunk state).error = none := clean
      exact Drives.put moves (inductionHypothesis cleanAfter)

/-- A session that may no longer be replaced decides the outcome. -/
private theorem drives_consuming
    {state : StreamState}
    (clean : state.error = none)
    (committed : state.firstChunkEmitted = true ∨ state.fallbackUsed = true)
    (script : StreamScript)
    (starts : Nat) :
    Drives labels fallback ⟨state, .consuming script, starts⟩
      (script.chunks.map .chunk ++ [.stop]) script.ending starts := by
  obtain ⟨chunks, interruption, final⟩ := script
  induction chunks generalizing state with
  | nil =>
      refine Drives.silent rfl ?_
      cases ending : StreamScript.ending ⟨[], interruption, final⟩ with
      | ok result =>
          refine drives_finishing ?_
          simp [getFinalResult, settle, clean]
      | error exception =>
          have noFallback : (!state.firstChunkEmitted && !state.fallbackUsed &&
              isRetryableProviderError exception) = false := by
            rcases committed with emitted | used
            · simp [emitted]
            · simp [used]
          simp only [endSession, noFallback]
          exact drives_finishing rfl
  | cons chunk rest inductionHypothesis =>
      have moves : driveStream labels fallback
          ⟨state, .consuming ⟨chunk :: rest, interruption, final⟩, starts⟩ =
        some ([.chunk chunk], ⟨noteChunk state,
          .consuming ⟨rest, interruption, final⟩, starts⟩) := rfl
      have cleanAfter : (noteChunk state).error = none := clean
      exact Drives.put moves (inductionHypothesis cleanAfter (Or.inl rfl))

/-- After an early retryable failure the fallback decides the outcome, or the
failure stands. -/
private theorem drives_startingFallback
    {scripts : StreamScripts}
    {state : StreamState}
    {exception : ProviderException}
    (clean : state.error = none)
    (failed : earlyFailure scripts.primary = some exception)
    (retryable : isRetryableProviderError exception = true) :
    ∃ chunks outcome starts, Delivers scripts chunks outcome starts ∧
      Drives labels scripts.fallback ⟨state, .startingFallback exception, 0⟩
        (chunks.map .chunk ++ [.stop]) outcome starts := by
  cases behaviour : scripts.fallback with
  | notCallable =>
      exact ⟨[], _, 0, .fallbackMissing failed retryable behaviour,
        Drives.silent rfl (drives_finishing rfl)⟩
  | declines =>
      exact ⟨[], _, 1, .fallbackDeclined failed retryable behaviour,
        Drives.silent rfl (drives_finishing rfl)⟩
  | raises raised =>
      exact ⟨[], _, 1, .fallbackRaised failed retryable behaviour,
        Drives.silent rfl (drives_finishing rfl)⟩
  | opens script =>
      exact ⟨script.chunks, script.ending, 1, .fallback failed retryable behaviour,
        Drives.silent rfl (drives_consumingFallback clean script 1)⟩

/-- The driver of the primary's session delivers one session. -/
private theorem drives_primary
    {scripts : StreamScripts}
    {script : StreamScript}
    (opened : scripts.primary = .opens script) :
    ∃ chunks outcome starts, Delivers scripts chunks outcome starts ∧
      Drives labels scripts.fallback ⟨{}, .consuming script, 0⟩
        (chunks.map .chunk ++ [.stop]) outcome starts := by
  obtain ⟨chunks, interruption, final⟩ := script
  cases chunks with
  | cons chunk rest =>
      refine ⟨_, _, 0, .primary opened (by simp [earlyFailure, opened]), ?_⟩
      have moves : driveStream labels scripts.fallback
          ⟨{}, .consuming ⟨chunk :: rest, interruption, final⟩, 0⟩ =
        some ([.chunk chunk], ⟨noteChunk {},
          .consuming ⟨rest, interruption, final⟩, 0⟩) := rfl
      exact Drives.put moves (drives_consuming rfl (Or.inl rfl) _ 0)
  | nil =>
      cases ending : StreamScript.ending ⟨[], interruption, final⟩ with
      | ok result =>
          have noFailure : earlyFailure scripts.primary = none := by
            simp [earlyFailure, opened, ending]
          refine ⟨_, _, 0, .primary opened (by simp [noFailure]), ?_⟩
          refine Drives.silent rfl ?_
          rw [ending]
          exact drives_finishing rfl
      | error exception =>
          have failed : earlyFailure scripts.primary = some exception := by
            simp [earlyFailure, opened, ending]
          cases retryable : isRetryableProviderError exception with
          | true =>
              have clean : ({ fallbackUsed := true, attemptsUsed := 2 } :
                  StreamState).error = none := rfl
              obtain ⟨chunks, outcome, starts, delivers, drives⟩ :=
                drives_startingFallback clean failed retryable
              refine ⟨chunks, outcome, starts, delivers, ?_⟩
              refine Drives.silent rfl ?_
              simp only [endSession, ending, retryable]
              exact drives
          | false =>
              refine ⟨_, _, 0, .primary opened ?_, ?_⟩
              · intro other same
                rw [failed] at same
                cases same
                exact retryable
              · refine Drives.silent rfl ?_
                simp only [endSession, ending, retryable]
                exact drives_finishing rfl

/-! ## The driver and the consumer together -/

/-- The count of fallback starts never decreases. -/
private theorem fallbackStarts_le_of_emits
    {driver final : Driver}
    {items : List (Item Str)}
    {steps : Nat}
    (emits : Emits (driveStream labels fallback) driver items final steps) :
    driver.fallbackStarts ≤ final.fallbackStarts := by
  induction emits with
  | halted => exact Nat.le_refl _
  | @step driver after _ _ _ _ moves _ inductionHypothesis =>
      refine Nat.le_trans ?_ inductionHypothesis
      unfold driveStream at moves
      cases place : driver.location with
      | finished => simp [place] at moves
      | finishing =>
          simp only [place, Option.some.injEq, Prod.mk.injEq] at moves
          rw [← moves.2]
      | startingFallback handled =>
          simp only [place, Option.some.injEq, Prod.mk.injEq] at moves
          rw [← moves.2]
          unfold startFallback
          split <;> simp
      | consuming script =>
          simp only [place] at moves
          split at moves
          · simp only [Option.some.injEq, Prod.mk.injEq] at moves
            rw [← moves.2]
          · simp only [Option.some.injEq, Prod.mk.injEq] at moves
            rw [← moves.2]
            unfold endSession
            split
            · simp
            · split <;> simp
      | consumingFallback script =>
          simp only [place] at moves
          split at moves
          · simp only [Option.some.injEq, Prod.mk.injEq] at moves
            rw [← moves.2]
          · simp only [Option.some.injEq, Prod.mk.injEq] at moves
            rw [← moves.2]
            unfold endFallback
            split <;> simp

/-- What the driver does on its own decides every run. -/
private theorem Drives.guarantee
    {driver : Driver}
    {chunks : List Str}
    {outcome : Except ProviderException ProviderStreamResult}
    {starts : Nat}
    (drives : Drives labels fallback driver (chunks.map .chunk ++ [.stop])
      outcome starts) :
    StreamGuarantee labels fallback driver chunks outcome starts := by
  obtain ⟨final, total, emits, finished, result, count⟩ := drives
  refine
    { bounded := ⟨_, fun steps pipe run => run_bounded emits run⟩
      oneSession := fun steps pipe run => received_prefix emits run
      startsAtMost := ?_
      ends := ?_ }
  · intro steps pipe run
    obtain ⟨later, left, rest⟩ := producer_emits emits run
    rw [← count]
    exact fallbackStarts_le_of_emits rest
  · intro steps pipe run stuck
    obtain ⟨received, closed, empty, halted⟩ := delivered_of_stuck emits run stuck
    rw [halted]
    refine ⟨?_, empty, finished, result, count⟩
    simp [Pipe.taken, received, closed]

/-- For all behaviours of the two providers: a stream that is opened delivers one
session in every interleaving, and a stream that is not opened either raises the
last error or is declined, with the fallback asked at most once and only after a
retryable failure of the primary. -/
theorem stream_delivers_one_provider
    (labels : Labels)
    (scripts : StreamScripts) :
    match stream scripts with
    | (.opened driver, _) =>
        ∃ chunks outcome starts, Delivers scripts chunks outcome starts ∧
          StreamGuarantee labels scripts.fallback driver chunks outcome starts
    | (.raised exception, starts) =>
        (scripts.primary = .raises exception ∧ starts = 0 ∧
            isRetryableProviderError exception = false) ∨
          starts = 1 ∧ scripts.fallback = .raises exception ∧
            ∃ first, scripts.primary = .raises first ∧
              isRetryableProviderError first = true
    | (.declined, starts) =>
        (starts = 0 ∧
            (scripts.primary = .notCallable ∨ scripts.primary = .declines)) ∨
          (∃ first, scripts.primary = .raises first ∧
            isRetryableProviderError first = true) ∧
              (scripts.fallback = .notCallable ∧ starts = 0 ∨
                scripts.fallback = .declines ∧ starts = 1) := by
  unfold stream
  cases primary : scripts.primary with
  | notCallable => exact Or.inl ⟨rfl, Or.inl rfl⟩
  | declines => exact Or.inl ⟨rfl, Or.inr rfl⟩
  | opens script =>
      obtain ⟨chunks, outcome, starts, delivers, drives⟩ := drives_primary primary
      exact ⟨chunks, outcome, starts, delivers, drives.guarantee⟩
  | raises first =>
      cases retryable : isRetryableProviderError first with
      | false =>
          simp only [retryable, Bool.false_eq_true, if_false]
          simp
      | true =>
          simp only [retryable, if_true]
          have failed : earlyFailure scripts.primary = some first := by
            simp [earlyFailure, primary]
          cases fallback : scripts.fallback with
          | notCallable =>
              exact Or.inr ⟨⟨first, rfl, retryable⟩, Or.inl ⟨rfl, rfl⟩⟩
          | declines =>
              exact Or.inr ⟨⟨first, rfl, retryable⟩, Or.inr ⟨rfl, rfl⟩⟩
          | raises raised =>
              exact Or.inr ⟨rfl, rfl, first, rfl, retryable⟩
          | opens script =>
              have clean : ({ fallbackUsed := true, attemptsUsed := 2 } :
                  StreamState).error = none := rfl
              exact ⟨script.chunks, script.ending, 1,
                .fallback failed retryable fallback,
                (drives_consuming clean (Or.inr rfl) script 1).guarantee⟩

end ResilientProvider
end ChatPlatform
