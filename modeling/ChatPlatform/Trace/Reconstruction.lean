import ChatPlatform.Route.Atomicity
import ChatPlatform.Route.Rows
import ChatPlatform.Trace.Service

/-!
# No success is reconstructed

The chat route stores the usage event of a success with the message it refers to and
without the conversation. The trace service needs the conversation, so the report of a
success always has an error and never a pair of messages.
-/

namespace ChatPlatform
namespace Trace

variable {F : Type} [FloatOps F]

/-! ## The tables that requests lead to -/

/-- A request with what happens at its awaits. -/
structure Run (F : Type) where
  /-- The request. -/
  call : ChatCall F
  /-- What happens at its awaits. -/
  fates : List Fate

/-- The rows a request made durable. -/
def Run.rows (run : Run F) : List StoredRow :=
  (ChatRoute.chat run.call {} run.fates).2.1.committed

/-- The request answered success: in the body, or by its last frame. -/
def Run.Succeeded (run : Run F) : Prop :=
  let ending := ChatRoute.chat run.call {} run.fates
  (∃ sent ∈ ending.2.1.sent, sent.frame.event = .done) ∨
    ∃ body, ending.1 = .exit (.response body) ∧ body.status = .success

/-- The conversation of a row. -/
def conversationOf : StoredRow → Option ConversationRow
  | .conversation row => some row
  | _ => none

/-- The message of a row, under the number the database gives it. -/
def messageOf (sequence : Uuid → Int) : StoredRow → Option MessageRow
  | .message id conversationId tenantId role content =>
      some ⟨id, sequence id, conversationId, tenantId, role, content⟩
  | _ => none

/-- The usage event of a row, with the time the database gives it. -/
def eventOf (timestamp : Uuid → Int) : StoredRow → Option StampedEvent
  | .usageEvent row => some ⟨timestamp row.id, row⟩
  | _ => none

/-- The tables after rows are stored. -/
def Tables.store
    (tables : Tables)
    (sequence timestamp : Uuid → Int)
    (rows : List StoredRow) : Tables where
  conversations := tables.conversations ++ rows.filterMap conversationOf
  messages := tables.messages ++ rows.filterMap (messageOf sequence)
  usageEvents := tables.usageEvents ++ rows.filterMap (eventOf timestamp)

variable (F)

/-- The tables that a history of requests leads to, in the order of their commits. -/
inductive Reachable : List (Run F) → Tables → Prop
  | empty : Reachable [] {}
  | chat
      {history : List (Run F)}
      {tables : Tables}
      (reachable : Reachable history tables)
      (run : Run F)
      (sequence timestamp : Uuid → Int) :
      Reachable (history ++ [run]) (tables.store sequence timestamp run.rows)

variable {F}

/-- The claim of a trace: a report without errors, whose pair is the user message and
the answer that the request stored. -/
def Reconstructed (tables : Tables) (run : Run F) : Prop :=
  ∃ report content,
    reconstructByRequestId tables run.call.requestId = .ok report ∧
      report.coherence.errors = [] ∧
      run.call.assistantRow content ∈ run.rows ∧
      report.reconstruction = some
        { inputMessage := some ⟨run.call.userMessageId, run.call.conversationId, .user,
            run.call.request.message⟩
          outputMessage := some ⟨run.call.assistantMessageId, run.call.conversationId,
            .assistant, content⟩ }

/-! ## What the usage events of the route refer to -/

/-- A usage event of the route: it never refers to a conversation, and a success refers
to its answer. -/
def Unlinked (event : UsageEventRow) : Prop :=
  event.conversationId = none ∧ (event.status = .success → event.messageId ≠ none)

omit [FloatOps F] in
/-- The usage events a request may store are unlinked and carry its identifier. -/
theorem unlinked_of_writes
    {call : ChatCall F}
    {event : UsageEventRow}
    (written : call.Writes (.usageEvent event)) :
    Unlinked event ∧ event.requestId = call.requestId := by
  generalize stored : StoredRow.usageEvent event = row at written
  cases written with
  | conversation => cases stored
  | user => cases stored
  | assistant content => cases stored
  | answered result =>
      cases stored
      exact ⟨⟨rfl, fun _ => nofun⟩, rfl⟩
  | streamed result =>
      cases stored
      exact ⟨⟨rfl, fun _ => nofun⟩, rfl⟩
  | failed message =>
      cases stored
      exact ⟨⟨rfl, nofun⟩, rfl⟩

/-- All usage events of reachable tables are unlinked. -/
theorem Reachable.unlinked
    {history : List (Run F)}
    {tables : Tables}
    (reachable : Reachable F history tables) :
    ∀ event ∈ tables.usageEvents, Unlinked event.row := by
  induction reachable with
  | empty => exact fun _ present => absurd present List.not_mem_nil
  | chat reachable run sequence timestamp inductionHypothesis =>
      intro event present
      rcases List.mem_append.mp present with earlier | new
      · exact inductionHypothesis event earlier
      · obtain ⟨row, stored, isEvent⟩ := List.mem_filterMap.mp new
        cases row with
        | usageEvent row =>
            cases isEvent
            exact (unlinked_of_writes (ChatRoute.writes_of_mem_committed stored)).1
        | conversation row => cases isEvent
        | message id conversationId tenantId role content => cases isEvent

/-- A request that answered success has stored a complete turn. -/
theorem completeTurn_of_succeeded
    {run : Run F}
    (succeeded : run.Succeeded) : run.call.CompleteTurn run.rows := by
  rcases succeeded with ⟨sent, present, done⟩ | ⟨body, replied, success⟩
  · exact ChatRoute.completeTurn_of_done run.call present done
  · exact ChatRoute.completeTurn_of_success run.call replied success

/-- A request that answered success has a success among the usage events. -/
theorem Reachable.exists_success
    {history : List (Run F)}
    {tables : Tables}
    (reachable : Reachable F history tables)
    {run : Run F}
    (ran : run ∈ history)
    (succeeded : run.Succeeded) :
    ∃ event ∈ tables.usageEvents, event.row.requestId = run.call.requestId ∧
      event.row.status = .success := by
  induction reachable with
  | empty => exact absurd ran List.not_mem_nil
  | chat reachable other sequence timestamp inductionHypothesis =>
      rcases List.mem_append.mp ran with earlier | last
      · obtain ⟨event, present, found⟩ := inductionHypothesis earlier
        exact ⟨event, List.mem_append_left _ present, found⟩
      · obtain rfl := List.mem_singleton.mp last
        obtain ⟨content, event, rows, success, -⟩ := completeTurn_of_succeeded succeeded
        have stored : StoredRow.usageEvent event ∈ run.rows := by
          rw [rows]
          simp [ChatCall.turnRows]
        refine ⟨⟨timestamp event.id, event⟩, ?_, ?_, success⟩
        · apply List.mem_append_right
          exact List.mem_filterMap.mpr ⟨_, stored, rfl⟩
        · exact (unlinked_of_writes (ChatRoute.writes_of_mem_committed stored)).2

/-! ## The report of a success -/

/-- The status of an event, read from its text. -/
private theorem isSuccess_iff (status : ChatStatus) :
    (Text.lower (statusText status) = "success".toList ↔ status = .success) ∧
      (normStrEnum (statusText status) = "success".toList ↔ status = .success) := by
  cases status with
  | success => decide
  | error => decide

/-- The primary event of a request with a success is a success. -/
private theorem selectPrimaryEvent_success
    {newest : StampedEvent}
    {others : List StampedEvent}
    {event : StampedEvent}
    (present : event ∈ newest :: others)
    (success : event.row.status = .success) :
    selectPrimaryEvent newest others ∈ newest :: others ∧
      (selectPrimaryEvent newest others).row.status = .success := by
  unfold selectPrimaryEvent
  cases found : (newest :: others).find? fun event =>
      Text.lower (statusText event.row.status) = "success".toList with
  | none =>
      have missed := List.find?_eq_none.mp found event present
      rw [decide_eq_true_eq] at missed
      exact absurd ((isSuccess_iff _).1.mpr success) missed
  | some primary =>
      have holds := List.find?_some found
      exact ⟨List.mem_of_find?_eq_some found,
        (isSuccess_iff _).1.mp (of_decide_eq_true holds)⟩

/-- The error of every success. -/
def missingConversation : Str :=
  "Success UsageEvent is missing FKs: conversation_id".toList

/-- Checking the keys of an unlinked success reports the missing conversation. -/
private theorem checkKeys_of_unlinked
    {event : UsageEventRow}
    (unlinked : Unlinked event)
    (success : event.status = .success)
    (coherence : Coherence) :
    (checkKeys coherence event).errors = coherence.errors ++ [missingConversation] := by
  have missing : missingKeys event = ["conversation_id".toList] := by
    unfold missingKeys
    rw [if_pos unlinked.1, if_neg (unlinked.2 success)]
    rfl
  unfold checkKeys
  rw [if_pos ((isSuccess_iff _).2.mpr success), missing, if_neg (List.cons_ne_nil _ _),
    Coherence.check_errors, Coherence.err_errors]
  rfl

/-- Whenever the usage events are unlinked, the report of a request with a success has
one error and no pair of messages. -/
theorem report_of_unlinked
    {tables : Tables}
    (unlinked : ∀ event ∈ tables.usageEvents, Unlinked event.row)
    {requestId : Uuid}
    {event : StampedEvent}
    (present : event ∈ tables.usageEvents)
    (ofRequest : event.row.requestId = requestId)
    (success : event.row.status = .success) :
    ∃ report, reconstructByRequestId tables requestId = .ok report ∧
      report.coherence.errors = [missingConversation] ∧
      report.reconstruction = none := by
  have listed : event ∈ eventsOf tables requestId := by
    apply (List.perm_insertionSort _ _).mem_iff.mpr
    exact List.mem_filter.mpr ⟨present, decide_eq_true ofRequest⟩
  unfold reconstructByRequestId
  cases events : eventsOf tables requestId with
  | nil =>
      rw [events] at listed
      exact absurd listed List.not_mem_nil
  | cons newest others =>
      rw [events] at listed
      obtain ⟨chosen, isSuccess⟩ := selectPrimaryEvent_success listed success
      have stored : selectPrimaryEvent newest others ∈ tables.usageEvents := by
        rw [← events] at chosen
        have filtered := (List.perm_insertionSort _ _).mem_iff.mp chosen
        exact (List.mem_filter.mp filtered).1
      have primary := unlinked _ stored
      dsimp only
      unfold resolve
      rw [primary.1]
      refine ⟨_, rfl, ?_, rfl⟩
      dsimp only
      rw [Coherence.check_errors, checkKeys_of_unlinked primary isSuccess]
      split
      · rfl
      · rfl

/-- In every state that requests lead to and for every request that answered success,
streamed or not: its trace has an error and no pair of messages. -/
theorem not_reconstructed
    {history : List (Run F)}
    {tables : Tables}
    (reachable : Reachable F history tables)
    {run : Run F}
    (ran : run ∈ history)
    (succeeded : run.Succeeded) : ¬Reconstructed tables run := by
  obtain ⟨event, present, ofRequest, success⟩ := reachable.exists_success ran succeeded
  obtain ⟨report, reported, errors, -⟩ :=
    report_of_unlinked reachable.unlinked present ofRequest success
  rintro ⟨report', content, reported', noErrors, -⟩
  rw [reported] at reported'
  cases reported'
  rw [errors] at noErrors
  cases noErrors

/-! ## One request -/

/-- A first message that is answered at once, and nothing goes wrong. -/
def greetingRun : Run Empty where
  call :=
    { settings := .unset
      request := ⟨none, "hello".toList, false⟩
      requestId := ⟨1⟩
      tenantId := "t".toList
      newConversationId := ⟨2⟩
      userMessageId := ⟨3⟩
      assistantMessageId := ⟨4⟩
      usageEventId := ⟨5⟩
      failureEventId := ⟨6⟩
      memory := {}
      rag := {}
      lookup := none
      cached := none
      generate := fun _ => .returned
        { content := "hi".toList
          provider := "stub".toList
          modelVersion := "stub-1".toList
          promptVersion := "stub-prompt-1".toList }
      openStream := fun _ => .notCallable
      elapsedMs := 0
      errorProviderName := "stub".toList
      metricsEnabled := false }
  fates := []

/-- The tables after it. -/
def greetingTables : Tables :=
  Tables.store {} (fun id => id.value) (fun _ => 0) greetingRun.rows

private theorem greetingTables_reachable : Reachable Empty [greetingRun] greetingTables :=
  Reachable.empty.chat greetingRun _ _

private theorem greetingRun_succeeded : greetingRun.Succeeded :=
  Or.inr ⟨greetingRun.call.successResponse "hi".toList, by decide +kernel, rfl⟩

/-- The trace of one request. -/
theorem not_reconstructed_greeting : ¬Reconstructed greetingTables greetingRun :=
  not_reconstructed greetingTables_reachable (List.mem_singleton_self _)
    greetingRun_succeeded

/-- The errors of a trace. -/
def traceErrors (tables : Tables) (requestId : Uuid) : List Str :=
  match reconstructByRequestId tables requestId with
  | .ok report => report.coherence.errors
  | .error _ => []

/-- A request answered success whose trace is not reconstructed. -/
theorem greeting_has_error :
    ¬∀ (history : List (Run Empty)) (tables : Tables) (run : Run Empty),
      Reachable Empty history tables → run ∈ history → run.Succeeded →
        Reconstructed tables run := by
  intro claimed
  obtain ⟨report, content, reported, noErrors, -⟩ :=
    claimed _ _ greetingRun greetingTables_reachable (List.mem_singleton_self _)
      greetingRun_succeeded
  have errors : traceErrors greetingTables greetingRun.call.requestId =
      [missingConversation] := by
    decide +kernel
  unfold traceErrors at errors
  rw [reported] at errors
  dsimp only at errors
  rw [noErrors] at errors
  cases errors

end Trace
end ChatPlatform
