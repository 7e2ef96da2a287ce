import ChatPlatform.Foundation.Invariant
import ChatPlatform.Route.Rows

/-!
# The commit of a turn

Both kinds of request have the same shape: something before the transaction, the
transaction that stores the turn, something after it, handlers around all three, and
the metrics at the end. A run either reaches the commit of the turn or it does not.
-/

namespace ChatPlatform

open Program Session

/-- A request by its parts. -/
structure Turn (α β : Type) where
  /-- What comes before the transaction. -/
  before : RouteProgram Reply α
  /-- What stores the turn, inside the transaction. -/
  body : α → RouteProgram Reply β
  /-- What comes after the transaction. -/
  after : β → RouteProgram Reply Unit
  /-- The handlers. -/
  handler : Interruption → Option (RouteProgram Reply Unit)

namespace Turn

variable {α β : Type} (turn : Turn α β)

/-- The part of a request the handlers are around. -/
def attempt : RouteProgram Reply Unit :=
  andThen turn.before fun result => andThen (transaction (turn.body result)) turn.after

/-- The request without its metrics. -/
def main : RouteProgram Reply Unit :=
  catching
    (andThen turn.before fun result => andThen (transaction (turn.body result))
      turn.after)
    turn.handler

/-- The request up to the commit of the turn. -/
def untilCommit : RouteProgram Reply β :=
  andThen turn.before fun result => andThen begin fun _ => turn.body result

variable {turn} {world final : World} {fates left : List Fate} {result : β}

/-- A run that reaches the commit goes on with it. -/
theorem main_of_reached
    (reached : turn.untilCommit world fates = (.next result, final, left)) :
    turn.main world fates =
      catching (andThen commit fun _ => turn.after result) turn.handler final left := by
  obtain ⟨value, middle, unused, prepared, ran⟩ := andThen_eq_next reached
  have stored : transaction (turn.body value) middle unused =
      andThen commit (fun _ => Program.value result) final left := within_of_next ran
  unfold main
  apply catching_congr
  rw [andThen_of_next prepared]
  calc andThen (transaction (turn.body value)) turn.after middle unused
  _ = andThen (andThen commit fun _ => Program.value result) turn.after final left := by
      unfold andThen at stored ⊢
      rw [stored]
  _ = andThen commit (fun _ => turn.after result) final left := by
      rw [andThen_assoc]
      rfl

/-- A run that does not reach the commit keeps what its parts keep then. -/
theorem invariant_of_not_reached
    {invariant : World → Prop}
    (keepsBefore : Keeps invariant turn.before)
    (keepsBegin : Keeps invariant (begin : RouteProgram Reply Unit))
    (stops : ∀ value, Triple invariant (turn.body value)
      ⟨fun _ _ => True, fun _ => invariant, fun _ => invariant⟩)
    (keepsCommit : Keeps invariant (commit : RouteProgram Reply Unit))
    (keepsRollback : Keeps invariant (rollback : RouteProgram Reply Unit))
    (keepsHandler : ∀ exception continuation,
      turn.handler exception = some continuation → Keeps invariant continuation)
    (holds : invariant world)
    (missed : ∀ result final left,
      turn.untilCommit world fates ≠ (.next result, final, left)) :
    invariant (turn.main world fates).2.1 := by
  have handled : ∀ {body : RouteProgram Reply Unit} {ending middle unused},
      body world fates = (ending, middle, unused) → invariant middle →
        invariant (catching body turn.handler world fates).2.1 := by
    intro body ending middle unused ran kept
    cases ending with
    | next value =>
        rw [catching_of_next ran]
        exact kept
    | exit reply =>
        rw [catching_of_exit ran]
        exact kept
    | raised exception =>
        cases choice : turn.handler exception with
        | none =>
            rw [catching_of_uncaught ran choice]
            exact kept
        | some continuation =>
            rw [catching_of_caught ran choice]
            exact (keepsHandler exception continuation choice).after kept unused
  have prepared := keepsBefore.after holds fates
  unfold main
  cases ran : turn.before world fates with
  | mk ending others =>
      obtain ⟨middle, unused⟩ := others
      rw [ran] at prepared
      cases ending with
      | exit reply => exact handled (andThen_of_exit ran) prepared
      | raised exception => exact handled (andThen_of_raised ran) prepared
      | next value =>
          have stopped : ∀ result final left,
              andThen begin (fun _ => turn.body value) middle unused ≠
                (.next result, final, left) := by
            intro result final left reached
            exact missed result final left ((andThen_of_next ran).trans reached)
          obtain ⟨notNext, kept⟩ := within_of_not_next keepsBegin (stops value)
            keepsCommit keepsRollback prepared stopped
          cases stored : transaction (turn.body value) middle unused with
          | mk ending others =>
              obtain ⟨after, rest⟩ := others
              have keptAfter : invariant after := by
                have same : (transaction (turn.body value) middle unused).2.1 = after := by
                  rw [stored]
                rw [← same]
                exact kept
              cases ending with
              | next result =>
                  apply absurd ?_ (notNext result)
                  exact congrArg Prod.fst stored
              | exit reply =>
                  exact handled ((andThen_of_next ran).trans (andThen_of_exit stored))
                    keptAfter
              | raised exception =>
                  exact handled ((andThen_of_next ran).trans (andThen_of_raised stored))
                    keptAfter

end Turn

namespace ChatRoute

variable {F : Type} [FloatOps F]

/-- What a streamed request stores inside its transaction. -/
def storeBody
    (call : ChatCall F)
    (result : ChatService.StreamChatResult) : RouteProgram Reply Unit :=
  let providerResult := result.providerResult.map (·.providerResult)
  do
    openConversation call do
      setOutcome .notFound
      yieldFrame notFoundFrame
      exit .streamEnded
    addMessage call.userRow
    addMessage (call.assistantRow
      (Text.truncate result.assistantMessage.content
        call.settings.maxAssistantChars))
    setAnswered providerResult
    add (.usageEvent (call.streamedEvent providerResult))

/-- What a request answered at once stores inside its transaction. -/
def answerBody (call : ChatCall F) :
    RouteProgram Reply (Str × Option ChatService.ChatServiceResult) := do
  openConversation call do
    setOutcome .notFound
    raise (.failure .httpNotFound)
  addMessage call.userRow
  let generated ← generateAnswer call
  let content := Text.truncate generated.1.assistantMessage.content
    call.settings.maxAssistantChars
  addMessage (call.assistantRow content)
  setAnswered (some generated.1.providerResult)
  add (.usageEvent (call.answeredEvent generated.1.providerResult))
  value (content, generated.2)

/-- A streamed request by its parts. -/
def streamedTurn (call : ChatCall F) :
    Turn ChatService.StreamChatResult Unit where
  before := do
    let session ← awaitService
      (ChatService.streamChat (call.openStream call.input) (call.generate call.input))
    relayChunks session
    awaitService session.final
  body := storeBody call
  after := fun _ => yieldFrame (doneFrame call)
  handler := exceptException fun exception => do
    setOutcome .error
    yieldFrame (exceptionFrame exception)
    exit .streamEnded

/-- A request answered at once by its parts. -/
def answeredTurn (call : ChatCall F) :
    Turn Unit (Str × Option ChatService.ChatServiceResult) where
  before := value ()
  body := fun _ => answerBody call
  after := fun stored => do
    keepAnswer stored.2
    exit (.response (call.successResponse stored.1))
  handler := answerHandler call

/-- The parts of a streamed request make up its streaming and storing. -/
theorem streamAndStore_eq (call : ChatCall F) :
    streamAndStore call = (streamedTurn call).attempt := by
  unfold Turn.attempt streamedTurn
  dsimp only
  change _ = andThen (andThen _ fun session => andThen (relayChunks session) _) _
  rw [andThen_assoc]
  simp only [andThen_assoc]
  rfl

/-- The parts of a streamed request make up the generator of the frames. -/
theorem eventGenerator_eq (call : ChatCall F) :
    eventGenerator call =
      ensuring (streamedTurn call).main (recordMetrics call .cancelled) := by
  unfold eventGenerator Turn.main
  rw [streamAndStore_eq]
  rfl

/-- The parts of a request answered at once make it up. -/
theorem answer_eq (call : ChatCall F) :
    answer call = ensuring (answeredTurn call).main (recordMetrics call .error) :=
  rfl

/-! ## What the parts keep -/

/-- The state does not matter beyond what is durable, the outcome and the metrics. -/
structure Unaffected (invariant : World → Prop) : Prop where
  /-- The open transaction does not matter. -/
  transaction : ∀ world rows inTransaction, invariant world →
    invariant { world with pending := rows, inTransaction := inTransaction }
  /-- The frames given to the client do not matter. -/
  sent : ∀ world frames, invariant world → invariant { world with sent := frames }
  /-- The writes to the cache do not matter. -/
  cache : ∀ world writes, invariant world →
    invariant { world with cacheWrites := writes }

namespace Unaffected

variable {invariant : World → Prop} (unaffected : Unaffected invariant) {α : Type}

include unaffected

theorem keeps_begin : Keeps invariant (begin : RouteProgram Reply Unit) := by
  apply Keeps.await
  intro fate world holds
  cases fate with
  | completes =>
      dsimp only
      split
      · exact holds
      · exact unaffected.transaction world world.pending true holds
  | fails exception tookEffect leavesOpen => exact holds
  | cancels tookEffect leavesOpen => exact holds

theorem keeps_rollback : Keeps invariant (rollback : RouteProgram Reply Unit) := by
  apply Keeps.await
  intro fate world holds
  cases fate with
  | completes => exact unaffected.transaction world [] false holds
  | fails exception tookEffect leavesOpen => exact unaffected.transaction world [] leavesOpen holds
  | cancels tookEffect leavesOpen =>
      exact unaffected.transaction world [] leavesOpen holds

theorem keeps_add (row : StoredRow) :
    Keeps invariant (add row : RouteProgram Reply Unit) :=
  Keeps.modify fun world holds =>
    unaffected.transaction world (world.pending ++ [row]) world.inTransaction holds

theorem keeps_addMessage (row : StoredRow) :
    Keeps invariant (addMessage row : RouteProgram Reply Unit) :=
  Keeps.andThen (unaffected.keeps_add row) fun _ => keeps_awaitValue ()

theorem keeps_yieldFrame (frame : Frame) :
    Keeps invariant (yieldFrame frame : RouteProgram Reply Unit) := by
  apply Keeps.await
  intro fate world holds
  have delivered := unaffected.sent world (world.sent ++ [⟨frame, world.committed⟩]) holds
  cases fate with
  | completes => exact delivered
  | fails exception tookEffect leavesOpen => exact delivered
  | cancels tookEffect leavesOpen => exact delivered

omit unaffected in
theorem keeps_awaitService (answer : Except ChatService.ServiceException α) :
    Keeps invariant (awaitService answer : RouteProgram Reply α) := by
  apply Keeps.andThen (keeps_awaitValue answer)
  intro answer
  cases answer with
  | ok result => exact Keeps.value result
  | error exception => exact Keeps.raise _

theorem keeps_relayChunks (session : ChatService.ChatSession) :
    Keeps invariant (relayChunks session : RouteProgram Reply Unit) := by
  apply Keeps.andThen
  · apply Keeps.forEach
    intro chunk
    exact Keeps.andThen (keeps_awaitValue chunk) fun _ => unaffected.keeps_yieldFrame _
  · intro _
    cases session.interruption with
    | none => exact keeps_awaitService _
    | some exception => exact keeps_awaitService _

omit [FloatOps F] in
theorem keeps_openConversation
    (call : ChatCall F)
    {refuse : RouteProgram Reply Unit}
    (keepsRefuse : Keeps invariant refuse) :
    Keeps invariant (openConversation call refuse) := by
  unfold openConversation
  cases call.request.conversationId with
  | none => exact unaffected.keeps_addMessage _
  | some conversationId =>
      apply Keeps.andThen (keeps_awaitValue call.lookup)
      intro conversation
      cases conversation with
      | none => exact keepsRefuse
      | some conversation =>
          dsimp only
          split
          · exact keepsRefuse
          · exact Keeps.value ()

omit unaffected in
theorem keeps_generateAnswer (call : ChatCall F) :
    Keeps invariant (generateAnswer (ρ := Reply) call) := by
  apply Keeps.andThen
  · unfold consultCache
    cases cacheBypassReason call.settings with
    | none =>
        exact keeps_exceptException
          (Keeps.andThen (keeps_awaitValue call.cached) fun _ => Keeps.value _)
          fun _ => Keeps.value none
    | some reason => exact Keeps.value none
  · intro hit
    cases hit with
    | some result => exact Keeps.value _
    | none => exact Keeps.andThen (keeps_awaitService _) fun _ => Keeps.value _

theorem keeps_keepAnswer (kept : Option ChatService.ChatServiceResult) :
    Keeps invariant (keepAnswer kept : RouteProgram Reply Unit) := by
  cases kept with
  | none => exact Keeps.value ()
  | some result =>
      exact keeps_bestEffort fun world holds => unaffected.cache world _ holds

omit [FloatOps F] in
theorem keeps_reportFailure
    (call : ChatCall F)
    {outcome : GenerationOutcome}
    (shown recorded : Str)
    (keepsOutcome : Keeps invariant (setOutcome outcome : RouteProgram Reply Unit))
    (keepsCommit : Keeps invariant (commit : RouteProgram Reply Unit)) :
    Keeps invariant (reportFailure call outcome shown recorded) := by
  apply Keeps.andThen keepsOutcome
  intro _
  apply Keeps.andThen (keeps_suppressed unaffected.keeps_rollback)
  intro _
  refine Keeps.andThen (keeps_suppressed ?_) fun _ => Keeps.exit _
  exact Keeps.within unaffected.keeps_begin (unaffected.keeps_add _) keepsCommit
    unaffected.keeps_rollback

end Unaffected

/-! ## Until the commit -/

/-- No metrics are written and no answer is recorded; `kept` holds of what is
durable. -/
def Idle (kept : List StoredRow → Prop) (world : World) : Prop :=
  kept world.committed ∧ world.metrics = [] ∧ world.generationOutcome ≠ some .ok

/-- An answer is recorded and the user message is pending, no metrics are written;
`kept` holds of what is durable. -/
def Answered
    (call : ChatCall F)
    (kept : List StoredRow → Prop)
    (world : World) : Prop :=
  kept world.committed ∧ world.metrics = [] ∧ world.generationOutcome = some .ok ∧
    call.userRow ∈ world.pending

/-- Between the user message and the answer. -/
def Waiting
    (call : ChatCall F)
    (kept : List StoredRow → Prop)
    (world : World) : Prop :=
  Idle kept world ∧ call.userRow ∈ world.pending

theorem Idle.unaffected (kept : List StoredRow → Prop) : Unaffected (Idle kept) :=
  ⟨fun _ _ _ holds => holds, fun _ _ holds => holds, fun _ _ holds => holds⟩

/-- An outcome other than an answer may be recorded. -/
theorem keepsIdle_setOutcome
    (kept : List StoredRow → Prop)
    {outcome : GenerationOutcome}
    (different : outcome ≠ .ok) :
    Keeps (Idle kept) (setOutcome outcome : RouteProgram Reply Unit) :=
  Keeps.modify fun _ holds =>
    ⟨holds.1, holds.2.1, fun same => different (Option.some.inj same)⟩

section Until

variable (call : ChatCall F) (kept : List StoredRow → Prop) {α : Type}

omit [FloatOps F] in
/-- A step that keeps the idle state and the pending rows. -/
private theorem triple_of_keepsWaiting
    {program : RouteProgram Reply α}
    (keepsWaiting : Keeps (Waiting call kept) program) :
    Triple (Waiting call kept) program
      ⟨fun _ => Waiting call kept, fun _ => Idle kept, fun _ => Idle kept⟩ :=
  keepsWaiting.conclude (fun _ _ holds => holds) (fun _ _ holds => holds.1)
    fun _ _ holds => holds.1

omit [FloatOps F] in
/-- Storing the user message. -/
private theorem triple_addUser :
    Triple (Idle kept) (addMessage call.userRow : RouteProgram Reply Unit)
      ⟨fun _ => Waiting call kept, fun _ => Idle kept, fun _ => Idle kept⟩ := by
  apply Triple.andThen fun _ => Waiting call kept
  · exact Triple.modify fun world idle =>
      ⟨idle, List.mem_append_right _ (List.mem_singleton_self _)⟩
  · intro _
    exact triple_of_keepsWaiting call kept (keeps_awaitValue ())

omit [FloatOps F] in
/-- Storing the assistant message. -/
private theorem triple_addAssistant (row : StoredRow) :
    Triple (Waiting call kept) (addMessage row : RouteProgram Reply Unit)
      ⟨fun _ => Waiting call kept, fun _ => Idle kept, fun _ => Idle kept⟩ := by
  apply triple_of_keepsWaiting
  apply Keeps.andThen
  · exact Keeps.modify fun world waiting =>
      ⟨waiting.1, List.mem_append_left _ waiting.2⟩
  · intro _
    exact keeps_awaitValue ()

omit [FloatOps F] in
/-- Recording the answer. -/
private theorem triple_rememberAnswered (result : Option ProviderResult) :
    Triple (Waiting call kept) (setAnswered result : RouteProgram Reply Unit)
      ⟨fun _ => Answered call kept, fun _ => Idle kept, fun _ => Idle kept⟩ :=
  Triple.modify fun _ waiting => ⟨waiting.1.1, waiting.1.2.1, rfl, waiting.2⟩

omit [FloatOps F] in
/-- Adding the usage event. -/
private theorem triple_addEvent (row : StoredRow) :
    Triple (Answered call kept) (add row : RouteProgram Reply Unit)
      ⟨fun _ => Answered call kept, fun _ => Idle kept, fun _ => Idle kept⟩ :=
  Triple.modify fun _ answered =>
    ⟨answered.1, answered.2.1, answered.2.2.1, List.mem_append_left _ answered.2.2.2⟩

omit [FloatOps F] in
/-- The body of a streamed request records an answer exactly when it goes on. -/
theorem triple_storeBody (result : ChatService.StreamChatResult) :
    Triple (Idle kept) (storeBody call result)
      ⟨fun _ => Answered call kept, fun _ => Idle kept, fun _ => Idle kept⟩ := by
  have unaffected := Idle.unaffected kept
  have refuses : Keeps (Idle kept)
      (andThen (setOutcome .notFound) fun _ =>
        andThen (yieldFrame notFoundFrame) fun _ =>
          (Program.exit .streamEnded : RouteProgram Reply Unit)) :=
    Keeps.andThen (keepsIdle_setOutcome kept nofun) fun _ =>
      Keeps.andThen (unaffected.keeps_yieldFrame _) fun _ => Keeps.exit _
  refine Triple.andThen (fun _ => Idle kept) ?_ fun _ => ?_
  · exact unaffected.keeps_openConversation call refuses
  apply Triple.andThen _ (triple_addUser call kept)
  intro _
  apply Triple.andThen _ (triple_addAssistant call kept _)
  intro _
  apply Triple.andThen _ (triple_rememberAnswered call kept _)
  intro _
  exact triple_addEvent call kept _

/-- The body of a request answered at once records an answer exactly when it goes
on. -/
theorem triple_answerBody :
    Triple (Idle kept) (answerBody call)
      ⟨fun _ => Answered call kept, fun _ => Idle kept, fun _ => Idle kept⟩ := by
  have unaffected := Idle.unaffected kept
  have refuses : Keeps (Idle kept)
      (andThen (setOutcome .notFound) fun _ =>
        (raise (.failure .httpNotFound) : RouteProgram Reply Unit)) :=
    Keeps.andThen (keepsIdle_setOutcome kept nofun) fun _ => Keeps.raise _
  refine Triple.andThen (fun _ => Idle kept) ?_ fun _ => ?_
  · exact unaffected.keeps_openConversation call refuses
  apply Triple.andThen _ (triple_addUser call kept)
  intro _
  apply Triple.andThen _
    (triple_of_keepsWaiting call kept (Unaffected.keeps_generateAnswer call))
  intro generated
  apply Triple.andThen _ (triple_addAssistant call kept _)
  intro _
  apply Triple.andThen _ (triple_rememberAnswered call kept _)
  intro _
  apply Triple.andThen _ (triple_addEvent call kept _)
  intro _
  exact Triple.value fun _ answered => answered

/-- Nothing before the transaction changes more than the frames. -/
theorem keeps_before
    {invariant : World → Prop}
    (unaffected : Unaffected invariant) :
    Keeps invariant (streamedTurn call).before := by
  apply Keeps.andThen (Unaffected.keeps_awaitService _)
  intro session
  apply Keeps.andThen (unaffected.keeps_relayChunks session)
  intro _
  exact Unaffected.keeps_awaitService _

/-- A streamed request records an answer exactly when it reaches the commit. -/
private theorem triple_streamed_untilCommit :
    Triple (Idle kept) (streamedTurn call).untilCommit
      ⟨fun _ => Answered call kept, fun _ => Idle kept, fun _ => Idle kept⟩ := by
  have unaffected := Idle.unaffected kept
  refine Triple.andThen (fun _ => Idle kept) ?_ fun result => ?_
  · exact keeps_before call unaffected
  · refine Triple.andThen (fun _ => Idle kept) ?_ fun _ => ?_
    · exact unaffected.keeps_begin
    · exact triple_storeBody call kept result

/-- A request answered at once records an answer exactly when it reaches the
commit. -/
private theorem triple_answered_untilCommit :
    Triple (Idle kept) (answeredTurn call).untilCommit
      ⟨fun _ => Answered call kept, fun _ => Idle kept, fun _ => Idle kept⟩ := by
  refine Triple.andThen (fun _ => Idle kept) ?_ fun _ => ?_
  · exact Triple.value fun _ idle => idle
  · refine Triple.andThen (fun _ => Idle kept) ?_ fun _ => ?_
    · exact (Idle.unaffected kept).keeps_begin
    · exact triple_answerBody call kept

end Until

/-! ## The route around the commit -/

section Around

variable (call : ChatCall F)

/-- The run awaits the commit of the turn in a state, with these fates left. -/
def AtCommit (fates : List Fate) (world : World) (left : List Fate) : Prop :=
  (call.request.stream = true ∧
      ∃ result, (streamedTurn call).untilCommit {} fates = (.next result, world, left)) ∨
    (call.request.stream = false ∧
      ∃ result, (answeredTurn call).untilCommit {} fates = (.next result, world, left))

/-- What a request does after the commit of its turn. -/
inductive AfterCommit : RouteProgram Reply Unit → Prop
  | streamed (stream : call.request.stream = true) :
      AfterCommit (yieldFrame (doneFrame call))
  | answered
      (stream : call.request.stream = false)
      (kept : Option ChatService.ChatServiceResult)
      (content : Str) :
      AfterCommit (andThen (keepAnswer kept) fun _ =>
        exit (.response (call.successResponse content)))

/-- The request without its metrics. -/
def mainPart : RouteProgram Reply Unit :=
  if call.request.stream then (streamedTurn call).main else (answeredTurn call).main

/-- The part of a request whose exceptions its handlers catch. -/
def attempted : RouteProgram Reply Unit :=
  if call.request.stream then (streamedTurn call).attempt else (answeredTurn call).attempt

/-- The handlers of the request. -/
def handlers : Interruption → Option (RouteProgram Reply Unit) :=
  if call.request.stream then (streamedTurn call).handler
  else (answeredTurn call).handler

/-- The outcome recorded for a request that set none. -/
def unsetOutcome : GenerationOutcome :=
  if call.request.stream then .cancelled else .error

/-- The metrics are written after everything else. -/
theorem chat_eq_ensuring :
    chat call = ensuring (mainPart call) (recordMetrics call (unsetOutcome call)) := by
  unfold chat mainPart unsetOutcome
  split
  · exact eventGenerator_eq call
  · exact answer_eq call

variable {call} {fates left : List Fate} {world : World}

/-- At the commit an answer is recorded and nothing is durable. -/
theorem AtCommit.isAnswered (reached : AtCommit call fates world left) :
    Answered call (· = []) world := by
  have start : Idle (· = []) ({} : World) := ⟨rfl, rfl, nofun⟩
  rcases reached with ⟨_, result, ran⟩ | ⟨_, result, ran⟩
  · have ended := triple_streamed_untilCommit call (· = []) {} fates start
    rw [ran] at ended
    exact ended
  · have ended := triple_answered_untilCommit call (· = []) {} fates start
    rw [ran] at ended
    exact ended

/-- A run that reaches the commit goes on with it. -/
theorem AtCommit.mainPart_eq (reached : AtCommit call fates world left) :
    ∃ after, AfterCommit call after ∧
      mainPart call {} fates =
        catching (andThen commit fun _ => after) (handlers call) world left := by
  unfold mainPart handlers
  rcases reached with ⟨stream, result, ran⟩ | ⟨stream, result, ran⟩
  · rw [if_pos stream, if_pos stream]
    exact ⟨_, AfterCommit.streamed stream, Turn.main_of_reached ran⟩
  · rw [stream, if_neg Bool.noConfusion, if_neg Bool.noConfusion]
    exact ⟨_, AfterCommit.answered stream _ _, Turn.main_of_reached ran⟩

/-- The handlers keep what giving a frame, setting another outcome and reporting a
failure keep. -/
theorem keeps_handlers
    {invariant : World → Prop}
    (keepsFrame : ∀ frame,
      Keeps invariant (yieldFrame frame : RouteProgram Reply Unit))
    (keepsOutcome : ∀ outcome, outcome ≠ .ok →
      Keeps invariant (setOutcome outcome : RouteProgram Reply Unit))
    (keepsReport : ∀ outcome shown recorded, outcome ≠ .ok →
      Keeps invariant (reportFailure call outcome shown recorded))
    {interruption : Interruption}
    {continuation : RouteProgram Reply Unit}
    (chosen : handlers call interruption = some continuation) :
    Keeps invariant continuation := by
  unfold handlers at chosen
  split at chosen
  · cases interruption with
    | failure exception =>
        cases chosen
        exact Keeps.andThen (keepsOutcome .error nofun) fun _ =>
          Keeps.andThen (keepsFrame _) fun _ => Keeps.exit _
    | cancelled => cases chosen
    | generatorExit => cases chosen
  · exact keeps_answerHandler keepsReport chosen

/-- The handlers keep what is unaffected, when committing and setting another outcome
keep it. -/
theorem Unaffected.keeps_handlers
    {invariant : World → Prop}
    (unaffected : Unaffected invariant)
    (keepsCommit : Keeps invariant (commit : RouteProgram Reply Unit))
    (keepsOutcome : ∀ outcome, outcome ≠ .ok →
      Keeps invariant (setOutcome outcome : RouteProgram Reply Unit))
    {interruption : Interruption}
    {continuation : RouteProgram Reply Unit}
    (chosen : handlers call interruption = some continuation) :
    Keeps invariant continuation :=
  ChatRoute.keeps_handlers unaffected.keeps_yieldFrame keepsOutcome
    (fun outcome shown recorded different =>
      unaffected.keeps_reportFailure call shown recorded
        (keepsOutcome outcome different) keepsCommit)
    chosen

/-- What comes after the commit keeps what is unaffected. -/
theorem AfterCommit.keeps
    {invariant : World → Prop}
    {after : RouteProgram Reply Unit}
    (isAfter : AfterCommit call after)
    (unaffected : Unaffected invariant) : Keeps invariant after := by
  cases isAfter with
  | streamed stream => exact unaffected.keeps_yieldFrame _
  | answered stream kept content =>
      exact Keeps.andThen (unaffected.keeps_keepAnswer kept) fun _ => Keeps.exit _

/-- Committing does not touch outcome and metrics. -/
theorem keepsIdle_commit :
    Keeps (Idle fun _ => True) (commit : RouteProgram Reply Unit) := by
  apply Keeps.await
  intro fate world holds
  cases fate with
  | completes => exact ⟨trivial, holds.2⟩
  | fails exception tookEffect leavesOpen => exact ⟨trivial, holds.2⟩
  | cancels tookEffect leavesOpen => exact ⟨trivial, holds.2⟩

/-- A run that does not reach the commit records no answer. -/
theorem idle_of_not_reached
    (missed : ∀ world left, ¬AtCommit call fates world left) :
    Idle (fun _ => True) (mainPart call {} fates).2.1 := by
  have start : Idle (fun _ => True) ({} : World) := ⟨trivial, rfl, nofun⟩
  have unaffected := Idle.unaffected fun _ => True
  have handled : ∀ interruption continuation,
      handlers call interruption = some continuation →
        Keeps (Idle fun _ => True) continuation :=
    fun interruption continuation chosen =>
      unaffected.keeps_handlers keepsIdle_commit
        (fun outcome different => keepsIdle_setOutcome _ different) chosen
  unfold mainPart
  unfold handlers at handled
  split
  · rename_i stream
    rw [if_pos stream] at handled
    apply Turn.invariant_of_not_reached (keeps_before call unaffected)
      unaffected.keeps_begin _ keepsIdle_commit unaffected.keeps_rollback handled start
    · intro result final left ran
      exact missed final left (Or.inl ⟨stream, result, ran⟩)
    · intro result
      exact (triple_storeBody call _ result).conclude (fun _ _ _ => trivial)
        (fun _ _ idle => idle) fun _ _ idle => idle
  · rename_i stream
    rw [if_neg stream] at handled
    apply Turn.invariant_of_not_reached (Keeps.value ()) unaffected.keeps_begin _
      keepsIdle_commit unaffected.keeps_rollback handled start
    · intro result final left ran
      exact missed final left (Or.inr ⟨Bool.eq_false_iff.mpr stream, result, ran⟩)
    · intro _
      exact (triple_answerBody call _).conclude (fun _ _ _ => trivial)
        (fun _ _ idle => idle) fun _ _ idle => idle

end Around

/-! ## A sample request -/

/-- A first message that is answered at once by a model of the given version. -/
def helloCall (modelVersion : Str) : ChatCall Empty where
  settings := .unset
  request := ⟨none, "hello".toList, false⟩
  requestId := ⟨1⟩
  tenantId := "t".toList
  newConversationId := ⟨2⟩
  userMessageId := ⟨3⟩
  assistantMessageId := ⟨4⟩
  usageEventId := ⟨5⟩
  failureEventId := ⟨6⟩
  memory := {}
  rag := {}
  lookup := none
  cached := none
  generate := fun _ => .returned
    { content := "hi".toList
      provider := "stub".toList
      modelVersion
      promptVersion := "stub-prompt-1".toList }
  openStream := fun _ => .notCallable
  elapsedMs := 0
  errorProviderName := "stub".toList
  metricsEnabled := true

/-- What the sample request keeps of its answer. -/
def helloAnswer (modelVersion : Str) :
    Str × Option ChatService.ChatServiceResult :=
  ("hi".toList, some ⟨⟨.assistant, "hi".toList⟩,
    { content := "hi".toList
      provider := "stub".toList
      modelVersion
      promptVersion := "stub-prompt-1".toList }⟩)

/-- The run of the sample request up to its commit. -/
def helloRun (modelVersion : Str) (fates : List Fate) :
    Outcome Reply Interruption (Str × Option ChatService.ChatServiceResult) × World ×
      List Fate :=
  (answeredTurn (helloCall modelVersion)).untilCommit {} fates

/-- A run of the sample request that goes on awaits its commit. -/
theorem atCommit_hello
    {modelVersion : Str}
    {fates : List Fate}
    (goesOn : ∃ result, (helloRun modelVersion fates).1 = .next result) :
    AtCommit (helloCall modelVersion) fates (helloRun modelVersion fates).2.1
      (helloRun modelVersion fates).2.2 := by
  obtain ⟨result, ran⟩ := goesOn
  refine Or.inr ⟨rfl, result, ?_⟩
  rw [← ran]
  rfl

end ChatRoute
end ChatPlatform
