import ChatPlatform.Foundation.Invariant
import ChatPlatform.Route.Chat

/-!
# The rows a request may store

Whatever happens at the awaits of a request, every row it makes durable is one of a few:
its conversation, its two messages, and a usage event of a success or of a failure.
-/

namespace ChatPlatform

open Program Session

variable {F : Type}

/-- The rows a request may store. -/
inductive ChatCall.Writes (call : ChatCall F) : StoredRow → Prop
  | conversation : call.Writes call.conversationRow
  | user : call.Writes call.userRow
  | assistant (content : Str) : call.Writes (call.assistantRow content)
  | answered (result : ProviderResult) :
      call.Writes (.usageEvent (call.answeredEvent result))
  | streamed (result : Option ProviderResult) :
      call.Writes (.usageEvent (call.streamedEvent result))
  | failed (message : Str) : call.Writes (.usageEvent (call.failureEvent message))

/-- Every row, durable or pending, satisfies a predicate. -/
def World.RowsSatisfy (holds : StoredRow → Prop) (world : World) : Prop :=
  ∀ row ∈ world.committed ++ world.pending, holds row

namespace Session

variable {holds : StoredRow → Prop} {ρ α : Type}

/-- Dropping the pending rows leaves fewer rows. -/
private theorem rowsSatisfy_drop
    {world : World}
    (satisfied : world.RowsSatisfy holds)
    (leavesOpen : Bool) :
    World.RowsSatisfy holds { world with pending := [], inTransaction := leavesOpen } := by
  intro row present
  rw [List.append_nil] at present
  exact satisfied row (List.mem_append_left _ present)

/-- Making the pending rows durable leaves the same rows. -/
private theorem rowsSatisfy_store
    {world : World}
    (satisfied : world.RowsSatisfy holds)
    (leavesOpen : Bool) :
    World.RowsSatisfy holds { world with
      committed := world.committed ++ world.pending
      pending := []
      inTransaction := leavesOpen } := by
  intro row present
  rw [List.append_nil] at present
  exact satisfied row present

theorem keeps_awaitValue {invariant : World → Prop} (result : α) :
    Keeps invariant (awaitValue result : RouteProgram ρ α) := by
  apply Keeps.await
  intro fate world kept
  cases fate with
  | completes => exact kept
  | fails exception tookEffect leavesOpen => exact kept
  | cancels tookEffect leavesOpen => exact kept

/-- Beginning a transaction stores nothing. -/
theorem keepsRows_begin : Keeps (World.RowsSatisfy holds) (begin : RouteProgram ρ Unit) := by
  apply Keeps.await
  intro fate world kept
  cases fate with
  | completes =>
      dsimp only
      split
      · exact kept
      · exact kept
  | fails exception tookEffect leavesOpen => exact kept
  | cancels tookEffect leavesOpen => exact kept

theorem keepsRows_commit :
    Keeps (World.RowsSatisfy holds) (commit : RouteProgram ρ Unit) := by
  apply Keeps.await
  intro fate world kept
  cases fate with
  | completes => exact rowsSatisfy_store kept false
  | fails exception tookEffect leavesOpen =>
      cases tookEffect with
      | true => exact rowsSatisfy_store kept leavesOpen
      | false => exact rowsSatisfy_drop kept leavesOpen
  | cancels tookEffect leavesOpen =>
      cases tookEffect with
      | true => exact rowsSatisfy_store kept leavesOpen
      | false => exact rowsSatisfy_drop kept leavesOpen

theorem keepsRows_rollback :
    Keeps (World.RowsSatisfy holds) (rollback : RouteProgram ρ Unit) := by
  apply Keeps.await
  intro fate world kept
  cases fate with
  | completes => exact rowsSatisfy_drop kept false
  | fails exception tookEffect leavesOpen => exact rowsSatisfy_drop kept leavesOpen
  | cancels tookEffect leavesOpen => exact rowsSatisfy_drop kept leavesOpen

/-- A row that satisfies the predicate may be added. -/
theorem keepsRows_add
    {row : StoredRow}
    (satisfies : holds row) :
    Keeps (World.RowsSatisfy holds) (add row : RouteProgram ρ Unit) := by
  apply Keeps.modify
  intro world kept other present
  rw [← List.append_assoc] at present
  rcases List.mem_append.mp present with earlier | new
  · exact kept other earlier
  · rw [List.mem_singleton.mp new]
    exact satisfies

theorem keepsRows_yieldFrame (frame : Frame) :
    Keeps (World.RowsSatisfy holds) (yieldFrame frame : RouteProgram ρ Unit) := by
  apply Keeps.await
  intro fate world kept
  cases fate with
  | completes => exact kept
  | fails exception tookEffect leavesOpen => exact kept
  | cancels tookEffect leavesOpen => exact kept

theorem keepsRows_transaction
    {body : RouteProgram ρ α}
    (keepsBody : Keeps (World.RowsSatisfy holds) body) :
    Keeps (World.RowsSatisfy holds) (transaction body) :=
  Keeps.within keepsRows_begin keepsBody keepsRows_commit keepsRows_rollback

/-- A handler for exceptions keeps what its continuations keep. -/
theorem keeps_exceptException
    {invariant : World → Prop}
    {body : RouteProgram ρ α}
    {continuation : RouteException → RouteProgram ρ α}
    (keepsBody : Keeps invariant body)
    (keepsCaught : ∀ exception, Keeps invariant (continuation exception)) :
    Keeps invariant (catching body (exceptException continuation)) := by
  apply Keeps.catching keepsBody
  intro interruption handler chosen
  cases interruption with
  | failure exception =>
      cases chosen
      exact keepsCaught exception
  | cancelled => cases chosen
  | generatorExit => cases chosen

theorem keeps_suppressed
    {invariant : World → Prop}
    {body : RouteProgram ρ Unit}
    (keepsBody : Keeps invariant body) : Keeps invariant (suppressed body) :=
  keeps_exceptException keepsBody fun _ => Keeps.value ()

/-- A best-effort write keeps what the write keeps. -/
theorem keeps_bestEffort
    {invariant : World → Prop}
    {write : World → World}
    (kept : ∀ world, invariant world → invariant (write world)) :
    Keeps invariant (bestEffort write : RouteProgram ρ Unit) := by
  apply keeps_suppressed
  apply Keeps.await
  intro fate world holds
  cases fate with
  | completes => exact kept world holds
  | fails exception tookEffect leavesOpen =>
      cases tookEffect with
      | true => exact kept world holds
      | false => exact holds
  | cancels tookEffect leavesOpen =>
      cases tookEffect with
      | true => exact kept world holds
      | false => exact holds

end Session

namespace ChatRoute

variable [FloatOps F] {call : ChatCall F} {ρ α : Type}

/-- What a row must satisfy to be one the request may store. -/
private abbrev Allowed (call : ChatCall F) : World → Prop :=
  World.RowsSatisfy call.Writes

omit [FloatOps F] in
private theorem keepsRows_awaitService
    (answer : Except ChatService.ServiceException α) :
    Keeps (Allowed call) (awaitService answer : RouteProgram ρ α) := by
  apply Keeps.andThen (keeps_awaitValue answer)
  intro answer
  cases answer with
  | ok result => exact Keeps.value result
  | error exception => exact Keeps.raise _

omit [FloatOps F] in
private theorem keepsRows_addMessage
    {row : StoredRow}
    (allowed : call.Writes row) :
    Keeps (Allowed call) (addMessage row : RouteProgram ρ Unit) :=
  Keeps.andThen (keepsRows_add allowed) fun _ => keeps_awaitValue ()

omit [FloatOps F] in
private theorem keepsRows_openConversation
    {refuse : RouteProgram ρ Unit}
    (keepsRefuse : Keeps (Allowed call) refuse) :
    Keeps (Allowed call) (openConversation call refuse) := by
  unfold openConversation
  cases call.request.conversationId with
  | none => exact keepsRows_addMessage .conversation
  | some conversationId =>
      apply Keeps.andThen (keeps_awaitValue call.lookup)
      intro conversation
      cases conversation with
      | none => exact keepsRefuse
      | some conversation =>
          dsimp only
          split
          · exact keepsRefuse
          · exact Keeps.value ()

omit [FloatOps F] in
theorem keepsRows_setOutcome
    {holds : StoredRow → Prop}
    (outcome : GenerationOutcome) :
    Keeps (World.RowsSatisfy holds) (setOutcome outcome : RouteProgram ρ Unit) :=
  Keeps.modify fun _ kept => kept

omit [FloatOps F] in
private theorem keepsRows_setAnswered (result : Option ProviderResult) :
    Keeps (Allowed call) (setAnswered result : RouteProgram ρ Unit) :=
  Keeps.modify fun _ kept => kept

/-- Metrics are no rows of the request. -/
theorem keepsRows_recordMetrics
    {holds : StoredRow → Prop}
    (unset : GenerationOutcome) :
    Keeps (World.RowsSatisfy holds) (recordMetrics call unset : RouteProgram ρ Unit) := by
  refine Keeps.andThen (Keeps.inspect _) fun inTransaction => ?_
  split
  · exact Keeps.value ()
  · split
    · exact keeps_bestEffort fun _ kept => kept
    · exact Keeps.value ()

private theorem keepsRows_streamAndStore :
    Keeps (Allowed call) (streamAndStore call) := by
  apply Keeps.andThen (keepsRows_awaitService _)
  intro session
  have relays : Keeps (Allowed call) (relayChunks (ρ := Reply) session) := by
    apply Keeps.andThen
    · apply Keeps.forEach
      intro chunk
      exact Keeps.andThen (keeps_awaitValue chunk) fun _ => keepsRows_yieldFrame _
    · intro _
      cases session.interruption with
      | none => exact keepsRows_awaitService _
      | some exception => exact keepsRows_awaitService _
  apply Keeps.andThen relays
  intro _
  apply Keeps.andThen (keepsRows_awaitService _)
  intro result
  refine Keeps.andThen ?_ fun _ => keepsRows_yieldFrame _
  apply keepsRows_transaction
  have refuses : Keeps (Allowed call)
      (andThen (setOutcome .notFound) fun _ =>
        andThen (yieldFrame notFoundFrame) fun _ =>
          (Program.exit .streamEnded : RouteProgram Reply Unit)) :=
    Keeps.andThen (keepsRows_setOutcome _) fun _ =>
      Keeps.andThen (keepsRows_yieldFrame _) fun _ => Keeps.exit _
  apply Keeps.andThen (keepsRows_openConversation refuses)
  intro _
  apply Keeps.andThen (keepsRows_addMessage .user)
  intro _
  apply Keeps.andThen (keepsRows_addMessage (.assistant _))
  intro _
  apply Keeps.andThen (keepsRows_setAnswered _)
  intro _
  exact keepsRows_add (.streamed _)

private theorem keepsRows_generateAnswer :
    Keeps (Allowed call) (generateAnswer (ρ := Reply) call) := by
  have looked : Keeps (Allowed call) (cacheGet (ρ := Reply) call) :=
    keeps_exceptException
      (Keeps.andThen (keeps_awaitValue call.cached) fun _ => Keeps.value _)
      fun _ => Keeps.value none
  apply Keeps.andThen
  · unfold consultCache
    cases cacheBypassReason call.settings with
    | none => exact looked
    | some reason => exact Keeps.value none
  · intro hit
    cases hit with
    | some result => exact Keeps.value _
    | none => exact Keeps.andThen (keepsRows_awaitService _) fun _ => Keeps.value _

private theorem keepsRows_answerAndStore :
    Keeps (Allowed call) (answerAndStore call) := by
  apply keepsRows_transaction
  have refuses : Keeps (Allowed call)
      (andThen (setOutcome .notFound) fun _ =>
        (raise (.failure .httpNotFound) : RouteProgram Reply Unit)) :=
    Keeps.andThen (keepsRows_setOutcome _) fun _ => Keeps.raise _
  apply Keeps.andThen (keepsRows_openConversation refuses)
  intro _
  apply Keeps.andThen (keepsRows_addMessage .user)
  intro _
  apply Keeps.andThen keepsRows_generateAnswer
  intro generated
  apply Keeps.andThen (keepsRows_addMessage (.assistant _))
  intro _
  apply Keeps.andThen (keepsRows_setAnswered _)
  intro _
  exact Keeps.andThen (keepsRows_add (.answered _)) fun _ => Keeps.value _

omit [FloatOps F] in
/-- Reporting a failure stores at most its usage event. -/
theorem keepsRows_reportFailure
    {holds : StoredRow → Prop}
    (failed : ∀ message, holds (.usageEvent (call.failureEvent message)))
    (outcome : GenerationOutcome)
    (shown recorded : Str) :
    Keeps (World.RowsSatisfy holds) (reportFailure call outcome shown recorded) := by
  apply Keeps.andThen (keepsRows_setOutcome outcome)
  intro _
  apply Keeps.andThen (keeps_suppressed keepsRows_rollback)
  intro _
  refine Keeps.andThen (keeps_suppressed ?_) fun _ => Keeps.exit _
  exact keepsRows_transaction (keepsRows_add (failed recorded))

omit [FloatOps F] in
/-- The handlers of a request answered at once keep what reporting a failure keeps. -/
theorem keeps_answerHandler
    {invariant : World → Prop}
    (keepsReport : ∀ outcome shown recorded, outcome ≠ .ok →
      Keeps invariant (reportFailure call outcome shown recorded))
    {interruption : Interruption}
    {handler : RouteProgram Reply Unit}
    (chosen : answerHandler call interruption = some handler) :
    Keeps invariant handler := by
  cases interruption with
  | failure exception =>
      cases exception with
      | httpNotFound =>
          cases chosen
          exact Keeps.raise _
      | providerTimeout message =>
          cases chosen
          exact keepsReport _ _ _ nofun
      | providerExecution message =>
          cases chosen
          exact keepsReport _ _ _ nofun
      | providerError error =>
          cases chosen
          exact keepsReport _ _ _ nofun
      | other name message =>
          cases chosen
          exact keepsReport _ _ _ nofun
  | cancelled => cases chosen
  | generatorExit => cases chosen

/-- The route stores no other rows. -/
private theorem keepsRows_chat : Keeps (Allowed call) (chat call) := by
  unfold chat
  split
  · refine Keeps.ensuring ?_ (keepsRows_recordMetrics .cancelled)
    apply keeps_exceptException keepsRows_streamAndStore
    intro exception
    exact Keeps.andThen (keepsRows_setOutcome _) fun _ =>
      Keeps.andThen (keepsRows_yieldFrame _) fun _ => Keeps.exit _
  · refine Keeps.ensuring ?_ (keepsRows_recordMetrics .error)
    apply Keeps.catching
    · apply Keeps.andThen keepsRows_answerAndStore
      intro stored
      refine Keeps.andThen ?_ fun _ => Keeps.exit _
      cases stored.2 with
      | none => exact Keeps.value ()
      | some result => exact keeps_bestEffort fun _ kept => kept
    · intro interruption handler chosen
      exact keeps_answerHandler
        (fun _ _ _ _ => keepsRows_reportFailure .failed _ _ _) chosen

/-- Whatever happens at its awaits, a request makes no other rows durable. -/
theorem writes_of_mem_committed
    {fates : List Fate}
    {row : StoredRow}
    (stored : row ∈ (chat call {} fates).2.1.committed) : call.Writes row :=
  keepsRows_chat.after (fun _ present => absurd present List.not_mem_nil) fates row
    (List.mem_append_left _ stored)

end ChatRoute
end ChatPlatform
