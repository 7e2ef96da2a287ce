import ChatPlatform.Route.Commit

/-!
# Chat writes are atomic

Whatever happens at the awaits of a request, the durable rows of its turn are all of them
or none. A turn is reported only when it is durable, and a failure only when no part of
one is, or when the commit of the turn took effect and raised an exception all the same.
-/

namespace ChatPlatform

open Program Session

variable {F : Type}

namespace ChatCall

/-- The rows of a complete turn. -/
def turnRows
    (call : ChatCall F)
    (content : Str)
    (event : UsageEventRow) : List StoredRow :=
  (if call.request.conversationId = none then [call.conversationRow] else []) ++
    [call.userRow, call.assistantRow content, .usageEvent event]

/-- The rows are a complete turn: the conversation when it is new, both messages and
the usage event of a success. -/
def CompleteTurn (call : ChatCall F) (rows : List StoredRow) : Prop :=
  ∃ content event, rows = call.turnRows content event ∧ event.status = .success ∧
    event.messageId = some call.assistantMessageId

/-- The rows are a complete turn and the usage event of a failure, which refers to none. -/
def ContradictedTurn (call : ChatCall F) (rows : List StoredRow) : Prop :=
  ∃ content event failure,
    rows = call.turnRows content event ++ [.usageEvent failure] ∧
      (event.status = .success ∧ event.messageId = some call.assistantMessageId) ∧
      failure.status = .error ∧ failure.conversationId = none ∧ failure.messageId = none

/-- The commit of the turn took effect and raised an exception. -/
def Unconfirmed (call : ChatCall F) (world : World) : Prop :=
  ∃ content event, event.status = .success ∧
    call.turnRows content event <:+: world.unconfirmed

end ChatCall

/-- No conversation row and no message row: at most the usage event of a failure,
which refers to none. -/
def NoTurn (rows : List StoredRow) : Prop :=
  rows = [] ∨ ∃ event : UsageEventRow, rows = [.usageEvent event] ∧
    event.status = .error ∧ event.conversationId = none ∧ event.messageId = none

namespace ChatRoute

/-- Nothing is durable and the client has got tokens at most; `rows` are pending. -/
def Building (rows : List StoredRow) (world : World) : Prop :=
  world.committed = [] ∧ world.pending = rows ∧
    ∀ sent ∈ world.sent, sent.frame.event = .token

/-- Nothing is durable and the client was told of no turn. -/
def Undone (world : World) : Prop :=
  world.committed = [] ∧ ∀ sent ∈ world.sent, sent.frame.event ≠ .done

/-- Nothing is durable or pending and the client was told of no turn. -/
def Clean (world : World) : Prop := Undone world ∧ world.pending = []

/-- No part of a turn is durable and the client was told of no turn. -/
def Refused (world : World) : Prop :=
  NoTurn world.committed ∧ ∀ sent ∈ world.sent, sent.frame.event ≠ .done

/-- A complete turn is durable, the client was told of no failure, and of a turn only
when it was durable. -/
def Stored (call : ChatCall F) (world : World) : Prop :=
  call.CompleteTurn world.committed ∧
    ∀ sent ∈ world.sent, sent.frame.event ≠ .error ∧
      (sent.frame.event = .done → call.CompleteTurn sent.committed)

/-- A complete turn is durable though its commit raised, nothing is pending, and the
client was told of no turn. -/
def Lost (call : ChatCall F) (world : World) : Prop :=
  call.CompleteTurn world.committed ∧ call.Unconfirmed world ∧ world.pending = [] ∧
    ∀ sent ∈ world.sent, sent.frame.event ≠ .done

/-- What an exception leaves for the handlers. -/
def Failed (call : ChatCall F) (world : World) : Prop := Clean world ∨ Lost call world

/-- A complete turn is durable though its commit raised, with at most the usage event of a
failure, and the client was told of no turn. -/
def Contradicted (call : ChatCall F) (world : World) : Prop :=
  (call.CompleteTurn world.committed ∨ call.ContradictedTurn world.committed) ∧
    call.Unconfirmed world ∧ ∀ sent ∈ world.sent, sent.frame.event ≠ .done

/-- What the report of a failure leaves. -/
def Unsuccessful (call : ChatCall F) (world : World) : Prop :=
  Refused world ∨ Contradicted call world

/-- What any ending leaves. -/
def Settled (call : ChatCall F) (world : World) : Prop :=
  Unsuccessful call world ∨ Stored call world

/-- What an interruption leaves: `failed` when a handler may catch it, and otherwise
what any ending leaves. -/
def Interrupted
    (call : ChatCall F)
    (failed : World → Prop) : Interruption → World → Prop
  | .failure _, world => failed world
  | .cancelled, world => Settled call world
  | .generatorExit, world => Settled call world

/-- What the route leaves when it returns. -/
def Replied (call : ChatCall F) : Reply → World → Prop
  | .streamEnded, world => Unsuccessful call world
  | .response body, world =>
      (body.status = .success ∧ Stored call world) ∨
        (body.status = .error ∧ Unsuccessful call world)

/-- Pending rows are not durable. -/
private theorem Building.undone
    {rows : List StoredRow}
    {world : World}
    (building : Building rows world) : Undone world :=
  ⟨building.1, fun sent present told => by
    rw [building.2.2 sent present] at told
    cases told⟩

/-- Nothing is pending: nothing is to drop. -/
private theorem Building.clean
    {world : World}
    (building : Building [] world) : Clean world :=
  ⟨building.undone, building.2.1⟩

/-- A state without durable rows is one without a turn. -/
private theorem Undone.refused {world : World} (undone : Undone world) :
    Refused world :=
  ⟨Or.inl undone.1, undone.2⟩

/-- Dropping what is pending leaves nothing. -/
private theorem Undone.dropped
    {world : World}
    (undone : Undone world)
    (leavesOpen : Bool) :
    Clean { world with pending := [], inTransaction := leavesOpen } :=
  ⟨undone, rfl⟩

/-- A lost turn is one a failure may be reported of. -/
private theorem Lost.contradicted
    {call : ChatCall F}
    {world : World}
    (lost : Lost call world) : Contradicted call world :=
  ⟨Or.inl lost.1, lost.2.1, lost.2.2.2⟩

/-- What an exception leaves may stay when a failure is reported. -/
private theorem Failed.unsuccessful
    {call : ChatCall F}
    {world : World}
    (failed : Failed call world) : Unsuccessful call world :=
  failed.imp (fun clean => clean.1.refused) fun lost => lost.contradicted

/-- What an exception leaves has nothing pending. -/
private theorem Failed.nothingPending
    {call : ChatCall F}
    {world : World}
    (failed : Failed call world) : world.pending = [] :=
  failed.elim (fun clean => clean.2) fun lost => lost.2.2.1

/-- Dropping what is pending changes nothing. -/
private theorem Failed.dropped
    {call : ChatCall F}
    {world : World}
    (failed : Failed call world)
    (leavesOpen : Bool) :
    Failed call { world with pending := [], inTransaction := leavesOpen } :=
  failed.imp (fun clean => clean.1.dropped leavesOpen)
    fun lost => ⟨lost.1, lost.2.1, rfl, lost.2.2.2⟩

/-- A state that a failure may be reported of is what any interruption may leave. -/
private theorem interrupted_of_unsuccessful
    {call : ChatCall F}
    {failed : World → Prop}
    {world : World}
    (holds : failed world)
    (unsuccessful : Unsuccessful call world)
    (interruption : Interruption) : Interrupted call failed interruption world := by
  cases interruption with
  | failure exception => exact holds
  | cancelled => exact Or.inl unsuccessful
  | generatorExit => exact Or.inl unsuccessful

/-- A state without a turn is what any interruption may leave. -/
private theorem interrupted_of_clean
    {call : ChatCall F}
    {world : World}
    (clean : Clean world)
    (interruption : Interruption) :
    Interrupted call (Failed call) interruption world :=
  interrupted_of_unsuccessful (Or.inl clean) (Or.inl clean.1.refused) interruption

/-- A commit of all rows of a turn makes the turn durable. -/
private theorem Building.stored
    {call : ChatCall F}
    {content : Str}
    {event : UsageEventRow}
    {world : World}
    (building : Building (call.turnRows content event) world)
    (success : event.status = .success)
    (named : event.messageId = some call.assistantMessageId)
    (leavesOpen : Bool) :
    Stored call { world with
      committed := world.committed ++ world.pending
      pending := []
      inTransaction := leavesOpen } := by
  obtain ⟨nothing, rows, tokens⟩ := building
  refine ⟨⟨content, event, ?_, success, named⟩, ?_⟩
  · dsimp only
    rw [nothing, rows, List.nil_append]
  · intro sent present
    rw [tokens sent present]
    exact ⟨nofun, nofun⟩

/-- A commit of all rows of a turn that raises may lose the turn. -/
private theorem Building.lost
    {call : ChatCall F}
    {content : Str}
    {event : UsageEventRow}
    {world : World}
    (building : Building (call.turnRows content event) world)
    (success : event.status = .success)
    (named : event.messageId = some call.assistantMessageId)
    (leavesOpen : Bool) :
    Lost call { world with
      committed := world.committed ++ world.pending
      unconfirmed := world.unconfirmed ++ world.pending
      pending := []
      inTransaction := leavesOpen } := by
  refine ⟨(building.stored success named leavesOpen).1, ⟨content, event, success, ?_⟩, rfl,
    building.undone.2⟩
  dsimp only
  rw [building.2.1]
  exact (List.suffix_append world.unconfirmed _).isInfix

/-- The rows of the steps, in their order, are those of a turn. -/
private theorem Building.turn
    {call : ChatCall F}
    {content : Str}
    {event : UsageEventRow}
    {world : World}
    (building : Building
      ((if call.request.conversationId = none then [call.conversationRow] else []) ++
        [call.userRow] ++ [call.assistantRow content] ++ [.usageEvent event]) world) :
    Building (call.turnRows content event) world := by
  simpa [ChatCall.turnRows] using building

/-! ## The steps inside the transaction -/

section Steps

variable [FloatOps F] {call : ChatCall F} {rows : List StoredRow} {α : Type}
  {exited : Reply → World → Prop}

/-- How a step inside the transaction ends: `rows` are pending, or it returns, or
nothing is durable when it raises. -/
private def stepPost
    (rows : List StoredRow)
    (exited : Reply → World → Prop) : Post World Reply Interruption α :=
  ⟨fun _ => Building rows, exited, fun _ => Undone⟩

private theorem triple_add (row : StoredRow) :
    Triple (Building rows) (add row) (stepPost (rows ++ [row]) exited) :=
  Triple.modify fun _ building =>
    ⟨building.1, congrArg (· ++ [row]) building.2.1, building.2.2⟩

private theorem triple_addMessage (row : StoredRow) :
    Triple (Building rows) (addMessage row) (stepPost (rows ++ [row]) exited) :=
  Triple.andThen (fun _ => Building (rows ++ [row])) (triple_add row) fun _ =>
    triple_awaitValue (fun _ building => building)
      fun _ _ building => building.undone

private theorem triple_setAnswered (result : Option ProviderResult) :
    Triple (Building rows) (setAnswered result) (stepPost rows exited) :=
  Triple.modify fun _ building => building

/-- Waiting for the chat service changes nothing. -/
private theorem triple_awaitService
    {pre : World → Prop}
    {post : Post World Reply Interruption α}
    {answer : Except ChatService.ServiceException α}
    (answered : ∀ result world, pre world → post.next result world)
    (interrupted : ∀ exception world, pre world → post.raised exception world) :
    Triple pre (awaitService answer) post := by
  refine Triple.andThen (fun _ => pre)
    (triple_awaitValue (fun _ holds => holds) interrupted) fun answer => ?_
  cases answer with
  | ok result => exact Triple.value (answered result)
  | error exception => exact Triple.raise (interrupted _)

omit [FloatOps F] in
/-- Opening the conversation adds its row when it is new. -/
private theorem triple_openConversation
    {refuse : RouteProgram Reply Unit}
    (refuses : Triple (Building []) refuse
      ⟨fun _ _ => False, exited, fun _ => Undone⟩) :
    Triple (Building []) (openConversation call refuse)
      (stepPost (if call.request.conversationId = none then [call.conversationRow]
        else []) exited) := by
  have refusal : ∀ rows, Triple (Building []) refuse (stepPost rows exited) :=
    fun rows => refuses.conclude (fun _ _ => False.elim) (fun _ _ holds => holds)
      fun _ _ holds => holds
  unfold openConversation
  cases call.request.conversationId with
  | none => exact triple_addMessage _
  | some conversationId =>
      refine Triple.andThen (fun _ => Building [])
        (triple_awaitValue (fun _ building => building)
          fun _ _ building => building.undone) fun conversation => ?_
      cases conversation with
      | none => exact refusal _
      | some conversation =>
          dsimp only
          split
          · exact refusal _
          · exact Triple.value fun _ building => building

/-- Taking the answer from the cache or the provider stores nothing. -/
private theorem triple_generateAnswer :
    Triple (Building rows) (generateAnswer call) (stepPost rows exited) := by
  have looked : Triple (Building rows) (cacheGet (ρ := Reply) call)
      (stepPost rows exited) :=
    triple_exceptException (fun _ => Building rows)
      (Triple.andThen (fun _ => Building rows)
        (triple_awaitValue (fun _ building => building) fun _ _ building => building)
        fun _ => Triple.value fun _ building => building)
      (fun _ => Triple.value fun _ building => building)
      (fun _ building => building.undone) fun _ building => building.undone
  refine Triple.andThen (fun _ => Building rows) ?_ fun hit => ?_
  · unfold consultCache
    cases cacheBypassReason call.settings with
    | none => exact looked
    | some reason => exact Triple.value fun _ building => building
  · cases hit with
    | some result => exact Triple.value fun _ building => building
    | none =>
        exact Triple.andThen (fun _ => Building rows)
          (triple_awaitService (fun _ _ building => building)
            fun _ _ building => building.undone)
          fun _ => Triple.value fun _ building => building

/-- How the body of the transaction ends: the rows of a turn are pending, or it returns
with nothing pending, or nothing is durable when it raises. -/
private def bodyPost (call : ChatCall F) : Post World Reply Interruption α :=
  ⟨fun _ world => ∃ content event, Building (call.turnRows content event) world ∧
      event.status = .success ∧ event.messageId = some call.assistantMessageId,
    fun reply world => reply = .streamEnded ∧ Clean world, fun _ => Undone⟩

omit [FloatOps F] in
/-- Storing a turn in a transaction. -/
private theorem triple_transaction
    {body : RouteProgram Reply α}
    (bodyTriple : Triple (Building []) body (bodyPost call)) :
    Triple (Building []) (transaction body)
      ⟨fun _ => Stored call, Replied call, Interrupted call (Failed call)⟩ := by
  refine Triple.within (Building []) _ ?_ bodyTriple ?_ ?_ ?_
  · exact triple_begin (fun _ building => building) fun interruption _ building =>
      interrupted_of_clean building.clean interruption
  · rintro result
    refine triple_commit ?_ ?_ ?_ ?_
    · rintro world ⟨content, event, building, success, named⟩
      exact building.stored success named false
    · rintro interruption world leavesOpen ⟨content, event, building, -⟩
      exact interrupted_of_clean (building.undone.dropped leavesOpen) _
    · rintro world leavesOpen ⟨content, event, building, success, named⟩
      exact Or.inr (building.stored success named leavesOpen)
    · rintro exception world leavesOpen ⟨content, event, building, success, named⟩
      exact Or.inr (building.lost success named leavesOpen)
  · rintro reply
    have nothing : ∀ world, Clean world →
        NoTurn (world.committed ++ world.pending) := fun world clean =>
      Or.inl (by rw [clean.1.1, clean.2, List.append_nil])
    refine triple_commit ?_ ?_ ?_ ?_
    · rintro world ⟨rfl, clean⟩
      exact Or.inl ⟨nothing world clean, clean.1.2⟩
    · rintro interruption world leavesOpen ⟨-, clean⟩
      exact interrupted_of_clean (clean.1.dropped leavesOpen) _
    · rintro world leavesOpen ⟨-, clean⟩
      exact Or.inl (Or.inl ⟨nothing world clean, clean.1.2⟩)
    · rintro exception world leavesOpen ⟨-, clean⟩
      refine Or.inl ⟨⟨?_, clean.1.2⟩, rfl⟩
      dsimp only
      rw [clean.1.1, clean.2, List.append_nil]
  · intro exception
    exact triple_rollback
      (fun _ undone => interrupted_of_clean (undone.dropped false) _)
      fun _ _ leavesOpen undone => interrupted_of_clean (undone.dropped leavesOpen) _

end Steps

section Requests

variable (call : ChatCall F)

/-! ## A streamed request -/

/-- Relaying the chunks stores nothing and gives the client tokens only. -/
private theorem triple_relayChunks (session : ChatService.ChatSession) :
    Triple (Building []) (relayChunks session)
      ⟨fun _ => Building [], Replied call, Interrupted call (Failed call)⟩ := by
  have interrupted : ∀ interruption world, Building [] world →
      Interrupted call (Failed call) interruption world := fun interruption _ building =>
    interrupted_of_clean building.clean interruption
  have delivered : ∀ chunk world, Building [] world →
      Building [] { world with
        sent := world.sent ++ [⟨⟨.token, chunk⟩, world.committed⟩] } := by
    rintro chunk world ⟨nothing, empty, tokens⟩
    refine ⟨nothing, empty, fun sent present => ?_⟩
    rcases List.mem_append.mp present with before | new
    · exact tokens sent before
    · rw [List.mem_singleton.mp new]
  refine Triple.andThen (fun _ => Building []) ?_ fun _ => ?_
  · refine Triple.forEach (Building []) (fun _ building => building) (fun chunk => ?_)
      fun _ building => building
    refine Triple.andThen (fun _ => Building [])
      (triple_awaitValue (fun _ building => building) interrupted) fun chunk => ?_
    exact triple_yieldFrame (delivered chunk)
      (fun world building =>
        interrupted .cancelled _ (delivered chunk world building))
      fun world building =>
        interrupted .generatorExit _ (delivered chunk world building)
  · cases session.interruption with
    | none =>
        exact triple_awaitService (fun _ _ building => building) interrupted
    | some exception =>
        exact triple_awaitService (fun _ _ building => building) interrupted

/-- Refusing an unknown conversation on the stream. -/
private theorem triple_refuseStream :
    Triple (Building [])
      (andThen (setOutcome .notFound) fun _ =>
        andThen (yieldFrame notFoundFrame) fun _ =>
          (Program.exit .streamEnded : RouteProgram Reply Unit))
      ⟨fun _ _ => False, fun reply world => reply = .streamEnded ∧ Clean world,
        fun _ => Undone⟩ := by
  have told : ∀ world, Building [] world →
      Clean { world with
        sent := world.sent ++ [⟨notFoundFrame, world.committed⟩] } := by
    rintro world building
    refine ⟨⟨building.1, fun sent present => ?_⟩, building.2.1⟩
    rcases List.mem_append.mp present with before | new
    · exact building.undone.2 sent before
    · rw [List.mem_singleton.mp new]
      exact nofun
  refine Triple.andThen (fun _ => Building [])
    (Triple.modify fun _ building => building) fun _ => ?_
  refine Triple.andThen (fun _ => Clean)
    (triple_yieldFrame told (fun world building => (told world building).1)
      fun world building => (told world building).1) fun _ => ?_
  exact Triple.exit fun _ clean => ⟨rfl, clean⟩

/-- Storing a streamed answer, up to the commit. -/
private theorem turn_storeBody (result : ChatService.StreamChatResult) :
    Triple (Building []) (storeBody call result) (bodyPost call) := by
  refine Triple.andThen _ (triple_openConversation triple_refuseStream) fun _ => ?_
  refine Triple.andThen _ (triple_addMessage _) fun _ => ?_
  refine Triple.andThen _ (triple_addMessage _) fun _ => ?_
  refine Triple.andThen _ (triple_setAnswered _) fun _ => ?_
  exact Triple.conclude (triple_add _)
    (fun _ world building => ⟨_, _, building.turn, rfl, rfl⟩)
    (fun _ _ holds => holds) fun _ _ holds => holds

/-- Storing a streamed answer. -/
private theorem triple_storeStreamed (result : ChatService.StreamChatResult) :
    Triple (Building []) (storeStreamed call result)
      ⟨fun _ => Stored call, Replied call, Interrupted call (Failed call)⟩ :=
  triple_transaction (turn_storeBody call result)

/-- Telling the client of a failure of a stream. -/
private theorem triple_reportException (exception : RouteException) :
    Triple (Failed call)
      (andThen (setOutcome .error) fun _ =>
        andThen (yieldFrame (exceptionFrame exception)) fun _ =>
          (Program.exit .streamEnded : RouteProgram Reply Unit))
      ⟨fun _ => Stored call, Replied call, Interrupted call (Unsuccessful call)⟩ := by
  have told : ∀ world, Failed call world →
      Unsuccessful call { world with
        sent := world.sent ++ [⟨exceptionFrame exception, world.committed⟩] } := by
    intro world failed
    have frames : (∀ sent ∈ world.sent, sent.frame.event ≠ .done) →
        ∀ sent ∈ world.sent ++ [⟨exceptionFrame exception, world.committed⟩],
          sent.frame.event ≠ .done := by
      intro before sent present
      rcases List.mem_append.mp present with earlier | new
      · exact before sent earlier
      · rw [List.mem_singleton.mp new]
        cases exception <;> exact nofun
    rcases failed with clean | lost
    · exact Or.inl ⟨Or.inl clean.1.1, frames clean.1.2⟩
    · exact Or.inr ⟨Or.inl lost.1, lost.2.1, frames lost.2.2.2⟩
  refine Triple.andThen (fun _ => Failed call) (Triple.modify fun _ failed => failed)
    fun _ => ?_
  refine Triple.andThen (fun _ => Unsuccessful call)
    (triple_yieldFrame told (fun world failed => Or.inl (told world failed))
      fun world failed => Or.inl (told world failed)) fun _ => ?_
  exact Triple.exit fun _ unsuccessful => unsuccessful

variable [FloatOps F]

/-- Telling the client of a durable turn. -/
private theorem triple_doneFrame :
    Triple (Stored call) (yieldFrame (doneFrame call))
      ⟨fun _ => Stored call, Replied call, Interrupted call (Failed call)⟩ := by
  have told : ∀ world, Stored call world →
      Stored call { world with
        sent := world.sent ++ [⟨doneFrame call, world.committed⟩] } := by
    rintro world ⟨complete, frames⟩
    refine ⟨complete, fun sent present => ?_⟩
    rcases List.mem_append.mp present with before | new
    · exact frames sent before
    · rw [List.mem_singleton.mp new]
      exact ⟨nofun, fun _ => complete⟩
  exact triple_yieldFrame told (fun world stored => Or.inr (told world stored))
    fun world stored => Or.inr (told world stored)

/-- Streaming and storing. -/
private theorem triple_streamAndStore :
    Triple (Building []) (streamAndStore call)
      ⟨fun _ => Stored call, Replied call, Interrupted call (Failed call)⟩ := by
  have interrupted : ∀ interruption world, Building [] world →
      Interrupted call (Failed call) interruption world := fun interruption _ building =>
    interrupted_of_clean building.clean interruption
  refine Triple.andThen (fun _ => Building [])
    (triple_awaitService (fun _ _ building => building) interrupted) fun session => ?_
  refine Triple.andThen _ (triple_relayChunks call session) fun _ => ?_
  refine Triple.andThen (fun _ => Building [])
    (triple_awaitService (fun _ _ building => building) interrupted) fun result => ?_
  exact Triple.andThen _ (triple_storeStreamed call result) fun _ =>
    triple_doneFrame call

/-! ## A request answered at once -/

/-- Answering and storing, up to the commit. -/
private theorem turn_answerBody :
    Triple (Building []) (answerBody call) (bodyPost call) := by
  have refuses : Triple (Building [])
      (andThen (setOutcome .notFound) fun _ =>
        (raise (.failure .httpNotFound) : RouteProgram Reply Unit))
      ⟨fun _ _ => False, fun reply world => reply = .streamEnded ∧ Clean world,
        fun _ => Undone⟩ :=
    Triple.andThen (fun _ => Building []) (Triple.modify fun _ building => building)
      fun _ => Triple.raise fun _ building => building.undone
  refine Triple.andThen _ (triple_openConversation refuses) fun _ => ?_
  refine Triple.andThen _ (triple_addMessage _) fun _ => ?_
  refine Triple.andThen _ triple_generateAnswer fun generated => ?_
  refine Triple.andThen _ (triple_addMessage _) fun _ => ?_
  refine Triple.andThen _ (triple_setAnswered _) fun _ => ?_
  refine Triple.andThen _ (triple_add _) fun _ => ?_
  exact Triple.value fun _ building => ⟨_, _, building.turn, rfl, rfl⟩

/-- Answering and storing. -/
private theorem triple_answerAndStore :
    Triple (Building []) (answerAndStore call)
      ⟨fun _ => Stored call, Replied call, Interrupted call (Failed call)⟩ :=
  triple_transaction (turn_answerBody call)

omit [FloatOps F] in
/-- The cache is written without touching the rows. -/
private theorem triple_keepAnswer (kept : Option ChatService.ChatServiceResult) :
    Triple (Stored call) (keepAnswer kept)
      ⟨fun _ => Stored call, Replied call, Interrupted call (Failed call)⟩ := by
  cases kept with
  | none => exact Triple.value fun _ stored => stored
  | some result =>
      exact triple_bestEffort (fun _ stored => stored) (fun _ stored => stored)
        fun _ stored => ⟨Or.inr stored, Or.inr stored⟩

omit [FloatOps F] in
/-- The usage event of a failure leaves what the report of a failure leaves. -/
private theorem Failed.recorded
    {world : World}
    (failed : Failed call world)
    (recorded : Str)
    (unconfirmed : List StoredRow)
    (leavesOpen : Bool) :
    Unsuccessful call { world with
      committed := world.committed ++ [.usageEvent (call.failureEvent recorded)]
      unconfirmed := world.unconfirmed ++ unconfirmed
      pending := []
      inTransaction := leavesOpen } := by
  rcases failed with clean |
    ⟨⟨content, event, rows, isTurn⟩, ⟨content', event', success, held⟩, -, frames⟩
  · refine Or.inl ⟨Or.inr ⟨call.failureEvent recorded, ?_, rfl, rfl, rfl⟩, clean.1.2⟩
    dsimp only
    rw [clean.1.1, List.nil_append]
  · refine Or.inr ⟨Or.inr ⟨content, event, call.failureEvent recorded, ?_, isTurn, rfl, rfl,
      rfl⟩, ⟨content', event', success, held.trans ?_⟩, frames⟩
    · dsimp only
      rw [rows]
    · exact (List.prefix_append world.unconfirmed unconfirmed).isInfix

omit [FloatOps F] in
/-- Reporting a failure stores at most a usage event without references. -/
private theorem triple_reportFailure
    (outcome : GenerationOutcome)
    (shown recorded : Str) :
    Triple (Failed call) (reportFailure call outcome shown recorded)
      ⟨fun _ => Stored call, Replied call, Interrupted call (Unsuccessful call)⟩ := by
  have kept : ∀ interruption world, Unsuccessful call world →
      suppressing ⟨fun _ => Unsuccessful call, Replied call,
        Interrupted call (Unsuccessful call)⟩ interruption world := by
    intro interruption world unsuccessful
    cases interruption with
    | failure exception => exact unsuccessful
    | cancelled => exact Or.inl unsuccessful
    | generatorExit => exact Or.inl unsuccessful
  have dropped : Triple (Failed call) (suppressed rollback)
      ⟨fun _ => Failed call, Replied call, Interrupted call (Unsuccessful call)⟩ := by
    refine triple_suppressed (triple_rollback (fun _ failed => failed.dropped false) ?_)
    intro interruption world leavesOpen failed
    cases interruption with
    | failure exception => exact failed.dropped leavesOpen
    | cancelled => exact Or.inl (failed.dropped leavesOpen).unsuccessful
    | generatorExit => exact Or.inl (failed.dropped leavesOpen).unsuccessful
  have event : Triple (Failed call)
      (transaction (add (.usageEvent (call.failureEvent recorded))))
      ⟨fun _ => Unsuccessful call, Replied call,
        suppressing ⟨fun _ => Unsuccessful call, Replied call,
          Interrupted call (Unsuccessful call)⟩⟩ := by
    refine Triple.within (Failed call)
      ⟨fun _ world => Failed call { world with pending := [] } ∧
          world.pending = [.usageEvent (call.failureEvent recorded)],
        fun _ _ => False, fun _ _ => False⟩ ?_ ?_ ?_ ?_ ?_
    · exact triple_begin (fun _ failed => failed) fun interruption world failed =>
        kept interruption world failed.unsuccessful
    · refine Triple.modify fun world failed => ⟨?_, ?_⟩
      · exact failed.dropped world.inTransaction
      · dsimp only
        rw [failed.nothingPending, List.nil_append]
    · rintro result
      refine triple_commit ?_ ?_ ?_ ?_
      · rintro world ⟨failed, pending⟩
        have recorded := failed.recorded call recorded [] false
        rw [← pending, List.append_nil] at recorded
        exact recorded
      · rintro interruption world leavesOpen ⟨failed, -⟩
        exact kept interruption _ (failed.dropped leavesOpen).unsuccessful
      · rintro world leavesOpen ⟨failed, pending⟩
        have recorded := failed.recorded call recorded [] leavesOpen
        rw [← pending, List.append_nil] at recorded
        exact Or.inl recorded
      · rintro exception world leavesOpen ⟨failed, pending⟩
        have recorded := failed.recorded call recorded world.pending leavesOpen
        rw [← pending] at recorded
        exact recorded
    · exact fun result => Triple.unreachable fun _ => id
    · exact fun exception => Triple.unreachable fun _ => id
  unfold reportFailure
  refine Triple.andThen (fun _ => Failed call) (Triple.modify fun _ failed => failed)
    fun _ => ?_
  refine Triple.andThen (fun _ => Failed call) dropped fun _ => ?_
  refine Triple.andThen (fun _ => Unsuccessful call) (triple_suppressed event) fun _ => ?_
  exact Triple.exit fun _ unsuccessful => Or.inr ⟨rfl, unsuccessful⟩

omit [FloatOps F] in
/-- The handlers are right for what the writing part leaves. -/
private theorem triple_answerHandler
    {interruption : Interruption}
    {handler : RouteProgram Reply Unit}
    (chosen : answerHandler call interruption = some handler) :
    Triple (Interrupted call (Failed call) interruption) handler
      ⟨fun _ => Stored call, Replied call, Interrupted call (Unsuccessful call)⟩ := by
  cases interruption with
  | failure exception =>
      cases exception with
      | httpNotFound =>
          cases chosen
          exact Triple.raise fun _ failed => failed.unsuccessful
      | providerTimeout message =>
          cases chosen
          exact triple_reportFailure call _ _ _
      | providerExecution message =>
          cases chosen
          exact triple_reportFailure call _ _ _
      | providerError error =>
          cases chosen
          exact triple_reportFailure call _ _ _
      | other name message =>
          cases chosen
          exact triple_reportFailure call _ _ _
  | cancelled => cases chosen
  | generatorExit => cases chosen

/-! ## The route -/

/-- What the route leaves, for each way it ends. -/
def routePost : Post World Reply Interruption Unit :=
  ⟨fun _ => Stored call, Replied call, Interrupted call (Unsuccessful call)⟩

omit [FloatOps F] in
/-- However the route ends, a complete turn is durable or no part of one. -/
private theorem settled_of_holds
    {ending : Outcome Reply Interruption Unit}
    {world : World}
    (holds : (routePost call).holds ending world) :
    Settled call world := by
  match ending, holds with
  | .next _, stored => exact Or.inr stored
  | .exit .streamEnded, refused => exact Or.inl refused
  | .exit (.response _), Or.inl stored => exact Or.inr stored.2
  | .exit (.response _), Or.inr refused => exact Or.inl refused.2
  | .raised (.failure _), refused => exact Or.inl refused
  | .raised .cancelled, settled => exact settled
  | .raised .generatorExit, settled => exact settled

/-- Writing the metrics touches no row and no frame. -/
private theorem triple_recordMetrics
    {unset : GenerationOutcome}
    {ending : Outcome Reply Interruption Unit} :
    Triple ((routePost call).holds ending) (recordMetrics call unset)
      ⟨fun _ => (routePost call).holds ending, Replied call,
        Interrupted call (Unsuccessful call)⟩ := by
  have written : ∀ world metrics, (routePost call).holds ending world →
      (routePost call).holds ending { world with metrics := metrics } := by
    intro world metrics holds
    match ending, holds with
    | .next _, stored => exact stored
    | .exit .streamEnded, refused => exact refused
    | .exit (.response _), replied => exact replied
    | .raised (.failure _), refused => exact refused
    | .raised .cancelled, settled => exact settled
    | .raised .generatorExit, settled => exact settled
  refine Triple.andThen (fun _ => (routePost call).holds ending)
    (Triple.inspect fun _ holds => holds) fun inTransaction => ?_
  split
  · exact Triple.value fun _ holds => holds
  · split
    · exact triple_bestEffort (fun world holds => written world _ holds)
        (fun _ holds => holds) fun world holds =>
          ⟨settled_of_holds call (written world _ holds), settled_of_holds call holds⟩
    · exact Triple.value fun _ holds => holds

/-- What the route leaves, however it ends. -/
private theorem triple_chat :
    Triple (Building []) (chat call) (routePost call) := by
  unfold chat
  split
  · refine Triple.ensuring _ ?_ fun ending => triple_recordMetrics call
    exact triple_exceptException _ (triple_streamAndStore call)
      (fun exception => triple_reportException call exception) (fun _ settled => settled)
      fun _ settled => settled
  · refine Triple.ensuring _ ?_ fun ending => triple_recordMetrics call
    refine Triple.catching (Interrupted call (Failed call)) ?_
      (fun interruption handler chosen => triple_answerHandler call chosen) ?_
    · refine Triple.andThen _ (triple_answerAndStore call) fun stored => ?_
      refine Triple.andThen _ (triple_keepAnswer call stored.2) fun _ => ?_
      exact Triple.exit fun _ holds => Or.inl ⟨rfl, holds⟩
    · intro interruption uncaught
      cases interruption with
      | failure exception => cases exception <;> cases uncaught
      | cancelled => exact fun _ settled => settled
      | generatorExit => exact fun _ settled => settled

/-- What a request leaves for its handlers when it raises an exception. -/
theorem failed_of_attempted
    {call : ChatCall F}
    {exception : RouteException}
    {world : World}
    {fates left : List Fate}
    (ran : attempted call {} fates = (.raised (.failure exception), world, left)) :
    Failed call world := by
  have attempts : Triple (Building []) (attempted call)
      ⟨fun _ => Stored call, Replied call, Interrupted call (Failed call)⟩ := by
    unfold attempted
    split
    · rw [← streamAndStore_eq]
      exact triple_streamAndStore call
    · refine Triple.andThen (fun _ => Building []) ?_ fun _ => ?_
      · exact Triple.value fun _ building => building
      · refine Triple.andThen _ (triple_answerAndStore call) fun stored => ?_
        refine Triple.andThen _ (triple_keepAnswer call stored.2) fun _ => ?_
        exact Triple.exit fun _ holds => Or.inl ⟨rfl, holds⟩
  have ended := attempts {} fates ⟨rfl, rfl, nofun⟩
  rw [ran] at ended
  exact ended

/-- At the commit all rows of a turn are pending and nothing is durable. -/
theorem AtCommit.isTurn
    {call : ChatCall F}
    {fates left : List Fate}
    {world : World}
    (reached : AtCommit call fates world left) :
    ∃ content event, Building (call.turnRows content event) world ∧
      event.status = .success ∧ event.messageId = some call.assistantMessageId := by
  have enters : ∀ {β : Type} {body : RouteProgram Reply β},
      Triple (Building []) body (bodyPost call) →
        Triple (Building []) (andThen begin fun _ => body)
          ⟨(bodyPost (α := β) call).next, fun _ _ => True, fun _ _ => True⟩ := by
    intro β body bodyTriple
    refine Triple.andThen (fun _ => Building [])
      (triple_begin (fun _ building => building) fun _ _ _ => trivial) fun _ => ?_
    exact bodyTriple.conclude (fun _ _ turn => turn) (fun _ _ _ => trivial)
      fun _ _ _ => trivial
  have start : Building [] ({} : World) := ⟨rfl, rfl, nofun⟩
  rcases reached with ⟨_, result, ran⟩ | ⟨_, result, ran⟩
  · have streamed : Triple (Building []) (streamedTurn call).untilCommit
        ⟨(bodyPost call).next, fun _ _ => True, fun _ _ => True⟩ := by
      refine Triple.andThen (fun _ => Building []) ?_ fun result => ?_
      · refine Triple.andThen (fun _ => Building []) ?_ fun session => ?_
        · exact triple_awaitService (fun _ _ building => building) fun _ _ _ => trivial
        · refine Triple.andThen (fun _ => Building []) ?_ fun _ => ?_
          · exact (triple_relayChunks call session).conclude (fun _ _ building => building)
              (fun _ _ _ => trivial) fun _ _ _ => trivial
          · exact triple_awaitService (fun _ _ building => building) fun _ _ _ => trivial
      · exact enters (turn_storeBody call result)
    have ended := streamed {} fates start
    rw [ran] at ended
    exact ended
  · have answered : Triple (Building []) (answeredTurn call).untilCommit
        ⟨(bodyPost call).next, fun _ _ => True, fun _ _ => True⟩ := by
      refine Triple.andThen (fun _ => Building []) ?_ fun result => ?_
      · exact Triple.value fun _ building => building
      · exact enters (turn_answerBody call)
    have ended := answered {} fates start
    rw [ran] at ended
    exact ended

/-- What the route leaves, however its awaits end. -/
theorem holds_chat (fates : List Fate) :
    (routePost call).holds (chat call {} fates).1 (chat call {} fates).2.1 :=
  triple_chat call {} fates ⟨rfl, rfl, nofun⟩

/-- For every request and whatever happens at its awaits: the durable rows of its turn are
all of them or none, with at most the usage event of a failure beside them; a turn is
reported only when it is durable; and a failure is reported only when no part of a turn is
durable, or when the commit of the turn took effect and raised an exception. -/
theorem chat_atomic (fates : List Fate) :
    let ending := (chat call {} fates).1
    let world := (chat call {} fates).2.1
    (call.CompleteTurn world.committed ∨ NoTurn world.committed ∨
        call.ContradictedTurn world.committed ∧ call.Unconfirmed world) ∧
      (∀ sent ∈ world.sent,
        (sent.frame.event = .done → call.CompleteTurn sent.committed) ∧
          (sent.frame.event = .error → NoTurn world.committed ∨ call.Unconfirmed world)) ∧
      (∀ body, ending = .exit (.response body) →
        (body.status = .success → call.CompleteTurn world.committed) ∧
          (body.status = .error → NoTurn world.committed ∨ call.Unconfirmed world)) ∧
      ∀ exception, ending = .raised (.failure exception) →
        NoTurn world.committed ∨ call.Unconfirmed world := by
  intro ending world
  have final : (routePost call).holds ending world := holds_chat call fates
  have told : ∀ world, Unsuccessful call world →
      NoTurn world.committed ∨ call.Unconfirmed world := fun world unsuccessful =>
    unsuccessful.imp (fun refused => refused.1) fun contradicted => contradicted.2.1
  refine ⟨?_, ?_, ?_, ?_⟩
  · rcases settled_of_holds call final with (refused | ⟨complete | both, lost, -⟩) | stored
    · exact Or.inr (Or.inl refused.1)
    · exact Or.inl complete
    · exact Or.inr (Or.inr ⟨both, lost⟩)
    · exact Or.inl stored.1
  · intro sent present
    rcases settled_of_holds call final with unsuccessful | stored
    · have noTurn : sent.frame.event ≠ .done := unsuccessful.elim
        (fun refused => refused.2 sent present)
        fun contradicted => contradicted.2.2 sent present
      exact ⟨fun done => absurd done noTurn, fun _ => told world unsuccessful⟩
    · exact ⟨(stored.2 sent present).2,
        fun failed => absurd failed (stored.2 sent present).1⟩
  · intro body replied
    rw [replied] at final
    rcases final with ⟨success, stored⟩ | ⟨failure, unsuccessful⟩
    · exact ⟨fun _ => stored.1,
        fun failure => absurd (success.symm.trans failure) nofun⟩
    · exact ⟨fun success => absurd (success.symm.trans failure) nofun,
        fun _ => told world unsuccessful⟩
  · intro exception escaped
    rw [escaped] at final
    exact told world final

/-- The awaits of the sample request up to its commit complete, and the commit takes effect
and raises. -/
def lostFates : List Fate :=
  List.replicate 6 .completes ++
    [.fails (.other "InterfaceError".toList "connection is closed".toList) true false]

/-- The commit takes effect and its reply is lost: the whole turn is durable beside the usage
event of a failure, and the response reports an error. -/
theorem lostReply_not_atomic :
    let ending := (chat (helloCall "stub-1".toList) {} lostFates).1
    let rows := (chat (helloCall "stub-1".toList) {} lostFates).2.1.committed
    ¬((helloCall "stub-1".toList).CompleteTurn rows ∨ NoTurn rows) ∧
      ∃ body, ending = .exit (.response body) ∧ body.status = .error ∧
        (helloCall "stub-1".toList).userRow ∈ rows ∧ ¬NoTurn rows := by
  intro ending rows
  have five : rows.length = 5 := by decide +kernel
  have noTurn : ¬NoTurn rows := by
    rintro (none | ⟨event, one, -⟩)
    · rw [none] at five
      cases five
    · rw [one] at five
      cases five
  refine ⟨?_, (helloCall "stub-1".toList).failureResponse "internal error".toList, ?_, rfl, ?_,
    noTurn⟩
  · rintro (⟨content, event, complete, -⟩ | none)
    · rw [complete] at five
      cases five
    · exact noTurn none
  · decide +kernel
  · decide +kernel

/-- A request whose client was told of a turn has made one durable in the end. -/
theorem completeTurn_of_done
    {fates : List Fate}
    {sent : SentFrame}
    (present : sent ∈ (chat call {} fates).2.1.sent)
    (done : sent.frame.event = .done) :
    call.CompleteTurn (chat call {} fates).2.1.committed := by
  rcases settled_of_holds call (holds_chat call fates) with
    (refused | contradicted) | stored
  · exact absurd done (refused.2 sent present)
  · exact absurd done (contradicted.2.2 sent present)
  · exact stored.1

/-- A request that answers with a success has made a turn durable. -/
theorem completeTurn_of_success
    {fates : List Fate}
    {body : ChatResponse}
    (replied : (chat call {} fates).1 = .exit (.response body))
    (success : body.status = .success) :
    call.CompleteTurn (chat call {} fates).2.1.committed := by
  have final := holds_chat call fates
  rw [replied] at final
  rcases final with ⟨-, stored⟩ | ⟨failure, -⟩
  · exact stored.1
  · exact absurd (success.symm.trans failure) nofun

end Requests

end ChatRoute
end ChatPlatform
