import ChatPlatform.Foundation.Program
import ChatPlatform.Route.ResponseCache
import ChatPlatform.Route.Sse
import ChatPlatform.Store.Database

/-!
# The session of a request

The awaits of the chat route: the ones of the database session, the frames given to
the client and the write of the metrics. Each of them may complete, raise, or be
where the task is cancelled. A transaction is atomic: its rows become durable together
or not at all. They do when the commit completes; a commit that raises or is cancelled
may have taken effect or not, since its reply may be lost on the way back.
-/

namespace ChatPlatform

/-- An exception the handlers of the route can catch. -/
inductive RouteException
  /-- A normalized provider failure. -/
  | providerError (error : ProviderError)
  /-- The chat service ran out of time. -/
  | providerTimeout (message : Str)
  /-- The chat service failed. -/
  | providerExecution (message : Str)
  /-- The refusal of an unknown conversation. -/
  | httpNotFound
  /-- Any other exception, by class name and message. -/
  | other (name message : Str)
  deriving DecidableEq

/-- The text of an exception. -/
def RouteException.text : RouteException → Str
  | .providerError error => error.message
  | .providerTimeout message => message
  | .providerExecution message => message
  | .httpNotFound => "404: conversation_id not found".toList
  | .other _ message => message

/-- Everything that can be raised: `except Exception` catches the failures only. -/
inductive Interruption
  /-- An exception. -/
  | failure (exception : RouteException)
  /-- The task was cancelled. -/
  | cancelled
  /-- The generator was closed at a frame. -/
  | generatorExit
  deriving DecidableEq

/-- What happens at an await. -/
inductive Fate
  /-- It completes. -/
  | completes
  /-- It raises; `tookEffect` tells whether the other side acted before, and
  `leavesOpen` whether the session still is in a transaction. -/
  | fails (exception : RouteException) (tookEffect leavesOpen : Bool)
  /-- The task is cancelled there; the flags tell the same. -/
  | cancels (tookEffect leavesOpen : Bool)
  deriving DecidableEq

/-- A row a request stores. -/
inductive StoredRow
  /-- A conversation. -/
  | conversation (row : ConversationRow)
  /-- A message; its sequence number is given by the database. -/
  | message (id conversationId : Uuid) (tenantId : Str) (role : Role) (content : Str)
  /-- A usage event. -/
  | usageEvent (row : UsageEventRow)
  deriving DecidableEq

/-- How a request ended, as the metrics record it. -/
inductive GenerationOutcome
  | ok
  | notFound
  | timeout
  | error
  | cancelled
  deriving DecidableEq, Repr

/-- A row of the request metrics. -/
structure MetricsRow where
  /-- The tenant of the request. -/
  tenantId : Str
  /-- Whether evidence retrieval was on. -/
  ebm25 : Bool
  /-- How the request ended. -/
  generationOutcome : GenerationOutcome
  /-- Tokens read. -/
  inputTokens : Option Int
  /-- Tokens written. -/
  outputTokens : Option Int
  /-- Duration of the request. -/
  totalLatencyMs : Int
  /-- Whether the history was cut. -/
  historyTruncated : Bool
  /-- Whether the history read was full. -/
  historyRowCapReached : Bool
  deriving DecidableEq

/-- A frame given to the client, with the rows that were durable at that time. -/
structure SentFrame where
  /-- The frame. -/
  frame : Frame
  /-- The durable rows. -/
  committed : List StoredRow
  deriving DecidableEq

/-- The state a request acts on. -/
structure World where
  /-- The durable rows of the request. -/
  committed : List StoredRow := []
  /-- The durable rows whose commit raised an exception. -/
  unconfirmed : List StoredRow := []
  /-- The rows of the open transaction. -/
  pending : List StoredRow := []
  /-- Whether the session is in a transaction. -/
  inTransaction : Bool := false
  /-- The frames given to the client. -/
  sent : List SentFrame := []
  /-- The outcome for the metrics, once there is one. -/
  generationOutcome : Option GenerationOutcome := none
  /-- The provider result for the metrics, once there is one. -/
  metricsProviderResult : Option ProviderResult := none
  /-- The metrics written. -/
  metrics : List MetricsRow := []
  /-- What was written to the response cache. -/
  cacheWrites : List ResponseCache.Payload := []
  deriving DecidableEq

/-- A part of the route that returns `ρ` or goes on with `α`. -/
abbrev RouteProgram (ρ α : Type) : Type := Program Fate World ρ Interruption α

namespace Session

open Program

variable {ρ α : Type}

/-- An await that gives a value and changes nothing. -/
def awaitValue (result : α) : RouteProgram ρ α :=
  await .completes fun fate world =>
    match fate with
    | .completes => (.next result, world)
    | .fails exception _ _ => (.raised (.failure exception), world)
    | .cancels _ _ => (.raised .cancelled, world)

/-- Begin a transaction; a session in a transaction refuses. -/
def begin : RouteProgram ρ Unit :=
  await .completes fun fate world =>
    match fate with
    | .completes =>
        if world.inTransaction then
          (.raised (.failure (.other "InvalidRequestError".toList
            "A transaction is already begun on this Session.".toList)), world)
        else (.next (), { world with inTransaction := true })
    | .fails exception _ _ => (.raised (.failure exception), world)
    | .cancels _ _ => (.raised .cancelled, world)

/-- Add a row to the transaction. -/
def add (row : StoredRow) : RouteProgram ρ Unit :=
  modify fun world => { world with pending := world.pending ++ [row] }

/-- Send the rows of the transaction to the database. -/
def flush : RouteProgram ρ Unit := awaitValue ()

/-- Leave the transaction, keeping its rows. -/
def commit : RouteProgram ρ Unit :=
  await .completes fun fate world =>
    match fate with
    | .completes =>
        (.next (),
          { world with
            committed := world.committed ++ world.pending
            pending := []
            inTransaction := false })
    | .fails exception tookEffect leavesOpen =>
        (.raised (.failure exception),
          { world with
            committed :=
              if tookEffect then world.committed ++ world.pending
              else world.committed
            unconfirmed :=
              if tookEffect then world.unconfirmed ++ world.pending
              else world.unconfirmed
            pending := []
            inTransaction := leavesOpen })
    | .cancels tookEffect leavesOpen =>
        (.raised .cancelled,
          { world with
            committed :=
              if tookEffect then world.committed ++ world.pending
              else world.committed
            pending := []
            inTransaction := leavesOpen })

/-- Leave the transaction, dropping its rows. -/
def rollback : RouteProgram ρ Unit :=
  await .completes fun fate world =>
    match fate with
    | .completes =>
        (.next (), { world with pending := [], inTransaction := false })
    | .fails exception _ leavesOpen =>
        (.raised (.failure exception),
          { world with pending := [], inTransaction := leavesOpen })
    | .cancels _ leavesOpen =>
        (.raised .cancelled,
          { world with pending := [], inTransaction := leavesOpen })

/-- A block inside a transaction: it commits when the block goes on or returns, and
rolls back when the block raises. -/
def transaction (body : RouteProgram ρ α) : RouteProgram ρ α :=
  within begin commit rollback body

/-- Give a frame to the client and wait until it asks for more. A client that does
not come back closes the generator there. -/
def yieldFrame (frame : Frame) : RouteProgram ρ Unit :=
  await .completes fun fate world =>
    let delivered := { world with
      sent := world.sent ++ [⟨frame, world.committed⟩] }
    match fate with
    | .completes => (.next (), delivered)
    | .fails _ _ _ => (.raised .generatorExit, delivered)
    | .cancels _ _ => (.raised .cancelled, delivered)

/-- A handler for every exception, and for nothing else. -/
def exceptException (continuation : RouteException → RouteProgram ρ α) :
    Interruption → Option (RouteProgram ρ α)
  | .failure exception => some (continuation exception)
  | .cancelled => none
  | .generatorExit => none

/-- Run a block and ignore an exception of it. -/
def suppressed (body : RouteProgram ρ Unit) : RouteProgram ρ Unit :=
  catching body (exceptException fun _ => value ())

/-- A write outside the transaction whose exceptions are ignored. A write that raises or
is cancelled may have taken effect. -/
def bestEffort (write : World → World) : RouteProgram ρ Unit :=
  suppressed (await .completes fun fate world =>
    match fate with
    | .completes => (.next (), write world)
    | .fails exception tookEffect _ =>
        (.raised (.failure exception), if tookEffect then write world else world)
    | .cancels tookEffect _ =>
        (.raised .cancelled, if tookEffect then write world else world))

/-! ## Triples -/

variable {pre : World → Prop}

/-- An await that changes nothing keeps what holds, whether it completes or not. -/
theorem triple_awaitValue
    {post : Post World ρ Interruption α}
    {result : α}
    (completed : ∀ world, pre world → post.next result world)
    (interrupted : ∀ exception world, pre world → post.raised exception world) :
    Triple pre (awaitValue result) post := by
  refine Triple.await fun fate world holds => ?_
  cases fate with
  | completes => exact completed world holds
  | fails exception tookEffect leavesOpen => exact interrupted _ world holds
  | cancels tookEffect leavesOpen => exact interrupted _ world holds

/-- What holds after beginning a transaction. -/
theorem triple_begin
    {post : Post World ρ Interruption Unit}
    (begun : ∀ world, pre world →
      post.next () { world with inTransaction := true })
    (interrupted : ∀ exception world, pre world → post.raised exception world) :
    Triple pre begin post := by
  refine Triple.await fun fate world holds => ?_
  cases fate with
  | completes =>
      dsimp only
      split
      · exact interrupted _ world holds
      · exact begun world holds
  | fails exception tookEffect leavesOpen => exact interrupted _ world holds
  | cancels tookEffect leavesOpen => exact interrupted _ world holds

/-- What holds after a commit: its rows are durable when it completes; when it raises or
is cancelled they may be or not. -/
theorem triple_commit
    {post : Post World ρ Interruption Unit}
    (durable : ∀ world, pre world → post.next () { world with
      committed := world.committed ++ world.pending
      pending := []
      inTransaction := false })
    (lost : ∀ exception world leavesOpen, pre world →
      post.raised exception
        { world with pending := [], inTransaction := leavesOpen })
    (unnoticed : ∀ world leavesOpen, pre world → post.raised .cancelled { world with
      committed := world.committed ++ world.pending
      pending := []
      inTransaction := leavesOpen })
    (unconfirmed : ∀ exception world leavesOpen, pre world →
      post.raised (.failure exception) { world with
        committed := world.committed ++ world.pending
        unconfirmed := world.unconfirmed ++ world.pending
        pending := []
        inTransaction := leavesOpen }) :
    Triple pre commit post := by
  refine Triple.await fun fate world holds => ?_
  cases fate with
  | completes => exact durable world holds
  | fails exception tookEffect leavesOpen =>
      cases tookEffect with
      | true => exact unconfirmed exception world leavesOpen holds
      | false => exact lost _ world leavesOpen holds
  | cancels tookEffect leavesOpen =>
      cases tookEffect with
      | true => exact unnoticed world leavesOpen holds
      | false => exact lost _ world leavesOpen holds

/-- What holds after a rollback: nothing is pending, whether it completes or not. -/
theorem triple_rollback
    {post : Post World ρ Interruption Unit}
    (dropped : ∀ world, pre world →
      post.next () { world with pending := [], inTransaction := false })
    (interrupted : ∀ exception world leavesOpen, pre world →
      post.raised exception
        { world with pending := [], inTransaction := leavesOpen }) :
    Triple pre rollback post := by
  refine Triple.await fun fate world holds => ?_
  cases fate with
  | completes => exact dropped world holds
  | fails exception tookEffect leavesOpen => exact interrupted _ world leavesOpen holds
  | cancels tookEffect leavesOpen => exact interrupted _ world leavesOpen holds

/-- What holds after giving a frame. -/
theorem triple_yieldFrame
    {post : Post World ρ Interruption Unit}
    {frame : Frame}
    (resumed : ∀ world, pre world → post.next () { world with
      sent := world.sent ++ [⟨frame, world.committed⟩] })
    (cancelled : ∀ world, pre world → post.raised .cancelled { world with
      sent := world.sent ++ [⟨frame, world.committed⟩] })
    (closed : ∀ world, pre world → post.raised .generatorExit { world with
      sent := world.sent ++ [⟨frame, world.committed⟩] }) :
    Triple pre (yieldFrame frame) post := by
  refine Triple.await fun fate world holds => ?_
  cases fate with
  | completes => exact resumed world holds
  | fails exception tookEffect leavesOpen => exact closed world holds
  | cancels tookEffect leavesOpen => exact cancelled world holds

/-- A handler for exceptions: right for what is left when one is raised, and for
what the other interruptions leave. -/
theorem triple_exceptException
    {post : Post World ρ Interruption α}
    {body : RouteProgram ρ α}
    {continuation : RouteException → RouteProgram ρ α}
    (raised : Interruption → World → Prop)
    (bodyTriple : Triple pre body ⟨post.next, post.exit, raised⟩)
    (caught : ∀ exception,
      Triple (raised (.failure exception)) (continuation exception) post)
    (cancelled : ∀ world, raised .cancelled world → post.raised .cancelled world)
    (closed : ∀ world, raised .generatorExit world →
      post.raised .generatorExit world) :
    Triple pre (catching body (exceptException continuation)) post := by
  refine Triple.catching raised bodyTriple ?_ ?_
  · intro interruption handler chosen
    cases interruption with
    | failure exception =>
        cases chosen
        exact caught exception
    | cancelled => cases chosen
    | generatorExit => cases chosen
  · intro interruption uncaught
    cases interruption with
    | failure exception => cases uncaught
    | cancelled => exact cancelled
    | generatorExit => exact closed

/-- What the body of a block that ignores exceptions has to leave when it raises. -/
def suppressing (post : Post World ρ Interruption Unit) :
    Interruption → World → Prop
  | .failure _ => post.next ()
  | .cancelled => post.raised .cancelled
  | .generatorExit => post.raised .generatorExit

/-- Ignoring an exception: it must leave what completing leaves. -/
theorem triple_suppressed
    {post : Post World ρ Interruption Unit}
    {body : RouteProgram ρ Unit}
    (bodyTriple : Triple pre body ⟨post.next, post.exit, suppressing post⟩) :
    Triple pre (suppressed body) post :=
  triple_exceptException _ bodyTriple
    (fun _ => Triple.value fun _ left => left) (fun _ left => left)
    fun _ left => left

/-- A best-effort write keeps what both the write and its failure keep. -/
theorem triple_bestEffort
    {post : Post World ρ Interruption Unit}
    {write : World → World}
    (written : ∀ world, pre world → post.next () (write world))
    (failed : ∀ world, pre world → post.next () world)
    (cancelled : ∀ world, pre world → post.raised .cancelled (write world) ∧
      post.raised .cancelled world) :
    Triple pre (bestEffort write) post := by
  refine triple_suppressed (Triple.await fun fate world holds => ?_)
  cases fate with
  | completes => exact written world holds
  | fails exception tookEffect leavesOpen =>
      cases tookEffect with
      | true => exact written world holds
      | false => exact failed world holds
  | cancels tookEffect leavesOpen =>
      cases tookEffect with
      | true => exact (cancelled world holds).1
      | false => exact (cancelled world holds).2

end Session
end ChatPlatform
