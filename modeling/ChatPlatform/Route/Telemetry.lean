import ChatPlatform.Route.Atomicity
import ChatPlatform.Route.Commit
import ChatPlatform.Store.Database

/-!
# Telemetry and the turn it is about

The usage event of an answer is only added to the session where its exceptions are
ignored; the session sends its row to the database when it commits, in the
transaction of the turn. The turn survives exactly when the database accepts the
event.
-/

namespace ChatPlatform

open Program Session

/-- How the database takes the row of a usage event. -/
structure EventInsert where
  /-- The exception of the insert, if it raises one. -/
  error : UsageEventRow → Option RouteException
  /-- Whether the session is left in a transaction by it. -/
  leavesOpen : Bool
  /-- A row that does not fit its columns is refused. -/
  refuses : ∀ row, row.fits = false → error row ≠ none

namespace EventInsert

/-- The exception of the first usage event refused among some rows. -/
def firstError (insert : EventInsert) (rows : List StoredRow) : Option RouteException :=
  rows.findSome? fun row =>
    match row with
    | .usageEvent event => insert.error event
    | .conversation _ => none
    | .message _ _ _ _ _ => none

/-- What becomes of a commit that fails only where a usage event is refused: the insert
comes before the commit takes effect. -/
def commitFate (insert : EventInsert) (rows : List StoredRow) : Fate :=
  match insert.firstError rows with
  | none => .completes
  | some exception => .fails exception false insert.leavesOpen

/-- No event is refused exactly when each one is accepted. -/
theorem firstError_eq_none_iff (insert : EventInsert) (rows : List StoredRow) :
    insert.firstError rows = none ↔
      ∀ event, .usageEvent event ∈ rows → insert.error event = none := by
  unfold firstError
  rw [List.findSome?_eq_none_iff]
  constructor
  · intro none event held
    exact none (.usageEvent event) held
  · intro accepted row held
    cases row with
    | usageEvent event => exact accepted event held
    | conversation conversation => rfl
    | message id conversationId tenantId role content => rfl

end EventInsert

namespace ChatRoute

variable {F : Type} [FloatOps F]

/-- The client was told of a success. -/
def ReportsSuccess
    (call : ChatCall F)
    (ending : Outcome Reply Interruption Unit)
    (world : World) : Prop :=
  if call.request.stream then
    ending = .next () ∧ ∃ sent ∈ world.sent, sent.frame = doneFrame call
  else ∃ body, ending = .exit (.response body) ∧ body.status = .success

/-- The turn is durable and was reported: the conversation when it is new, the user
message and the assistant message. -/
structure Survives (call : ChatCall F) (fates : List Fate) : Prop where
  /-- A new conversation is durable. -/
  conversation : call.request.conversationId = none →
    call.conversationRow ∈ (chat call {} fates).2.1.committed
  /-- The user message is durable. -/
  user : call.userRow ∈ (chat call {} fates).2.1.committed
  /-- An assistant message is durable. -/
  assistant : ∃ content,
    call.assistantRow content ∈ (chat call {} fates).2.1.committed
  /-- The client was told of a success. -/
  reported : ReportsSuccess call (chat call {} fates).1 (chat call {} fates).2.1

/-! ## When everything else completes -/

/-- Every await completes. -/
def AllComplete (fates : List Fate) : Prop := ∀ fate ∈ fates, fate = .completes

/-- Whether every await completes can be checked. -/
instance (fates : List Fate) : Decidable (AllComplete fates) :=
  inferInstanceAs (Decidable (∀ fate ∈ fates, fate = .completes))

omit [FloatOps F] in
/-- The next await completes, and so do the later ones. -/
theorem AllComplete.head_tail {fates : List Fate} (complete : AllComplete fates) :
    fates.headD .completes = .completes ∧ AllComplete fates.tail := by
  cases fates with
  | nil => exact ⟨rfl, complete⟩
  | cons first rest =>
      exact ⟨complete first List.mem_cons_self,
        fun fate held => complete fate (List.mem_cons_of_mem _ held)⟩

variable {fates left : List Fate} {world : World} {call : ChatCall F}

/-- An await that completes. -/
private theorem await_completes
    {ρ α : Type}
    {react : Fate → World → Outcome ρ Interruption α × World}
    (complete : AllComplete fates) :
    Program.await .completes react world fates =
      ((react .completes world).1, (react .completes world).2, fates.tail) := by
  unfold Program.await
  rw [complete.head_tail.1]

/-- A best-effort write completes. -/
private theorem bestEffort_completes
    {ρ : Type}
    {write : World → World}
    (complete : AllComplete fates) :
    (bestEffort write : RouteProgram ρ Unit) world fates =
      (.next (), write world, fates.tail) :=
  catching_of_next (await_completes complete)

/-- The metrics are written, or there are none to write. -/
private theorem recordMetrics_completes
    (unset : GenerationOutcome)
    (complete : AllComplete fates) :
    ∃ metrics unused, (recordMetrics call unset : RouteProgram Reply Unit) world fates =
      (.next (), { world with metrics := metrics }, unused) := by
  have inspected : (inspect (·.inTransaction) : RouteProgram Reply Bool) world fates =
      (.next world.inTransaction, world, fates) := rfl
  unfold recordMetrics
  change ∃ metrics unused, andThen (inspect _) _ world fates = _
  rw [andThen_of_next inspected]
  split
  · exact ⟨world.metrics, fates, rfl⟩
  · split
    · exact ⟨_, _, bestEffort_completes complete⟩
    · exact ⟨world.metrics, fates, rfl⟩

/-- After its commit a request reports a success. -/
private theorem afterCommit_completes
    {after : RouteProgram Reply Unit}
    (isAfter : AfterCommit call after)
    (complete : AllComplete fates) :
    ∃ ending final unused, after world fates = (ending, final, unused) ∧
      AllComplete unused ∧ (∀ interruption, ending ≠ .raised interruption) ∧
      ∀ metrics, ReportsSuccess call ending { final with metrics := metrics } := by
  cases isAfter with
  | streamed stream =>
      refine ⟨_, _, _, await_completes complete, complete.head_tail.2, nofun, ?_⟩
      intro metrics
      unfold ReportsSuccess
      rw [if_pos stream]
      exact ⟨rfl, _, List.mem_append_right _ (List.mem_singleton_self _), rfl⟩
  | answered stream kept content =>
      have reports : ∀ metrics (final : World), ReportsSuccess call
          (.exit (.response (call.successResponse content)))
          { final with metrics := metrics } := by
        intro metrics final
        unfold ReportsSuccess
        rw [stream, if_neg Bool.noConfusion]
        exact ⟨_, rfl, rfl⟩
      cases kept with
      | none => exact ⟨_, _, _, rfl, complete, nofun, fun metrics => reports metrics _⟩
      | some result =>
          exact ⟨_, _, _, andThen_of_next (bestEffort_completes complete),
            complete.head_tail.2, nofun, fun metrics => reports metrics _⟩

/-- A success is reported of a complete turn only. -/
private theorem completeTurn_of_reportsSuccess
    (reported : ReportsSuccess call (chat call {} fates).1 (chat call {} fates).2.1) :
    call.CompleteTurn (chat call {} fates).2.1.committed := by
  unfold ReportsSuccess at reported
  split at reported
  · obtain ⟨_, sent, held, isDone⟩ := reported
    apply completeTurn_of_done call held
    rw [isDone]
    rfl
  · obtain ⟨body, replied, success⟩ := reported
    exact completeTurn_of_success call replied success

/-- A turn whose commit completes, and nothing fails after it, survives. -/
private theorem survives_of_completes
    (reached : AtCommit call fates world left)
    (complete : AllComplete left) : Survives call fates := by
  obtain ⟨after, isAfter, continues⟩ := reached.mainPart_eq
  obtain ⟨ending, final, unused, ran, rest, ends, reports⟩ :=
    afterCommit_completes isAfter complete.head_tail.2
  have stored : andThen commit (fun _ => after) world left = (ending, final, unused) := by
    rw [andThen_of_next (await_completes complete)]
    exact ran
  have main : mainPart call {} fates = (ending, final, unused) := by
    rw [continues]
    cases ending with
    | next value => exact catching_of_next stored
    | exit reply => exact catching_of_exit stored
    | raised interruption => exact absurd rfl (ends interruption)
  obtain ⟨metrics, others, recorded⟩ :=
    @recordMetrics_completes _ _ _ final call (unsetOutcome call) rest
  have whole : chat call {} fates = (ending, { final with metrics := metrics }, others) := by
    rw [chat_eq_ensuring]
    exact ensuring_of_next main recorded
  have reported : ReportsSuccess call (chat call {} fates).1
      (chat call {} fates).2.1 := by
    rw [whole]
    exact reports metrics
  obtain ⟨content, event, rows, -⟩ := completeTurn_of_reportsSuccess reported
  unfold ChatCall.turnRows at rows
  refine ⟨?_, ?_, ⟨content, ?_⟩, reported⟩
  · intro isNew
    rw [rows, if_pos isNew]
    exact List.mem_append_left _ (List.mem_singleton_self _)
  · rw [rows]
    exact List.mem_append_right _ List.mem_cons_self
  · rw [rows]
    exact List.mem_append_right _ (List.mem_cons_of_mem _ List.mem_cons_self)

/-! ## When the event is refused -/

/-- A turn whose commit raises an exception before it takes effect leaves usage events at
most. -/
private theorem onlyEvents_of_fails
    {exception : RouteException}
    {leavesOpen : Bool}
    (reached : AtCommit call fates world left)
    (fails : left.headD .completes = .fails exception false leavesOpen) :
    ∀ row ∈ (chat call {} fates).2.1.committed, ∃ event, row = .usageEvent event := by
  let isEvent : StoredRow → Prop := fun row => ∃ event, row = .usageEvent event
  have failed : ∀ message, isEvent (.usageEvent (call.failureEvent message)) :=
    fun message => ⟨_, rfl⟩
  have handled : ∀ {interruption continuation},
      handlers call interruption = some continuation →
        Keeps (World.RowsSatisfy isEvent) continuation :=
    fun chosen => keeps_handlers keepsRows_yieldFrame
      (fun outcome _ => keepsRows_setOutcome outcome)
      (fun outcome shown recorded _ =>
        keepsRows_reportFailure failed outcome shown recorded) chosen
  obtain ⟨after, -, continues⟩ := reached.mainPart_eq
  let dropped : World := { world with pending := [], inTransaction := leavesOpen }
  have nothing : World.RowsSatisfy isEvent dropped := by
    intro row held
    rw [List.append_nil, reached.isAnswered.1] at held
    exact absurd held List.not_mem_nil
  have raised : andThen commit (fun _ => after) world left =
      (.raised (.failure exception), dropped, left.tail) := by
    apply andThen_of_raised
    unfold commit Program.await
    rw [fails]
    rfl
  have kept : World.RowsSatisfy isEvent (mainPart call {} fates).2.1 := by
    rw [continues]
    cases choice : handlers call (.failure exception) with
    | none =>
        rw [catching_of_uncaught raised choice]
        exact nothing
    | some continuation =>
        rw [catching_of_caught raised choice]
        exact (handled choice).after nothing left.tail
  have final : World.RowsSatisfy isEvent (chat call {} fates).2.1 := by
    rw [chat_eq_ensuring, ensuring_state rfl]
    exact (keepsRows_recordMetrics (unsetOutcome call)).after kept _
  intro row held
  exact final row (List.mem_append_left _ held)

/-- A run that reaches the commit of its turn, and in which nothing fails but the
insert of a usage event: the turn survives exactly when the database accepts the
event. -/
theorem survives_iff_accepted
    (call : ChatCall F)
    (insert : EventInsert)
    {fates left : List Fate}
    {world : World}
    (reached : AtCommit call fates world left)
    (commitFate : left.headD .completes = insert.commitFate world.pending)
    (othersComplete : AllComplete left.tail) :
    Survives call fates ↔
      ∀ event, .usageEvent event ∈ world.pending → insert.error event = none := by
  rw [← insert.firstError_eq_none_iff]
  unfold EventInsert.commitFate at commitFate
  constructor
  · intro survives
    cases refused : insert.firstError world.pending with
    | none => rfl
    | some exception =>
        rw [refused] at commitFate
        obtain ⟨event, isEvent⟩ :=
          onlyEvents_of_fails reached commitFate call.userRow survives.user
        cases isEvent
  · intro accepted
    rw [accepted] at commitFate
    apply survives_of_completes reached
    intro fate held
    cases left with
    | nil => exact absurd held List.not_mem_nil
    | cons first rest =>
        rcases List.mem_cons.mp held with rfl | later
        · exact commitFate
        · exact othersComplete fate later

/-- An insert that fails only for its columns. -/
def columnsOnly : EventInsert where
  error := fun row =>
    if row.fits then none
    else some (.other "DBAPIError".toList "value too long".toList)
  leavesOpen := false
  refuses := by
    intro row refused
    rw [refused]
    nofun

/-- A run in which nothing fails, and the event is accepted. -/
theorem survives_iff_accepted_hello :
    Survives (helloCall "stub-1".toList) [] ↔
      ∀ event, .usageEvent event ∈ (helloRun "stub-1".toList []).2.1.pending →
        columnsOnly.error event = none :=
  survives_iff_accepted (helloCall "stub-1".toList) columnsOnly
    (atCommit_hello ⟨helloAnswer "stub-1".toList, by decide +kernel⟩)
    (by decide +kernel) (by decide +kernel)

/-- The name of a model version, one character too long. -/
def longVersion : Str := List.replicate 129 'm'

/-- The awaits up to the commit complete, and the commit fails as the insert does. -/
def longFates : List Fate :=
  List.replicate 6 .completes ++
    [.fails (.other "DBAPIError".toList "value too long".toList) false false]

/-- The provider answers with a version of 129 characters: the insert of the usage
event is all that fails, and the turn is lost. -/
theorem longVersion_lost :
    ∃ world left, AtCommit (helloCall longVersion) longFates world left ∧
      left.headD .completes = columnsOnly.commitFate world.pending ∧
      AllComplete left.tail ∧ ¬Survives (helloCall longVersion) longFates := by
  have reached : AtCommit (helloCall longVersion) longFates _ _ :=
    atCommit_hello ⟨helloAnswer longVersion, by decide +kernel⟩
  have commitFate : (helloRun longVersion longFates).2.2.headD .completes =
      .fails (.other "DBAPIError".toList "value too long".toList) false false := by
    decide +kernel
  refine ⟨_, _, reached, ?_, by decide +kernel, ?_⟩
  · rw [commitFate]
    decide +kernel
  · intro survives
    obtain ⟨event, isEvent⟩ := onlyEvents_of_fails reached commitFate _ survives.user
    cases isEvent

end ChatRoute
end ChatPlatform
