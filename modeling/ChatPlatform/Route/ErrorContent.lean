import ChatPlatform.Route.Metrics
import ChatPlatform.Route.UsageEvents

/-!
# What the telemetry of a failure tells about the content

A request answered at once that fails stores a usage event about the failure. The
handler of the provider failures and the handler of everything else store the text of
the exception, cut and without outer blanks; the second one shows the client another
text. Two requests that differ in content and fail alike leave the same events exactly
when their exceptions carry the same text and what a commit that raised has left durable
is the same.
-/

namespace ChatPlatform

open Program Session

/-- Two exceptions of the same class. -/
inductive RouteException.SameType : RouteException → RouteException → Prop
  | providerError (left right : ProviderError) :
      SameType (.providerError left) (.providerError right)
  | providerTimeout (left right : Str) :
      SameType (.providerTimeout left) (.providerTimeout right)
  | providerExecution (left right : Str) :
      SameType (.providerExecution left) (.providerExecution right)
  | httpNotFound : SameType .httpNotFound .httpNotFound
  | other (name left right : Str) : SameType (.other name left) (.other name right)

/-- The same happens at an await, up to the text of the exception. -/
inductive Fate.Alike : Fate → Fate → Prop
  | completes : Alike .completes .completes
  | fails
      {left right : RouteException}
      (sameType : left.SameType right)
      (tookEffect leavesOpen : Bool) :
      Alike (.fails left tookEffect leavesOpen) (.fails right tookEffect leavesOpen)
  | cancels (tookEffect leavesOpen : Bool) :
      Alike (.cancels tookEffect leavesOpen) (.cancels tookEffect leavesOpen)

/-- The usage events among some rows. -/
def usageEvents (rows : List StoredRow) : List UsageEventRow :=
  rows.filterMap fun row =>
    match row with
    | .usageEvent event => some event
    | _ => none

/-- A usage event without identifiers and latency. -/
def UsageEventRow.anonymous (event : UsageEventRow) : UsageEventRow :=
  { event with
    id := ⟨0⟩
    requestId := ⟨0⟩
    messageId := none
    latencyMs := 0 }

/-- The identifiers of a usage event. -/
def UsageEventRow.identifiers (event : UsageEventRow) : Uuid × Uuid × Option Uuid :=
  (event.id, event.requestId, event.messageId)

/-- A usage event without latency. -/
def UsageEventRow.timeless (event : UsageEventRow) : UsageEventRow :=
  { event with latencyMs := 0 }

/-- A listed usage event without latency. -/
def UsageEventRecord.timeless (event : UsageEventRecord) : UsageEventRecord :=
  { event with row := event.row.timeless }

namespace ChatRoute

variable {F : Type} [FloatOps F]

/-- Two requests that may differ in the message, the history, the documents and
everything these make the other sides answer; the tenants, the conversations and the
identifiers may differ too. -/
structure DifferInContent (left right : ChatCall F) : Prop where
  /-- They meet the same settings. -/
  settings : left.settings = right.settings
  /-- Both are streamed or both are not. -/
  stream : left.request.stream = right.request.stream
  /-- They meet the same chat service. -/
  errorProviderName : left.errorProviderName = right.errorProviderName

/-- The request fails with an exception, in a state and with these fates left then. -/
def FailsWith
    (call : ChatCall F)
    (fates : List Fate)
    (exception : RouteException)
    (world : World)
    (left : List Fate) : Prop :=
  attempted call {} fates = (.raised (.failure exception), world, left)

/-- The usage events a request leaves. -/
def eventsOf (call : ChatCall F) (fates : List Fate) : List UsageEventRow :=
  usageEvents (chat call {} fates).2.1.committed

/-- The events of two requests do not tell them apart, neither in the database nor in
what the audit route lists. -/
structure TelemetryAgrees (left right : ChatCall F) (fates others : List Fate) :
    Prop where
  /-- The stored events are equal up to identifiers and latency. -/
  rows : (eventsOf left fates).map (·.anonymous) = (eventsOf right others).map (·.anonymous)
  /-- Whatever was stored before and whenever the events are stored, when the events of
  both requests have the same identifiers every listing is equal up to latency. -/
  listed :
    (eventsOf left fates).map (·.identifiers) = (eventsOf right others).map (·.identifiers) →
    ∀ (query : UsageEventQuery) (earlier : List UsageEventRecord) (timestamp : Int),
      (listUsageEvents query (earlier ++
        (eventsOf left fates).map (⟨·, timestamp, none, none⟩))).map
          (·.map (·.timeless)) =
        (listUsageEvents query (earlier ++
          (eventsOf right others).map (⟨·, timestamp, none, none⟩))).map
            (·.map (·.timeless))

/-- The transaction that stores the event of a failure takes effect: the session can be
released, the transaction can begin, and its commit is not refused. -/
def eventTakesEffect (left : List Fate) : Bool :=
  (match left.headD .completes with
    | .completes => true
    | .fails _ _ leavesOpen => !leavesOpen
    | .cancels _ _ => false) &&
  (left.tail.headD .completes = .completes) &&
  (left.tail.tail.headD .completes).takesEffect

/-- A failure leaves an event about it. -/
def LeavesEvent
    (call : ChatCall F)
    (exception : RouteException)
    (left : List Fate) : Prop :=
  call.request.stream = false ∧ exception ≠ .httpNotFound ∧ eventTakesEffect left = true

instance (call : ChatCall F) (exception : RouteException) (left : List Fate) :
    Decidable (LeavesEvent call exception left) := by
  unfold LeavesEvent
  infer_instance

/-! ## What a failed request has stored -/

variable {call : ChatCall F} {world : World} {fates left : List Fate}
  {exception : RouteException}

/-- A request that fails has stored no usage event until then, or the commit of its turn
took effect and raised. -/
theorem usageEvents_of_failsWith (failed : FailsWith call fates exception world left) :
    usageEvents world.committed = [] ∨ call.Unconfirmed world := by
  rcases failed_of_attempted failed with clean | lost
  · refine Or.inl ?_
    rw [clean.1.1]
    rfl
  · exact Or.inr lost.2.1

/-! ## What the handlers store -/

/-- Ignoring exceptions leaves the state as it is. -/
private theorem suppressed_world (body : RouteProgram Reply Unit) :
    ((suppressed body) world left).2.1 = (body world left).2.1 := by
  unfold suppressed catching
  rcases body world left with ⟨ending | ending | interruption, after, rest⟩
  · rfl
  · rfl
  · cases interruption with
    | failure exception => rfl
    | cancelled => rfl
    | generatorExit => rfl

/-- Beginning a transaction enters it, or leaves everything as it is. -/
private theorem begin_cases (world : World) :
    (world.inTransaction = false ∧ left.headD .completes = .completes ∧
      (begin : RouteProgram Reply Unit) world left =
        (.next (), { world with inTransaction := true }, left.tail)) ∨
    (¬(world.inTransaction = false ∧ left.headD .completes = .completes) ∧
      ∃ interruption, (begin : RouteProgram Reply Unit) world left =
        (.raised interruption, world, left.tail)) := by
  unfold begin Program.await
  dsimp only
  cases left.headD .completes with
  | completes =>
      by_cases isOpen : world.inTransaction = true
      · exact Or.inr ⟨fun both => absurd isOpen (Bool.eq_false_iff.mp both.1), _,
          congrArg (fun ran : Outcome Reply Interruption Unit × World =>
            (ran.1, ran.2, left.tail)) (if_pos isOpen)⟩
      · exact Or.inl ⟨Bool.eq_false_iff.mpr isOpen, rfl,
          congrArg (fun ran : Outcome Reply Interruption Unit × World =>
            (ran.1, ran.2, left.tail)) (if_neg isOpen)⟩
  | fails exception tookEffect leavesOpen =>
      exact Or.inr ⟨fun both => (nomatch both.2), _, rfl⟩
  | cancels tookEffect leavesOpen => exact Or.inr ⟨fun both => (nomatch both.2), _, rfl⟩

/-- The transaction of a single row. -/
private theorem transaction_add_committed
    (row : StoredRow)
    {world : World}
    (nothingPending : world.pending = []) :
    ((transaction (add row) : RouteProgram Reply Unit) world left).2.1.committed =
      world.committed ++
        if world.inTransaction = false ∧ left.headD .completes = .completes ∧
          (left.tail.headD .completes).takesEffect = true
        then [row] else [] := by
  unfold transaction
  rcases @begin_cases left world with ⟨released, head, entered⟩ | ⟨refused, _, raised⟩
  · rw [within_of_entered entered]
    have added : (add row : RouteProgram Reply Unit)
        { world with inTransaction := true } left.tail =
          (.next (), { world with inTransaction := true, pending := [row] }, left.tail) := by
      unfold add Program.modify
      rw [nothingPending]
      rfl
    rw [added]
    dsimp only
    unfold ensuring commit Program.await Fate.takesEffect
    dsimp only
    cases left.tail.headD .completes with
    | completes => rw [if_pos ⟨released, head, rfl⟩]
    | fails exception tookEffect leavesOpen =>
        cases tookEffect with
        | true =>
            rw [if_pos ⟨released, head, rfl⟩]
            rfl
        | false =>
            rw [if_neg fun all => nomatch all.2.2]
            exact (List.append_nil _).symm
    | cancels tookEffect leavesOpen =>
        cases tookEffect with
        | true =>
            rw [if_pos ⟨released, head, rfl⟩]
            rfl
        | false =>
            rw [if_neg fun all => nomatch all.2.2]
            exact (List.append_nil _).symm
  · have outside : (within begin commit rollback (add row) : RouteProgram Reply Unit)
        world left = _ := andThen_of_raised raised
    rw [outside, if_neg fun all => refused ⟨all.1, all.2.1⟩, List.append_nil]

/-- Storing the event of a failure and returning. -/
private theorem storeEvent_committed
    (row : StoredRow)
    (reply : Reply)
    {world : World}
    (nothingPending : world.pending = []) :
    (andThen (suppressed (transaction (add row)))
      (fun _ => (Program.exit reply : RouteProgram Reply Unit)) world left).2.1.committed =
      world.committed ++
        if world.inTransaction = false ∧ left.headD .completes = .completes ∧
          (left.tail.headD .completes).takesEffect = true
        then [row] else [] := by
  rw [← transaction_add_committed row nothingPending,
    ← suppressed_world (transaction (add row))]
  unfold andThen
  rcases (suppressed (transaction (add row)) : RouteProgram Reply Unit) world left
    with ⟨ending | ending | interruption, after, rest⟩ <;> rfl

omit [FloatOps F] in
/-- Reporting a failure stores its event when the transaction of the event takes
effect, and nothing else. -/
private theorem reportFailure_committed
    (call : ChatCall F)
    (outcome : GenerationOutcome)
    (shown recorded : Str)
    (world : World) :
    (reportFailure call outcome shown recorded world left).2.1.committed =
      world.committed ++
        if eventTakesEffect left = true then [.usageEvent (call.failureEvent recorded)]
        else [] := by
  let noted : World := { world with generationOutcome := some outcome }
  let event : RouteProgram Reply Unit :=
    andThen (suppressed (transaction (add (.usageEvent (call.failureEvent recorded)))))
      fun _ => Program.exit (.response (call.failureResponse shown))
  have unfolded : reportFailure call outcome shown recorded world left =
      andThen (suppressed rollback) (fun _ => event) noted left := rfl
  rw [unfolded]
  cases head : left.headD .completes with
  | completes =>
      have ran : (suppressed rollback : RouteProgram Reply Unit) noted left =
          (.next (), { noted with pending := [], inTransaction := false }, left.tail) := by
        unfold suppressed catching rollback Program.await
        rw [head]
      rw [andThen_of_next ran, storeEvent_committed _ _ rfl]
      simp only [noted, eventTakesEffect, head, Bool.true_and, Bool.and_eq_true,
        decide_eq_true_eq, true_and]
  | fails exception tookEffect leavesOpen =>
      have ran : (suppressed rollback : RouteProgram Reply Unit) noted left =
          (.next (), { noted with pending := [], inTransaction := leavesOpen },
            left.tail) := by
        unfold suppressed catching rollback Program.await
        rw [head]
        rfl
      rw [andThen_of_next ran, storeEvent_committed _ _ rfl]
      simp only [noted, eventTakesEffect, head, Bool.and_eq_true, decide_eq_true_eq,
        Bool.not_eq_true', and_assoc]
  | cancels tookEffect leavesOpen =>
      have ran : (suppressed rollback : RouteProgram Reply Unit) noted left =
          (.raised .cancelled, { noted with pending := [], inTransaction := leavesOpen },
            left.tail) := by
        unfold suppressed catching rollback Program.await
        rw [head]
        rfl
      rw [andThen_of_raised ran]
      simp only [noted, eventTakesEffect, head, Bool.false_and, Bool.false_eq_true,
        if_false, List.append_nil]

/-- The handlers are around what is attempted. -/
private theorem mainPart_eq_catching (call : ChatCall F) :
    mainPart call = catching (attempted call) (handlers call) := by
  unfold mainPart attempted handlers
  split <;> rfl

/-- The handler of a failure stores its event, or nothing. -/
private theorem handled_committed
    (call : ChatCall F)
    (exception : RouteException)
    (world : World) :
    ∃ continuation, handlers call (.failure exception) = some continuation ∧
      (continuation world left).2.1.committed = world.committed ++
        if LeavesEvent call exception left then
          [.usageEvent (call.failureEvent exception.text)]
        else [] := by
  unfold handlers
  by_cases stream : call.request.stream = true
  · have none : ¬LeavesEvent call exception left :=
      fun leaves => Bool.noConfusion (stream.symm.trans leaves.1)
    rw [if_pos stream]
    refine ⟨_, rfl, ?_⟩
    rw [if_neg none, List.append_nil]
    have keeps : Keeps (fun after : World => after.committed = world.committed)
        (andThen (setOutcome .error) fun _ =>
          andThen (yieldFrame (exceptionFrame exception)) fun _ =>
            (Program.exit .streamEnded : RouteProgram Reply Unit)) := by
      apply Keeps.andThen
      · exact Keeps.modify fun _ same => same
      · intro _
        apply Keeps.andThen
        · exact triple_yieldFrame (fun _ same => same) (fun _ same => same)
            fun _ same => same
        · exact fun _ => Keeps.exit _
    have start : world.committed = world.committed := rfl
    exact keeps.after start left
  · rw [if_neg stream]
    have atOnce := Bool.eq_false_iff.mpr stream
    have reports : ∀ outcome shown, exception ≠ .httpNotFound →
        (reportFailure call outcome shown exception.text world left).2.1.committed =
          world.committed ++ if LeavesEvent call exception left then
            [.usageEvent (call.failureEvent exception.text)] else [] := by
      intro outcome shown another
      rw [reportFailure_committed]
      congr 1
      by_cases acts : eventTakesEffect left = true
      · rw [if_pos acts, if_pos ⟨atOnce, another, acts⟩]
      · rw [if_neg acts, if_neg fun leaves => acts leaves.2.2]
    cases exception with
    | httpNotFound =>
        refine ⟨_, rfl, ?_⟩
        rw [if_neg fun leaves => leaves.2.1 rfl]
        exact (List.append_nil _).symm
    | providerTimeout message => exact ⟨_, rfl, reports _ _ nofun⟩
    | providerExecution message => exact ⟨_, rfl, reports _ _ nofun⟩
    | providerError error => exact ⟨_, rfl, reports _ _ nofun⟩
    | other name message => exact ⟨_, rfl, reports _ _ nofun⟩

/-- The usage events of a request that fails: those durable until then, and the one about
the failure when it leaves one. -/
theorem eventsOf_of_failsWith (failed : FailsWith call fates exception world left) :
    eventsOf call fates = usageEvents world.committed ++
      if LeavesEvent call exception left then [call.failureEvent exception.text]
      else [] := by
  obtain ⟨continuation, chosen, stored⟩ := handled_committed call exception world
  unfold eventsOf
  rw [chat_committed, mainPart_eq_catching, catching_of_caught failed chosen, stored]
  unfold usageEvents
  rw [List.filterMap_append]
  split <;> rfl

/-! ## What the event tells -/

omit [FloatOps F] in
/-- The events of two failures are alike exactly when the recorded texts are. -/
private theorem failureEvent_anonymous_iff
    {one another : ChatCall F}
    (differ : DifferInContent one another)
    (text other : Str) :
    (one.failureEvent text).anonymous = (another.failureEvent other).anonymous ↔
      sanitizeErrorMessage text one.settings.maxErrorMessageChars =
        sanitizeErrorMessage other one.settings.maxErrorMessageChars := by
  unfold ChatCall.failureEvent UsageEventRow.anonymous
  rw [differ.settings, differ.errorProviderName]
  constructor
  · intro same
    exact Option.some.inj (congrArg UsageEventRow.errorMessage same)
  · intro same
    rw [same]

/-- The handlers fare alike where the same happens at their awaits. -/
private theorem eventTakesEffect_of_alike
    {others : List Fate}
    (alike : List.Forall₂ Fate.Alike left others) :
    eventTakesEffect left = eventTakesEffect others := by
  have heads : ∀ {some more : List Fate}, List.Forall₂ Fate.Alike some more →
      Fate.Alike (some.headD .completes) (more.headD .completes) := by
    intro some more same
    cases same with
    | nil => exact .completes
    | cons first rest => exact first
  have tails : ∀ {some more : List Fate}, List.Forall₂ Fate.Alike some more →
      List.Forall₂ Fate.Alike some.tail more.tail := by
    intro some more same
    cases same with
    | nil => exact .nil
    | cons first rest => exact rest
  have released := heads alike
  have begun := heads (tails alike)
  have stored := heads (tails (tails alike))
  unfold eventTakesEffect
  generalize left.headD .completes = first, others.headD .completes = first' at released
  generalize left.tail.headD .completes = second,
    others.tail.headD .completes = second' at begun
  generalize left.tail.tail.headD .completes = third,
    others.tail.tail.headD .completes = third' at stored
  cases released <;> cases begun <;> cases stored <;> rfl

omit [FloatOps F] in
/-- Failures with exceptions of one class leave an event alike. -/
private theorem leavesEvent_iff_of_alike
    {one another : ChatCall F}
    {others : List Fate}
    {other : RouteException}
    (differ : DifferInContent one another)
    (sameType : exception.SameType other)
    (alike : List.Forall₂ Fate.Alike left others) :
    LeavesEvent one exception left ↔ LeavesEvent another other others := by
  unfold LeavesEvent
  rw [differ.stream, eventTakesEffect_of_alike alike]
  cases sameType with
  | httpNotFound => exact Iff.rfl
  | providerError left right => simp only [ne_eq, reduceCtorEq, not_false_eq_true]
  | providerTimeout left right => simp only [ne_eq, reduceCtorEq, not_false_eq_true]
  | providerExecution left right => simp only [ne_eq, reduceCtorEq, not_false_eq_true]
  | other name left right => simp only [ne_eq, reduceCtorEq, not_false_eq_true]

/-- Listings of events that are alike up to latency are alike up to latency. -/
private theorem listed_timeless
    {events others : List UsageEventRecord}
    (same : events.map (·.timeless) = others.map (·.timeless))
    (query : UsageEventQuery) :
    (listUsageEvents query events).map (·.map (·.timeless)) =
      (listUsageEvents query others).map (·.map (·.timeless)) := by
  have commutes := @listUsageEvents_map query UsageEventRecord.timeless
    (fun _ => rfl) (fun _ _ => Iff.rfl)
  rw [← commutes, ← commutes, same]

/-- Identifiers given back to an event that has none. -/
private def identified
    (event : UsageEventRow)
    (identifiers : Uuid × Uuid × Option Uuid) : UsageEventRow :=
  { event with
    id := identifiers.1
    requestId := identifiers.2.1
    messageId := identifiers.2.2 }

/-- Events alike up to identifiers and latency, with the same identifiers, are alike up to
latency. -/
private theorem timeless_of_anonymous
    {events others : List UsageEventRow}
    (same : events.map (·.anonymous) = others.map (·.anonymous))
    (named : events.map (·.identifiers) = others.map (·.identifiers)) :
    events.map (·.timeless) = others.map (·.timeless) := by
  have restored : ∀ events : List UsageEventRow, events.map (·.timeless) =
      List.zipWith identified (events.map (·.anonymous)) (events.map (·.identifiers)) := by
    intro events
    rw [List.zipWith_map, List.zipWith_self]
    rfl
  rw [restored, restored, same, named]

/-- Events that agree in the database agree in every listing. -/
private theorem telemetryAgrees_iff_rows
    {one another : ChatCall F}
    {fates others : List Fate} :
    TelemetryAgrees one another fates others ↔
      (eventsOf one fates).map (·.anonymous) = (eventsOf another others).map (·.anonymous) := by
  refine ⟨fun agrees => agrees.rows, fun rows => ⟨rows, ?_⟩⟩
  intro named query earlier timestamp
  apply listed_timeless
  have timeless := congrArg (List.map fun row : UsageEventRow =>
    (⟨row, timestamp, none, none⟩ : UsageEventRecord)) (timeless_of_anonymous rows named)
  rw [List.map_map, List.map_map] at timeless
  rw [List.map_append, List.map_append, List.map_map, List.map_map]
  exact congrArg _ timeless

/-- Two requests that differ only in content and fail with exceptions of one class,
where the same happens at the awaits of their handlers: the events they leave do not
tell them apart exactly when the events durable until then do not, and either no event
about the failure is left or the texts of the exceptions are the same once stripped and
cut. -/
theorem telemetryAgrees_iff
    {one another : ChatCall F}
    {fates others left right : List Fate}
    {world after : World}
    {exception other : RouteException}
    (differ : DifferInContent one another)
    (oneFails : FailsWith one fates exception world left)
    (anotherFails : FailsWith another others other after right)
    (sameType : exception.SameType other)
    (alike : List.Forall₂ Fate.Alike left right) :
    TelemetryAgrees one another fates others ↔
      (usageEvents world.committed).map (·.anonymous) =
          (usageEvents after.committed).map (·.anonymous) ∧
        (¬LeavesEvent one exception left ∨
          sanitizeErrorMessage exception.text one.settings.maxErrorMessageChars =
            sanitizeErrorMessage other.text one.settings.maxErrorMessageChars) := by
  have sameLeaves := leavesEvent_iff_of_alike differ sameType alike
  rw [telemetryAgrees_iff_rows, eventsOf_of_failsWith oneFails,
    eventsOf_of_failsWith anotherFails, List.map_append, List.map_append]
  by_cases leaves : LeavesEvent one exception left
  · rw [if_pos leaves, if_pos (sameLeaves.mp leaves),
      ← failureEvent_anonymous_iff differ exception.text other.text]
    constructor
    · intro same
      have parts := List.append_inj' same rfl
      exact ⟨parts.1, Or.inr (List.head_eq_of_cons_eq parts.2)⟩
    · rintro ⟨durable, none | same⟩
      · exact absurd leaves none
      · exact congrArg₂ (· ++ ·) durable (congrArg (fun event => [event]) same)
  · rw [if_neg leaves, if_neg fun leaves' => leaves (sameLeaves.mpr leaves'),
      List.map_nil, List.append_nil, List.append_nil]
    exact ⟨fun same => ⟨same, Or.inl leaves⟩, fun both => both.1⟩

/-- The request with another message, and nothing else changed. -/
def withMessage (call : ChatCall F) (message : Str) : ChatCall F :=
  { call with request := { call.request with message := message } }

/-- A first message, answered at once. -/
def messageCall (message : Str) : ChatCall Empty :=
  withMessage (helloCall "stub-1".toList) message

/-- How the database refuses a message: the text has the parameters of the statement
in it. -/
def refusal (message : Str) : RouteException :=
  .other "DBAPIError".toList
    ("invalid byte sequence [parameters: (".toList ++ message ++ ")]".toList)

/-- The insert of the message is refused, everything else completes. -/
def refusedFates (message : Str) : List Fate :=
  [.completes, .completes, .fails (refusal message) false false]

/-- A message that is refused fails the request, which has stored nothing. -/
theorem failsWith_refusal (message : Str) :
    FailsWith (messageCall message) (refusedFates message) (refusal message) {} [] :=
  rfl

/-- Messages are content. -/
theorem differInContent_messages (message other : Str) :
    DifferInContent (messageCall message) (messageCall other) :=
  ⟨rfl, rfl, rfl⟩

/-- A refused message that is as long as the stored text may be, but for its end. -/
def longMessage (ending : Str) : Str :=
  List.replicate (helloCall "stub-1".toList).settings.maxErrorMessageChars.toNat 'a' ++ ending

/-- Two refused messages are told apart by a digit, unless the digit is cut off. -/
theorem telemetryAgrees_iff_refused :
    ¬TelemetryAgrees (messageCall "pin 1\x00".toList) (messageCall "pin 2\x00".toList)
        (refusedFates "pin 1\x00".toList) (refusedFates "pin 2\x00".toList) ∧
      TelemetryAgrees (messageCall (longMessage "1\x00".toList))
        (messageCall (longMessage "2\x00".toList))
        (refusedFates (longMessage "1\x00".toList))
        (refusedFates (longMessage "2\x00".toList)) := by
  constructor
  · rw [telemetryAgrees_iff (differInContent_messages _ _) (failsWith_refusal _)
      (failsWith_refusal _) (.other _ _ _) .nil]
    decide +kernel
  · rw [telemetryAgrees_iff (differInContent_messages _ _) (failsWith_refusal _)
      (failsWith_refusal _) (.other _ _ _) .nil]
    decide +kernel

/-- Two requests with different messages that fail at the same await with exceptions of
one class leave different events: the event quotes the message. -/
theorem event_quotes_message :
    ¬∀ (call : ChatCall Empty) (message another : Str)
        (fates others left right : List Fate) (world after : World)
        (exception other : RouteException),
      List.Forall₂ Fate.Alike fates others →
      FailsWith (withMessage call message) fates exception world left →
      FailsWith (withMessage call another) others other after right →
      left.length = right.length →
      exception.SameType other →
      TelemetryAgrees (withMessage call message) (withMessage call another) fates
        others := by
  intro claimed
  have sameType : ∀ message other, (refusal message).SameType (refusal other) :=
    fun _ _ => .other _ _ _
  have agrees := claimed (helloCall "stub-1".toList) "pin 1\x00".toList
    "pin 2\x00".toList _ _ [] [] {} {} _ _
    (.cons .completes (.cons .completes (.cons (.fails (sameType _ _) false false) .nil)))
    (failsWith_refusal _) (failsWith_refusal _) rfl (sameType _ _)
  have differ : (eventsOf (messageCall "pin 1\x00".toList)
      (refusedFates "pin 1\x00".toList)).map (·.anonymous) ≠
        (eventsOf (messageCall "pin 2\x00".toList)
          (refusedFates "pin 2\x00".toList)).map (·.anonymous) := by
    decide +kernel
  exact differ agrees.rows

end ChatRoute
end ChatPlatform
