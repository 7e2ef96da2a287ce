import ChatPlatform.Tenancy.System

/-!
# Every tenant writes its own rows

Whatever the order of the steps, a request commits rows of its own tenant only, into
a conversation of that tenant, and writes only keys of that tenant to the response
cache.
-/

namespace ChatPlatform
namespace Tenancy

/-! ## The invariant -/

/-- The conversation a request writes to is one of its tenant: created by the request
or committed before. -/
def Flight.Homed (flight : Flight) (tenantId : Str) (database : Database) : Prop :=
  flight.created = some ⟨flight.conversationId, tenantId⟩ ∨
    ⟨flight.conversationId, tenantId⟩ ∈ database.conversations

/-- What holds of a request in flight. -/
structure Flight.Confined
    (flight : Flight)
    (tenantId : Str)
    (database : Database)
    (nextSequence : Int) : Prop where
  /-- The operations left are the end of the plan. -/
  planned : flight.rest <:+ plan flight.request
  /-- A created conversation is the tenant's. -/
  created : ∀ row ∈ flight.created, row.tenantId = tenantId
  /-- After the check there is a conversation to write to. -/
  opened : .openConversation ∉ flight.rest → flight.Homed tenantId database
  /-- Inserted messages are the tenant's, in that conversation and numbered. -/
  pending : ∀ row ∈ flight.pending, row.tenantId = tenantId ∧
    row.conversationId = flight.conversationId ∧ row.sequence < nextSequence

/-- Every message has a conversation, and it is of the same tenant. -/
def TenantsMatch (database : Database) : Prop :=
  ∀ row ∈ database.messages,
    (∃ conversation ∈ database.conversations, conversation.id = row.conversationId) ∧
      ∀ conversation ∈ database.conversations,
        conversation.id = row.conversationId → conversation.tenantId = row.tenantId

/-- What holds of every state. -/
structure State.Consistent (state : State) : Prop where
  /-- The conversations have different identifiers. -/
  keys : (state.database.conversations.map (·.id)).Nodup
  /-- Every message is stored in a conversation of its tenant and numbered. -/
  stored : ∀ row ∈ state.database.messages,
    ⟨row.conversationId, row.tenantId⟩ ∈ state.database.conversations ∧
      row.sequence < state.nextSequence
  /-- The requests in flight are confined. -/
  inFlight : ∀ id flight, state.flights id = some flight →
    flight.Confined id.tenantId state.database state.nextSequence

/-- The empty state is consistent. -/
theorem consistent_empty : State.Consistent {} where
  keys := List.nodup_nil
  stored := by simp
  inFlight := by simp

/-- In a consistent state every message has the tenant of its conversation. -/
theorem State.Consistent.tenantsMatch
    {state : State}
    (consistent : state.Consistent) : TenantsMatch state.database := by
  intro row present
  have home := (consistent.stored row present).1
  refine ⟨⟨_, home, rfl⟩, ?_⟩
  intro conversation held same
  have equal := List.inj_on_of_nodup_map consistent.keys held home same
  rw [equal]

/-- Confinement survives as long as nothing committed is lost. -/
theorem Flight.Confined.mono
    {flight : Flight}
    {tenantId : Str}
    {database later : Database}
    {nextSequence laterSequence : Int}
    (confined : flight.Confined tenantId database nextSequence)
    (kept : database.conversations ⊆ later.conversations)
    (grows : nextSequence ≤ laterSequence) :
    flight.Confined tenantId later laterSequence where
  planned := confined.planned
  created := confined.created
  opened := fun opened => (confined.opened opened).imp_right fun home => kept home
  pending := fun row present => by
    obtain ⟨tenant, conversation, numbered⟩ := confined.pending row present
    exact ⟨tenant, conversation, by omega⟩

/-! ## The plan -/

/-- A request that takes an operation had it next. -/
theorem Flight.take_eq_some
    {before flight : Flight}
    {operation : Operation}
    (taken : before.take operation = some flight) :
    before.rest = operation :: flight.rest ∧
      flight = { before with rest := flight.rest } := by
  unfold Flight.take at taken
  split at taken
  · rename_i next
    cases taken
    obtain ⟨rest, shape⟩ := List.head?_eq_some_iff.mp next
    exact ⟨by simp [shape], rfl⟩
  · cases taken

/-- The conversation is opened before anything is looked up, inserted or committed. -/
theorem opened_of_suffix_plan
    {request : ChatRequest}
    {operation : Operation}
    {rest : List Operation}
    (planned : operation :: rest <:+ plan request)
    (later : operation = .consultCache ∨ operation = .commit) :
    .openConversation ∉ rest := by
  have table : ∀ suffix ∈ (plan request).tails,
      suffix.head? = some .consultCache ∨ suffix.head? = some .commit →
        .openConversation ∉ suffix.tail := by
    unfold plan
    cases request.stream <;> decide
  apply table _ ((List.mem_tails _ _).mpr planned)
  rcases later with rfl | rfl
  · exact Or.inl rfl
  · exact Or.inr rfl

/-- An operation other than the check leaves a confined request confined. -/
theorem Flight.Confined.take
    {before flight : Flight}
    {tenantId : Str}
    {database : Database}
    {nextSequence : Int}
    {operation : Operation}
    (confined : before.Confined tenantId database nextSequence)
    (taken : before.take operation = some flight)
    (other : operation ≠ .openConversation) :
    flight.Confined tenantId database nextSequence := by
  obtain ⟨next, same⟩ := Flight.take_eq_some taken
  have planned := confined.planned
  have opened := confined.opened
  rw [next] at planned opened
  rw [same]
  exact
    { planned := (List.suffix_cons operation flight.rest).trans planned
      created := confined.created
      opened := fun absent => opened (by simp [other.symm, absent])
      pending := confined.pending }

/-! ## What a step may do -/

/-- What an effect may do to the rows, the cache and its request. -/
structure Effect.Confined
    {F K : Type}
    (effect : Effect F)
    (deployment : Deployment K)
    (id : FlightId)
    (state : State) : Prop where
  /-- At most one conversation is committed. -/
  single : (effect.committed.conversations.map (·.id)).Nodup
  /-- It is the tenant's and new. -/
  conversations : ∀ row ∈ effect.committed.conversations,
    row.tenantId = id.tenantId ∧
      ∀ other ∈ state.database.conversations, other.id ≠ row.id
  /-- Committed messages are the tenant's, in a conversation of the tenant. -/
  messages : ∀ row ∈ effect.committed.messages,
    row.tenantId = id.tenantId ∧ row.sequence < state.nextSequence ∧
      ⟨row.conversationId, id.tenantId⟩ ∈
        (effect.apply id state).database.conversations
  /-- The cache key is the tenant's. -/
  cacheWrite : ∀ write ∈ effect.cacheWrite, ∃ messages,
    write.1 = ResponseCache.cacheKey deployment.sha256 deployment.cacheSettings
      messages id.tenantId
  /-- The request stays confined. -/
  flight : ∀ flight ∈ effect.flight, flight.Confined id.tenantId
    (effect.apply id state).database (effect.apply id state).nextSequence

/-- An effect that commits nothing is confined when its request is. -/
private theorem Effect.confined_of_flight
    {F K : Type}
    {effect : Effect F}
    {deployment : Deployment K}
    {id : FlightId}
    {state : State}
    (nothing : effect.committed = {})
    (cacheWrite : ∀ write ∈ effect.cacheWrite, ∃ messages,
      write.1 = ResponseCache.cacheKey deployment.sha256 deployment.cacheSettings
        messages id.tenantId)
    (confined : ∀ flight ∈ effect.flight, flight.Confined id.tenantId state.database
      (effect.apply id state).nextSequence) :
    effect.Confined deployment id state where
  single := by simp [nothing]
  conversations := by simp [nothing]
  messages := by simp [nothing]
  cacheWrite
  flight := fun flight present =>
    (confined flight present).mono (by simp [Effect.apply]) (Int.le_refl _)

/-- A step of the plan is taken by a request in flight. -/
theorem exists_taken
    {α : Type}
    {state : State}
    {id : FlightId}
    {operation : Operation}
    {next : Flight → Option α}
    {result : α}
    (done : (do
      let flight ← (← state.flights id).take operation
      next flight) = some result) :
    ∃ before flight, state.flights id = some before ∧
      before.take operation = some flight ∧ next flight = some result := by
  obtain ⟨before, present, later⟩ := Option.bind_eq_some_iff.mp done
  obtain ⟨flight, taken, finished⟩ := Option.bind_eq_some_iff.mp later
  exact ⟨before, flight, present, taken, finished⟩

/-- An inserted message is the tenant's. -/
private theorem Flight.Confined.insert
    {flight : Flight}
    {tenantId : Str}
    {database : Database}
    {nextSequence : Int}
    (confined : flight.Confined tenantId database nextSequence)
    (messageId : Uuid)
    (role : Role)
    (content : Str) :
    (flight.insert tenantId messageId nextSequence role content).Confined tenantId
      database (nextSequence + 1) where
  planned := confined.planned
  created := confined.created
  opened := confined.opened
  pending := fun row present => by
    rcases List.mem_append.mp present with before | inserted
    · obtain ⟨tenant, conversation, numbered⟩ := confined.pending row before
      exact ⟨tenant, conversation, by omega⟩
    · rw [List.mem_singleton.mp inserted]
      exact ⟨rfl, rfl, Int.lt_add_one_of_le (Int.le_refl _)⟩

/-! ## What a confined step keeps -/

section Confined

variable {F K : Type} {result : Effect F} {deployment : Deployment K} {id : FlightId}
  {state : State}

/-- The counter never goes back. -/
theorem Effect.nextSequence_le
    (result : Effect F)
    (id : FlightId)
    (state : State) : state.nextSequence ≤ (result.apply id state).nextSequence := by
  simp only [Effect.apply]
  split <;> omega

/-- A confined effect keeps the state consistent. -/
theorem Effect.Confined.consistent
    (confined : result.Confined deployment id state)
    (consistent : state.Consistent) : (result.apply id state).Consistent where
  keys := by
    simp only [Effect.apply, List.map_append]
    apply List.nodup_append.mpr
    refine ⟨consistent.keys, confined.single, ?_⟩
    intro key old other new same
    obtain ⟨conversation, held, rfl⟩ := List.mem_map.mp old
    obtain ⟨row, committed, rfl⟩ := List.mem_map.mp new
    exact (confined.conversations row committed).2 conversation held same
  stored := fun row present => by
    have grows := result.nextSequence_le id state
    rcases List.mem_append.mp present with before | committed
    · obtain ⟨home, numbered⟩ := consistent.stored row before
      exact ⟨List.mem_append_left _ home, by omega⟩
    · obtain ⟨tenant, numbered, home⟩ := confined.messages row committed
      rw [tenant]
      exact ⟨home, by omega⟩
  inFlight := fun other flight present => by
    have grows := result.nextSequence_le id state
    by_cases same : other = id
    · rw [same] at present ⊢
      simp only [Effect.apply, Function.update_self] at present
      exact confined.flight flight present
    · simp only [Effect.apply, Function.update_of_ne same] at present
      exact (consistent.inFlight other flight present).mono
        (List.subset_append_left _ _) grows

/-- Two states show a tenant the same. -/
structure SameView
    (deployment : Deployment K)
    (tenantId : Str)
    (state other : State) : Prop where
  /-- The conversations of the tenant. -/
  conversations : ∀ conversationId,
    other.database.getConversation conversationId tenantId =
      state.database.getConversation conversationId tenantId
  /-- The messages of the tenant. -/
  messages : ∀ conversationId, other.database.messagesOf conversationId tenantId =
    state.database.messagesOf conversationId tenantId
  /-- The cached answers of the tenant. -/
  cache : ∀ messages, other.cache (ResponseCache.cacheKey deployment.sha256
      deployment.cacheSettings messages tenantId) =
    state.cache (ResponseCache.cacheKey deployment.sha256 deployment.cacheSettings
      messages tenantId)
  /-- The requests of the tenant. -/
  flights : ∀ id : FlightId, id.tenantId = tenantId →
    other.flights id = state.flights id

/-- A confined effect is not seen by another tenant. -/
theorem Effect.Confined.unseen
    (confined : result.Confined deployment id state)
    {tenantId : Str}
    (foreign : id.tenantId ≠ tenantId) :
    SameView deployment tenantId state (result.apply id state) where
  conversations := fun conversationId => by
    apply Database.getConversation_append_foreign
    intro row committed
    rw [(confined.conversations row committed).1]
    exact foreign
  messages := fun conversationId => by
    have nothing : Database.messagesOf ⟨[], result.committed.messages⟩ conversationId
        tenantId = [] := by
      apply List.filter_eq_nil_iff.mpr
      intro row committed
      have tenant := (confined.messages row committed).1
      simp [tenant, foreign]
    unfold Database.messagesOf at nothing ⊢
    simp only [Effect.apply, List.filter_append]
    rw [nothing, List.append_nil]
  cache := fun messages => by
    cases written : result.cacheWrite with
    | none => simp only [Effect.apply, written]
    | some write =>
        obtain ⟨theirs, same⟩ := confined.cacheWrite write written
        simp only [Effect.apply, written]
        apply Function.update_of_ne
        intro equal
        rw [← equal] at same
        exact foreign (ResponseCache.tenant_eq_of_cacheKey_eq same).symm
  flights := fun other same => by
    apply Function.update_of_ne
    rintro rfl
    exact foreign same

end Confined

/-! ## Every step is confined -/

variable {F : Type} [FloatOps F] {K : Type} [Field K] [LinearOrder K]

/-- Opening a conversation gives the request a home. -/
private theorem openConversation_confined
    {deployment : Deployment K}
    {state : State}
    {id : FlightId}
    (consistent : state.Consistent)
    {result : Effect F}
    (done : effect F deployment state id .openConversation = some result) :
    result.Confined deployment id state := by
  obtain ⟨before, flight, present, taken, finished⟩ := exists_taken done
  have confined := consistent.inFlight id before present
  obtain ⟨next, same⟩ := Flight.take_eq_some taken
  have planned : flight.rest <:+ plan flight.request := by
    have planned := confined.planned
    rw [next] at planned
    rw [same]
    exact (List.suffix_cons _ _).trans planned
  have pending : ∀ row ∈ flight.pending, row.tenantId = id.tenantId ∧
      row.conversationId = flight.conversationId ∧
        row.sequence < state.nextSequence := by
    rw [same]
    exact confined.pending
  have created : ∀ row ∈ flight.created, row.tenantId = id.tenantId := by
    rw [same]
    exact confined.created
  cases given : flight.request.conversationId with
  | none =>
      simp only [given] at finished
      cases finished
      apply Effect.confined_of_flight rfl (by simp)
      intro opened isOpened
      cases isOpened
      have home : (some ⟨flight.newConversationId, id.tenantId⟩ : Option ConversationRow) =
          some ⟨flight.conversationId, id.tenantId⟩ := by
        simp [Flight.conversationId, given]
      exact
        { planned
          created := by simp
          opened := fun _ => Or.inl home
          pending }
  | some conversationId =>
      simp only [given] at finished
      have home : flight.conversationId = conversationId := by
        simp [Flight.conversationId, given]
      cases owned : state.database.getConversation conversationId id.tenantId with
      | none =>
          simp only [owned] at finished
          cases finished
          exact Effect.confined_of_flight rfl (by simp) (by simp)
      | some conversation =>
          simp only [owned] at finished
          cases finished
          apply Effect.confined_of_flight rfl (by simp)
          intro opened isOpened
          cases isOpened
          obtain ⟨held, isGiven, isOwned⟩ := Database.getConversation_spec owned
          refine { planned, created, opened := fun _ => Or.inr ?_, pending }
          rw [home, ← isGiven, ← isOwned]
          exact held

/-- What is committed is the tenant's. -/
private theorem commit_confined
    {deployment : Deployment K}
    {state : State}
    {id : FlightId}
    (consistent : state.Consistent)
    {result : Effect F}
    (done : effect F deployment state id .commit = some result) :
    result.Confined deployment id state := by
  obtain ⟨before, flight, present, taken, finished⟩ := exists_taken done
  have confinedBefore := consistent.inFlight id before present
  have confined := confinedBefore.take taken (by simp)
  obtain ⟨next, -⟩ := Flight.take_eq_some taken
  have planned := confinedBefore.planned
  rw [next] at planned
  have sameRequest : before.request = flight.request := by
    rw [(Flight.take_eq_some taken).2]
  rw [sameRequest] at planned
  have opened := opened_of_suffix_plan planned (Or.inr rfl)
  split at finished
  · rename_i free
    cases finished
    have home : ⟨flight.conversationId, id.tenantId⟩ ∈
        state.database.conversations ++ flight.created.toList := by
      rcases confined.opened opened with isCreated | held
      · simp [isCreated]
      · exact List.mem_append_left _ held
    exact
      { single := by cases flight.created <;> simp
        conversations := fun row isCreated => by
          have isCreated := Option.mem_toList.mp isCreated
          refine ⟨confined.created row isCreated, ?_⟩
          intro other held
          unfold Flight.keyFree at free
          rw [Option.mem_def.mp isCreated] at free
          simpa using List.all_eq_true.mp free other held
        messages := fun row isPending => by
          obtain ⟨tenant, conversation, numbered⟩ := confined.pending row isPending
          refine ⟨tenant, numbered, ?_⟩
          rw [conversation]
          exact home
        cacheWrite := by simp
        flight := fun later isLater => by
          cases isLater
          exact
            { planned := confined.planned
              created := by simp
              opened := fun _ => Or.inr home
              pending := by simp } }
  · cases finished

/-- Every step is confined to its tenant. -/
theorem effect_confined
    {deployment : Deployment K}
    {state : State}
    {id : FlightId}
    {event : Event}
    (consistent : state.Consistent)
    {result : Effect F}
    (done : effect F deployment state id event = some result) :
    result.Confined deployment id state := by
  cases event with
  | arrive requestId request newConversationId =>
      simp only [effect] at done
      split at done
      · cases done
      · cases done
        apply Effect.confined_of_flight rfl (by simp)
        intro flight isNew
        cases isNew
        exact
          { planned := List.suffix_rfl
            created := by simp
            opened := fun absent => absurd (by unfold plan; split <;> simp) absent
            pending := by simp }
  | read fault rag =>
      obtain ⟨before, flight, present, taken, finished⟩ := exists_taken done
      have confined := (consistent.inFlight id before present).take taken (by simp)
      cases finished
      apply Effect.confined_of_flight rfl (by simp)
      intro later isLater
      cases isLater
      exact ⟨confined.planned, confined.created, confined.opened, confined.pending⟩
  | openConversation => exact openConversation_confined consistent done
  | addUser messageId =>
      obtain ⟨before, flight, present, taken, finished⟩ := exists_taken done
      have confined := (consistent.inFlight id before present).take taken (by simp)
      cases finished
      apply Effect.confined_of_flight rfl (by simp)
      intro later isLater
      cases isLater
      exact confined.insert messageId .user flight.request.message
  | consultCache reachable =>
      obtain ⟨before, flight, present, taken, finished⟩ := exists_taken done
      have confinedBefore := consistent.inFlight id before present
      have confined := confinedBefore.take taken (by simp)
      split at finished
      · cases finished
        apply Effect.confined_of_flight rfl (by simp)
        intro later isLater
        cases isLater
        exact confined
      · cases finished
        apply Effect.confined_of_flight rfl (by simp)
        intro later isLater
        cases isLater
        obtain ⟨next, same⟩ := Flight.take_eq_some taken
        have planned := confinedBefore.planned
        rw [next, show before.request = flight.request by rw [same]] at planned
        have opened := confined.opened (opened_of_suffix_plan planned (Or.inl rfl))
        exact
          { planned := (List.tail_suffix flight.rest).trans confined.planned
            created := confined.created
            opened := fun _ => opened
            pending := confined.pending }
  | generate answered =>
      obtain ⟨before, flight, present, taken, finished⟩ := exists_taken done
      have confined := (consistent.inFlight id before present).take taken (by simp)
      cases finished
      apply Effect.confined_of_flight rfl (by simp)
      intro later isLater
      cases isLater
      exact ⟨confined.planned, confined.created, confined.opened, confined.pending⟩
  | addAssistant messageId =>
      obtain ⟨before, flight, present, taken, finished⟩ := exists_taken done
      have confined := (consistent.inFlight id before present).take taken (by simp)
      cases finished
      apply Effect.confined_of_flight rfl (by simp)
      intro later isLater
      cases isLater
      exact confined.insert messageId .assistant _
  | commit => exact commit_confined consistent done
  | keepAnswer reachable =>
      obtain ⟨before, flight, present, taken, finished⟩ := exists_taken done
      cases finished
      refine Effect.confined_of_flight rfl ?_ (by simp)
      intro write written
      cases reachable with
      | false => simp at written
      | true =>
          obtain ⟨kept, -, same⟩ := Option.map_eq_some_iff.mp written
          exact ⟨flight.messages, by rw [← same]⟩
  | abort =>
      obtain ⟨before, present, finished⟩ := Option.bind_eq_some_iff.mp done
      cases finished
      exact Effect.confined_of_flight rfl (by simp) (by simp)
  | expire messages =>
      cases done
      refine Effect.confined_of_flight rfl ?_ ?_
      · intro write written
        cases written
        exact ⟨messages, rfl⟩
      · intro flight present
        exact consistent.inFlight id flight present

/-- Every step keeps the state consistent. -/
theorem step_consistent
    {deployment : Deployment K}
    {state after : State}
    {action : Action}
    {observation : Observation F}
    (consistent : state.Consistent)
    (moves : step F deployment state action = some (after, observation)) :
    after.Consistent := by
  obtain ⟨result, done, same⟩ := Option.map_eq_some_iff.mp moves
  cases same
  exact (effect_confined consistent done).consistent consistent

end Tenancy
end ChatPlatform
