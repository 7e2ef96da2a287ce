import ChatPlatform.Tenancy.Confinement

/-!
# Alike states

Two states are alike for a tenant when they show it the same, up to an
order-preserving change of the numbers of its rows. A step of another tenant keeps
two states alike on either side, and a step of the tenant keeps them alike when both
take it.

The counter of the message rows reaches a tenant in two places: the numbers of its
own rows, and the identifiers of the evidence, whose digits count towards the cap.
Apart from them an observation is the same under other numbers.
-/

namespace ChatPlatform
namespace Tenancy

/-! ## Two observations of one tenant -/

section Observations

variable {F : Type}

/-- The observation without the numbers of rows and without the memory channel. -/
def Observation.withoutNumbers : Observation F → Observation F
  | .prepared input =>
      .prepared { input with
        metadata := (input.metadata.bind (Dict.get · "rag".toList)).map fun documents =>
          [("rag".toList, documents)] }
  | .numbered _ => .silent
  | .silent => .silent
  | .refused => .refused
  | .hit content => .hit content

/-- The texts of the evidence in the memory channel. -/
def Observation.evidence : Observation F → List (Value F)
  | .prepared input =>
      ((validatedMemoryEvents input.metadata).getD []).filterMap
        (Dict.get · "content".toList)
  | _ => []

/-- The number of an inserted row, if the observation is one. -/
def Observation.number : Observation F → Option Int
  | .numbered sequence => some sequence
  | _ => none

/-- Observations that only the numbers of rows tell apart. -/
structure Observation.SameButNumbers (left right : Observation F) : Prop where
  /-- Everything else is equal. -/
  rest : left.withoutNumbers = right.withoutNumbers
  /-- The texts of one evidence are the first texts of the other. -/
  evidence : left.evidence <+: right.evidence ∨ right.evidence <+: left.evidence

/-- The messages are part of everything else. -/
theorem Observation.SameButNumbers.messages
    {left right : ProviderInput F}
    (same : (Observation.prepared left).SameButNumbers (.prepared right)) :
    left.messages = right.messages := by
  have rest := same.rest
  unfold withoutNumbers at rest
  injection rest with inputs
  injection inputs

/-- An observation under other numbers. -/
structure Observation.Alike
    (change : Int → Int)
    (left right : Observation F) : Prop where
  /-- Only the numbers tell them apart. -/
  sameButNumbers : left.SameButNumbers right
  /-- Unchanged numbers do not. -/
  equal : (∀ number, change number = number) → left = right

/-- An observation without numbers is alike to itself. -/
theorem Observation.Alike.refl (change : Int → Int) (observation : Observation F) :
    observation.Alike change observation :=
  ⟨⟨rfl, Or.inl List.prefix_rfl⟩, fun _ => rfl⟩

/-- The number of a row is alike to the changed number. -/
theorem Observation.Alike.numbered (change : Int → Int) (sequence : Int) :
    (Observation.numbered (F := F) sequence).Alike change (.numbered (change sequence)) :=
  ⟨⟨rfl, Or.inl List.prefix_rfl⟩, fun unchanged => by rw [unchanged]⟩

/-! ## The provider request -/

variable [FloatOps F]

/-- The evidence of a provider request is what the cap left of it. -/
private theorem evidence_preparedInput
    (settings : ChatSettings)
    (requestId : Uuid)
    (request : ChatRequest)
    (memory : ChatMemoryContext)
    (rag : RagGenerationContext) :
    (Observation.prepared (preparedInput F settings requestId request memory
        rag)).evidence =
      (boundedContexts F settings request memory rag).1.retrievedEvents.map
        fun event => .str event.content := by
  unfold Observation.evidence preparedInput providerInput
  dsimp only
  rw [validatedMemoryEvents_mergedMetadata]
  have content : ∀ event : RetrievedMemoryEvent,
      Dict.get (event.providerDict (F := F)) "content".toList =
        some (.str event.content) := by
    intro event
    simp [RetrievedMemoryEvent.providerDict]
  generalize (boundedContexts F settings request memory rag).1.retrievedEvents = events
  cases events with
  | nil => rfl
  | cons event rest =>
      rw [if_neg (List.cons_ne_nil event rest), Option.getD_some, List.filterMap_map]
      simp only [Function.comp_def, content, List.filterMap_eq_map']

/-- Nothing but numbers tells the provider requests for a memory and for the memory
under other numbers apart. -/
theorem preparedInput_renumber
    (change : Int → Int)
    (settings : ChatSettings)
    (requestId : Uuid)
    (request : ChatRequest)
    (memory : ChatMemoryContext)
    (rag : RagGenerationContext) :
    (Observation.prepared (preparedInput F settings requestId request memory
        rag)).SameButNumbers
      (.prepared (preparedInput F settings requestId request (memory.renumber change)
        rag)) := by
  have whole : ∃ whole : ChatMemoryContext,
      (if settings.conversationHistoryEnabled then memory else {}) = whole ∧
        (if settings.conversationHistoryEnabled then memory.renumber change else {}) =
          whole.renumber change := by
    split
    · exact ⟨memory, rfl, rfl⟩
    · exact ⟨{}, rfl, rfl⟩
  obtain ⟨whole, left, right⟩ := whole
  have sameMessages : whole.messages = (whole.renumber change).messages := rfl
  constructor
  · have messages := enforceAddedContextCap_messages_eq (F := F) sameMessages
      (if settings.chatRagAugmentationEnabled then rag else {}) request.message
      settings.chatPromptMaxAddedContextChars
    have documents := enforceAddedContextCap_rag_eq (F := F) sameMessages
      (if settings.chatRagAugmentationEnabled then rag else {}) request.message
      settings.chatPromptMaxAddedContextChars
    unfold Observation.withoutNumbers preparedInput providerInput requestMessages
      boundedContexts
    simp only [documents_mergedMetadata, left, right, messages, documents]
  · rw [evidence_preparedInput, evidence_preparedInput]
    unfold boundedContexts
    rw [left, right]
    have front := (enforceAddedContextCap_evidence (F := F) whole
      (if settings.chatRagAugmentationEnabled then rag else {}) request.message
      settings.chatPromptMaxAddedContextChars).map
        fun event => (.str event.content : Value F)
    have back := (enforceAddedContextCap_evidence (F := F) (whole.renumber change)
      (if settings.chatRagAugmentationEnabled then rag else {}) request.message
      settings.chatPromptMaxAddedContextChars).map
        fun event => (.str event.content : Value F)
    have sameTexts : (whole.renumber change).retrievedEvents.map
          (fun event => (.str event.content : Value F)) =
        whole.retrievedEvents.map (fun event => .str event.content) := by
      simp [ChatMemoryContext.renumber, RetrievedMemoryEvent.renumber,
        Function.comp_def]
    rw [sameTexts] at back
    exact List.prefix_or_prefix_of_prefix front back

/-- Numbers that stay the same change nothing. -/
private theorem renumber_of_unchanged
    {change : Int → Int}
    (unchanged : ∀ number, change number = number)
    (context : ChatMemoryContext) : context.renumber change = context := by
  unfold ChatMemoryContext.renumber RetrievedMemoryEvent.renumber
  simp only [unchanged, List.map_id']

/-- The provider request under other numbers. -/
theorem preparedInput_alike
    (change : Int → Int)
    (settings : ChatSettings)
    (requestId : Uuid)
    (request : ChatRequest)
    (memory : ChatMemoryContext)
    (rag : RagGenerationContext) :
    (Observation.prepared (preparedInput F settings requestId request memory
        rag)).Alike change
      (.prepared (preparedInput F settings requestId request (memory.renumber change)
        rag)) where
  sameButNumbers := preparedInput_renumber change settings requestId request memory rag
  equal := fun unchanged => by rw [renumber_of_unchanged unchanged]

end Observations

variable {F : Type} {K : Type}

/-! ## Alike states -/

/-- The request with its inserted messages under other numbers. -/
def Flight.renumber (change : Int → Int) (flight : Flight) : Flight :=
  { flight with pending := flight.pending.map (·.renumber change) }

/-- Two states that show a tenant the same, up to a change of its numbers. The numbers
of the tenant lie below the limits. -/
structure Alike
    (deployment : Deployment K)
    (tenantId : Str)
    (change : Int → Int)
    (numbers : Set Int)
    (limit otherLimit : Int)
    (state other : State) : Prop where
  /-- The order of the numbers is kept. -/
  ordered : StrictMonoOn change numbers
  /-- The numbers are below the limits. -/
  below : ∀ number ∈ numbers, number < limit ∧ change number < otherLimit
  /-- The conversations of the tenant. -/
  conversations : ∀ conversationId,
    other.database.getConversation conversationId tenantId =
      state.database.getConversation conversationId tenantId
  /-- The messages of the tenant. -/
  messages : ∀ conversationId, other.database.messagesOf conversationId tenantId =
    (state.database.messagesOf conversationId tenantId).map (·.renumber change)
  /-- They are numbered. -/
  numbered : ∀ conversationId,
    ∀ row ∈ state.database.messagesOf conversationId tenantId, row.sequence ∈ numbers
  /-- The cached answers of the tenant. -/
  cache : ∀ messages, other.cache (ResponseCache.cacheKey deployment.sha256
      deployment.cacheSettings messages tenantId) =
    state.cache (ResponseCache.cacheKey deployment.sha256 deployment.cacheSettings
      messages tenantId)
  /-- The requests of the tenant. -/
  flights : ∀ id : FlightId, id.tenantId = tenantId →
    other.flights id = (state.flights id).map (·.renumber change)
  /-- Their inserted messages are numbered. -/
  inserted : ∀ id : FlightId, id.tenantId = tenantId →
    ∀ flight ∈ state.flights id, ∀ row ∈ flight.pending, row.sequence ∈ numbers

section Alike

variable {deployment : Deployment K} {tenantId : Str} {change : Int → Int}
  {numbers : Set Int} {limit otherLimit : Int} {state other : State}

/-- Two consistent states that show a tenant the same are alike without any change. -/
theorem alike_of_sameView
    (consistent : state.Consistent)
    (consistentOther : other.Consistent)
    (sameView : SameView deployment tenantId state other) :
    Alike deployment tenantId id
      {number | number < state.nextSequence ∧ number < other.nextSequence}
      state.nextSequence other.nextSequence state other where
  ordered := strictMono_id.strictMonoOn _
  below := fun number known => known
  conversations := sameView.conversations
  messages := fun conversationId => by
    rw [sameView.messages]
    exact (List.map_id' _).symm
  numbered := fun conversationId row present => by
    have presentOther := present
    rw [← sameView.messages] at presentOther
    exact ⟨(consistent.stored row (List.mem_of_mem_filter present)).2,
      (consistentOther.stored row (List.mem_of_mem_filter presentOther)).2⟩
  cache := sameView.cache
  flights := fun another same => by
    rw [sameView.flights another same]
    cases state.flights another with
    | none => rfl
    | some flight =>
        have same : flight.pending.map (·.renumber id) = flight.pending :=
          List.map_id' _
        simp only [Option.map_some, Flight.renumber, same]
  inserted := fun another same flight present row isInserted => by
    have presentOther := present
    rw [← sameView.flights another same] at presentOther
    exact ⟨((consistent.inFlight another flight present).pending row isInserted).2.2,
      ((consistentOther.inFlight another flight presentOther).pending row
        isInserted).2.2⟩

/-- A step that the tenant does not see, in the first state. -/
theorem Alike.left
    (alike : Alike deployment tenantId change numbers limit otherLimit state other)
    {after : State}
    (unseen : SameView deployment tenantId state after)
    {later : Int}
    (grows : limit ≤ later) :
    Alike deployment tenantId change numbers later otherLimit after other where
  ordered := alike.ordered
  below := fun number known =>
    ⟨lt_of_lt_of_le (alike.below number known).1 grows, (alike.below number known).2⟩
  conversations := fun conversationId => by
    rw [unseen.conversations, alike.conversations]
  messages := fun conversationId => by rw [unseen.messages, alike.messages]
  numbered := fun conversationId => by
    rw [unseen.messages]
    exact alike.numbered conversationId
  cache := fun messages => by rw [unseen.cache, alike.cache]
  flights := fun id same => by rw [unseen.flights id same, alike.flights id same]
  inserted := fun id same => by
    rw [unseen.flights id same]
    exact alike.inserted id same

/-- A step that the tenant does not see, in the second state. -/
theorem Alike.right
    (alike : Alike deployment tenantId change numbers limit otherLimit state other)
    {after : State}
    (unseen : SameView deployment tenantId other after)
    {later : Int}
    (grows : otherLimit ≤ later) :
    Alike deployment tenantId change numbers limit later state after where
  ordered := alike.ordered
  below := fun number known =>
    ⟨(alike.below number known).1, lt_of_lt_of_le (alike.below number known).2 grows⟩
  conversations := fun conversationId => by
    rw [unseen.conversations, alike.conversations]
  messages := fun conversationId => by rw [unseen.messages, alike.messages]
  numbered := alike.numbered
  cache := fun messages => by rw [unseen.cache, alike.cache]
  flights := fun id same => by rw [unseen.flights id same, alike.flights id same]
  inserted := alike.inserted

/-- Rows are the same under changes that agree on their numbers. -/
private theorem map_renumber_congr
    {changed : Int → Int}
    (agree : ∀ number ∈ numbers, changed number = change number)
    {rows : List MessageRow}
    (numbered : ∀ row ∈ rows, row.sequence ∈ numbers) :
    rows.map (·.renumber changed) = rows.map (·.renumber change) := by
  apply List.map_congr_left
  intro row present
  unfold MessageRow.renumber
  rw [agree row.sequence (numbered row present)]

/-- Both sides take the next number of their counter. -/
theorem Alike.draw
    (alike : Alike deployment tenantId change numbers limit otherLimit state other) :
    Alike deployment tenantId (Function.update change limit otherLimit)
      (insert limit numbers) (limit + 1) (otherLimit + 1) state other := by
  have agree : ∀ number ∈ numbers,
      Function.update change limit otherLimit number = change number := by
    intro number known
    apply Function.update_of_ne
    exact (alike.below number known).1.ne
  exact
    { ordered := by
        apply strictMonoOn_insert_iff.mpr
        refine ⟨?_, ?_, alike.ordered.congr fun number known => (agree number known).symm⟩
        · intro number known _
          rw [Function.update_self, agree number known]
          exact (alike.below number known).2
        · intro number known above
          exact absurd above (alike.below number known).1.not_gt
      below := fun number known => by
        rcases known with rfl | known
        · rw [Function.update_self]
          omega
        · have bounds := alike.below number known
          rw [agree number known]
          omega
      conversations := alike.conversations
      messages := fun conversationId => by
        rw [alike.messages, map_renumber_congr agree (alike.numbered conversationId)]
      numbered := fun conversationId row present =>
        Set.mem_insert_of_mem limit (alike.numbered conversationId row present)
      cache := alike.cache
      flights := fun id same => by
        rw [alike.flights id same]
        cases present : state.flights id with
        | none => rfl
        | some flight =>
            have known := alike.inserted id same flight present
            simp only [Option.map_some, Flight.renumber, map_renumber_congr agree known]
      inserted := fun id same flight present row isInserted =>
        Set.mem_insert_of_mem limit (alike.inserted id same flight present row
          isInserted) }

/-! ## Alike steps -/

/-- Two effects that do the same, up to the numbers. -/
structure Effect.Alike
    (change : Int → Int)
    (numbers : Set Int)
    (effect other : Effect F) : Prop where
  /-- The request afterwards. -/
  flight : other.flight = effect.flight.map (·.renumber change)
  /-- Its inserted messages are numbered. -/
  inserted : ∀ flight ∈ effect.flight, ∀ row ∈ flight.pending, row.sequence ∈ numbers
  /-- Whether a number is taken. -/
  draws : other.draws = effect.draws
  /-- The conversations committed. -/
  conversations : other.committed.conversations = effect.committed.conversations
  /-- The messages committed. -/
  messages : other.committed.messages =
    effect.committed.messages.map (·.renumber change)
  /-- They are numbered. -/
  numbered : ∀ row ∈ effect.committed.messages, row.sequence ∈ numbers
  /-- What is written to the cache. -/
  cacheWrite : other.cacheWrite = effect.cacheWrite
  /-- What is observed. -/
  observation : effect.observation.Alike change other.observation

/-- Alike effects keep states alike. -/
theorem Alike.apply
    (alike : Alike deployment tenantId change numbers limit otherLimit state other)
    {left right : Effect F}
    (effects : left.Alike change numbers right)
    {id : FlightId}
    (fresh : ∀ row ∈ left.committed.conversations,
      (∀ conversation ∈ state.database.conversations, conversation.id ≠ row.id) ∧
        ∀ conversation ∈ other.database.conversations, conversation.id ≠ row.id) :
    Alike deployment tenantId change numbers limit otherLimit (left.apply id state)
      (right.apply id other) where
  ordered := alike.ordered
  below := alike.below
  conversations := fun conversationId => by
    simp only [Effect.apply, effects.conversations]
    rw [Database.getConversation_append (fun row committed => (fresh row committed).1),
      Database.getConversation_append (fun row committed => (fresh row committed).2)]
    rw [alike.conversations conversationId]
  messages := fun conversationId => by
    have before := alike.messages conversationId
    unfold Database.messagesOf at before ⊢
    simp only [Effect.apply, List.filter_append, List.map_append, effects.messages, before]
    rw [List.filter_map]
    rfl
  numbered := fun conversationId row present => by
    unfold Database.messagesOf at present
    simp only [Effect.apply, List.filter_append] at present
    rcases List.mem_append.mp present with before | committed
    · exact alike.numbered conversationId row before
    · exact effects.numbered row (List.mem_of_mem_filter committed)
  cache := fun messages => by
    simp only [Effect.apply, effects.cacheWrite]
    cases left.cacheWrite with
    | none => exact alike.cache messages
    | some write =>
        dsimp only
        by_cases same : ResponseCache.cacheKey deployment.sha256
            deployment.cacheSettings messages tenantId = write.1
        · rw [same, Function.update_self, Function.update_self]
        · rw [Function.update_of_ne same, Function.update_of_ne same]
          exact alike.cache messages
  flights := fun another isOwn => by
    simp only [Effect.apply, effects.flight]
    by_cases same : another = id
    · rw [same, Function.update_self, Function.update_self]
    · rw [Function.update_of_ne same, Function.update_of_ne same]
      exact alike.flights another isOwn
  inserted := fun another isOwn flight present => by
    simp only [Effect.apply] at present
    by_cases same : another = id
    · rw [same, Function.update_self] at present
      exact effects.inserted flight present
    · rw [Function.update_of_ne same] at present
      exact alike.inserted another isOwn flight present

/-- Taking an operation leaves the numbers alone. -/
private theorem Flight.take_renumber
    (change : Int → Int)
    (flight : Flight)
    (operation : Operation) :
    (flight.renumber change).take operation =
      (flight.take operation).map (·.renumber change) := by
  unfold Flight.take
  by_cases next : flight.rest.head? = some operation <;> simp [Flight.renumber, next]

/-- A request that takes an operation in both states is the same but for its
numbers. -/
private theorem Alike.exists_taken
    {α : Type}
    (alike : Alike deployment tenantId change numbers limit otherLimit state other)
    {id : FlightId}
    (own : id.tenantId = tenantId)
    {operation : Operation}
    {next nextOther : Flight → Option α}
    {left right : α}
    (done : (do
      let flight ← (← state.flights id).take operation
      next flight) = some left)
    (doneOther : (do
      let flight ← (← other.flights id).take operation
      nextOther flight) = some right) :
    ∃ flight : Flight, (∀ row ∈ flight.pending, row.sequence ∈ numbers) ∧
      next flight = some left ∧ nextOther (flight.renumber change) = some right := by
  obtain ⟨before, flight, present, taken, finished⟩ := Tenancy.exists_taken done
  obtain ⟨beforeOther, flightOther, presentOther, takenOther, finishedOther⟩ :=
    Tenancy.exists_taken doneOther
  rw [alike.flights id own, present, Option.map_some, Option.some.injEq] at presentOther
  rw [← presentOther, Flight.take_renumber, taken, Option.map_some,
    Option.some.injEq] at takenOther
  refine ⟨flight, ?_, finished, by rw [takenOther]; exact finishedOther⟩
  have known := alike.inserted id own before present
  rw [(Flight.take_eq_some taken).2]
  exact known

/-- An effect on the request alone. -/
private theorem Effect.Alike.of_flight
    {flight : Flight}
    (inserted : ∀ row ∈ flight.pending, row.sequence ∈ numbers)
    {observation observationOther : Observation F}
    (observed : observation.Alike change observationOther) :
    Effect.Alike change numbers { flight := some flight, observation }
      { flight := some (flight.renumber change), observation := observationOther } where
  flight := rfl
  inserted := fun _ isFlight => by
    cases isFlight
    exact inserted
  draws := rfl
  conversations := rfl
  messages := rfl
  numbered := by simp
  cacheWrite := rfl
  observation := observed

/-- An effect that ends the request and commits nothing. -/
private theorem Effect.Alike.ended
    (cacheWrite : Option (Str × Option ResponseCache.Entry))
    (observation : Observation F) :
    Effect.Alike change numbers { flight := none, cacheWrite, observation }
      { flight := none, cacheWrite, observation } where
  flight := rfl
  inserted := by simp
  draws := rfl
  conversations := rfl
  messages := rfl
  numbered := by simp
  cacheWrite := rfl
  observation := Observation.Alike.refl change observation

/-- Inserting a message under other numbers. -/
private theorem Flight.insert_renumber
    (change : Int → Int)
    (flight : Flight)
    (tenantId : Str)
    (messageId : Uuid)
    (sequence : Int)
    (role : Role)
    (content : Str) :
    (flight.insert tenantId messageId sequence role content).renumber change =
      (flight.renumber change).insert tenantId messageId (change sequence) role
        content := by
  simp only [Flight.insert, Flight.renumber, List.map_append, List.map_cons, List.map_nil,
    MessageRow.renumber]
  rfl

/-- An effect that inserts a message. -/
private theorem Effect.Alike.of_insert
    {flight : Flight}
    (inserted : ∀ row ∈ flight.pending, row.sequence ∈ numbers)
    {sequence sequenceOther : Int}
    (known : sequence ∈ numbers)
    (same : change sequence = sequenceOther)
    (messageId : Uuid)
    (role : Role)
    (content : Str) :
    Effect.Alike (F := F) change numbers
      { flight := some (flight.insert tenantId messageId sequence role content)
        draws := true
        observation := .numbered sequence }
      { flight := some ((flight.renumber change).insert tenantId messageId sequenceOther
          role content)
        draws := true
        observation := .numbered sequenceOther } where
  flight := by rw [Option.map_some, Flight.insert_renumber, same]
  inserted := fun _ isFlight => by
    cases isFlight
    intro row present
    rcases List.mem_append.mp present with before | isNew
    · exact inserted row before
    · rw [List.mem_singleton.mp isNew]
      exact known
  draws := rfl
  conversations := rfl
  messages := rfl
  numbered := by simp
  cacheWrite := rfl
  observation := by
    rw [← same]
    exact Observation.Alike.numbered change sequence

/-- What the cache answers is shown to the tenant. -/
private theorem Alike.cachedAnswer_eq
    (alike : Alike deployment tenantId change numbers limit otherLimit state other)
    (flight : Flight)
    (reachable : Bool) :
    cachedAnswer deployment other tenantId (flight.renumber change) reachable =
      cachedAnswer deployment state tenantId flight reachable := by
  have cache := alike.cache flight.messages
  unfold cachedAnswer
  simp only [Flight.renumber, cache]

/-- How the effects of one event in two alike states are related: they are alike under
changed numbers, and a number is changed only when the one just taken differs. -/
structure Related
    (deployment : Deployment K)
    (tenantId : Str)
    (change : Int → Int)
    (id : FlightId)
    (state other : State)
    (left right : Effect F)
    (changed : Int → Int)
    (known : Set Int) : Prop where
  /-- The states are alike under the changed numbers. -/
  states : Alike deployment tenantId changed known (left.apply id state).nextSequence
    (right.apply id other).nextSequence state other
  /-- The effects are alike under the changed numbers. -/
  effects : left.Alike changed known right
  /-- Equal numbers change nothing. -/
  unchanged : (∀ number, change number = number) →
    left.observation.number = right.observation.number →
      ∀ number, changed number = number

/-- Effects that take no number are related under the same numbers. -/
private theorem Alike.related_quiet
    (alike : Alike deployment tenantId change numbers state.nextSequence
      other.nextSequence state other)
    {id : FlightId}
    {left right : Effect F}
    (effects : left.Alike change numbers right)
    (quiet : left.draws = false) :
    ∃ changed known, Related deployment tenantId change id state other left right changed
      known := by
  have quietOther := effects.draws.trans quiet
  refine ⟨change, numbers, ?_, effects, fun unchanged _ => unchanged⟩
  simp only [Effect.apply, quiet, quietOther]
  exact alike

/-- Inserting a message in both states. -/
private theorem Alike.related_insert
    (alike : Alike deployment tenantId change numbers state.nextSequence
      other.nextSequence state other)
    {id : FlightId}
    (own : id.tenantId = tenantId)
    {operation : Operation}
    {messageId : Uuid}
    {role : Role}
    (content : Flight → Str)
    (blind : ∀ flight changed, content (flight.renumber changed) = content flight)
    {left right : Effect F}
    (done : (do
      let flight ← (← state.flights id).take operation
      some
        { flight := some (flight.insert id.tenantId messageId state.nextSequence role
            (content flight))
          draws := true
          observation := .numbered state.nextSequence }) = some left)
    (doneOther : (do
      let flight ← (← other.flights id).take operation
      some
        { flight := some (flight.insert id.tenantId messageId other.nextSequence role
            (content flight))
          draws := true
          observation := .numbered other.nextSequence }) = some right) :
    ∃ changed known, Related deployment tenantId change id state other left right changed
      known := by
  have drawn := alike.draw
  obtain ⟨flight, inserted, finished, finishedOther⟩ :=
    drawn.exists_taken own done doneOther
  cases finished
  cases finishedOther
  refine ⟨_, _, drawn, ?_, ?_⟩
  · rw [blind]
    exact Effect.Alike.of_insert inserted (Set.mem_insert _ _) (Function.update_self _ _ _)
      messageId role (content flight)
  · intro unchanged sameNumber number
    have same : state.nextSequence = other.nextSequence := Option.some.inj sameNumber
    by_cases isLast : number = state.nextSequence
    · rw [isLast, Function.update_self, same]
    · rw [Function.update_of_ne isLast, unchanged]

end Alike

section Step

variable [FloatOps F] [Field K] [LinearOrder K] {deployment : Deployment K}
  {tenantId : Str} {change : Int → Int} {numbers : Set Int} {limit otherLimit : Int}
  {state other : State}

/-- The provider request is built from what the tenant is shown. -/
private theorem Alike.prepared
    (alike : Alike deployment tenantId change numbers limit otherLimit state other)
    (flight : Flight)
    (fault : Option HistoryFault)
    (rag : RagGenerationContext) :
    (Observation.prepared (builtInput F deployment state tenantId flight fault
        rag)).Alike change
      (.prepared (builtInput F deployment other tenantId (flight.renumber change) fault
        rag)) := by
  cases fault with
  | some fault => exact Observation.Alike.refl change _
  | none =>
      have report : getChatMemoryContext deployment.settings deployment.lexicon
            flight.request tenantId (.ok ⟨flight.owner.toList, other.database.messages⟩) =
          (getChatMemoryContext deployment.settings deployment.lexicon flight.request
            tenantId (.ok ⟨flight.owner.toList, state.database.messages⟩)).renumber
              change :=
        getChatMemoryContext_renumber alike.ordered _ _ _ _ (fun _ => rfl) alike.messages
          alike.numbered
      unfold builtInput
      simp only [Flight.renumber, report]
      exact preparedInput_alike change _ _ _ _ rag

/-- The effects of one event in two alike states are related. -/
theorem Alike.exists_related
    (alike : Alike deployment tenantId change numbers state.nextSequence
      other.nextSequence state other)
    {id : FlightId}
    (own : id.tenantId = tenantId)
    {event : Event}
    {left right : Effect F}
    (done : effect F deployment state id event = some left)
    (doneOther : effect F deployment other id event = some right) :
    ∃ changed known, Related deployment tenantId change id state other left right changed
      known := by
  cases event with
  | arrive requestId request newConversationId =>
      simp only [effect] at done doneOther
      split at done
      · cases done
      · rename_i absent
        rw [alike.flights id own, absent] at doneOther
        cases done
        cases doneOther
        rw [own]
        simp only [alike.conversations]
        exact alike.related_quiet (Effect.Alike.of_flight (by simp)
          (Observation.Alike.refl change _)) rfl
  | read fault rag =>
      obtain ⟨flight, inserted, finished, finishedOther⟩ :=
        alike.exists_taken own done doneOther
      cases finished
      cases finishedOther
      rw [own]
      have observed := alike.prepared (F := F) flight fault rag
      have messages := observed.sameButNumbers.messages
      rw [← messages]
      refine alike.related_quiet (Effect.Alike.of_flight ?_ observed) rfl
      exact inserted
  | openConversation =>
      obtain ⟨flight, inserted, finished, finishedOther⟩ :=
        alike.exists_taken own done doneOther
      have sameRequest : (flight.renumber change).request = flight.request := rfl
      rw [own] at finished finishedOther
      simp only [sameRequest] at finishedOther
      cases given : flight.request.conversationId with
      | none =>
          simp only [given] at finished finishedOther
          cases finished
          cases finishedOther
          refine alike.related_quiet (Effect.Alike.of_flight ?_
            (Observation.Alike.refl change _)) rfl
          exact inserted
      | some conversationId =>
          simp only [given, alike.conversations] at finished finishedOther
          split at finished
          · rename_i unknown
            simp only [unknown] at finishedOther
            cases finished
            cases finishedOther
            exact alike.related_quiet (Effect.Alike.ended none .refused) rfl
          · rename_i conversation found
            simp only [found] at finishedOther
            cases finished
            cases finishedOther
            refine alike.related_quiet (Effect.Alike.of_flight ?_
              (Observation.Alike.refl change _)) rfl
            exact inserted
  | addUser messageId =>
      exact alike.related_insert own (fun flight => flight.request.message)
        (fun _ _ => rfl) done doneOther
  | consultCache reachable =>
      obtain ⟨flight, inserted, finished, finishedOther⟩ :=
        alike.exists_taken own done doneOther
      rw [own] at finished finishedOther
      rw [alike.cachedAnswer_eq] at finishedOther
      split at finished
      · rename_i missed
        simp only [missed] at finishedOther
        cases finished
        cases finishedOther
        refine alike.related_quiet (Effect.Alike.of_flight ?_
          (Observation.Alike.refl change _)) rfl
        exact inserted
      · rename_i result found
        simp only [found] at finishedOther
        cases finished
        cases finishedOther
        refine alike.related_quiet (Effect.Alike.of_flight ?_
          (Observation.Alike.refl change _)) rfl
        exact inserted
  | generate answered =>
      obtain ⟨flight, inserted, finished, finishedOther⟩ :=
        alike.exists_taken own done doneOther
      cases finished
      cases finishedOther
      refine alike.related_quiet (Effect.Alike.of_flight ?_
        (Observation.Alike.refl change _)) rfl
      exact inserted
  | addAssistant messageId =>
      exact alike.related_insert own
        (fun flight => Text.truncate flight.answer deployment.settings.maxAssistantChars)
        (fun _ _ => rfl) done doneOther
  | commit =>
      obtain ⟨flight, inserted, finished, finishedOther⟩ :=
        alike.exists_taken own done doneOther
      split at finished
      · split at finishedOther
        · cases finished
          cases finishedOther
          refine alike.related_quiet ?_ rfl
          exact
            { flight := rfl
              inserted := fun _ isFlight => by
                cases isFlight
                simp
              draws := rfl
              conversations := rfl
              messages := rfl
              numbered := inserted
              cacheWrite := rfl
              observation := Observation.Alike.refl change _ }
        · cases finishedOther
      · cases finished
  | keepAnswer reachable =>
      obtain ⟨flight, inserted, finished, finishedOther⟩ :=
        alike.exists_taken own done doneOther
      cases finished
      cases finishedOther
      exact alike.related_quiet (Effect.Alike.ended _ .silent) rfl
  | abort =>
      obtain ⟨before, present, finished⟩ := Option.bind_eq_some_iff.mp done
      obtain ⟨beforeOther, presentOther, finishedOther⟩ :=
        Option.bind_eq_some_iff.mp doneOther
      cases finished
      cases finishedOther
      exact alike.related_quiet (Effect.Alike.ended none .silent) rfl
  | expire messages =>
      cases done
      cases doneOther
      refine alike.related_quiet ?_ rfl
      exact
        { flight := alike.flights id own
          inserted := alike.inserted id own
          draws := rfl
          conversations := rfl
          messages := rfl
          numbered := by simp
          cacheWrite := rfl
          observation := Observation.Alike.refl change _ }

/-- A step of the tenant in two alike states. -/
theorem Alike.step
    (alike : Alike deployment tenantId change numbers state.nextSequence
      other.nextSequence state other)
    (consistent : state.Consistent)
    (consistentOther : other.Consistent)
    {action : Action}
    (own : action.ofTenant tenantId = true)
    {after afterOther : State}
    {observation observationOther : Observation F}
    (moves : step F deployment state action = some (after, observation))
    (movesOther : Tenancy.step F deployment other action =
      some (afterOther, observationOther)) :
    ∃ changed known, Alike deployment tenantId changed known after.nextSequence
        afterOther.nextSequence after afterOther ∧
      observation.Alike changed observationOther ∧
      ((∀ number, change number = number) →
        observation.number = observationOther.number →
          ∀ number, changed number = number) := by
  obtain ⟨left, done, same⟩ := Option.map_eq_some_iff.mp moves
  obtain ⟨right, doneOther, sameOther⟩ := Option.map_eq_some_iff.mp movesOther
  cases same
  cases sameOther
  have isOwn : action.flight.tenantId = tenantId := by simpa [Action.ofTenant] using own
  obtain ⟨changed, known, related⟩ := alike.exists_related isOwn done doneOther
  have confined := effect_confined consistent done
  have confinedOther := effect_confined consistentOther doneOther
  refine ⟨changed, known, related.states.apply related.effects ?_,
    related.effects.observation, related.unchanged⟩
  intro row committed
  refine ⟨(confined.conversations row committed).2, ?_⟩
  rw [← related.effects.conversations] at committed
  exact (confinedOther.conversations row committed).2

/-- A step of another tenant keeps what the tenant is shown. -/
theorem sameView_of_step
    (consistent : state.Consistent)
    {action : Action}
    (foreign : action.ofTenant tenantId = false)
    {after : State}
    {observation : Observation F}
    (moves : step F deployment state action = some (after, observation)) :
    SameView deployment tenantId state after ∧
      state.nextSequence ≤ after.nextSequence := by
  obtain ⟨result, done, same⟩ := Option.map_eq_some_iff.mp moves
  cases same
  have isForeign : action.flight.tenantId ≠ tenantId := by
    simpa [Action.ofTenant] using foreign
  exact ⟨(effect_confined consistent done).unseen isForeign,
    result.nextSequence_le action.flight state⟩

end Step

end Tenancy
end ChatPlatform
