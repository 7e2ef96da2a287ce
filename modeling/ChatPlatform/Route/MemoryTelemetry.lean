import ChatPlatform.Memory.Provenance
import ChatPlatform.Prompt.Truthful
import ChatPlatform.Route.Containment

/-!
# What is recorded of the memory of a request

The memory dependency records an outcome and a flag, and the route replaces the outcome
when its cap reduces what the dependency delivered. What is finally recorded is true of
what is finally delivered.
-/

namespace ChatPlatform

/-- A stored message as a provider receives it. -/
def chatMessage (message : HistoryMessage) : ChatMessage :=
  ⟨message.role, message.content⟩

section Retrieval

variable {K : Type} [Field K] [LinearOrder K]

/-- The evidence selected next to the whole window. -/
def selectedEvents
    (settings : ChatSettings)
    (lexicon : Bm25.Lexicon K)
    (partition : WindowPartition)
    (message : Str) : List RetrievedMemoryEvent :=
  if settings.ebm25Enabled then
    (selectEvidence settings lexicon partition (partition.window.map chatMessage)
      message).events
  else []

/-- What the memory dependency reports of a history and the partition it made of it. -/
structure TruthfulReport
    (settings : ChatSettings)
    (lexicon : Bm25.Lexicon K)
    (message : Str)
    (messages : List HistoryMessage)
    (partition : WindowPartition)
    (report : MemoryReport) : Prop where
  /-- The window consists of exchanges. -/
  window : ∃ pairs, report.context.messages = exchanges pairs
  /-- The flag says what the history lost. -/
  flagged : FlaggedReduction (messages.map chatMessage) report.context.messages
    report.context.truncated
  /-- An outcome that names no loss is that of the whole window with all that was
  selected next to it. -/
  healthy : ∀ outcome ∈ [MemoryOutcome.ok, .empty, .noOutOfWindowCorpus],
    report.outcome = some outcome →
      report.context.messages = partition.window.map chatMessage ∧
        report.context.retrievedEvents = selectedEvents settings lexicon partition message

/-- A history that was materialized is the one that was fetched, in order and split by
the partition. -/
theorem materializeWindow_fetched
    {settings : ChatSettings}
    {database : Database}
    {conversationId : Uuid}
    {tenantId : Str}
    {materialized : Materialized}
    (success : materializeWindow settings database conversationId tenantId =
      .ok materialized) :
    ∃ messages kept,
      database.fetchOrdered conversationId tenantId
        (some settings.conversationHistoryMaxRows) = some messages ∧
      Partitions messages kept materialized.partition ∧
      materialized.truncated =
        decide (materialized.partition.window.length < messages.length) := by
  unfold materializeWindow at success
  cases fetched : database.fetchOrdered conversationId tenantId
      (some settings.conversationHistoryMaxRows) with
  | none => simp [fetched] at success
  | some messages =>
      have increasing : StrictlyIncreasing messages := by
        by_contra outOfOrder
        obtain ⟨failure, failed⟩ :=
          ConversationHistoryAssembler.assemble_of_not_strictlyIncreasing outOfOrder
            settings.conversationHistoryMaxMessages settings.conversationHistoryMaxChars
        simp [fetched, failed] at success
      obtain ⟨assembled, partition, bounded, built, parts⟩ :=
        exists_partition_of_assemble increasing settings.maxMessagesPositive
          settings.conversationHistoryMaxChars
      simp only [fetched, bounded, built, Except.ok.injEq] at success
      rw [← success]
      exact ⟨messages, assembled.messages, rfl, parts, rfl⟩

/-- The memory of a materialized window is reported truthfully. -/
theorem memoryOfPartition_truthful
    (settings : ChatSettings)
    {materialized : Materialized}
    {messages kept : List HistoryMessage}
    (parts : Partitions messages kept materialized.partition)
    (shorter : materialized.truncated =
      decide (materialized.partition.window.length < messages.length))
    (lexicon : Bm25.Lexicon K)
    (message : Str) :
    TruthfulReport settings lexicon message messages materialized.partition
      (memoryOfPartition settings lexicon materialized message) := by
  have built : BuiltFrom messages
      (memoryOfPartition settings lexicon materialized message).context :=
    builtFrom_memoryOfPartition parts message
  obtain ⟨pairs, window, _⟩ := built.turns
  have sublist : (materialized.partition.window.map chatMessage).Sublist
      (messages.map chatMessage) := by
    have flat := parts.windowOrdered.flatMap (·.messages)
    rw [flatMap_groupTurns, ← parts.windowUnitsFlat] at flat
    exact flat.map chatMessage
  have snapped := FlaggedReduction.of_sublist sublist
  rw [List.length_map, List.length_map, ← shorter] at snapped
  have flagged := snapped.trans (packRecentWindow_flagged
    (materialized.partition.window.map chatMessage)
    settings.chatPromptMaxAddedContextChars 0)
  have whole := (packRecentWindow_flagged (materialized.partition.window.map chatMessage)
    settings.chatPromptMaxAddedContextChars 0).kept
  refine ⟨⟨pairs, window⟩, ?_, ?_⟩
  · unfold memoryOfPartition
    dsimp only
    split <;> exact flagged
  · intro outcome healthy recorded
    have named : (fun message : HistoryMessage =>
        ChatMessage.mk message.role message.content) = chatMessage := rfl
    unfold memoryOfPartition at recorded ⊢
    simp only [ChatMemoryContext.fromPartition, named] at recorded ⊢
    generalize packRecentWindow (materialized.partition.window.map chatMessage)
      settings.chatPromptMaxAddedContextChars 0 = packed at whole recorded ⊢
    cases lost : packed.truncated with
    | true =>
        rw [lost, if_pos rfl] at recorded
        cases recorded
        simp at healthy
    | false =>
        rw [whole lost]
        unfold selectedEvents
        cases settings.ebm25Enabled with
        | false => exact ⟨rfl, rfl⟩
        | true => exact ⟨rfl, rfl⟩

end Retrieval

/-! ## The request -/

section Request

variable (F : Type) [FloatOps F]

/-- The documents of a request, none while their feature is off. -/
def retrievedContext
    (settings : ChatSettings)
    (rag : RagGenerationContext) : RagGenerationContext :=
  if settings.chatRagAugmentationEnabled then rag else {}

/-- The outcome recorded last: the one of the cap, if it has one, replaces the one of
the memory dependency. -/
def recordedOutcome
    (settings : ChatSettings)
    (request : ChatRequest)
    (report : MemoryReport)
    (rag : RagGenerationContext) : Option MemoryOutcome :=
  (boundedContexts F settings request report.context rag).2.2.or report.outcome

/-- What is recorded of the memory of a request is true of what is delivered. -/
structure TruthfulTelemetry
    {K : Type}
    [Field K]
    [LinearOrder K]
    (settings : ChatSettings)
    (lexicon : Bm25.Lexicon K)
    (request : ChatRequest)
    (messages : List HistoryMessage)
    (partition : WindowPartition)
    (report : MemoryReport)
    (rag : RagGenerationContext) : Prop where
  /-- The cap reports what it takes from any documents and this memory. -/
  cap : ∀ documents,
    TruthfulCap F report.context documents request.message
      settings.chatPromptMaxAddedContextChars
      (enforceAddedContextCap F report.context documents request.message
        settings.chatPromptMaxAddedContextChars).1
      (enforceAddedContextCap F report.context documents request.message
        settings.chatPromptMaxAddedContextChars).2.1
      (enforceAddedContextCap F report.context documents request.message
        settings.chatPromptMaxAddedContextChars).2.2
  /-- The flag is set exactly when the delivered turns are not the fetched history. -/
  truncated :
    (boundedContexts F settings request report.context rag).1.truncated = true ↔
      (boundedContexts F settings request report.context rag).1.messages ≠
        messages.map chatMessage
  /-- An outcome that names no loss is recorded of a whole window, all the selected
  evidence and all the retrieved documents. -/
  healthy : ∀ outcome ∈ [MemoryOutcome.ok, .empty, .noOutOfWindowCorpus],
    recordedOutcome F settings request report rag = some outcome →
      (boundedContexts F settings request report.context rag).1.messages =
          partition.window.map chatMessage ∧
        (boundedContexts F settings request report.context rag).1.retrievedEvents =
          selectedEvents settings lexicon partition request.message ∧
        (boundedContexts F settings request report.context rag).2.1.sources =
          (retrievedContext settings rag).sources

/-- The telemetry of every request whose history was read and whose message is shorter
than the cap is truthful. -/
theorem memoryTelemetry_truthful
    {K : Type}
    [Field K]
    [LinearOrder K]
    {settings : ChatSettings}
    (lexicon : Bm25.Lexicon K)
    {request : ChatRequest}
    {tenantId : Str}
    {database : Database}
    {conversationId : Uuid}
    {materialized : Materialized}
    (enabled : settings.conversationHistoryEnabled = true)
    (continues : request.conversationId = some conversationId)
    (success : materializeWindow settings database conversationId tenantId =
      .ok materialized)
    (shorter : (request.message.length : Int) < settings.chatPromptMaxAddedContextChars)
    (rag : RagGenerationContext) :
    ∃ messages,
      database.fetchOrdered conversationId tenantId
        (some settings.conversationHistoryMaxRows) = some messages ∧
      TruthfulTelemetry F settings lexicon request messages materialized.partition
        (getChatMemoryContext settings lexicon request tenantId (.ok database)) rag := by
  obtain ⟨messages, kept, fetched, parts, snapped⟩ := materializeWindow_fetched success
  refine ⟨messages, fetched, ?_⟩
  have delivered : getChatMemoryContext settings lexicon request tenantId (.ok database) =
      memoryOfPartition settings lexicon materialized request.message := by
    simp [getChatMemoryContext, enabled, continues, success]
  have truthful := memoryOfPartition_truthful settings parts snapped lexicon
    request.message
  rw [delivered]
  generalize memoryOfPartition settings lexicon materialized request.message = report
    at truthful
  obtain ⟨pairs, window⟩ := truthful.window
  have cap := fun documents => enforceAddedContextCap_truthful (F := F) window documents
    shorter
  have bounded : boundedContexts F settings request report.context rag =
      enforceAddedContextCap F report.context (retrievedContext settings rag)
        request.message settings.chatPromptMaxAddedContextChars := by
    unfold boundedContexts retrievedContext
    rw [enabled, if_pos rfl]
  have capped := cap (retrievedContext settings rag)
  refine ⟨cap, ?_, ?_⟩
  · rw [bounded]
    obtain ⟨lost, flag, reduction⟩ := capped.flagged
    rw [flag]
    exact (truthful.flagged.trans reduction).truncated_iff
  · intro outcome healthy recorded
    unfold recordedOutcome at recorded
    rw [bounded] at recorded ⊢
    cases replaced : (enforceAddedContextCap F report.context
        (retrievedContext settings rag) request.message
        settings.chatPromptMaxAddedContextChars).2.2 with
    | some other =>
        have changed := mt capped.silent.mpr (by simp [replaced])
        have starved := capped.starved.mpr (by
          by_contra noneChanged
          simp only [not_or, not_not] at noneChanged
          exact changed noneChanged)
        rw [starved, Option.some_or] at recorded
        cases recorded
        simp at healthy
    | none =>
        rw [replaced, Option.none_or] at recorded
        obtain ⟨sameMessages, sameEvents, sameSources⟩ := capped.silent.mp replaced
        obtain ⟨whole, selected⟩ := truthful.healthy outcome healthy recorded
        exact ⟨sameMessages.trans whole, sameEvents.trans selected, sameSources⟩

/-- Settings with the history and evidence retrieval on. -/
def evidenceSettings : ChatSettings :=
  { ChatSettings.unset with conversationHistoryEnabled := true, ebm25Enabled := true }

/-- A request that continues the history with malformed units. -/
def legacyRequest : ChatRequest := ⟨some ⟨1⟩, "a".toList, false⟩

/-- A lexicon in which letters and digits make words. -/
def asciiLexicon : Bm25.Lexicon ℚ := ⟨id, Char.isAlphanum, id⟩

/-- The telemetry of that request. -/
theorem memoryTelemetry_truthful_legacy :
    ∃ (materialized : Materialized) (messages : List HistoryMessage),
      legacyDatabase.fetchOrdered ⟨1⟩ "t".toList
        (some evidenceSettings.conversationHistoryMaxRows) = some messages ∧
      TruthfulTelemetry Empty evidenceSettings asciiLexicon legacyRequest messages
        materialized.partition
        (getChatMemoryContext evidenceSettings asciiLexicon legacyRequest "t".toList
          (.ok legacyDatabase)) {} :=
  have shorter : (legacyRequest.message.length : Int) <
      evidenceSettings.chatPromptMaxAddedContextChars := by decide
  ⟨_, memoryTelemetry_truthful Empty asciiLexicon rfl rfl rfl shorter {}⟩

end Request

end ChatPlatform
