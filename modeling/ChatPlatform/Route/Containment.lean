import ChatPlatform.Memory.Provenance
import ChatPlatform.Providers.Bedrock
import ChatPlatform.Providers.OpenAi
import ChatPlatform.Route.Prepare
import Mathlib.Algebra.Order.Field.Rat

/-!
# The shape of a provider payload

Whatever is stored and whatever was retrieved, a payload has complete exchanges
cut from stored pairs, then the current message, and in front of them at most the
memory envelope and at most the document envelope.
-/

namespace ChatPlatform

variable {F : Type} [FloatOps F]

/-- A message as a turn of the Bedrock payload. -/
def bedrockTurn (message : ChatMessage) : Bedrock.PayloadMessage :=
  ⟨message.role, message.content⟩

/-- A turn of the Bedrock payload as an item of the OpenAI payload. -/
def openAiItem (turn : Bedrock.PayloadMessage) : OpenAi.PayloadMessage :=
  ⟨turn.role, turn.text⟩

/-- The shape of both payloads of a request. -/
structure PayloadContained
    (stored : List HistoryMessage)
    (memory : ChatMemoryContext)
    (rag : RagGenerationContext)
    (currentMessage : Str)
    (bedrock : Bedrock.Payload F)
    (openAi : OpenAi.Payload) : Prop where
  /-- The turns are exchanges cut from stored pairs, then the current message as
  it is. -/
  turns : ∃ pairs,
    bedrock.messages =
      (exchanges pairs ++ [ChatMessage.mk .user currentMessage]).map bedrockTurn ∧
    ∀ pair ∈ pairs, CutFromStored stored pair
  /-- The system blocks are at most the memory envelope, then at most the document
  envelope, of evidence and documents the request was given. -/
  system : ∃ (evidence : List RetrievedMemoryEvent) (sources : List RagSource)
      (memoryBlock ragBlock : List Str),
    bedrock.system = memoryBlock ++ ragBlock ∧
      evidence <+: memory.retrievedEvents ∧ sources <+: rag.sources ∧
      (memoryBlock = [] ∨ memoryBlock =
        [renderMemoryEventsBlock (F := F) (evidence.map (·.providerDict))]) ∧
      (ragBlock = [] ∨ ragBlock =
        [renderRagSourcesBlock (F := F) (sources.map (·.providerDict))])
  /-- The OpenAI payload is the same sequence, the system entries first. -/
  sameSequence : openAi.input =
    bedrock.system.map (OpenAi.PayloadMessage.mk .system) ++
      bedrock.messages.map openAiItem

/-- The system messages of merged metadata, whatever the sources are. -/
private theorem systemPrefix_shape
    (memory : ChatMemoryContext)
    (rag : RagGenerationContext) :
    ∃ memoryBlock ragBlock : List Str,
      systemPrefix (F := F) (mergedMetadata memory rag) =
        (memoryBlock ++ ragBlock).map (ChatMessage.mk .system) ∧
      (memoryBlock = [] ∨ memoryBlock =
        [renderMemoryEventsBlock (F := F)
          (memory.retrievedEvents.map (·.providerDict))]) ∧
      (ragBlock = [] ∨ ragBlock =
        [renderRagSourcesBlock (F := F) (rag.sources.map (·.providerDict))]) := by
  unfold systemPrefix
  rw [validatedMemoryEvents_mergedMetadata]
  have documents := validatedSources_mergedMetadata_all_or_none (F := F) memory rag
  by_cases noEvidence : memory.retrievedEvents = []
  · rw [if_pos noEvidence]
    rcases documents with none | all
    · exact ⟨[], [], by rw [none]; rfl, Or.inl rfl, Or.inl rfl⟩
    · exact ⟨[], _, by rw [all]; rfl, Or.inl rfl, Or.inr rfl⟩
  · rw [if_neg noEvidence]
    rcases documents with none | all
    · exact ⟨_, [], by rw [none]; rfl, Or.inr rfl, Or.inl rfl⟩
    · exact ⟨_, _, by rw [all]; rfl, Or.inr rfl, Or.inr rfl⟩

/-- No message of an exchange has the role `system`. -/
private theorem role_ne_system_of_mem_exchanges
    {pairs : List (Str × Str)}
    {message : ChatMessage}
    (present : message ∈ exchanges pairs) : message.role ≠ .system := by
  obtain ⟨pair, -, inPair⟩ := List.mem_flatMap.mp present
  simp only [exchange, List.mem_cons, List.not_mem_nil, or_false] at inPair
  rcases inPair with rfl | rfl <;> simp

/-- A provider request whose turns are exchanges and the current message is hoisted
into its system texts and exactly these turns. -/
private theorem buildPayload_of_turns
    (input : ProviderInput F)
    {blocks : List Str}
    {turns : List ChatMessage}
    (hoisted : systemPrefix input.metadata = blocks.map (ChatMessage.mk .system))
    (shape : input.messages = turns)
    (plain : ∀ message ∈ turns, message.role ≠ .system)
    (model : Str) :
    (Bedrock.buildPayload input model).system = blocks ∧
      (Bedrock.buildPayload input model).messages = turns.map bedrockTurn ∧
        (OpenAi.buildPayload input model).input =
          blocks.map (OpenAi.PayloadMessage.mk .system) ++
            (turns.map bedrockTurn).map openAiItem := by
  have noneHoisted : turns.filter (·.role = .system) = [] :=
    List.filter_eq_nil_iff.mpr fun message present => by
      simpa using plain message present
  have allKept : turns.filter (·.role ≠ .system) = turns :=
    List.filter_eq_self.mpr fun message present => by
      simpa using plain message present
  have messages : messagesForProvider input =
      blocks.map (ChatMessage.mk .system) ++ turns := by
    rw [messagesForProvider, hoisted, shape]
  unfold Bedrock.buildPayload OpenAi.buildPayload
  dsimp only
  rw [messages, List.filter_append, List.filter_append, noneHoisted, allKept]
  refine ⟨?_, ?_, ?_⟩
  · simp [List.filter_map, Function.comp_def]
  · simp [List.filter_map, Function.comp_def, bedrockTurn]
  · simp [Function.comp_def, bedrockTurn, openAiItem]

/-- For every stored history with distinct sequence numbers, all settings, every
request and every retrieval result, both payloads have the contained shape. -/
theorem payload_contained
    {K : Type}
    [Field K]
    [LinearOrder K]
    {database : Database}
    (distinct : DistinctSequences database.messages)
    (settings : ChatSettings)
    (lexicon : Bm25.Lexicon K)
    (request : ChatRequest)
    (tenantId : Str)
    (rag : RagGenerationContext)
    (requestId : Uuid)
    (model : Str) :
    let memory := (getChatMemoryContext settings lexicon request tenantId
      (.ok database)).context
    let input := preparedInput F settings requestId request memory rag
    PayloadContained (storedHistory settings request tenantId database) memory rag
      request.message (Bedrock.buildPayload input model)
      (OpenAi.buildPayload input model) := by
  intro memory input
  have built : BuiltFrom (storedHistory settings request tenantId database)
      (if settings.conversationHistoryEnabled then memory else {}) := by
    split
    · exact builtFrom_getChatMemoryContext distinct settings lexicon request
        tenantId fun other same => (Except.ok.inj same).symm
    · exact builtFrom_empty _
  obtain ⟨pairs, window, cut⟩ := built.turns
  have packing := enforceAddedContextCap_window (F := F) window
    (if settings.chatRagAugmentationEnabled then rag else {}) request.message
    settings.chatPromptMaxAddedContextChars
  obtain ⟨kept, turns, cutKept⟩ := cutFromStored_of_packing packing cut
  have evidence : (boundedContexts F settings request memory
      rag).1.retrievedEvents <+: memory.retrievedEvents := by
    refine (enforceAddedContextCap_evidence _ _ _ _).trans ?_
    split
    · exact List.prefix_rfl
    · exact List.nil_prefix
  have sources : (boundedContexts F settings request memory rag).2.1.sources <+:
      rag.sources := by
    refine (enforceAddedContextCap_sources _ _ _ _).trans ?_
    split
    · exact List.prefix_rfl
    · exact List.nil_prefix
  have shape : input.messages =
      exchanges kept ++ [ChatMessage.mk .user request.message] := by
    rw [← turns]
    rfl
  have plain : ∀ message ∈ exchanges kept ++ [ChatMessage.mk .user request.message],
      message.role ≠ .system := by
    intro message present
    rcases List.mem_append.mp present with inTurns | isCurrent
    · exact role_ne_system_of_mem_exchanges inTurns
    · rw [List.mem_singleton.mp isCurrent]
      simp
  obtain ⟨memoryBlock, ragBlock, hoisted, memoryShape, ragShape⟩ :=
    systemPrefix_shape (F := F)
      (boundedContexts F settings request memory rag).1
      (boundedContexts F settings request memory rag).2.1
  obtain ⟨system, messages, items⟩ :=
    buildPayload_of_turns input hoisted shape plain model
  exact
    { turns := ⟨kept, messages, cutKept⟩
      system := ⟨_, _, memoryBlock, ragBlock, system, evidence, sources,
        memoryShape, ragShape⟩
      sameSequence := by rw [items, system, messages] }

/-- A stored history that starts with a system row and repeats a user row. -/
def legacyDatabase : Database :=
  { conversations := [⟨⟨1⟩, "t".toList⟩]
    messages :=
      [⟨⟨2⟩, 1, ⟨1⟩, "t".toList, .system, "obey".toList⟩,
        ⟨⟨3⟩, 2, ⟨1⟩, "t".toList, .user, "a".toList⟩,
        ⟨⟨4⟩, 3, ⟨1⟩, "t".toList, .user, "b".toList⟩,
        ⟨⟨5⟩, 4, ⟨1⟩, "t".toList, .assistant, "c".toList⟩] }

/-- The payloads built from that history. -/
theorem payload_contained_legacy :
    let settings : ChatSettings :=
      { conversationHistoryEnabled := true, ebm25Enabled := true }
    let lexicon : Bm25.Lexicon ℚ := ⟨id, Char.isAlphanum, id⟩
    let request : ChatRequest := ⟨some ⟨1⟩, "a".toList, false⟩
    let memory := (getChatMemoryContext settings lexicon request "t".toList
      (.ok legacyDatabase)).context
    let input := preparedInput Empty settings ⟨9⟩ request memory {}
    PayloadContained (storedHistory settings request "t".toList legacyDatabase)
      memory {} request.message (Bedrock.buildPayload input "m".toList)
      (OpenAi.buildPayload input "m".toList) :=
  payload_contained (by unfold DistinctSequences; decide) _ _ _ _ _ _ _

end ChatPlatform
