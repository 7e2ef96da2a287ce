import ChatPlatform.Conversation.Turns
import ChatPlatform.Prompt.Messages

/-!
# The added context of a request

The recent turns and the conversation evidence form the memory context, the
retrieved documents the generation context. Each renders its own metadata channel,
and the channels are merged into the metadata of the provider request. A context
built by the program always passes the checks of the renderer.
-/

namespace ChatPlatform

variable {F : Type}

/-- One unit of the conversation selected as evidence. -/
structure RetrievedMemoryEvent where
  /-- Sequence number of the unit's opening message. -/
  eventId : Int
  /-- Text of the unit. -/
  content : Str
  deriving DecidableEq, Repr

/-- What the memory channel did. -/
inductive MemoryOutcome
  | skippedFirstTurn
  | conversationNotFound
  | timeout
  | error
  | noOutOfWindowCorpus
  | budgetStarved
  | currentMessageOversized
  | empty
  | ok
  deriving DecidableEq, Repr

/-- The dictionary of one event. -/
def RetrievedMemoryEvent.providerDict (event : RetrievedMemoryEvent) : Dict F :=
  [("event_id".toList, .int event.eventId),
    ("content".toList, .str event.content)]

/-- Ordered prior turns and selected evidence. The empty context is the default. -/
structure ChatMemoryContext where
  /-- The recent turns. -/
  messages : List ChatMessage := []
  /-- Whether the history was bounded. -/
  truncated : Bool := false
  /-- Whether the read of the history reached its row limit. -/
  historyRowCapReached : Bool := false
  /-- The selected evidence, in selection order. -/
  retrievedEvents : List RetrievedMemoryEvent := []
  deriving DecidableEq, Repr

/-- The `memory` channel, absent without evidence. -/
def ChatMemoryContext.providerMetadata (context : ChatMemoryContext) :
    Option (Dict F) :=
  if context.retrievedEvents = [] then none
  else some
    [("memory".toList, .dict
      [("schema_version".toList, .str memorySchemaVersion),
        ("events".toList, .list (context.retrievedEvents.map fun event =>
          .dict event.providerDict))])]

/-- The context of a window: its messages without their sequence numbers. -/
def ChatMemoryContext.fromPartition
    (partition : WindowPartition)
    (truncated historyRowCapReached : Bool) : ChatMemoryContext :=
  { messages := partition.window.map fun message =>
      ⟨message.role, message.content⟩
    truncated
    historyRowCapReached }

/-- One retrieved document passage. -/
structure RagSource where
  /-- Citation marker. -/
  citation : Str
  /-- Identifier of the document. -/
  documentId : Uuid
  /-- Identifier of the passage. -/
  chunkId : Uuid
  /-- Rank given by the retrieval. -/
  rank : Int
  /-- Text of the passage. -/
  content : Str
  /-- Whether the text was cut. -/
  truncated : Bool
  deriving DecidableEq, Repr

/-- The dictionary of one source. -/
def RagSource.providerDict (source : RagSource) : Dict F :=
  [("citation".toList, .str source.citation),
    ("document_id".toList, .str source.documentId.text),
    ("chunk_id".toList, .str source.chunkId.text),
    ("rank".toList, .int source.rank),
    ("truncated".toList, .bool source.truncated),
    ("content".toList, .str source.content)]

/-- What the retrieval channel did. -/
inductive RetrievalOutcome
  | skipped
  | ok
  | empty
  | timeout
  | error
  deriving DecidableEq, Repr

/-- The retrieved documents of one request. -/
structure RagGenerationContext where
  /-- The sources in citation order. -/
  sources : List RagSource := []
  /-- What the retrieval channel did. -/
  outcome : Option RetrievalOutcome := none
  deriving DecidableEq, Repr

/-- The `rag` channel, absent without sources. -/
def RagGenerationContext.providerMetadata (context : RagGenerationContext) :
    Option (Dict F) :=
  if context.sources = [] then none
  else some
    [("rag".toList, .dict
      [("schema_version".toList, .str ragSchemaVersion),
        ("sources".toList, .list (context.sources.map fun source =>
          .dict source.providerDict))])]

/-- The merged channels, absent when both are. -/
def mergedMetadata
    (memory : ChatMemoryContext)
    (rag : RagGenerationContext) : Option (Dict F) :=
  let merged := Dict.merge (memory.providerMetadata.getD [])
    (rag.providerMetadata.getD [])
  if merged.isEmpty then none else some merged

/-- The sources carry the markers of their positions, counted from `start`, and
positive ranks. -/
def CitedFrom : Nat → List RagSource → Prop
  | _, [] => True
  | start, source :: rest =>
      source.citation = citationMarker start ∧ 1 ≤ source.rank ∧
        CitedFrom (start + 1) rest

/-- A prefix of cited sources is cited. -/
theorem CitedFrom.of_prefix
    {start : Nat}
    {sources shorter : List RagSource}
    (cited : CitedFrom start sources)
    (isShorter : shorter <+: sources) : CitedFrom start shorter := by
  induction shorter generalizing start sources with
  | nil => trivial
  | cons source rest inductionHypothesis =>
      obtain ⟨tail, rfl⟩ := isShorter
      obtain ⟨marker, positive, others⟩ := cited
      exact ⟨marker, positive,
        inductionHypothesis others (List.prefix_append rest tail)⟩

/-! ## The renderer accepts what the program builds -/

private theorem isMemoryEvent_providerDict (event : RetrievedMemoryEvent) :
    isMemoryEvent (event.providerDict (F := F)) = true := by
  simp [isMemoryEvent, RetrievedMemoryEvent.providerDict, Dict.hasKeySet,
    Dict.keys]

private theorem validateMemoryEvents_map (events : List RetrievedMemoryEvent) :
    validateMemoryEvents (F := F)
      (events.map fun event => .dict event.providerDict) =
        some (events.map (·.providerDict)) := by
  induction events with
  | nil => rfl
  | cons event rest inductionHypothesis =>
      simp [validateMemoryEvents, isMemoryEvent_providerDict,
        inductionHypothesis]

private theorem isSource_providerDict
    {index : Nat}
    {source : RagSource}
    (marker : source.citation = citationMarker index)
    (positive : 1 ≤ source.rank) :
    isSource index (source.providerDict (F := F)) = true := by
  simp [isSource, RagSource.providerDict, Dict.hasKeySet, Dict.keys,
    sourceKeys, marker, positive, Uuid.ofText_text]

private theorem validateSources_map
    {start : Nat}
    {sources : List RagSource}
    (cited : CitedFrom start sources) :
    validateSources (F := F) start
      (sources.map fun source => .dict source.providerDict) =
        some (sources.map (·.providerDict)) := by
  induction sources generalizing start with
  | nil => rfl
  | cons source rest inductionHypothesis =>
      obtain ⟨marker, positive, others⟩ := cited
      simp [validateSources, isSource_providerDict marker positive,
        inductionHypothesis others]

/-- The merged metadata holds the channels of both contexts side by side. -/
private theorem mergedMetadata_eq
    (memory : ChatMemoryContext)
    (rag : RagGenerationContext) :
    mergedMetadata (F := F) memory rag =
      match memory.providerMetadata, rag.providerMetadata with
      | none, channels => channels
      | some channels, none => some channels
      | some channels, some more => some (channels ++ more) := by
  unfold mergedMetadata ChatMemoryContext.providerMetadata
    RagGenerationContext.providerMetadata
  split <;> split <;> simp [Dict.merge, Dict.set, Dict.keys]

/-- The document channel of merged metadata does not depend on the evidence. -/
theorem documents_mergedMetadata
    (memory : ChatMemoryContext)
    (rag : RagGenerationContext) :
    (mergedMetadata (F := F) memory rag).bind (Dict.get · "rag".toList) =
      rag.providerMetadata.bind (Dict.get · "rag".toList) := by
  rw [mergedMetadata_eq]
  unfold ChatMemoryContext.providerMetadata RagGenerationContext.providerMetadata
  cases memory.retrievedEvents with
  | nil => rfl
  | cons event others =>
      cases rag.sources with
      | nil => simp
      | cons source rest => simp

/-- Nothing is rendered for a request without evidence; otherwise all evidence. -/
theorem validatedMemoryEvents_mergedMetadata
    (memory : ChatMemoryContext)
    (rag : RagGenerationContext) :
    validatedMemoryEvents (F := F) (mergedMetadata memory rag) =
      if memory.retrievedEvents = [] then none
      else some (memory.retrievedEvents.map (·.providerDict)) := by
  rw [mergedMetadata_eq]
  unfold ChatMemoryContext.providerMetadata RagGenerationContext.providerMetadata
  cases events : memory.retrievedEvents with
  | nil =>
      cases rag.sources with
      | nil => rfl
      | cons source rest =>
          simp [validatedMemoryEvents, channelItems]
  | cons event rest =>
      have valid := validateMemoryEvents_map (F := F) (event :: rest)
      cases rag.sources <;>
        simpa [validatedMemoryEvents, channelItems] using valid

/-- The sources of merged metadata are checked as they are. -/
private theorem validatedSources_mergedMetadata_eq
    (memory : ChatMemoryContext)
    (rag : RagGenerationContext) :
    validatedSources (F := F) (mergedMetadata memory rag) =
      if rag.sources = [] then none
      else validateSources 1
        (rag.sources.map fun source => .dict source.providerDict) := by
  rw [mergedMetadata_eq]
  unfold ChatMemoryContext.providerMetadata RagGenerationContext.providerMetadata
  cases sources : rag.sources with
  | nil =>
      cases memory.retrievedEvents with
      | nil => rfl
      | cons event rest => simp [validatedSources, channelItems]
  | cons source rest =>
      cases memory.retrievedEvents <;>
        simp [validatedSources, channelItems]

/-- Nothing is rendered for a request without sources; otherwise all sources, when
they are cited by position. -/
theorem validatedSources_mergedMetadata
    (memory : ChatMemoryContext)
    {rag : RagGenerationContext}
    (cited : CitedFrom 1 rag.sources) :
    validatedSources (F := F) (mergedMetadata memory rag) =
      if rag.sources = [] then none
      else some (rag.sources.map (·.providerDict)) := by
  rw [validatedSources_mergedMetadata_eq, validateSources_map cited]

/-- The sources cited by position are accepted as they are. -/
theorem validatedSources_providerMetadata
    {rag : RagGenerationContext}
    (cited : CitedFrom 1 rag.sources) :
    validatedSources (F := F) rag.providerMetadata =
      if rag.sources = [] then none
      else some (rag.sources.map (·.providerDict)) := by
  have accepted := validatedSources_mergedMetadata (F := F) {} cited
  rwa [mergedMetadata_eq] at accepted

/-- Accepted sources are the ones that were checked. -/
private theorem eq_map_of_validateSources
    {start : Nat}
    {items : List (Value F)}
    {sources : List (Dict F)}
    (valid : validateSources start items = some sources) :
    items = sources.map .dict := by
  induction items generalizing start sources with
  | nil =>
      cases valid
      rfl
  | cons item rest inductionHypothesis =>
      cases item with
      | dict source =>
          simp only [validateSources] at valid
          split at valid
          · obtain ⟨others, validRest, rfl⟩ := Option.map_eq_some_iff.mp valid
            rw [inductionHypothesis validRest]
            rfl
          · cases valid
      | _ => simp [validateSources] at valid

/-- Whatever the sources are, all of them are rendered or none. -/
theorem validatedSources_mergedMetadata_all_or_none
    (memory : ChatMemoryContext)
    (rag : RagGenerationContext) :
    validatedSources (F := F) (mergedMetadata memory rag) = none ∨
      validatedSources (F := F) (mergedMetadata memory rag) =
        some (rag.sources.map (·.providerDict)) := by
  rw [validatedSources_mergedMetadata_eq]
  split
  · exact Or.inl rfl
  · cases valid : validateSources (F := F) 1
        (rag.sources.map fun source => .dict source.providerDict) with
    | none => exact Or.inl rfl
    | some sources =>
        right
        have same := eq_map_of_validateSources valid
        have dicts : sources = rag.sources.map (·.providerDict) := by
          apply List.map_injective_iff.mpr (fun _ _ => Value.dict.inj)
          rw [← same, List.map_map]
          rfl
        rw [dicts]

end ChatPlatform
