import ChatPlatform.Foundation.Delimiters
import ChatPlatform.Prompt.Packer

/-!
# The added-context cap

The recent window, the conversation evidence and the retrieved documents share one
limit on the characters added to a request. The size of a channel is the size of
its rendered text. What does not fit is dropped in a fixed order: evidence from the
end, the oldest turns, the contents of the last turn, and documents from the end.
-/

namespace ChatPlatform

variable (F : Type) [FloatOps F]

/-- Rendered size of the retrieved documents. -/
def documentalChars (rag : RagGenerationContext) : Nat :=
  if rag.sources = [] then 0
  else (renderRagSourcesBlock (F := F)
    (rag.sources.map (·.providerDict))).length

/-- Rendered size of the evidence. -/
def evidenceChars (memory : ChatMemoryContext) : Nat :=
  if memory.retrievedEvents = [] then 0
  else (renderMemoryEventsBlock (F := F)
    (memory.retrievedEvents.map (·.providerDict))).length

/-- Size of everything added to the request. -/
def addedTotal (memory : ChatMemoryContext) (rag : RagGenerationContext) : Nat :=
  documentalChars F rag + windowChars memory.messages + evidenceChars F memory

/-- The memory context without any content. -/
def ChatMemoryContext.cleared (memory : ChatMemoryContext) : ChatMemoryContext :=
  { memory with
    messages := []
    retrievedEvents := []
    truncated := memory.truncated || !memory.messages.isEmpty }

/-- Step 1: drop evidence, the newest selection first. -/
def dropEvidence
    (maxChars : Int)
    (memory : ChatMemoryContext)
    (rag : RagGenerationContext) : ChatMemoryContext :=
  { memory with
    retrievedEvents := Trim.trimEnd
      (fun events => maxChars <
        addedTotal F { memory with retrievedEvents := events } rag)
      memory.retrievedEvents }

/-- Steps 2 and 3: pack the window into what the other channels leave. -/
def packWindow
    (maxChars : Int)
    (memory : ChatMemoryContext)
    (rag : RagGenerationContext) : ChatMemoryContext :=
  if maxChars < addedTotal F memory rag then
    let packed := packRecentWindow memory.messages maxChars
      (documentalChars F rag + evidenceChars F memory)
    { memory with
      messages := packed.messages
      truncated := memory.truncated || packed.truncated }
  else memory

/-- Step 4: drop documents from the end. -/
def dropSources
    (maxChars : Int)
    (memory : ChatMemoryContext)
    (rag : RagGenerationContext) : RagGenerationContext :=
  { rag with
    sources := Trim.trimEnd
      (fun sources => maxChars <
        addedTotal F memory { rag with sources })
      rag.sources }

/-- Trim the added context until it fits, and say whether the recorded outcome is
to be replaced. -/
def enforceAddedContextCap
    (memory : ChatMemoryContext)
    (rag : RagGenerationContext)
    (currentMessage : Str)
    (maxChars : Int) :
    ChatMemoryContext × RagGenerationContext × Option MemoryOutcome :=
  if 0 < maxChars ∧ maxChars ≤ currentMessage.length then
    (memory.cleared, { rag with sources := [] }, some .currentMessageOversized)
  else if maxChars ≤ 0 then
    (memory.cleared, { rag with sources := [] },
      if 0 < addedTotal F memory rag then some .budgetStarved else none)
  else
    let reduced := packWindow F maxChars (dropEvidence F maxChars memory rag) rag
    let trimmed := dropSources F maxChars reduced rag
    (reduced, trimmed,
      if addedTotal F reduced trimmed < addedTotal F memory rag then
        some .budgetStarved
      else none)

/-- The messages of a request: the recent turns, then the current message. -/
def requestMessages
    (memory : ChatMemoryContext)
    (currentMessage : Str) : List ChatMessage :=
  memory.messages ++ [⟨.user, currentMessage⟩]

/-- The provider request of a chat request whose contexts are bounded. -/
def providerInput
    (requestId : Uuid)
    (memory : ChatMemoryContext)
    (rag : RagGenerationContext)
    (currentMessage : Str) : ProviderInput F :=
  { requestId
    messages := requestMessages memory currentMessage
    metadata := mergedMetadata memory rag }

/-- Characters added to the request: the system messages in front of the turns
and the recent turns. -/
def charactersAdded
    (memory : ChatMemoryContext)
    (rag : RagGenerationContext) : Nat :=
  windowChars (systemPrefix (F := F) (mergedMetadata memory rag)) +
    windowChars memory.messages

/-! ## Sizes -/

section Sizes

variable {F}

/-- Around the records, the documents take 410 characters. -/
theorem length_renderRagSourcesBlock (sources : List (Dict F)) :
    (renderRagSourcesBlock sources).length =
      410 + (Json.dumps promptStyle (.list (sources.map .dict))).length := by
  unfold renderRagSourcesBlock ragInstructions
  simp only [String.toList_append, List.append_assoc]
  refine (Text.length_literal_append 84 rfl (Text.length_literal_append 85 rfl
    (Text.length_literal_append 89 rfl (Text.length_literal_append 92 rfl
      (Text.length_literal_append 32 rfl (Text.length_literal_append 28 rfl rfl)))))).trans ?_
  omega

/-- Around the records, the evidence takes 353 characters. -/
theorem length_renderMemoryEventsBlock (events : List (Dict F)) :
    (renderMemoryEventsBlock events).length =
      353 + (Json.dumps promptStyle (.list (events.map .dict))).length := by
  have closing : memoryEnvelopeClosing.length = 19 := Text.length_literal rfl
  unfold renderMemoryEventsBlock memoryEnvelopeOpening
  rw [List.length_append, closing]
  simp only [String.toList_append, List.append_assoc]
  refine (congrArg (· + 19) (Text.length_literal_append 75 rfl
    (Text.length_literal_append 1 rfl (Text.length_literal_append 88 rfl
      (Text.length_literal_append 83 rfl (Text.length_literal_append 49 rfl
        (Text.length_literal_append 1 rfl
          (Text.length_literal_append 37 rfl rfl)))))))).trans ?_
  omega

/-- Size of the documents by their records. -/
theorem documentalChars_eq (rag : RagGenerationContext) :
    documentalChars F rag =
      if rag.sources = [] then 0
      else 410 + (Json.dumps (F := F) promptStyle
        (.list ((rag.sources.map (·.providerDict)).map .dict))).length := by
  rw [documentalChars, length_renderRagSourcesBlock]

/-- Size of the evidence by its records. -/
theorem evidenceChars_eq (memory : ChatMemoryContext) :
    evidenceChars F memory =
      if memory.retrievedEvents = [] then 0
      else 353 + (Json.dumps (F := F) promptStyle
        (.list ((memory.retrievedEvents.map (·.providerDict)).map .dict))).length := by
  rw [evidenceChars, length_renderMemoryEventsBlock]

/-- Size of everything added by the records of its channels. -/
theorem addedTotal_eq (memory : ChatMemoryContext) (rag : RagGenerationContext) :
    addedTotal F memory rag =
      (if rag.sources = [] then 0
        else 410 + (Json.dumps (F := F) promptStyle
          (.list ((rag.sources.map (·.providerDict)).map .dict))).length) +
      windowChars memory.messages +
      (if memory.retrievedEvents = [] then 0
        else 353 + (Json.dumps (F := F) promptStyle
          (.list ((memory.retrievedEvents.map (·.providerDict)).map .dict))).length) := by
  rw [addedTotal, documentalChars_eq, evidenceChars_eq]

end Sizes

/-! ## What the renderer delivers -/

/-- The system messages of the two channels, each present when it is not empty. -/
def channelEnvelopes
    (memory : ChatMemoryContext)
    (rag : RagGenerationContext) : List ChatMessage :=
  (if memory.retrievedEvents = [] then []
    else [⟨.system, renderMemoryEventsBlock (F := F)
      (memory.retrievedEvents.map (·.providerDict))⟩]) ++
  if rag.sources = [] then []
  else [⟨.system, renderRagSourcesBlock (F := F)
    (rag.sources.map (·.providerDict))⟩]

/-- The system messages of a bounded request: one for each channel that is not
empty. -/
theorem systemPrefix_mergedMetadata
    (memory : ChatMemoryContext)
    {rag : RagGenerationContext}
    (cited : CitedFrom 1 rag.sources) :
    systemPrefix (F := F) (mergedMetadata memory rag) =
      channelEnvelopes F memory rag := by
  unfold systemPrefix channelEnvelopes
  rw [validatedMemoryEvents_mergedMetadata,
    validatedSources_mergedMetadata memory cited]
  split <;> split <;> simp_all

/-- What is measured is what is added. -/
theorem charactersAdded_eq_addedTotal
    (memory : ChatMemoryContext)
    {rag : RagGenerationContext}
    (cited : CitedFrom 1 rag.sources) :
    charactersAdded F memory rag = addedTotal F memory rag := by
  unfold charactersAdded addedTotal documentalChars evidenceChars
  rw [systemPrefix_mergedMetadata F memory cited]
  unfold channelEnvelopes
  rw [windowChars_append]
  split <;> split <;> simp <;> omega

end ChatPlatform
