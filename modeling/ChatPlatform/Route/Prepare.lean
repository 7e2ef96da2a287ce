import ChatPlatform.Memory.Assembly
import ChatPlatform.Prompt.Cap

/-!
# Preparing the provider request

Before the route does anything else it resets the contexts whose feature is off,
applies the cap to what is left, and merges the two metadata channels.
-/

namespace ChatPlatform

variable (F : Type) [FloatOps F]

/-- The contexts of a request after the resets and the cap, with the outcome that
replaces the recorded one. -/
def boundedContexts
    (settings : ChatSettings)
    (request : ChatRequest)
    (memory : ChatMemoryContext)
    (rag : RagGenerationContext) :
    ChatMemoryContext × RagGenerationContext × Option MemoryOutcome :=
  enforceAddedContextCap F
    (if settings.conversationHistoryEnabled then memory else {})
    (if settings.chatRagAugmentationEnabled then rag else {})
    request.message settings.chatPromptMaxAddedContextChars

/-- The provider request of a chat request. -/
def preparedInput
    (settings : ChatSettings)
    (requestId : Uuid)
    (request : ChatRequest)
    (memory : ChatMemoryContext)
    (rag : RagGenerationContext) : ProviderInput F :=
  providerInput F requestId (boundedContexts F settings request memory rag).1
    (boundedContexts F settings request memory rag).2.1 request.message

/-- Without evidence and without documents a request has no metadata. -/
theorem preparedInput_noMetadata
    {settings : ChatSettings}
    {memory : ChatMemoryContext}
    (noEvidence : memory.retrievedEvents = [])
    (noDocuments : settings.chatRagAugmentationEnabled = false)
    (requestId : Uuid)
    (request : ChatRequest)
    (rag : RagGenerationContext) :
    (preparedInput F settings requestId request memory rag).metadata = none := by
  have events : (boundedContexts F settings request memory rag).1.retrievedEvents = [] := by
    apply List.prefix_nil.mp
    refine (enforceAddedContextCap_evidence _ _ _ _).trans ?_
    split
    · rw [noEvidence]
    · exact List.prefix_rfl
  have sources : (boundedContexts F settings request memory rag).2.1.sources = [] := by
    apply List.prefix_nil.mp
    refine (enforceAddedContextCap_sources _ _ _ _).trans ?_
    rw [noDocuments]
    exact List.prefix_rfl
  simp [preparedInput, providerInput, mergedMetadata, ChatMemoryContext.providerMetadata,
    RagGenerationContext.providerMetadata, events, sources]

end ChatPlatform
