import ChatPlatform.Foundation.Traversal
import ChatPlatform.Memory.Assembly

/-!
# Where assembled memory comes from

The turns of assembled memory are cut from stored pairs of a user message and the
assistant message after it, whatever the roles of the other rows, and the evidence
consists of stored units.
-/

namespace ChatPlatform

/-- The pair is cut from a stored user message and the assistant message right
after it. -/
def CutFromStored (stored : List HistoryMessage) (pair : Str × Str) : Prop :=
  ∃ turn ∈ groupTurns stored, ∃ opening closing,
    turn.messages = [opening, closing] ∧
      opening.role = .user ∧ closing.role = .assistant ∧
        pair.1 <+: opening.content ∧ pair.2 <+: closing.content

/-- The event is the text of a stored unit. -/
def EvidenceOfStored
    (stored : List HistoryMessage)
    (event : RetrievedMemoryEvent) : Prop :=
  ∃ turn ∈ groupTurns stored,
    event.eventId = turn.firstSequence ∧ event.content = turn.documentText

/-- Memory built from a stored history. -/
structure BuiltFrom
    (stored : List HistoryMessage)
    (context : ChatMemoryContext) : Prop where
  /-- The turns are stored pairs, perhaps cut. -/
  turns : ∃ pairs, context.messages = exchanges pairs ∧
    ∀ pair ∈ pairs, CutFromStored stored pair
  /-- The evidence is stored units. -/
  evidence : ∀ event ∈ context.retrievedEvents, EvidenceOfStored stored event

/-- The empty memory is built from any history. -/
theorem builtFrom_empty (stored : List HistoryMessage) : BuiltFrom stored {} :=
  ⟨⟨[], rfl, by simp⟩, by simp⟩

/-- A packing of exchanges cut from stored pairs is cut from stored pairs. -/
theorem cutFromStored_of_packing
    {stored : List HistoryMessage}
    {pairs : List (Str × Str)}
    {messages : List ChatMessage}
    (packing : IsPackingOf pairs messages)
    (cut : ∀ pair ∈ pairs, CutFromStored stored pair) :
    ∃ kept, messages = exchanges kept ∧
      ∀ pair ∈ kept, CutFromStored stored pair := by
  obtain ⟨kept, same, shorter⟩ := packing.exists_exchanges
  refine ⟨kept, same, ?_⟩
  intro pair present
  obtain ⟨whole, inPairs, user, assistant⟩ := shorter pair present
  obtain ⟨turn, inHistory, opening, closing, shape, roleUser, roleAssistant,
    wholeUser, wholeAssistant⟩ := cut whole inPairs
  exact ⟨turn, inHistory, opening, closing, shape, roleUser, roleAssistant,
    user.trans wholeUser, assistant.trans wholeAssistant⟩

section Retrieval

variable {K : Type} [Field K] [LinearOrder K]

/-- Selected evidence consists of units outside the window. -/
private theorem mem_selectEvidence
    {settings : ChatSettings}
    {lexicon : Bm25.Lexicon K}
    {partition : WindowPartition}
    {window : List ChatMessage}
    {message : Str}
    {event : RetrievedMemoryEvent}
    (selected : event ∈
      (selectEvidence settings lexicon partition window message).events) :
    ∃ turn ∈ partition.excludedUnits,
      event.eventId = turn.firstSequence ∧ event.content = turn.documentText := by
  unfold selectEvidence at selected
  dsimp only at selected
  split at selected
  · simp at selected
  · split at selected
    · simp at selected
    · rename_i ranked success
      split at selected
      · simp at selected
      · rename_i first rest accepted
        obtain ⟨source, held, rfl⟩ := List.mem_map.mp selected
        rw [← accepted] at held
        rcases Bm25.mem_of_mem_packFrom held with nothing | isRanked
        · simp at nothing
        · have inCorpus := Bm25.mem_of_mem_rankEvents success isRanked
          obtain ⟨turn, excluded, rfl⟩ := List.mem_map.mp inCorpus
          exact ⟨turn, excluded, rfl, rfl⟩

/-- What was materialized is a partition of the stored history. -/
theorem materializeWindow_spec
    {settings : ChatSettings}
    {database : Database}
    {conversationId : Uuid}
    {tenantId : Str}
    {materialized : Materialized}
    (distinct : DistinctSequences database.messages)
    (success : materializeWindow settings database conversationId tenantId =
      .ok materialized) :
    ∃ kept, Partitions
      ((database.listRecentMessages conversationId tenantId
        settings.conversationHistoryMaxRows).map MessageRow.toHistory)
      kept materialized.partition := by
  unfold materializeWindow Database.fetchOrdered at success
  cases owner : database.getConversation conversationId tenantId with
  | none => simp [owner] at success
  | some conversation =>
      have increasing := Database.strictlyIncreasing_listRecentMessages distinct
        conversationId tenantId settings.conversationHistoryMaxRows
      obtain ⟨assembled, partition, bounded, built, parts⟩ :=
        exists_partition_of_assemble increasing settings.maxMessagesPositive
          settings.conversationHistoryMaxChars
      simp only [owner, bounded, built, Except.ok.injEq] at success
      rw [← success]
      exact ⟨assembled.messages, parts⟩

/-- The memory of a materialized window is built from the stored history. -/
theorem builtFrom_memoryOfPartition
    {settings : ChatSettings}
    {lexicon : Bm25.Lexicon K}
    {materialized : Materialized}
    {stored kept : List HistoryMessage}
    (parts : Partitions stored kept materialized.partition)
    (message : Str) :
    BuiltFrom stored
      (memoryOfPartition settings lexicon materialized message).context := by
  obtain ⟨pairs, window, fromUnits⟩ := exchanges_of_units fun turn present =>
    turn.isWellFormed_iff.mpr (parts.windowPairs turn present)
  have cut : ∀ pair ∈ pairs, CutFromStored stored pair := by
    intro pair present
    obtain ⟨turn, inWindow, opening, closing, shape, user, assistant, rfl⟩ :=
      Traversal.exists_left_of_mem fromUnits present
    exact ⟨turn, parts.windowOrdered.subset inWindow, opening, closing, shape, user,
      assistant, List.prefix_rfl, List.prefix_rfl⟩
  rw [← parts.windowUnitsFlat] at window
  have packing := (packRecentWindow_exchanges pairs
    settings.chatPromptMaxAddedContextChars 0).1
  rw [← window] at packing
  have turns := cutFromStored_of_packing packing cut
  unfold memoryOfPartition
  dsimp only
  split
  · exact ⟨turns, by simp [ChatMemoryContext.fromPartition]⟩
  · rename_i evidence enabled
    refine ⟨turns, ?_⟩
    intro event selected
    split at enabled
    · cases enabled
      obtain ⟨turn, excluded, same⟩ := mem_selectEvidence selected
      exact ⟨turn, parts.excludedOrdered.subset excluded, same⟩
    · cases enabled

/-- The rows the memory of a request is built from: those of the conversation it
names. -/
def storedHistory
    (settings : ChatSettings)
    (request : ChatRequest)
    (tenantId : Str)
    (database : Database) : List HistoryMessage :=
  match request.conversationId with
  | none => []
  | some conversationId =>
      (database.listRecentMessages conversationId tenantId
        settings.conversationHistoryMaxRows).map MessageRow.toHistory

/-- The memory dependency builds its context from the stored history. -/
theorem builtFrom_getChatMemoryContext
    {database : Database}
    (distinct : DistinctSequences database.messages)
    (settings : ChatSettings)
    (lexicon : Bm25.Lexicon K)
    (request : ChatRequest)
    (tenantId : Str)
    {read : Except HistoryFault Database}
    (current : ∀ other, read = .ok other → other = database) :
    BuiltFrom (storedHistory settings request tenantId database)
      (getChatMemoryContext settings lexicon request tenantId read).context := by
  unfold getChatMemoryContext storedHistory
  cases enabled : settings.conversationHistoryEnabled with
  | false => exact builtFrom_empty _
  | true =>
      cases request.conversationId with
      | none => exact builtFrom_empty _
      | some conversationId =>
          cases read with
          | error fault => cases fault <;> exact builtFrom_empty _
          | ok other =>
              rw [current other rfl]
              cases result : materializeWindow settings database conversationId
                  tenantId with
              | error fault =>
                  simp only [result]
                  exact builtFrom_empty _
              | ok materialized =>
                  obtain ⟨kept, parts⟩ := materializeWindow_spec distinct result
                  simp only [result]
                  exact builtFrom_memoryOfPartition parts request.message

end Retrieval

end ChatPlatform
