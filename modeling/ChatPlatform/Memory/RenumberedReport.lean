import ChatPlatform.Memory.Renumbering

/-!
# The report under other sequence numbers

The ranking compares identifiers of units only to break ties and the selection does
not compare them at all, so the memory dependency selects the same units.
-/

namespace ChatPlatform

variable {change : Int → Int} {numbers : Set Int}

/-! ## Ranking and selecting -/

section Ranking

variable {K : Type}

/-- The selection looks at the texts. -/
theorem Bm25.packFrom_renumber
    (change : Int → Int)
    (maxChars : Int)
    (ranked : List (Bm25.RankedEvent K))
    (accepted : List CorpusEvent)
    (used : Nat) :
    Bm25.packFrom maxChars [] (accepted.map (·.renumber change)) used
        (ranked.map (·.renumber change)) =
      ((Bm25.packFrom maxChars [] accepted used ranked).1.map (·.renumber change),
        (Bm25.packFrom maxChars [] accepted used ranked).2) := by
  induction ranked generalizing accepted used with
  | nil => rfl
  | cons first rest inductionHypothesis =>
      have size : (first.renumber change).event.documentText =
          first.event.documentText := first.event.documentText_renumber change
      have onward := inductionHypothesis (accepted ++ [first.event])
        (used + first.event.documentText.length)
      rw [List.map_append, List.map_singleton] at onward
      simp only [List.map_cons, Bm25.packFrom, List.not_mem_nil, if_false,
        List.length_map, size]
      split
      · rfl
      · split
        · exact onward
        · exact inductionHypothesis accepted used

variable [Field K] [LinearOrder K]

/-- The ranking compares the identifiers only. -/
theorem Bm25.rankEvents_renumber
    (ordered : StrictMonoOn change numbers)
    (lexicon : Bm25.Lexicon K)
    {events : List CorpusEvent}
    (numbered : ∀ event ∈ events, event.eventId ∈ numbers)
    (query : List Str) :
    Bm25.rankEvents lexicon (events.map (·.renumber change)) query =
      (Bm25.rankEvents lexicon events query).map
        (List.map (·.renumber change)) := by
  have documents : (events.map (·.renumber change)).map (fun event =>
        Bm25.lexicalTokens lexicon event.documentText) =
      events.map (fun event => Bm25.lexicalTokens lexicon event.documentText) := by
    simp [Function.comp_def]
  unfold Bm25.rankEvents
  simp only [documents, List.map_eq_nil_iff, List.length_map]
  split
  · rfl
  · split
    · rfl
    · rw [Option.map_some, List.map_insertionSort Bm25.precedes Bm25.precedes]
      · simp [Function.comp_def, Bm25.RankedEvent.renumber]
      · intro left leftPresent right rightPresent
        obtain ⟨leftEvent, leftHeld, rfl⟩ := List.mem_map.mp leftPresent
        obtain ⟨rightEvent, rightHeld, rfl⟩ := List.mem_map.mp rightPresent
        have ties := ordered.le_iff_le (numbered leftEvent leftHeld)
          (numbered rightEvent rightHeld)
        apply or_congr Iff.rfl
        exact and_congr Iff.rfl ties.symm

/-- The evidence is the same but for its identifiers. -/
theorem selectEvidence_renumber
    (ordered : StrictMonoOn change numbers)
    (settings : ChatSettings)
    (lexicon : Bm25.Lexicon K)
    {partition : WindowPartition}
    (numbered : ∀ turn ∈ partition.excludedUnits, turn.firstSequence ∈ numbers)
    (window : List ChatMessage)
    (message : Str) :
    selectEvidence settings lexicon (partition.renumber change) window message =
      ⟨(selectEvidence settings lexicon partition window message).events.map
          (·.renumber change),
        (selectEvidence settings lexicon partition window message).outcome⟩ := by
  have corpus : (RetrievalCorpus.fromPartition (partition.renumber change)).events =
      (RetrievalCorpus.fromPartition partition).events.map (·.renumber change) := by
    simp [RetrievalCorpus.fromPartition, WindowPartition.renumber, Function.comp_def]
  have known : ∀ event ∈ (RetrievalCorpus.fromPartition partition).events,
      event.eventId ∈ numbers := by
    intro event present
    obtain ⟨turn, excluded, rfl⟩ := List.mem_map.mp present
    exact numbered turn excluded
  unfold selectEvidence RetrievalCorpus.isEmpty
  dsimp only
  rw [corpus, List.isEmpty_map, Bm25.rankEvents_renumber ordered lexicon known]
  split
  · rfl
  · cases Bm25.rankEvents lexicon (RetrievalCorpus.fromPartition partition).events
        (Bm25.queryTokens lexicon message) with
    | none => rfl
    | some ranked =>
        have packed := Bm25.packFrom_renumber change
          (max (settings.chatPromptMaxAddedContextChars - windowChars window) 0)
          ranked [] 0
        simp only [Option.map_some, Bm25.packSelectedEvents]
        rw [List.map_nil] at packed
        rw [packed]
        dsimp only
        cases (Bm25.packFrom _ [] [] 0 ranked).1 with
        | nil => rfl
        | cons event rest =>
            simp [RetrievedMemoryEvent.renumber, Function.comp_def]

/-! ## The memory dependency -/

/-- A context is made of the window without its numbers. -/
private theorem fromPartition_renumber
    (change : Int → Int)
    (partition : WindowPartition)
    (truncated historyRowCapReached : Bool) :
    ChatMemoryContext.fromPartition (partition.renumber change) truncated
        historyRowCapReached =
      ChatMemoryContext.fromPartition partition truncated historyRowCapReached := by
  simp [ChatMemoryContext.fromPartition, WindowPartition.renumber, Function.comp_def]

/-- The memory of a window is the same but for the identifiers of its evidence. -/
theorem memoryOfPartition_renumber
    (ordered : StrictMonoOn change numbers)
    (settings : ChatSettings)
    (lexicon : Bm25.Lexicon K)
    {materialized : Materialized}
    (numbered : ∀ turn ∈ materialized.partition.excludedUnits,
      turn.firstSequence ∈ numbers)
    (message : Str) :
    memoryOfPartition settings lexicon (materialized.renumber change) message =
      (memoryOfPartition settings lexicon materialized message).renumber change := by
  unfold memoryOfPartition
  simp only [Materialized.renumber, fromPartition_renumber,
    selectEvidence_renumber ordered settings lexicon numbered]
  cases settings.ebm25Enabled with
  | false => rfl
  | true => simp [MemoryReport.renumber, ChatMemoryContext.renumber]

/-- The units outside the window are units of the history. -/
private theorem mem_groupTurns_of_mem_excludedUnits
    {messages kept : List HistoryMessage}
    {partition : WindowPartition}
    (built : buildMaterializedWindow messages kept = some partition)
    {turn : TurnUnit}
    (excluded : turn ∈ partition.excludedUnits) : turn ∈ groupTurns messages := by
  unfold buildMaterializedWindow at built
  dsimp only at built
  split at built
  · rename_i groups
    cases built
    exact excluded
  · cases built
    exact excluded
  · rename_i bound _ _
    split at built
    · cases built
    · rename_i first later span
      cases built
      rcases List.mem_append.mp excluded with before | malformed
      · exact List.mem_of_mem_take before
      · exact List.mem_of_mem_drop (List.mem_of_mem_filter malformed)

/-- The units outside the window are numbered as the history is. -/
private theorem excludedUnits_numbered
    {settings : ChatSettings}
    {database : Database}
    {conversationId : Uuid}
    {tenantId : Str}
    {materialized : Materialized}
    (numbered : ∀ row ∈ database.messagesOf conversationId tenantId,
      row.sequence ∈ numbers)
    (success : materializeWindow settings database conversationId tenantId =
      .ok materialized) :
    ∀ turn ∈ materialized.partition.excludedUnits, turn.firstSequence ∈ numbers := by
  intro turn excluded
  unfold materializeWindow Database.fetchOrdered at success
  split at success
  · cases success
  · rename_i messages read
    split at success
    · cases success
    · split at success
      · cases success
      · rename_i assembled _ _ partition built
        cases success
        have grouped := mem_groupTurns_of_mem_excludedUnits built excluded
        have opening : turn.messages.head turn.nonempty ∈ messages := by
          rw [← flatMap_groupTurns messages]
          exact List.mem_flatMap.mpr ⟨turn, grouped, List.head_mem turn.nonempty⟩
        split at read
        · cases read
        · cases read
          obtain ⟨row, recent, same⟩ := List.mem_map.mp opening
          obtain ⟨stored, ofConversation, ofTenant⟩ :=
            Database.mem_of_mem_listRecentMessages recent
          unfold TurnUnit.firstSequence
          rw [← same]
          apply numbered row
          simp [Database.messagesOf, stored, ofConversation, ofTenant]

/-- The memory dependency reports the same but for the identifiers of the evidence. -/
theorem getChatMemoryContext_renumber
    (ordered : StrictMonoOn change numbers)
    (settings : ChatSettings)
    (lexicon : Bm25.Lexicon K)
    (request : ChatRequest)
    (tenantId : Str)
    {database other : Database}
    (owner : ∀ conversationId, other.getConversation conversationId tenantId =
      database.getConversation conversationId tenantId)
    (rows : ∀ conversationId, other.messagesOf conversationId tenantId =
      (database.messagesOf conversationId tenantId).map (·.renumber change))
    (numbered : ∀ conversationId, ∀ row ∈ database.messagesOf conversationId tenantId,
      row.sequence ∈ numbers) :
    getChatMemoryContext settings lexicon request tenantId (.ok other) =
      (getChatMemoryContext settings lexicon request tenantId (.ok database)).renumber
        change := by
  unfold getChatMemoryContext
  split
  · rfl
  · cases request.conversationId with
    | none => rfl
    | some conversationId =>
        dsimp only
        rw [materializeWindow_renumber ordered settings (owner conversationId)
          (rows conversationId) (numbered conversationId)]
        cases result : materializeWindow settings database conversationId tenantId with
        | error fault => rfl
        | ok materialized =>
            exact memoryOfPartition_renumber ordered settings lexicon
              (excludedUnits_numbered (numbered conversationId) result) request.message

end Ranking

end ChatPlatform
