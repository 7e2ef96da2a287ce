import ChatPlatform.Prompt.Budget

/-!
# The cap is hard

Whatever the contents, the characters added to a request never exceed the cap, and
what is left of each channel is still in the form its consumer expects.
-/

namespace ChatPlatform

variable {F : Type} [FloatOps F]

/-- What the cap guarantees of the contexts it returns. -/
structure WithinCap
    (F : Type)
    [FloatOps F]
    (pairs : List (Str × Str))
    (memory : ChatMemoryContext)
    (rag : RagGenerationContext)
    (currentMessage : Str)
    (maxChars : Int)
    (bounded : ChatMemoryContext)
    (documents : RagGenerationContext) : Prop where
  /-- The added characters meet the cap. -/
  fits : (charactersAdded F bounded documents : Int) ≤ maxChars
  /-- The evidence is cut from the end. -/
  evidencePrefix : bounded.retrievedEvents <+: memory.retrievedEvents
  /-- The documents are cut from the end. -/
  sourcesPrefix : documents.sources <+: rag.sources
  /-- The window keeps whole recent exchanges, or cuts the last one. -/
  windowPacked : IsPackingOf pairs bounded.messages
  /-- Every channel that is left reaches the provider. -/
  delivered : ∀ requestId,
    messagesForProvider (providerInput F requestId bounded documents
      currentMessage) =
        channelEnvelopes F bounded documents ++ bounded.messages ++
          [⟨.user, currentMessage⟩]
  /-- A current message as long as the cap leaves room for nothing. -/
  oversized : maxChars ≤ currentMessage.length →
    bounded.retrievedEvents = [] ∧ bounded.messages = [] ∧
      documents.sources = []

/-! ## The four steps -/

private theorem addedTotal_of_empty
    {memory : ChatMemoryContext}
    {rag : RagGenerationContext}
    (noEvidence : memory.retrievedEvents = [])
    (noWindow : memory.messages = [])
    (noSources : rag.sources = []) : addedTotal F memory rag = 0 := by
  simp [addedTotal, documentalChars, evidenceChars, noEvidence, noWindow,
    noSources]

/-- After step 1 the total fits or no evidence is left. -/
theorem dropEvidence_stops
    (maxChars : Int)
    (memory : ChatMemoryContext)
    (rag : RagGenerationContext) :
    (dropEvidence F maxChars memory rag).retrievedEvents = [] ∨
      (addedTotal F (dropEvidence F maxChars memory rag) rag : Int) ≤
        maxChars := by
  have stops := Trim.trimEnd_stops
    (fun events => decide (maxChars <
      addedTotal F { memory with retrievedEvents := events } rag))
    memory.retrievedEvents
  rcases stops with empty | within
  · exact Or.inl empty
  · have bounded := of_decide_eq_false within
    exact Or.inr (Int.not_lt.mp bounded)

/-- After step 4 the total fits or no document is left. -/
theorem dropSources_stops
    (maxChars : Int)
    (memory : ChatMemoryContext)
    (rag : RagGenerationContext) :
    (dropSources F maxChars memory rag).sources = [] ∨
      (addedTotal F memory (dropSources F maxChars memory rag) : Int) ≤
        maxChars := by
  have stops := Trim.trimEnd_stops
    (fun sources => decide (maxChars <
      addedTotal F memory { rag with sources := sources })) rag.sources
  rcases stops with empty | within
  · exact Or.inl empty
  · have bounded := of_decide_eq_false within
    exact Or.inr (Int.not_lt.mp bounded)

/-- Documents that fit are all kept. -/
theorem dropSources_of_fits
    {maxChars : Int}
    {memory : ChatMemoryContext}
    {rag : RagGenerationContext}
    (fits : (addedTotal F memory rag : Int) ≤ maxChars) :
    dropSources F maxChars memory rag = rag := by
  unfold dropSources
  rw [Trim.trimEnd_eq_self (decide_eq_false (Int.not_lt.mpr fits))]

/-- Steps 2 and 3 keep the shape of the window, and the total then fits unless
both the window and the evidence are empty. -/
theorem packWindow_spec
    {pairs : List (Str × Str)}
    {maxChars : Int}
    {memory : ChatMemoryContext}
    (rag : RagGenerationContext)
    (window : memory.messages = exchanges pairs)
    (stopped : memory.retrievedEvents = [] ∨
      (addedTotal F memory rag : Int) ≤ maxChars) :
    IsPackingOf pairs (packWindow F maxChars memory rag).messages ∧
      ((addedTotal F (packWindow F maxChars memory rag) rag : Int) ≤ maxChars ∨
        (packWindow F maxChars memory rag).retrievedEvents = [] ∧
          (packWindow F maxChars memory rag).messages = []) := by
  unfold packWindow
  by_cases tooLong : maxChars < addedTotal F memory rag
  · have noEvidence : memory.retrievedEvents = [] := by
      rcases stopped with empty | fits
      · exact empty
      · omega
    rw [if_pos tooLong, window]
    obtain ⟨packing, fits⟩ := packRecentWindow_exchanges pairs maxChars
      (documentalChars F rag + evidenceChars F memory)
    refine ⟨packing, ?_⟩
    rcases fits with empty | within
    · exact Or.inr ⟨noEvidence, empty⟩
    · refine Or.inl ?_
      have same : evidenceChars F { memory with
          messages := (packRecentWindow (exchanges pairs) maxChars
            (documentalChars F rag + evidenceChars F memory)).messages
          truncated := memory.truncated || (packRecentWindow (exchanges pairs)
            maxChars (documentalChars F rag +
              evidenceChars F memory)).truncated } =
          evidenceChars F memory := rfl
      unfold addedTotal
      rw [same]
      dsimp only
      push_cast
      omega
  · rw [if_neg tooLong]
    refine ⟨?_, Or.inl (Int.not_lt.mp tooLong)⟩
    rw [window]
    exact .suffix pairs List.suffix_rfl

@[simp] theorem packWindow_retrievedEvents
    (maxChars : Int)
    (memory : ChatMemoryContext)
    (rag : RagGenerationContext) :
    (packWindow F maxChars memory rag).retrievedEvents =
      memory.retrievedEvents := by
  unfold packWindow
  split <;> rfl

/-- The four steps together meet the cap. -/
theorem reduce_fits
    {pairs : List (Str × Str)}
    {maxChars : Int}
    {memory : ChatMemoryContext}
    (window : memory.messages = exchanges pairs)
    (rag : RagGenerationContext)
    (positive : 0 < maxChars) :
    (addedTotal F
      (packWindow F maxChars (dropEvidence F maxChars memory rag) rag)
      (dropSources F maxChars
        (packWindow F maxChars (dropEvidence F maxChars memory rag) rag)
        rag) : Int) ≤ maxChars := by
  have sameWindow : (dropEvidence F maxChars memory rag).messages =
      exchanges pairs := window
  have spec := packWindow_spec rag sameWindow
    (dropEvidence_stops maxChars memory rag)
  generalize packWindow F maxChars (dropEvidence F maxChars memory rag) rag =
    reduced at spec ⊢
  rcases spec.2 with fits | ⟨noEvidence, noWindow⟩
  · rwa [dropSources_of_fits fits]
  · rcases dropSources_stops (F := F) maxChars reduced rag with
      noSources | fits
    · rw [addedTotal_of_empty noEvidence noWindow noSources]
      exact Int.le_of_lt positive
    · exact fits

/-- Every channel of a bounded request reaches the provider. -/
private theorem messagesForProvider_bounded
    {bounded : ChatMemoryContext}
    {documents : RagGenerationContext}
    (cited : CitedFrom 1 documents.sources)
    (requestId : Uuid)
    (currentMessage : Str) :
    messagesForProvider (providerInput F requestId bounded documents
      currentMessage) =
        channelEnvelopes F bounded documents ++ bounded.messages ++
          [⟨.user, currentMessage⟩] := by
  unfold messagesForProvider providerInput requestMessages
  rw [systemPrefix_mergedMetadata F bounded cited, List.append_assoc]

/-! ## What each channel keeps -/

/-- The cap only drops evidence from the end. -/
theorem enforceAddedContextCap_evidence
    (memory : ChatMemoryContext)
    (rag : RagGenerationContext)
    (currentMessage : Str)
    (maxChars : Int) :
    (enforceAddedContextCap F memory rag currentMessage maxChars).1.retrievedEvents
      <+: memory.retrievedEvents := by
  unfold enforceAddedContextCap
  split
  · exact List.nil_prefix
  · split
    · exact List.nil_prefix
    · dsimp only
      rw [packWindow_retrievedEvents]
      exact Trim.trimEnd_prefix _ _

/-- The cap only drops documents from the end. -/
theorem enforceAddedContextCap_sources
    (memory : ChatMemoryContext)
    (rag : RagGenerationContext)
    (currentMessage : Str)
    (maxChars : Int) :
    (enforceAddedContextCap F memory rag currentMessage maxChars).2.1.sources
      <+: rag.sources := by
  unfold enforceAddedContextCap
  split
  · exact List.nil_prefix
  · split
    · exact List.nil_prefix
    · exact Trim.trimEnd_prefix _ _

/-- The cap packs a window of exchanges. -/
theorem enforceAddedContextCap_window
    {pairs : List (Str × Str)}
    {memory : ChatMemoryContext}
    (window : memory.messages = exchanges pairs)
    (rag : RagGenerationContext)
    (currentMessage : Str)
    (maxChars : Int) :
    IsPackingOf pairs
      (enforceAddedContextCap F memory rag currentMessage maxChars).1.messages := by
  unfold enforceAddedContextCap
  split
  · exact .suffix [] List.nil_suffix
  · split
    · exact .suffix [] List.nil_suffix
    · have sameWindow : (dropEvidence F maxChars memory rag).messages =
          exchanges pairs := window
      exact (packWindow_spec rag sameWindow
        (dropEvidence_stops maxChars memory rag)).1

/-- After step 1 no evidence is left, unless the window fits next to the documents. -/
theorem dropEvidence_spec
    (maxChars : Int)
    (memory : ChatMemoryContext)
    (rag : RagGenerationContext) :
    if maxChars < documentalChars F rag + windowChars memory.messages then
      (dropEvidence F maxChars memory rag).retrievedEvents = []
    else (addedTotal F (dropEvidence F maxChars memory rag) rag : Int) ≤ maxChars := by
  have stops := dropEvidence_stops (F := F) maxChars memory rag
  have window : (dropEvidence F maxChars memory rag).messages = memory.messages := rfl
  generalize dropEvidence F maxChars memory rag = reduced at stops window ⊢
  have total : addedTotal F reduced rag =
      documentalChars F rag + windowChars memory.messages + evidenceChars F reduced := by
    rw [addedTotal, window]
  split
  · rcases stops with noEvidence | fits
    · exact noEvidence
    · omega
  · rcases stops with noEvidence | fits
    · have nothing : evidenceChars F reduced = 0 := by
        rw [evidenceChars, if_pos noEvidence]
      omega
    · exact fits

/-- Evidence is gone before a turn is touched: step 2 packs exactly the window that is
too long next to the documents alone. -/
theorem packWindow_dropEvidence_messages
    (maxChars : Int)
    (memory : ChatMemoryContext)
    (rag : RagGenerationContext) :
    (packWindow F maxChars (dropEvidence F maxChars memory rag) rag).messages =
      if maxChars < documentalChars F rag + windowChars memory.messages then
        (packRecentWindow memory.messages maxChars (documentalChars F rag)).messages
      else memory.messages := by
  have spec := dropEvidence_spec (F := F) maxChars memory rag
  have window : (dropEvidence F maxChars memory rag).messages = memory.messages := rfl
  generalize dropEvidence F maxChars memory rag = reduced at spec window ⊢
  unfold packWindow
  split at spec
  · rename_i tooLong
    have nothing : evidenceChars F reduced = 0 := by
      rw [evidenceChars, if_pos spec]
    have exceeds : maxChars < addedTotal F reduced rag := by
      rw [addedTotal, window]
      omega
    rw [if_pos tooLong, if_pos exceeds, window, nothing]
    simp
  · rename_i within
    rw [if_neg within, if_neg (Int.not_lt.mpr spec), window]

/-- The window the cap keeps does not depend on the evidence next to it. -/
theorem enforceAddedContextCap_messages_eq
    {left right : ChatMemoryContext}
    (same : left.messages = right.messages)
    (rag : RagGenerationContext)
    (currentMessage : Str)
    (maxChars : Int) :
    (enforceAddedContextCap F left rag currentMessage maxChars).1.messages =
      (enforceAddedContextCap F right rag currentMessage maxChars).1.messages := by
  unfold enforceAddedContextCap
  split
  · rfl
  · split
    · rfl
    · dsimp only
      rw [packWindow_dropEvidence_messages, packWindow_dropEvidence_messages, same]

/-- The total depends on the contents of a context only. -/
theorem addedTotal_congr
    {left right : ChatMemoryContext}
    (sameMessages : left.messages = right.messages)
    (sameEvents : left.retrievedEvents = right.retrievedEvents)
    (rag : RagGenerationContext) : addedTotal F left rag = addedTotal F right rag := by
  unfold addedTotal evidenceChars
  rw [sameMessages, sameEvents]

/-- The documents the cap keeps do not depend on the evidence next to them. -/
theorem enforceAddedContextCap_rag_eq
    {left right : ChatMemoryContext}
    (same : left.messages = right.messages)
    (rag : RagGenerationContext)
    (currentMessage : Str)
    (maxChars : Int) :
    (enforceAddedContextCap F left rag currentMessage maxChars).2.1 =
      (enforceAddedContextCap F right rag currentMessage maxChars).2.1 := by
  unfold enforceAddedContextCap
  split
  · rfl
  · split
    · rfl
    · dsimp only
      have leftSpec := dropEvidence_spec (F := F) maxChars left rag
      have rightSpec := dropEvidence_spec (F := F) maxChars right rag
      have window : (packWindow F maxChars (dropEvidence F maxChars left rag)
            rag).messages =
          (packWindow F maxChars (dropEvidence F maxChars right rag) rag).messages := by
        rw [packWindow_dropEvidence_messages, packWindow_dropEvidence_messages, same]
      rw [same] at leftSpec
      split at leftSpec
      · rename_i tooLong
        rw [if_pos tooLong] at rightSpec
        have events : (packWindow F maxChars (dropEvidence F maxChars left rag)
              rag).retrievedEvents =
            (packWindow F maxChars (dropEvidence F maxChars right rag)
              rag).retrievedEvents := by
          rw [packWindow_retrievedEvents, packWindow_retrievedEvents, leftSpec,
            rightSpec]
        unfold dropSources
        simp only [addedTotal_congr window events]
      · rename_i within
        rw [if_neg within] at rightSpec
        unfold packWindow
        rw [if_neg (Int.not_lt.mpr leftSpec), if_neg (Int.not_lt.mpr rightSpec),
          dropSources_of_fits leftSpec, dropSources_of_fits rightSpec]

/-- The cap is hard: for every window of exchanges, every evidence and every cited
documents, the contexts the cap returns are within it. -/
theorem enforceAddedContextCap_withinCap
    {pairs : List (Str × Str)}
    {memory : ChatMemoryContext}
    {rag : RagGenerationContext}
    (window : memory.messages = exchanges pairs)
    (cited : CitedFrom 1 rag.sources)
    (currentMessage : Str)
    {maxChars : Int}
    (positive : 0 < maxChars) :
    WithinCap F pairs memory rag currentMessage maxChars
      (enforceAddedContextCap F memory rag currentMessage maxChars).1
      (enforceAddedContextCap F memory rag currentMessage maxChars).2.1 := by
  have sourcesPrefix :=
    enforceAddedContextCap_sources (F := F) memory rag currentMessage maxChars
  have citedRest := cited.of_prefix sourcesPrefix
  refine
    { fits := ?_
      evidencePrefix := enforceAddedContextCap_evidence memory rag currentMessage
        maxChars
      sourcesPrefix
      windowPacked := enforceAddedContextCap_window window rag currentMessage
        maxChars
      delivered := fun requestId =>
        messagesForProvider_bounded citedRest requestId currentMessage
      oversized := ?_ }
  · rw [charactersAdded_eq_addedTotal F _ citedRest]
    unfold enforceAddedContextCap
    by_cases tooLong : maxChars ≤ currentMessage.length
    · rw [if_pos ⟨positive, tooLong⟩, addedTotal_of_empty rfl rfl rfl]
      exact Int.le_of_lt positive
    · rw [if_neg (fun both => tooLong both.2), if_neg (Int.not_le.mpr positive)]
      exact reduce_fits window rag positive
  · intro tooLong
    unfold enforceAddedContextCap
    rw [if_pos ⟨positive, tooLong⟩]
    exact ⟨rfl, rfl, rfl⟩

/-- Two exchanges before a request. -/
def twoExchanges : List (Str × Str) :=
  [("first question".toList, "first answer".toList), ("question".toList, "answer".toList)]

/-- The two exchanges next to two retrieved events. -/
def twoEventMemory : ChatMemoryContext :=
  { messages := exchanges twoExchanges
    retrievedEvents := [⟨3, "old".toList⟩, ⟨5, "older".toList⟩] }

/-- Two retrieved documents. -/
def twoSources : RagGenerationContext :=
  { sources := [⟨"S1".toList, ⟨0⟩, ⟨1⟩, 1, "text".toList, false⟩,
      ⟨"S2".toList, ⟨0⟩, ⟨2⟩, 2, "more".toList, false⟩] }

/-- Under a cap of 750 the two documents stay, the evidence and the first exchange are
dropped, and the answer of the last exchange is cut to the one character left for it. -/
theorem enforceAddedContextCap_withinCap_small :
    let capped := enforceAddedContextCap Empty twoEventMemory twoSources "hello".toList 750
    WithinCap Empty twoExchanges twoEventMemory twoSources "hello".toList 750
      capped.1 capped.2.1 ∧
    capped =
      ({ messages := exchanges [("question".toList, "a".toList)], truncated := true },
        twoSources, some .budgetStarved) := by
  have cited : CitedFrom 1 twoSources.sources :=
    ⟨by decide, by decide, by decide, by decide, trivial⟩
  refine ⟨enforceAddedContextCap_withinCap rfl cited _ (by decide), ?_⟩
  rw [enforceAddedContextCap, packWindow, dropEvidence, documentalChars_eq, evidenceChars_eq]
  simp only [dropSources, addedTotal_eq]
  decide +kernel

end ChatPlatform
