import ChatPlatform.Prompt.Cap

/-!
# The cap drops as little as it may

The cap gives up evidence first, then turns, then the contents of the last turn, and
documents last of all. Of each channel it keeps as much as the channels with a higher
priority leave, although every step measures a rendered text anew.
-/

namespace ChatPlatform

variable {F : Type} [FloatOps F]

/-- An exchange cut to a number of characters, the question first. -/
def cutExchange
    (room : Nat)
    (pair : Str × Str) : Str × Str :=
  (pair.1.take room, pair.2.take (room - pair.1.length))

/-- What is left of a window of exchanges in a room it does not fit. -/
structure GreedyWindow
    (pairs : List (Str × Str))
    (room : Int)
    (messages : List ChatMessage) : Prop where
  /-- Without room nothing is left. -/
  nothing : room ≤ 0 → messages = []
  /-- The longest run of whole recent exchanges is left, if the last one fits. -/
  recent : 0 < room →
    (∀ last, [last] <:+ pairs → (windowChars (exchange last) : Int) ≤ room) →
      ∃ kept, messages = exchanges kept ∧
        Trim.LongestSuffix (fun rest => (windowChars (exchanges rest) : Int) ≤ room)
          pairs kept
  /-- A last exchange that does not fit is cut, and it fills the room. -/
  cut : 0 < room →
    ∀ last, [last] <:+ pairs → room < windowChars (exchange last) →
      messages = exchanges [cutExchange room.toNat last] ∧
        (windowChars messages : Int) = room

/-- What the cap keeps, by priority. -/
structure GreedyCap
    (F : Type)
    [FloatOps F]
    (pairs : List (Str × Str))
    (memory : ChatMemoryContext)
    (rag : RagGenerationContext)
    (maxChars : Int)
    (bounded : ChatMemoryContext)
    (documents : RagGenerationContext) : Prop where
  /-- The evidence is the longest prefix that fits next to all the other channels. -/
  evidence : Trim.LongestPrefix
    (fun events =>
      (documentalChars F rag + windowChars memory.messages +
        evidenceChars F { memory with retrievedEvents := events } : Int) ≤ maxChars)
    memory.retrievedEvents bounded.retrievedEvents
  /-- A window that fits next to the documents is left alone. -/
  windowKept : (documentalChars F rag + windowChars memory.messages : Int) ≤ maxChars →
    bounded.messages = memory.messages
  /-- One that does not is reduced to what the documents leave, and no evidence is kept
  next to it. -/
  windowReduced :
    maxChars < documentalChars F rag + windowChars memory.messages →
      bounded.retrievedEvents = [] ∧
        GreedyWindow pairs (maxChars - documentalChars F rag) bounded.messages
  /-- No document is dropped next to evidence or turns. -/
  sourcesKept : bounded.retrievedEvents ≠ [] ∨ bounded.messages ≠ [] →
    documents.sources = rag.sources
  /-- Alone, the documents are the longest prefix that fits. -/
  sources : bounded.retrievedEvents = [] → bounded.messages = [] →
    Trim.LongestPrefix
      (fun sources => (documentalChars F { rag with sources } : Int) ≤ maxChars)
      rag.sources documents.sources

/-! ## The window -/

/-- A turn cut to a budget fills it with the question first. -/
theorem truncateTurn_eq_cutExchange
    {budget : Int}
    (positive : 0 < budget)
    (pair : Str × Str) :
    truncateTurn budget (exchange pair) = exchange (cutExchange budget.toNat pair) := by
  obtain ⟨room, rfl⟩ := Int.eq_ofNat_of_zero_le (Int.le_of_lt positive)
  have cutTo : ∀ (text : Str) (remaining : Nat), remaining < text.length →
      Text.truncate text remaining = text.take remaining := by
    intro text remaining short
    unfold Text.truncate Text.sliceTo
    rw [if_neg (by omega), if_pos (by omega), Int.toNat_natCast]
  simp only [exchange, truncateTurn, cutExchange, Int.toNat_natCast]
  rw [if_neg (Int.not_le.mpr positive)]
  by_cases whole : pair.1.length ≤ room
  · rw [if_pos (by omega), List.take_of_length_le whole]
    by_cases spent : (room : Int) - pair.1.length ≤ 0
    · have nothing : room - pair.1.length = 0 := by omega
      rw [if_pos spent, nothing, List.take_zero]
    · have left : (room : Int) - pair.1.length = ((room - pair.1.length : Nat) : Int) := by
        omega
      rw [if_neg spent, left]
      by_cases both : pair.2.length ≤ room - pair.1.length
      · rw [if_pos (by omega), List.take_of_length_le both]
      · rw [if_neg (by omega), cutTo _ _ (by omega)]
  · have nothing : room - pair.1.length = 0 := by omega
    rw [if_neg (by omega), cutTo _ _ (by omega), nothing]
    simp

/-- An exchange too long for a room fills it when it is cut. -/
theorem windowChars_cutExchange
    {room : Nat}
    {pair : Str × Str}
    (tooLong : room < windowChars (exchange pair)) :
    windowChars (exchange (cutExchange room pair)) = room := by
  simp only [exchange, windowChars_cons, windowChars_nil, Nat.add_zero, cutExchange,
    List.length_take] at tooLong ⊢
  omega

/-- Packing leaves the most that the room allows. -/
theorem packRecentWindow_greedy
    (pairs : List (Str × Str))
    (maxChars reservedChars : Int) :
    GreedyWindow pairs (maxChars - reservedChars)
      (packRecentWindow (exchanges pairs) maxChars reservedChars).messages := by
  unfold packRecentWindow
  simp only [turnsOf_exchanges, Trim.trimFront_map]
  generalize maxChars - reservedChars = room
  have flat : ∀ kept : List (Str × Str),
      totalChars (kept.map exchange) = windowChars (exchanges kept) := fun _ => rfl
  simp only [flat]
  refine ⟨?_, ?_, ?_⟩
  · intro spent
    rw [if_pos spent]
  · intro positive lastFits
    rw [if_neg (Int.not_le.mpr positive)]
    have longest := Trim.trimFront_longest
      (fun rest => decide (room < windowChars (exchanges rest))) pairs
      (fun last isLast => decide_eq_false
        (Int.not_lt.mpr (by simpa [exchanges] using lastFits last isLast)))
    simp only [decide_eq_false_iff_not, Int.not_lt] at longest
    generalize Trim.trimFront _ pairs = kept at longest
    refine ⟨kept, ?_, longest⟩
    cases kept with
    | nil => rfl
    | cons first rest =>
        have fits := longest.meets.resolve_left (by simp)
        simp only [List.map_cons]
        rw [← List.map_cons, flat, if_neg (Int.not_lt.mpr fits)]
        rfl
  · intro positive last isLast tooLong
    rw [if_neg (Int.not_le.mpr positive)]
    have alone := Trim.trimFront_eq_last
      (fun rest => decide (room < windowChars (exchanges rest))) isLast
      (by
        rintro rest ⟨earlier, rfl⟩
        refine decide_eq_true ?_
        simp only [exchanges, List.flatMap_append, List.flatMap_singleton,
          windowChars_append]
        omega)
    rw [alone]
    have same : totalChars [exchange last] = windowChars (exchange last) := by
      simp [totalChars]
    simp only [List.map_cons, List.map_nil]
    rw [same, if_pos tooLong, truncateTurn_eq_cutExchange positive]
    refine ⟨by simp [exchanges], ?_⟩
    rw [windowChars_cutExchange (by omega)]
    omega

/-! ## The channels -/

/-- Step 1 keeps the longest evidence that fits next to the other channels. -/
theorem dropEvidence_longest
    (maxChars : Int)
    (memory : ChatMemoryContext)
    (rag : RagGenerationContext) :
    Trim.LongestPrefix
      (fun events =>
        (documentalChars F rag + windowChars memory.messages +
          evidenceChars F { memory with retrievedEvents := events } : Int) ≤ maxChars)
      memory.retrievedEvents (dropEvidence F maxChars memory rag).retrievedEvents := by
  have longest := Trim.trimEnd_longest
    (fun events => decide (maxChars <
      addedTotal F { memory with retrievedEvents := events } rag))
    memory.retrievedEvents
  refine longest.of_iff fun events => ?_
  rw [decide_eq_false_iff_not, Int.not_lt, addedTotal]
  push_cast
  exact Iff.rfl

/-- Step 4 on documents alone keeps the longest prefix that fits. -/
theorem dropSources_longest
    {maxChars : Int}
    {memory : ChatMemoryContext}
    (noEvidence : memory.retrievedEvents = [])
    (noWindow : memory.messages = [])
    (rag : RagGenerationContext) :
    Trim.LongestPrefix
      (fun sources => (documentalChars F { rag with sources } : Int) ≤ maxChars)
      rag.sources (dropSources F maxChars memory rag).sources := by
  have longest := Trim.trimEnd_longest
    (fun sources => decide (maxChars < addedTotal F memory { rag with sources }))
    rag.sources
  refine longest.of_iff fun sources => ?_
  rw [decide_eq_false_iff_not, Int.not_lt, addedTotal, noWindow, evidenceChars,
    if_pos noEvidence]
  exact Iff.rfl

/-- The cap follows its priority and keeps the most of every channel: for every window
of exchanges, every evidence and all documents. -/
theorem enforceAddedContextCap_greedy
    {pairs : List (Str × Str)}
    {memory : ChatMemoryContext}
    (window : memory.messages = exchanges pairs)
    (rag : RagGenerationContext)
    {currentMessage : Str}
    {maxChars : Int}
    (positive : 0 < maxChars)
    (shorter : (currentMessage.length : Int) < maxChars) :
    GreedyCap F pairs memory rag maxChars
      (enforceAddedContextCap F memory rag currentMessage maxChars).1
      (enforceAddedContextCap F memory rag currentMessage maxChars).2.1 := by
  unfold enforceAddedContextCap
  rw [if_neg (fun both => Int.not_le.mpr shorter both.2), if_neg (Int.not_le.mpr positive)]
  dsimp only
  have events := packWindow_retrievedEvents (F := F) maxChars
    (dropEvidence F maxChars memory rag) rag
  have messages := packWindow_dropEvidence_messages (F := F) maxChars memory rag
  have spec := dropEvidence_spec (F := F) maxChars memory rag
  have longest := dropEvidence_longest (F := F) maxChars memory rag
  have sameWindow : (dropEvidence F maxChars memory rag).messages = exchanges pairs :=
    window
  have fits := (packWindow_spec rag sameWindow
    (dropEvidence_stops (F := F) maxChars memory rag)).2
  rw [← events] at longest
  generalize packWindow F maxChars (dropEvidence F maxChars memory rag) rag = reduced
    at events messages longest fits ⊢
  refine ⟨longest, ?_, ?_, ?_, ?_⟩
  · intro within
    rw [messages, if_neg (Int.not_lt.mpr within)]
  · intro tooLong
    rw [if_pos tooLong] at messages spec
    refine ⟨events.trans spec, ?_⟩
    rw [messages, window]
    exact packRecentWindow_greedy pairs maxChars (documentalChars F rag)
  · intro kept
    rcases fits with within | ⟨noEvidence, noWindow⟩
    · rw [dropSources_of_fits within]
    · rcases kept with someEvidence | someWindow
      · exact absurd noEvidence someEvidence
      · exact absurd noWindow someWindow
  · intro noEvidence noWindow
    exact dropSources_longest noEvidence noWindow rag

/-- Three caps on two exchanges, two events and two documents: the first drops one event,
the second all the evidence and most of the window, and the third all but one document. -/
theorem enforceAddedContextCap_greedy_small :
    let capped := enforceAddedContextCap Empty twoEventMemory twoSources "hello".toList
    (GreedyCap Empty twoExchanges twoEventMemory twoSources 1170
        (capped 1170).1 (capped 1170).2.1 ∧
      capped 1170 =
        ({ messages := exchanges twoExchanges, retrievedEvents := [⟨3, "old".toList⟩] },
          twoSources, some .budgetStarved)) ∧
    (GreedyCap Empty twoExchanges twoEventMemory twoSources 750
        (capped 750).1 (capped 750).2.1 ∧
      capped 750 =
        ({ messages := exchanges [("question".toList, "a".toList)], truncated := true },
          twoSources, some .budgetStarved)) ∧
    GreedyCap Empty twoExchanges twoEventMemory twoSources 600
        (capped 600).1 (capped 600).2.1 ∧
      capped 600 =
        ({ truncated := true }, { sources := twoSources.sources.take 1 },
          some .budgetStarved) := by
  refine ⟨⟨enforceAddedContextCap_greedy rfl _ (by decide) (by decide), ?_⟩,
    ⟨enforceAddedContextCap_greedy rfl _ (by decide) (by decide), ?_⟩,
    enforceAddedContextCap_greedy rfl _ (by decide) (by decide), ?_⟩
  all_goals
    rw [enforceAddedContextCap, packWindow, dropEvidence, documentalChars_eq,
      evidenceChars_eq]
    simp only [dropSources, addedTotal_eq]
    decide +kernel

end ChatPlatform
