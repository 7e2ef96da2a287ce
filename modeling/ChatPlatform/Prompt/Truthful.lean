import ChatPlatform.Prompt.Cap
import Mathlib.Algebra.Order.BigOperators.Group.List

/-!
# What is reported of a reduction

A window passes several places that may reduce it, and each keeps a flag. The flag
tells the truth when every place only takes messages or characters away and sets it
exactly when it takes some. The outcome of the cap is truthful in the same sense, and
applying the cap again changes nothing.
-/

namespace ChatPlatform

/-! ## Flagged reductions -/

/-- A subsequence has no more characters. -/
theorem windowChars_le_of_sublist
    {whole reduced : List ChatMessage}
    (sublist : reduced.Sublist whole) : windowChars reduced ≤ windowChars whole :=
  (sublist.map _).sum_le_sum (fun _ _ => Nat.zero_le _)

/-- A window is reduced to another one, and the flag says whether anything was lost. -/
structure FlaggedReduction
    (whole reduced : List ChatMessage)
    (truncated : Bool) : Prop where
  /-- Without the flag the window is whole. -/
  kept : truncated = false → reduced = whole
  /-- No message is added. -/
  fewer : reduced.length ≤ whole.length
  /-- No character is added. -/
  shorter : windowChars reduced ≤ windowChars whole
  /-- With the flag a message or a character is lost. -/
  lost : truncated = true →
    reduced.length < whole.length ∨ windowChars reduced < windowChars whole

namespace FlaggedReduction

/-- A window left alone. -/
theorem refl (whole : List ChatMessage) : FlaggedReduction whole whole false :=
  ⟨fun _ => rfl, Nat.le_refl _, Nat.le_refl _, by simp⟩

/-- Two reductions in a row, with their flags combined. -/
theorem trans
    {whole between reduced : List ChatMessage}
    {first second : Bool}
    (before : FlaggedReduction whole between first)
    (after : FlaggedReduction between reduced second) :
    FlaggedReduction whole reduced (first || second) := by
  refine ⟨?_, after.fewer.trans before.fewer, after.shorter.trans before.shorter, ?_⟩
  · intro neither
    obtain ⟨notFirst, notSecond⟩ := Bool.or_eq_false_iff.mp neither
    rw [after.kept notSecond, before.kept notFirst]
  · intro either
    have fewerBefore := before.fewer
    have fewerAfter := after.fewer
    have shorterBefore := before.shorter
    have shorterAfter := after.shorter
    rcases (Bool.or_eq_true _ _).mp either with early | late
    · rcases before.lost early with messages | chars
      · exact Or.inl (by omega)
      · exact Or.inr (by omega)
    · rcases after.lost late with messages | chars
      · exact Or.inl (by omega)
      · exact Or.inr (by omega)

/-- The flag tells the truth. -/
theorem truncated_iff
    {whole reduced : List ChatMessage}
    {truncated : Bool}
    (reduction : FlaggedReduction whole reduced truncated) :
    truncated = true ↔ reduced ≠ whole := by
  constructor
  · intro flagged same
    rcases reduction.lost flagged with messages | chars
    · rw [same] at messages
      exact Nat.lt_irrefl _ messages
    · rw [same] at chars
      exact Nat.lt_irrefl _ chars
  · intro different
    by_contra notFlagged
    exact different (reduction.kept (Bool.eq_false_iff.mpr notFlagged))

/-- A subsequence, flagged when it is shorter. -/
theorem of_sublist
    {whole reduced : List ChatMessage}
    (sublist : reduced.Sublist whole) :
    FlaggedReduction whole reduced (decide (reduced.length < whole.length)) := by
  refine ⟨?_, sublist.length_le, ?_, fun flagged => Or.inl (of_decide_eq_true flagged)⟩
  · intro notFlagged
    exact sublist.eq_of_length_le (Nat.not_lt.mp (of_decide_eq_false notFlagged))
  · exact windowChars_le_of_sublist sublist

end FlaggedReduction

/-! ## Packing -/

/-- The turns are the messages in groups. -/
theorem flatten_turnsOf (messages : List ChatMessage) :
    (turnsOf messages).flatten = messages := by
  induction messages using turnsOf.induct with
  | case1 => rfl
  | case2 message => rfl
  | case3 opening closing rest inductionHypothesis =>
      simp [turnsOf, inductionHypothesis]

/-- No turn is empty. -/
theorem ne_nil_of_mem_turnsOf
    {messages turn : List ChatMessage}
    (present : turn ∈ turnsOf messages) : turn ≠ [] := by
  induction messages using turnsOf.induct with
  | case1 => simp [turnsOf] at present
  | case2 message =>
      rw [List.mem_singleton.mp present]
      simp
  | case3 opening closing rest inductionHypothesis =>
      rcases List.mem_cons.mp present with rfl | later
      · simp
      · exact inductionHypothesis later

/-- A cut turn has as many messages as before. -/
theorem length_truncateTurn
    (remaining : Int)
    (turn : List ChatMessage) : (truncateTurn remaining turn).length = turn.length := by
  induction turn generalizing remaining with
  | nil => rfl
  | cons message rest inductionHypothesis =>
      unfold truncateTurn
      split
      · simp [inductionHypothesis]
      · split <;> simp [inductionHypothesis]

/-- A cut turn fits what remained. -/
theorem windowChars_truncateTurn_le
    {remaining : Int}
    (nonnegative : 0 ≤ remaining)
    (turn : List ChatMessage) :
    (windowChars (truncateTurn remaining turn) : Int) ≤ remaining := by
  induction turn generalizing remaining with
  | nil => simpa [truncateTurn] using nonnegative
  | cons message rest inductionHypothesis =>
      unfold truncateTurn
      split
      · simpa using inductionHypothesis nonnegative
      · split
        · rename_i fits
          have rest := inductionHypothesis (Int.sub_nonneg.mpr fits)
          rw [windowChars_cons]
          omega
        · have cut := Text.length_truncate_le message.content nonnegative
          have rest := inductionHypothesis (Int.le_refl 0)
          rw [windowChars_cons]
          dsimp only
          omega

/-- Dropping turns drops messages. -/
private theorem length_flatten_lt
    {kept : List (List ChatMessage)}
    {messages : List ChatMessage}
    (recent : kept <:+ turnsOf messages)
    (dropped : kept.length < (turnsOf messages).length) :
    kept.flatten.length < messages.length := by
  obtain ⟨earlier, split⟩ := recent
  cases earlier with
  | nil => simp [← split] at dropped
  | cons first others =>
      have present : first ∈ turnsOf messages := by simp [← split]
      have nonempty := List.length_pos_iff.mpr (ne_nil_of_mem_turnsOf present)
      rw [← flatten_turnsOf messages, ← split]
      simp only [List.cons_append, List.flatten_cons, List.flatten_append,
        List.length_append]
      omega

/-- Packing reports what it loses. -/
theorem packRecentWindow_flagged
    (messages : List ChatMessage)
    (maxChars reservedChars : Int) :
    FlaggedReduction messages (packRecentWindow messages maxChars reservedChars).messages
      (packRecentWindow messages maxChars reservedChars).truncated := by
  unfold packRecentWindow
  dsimp only
  generalize maxChars - reservedChars = budget
  split
  · cases messages with
    | nil => exact .refl []
    | cons first rest => exact .of_sublist (List.nil_sublist _)
  · rename_i room
    have recent := Trim.trimFront_suffix
      (fun turns => decide (budget < totalChars turns)) (turnsOf messages)
    have stops := Trim.trimFront_stops
      (fun turns => decide (budget < totalChars turns)) (turnsOf messages)
    generalize Trim.trimFront _ (turnsOf messages) = kept at recent stops ⊢
    have sublist : kept.flatten.Sublist messages := by
      obtain ⟨earlier, split⟩ := recent
      rw [← flatten_turnsOf messages, ← split, List.flatten_append]
      exact List.sublist_append_right _ _
    have whole : kept.length = (turnsOf messages).length → kept.flatten = messages := by
      intro same
      rw [recent.eq_of_length same, flatten_turnsOf]
    have flagged : FlaggedReduction messages kept.flatten
        (decide (kept.length < (turnsOf messages).length)) := by
      refine ⟨?_, sublist.length_le, windowChars_le_of_sublist sublist, ?_⟩
      · intro notDropped
        have long := Nat.not_lt.mp (of_decide_eq_false notDropped)
        exact whole (Nat.le_antisymm recent.length_le long)
      · intro dropped
        exact Or.inl (length_flatten_lt recent (of_decide_eq_true dropped))
    cases kept with
    | nil => exact flagged
    | cons first rest =>
        dsimp only
        split
        · rename_i exceeds
          have single : rest = [] := by
            rcases stops with within | short
            · exact absurd exceeds (of_decide_eq_false within)
            · exact List.length_eq_zero_iff.mp (by simpa using short)
          subst single
          rw [List.flatten_singleton] at flagged sublist
          have cut := windowChars_truncateTurn_le (Int.le_of_lt (Int.not_le.mp room)) first
          have shorter := flagged.shorter
          unfold totalChars at exceeds
          rw [List.flatten_singleton] at exceeds
          refine ⟨by simp, ?_, by dsimp only; omega, fun _ => Or.inr (by dsimp only; omega)⟩
          dsimp only
          rw [length_truncateTurn]
          exact sublist.length_le
        · exact flagged

/-! ## The cap -/

variable {F : Type} [FloatOps F]

/-- What the cap reports and leaves alone, for a current message shorter than it. -/
structure TruthfulCap
    (F : Type)
    [FloatOps F]
    (memory : ChatMemoryContext)
    (rag : RagGenerationContext)
    (currentMessage : Str)
    (maxChars : Int)
    (bounded : ChatMemoryContext)
    (documents : RagGenerationContext)
    (outcome : Option MemoryOutcome) : Prop where
  /-- A cap that takes something says so. -/
  starved : outcome = some .budgetStarved ↔
    bounded.messages ≠ memory.messages ∨
      bounded.retrievedEvents ≠ memory.retrievedEvents ∨ documents.sources ≠ rag.sources
  /-- A cap that takes nothing says nothing. -/
  silent : outcome = none ↔
    bounded.messages = memory.messages ∧
      bounded.retrievedEvents = memory.retrievedEvents ∧ documents.sources = rag.sources
  /-- What the read of the history reported stands. -/
  rowCap : bounded.historyRowCapReached = memory.historyRowCapReached
  /-- What the retrieval of documents reported stands. -/
  retrieval : documents.outcome = rag.outcome
  /-- The flag of the window says what the window lost. -/
  flagged : ∃ lost, bounded.truncated = (memory.truncated || lost) ∧
    FlaggedReduction memory.messages bounded.messages lost
  /-- The cap changes nothing on what it returned. -/
  idempotent : enforceAddedContextCap F bounded documents currentMessage maxChars =
    (bounded, documents, none)

/-- Contexts that fit are left alone. -/
theorem enforceAddedContextCap_of_fits
    {memory : ChatMemoryContext}
    {rag : RagGenerationContext}
    {currentMessage : Str}
    {maxChars : Int}
    (shorter : (currentMessage.length : Int) < maxChars)
    (fits : (addedTotal F memory rag : Int) ≤ maxChars) :
    enforceAddedContextCap F memory rag currentMessage maxChars = (memory, rag, none) := by
  have positive : 0 < maxChars := by omega
  have allEvidence : dropEvidence F maxChars memory rag = memory := by
    unfold dropEvidence
    rw [Trim.trimEnd_eq_self (decide_eq_false (Int.not_lt.mpr fits))]
  have allTurns : packWindow F maxChars memory rag = memory := by
    unfold packWindow
    rw [if_neg (Int.not_lt.mpr fits)]
  unfold enforceAddedContextCap
  rw [if_neg (fun both => Int.not_le.mpr shorter both.2), if_neg (Int.not_le.mpr positive)]
  simp only [allEvidence, allTurns, dropSources_of_fits fits, lt_irrefl, if_false]

/-- What the cap returns fits, and fits again. -/
private theorem addedTotal_enforce_le
    {pairs : List (Str × Str)}
    {memory : ChatMemoryContext}
    (window : memory.messages = exchanges pairs)
    (rag : RagGenerationContext)
    {currentMessage : Str}
    {maxChars : Int}
    (shorter : (currentMessage.length : Int) < maxChars) :
    (addedTotal F (enforceAddedContextCap F memory rag currentMessage maxChars).1
      (enforceAddedContextCap F memory rag currentMessage maxChars).2.1 : Int) ≤
        maxChars := by
  have positive : 0 < maxChars := by omega
  unfold enforceAddedContextCap
  rw [if_neg (fun both => Int.not_le.mpr shorter both.2), if_neg (Int.not_le.mpr positive)]
  exact reduce_fits window rag positive

/-- Contexts that do not fit are reported as starved. -/
private theorem outcome_enforce_of_exceeds
    {pairs : List (Str × Str)}
    {memory : ChatMemoryContext}
    (window : memory.messages = exchanges pairs)
    {rag : RagGenerationContext}
    {currentMessage : Str}
    {maxChars : Int}
    (shorter : (currentMessage.length : Int) < maxChars)
    (exceeds : maxChars < addedTotal F memory rag) :
    (enforceAddedContextCap F memory rag currentMessage maxChars).2.2 =
      some .budgetStarved := by
  have positive : 0 < maxChars := by omega
  have fits := reduce_fits (F := F) window rag positive
  unfold enforceAddedContextCap
  rw [if_neg (fun both => Int.not_le.mpr shorter both.2), if_neg (Int.not_le.mpr positive)]
  dsimp only
  rw [if_pos (by omega)]

/-- The flag the cap adds says what the window lost. -/
private theorem flagged_enforce
    (memory : ChatMemoryContext)
    (rag : RagGenerationContext)
    {currentMessage : Str}
    {maxChars : Int}
    (shorter : (currentMessage.length : Int) < maxChars) :
    ∃ lost, (enforceAddedContextCap F memory rag currentMessage maxChars).1.truncated =
        (memory.truncated || lost) ∧
      FlaggedReduction memory.messages
        (enforceAddedContextCap F memory rag currentMessage maxChars).1.messages lost := by
  have positive : 0 < maxChars := by omega
  unfold enforceAddedContextCap
  rw [if_neg (fun both => Int.not_le.mpr shorter both.2), if_neg (Int.not_le.mpr positive)]
  dsimp only
  unfold packWindow
  split
  · exact ⟨_, rfl, packRecentWindow_flagged _ _ _⟩
  · exact ⟨false, by simp [dropEvidence], .refl _⟩

/-- The cap never changes what the read of the history reported. -/
private theorem rowCap_enforce
    (memory : ChatMemoryContext)
    (rag : RagGenerationContext)
    (currentMessage : Str)
    (maxChars : Int) :
    (enforceAddedContextCap F memory rag currentMessage maxChars).1.historyRowCapReached =
      memory.historyRowCapReached := by
  unfold enforceAddedContextCap
  split
  · rfl
  · split
    · rfl
    · dsimp only
      unfold packWindow
      split <;> rfl

/-- The cap never changes what the retrieval of documents reported. -/
private theorem retrieval_enforce
    (memory : ChatMemoryContext)
    (rag : RagGenerationContext)
    (currentMessage : Str)
    (maxChars : Int) :
    (enforceAddedContextCap F memory rag currentMessage maxChars).2.1.outcome =
      rag.outcome := by
  unfold enforceAddedContextCap
  split
  · rfl
  · split <;> rfl

/-- The cap reports what it takes, and only that, on every window of exchanges, all
evidence and all documents. -/
theorem enforceAddedContextCap_truthful
    {pairs : List (Str × Str)}
    {memory : ChatMemoryContext}
    (window : memory.messages = exchanges pairs)
    (rag : RagGenerationContext)
    {currentMessage : Str}
    {maxChars : Int}
    (shorter : (currentMessage.length : Int) < maxChars) :
    TruthfulCap F memory rag currentMessage maxChars
      (enforceAddedContextCap F memory rag currentMessage maxChars).1
      (enforceAddedContextCap F memory rag currentMessage maxChars).2.1
      (enforceAddedContextCap F memory rag currentMessage maxChars).2.2 := by
  have bound := addedTotal_enforce_le (F := F) window rag shorter
  have flagged := flagged_enforce (F := F) memory rag shorter
  have again := enforceAddedContextCap_of_fits shorter bound
  by_cases fits : (addedTotal F memory rag : Int) ≤ maxChars
  · rw [enforceAddedContextCap_of_fits shorter fits] at bound flagged again ⊢
    exact ⟨by simp, by simp, rfl, rfl, flagged, again⟩
  · have starved := outcome_enforce_of_exceeds window shorter (Int.not_le.mp fits)
    have rowCap : (enforceAddedContextCap F memory rag currentMessage
        maxChars).1.historyRowCapReached = memory.historyRowCapReached :=
      rowCap_enforce memory rag currentMessage maxChars
    have retrieval : (enforceAddedContextCap F memory rag currentMessage
        maxChars).2.1.outcome = rag.outcome :=
      retrieval_enforce memory rag currentMessage maxChars
    generalize enforceAddedContextCap F memory rag currentMessage maxChars = result
      at bound flagged again starved rowCap retrieval ⊢
    obtain ⟨bounded, documents, outcome⟩ := result
    dsimp only at bound flagged again starved rowCap retrieval ⊢
    have changed : ¬(bounded.messages = memory.messages ∧
        bounded.retrievedEvents = memory.retrievedEvents ∧
          documents.sources = rag.sources) := by
      rintro ⟨sameMessages, sameEvents, sameSources⟩
      have sameDocuments : documentalChars F documents = documentalChars F rag := by
        unfold documentalChars
        rw [sameSources]
      have total := addedTotal_congr (F := F) sameMessages sameEvents rag
      unfold addedTotal at bound fits total
      omega
    subst starved
    refine ⟨?_, ?_, rowCap, retrieval, flagged, again⟩
    · simp only [true_iff]
      by_contra noneChanged
      simp only [not_or, not_not] at noneChanged
      exact changed noneChanged
    · simp [changed]

end ChatPlatform
