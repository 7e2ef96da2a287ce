import ChatPlatform.Experiment.Replay
import ChatPlatform.Foundation.KeySort
import Mathlib.Data.List.Forall2
import Mathlib.Algebra.Field.Rat
import Mathlib.Algebra.Order.Ring.Unbundled.Rat
import Mathlib.Data.Prod.Lex

/-!
# The application ranks as the evaluation did

The application ranks the units of one conversation, each identified by its
sequence number; the experiment ranks the events of a scope. Where the units are
the events of the scope, in any order, both give the same ranking with the same
scores, and select the same of it under every budget in characters.
-/

namespace ChatPlatform
namespace Replay

/-- A unit of the application stands for an event of the experiment. -/
structure Corresponds (event : Event) (unit : CorpusEvent) : Prop where
  /-- The unit is identified by the position of the event. -/
  identifier : unit.eventId = event.eventSequence
  /-- Both have the same text. -/
  text : unit.documentText = event.documentText

variable {K : Type}

/-- Two ranked documents stand for each other and have the same score. -/
structure SameRank
    (ranked : RankedEvent K)
    (unit : Bm25.RankedEvent K) : Prop where
  /-- The documents correspond. -/
  document : Corresponds ranked.event unit.event
  /-- The scores are equal. -/
  score : ranked.score = unit.score

/-! ## Scores of texts -/

/-- The number of tokens of all texts. -/
def totalTokens (lexicon : Bm25.Lexicon K) (texts : List Str) : Nat :=
  (texts.map fun text => (lexicalTokens lexicon text).length).sum

/-- The score of one text in a corpus of texts. -/
def textScore
    [Field K]
    [LinearOrder K]
    (lexicon : Bm25.Lexicon K)
    (texts : List Str)
    (query : List Str)
    (text : Str) : K :=
  ((query.take Bm25.queryTokenCap).map
    (Bm25.termScore lexicon (texts.map (lexicalTokens lexicon))
      ((totalTokens lexicon texts : K) / texts.length)
      (lexicalTokens lexicon text))).sum

/-- The number of tokens does not depend on the order of the texts. -/
theorem totalTokens_perm
    (lexicon : Bm25.Lexicon K)
    {texts others : List Str}
    (rearranged : texts.Perm others) :
    totalTokens lexicon texts = totalTokens lexicon others :=
  (rearranged.map _).sum_nat

section Ranking

variable [Field K] [LinearOrder K]

/-- Scores do not depend on the order of the texts. -/
theorem textScore_perm
    (lexicon : Bm25.Lexicon K)
    {texts others : List Str}
    (rearranged : texts.Perm others) :
    textScore lexicon texts = textScore lexicon others := by
  funext query text
  have frequencies : ∀ term : Str,
      (texts.map (lexicalTokens lexicon)).countP (term ∈ ·) =
        (others.map (lexicalTokens lexicon)).countP (term ∈ ·) := by
    intro term
    exact (rearranged.map _).countP_eq _
  unfold textScore
  congr 1
  apply List.map_congr_left
  intro term _
  unfold Bm25.termScore
  rw [frequencies, totalTokens_perm lexicon rearranged, List.length_map,
    List.length_map, rearranged.length_eq]

/-- An event with its score among texts. -/
def scored
    (lexicon : Bm25.Lexicon K)
    (texts query : List Str)
    (event : Event) : RankedEvent K :=
  ⟨event, textScore lexicon texts query event.documentText⟩

/-- A unit with its score among texts. -/
def scoredUnit
    (lexicon : Bm25.Lexicon K)
    (texts query : List Str)
    (unit : CorpusEvent) : Bm25.RankedEvent K :=
  ⟨unit, textScore lexicon texts query unit.documentText⟩

/-- The application sorts its units by the scores of their texts. -/
theorem rankEvents_eq
    (lexicon : Bm25.Lexicon K)
    (units : List CorpusEvent)
    (query : List Str) :
    Bm25.rankEvents lexicon units query =
      if units = [] then some []
      else if totalTokens lexicon (units.map (·.documentText)) = 0 then none
      else some ((units.map (scoredUnit lexicon (units.map (·.documentText))
        query)).insertionSort Bm25.precedes) := by
  have documents : units.map (fun unit =>
      Bm25.lexicalTokens lexicon unit.documentText) =
        (units.map (·.documentText)).map (lexicalTokens lexicon) := by
    rw [List.map_map]
    rfl
  have total : ((units.map fun unit =>
      Bm25.lexicalTokens lexicon unit.documentText).map List.length).sum =
        totalTokens lexicon (units.map (·.documentText)) := by
    unfold totalTokens
    rw [documents, List.map_map]
    rfl
  unfold Bm25.rankEvents
  dsimp only
  rw [total, documents]
  unfold scoredUnit textScore
  rw [List.length_map]
  rfl

/-- Where its events have distinct identifiers, the experiment sorts them by the
scores of their texts. -/
theorem rankBm25_eq
    (lexicon : Bm25.Lexicon K)
    (shared : List Event)
    (query : List Str)
    (tenantId conversationId : Str)
    {scope : List Event}
    (isScope : filterEventScope shared tenantId conversationId = scope)
    (identified : (scope.map (·.eventId)).Nodup) :
    rankBm25 lexicon shared query tenantId conversationId =
      if scope = [] then some []
      else if totalTokens lexicon (scope.map (·.documentText)) = 0 then none
      else some ((scope.map (scored lexicon (scope.map (·.documentText))
        query)).insertionSort precedes) := by
  let entry : Event → Str × List Str := fun event =>
    (event.eventId, lexicalTokens lexicon event.documentText)
  have keys : ((scope.map entry).map (·.1)).Nodup := by
    rw [List.map_map]
    exact identified
  have dictionary : Keyed.ofList (scope.map entry) = scope.map entry :=
    Keyed.ofList_of_nodup keys
  have values : (scope.map entry).map (·.2) =
      (scope.map (·.documentText)).map (lexicalTokens lexicon) := by
    rw [List.map_map, List.map_map]
    rfl
  have total : (((scope.map entry).map (·.2)).map List.length).sum =
      totalTokens lexicon (scope.map (·.documentText)) := by
    unfold totalTokens
    rw [values, List.map_map]
    rfl
  have scores : scope.map (fun event =>
      (⟨event, (query.take bm25QueryTokenCap).foldl
        (addTerm lexicon (((scope.map entry).map (·.2)).flatMap List.dedup)
          scope.length
          ((totalTokens lexicon (scope.map (·.documentText)) : K) / scope.length)
          ((Keyed.find (scope.map entry) event.eventId).getD [])) 0⟩ :
        RankedEvent K)) =
      scope.map (scored lexicon (scope.map (·.documentText)) query) := by
    apply List.map_congr_left
    intro event inScope
    have found := Keyed.find_of_mem keys (List.mem_map_of_mem inScope)
    have counted : scope.length =
        ((scope.map (·.documentText)).map (lexicalTokens lexicon)).length := by
      rw [List.length_map, List.length_map]
    unfold scored textScore
    rw [found, values, List.length_map]
    rw [Option.getD_some]
    nth_rewrite 1 [counted]
    rw [foldl_addTerm, zero_add]
    rfl
  unfold rankBm25
  dsimp only
  rw [isScope, dictionary, total, ← scores]

/-! ## The order of the experiment -/

/-- Score and position of a ranked event. -/
def rankKey (ranked : RankedEvent K) : Lex (Kᵒᵈ × Int) :=
  toLex (OrderDual.toDual ranked.score, ranked.event.eventSequence)

omit [Field K] in
/-- The identifier decides only between events of one score and position. -/
theorem precedes_iff_rankKey
    {left right : RankedEvent K}
    (sameEvent : left.event.eventSequence = right.event.eventSequence →
      left.event = right.event) :
    precedes left right ↔ rankKey left ≤ rankKey right := by
  unfold precedes rankKey
  rw [Prod.Lex.toLex_le_toLex]
  dsimp only
  rw [OrderDual.toDual_lt_toDual, OrderDual.toDual_inj]
  apply or_congr Iff.rfl
  constructor
  · rintro ⟨sameScore, earlier | ⟨samePosition, _⟩⟩
    · exact ⟨sameScore.symm, earlier.le⟩
    · exact ⟨sameScore.symm, samePosition.le⟩
  · rintro ⟨sameScore, notLater⟩
    rcases notLater.lt_or_eq with earlier | samePosition
    · exact ⟨sameScore.symm, Or.inl earlier⟩
    · refine ⟨sameScore.symm, Or.inr ⟨samePosition, ?_⟩⟩
      rw [sameEvent samePosition]
      exact List.le_refl _

/-- Events with distinct positions are ranked alike in every arrangement. -/
theorem insertionSort_precedes_perm
    (lexicon : Bm25.Lexicon K)
    (texts query : List Str)
    {arranged scope : List Event}
    (arrangement : arranged.Perm scope)
    (positioned : (scope.map (·.eventSequence)).Nodup) :
    (arranged.map (scored lexicon texts query)).insertionSort precedes =
      (scope.map (scored lexicon texts query)).insertionSort precedes := by
  have sameEvent : ∀ left ∈ arranged, ∀ right ∈ arranged,
      left.eventSequence = right.eventSequence → left = right := by
    intro left leftHeld right rightHeld same
    exact List.inj_on_of_nodup_map positioned (arrangement.mem_iff.mp leftHeld)
      (arrangement.mem_iff.mp rightHeld) same
  apply @KeySort.insertionSort_perm _ _ _ _ _ rankKey
  · intro left leftHeld right rightHeld
    obtain ⟨event, inScope, rfl⟩ := List.mem_map.mp leftHeld
    obtain ⟨other, otherInScope, rfl⟩ := List.mem_map.mp rightHeld
    exact precedes_iff_rankKey (sameEvent event inScope other otherInScope)
  · intro left leftHeld right rightHeld same
    obtain ⟨event, inScope, rfl⟩ := List.mem_map.mp leftHeld
    obtain ⟨other, otherInScope, rfl⟩ := List.mem_map.mp rightHeld
    have samePosition : event.eventSequence = other.eventSequence :=
      congrArg (fun key : Lex (Kᵒᵈ × Int) => (ofLex key).2) same
    rw [sameEvent event inScope other otherInScope samePosition]
  · exact arrangement.map _

/-! ## The two rankings -/

/-- Sorting corresponding documents keeps them in correspondence. -/
theorem sameRank_insertionSort
    (lexicon : Bm25.Lexicon K)
    (texts query : List Str)
    {arranged : List Event}
    {units : List CorpusEvent}
    (corresponds : List.Forall₂ Corresponds arranged units)
    (positioned : (arranged.map (·.eventSequence)).Nodup) :
    List.Forall₂ SameRank
      ((arranged.map (scored lexicon texts query)).insertionSort precedes)
      ((units.map (scoredUnit lexicon texts query)).insertionSort
        Bm25.precedes) := by
  obtain ⟨sameLength, paired⟩ := List.forall₂_iff_zip.mp corresponds
  let pairs := arranged.zip units
  let left : Event × CorpusEvent → RankedEvent K := fun pair =>
    scored lexicon texts query pair.1
  let right : Event × CorpusEvent → Bm25.RankedEvent K := fun pair =>
    scoredUnit lexicon texts query pair.2
  have lefts : arranged.map (scored lexicon texts query) = pairs.map left := by
    rw [← List.map_fst_zip sameLength.le, List.map_map]
    rfl
  have rights : units.map (scoredUnit lexicon texts query) = pairs.map right := by
    rw [← List.map_snd_zip sameLength.ge, List.map_map]
    rfl
  have sameRank : ∀ pair ∈ pairs, SameRank (left pair) (right pair) := by
    intro pair held
    have document := paired held
    exact ⟨document, congrArg (textScore lexicon texts query) document.text.symm⟩
  have sameOrder : ∀ first ∈ pairs, ∀ second ∈ pairs,
      precedes (left first) (left second) ↔
        Bm25.precedes (right first) (right second) := by
    intro first firstHeld second secondHeld
    have sameEvent := List.inj_on_of_nodup_map positioned
      (List.of_mem_zip firstHeld).1 (List.of_mem_zip secondHeld).1
    have firstRank := sameRank first firstHeld
    have secondRank := sameRank second secondHeld
    rw [precedes_iff_rankKey sameEvent]
    unfold rankKey Bm25.precedes
    rw [Prod.Lex.toLex_le_toLex, ← firstRank.score, ← secondRank.score,
      firstRank.document.identifier, secondRank.document.identifier]
    exact or_congr Iff.rfl (and_congr eq_comm Iff.rfl)
  rw [lefts, rights,
    ← List.map_insertionSort (fun first second => precedes (left first) (left second))
      precedes left pairs (fun _ _ _ _ => Iff.rfl),
    ← List.map_insertionSort (fun first second => precedes (left first) (left second))
      Bm25.precedes right pairs sameOrder,
    List.forall₂_map_left_iff, List.forall₂_map_right_iff, List.forall₂_same]
  intro pair held
  exact sameRank pair ((List.mem_insertionSort _).mp held)

/-- Only events of the scope are ranked. -/
theorem mem_of_mem_rankBm25
    {lexicon : Bm25.Lexicon K}
    {shared : List Event}
    {query : List Str}
    {tenantId conversationId : Str}
    {ranked : List (RankedEvent K)}
    (success : rankBm25 lexicon shared query tenantId conversationId = some ranked)
    {item : RankedEvent K}
    (held : item ∈ ranked) :
    item.event ∈ filterEventScope shared tenantId conversationId := by
  unfold rankBm25 at success
  dsimp only at success
  split at success
  · cases success
    cases held
  · split at success
    · cases success
    · cases success
      obtain ⟨event, inScope, rfl⟩ :=
        List.mem_map.mp ((List.mem_insertionSort precedes).mp held)
      exact inScope

/-- The experiment and the application rank the documents of a scope alike. -/
theorem sameRank_of_corresponds
    (lexicon : Bm25.Lexicon K)
    (query : List Str)
    (shared : List Event)
    (tenantId conversationId : Str)
    {scope arranged : List Event}
    {units : List CorpusEvent}
    (isScope : filterEventScope shared tenantId conversationId = scope)
    (identified : (scope.map (·.eventId)).Nodup)
    (positioned : (scope.map (·.eventSequence)).Nodup)
    (arrangement : arranged.Perm scope)
    (corresponds : List.Forall₂ Corresponds arranged units) :
    Option.Rel (List.Forall₂ SameRank)
      (rankBm25 lexicon shared query tenantId conversationId)
      (Bm25.rankEvents lexicon units query) := by
  have sameTexts : arranged.map (·.documentText) = units.map (·.documentText) := by
    rw [← List.forall₂_eq_eq_eq, List.forall₂_map_left_iff,
      List.forall₂_map_right_iff]
    exact corresponds.imp fun _ _ document => document.text.symm
  have textsPerm : (units.map (·.documentText)).Perm
      (scope.map (·.documentText)) := by
    rw [← sameTexts]
    exact arrangement.map _
  have sameEmpty : units = [] ↔ scope = [] := by
    have lengths := textsPerm.length_eq
    rw [List.length_map, List.length_map] at lengths
    rw [← List.length_eq_zero_iff, ← List.length_eq_zero_iff, lengths]
  have arrangedPositioned : (arranged.map (·.eventSequence)).Nodup :=
    (arrangement.map _).nodup_iff.mpr positioned
  rw [rankBm25_eq lexicon shared query tenantId conversationId isScope identified,
    rankEvents_eq, totalTokens_perm lexicon textsPerm]
  by_cases isEmpty : scope = []
  · rw [if_pos isEmpty, if_pos (sameEmpty.mpr isEmpty)]
    exact Option.Rel.some List.Forall₂.nil
  · rw [if_neg isEmpty, if_neg (fun none => isEmpty (sameEmpty.mp none))]
    split
    · exact Option.Rel.none
    · apply Option.Rel.some
      rw [← insertionSort_precedes_perm lexicon _ query arrangement positioned]
      unfold scoredUnit
      rw [textScore_perm lexicon textsPerm]
      exact sameRank_insertionSort lexicon _ query corresponds arrangedPositioned

end Ranking

/-! ## The two selections -/

/-- One selection goes on as the other does. -/
theorem corresponds_packFrom
    (maxChars : Int)
    {excludedIds : List Str}
    {excludedSequences : List Int}
    {ranked : List (RankedEvent K)}
    {units : List (Bm25.RankedEvent K)}
    (sameRanks : List.Forall₂ SameRank ranked units)
    (sameExcluded : ∀ item ∈ ranked, item.event.eventId ∈ excludedIds ↔
      item.event.eventSequence ∈ excludedSequences)
    {accepted : List Event}
    {acceptedUnits : List CorpusEvent}
    (sameAccepted : List.Forall₂ Corresponds accepted acceptedUnits)
    (used : Nat) :
    List.Forall₂ Corresponds
        (packFrom (fun event => event.documentText.length) maxChars excludedIds
          accepted used ranked).1
        (Bm25.packFrom maxChars excludedSequences acceptedUnits used units).1 ∧
      (packFrom (fun event => event.documentText.length) maxChars excludedIds
          accepted used ranked).2 =
        (Bm25.packFrom maxChars excludedSequences acceptedUnits used units).2 := by
  induction sameRanks generalizing accepted acceptedUnits used with
  | nil => exact ⟨sameAccepted, rfl⟩
  | @cons item unit ranked units sameRank _ inductionHypothesis =>
      have later := @inductionHypothesis fun other held =>
        sameExcluded other (List.mem_cons_of_mem _ held)
      have excluded := sameExcluded item List.mem_cons_self
      rw [← sameRank.document.identifier] at excluded
      unfold packFrom Bm25.packFrom
      by_cases skipped : item.event.eventId ∈ excludedIds
      · rw [if_pos skipped, if_pos (excluded.mp skipped)]
        exact later sameAccepted used
      · rw [if_neg skipped, if_neg (fun held => skipped (excluded.mpr held)),
          sameAccepted.length_eq]
        dsimp only
        rw [sameRank.document.text]
        unfold bm25TopK Bm25.topK
        split
        · exact ⟨sameAccepted, rfl⟩
        · split
          · exact later (List.rel_append sameAccepted
              (List.Forall₂.cons sameRank.document List.Forall₂.nil)) _
          · exact later sameAccepted used

/-- For every question, the units of a conversation are ranked as the evaluation
ranks the events they stand for, with the same scores, and under every budget in
characters the same of them are selected in the same order. -/
theorem ranking_and_selection_agree
    [Field K]
    [LinearOrder K]
    (lexicon : Bm25.Lexicon K)
    (question : Str)
    (shared : List Event)
    (tenantId conversationId : Str)
    (identified :
      ((filterEventScope shared tenantId conversationId).map (·.eventId)).Nodup)
    (positioned :
      ((filterEventScope shared tenantId conversationId).map
        (·.eventSequence)).Nodup)
    (arranged : List Event)
    (arrangement :
      arranged.Perm (filterEventScope shared tenantId conversationId))
    (units : List CorpusEvent)
    (corresponds : List.Forall₂ Corresponds arranged units) :
    Option.Rel (List.Forall₂ SameRank)
        (rankBm25 lexicon shared (contextualQueryTokens lexicon question) tenantId
          conversationId)
        (Bm25.rankEvents lexicon units (Bm25.queryTokens lexicon question)) ∧
      ∀ ranked rankedUnits,
        rankBm25 lexicon shared (contextualQueryTokens lexicon question) tenantId
            conversationId = some ranked →
          Bm25.rankEvents lexicon units (Bm25.queryTokens lexicon question) =
              some rankedUnits →
            ∀ (maxChars : Int) (excludedIds : List Str)
              (excludedSequences : List Int),
              (∀ event ∈ filterEventScope shared tenantId conversationId,
                event.eventId ∈ excludedIds ↔
                  event.eventSequence ∈ excludedSequences) →
                List.Forall₂ Corresponds
                    (packRetrievedEvents (fun event => event.documentText.length)
                      maxChars ranked excludedIds).1
                    (Bm25.packSelectedEvents rankedUnits maxChars
                      excludedSequences).1 ∧
                  (packRetrievedEvents (fun event => event.documentText.length)
                      maxChars ranked excludedIds).2 =
                    (Bm25.packSelectedEvents rankedUnits maxChars
                      excludedSequences).2 := by
  have agree := sameRank_of_corresponds lexicon
    (contextualQueryTokens lexicon question) shared tenantId conversationId rfl
    identified positioned arrangement corresponds
  rw [contextualQueryTokens_eq] at agree ⊢
  refine ⟨agree, ?_⟩
  intro ranked rankedUnits isRanked isRankedUnits maxChars excludedIds
    excludedSequences sameExcluded
  rw [isRanked, isRankedUnits] at agree
  cases agree with
  | some sameRanks =>
      apply corresponds_packFrom maxChars sameRanks ?_ List.Forall₂.nil 0
      intro item held
      exact sameExcluded item.event (mem_of_mem_rankBm25 isRanked held)

/-- A lexicon that leaves texts as they are. -/
def plainLexicon : Bm25.Lexicon Rat where
  normalize := id
  isTokenChar := (· ≠ ' ')
  ln := id

/-- An event of one message in the conversation `c` of a tenant. -/
def plainEvent
    (tenantId eventId : Str)
    (eventSequence : Int)
    (content : Str) : Event where
  tenantId
  conversationId := ['c']
  eventId
  eventSequence
  messages := [⟨content⟩]
  confirmed := true

/-- A unit of one user message. -/
def plainUnit (sequence : Int) (content : Str) : CorpusEvent :=
  CorpusEvent.ofTurn (TurnUnit.single ⟨sequence, .user, content⟩)

/-- Two events of one tenant next to an event of another, against the units in the
other order. -/
theorem ranking_and_selection_agree_two :
    let shared := [plainEvent ['t'] ['x'] 4 ['a', ' ', 'b'],
      plainEvent ['u'] ['y'] 1 ['b'], plainEvent ['t'] ['z'] 2 ['b']]
    let units := [plainUnit 2 ['b'], plainUnit 4 ['a', ' ', 'b']]
    Option.Rel (List.Forall₂ SameRank)
      (rankBm25 plainLexicon shared (contextualQueryTokens plainLexicon ['b'])
        ['t'] ['c'])
      (Bm25.rankEvents plainLexicon units
        (Bm25.queryTokens plainLexicon ['b'])) :=
  (ranking_and_selection_agree plainLexicon ['b']
    [plainEvent ['t'] ['x'] 4 ['a', ' ', 'b'],
      plainEvent ['u'] ['y'] 1 ['b'], plainEvent ['t'] ['z'] 2 ['b']]
    ['t'] ['c'] (by decide) (by decide)
    [plainEvent ['t'] ['z'] 2 ['b'], plainEvent ['t'] ['x'] 4 ['a', ' ', 'b']]
    (by decide)
    [plainUnit 2 ['b'], plainUnit 4 ['a', ' ', 'b']]
    (List.Forall₂.cons ⟨rfl, rfl⟩
      (List.Forall₂.cons ⟨rfl, rfl⟩ List.Forall₂.nil))).1

end Replay
end ChatPlatform
