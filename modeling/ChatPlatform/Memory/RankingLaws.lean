import ChatPlatform.Foundation.KeySort
import ChatPlatform.Memory.Ranking
import Mathlib.Algebra.Order.BigOperators.Group.List
import Mathlib.Analysis.SpecialFunctions.Log.Basic
import Mathlib.Data.Prod.Lex

/-!
# The laws of ranking and selection

Wherever the logarithm is positive above one, every shared token adds to a score and
nothing else does. So the units that share a token with the query come first, and the
ranking does not depend on the order of the corpus. The selection takes a unit whenever it
may: it leaves one out only when it is full or the unit does not fit.
-/

namespace ChatPlatform
namespace Bm25

/-! ## Scores -/

section Scores

variable {K : Type} [Field K] [LinearOrder K]

/-- The tokens of the units. -/
def documentsOf
    (lexicon : Lexicon K)
    (events : List CorpusEvent) : List (List Str) :=
  events.map fun event => lexicalTokens lexicon event.documentText

/-- The number of tokens of all units. -/
def totalLengthOf
    (lexicon : Lexicon K)
    (events : List CorpusEvent) : Nat :=
  ((documentsOf lexicon events).map List.length).sum

/-- The average number of tokens of a unit. -/
def averageLengthOf
    (lexicon : Lexicon K)
    (events : List CorpusEvent) : K :=
  (totalLengthOf lexicon events : K) / events.length

/-- The score of a unit in a corpus. -/
def scoreOf
    (lexicon : Lexicon K)
    (events : List CorpusEvent)
    (query : List Str)
    (event : CorpusEvent) : K :=
  ((query.take queryTokenCap).map
    (termScore lexicon (documentsOf lexicon events) (averageLengthOf lexicon events)
      (lexicalTokens lexicon event.documentText))).sum

/-- A unit with its score in a corpus. -/
def rankedIn
    (lexicon : Lexicon K)
    (events : List CorpusEvent)
    (query : List Str)
    (event : CorpusEvent) : RankedEvent K :=
  ⟨event, scoreOf lexicon events query event⟩

/-- No divisor of the ranking of a corpus is zero. -/
structure NoZeroDivisor
    (lexicon : Lexicon K)
    (events : List CorpusEvent)
    (query : List Str) : Prop where
  /-- The number of units. -/
  count : (events.length : K) ≠ 0
  /-- The average number of tokens. -/
  average : averageLengthOf lexicon events ≠ 0
  /-- The smoothed document frequency of a term. -/
  frequency : ∀ term ∈ query.take queryTokenCap,
    ((documentsOf lexicon events).countP (term ∈ ·) : K) + 1 / 2 ≠ 0
  /-- The normalized frequency of a term in a unit. -/
  denominator : ∀ event ∈ events, ∀ term ∈ query.take queryTokenCap,
    ((lexicalTokens lexicon event.documentText).count term : K) +
      k1 * (1 - b + b * ((lexicalTokens lexicon event.documentText).length : K) /
        averageLengthOf lexicon events) ≠ 0

/-- The order of the ranking without ties. -/
def StrictlyPrecedes (left right : RankedEvent K) : Prop :=
  right.score < left.score ∨
    right.score = left.score ∧ left.event.eventId < right.event.eventId

/-- What a ranking says of a corpus and a query. -/
structure RanksByScore
    (lexicon : Lexicon K)
    (events : List CorpusEvent)
    (query : List Str)
    (ranked : List (RankedEvent K)) : Prop where
  /-- Every unit is ranked once. -/
  perm : (ranked.map (·.event)).Perm events
  /-- The ranking is in strictly increasing order of negated score and identifier. -/
  ordered : ranked.Pairwise StrictlyPrecedes
  /-- A score is zero exactly when no term of the query is a token of the unit. -/
  zero : ∀ item ∈ ranked, item.score = 0 ↔
    ∀ term ∈ query.take queryTokenCap,
      term ∉ lexicalTokens lexicon item.event.documentText
  /-- Every other score is positive. -/
  positive : ∀ item ∈ ranked, item.score ≠ 0 → 0 < item.score
  /-- The units without a shared token come last. -/
  zeroLast : ranked.Pairwise fun earlier later => earlier.score = 0 → later.score = 0

/-- Score and identifier of a ranked unit. -/
def rankKey (ranked : RankedEvent K) : Lex (Kᵒᵈ × Int) :=
  toLex (OrderDual.toDual ranked.score, ranked.event.eventId)

omit [Field K] in
/-- The order of the ranking compares scores and identifiers. -/
theorem precedes_iff_rankKey (left right : RankedEvent K) :
    precedes left right ↔ rankKey left ≤ rankKey right := by
  unfold precedes rankKey
  rw [Prod.Lex.toLex_le_toLex]
  dsimp only
  rw [OrderDual.toDual_lt_toDual, OrderDual.toDual_inj]
  exact or_congr Iff.rfl (and_congr eq_comm Iff.rfl)

omit [Field K] [LinearOrder K] in
/-- Units with different identifiers have different keys. -/
theorem eventId_eq_of_rankKey_eq
    {left right : RankedEvent K}
    (same : rankKey left = rankKey right) : left.event.eventId = right.event.eventId :=
  congrArg (fun key : Lex (Kᵒᵈ × Int) => (ofLex key).2) same

/-- A corpus with a token is ranked by its scores. -/
theorem rankEvents_of_tokens
    {lexicon : Lexicon K}
    {events : List CorpusEvent}
    (tokens : totalLengthOf lexicon events ≠ 0)
    (query : List Str) :
    rankEvents lexicon events query =
      some ((events.map (rankedIn lexicon events query)).insertionSort precedes) := by
  have nonempty : events ≠ [] := by
    rintro rfl
    exact tokens rfl
  unfold rankEvents
  rw [if_neg nonempty]
  exact if_neg tokens

omit [LinearOrder K] in
/-- Scores do not depend on the order of the corpus. -/
theorem scoreOf_perm
    {lexicon : Lexicon K}
    {events others : List CorpusEvent}
    (rearranged : events.Perm others)
    (query : List Str) : scoreOf lexicon events query = scoreOf lexicon others query := by
  have documents : (documentsOf lexicon events).Perm (documentsOf lexicon others) :=
    rearranged.map _
  have total : totalLengthOf lexicon events = totalLengthOf lexicon others :=
    (documents.map _).sum_nat
  have frequencies : ∀ term : Str,
      (documentsOf lexicon events).countP (term ∈ ·) =
        (documentsOf lexicon others).countP (term ∈ ·) :=
    fun term => documents.countP_eq _
  funext event
  unfold scoreOf
  congr 1
  apply List.map_congr_left
  intro term _
  unfold termScore averageLengthOf
  rw [frequencies, total, documents.length_eq, rearranged.length_eq]

omit [LinearOrder K] in
/-- A term that is no token adds nothing. -/
theorem termScore_of_not_mem
    (lexicon : Lexicon K)
    (documents : List (List Str))
    (averageLength : K)
    {tokens : List Str}
    {term : Str}
    (absent : term ∉ tokens) :
    termScore lexicon documents averageLength tokens term = 0 := by
  unfold termScore
  rw [if_pos (List.count_eq_zero_of_not_mem absent)]

variable [IsStrictOrderedRing K]

/-- The normalized frequency is positive. -/
theorem denominator_pos
    {averageLength : K}
    (positive : 0 < averageLength)
    (frequency length : Nat) :
    0 < (frequency : K) + k1 * (1 - b + b * (length : K) / averageLength) := by
  have weight : (0 : K) ≤ b * (length : K) / averageLength := by
    unfold b
    positivity
  have rest : (0 : K) < 1 - b := by
    unfold b
    norm_num
  have scaled : (0 : K) < k1 * (1 - b + b * (length : K) / averageLength) := by
    unfold k1
    exact mul_pos (by norm_num) (add_pos_of_pos_of_nonneg rest weight)
  exact add_pos_of_nonneg_of_pos (Nat.cast_nonneg frequency) scaled

/-- A term that is a token adds to the score. -/
theorem termScore_pos
    {lexicon : Lexicon K}
    (lnPositive : ∀ x, 1 < x → 0 < lexicon.ln x)
    (documents : List (List Str))
    {averageLength : K}
    (positive : 0 < averageLength)
    {tokens : List Str}
    {term : Str}
    (present : term ∈ tokens) :
    0 < termScore lexicon documents averageLength tokens term := by
  have counted : 0 < tokens.count term := List.count_pos_iff.mpr present
  have atMost : ((documents.countP (term ∈ ·) : Nat) : K) ≤ documents.length :=
    Nat.cast_le.mpr List.countP_le_length
  have smoothed : (0 : K) < (documents.countP (term ∈ ·) : K) + 1 / 2 := by positivity
  have rest : (0 : K) < (documents.length : K) - documents.countP (term ∈ ·) + 1 / 2 := by
    linarith
  have above : (1 : K) < 1 + ((documents.length : K) - documents.countP (term ∈ ·) + 1 / 2) /
      (documents.countP (term ∈ ·) + 1 / 2) :=
    lt_add_of_pos_right 1 (div_pos rest smoothed)
  have frequency : (0 : K) < tokens.count term := Nat.cast_pos.mpr counted
  have saturation : (0 : K) < k1 + 1 := by
    unfold k1
    norm_num
  unfold termScore
  dsimp only
  rw [if_neg counted.ne']
  exact div_pos (mul_pos (mul_pos (lnPositive _ above) frequency) saturation)
    (denominator_pos positive _ _)

/-- A sum of terms that are not negative is zero exactly when each of them is. -/
private theorem sum_map_eq_zero_iff
    (items : List Str)
    (term : Str → K)
    (nonnegative : ∀ item ∈ items, 0 ≤ term item) :
    0 ≤ (items.map term).sum ∧
      ((items.map term).sum = 0 ↔ ∀ item ∈ items, term item = 0) := by
  induction items with
  | nil => simp
  | cons item rest inductionHypothesis =>
      obtain ⟨first, others⟩ := List.forall_mem_cons.mp nonnegative
      obtain ⟨sumNonnegative, zero⟩ := inductionHypothesis others
      rw [List.map_cons, List.sum_cons, List.forall_mem_cons, ← zero]
      exact ⟨add_nonneg first sumNonnegative, add_eq_zero_iff_of_nonneg first sumNonnegative⟩

/-- The average length of a corpus with a token is positive. -/
theorem averageLengthOf_pos
    {lexicon : Lexicon K}
    {events : List CorpusEvent}
    (tokens : totalLengthOf lexicon events ≠ 0) : 0 < averageLengthOf lexicon events := by
  have counted : events.length ≠ 0 := by
    intro none
    rw [List.length_eq_zero_iff] at none
    subst none
    exact tokens rfl
  unfold averageLengthOf
  exact div_pos (Nat.cast_pos.mpr (Nat.pos_of_ne_zero tokens))
    (Nat.cast_pos.mpr (Nat.pos_of_ne_zero counted))

/-- Scores are not negative, and zero exactly without a shared token. -/
theorem scoreOf_spec
    {lexicon : Lexicon K}
    (lnPositive : ∀ x, 1 < x → 0 < lexicon.ln x)
    {events : List CorpusEvent}
    (tokens : totalLengthOf lexicon events ≠ 0)
    (query : List Str)
    (event : CorpusEvent) :
    0 ≤ scoreOf lexicon events query event ∧
      (scoreOf lexicon events query event = 0 ↔
        ∀ term ∈ query.take queryTokenCap,
          term ∉ lexicalTokens lexicon event.documentText) := by
  have average := averageLengthOf_pos tokens
  have shared : ∀ term, term ∈ lexicalTokens lexicon event.documentText →
      0 < termScore lexicon (documentsOf lexicon events) (averageLengthOf lexicon events)
        (lexicalTokens lexicon event.documentText) term :=
    fun term present => termScore_pos lnPositive _ average present
  have foreign : ∀ term, term ∉ lexicalTokens lexicon event.documentText →
      termScore lexicon (documentsOf lexicon events) (averageLengthOf lexicon events)
        (lexicalTokens lexicon event.documentText) term = 0 :=
    fun term absent => termScore_of_not_mem lexicon _ _ absent
  unfold scoreOf
  obtain ⟨nonnegative, zero⟩ := sum_map_eq_zero_iff (query.take queryTokenCap)
    (termScore lexicon (documentsOf lexicon events) (averageLengthOf lexicon events)
      (lexicalTokens lexicon event.documentText)) (by
    intro term _
    by_cases present : term ∈ lexicalTokens lexicon event.documentText
    · exact (shared term present).le
    · exact (foreign term present).ge)
  refine ⟨nonnegative, zero.trans (forall₂_congr fun term _ => ?_)⟩
  constructor
  · intro nothing present
    exact (shared term present).ne' nothing
  · exact foreign term

/-- No division by zero occurs in the ranking of a corpus with a token. -/
theorem noZeroDivisor
    {lexicon : Lexicon K}
    {events : List CorpusEvent}
    (tokens : totalLengthOf lexicon events ≠ 0)
    (query : List Str) : NoZeroDivisor lexicon events query where
  count := by
    intro none
    rw [Nat.cast_eq_zero, List.length_eq_zero_iff] at none
    subst none
    exact tokens rfl
  average := (averageLengthOf_pos tokens).ne'
  frequency := by
    intro term _
    have positive : (0 : K) < ((documentsOf lexicon events).countP (term ∈ ·) : K) + 1 / 2 := by
      positivity
    exact positive.ne'
  denominator := fun _ _ _ _ => (denominator_pos (averageLengthOf_pos tokens) _ _).ne'

omit [LinearOrder K] [IsStrictOrderedRing K] in
/-- Units with distinct identifiers are told apart by their keys. -/
private theorem eq_of_rankKey_eq
    {lexicon : Lexicon K}
    {events : List CorpusEvent}
    (distinct : (events.map (·.eventId)).Nodup)
    (query : List Str) :
    ∀ left ∈ events.map (rankedIn lexicon events query),
      ∀ right ∈ events.map (rankedIn lexicon events query),
        rankKey left = rankKey right → left = right := by
  intro left leftHeld right rightHeld same
  obtain ⟨event, inEvents, rfl⟩ := List.mem_map.mp leftHeld
  obtain ⟨other, otherInEvents, rfl⟩ := List.mem_map.mp rightHeld
  have sameId : event.eventId = other.eventId := eventId_eq_of_rankKey_eq same
  rw [List.inj_on_of_nodup_map distinct inEvents otherInEvents sameId]

omit [Field K] [IsStrictOrderedRing K] in
/-- Sorted units with distinct identifiers are in strict order. -/
private theorem pairwise_strictlyPrecedes
    {ranked : List (RankedEvent K)}
    (distinct : (ranked.map (·.event.eventId)).Nodup) :
    (ranked.insertionSort precedes).Pairwise StrictlyPrecedes := by
  have total : Std.Total (precedes (K := K)) := ⟨fun left right => by
    rw [precedes_iff_rankKey, precedes_iff_rankKey]
    exact le_total _ _⟩
  have transitive : IsTrans (RankedEvent K) precedes := ⟨fun first second third => by
    rw [precedes_iff_rankKey, precedes_iff_rankKey, precedes_iff_rankKey]
    exact le_trans⟩
  have sorted := List.pairwise_insertionSort precedes ranked
  have apart : (ranked.insertionSort precedes).Pairwise fun left right =>
      left.event.eventId ≠ right.event.eventId := by
    refine List.pairwise_map.mp ?_
    exact ((List.perm_insertionSort precedes ranked).map (·.event.eventId)).nodup_iff.mpr
      distinct
  refine (sorted.and apart).imp ?_
  rintro left right ⟨higher | ⟨sameScore, notLater⟩, different⟩
  · exact Or.inl higher
  · exact Or.inr ⟨sameScore, lt_of_le_of_ne notLater different⟩

/-- A corpus of distinct units with a token is ranked by score, without division by zero,
and alike in every order. -/
theorem rankEvents_ranksByScore
    {lexicon : Lexicon K}
    (lnPositive : ∀ x, 1 < x → 0 < lexicon.ln x)
    {events : List CorpusEvent}
    (distinct : (events.map (·.eventId)).Nodup)
    (tokens : totalLengthOf lexicon events ≠ 0)
    (query : List Str) :
    ∃ ranked, rankEvents lexicon events query = some ranked ∧
      RanksByScore lexicon events query ranked ∧
      NoZeroDivisor lexicon events query ∧
      ∀ others, events.Perm others → rankEvents lexicon others query = some ranked := by
  have sorted := List.perm_insertionSort precedes (events.map (rankedIn lexicon events query))
  have named : (events.map (rankedIn lexicon events query)).map (·.event) = events := by
    rw [List.map_map]
    exact List.map_id events
  have ordered : ((events.map (rankedIn lexicon events query)).insertionSort
      precedes).Pairwise StrictlyPrecedes := by
    refine pairwise_strictlyPrecedes ?_
    rw [List.map_map]
    exact distinct
  have spec : ∀ item ∈ (events.map (rankedIn lexicon events query)).insertionSort precedes,
      0 ≤ item.score ∧ (item.score = 0 ↔ ∀ term ∈ query.take queryTokenCap,
        term ∉ lexicalTokens lexicon item.event.documentText) := by
    intro item held
    obtain ⟨event, -, rfl⟩ := List.mem_map.mp (sorted.mem_iff.mp held)
    exact scoreOf_spec lnPositive tokens query event
  refine ⟨_, rankEvents_of_tokens tokens query, ⟨?_, ordered, ?_, ?_, ?_⟩,
    noZeroDivisor tokens query, ?_⟩
  · have renamed := sorted.map (·.event)
    rwa [named] at renamed
  · exact fun item held => (spec item held).2
  · exact fun item held nonzero => lt_of_le_of_ne (spec item held).1 (Ne.symm nonzero)
  · refine ordered.imp_of_mem ?_
    rintro earlier later - held (higher | ⟨same, -⟩) nothing
    · rw [nothing] at higher
      exact absurd higher (not_lt.mpr (spec later held).1)
    · exact same.trans nothing
  · intro others rearranged
    have sameTotal : totalLengthOf lexicon others = totalLengthOf lexicon events :=
      ((rearranged.symm.map _).map _).sum_nat
    have sameRank : rankedIn lexicon others query = rankedIn lexicon events query := by
      funext event
      unfold rankedIn
      rw [scoreOf_perm rearranged]
    rw [rankEvents_of_tokens (by rwa [sameTotal]), sameRank]
    have alike := KeySort.insertionSort_perm
      (fun left _ right _ => precedes_iff_rankKey left right)
      (eq_of_rankKey_eq distinct query)
      (rearranged.map (rankedIn lexicon events query))
    rw [alike]

end Scores

/-! ## Selection -/

section Selection

variable {K : Type}

/-- The size of the texts of units. -/
def textSize (events : List CorpusEvent) : Nat :=
  (events.map fun event => event.documentText.length).sum

/-- What a selection takes of a ranking. -/
structure SelectsGreedily
    (ranked : List (RankedEvent K))
    (maxChars : Int)
    (selected : List CorpusEvent)
    (used : Nat) : Prop where
  /-- The selected units are in the order of the ranking. -/
  sublist : selected.Sublist (ranked.map (·.event))
  /-- There are at most five. -/
  atMost : selected.length ≤ topK
  /-- Their size is reported. -/
  size : used = textSize selected
  /-- They fit. -/
  fits : 0 ≤ maxChars → (used : Int) ≤ maxChars
  /-- A unit is taken next, unless those taken of the units ranked before it are five or
  leave too little room. -/
  leftOut : ∀ before item after, ranked = before ++ item :: after →
    ∃ kept later, kept = (packSelectedEvents before maxChars []).1 ∧
      selected = kept ++ later ∧ kept.Sublist (before.map (·.event)) ∧
      ((∃ rest, later = item.event :: rest ∧ rest.Sublist (after.map (·.event))) ∨
        later.Sublist (after.map (·.event)) ∧
          (kept.length = topK ∨
            maxChars - textSize kept < item.event.documentText.length))

/-- Five units are enough. -/
private theorem packFrom_full
    {maxChars : Int}
    {excludedIds : List Int}
    {accepted : List CorpusEvent}
    {used : Nat}
    (full : accepted.length = topK)
    (ranked : List (RankedEvent K)) :
    packFrom maxChars excludedIds accepted used ranked = (accepted, used) := by
  induction ranked with
  | nil => rfl
  | cons first rest inductionHypothesis =>
      rw [packFrom, if_pos full, inductionHypothesis]
      split <;> rfl

/-- A ranking in two parts is selected from one part after the other. -/
theorem packFrom_append
    (maxChars : Int)
    (excludedIds : List Int)
    (accepted : List CorpusEvent)
    (used : Nat)
    (before after : List (RankedEvent K)) :
    packFrom maxChars excludedIds accepted used (before ++ after) =
      packFrom maxChars excludedIds
        (packFrom maxChars excludedIds accepted used before).1
        (packFrom maxChars excludedIds accepted used before).2 after := by
  induction before generalizing accepted used with
  | nil => rfl
  | cons first rest inductionHypothesis =>
      rw [List.cons_append, packFrom, packFrom]
      split
      · exact inductionHypothesis accepted used
      · split
        · rename_i full
          exact (packFrom_full full after).symm
        · dsimp only
          split
          · exact inductionHypothesis _ _
          · exact inductionHypothesis accepted used

/-- What a selection adds to what was accepted before. -/
structure Adds
    (maxChars : Int)
    (accepted : List CorpusEvent)
    (used : Nat)
    (ranked : List (RankedEvent K))
    (later : List CorpusEvent)
    (result : List CorpusEvent × Nat) : Prop where
  /-- It is added at the end. -/
  added : result.1 = accepted ++ later
  /-- It is taken in order. -/
  sublist : later.Sublist (ranked.map (·.event))
  /-- Its size is counted. -/
  size : result.2 = used + textSize later
  /-- No more than five are held. -/
  atMost : accepted.length ≤ topK → result.1.length ≤ topK
  /-- The room is kept. -/
  fits : (used : Int) ≤ maxChars → (result.2 : Int) ≤ maxChars

/-- A selection adds units in the order of their ranks while they fit. -/
theorem packFrom_adds
    (maxChars : Int)
    (excludedIds : List Int)
    (accepted : List CorpusEvent)
    (used : Nat)
    (ranked : List (RankedEvent K)) :
    ∃ later, Adds maxChars accepted used ranked later
      (packFrom maxChars excludedIds accepted used ranked) := by
  induction ranked generalizing accepted used with
  | nil => exact ⟨[], by simp [packFrom], .refl _, rfl, id, id⟩
  | cons first rest inductionHypothesis =>
      have skip : ∃ later, Adds maxChars accepted used (first :: rest) later
          (packFrom maxChars excludedIds accepted used rest) := by
        obtain ⟨later, adds⟩ := inductionHypothesis accepted used
        exact ⟨later, adds.added, adds.sublist.cons _, adds.size, adds.atMost, adds.fits⟩
      rw [packFrom]
      split
      · exact skip
      · split
        · exact ⟨[], by simp, List.nil_sublist _, rfl, id, id⟩
        · rename_i notFull
          dsimp only
          split
          · rename_i fits
            obtain ⟨later, adds⟩ := inductionHypothesis (accepted ++ [first.event])
              (used + first.event.documentText.length)
            refine ⟨first.event :: later, ?_, adds.sublist.cons_cons _, ?_, ?_, ?_⟩
            · rw [adds.added, List.append_assoc]
              rfl
            · rw [adds.size]
              simp [textSize, Nat.add_assoc]
            · intro notMore
              refine adds.atMost ?_
              rw [List.length_append]
              exact Nat.lt_of_le_of_ne notMore notFull
            · intro room
              exact adds.fits (by push_cast; omega)
          · exact skip

/-- The selection takes a unit whenever it may, for every ranking and every budget. -/
theorem packSelectedEvents_greedy
    (ranked : List (RankedEvent K))
    (maxChars : Int) :
    SelectsGreedily ranked maxChars (packSelectedEvents ranked maxChars []).1
      (packSelectedEvents ranked maxChars []).2 := by
  have whole : ∀ part : List (RankedEvent K),
      ∃ later, Adds maxChars [] 0 part later (packSelectedEvents part maxChars []) :=
    fun part => packFrom_adds maxChars [] [] 0 part
  obtain ⟨selected, adds⟩ := whole ranked
  have isSelected : (packSelectedEvents ranked maxChars []).1 = selected := adds.added
  refine ⟨?_, adds.atMost (Nat.zero_le _), ?_, adds.fits, ?_⟩
  · rw [isSelected]
    exact adds.sublist
  · rw [adds.size, isSelected, Nat.zero_add]
  · rintro before item after rfl
    obtain ⟨kept, addsKept⟩ := whole before
    have isKept : (packSelectedEvents before maxChars []).1 = kept := addsKept.added
    have used : (packSelectedEvents before maxChars []).2 = textSize kept := by
      rw [addsKept.size, Nat.zero_add]
    have inTwo : packSelectedEvents (before ++ item :: after) maxChars [] =
        packFrom maxChars [] kept (textSize kept) (item :: after) := by
      rw [← used, ← isKept]
      exact packFrom_append maxChars [] [] 0 before (item :: after)
    rw [inTwo, packFrom, if_neg List.not_mem_nil]
    split
    · rename_i full
      exact ⟨kept, [], isKept.symm, by simp, addsKept.sublist,
        Or.inr ⟨List.nil_sublist _, Or.inl full⟩⟩
    · dsimp only
      split
      · obtain ⟨rest, addsRest⟩ := packFrom_adds maxChars [] (kept ++ [item.event])
          (textSize kept + item.event.documentText.length) after
        refine ⟨kept, item.event :: rest, isKept.symm, ?_, addsKept.sublist,
          Or.inl ⟨rest, rfl, addsRest.sublist⟩⟩
        rw [addsRest.added, List.append_assoc]
        rfl
      · rename_i tooLarge
        obtain ⟨rest, addsRest⟩ := packFrom_adds maxChars [] kept (textSize kept) after
        exact ⟨kept, rest, isKept.symm, addsRest.added, addsKept.sublist,
          Or.inr ⟨addsRest.sublist, Or.inr (Int.not_le.mp tooLarge)⟩⟩

end Selection

/-- The laws of ranking and selection together: every corpus of distinct units with a token
is ranked by score, and from every ranking the selection takes what it may. -/
theorem ranking_and_selection
    {K : Type}
    [Field K]
    [LinearOrder K]
    [IsStrictOrderedRing K]
    {lexicon : Lexicon K}
    (lnPositive : ∀ x, 1 < x → 0 < lexicon.ln x)
    {events : List CorpusEvent}
    (distinct : (events.map (·.eventId)).Nodup)
    (tokens : totalLengthOf lexicon events ≠ 0)
    (query : List Str) :
    (∃ ranked, rankEvents lexicon events query = some ranked ∧
      RanksByScore lexicon events query ranked ∧
      NoZeroDivisor lexicon events query ∧
      ∀ others, events.Perm others → rankEvents lexicon others query = some ranked) ∧
    ∀ (ranked : List (RankedEvent K)) (maxChars : Int),
      SelectsGreedily ranked maxChars (packSelectedEvents ranked maxChars []).1
        (packSelectedEvents ranked maxChars []).2 :=
  ⟨rankEvents_ranksByScore lnPositive distinct tokens query, packSelectedEvents_greedy⟩

/-- The natural logarithm, with letters and digits as the characters of tokens. -/
noncomputable def naturalLexicon : Lexicon ℝ := ⟨id, Char.isAlphanum, Real.log⟩

/-- Two units of one message. -/
def greetingUnits : List CorpusEvent :=
  [CorpusEvent.ofTurn (TurnUnit.single ⟨1, .user, "good day".toList⟩),
    CorpusEvent.ofTurn (TurnUnit.single ⟨3, .assistant, "hello".toList⟩)]

/-- Ranking two units by real scores. -/
theorem ranking_and_selection_greeting :
    (∃ ranked, rankEvents naturalLexicon greetingUnits ["day".toList] = some ranked ∧
      RanksByScore naturalLexicon greetingUnits ["day".toList] ranked ∧
      NoZeroDivisor naturalLexicon greetingUnits ["day".toList] ∧
      ∀ others, greetingUnits.Perm others →
        rankEvents naturalLexicon others ["day".toList] = some ranked) ∧
    ∀ (ranked : List (RankedEvent ℝ)) (maxChars : Int),
      SelectsGreedily ranked maxChars (packSelectedEvents ranked maxChars []).1
        (packSelectedEvents ranked maxChars []).2 :=
  ranking_and_selection (fun _ above => Real.log_pos above) (by decide) (by decide) _

end Bm25
end ChatPlatform
