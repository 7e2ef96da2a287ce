import ChatPlatform.Conversation.Turns
import Mathlib.Algebra.Order.Field.Basic
import Mathlib.Data.List.Sort

/-!
# Ranking the retrieval corpus

BM25 over the units outside the window, with scores in an ordered field, and the
selection of the best units that fit into a number of characters. Text
normalization, the word characters and the logarithm are given.
-/

namespace ChatPlatform
namespace Bm25

/-- What the ranking takes from the standard library. -/
structure Lexicon (K : Type) where
  /-- NFKC normalization followed by case folding. -/
  normalize : Str → Str
  /-- Whether a character belongs to a token. -/
  isTokenChar : Char → Bool
  /-- The natural logarithm. -/
  ln : K → K

/-- Most tokens of a query. -/
def queryTokenCap : Nat := 256

/-- Most units selected. -/
def topK : Nat := 5

variable {K : Type}

/-- The tokens of a text: the runs of token characters of the normalized text. -/
def lexicalTokens (lexicon : Lexicon K) (text : Str) : List Str :=
  Text.runsFrom (fun c => !lexicon.isTokenChar c) [] (lexicon.normalize text)

/-- The elements in order of their first occurrence, where `seen` were met
before. -/
def firstOccurrences (seen : List Str) : List Str → List Str
  | [] => []
  | token :: rest =>
      if token ∈ seen then firstOccurrences seen rest
      else token :: firstOccurrences (token :: seen) rest

/-- The distinct tokens of a query, cut to the cap. -/
def queryTokens (lexicon : Lexicon K) (text : Str) : List Str :=
  (firstOccurrences [] (lexicalTokens lexicon text)).take queryTokenCap

/-- A unit with its score. -/
structure RankedEvent (K : Type) where
  /-- The unit. -/
  event : CorpusEvent
  /-- Its score. -/
  score : K

section Scores

variable [Field K] [LinearOrder K]

/-- The term-frequency saturation constant. -/
def k1 : K := 6 / 5

/-- The length normalization constant. -/
def b : K := 3 / 4

/-- What one query term adds to the score of a document. -/
def termScore
    (lexicon : Lexicon K)
    (documents : List (List Str))
    (averageLength : K)
    (tokens : List Str)
    (term : Str) : K :=
  let frequency := tokens.count term
  if frequency = 0 then 0
  else
    let documentFrequency := documents.countP (term ∈ ·)
    let inverseDocumentFrequency := lexicon.ln
      (1 + ((documents.length : K) - documentFrequency + 1 / 2) /
        (documentFrequency + 1 / 2))
    let denominator := (frequency : K) +
      k1 * (1 - b + b * (tokens.length : K) / averageLength)
    inverseDocumentFrequency * frequency * (k1 + 1) / denominator

/-- The order of the ranking: higher scores first, then smaller identifiers. -/
def precedes (left right : RankedEvent K) : Prop :=
  right.score < left.score ∨
    right.score = left.score ∧ left.event.eventId ≤ right.event.eventId

/-- The order of the ranking is decidable. -/
instance (left right : RankedEvent K) : Decidable (precedes left right) :=
  inferInstanceAs (Decidable (_ ∨ _))

/-- Rank the units; `none` stands for the error raised when no document has a
token. -/
def rankEvents
    (lexicon : Lexicon K)
    (events : List CorpusEvent)
    (query : List Str) : Option (List (RankedEvent K)) :=
  if events = [] then some []
  else
    let documents := events.map fun event =>
      lexicalTokens lexicon event.documentText
    let totalLength := (documents.map List.length).sum
    if totalLength = 0 then none
    else
      let averageLength : K := totalLength / events.length
      let scored := events.map fun event =>
        { event
          score := ((query.take queryTokenCap).map (termScore lexicon documents
            averageLength (lexicalTokens lexicon event.documentText))).sum }
      some (scored.insertionSort precedes)

end Scores

/-- Select from ranked units, where `accepted` were selected before and `used` is
their size. A unit that does not fit is skipped. -/
def packFrom
    (maxChars : Int)
    (excludedIds : List Int)
    (accepted : List CorpusEvent)
    (used : Nat) : List (RankedEvent K) → List CorpusEvent × Nat
  | [] => (accepted, used)
  | ranked :: rest =>
      if ranked.event.eventId ∈ excludedIds then
        packFrom maxChars excludedIds accepted used rest
      else if accepted.length = topK then (accepted, used)
      else
        let size := ranked.event.documentText.length
        if (size : Int) ≤ maxChars - used then
          packFrom maxChars excludedIds (accepted ++ [ranked.event]) (used + size)
            rest
        else packFrom maxChars excludedIds accepted used rest

/-- The best units that fit, and their size. -/
def packSelectedEvents
    (ranked : List (RankedEvent K))
    (maxChars : Int)
    (excludedIds : List Int) : List CorpusEvent × Nat :=
  packFrom maxChars excludedIds [] 0 ranked

/-- Only ranked units are selected. -/
theorem mem_of_mem_packFrom
    {maxChars : Int}
    {excludedIds : List Int}
    {accepted : List CorpusEvent}
    {used : Nat}
    {ranked : List (RankedEvent K)}
    {event : CorpusEvent}
    (selected : event ∈ (packFrom maxChars excludedIds accepted used ranked).1) :
    event ∈ accepted ∨ event ∈ ranked.map (·.event) := by
  induction ranked generalizing accepted used with
  | nil => exact Or.inl selected
  | cons first rest inductionHypothesis =>
      unfold packFrom at selected
      have later : ∀ {accepted used},
          event ∈ (packFrom maxChars excludedIds accepted used rest).1 →
            event ∈ accepted ∨ event ∈ (first :: rest).map (·.event) := by
        intro accepted used selected
        rcases inductionHypothesis selected with early | late
        · exact Or.inl early
        · exact Or.inr (List.mem_cons_of_mem _ late)
      split at selected
      · exact later selected
      · split at selected
        · exact Or.inl selected
        · dsimp only at selected
          split at selected
          · rcases later selected with early | late
            · rcases List.mem_append.mp early with before | isFirst
              · exact Or.inl before
              · rw [List.mem_singleton.mp isFirst]
                exact Or.inr (by simp)
            · exact Or.inr late
          · exact later selected

/-- Only units of the corpus are ranked. -/
theorem mem_of_mem_rankEvents
    [Field K]
    [LinearOrder K]
    {lexicon : Lexicon K}
    {events : List CorpusEvent}
    {query : List Str}
    {ranked : List (RankedEvent K)}
    (success : rankEvents lexicon events query = some ranked)
    {event : CorpusEvent}
    (present : event ∈ ranked.map (·.event)) : event ∈ events := by
  unfold rankEvents at success
  split at success
  · cases success
    simp at present
  · dsimp only at success
    split at success
    · cases success
    · cases success
      obtain ⟨item, held, same⟩ := List.mem_map.mp present
      have scored := (List.perm_insertionSort _ _).mem_iff.mp held
      obtain ⟨source, inEvents, rfl⟩ := List.mem_map.mp scored
      rwa [← same]

end Bm25
end ChatPlatform
