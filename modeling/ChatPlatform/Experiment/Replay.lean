import ChatPlatform.Foundation.Keyed
import ChatPlatform.Memory.Ranking
import Mathlib.Data.List.Dedup

/-!
# The ranking of the evaluation

The experiment ranks the confirmed events of one tenant and conversation out of a
shared corpus, and packs the best of them into a budget. It has its own
implementation, with events identified by strings.
-/

namespace ChatPlatform
namespace Replay

/-- One source message of an event. -/
structure Message where
  /-- Its text. -/
  content : Str
  deriving DecidableEq

/-- A scoped confirmed exchange. -/
structure Event where
  /-- The tenant of the scope. -/
  tenantId : Str
  /-- The conversation of the scope. -/
  conversationId : Str
  /-- The identifier. -/
  eventId : Str
  /-- The position in the conversation. -/
  eventSequence : Int
  /-- The messages. -/
  messages : List Message
  /-- Whether the exchange was confirmed. -/
  confirmed : Bool
  deriving DecidableEq

/-- The text of an event: its contents, one on a line. -/
def Event.documentText (event : Event) : Str :=
  Text.join ['\n'] (event.messages.map (·.content))

/-- Most tokens of a query. -/
def bm25QueryTokenCap : Nat := 256

/-- Most events retrieved. -/
def bm25TopK : Nat := 5

variable {K : Type}

/-- The tokens of a text: the runs of token characters of the normalized text. -/
def lexicalTokens (lexicon : Bm25.Lexicon K) (text : Str) : List Str :=
  Text.runsFrom (fun c => !lexicon.isTokenChar c) [] (lexicon.normalize text)

/-- One turn of the loop over the tokens of the question. -/
def collectToken
    (found : List Str × List Str)
    (token : Str) : List Str × List Str :=
  if token ∈ found.2 then found else (found.1 ++ [token], token :: found.2)

/-- The first occurrences of the tokens of the question, cut to the cap. -/
def contextualQueryTokens
    (lexicon : Bm25.Lexicon K)
    (currentQuestion : Str) : List Str :=
  (((lexicalTokens lexicon currentQuestion).foldl collectToken ([], [])).1).take
    bm25QueryTokenCap

/-- The confirmed events of one tenant and conversation. -/
def filterEventScope
    (events : List Event)
    (tenantId conversationId : Str) : List Event :=
  events.filter fun event =>
    event.confirmed && event.tenantId == tenantId &&
      event.conversationId == conversationId

/-- An event with its score. -/
structure RankedEvent (K : Type) where
  /-- The event. -/
  event : Event
  /-- Its score. -/
  score : K

section Scores

variable [Field K] [LinearOrder K]

/-- The numerals of the constants. -/
local instance atLeastTwo (n : Nat) : Nat.AtLeastTwo (n + 2) := ⟨Nat.le_add_left 2 n⟩

/-- The term-frequency saturation constant. -/
def bm25K1 : K := 6 / 5

/-- The length normalization constant. -/
def bm25B : K := 3 / 4

/-- One turn of the loop over the query. -/
def addTerm
    (lexicon : Bm25.Lexicon K)
    (documentFrequency : List Str)
    (documentCount : Nat)
    (averageLength : K)
    (tokens : List Str)
    (score : K)
    (term : Str) : K :=
  let frequency := tokens.count term
  if frequency = 0 then score
  else
    let df := documentFrequency.count term
    let inverseDocumentFrequency := lexicon.ln
      (1 + ((documentCount : K) - df + 1 / 2) / (df + 1 / 2))
    let denominator := (frequency : K) +
      bm25K1 * (1 - bm25B + bm25B * (tokens.length : K) / averageLength)
    score + inverseDocumentFrequency * frequency * (bm25K1 + 1) / denominator

/-- The bytes of an identifier. -/
def utf8 (text : Str) : List UInt8 := text.flatMap String.utf8EncodeChar

/-- The order of the ranking: higher scores first, then earlier events, then
smaller identifiers. -/
def precedes (left right : RankedEvent K) : Prop :=
  right.score < left.score ∨
    right.score = left.score ∧
      (left.event.eventSequence < right.event.eventSequence ∨
        left.event.eventSequence = right.event.eventSequence ∧
          utf8 left.event.eventId ≤ utf8 right.event.eventId)

/-- The order of the ranking is decidable. -/
instance (left right : RankedEvent K) : Decidable (precedes left right) :=
  inferInstanceAs (Decidable (_ ∨ _ ∧ (_ ∨ _)))

/-- Rank the events of a scope; `none` stands for the error raised when no
document has a token. -/
def rankBm25
    (lexicon : Bm25.Lexicon K)
    (sharedEvents : List Event)
    (queryTokens : List Str)
    (tenantId conversationId : Str) : Option (List (RankedEvent K)) :=
  let documents := filterEventScope sharedEvents tenantId conversationId
  if documents = [] then some []
  else
    let documentTokens := Keyed.ofList (documents.map fun event =>
      (event.eventId, lexicalTokens lexicon event.documentText))
    let values := documentTokens.map (·.2)
    let totalLength := (values.map List.length).sum
    if totalLength = 0 then none
    else
      let averageLength : K := totalLength / documents.length
      let documentFrequency := values.flatMap List.dedup
      let ranked := documents.map fun event =>
        let tokens := (Keyed.find documentTokens event.eventId).getD []
        { event
          score := (queryTokens.take bm25QueryTokenCap).foldl
            (addTerm lexicon documentFrequency documents.length averageLength
              tokens) 0 }
      some (ranked.insertionSort precedes)

end Scores

/-- Select from ranked events, where `accepted` were selected before and `used` is
their size. An event that does not fit is skipped. -/
def packFrom
    (eventTokenCount : Event → Nat)
    (budget : Int)
    (excludedIds : List Str)
    (accepted : List Event)
    (used : Nat) : List (RankedEvent K) → List Event × Nat
  | [] => (accepted, used)
  | ranked :: rest =>
      if ranked.event.eventId ∈ excludedIds then
        packFrom eventTokenCount budget excludedIds accepted used rest
      else if accepted.length = bm25TopK then (accepted, used)
      else
        let size := eventTokenCount ranked.event
        if (size : Int) ≤ budget - used then
          packFrom eventTokenCount budget excludedIds (accepted ++ [ranked.event])
            (used + size) rest
        else packFrom eventTokenCount budget excludedIds accepted used rest

/-- The best events that fit into a budget, and their size. -/
def packRetrievedEvents
    (eventTokenCount : Event → Nat)
    (budget : Int)
    (ranked : List (RankedEvent K))
    (excludedIds : List Str) : List Event × Nat :=
  packFrom eventTokenCount budget excludedIds [] 0 ranked

/-! ## What the loops compute -/

/-- The loop over the tokens collects first occurrences. -/
theorem foldl_collectToken (tokens unique seen : List Str) :
    (tokens.foldl collectToken (unique, seen)).1 =
      unique ++ Bm25.firstOccurrences seen tokens := by
  induction tokens generalizing unique seen with
  | nil => simp [Bm25.firstOccurrences]
  | cons token rest inductionHypothesis =>
      rw [List.foldl_cons, Bm25.firstOccurrences]
      unfold collectToken
      split
      · exact inductionHypothesis unique seen
      · have later := inductionHypothesis (unique ++ [token]) (token :: seen)
        rw [List.append_assoc] at later
        exact later

/-- In the distinct tokens of all documents a term occurs once for each document
that has it. -/
theorem count_flatMap_dedup (documents : List (List Str)) (term : Str) :
    (documents.flatMap List.dedup).count term = documents.countP (term ∈ ·) := by
  induction documents with
  | nil => rfl
  | cons tokens rest inductionHypothesis =>
      have once : tokens.dedup.count term = if term ∈ tokens then 1 else 0 := by
        rw [(List.nodup_dedup tokens).count]
        simp only [List.mem_dedup]
      rw [List.flatMap_cons, List.count_append, inductionHypothesis,
        List.countP_cons, once, Nat.add_comm]
      simp

/-- The loop over the query adds up a score for each term. -/
theorem foldl_addTerm
    [Field K]
    [LinearOrder K]
    (lexicon : Bm25.Lexicon K)
    (documents : List (List Str))
    (averageLength : K)
    (tokens query : List Str)
    (score : K) :
    query.foldl (addTerm lexicon (documents.flatMap List.dedup) documents.length
        averageLength tokens) score =
      score + (query.map
        (Bm25.termScore lexicon documents averageLength tokens)).sum := by
  induction query generalizing score with
  | nil => simp
  | cons term rest inductionHypothesis =>
      have turn : addTerm lexicon (documents.flatMap List.dedup) documents.length
          averageLength tokens score term =
            score + Bm25.termScore lexicon documents averageLength tokens term := by
        simp only [addTerm, Bm25.termScore, count_flatMap_dedup]
        split
        · exact (add_zero score).symm
        · rfl
      rw [List.foldl_cons, turn, inductionHypothesis, List.map_cons, List.sum_cons,
        add_assoc]

/-- Both sides take the same tokens from a question. -/
theorem contextualQueryTokens_eq (lexicon : Bm25.Lexicon K) (question : Str) :
    contextualQueryTokens lexicon question = Bm25.queryTokens lexicon question := by
  unfold contextualQueryTokens
  rw [foldl_collectToken]
  rfl

end Replay
end ChatPlatform
