import ChatPlatform.Foundation.Uuid
import ChatPlatform.Providers.Port
import ChatPlatform.Retrieval.AwsReranker
import ChatPlatform.Retrieval.GcpReranker

/-!
# The retrieval pipeline

The query is rewritten, candidates are retrieved and reranked, and a short result is
evaluated. Production reranks with GCP first and with AWS when GCP fails other than
by its own explicit refusal.
-/

namespace ChatPlatform
namespace Retrieval

/-! ## The cascade -/

/-- GCP with AWS as the fallback. -/
structure CascadingReranker (F : Type) where
  /-- The primary adapter. -/
  primary : GcpReranker F
  /-- The fallback adapter. -/
  fallback : AwsReranker F

variable {F : Type} [FloatOps F] (shown : Value F → Str)

/-- Rerank with the primary adapter; any exception but a terminal one leads to the
fallback. -/
def CascadingReranker.rerank
    (cascade : CascadingReranker F)
    (request : RerankRequest) : Except RerankException (List (RankedDocument F)) :=
  match GcpReranker.rerank shown cascade.primary request with
  | .ok results => .ok results
  | .error (.terminal error) => .error (.terminal error)
  | .error (.transient _) => cascade.fallback.rerank request
  | .error (.other _) => cascade.fallback.rerank request

/-! ## The pipeline -/

/-- A candidate of the hybrid search. -/
structure RetrievedChunk where
  /-- Identifier of the passage. -/
  chunkId : Uuid
  /-- Identifier of the document. -/
  documentId : Uuid
  /-- Text of the passage. -/
  text : Str
  deriving DecidableEq

/-- A chunk with its final rank. -/
structure RankedChunk where
  /-- The chunk. -/
  chunk : RetrievedChunk
  /-- Its rank, from one. -/
  rank : Nat
  deriving DecidableEq

/-- What a retrieval returns. -/
structure PipelineResult where
  /-- Identifier of the request. -/
  requestId : Uuid
  /-- The query. -/
  query : Str
  /-- The query used. -/
  rewrittenQuery : Str
  /-- The chunks in their order. -/
  chunks : List RankedChunk
  /-- Whether the reranker was given up. -/
  fallbackTriggered : Bool
  /-- Whether the evaluator was asked. -/
  evaluatorTriggered : Bool
  /-- What the evaluator said, if anything. -/
  evaluatorVerdict : Option Str
  deriving DecidableEq

/-- Why a retrieval fails. -/
inductive PipelineException
  /-- Embedding or search failed. -/
  | retrieval (name : Str)
  /-- An exception of the reranker. -/
  | reranker (exception : RerankException)
  /-- A result refers to no candidate. -/
  | indexError
  deriving DecidableEq

/-- The pipeline: its ports and its settings. -/
structure RetrievalPipeline (F : Type) where
  /-- The provider. -/
  generate : List ChatMessage → Except ProviderException ProviderResult
  /-- Embedding and hybrid search of a query for a number of candidates. -/
  hybridSearch : Str → Int → Except Str (List RetrievedChunk)
  /-- The reranker. -/
  reranker : CascadingReranker F
  /-- Upper case of a text. -/
  upper : Str → Str
  /-- Number of candidates to retrieve. -/
  topKCandidates : Int := 20
  /-- Number of results when the caller gives none. -/
  topN : Int := 5
  /-- Number of results below which the evaluator is asked. -/
  minRerankedResults : Int := 5

/-- The prompt of the rewriter. -/
def rewritePrompt : Str :=
  ("You rewrite a user's search query to improve retrieval over a technical " ++
    "document corpus. Preserve the query's original language. Paraphrase and " ++
    "expand likely abbreviations or synonyms; do not narrow or answer the " ++
    "query. Reply with only the rewritten query, one line, no commentary.").toList

/-- The prompt of the evaluator. -/
def evaluatorPrompt : Str :=
  ("You judge whether the passages below are sufficient to answer the " ++
    "query. Reply with exactly one word: SUFFICIENT or INSUFFICIENT.").toList

/-- The leading items of a list, counted from the end when the number is
negative. -/
def leading {α : Type} (items : List α) (stop : Int) : List α :=
  if 0 ≤ stop then items.take stop.toNat
  else items.take (items.length - (-stop).toNat)

/-- The item at a position, counted from the end when the position is negative. -/
def itemAt {α : Type} (items : List α) (index : Int) : Option α :=
  if 0 ≤ index then items[index.toNat]?
  else if (-index).toNat ≤ items.length then items[items.length - (-index).toNat]?
  else none

/-- Chunks with their positions as ranks. -/
def inRetrievalOrder (chunks : List RetrievedChunk) : List RankedChunk :=
  chunks.mapIdx fun position chunk => ⟨chunk, position + 1⟩

namespace RetrievalPipeline

variable (pipeline : RetrievalPipeline F)

omit [FloatOps F] in
/-- Rewrite the query; a failure and an empty answer leave it as it is. -/
def rewrite (query : Str) : Str :=
  match pipeline.generate [⟨.system, rewritePrompt⟩, ⟨.user, query⟩] with
  | .error _ => query
  | .ok result =>
      if Text.strip result.content = [] then query else Text.strip result.content

/-- Take the chunks of the results, in the order of their ranks. -/
def chunksOf (candidates : List RetrievedChunk) :
    List (RankedDocument F) → Except PipelineException (List RankedChunk)
  | [] => .ok []
  | item :: rest =>
      match itemAt candidates item.index with
      | none => .error .indexError
      | some chunk =>
          (chunksOf candidates rest).map (⟨chunk, item.rank⟩ :: ·)

/-- The request to the reranker. -/
def rerankRequest
    (query : Str)
    (candidates : List RetrievedChunk)
    (topN : Int) : RerankRequest :=
  ⟨query, candidates.map (·.text), some topN⟩

/-- Rerank the candidates; a `RerankerError` leaves them in retrieval order. -/
def rerank
    (query : Str)
    (candidates : List RetrievedChunk)
    (topN : Int) : Except PipelineException (List RankedChunk × Bool) :=
  match pipeline.reranker.rerank shown (rerankRequest query candidates topN) with
  | .error (.terminal _) | .error (.transient _) =>
      .ok (inRetrievalOrder (leading candidates topN), true)
  | .error (.other name) => .error (.reranker (.other name))
  | .ok ranked =>
      (chunksOf candidates (ranked.insertionSort fun left right =>
        left.rank ≤ right.rank)).map fun chunks => (chunks, false)

omit [FloatOps F] in
/-- Ask the evaluator; a failure and an empty answer give no verdict. -/
def evaluate (query : Str) (chunks : List RankedChunk) : Option Str :=
  let context := Text.join ['\n', '\n'] (chunks.map (·.chunk.text))
  match pipeline.generate
      [⟨.system, evaluatorPrompt⟩,
        ⟨.user, "Query: ".toList ++ query ++ "\n\nPassages:\n".toList ++ context⟩] with
  | .error _ => none
  | .ok result =>
      let verdict := pipeline.upper (Text.strip result.content)
      if verdict = [] then none else some verdict

/-- Retrieve. -/
def retrieve
    (requestId : Uuid)
    (query : Str)
    (topN : Option Int) : Except PipelineException PipelineResult :=
  let rewritten := pipeline.rewrite query
  match pipeline.hybridSearch rewritten pipeline.topKCandidates with
  | .error name => .error (.retrieval name)
  | .ok [] =>
      .ok
        { requestId
          query
          rewrittenQuery := rewritten
          chunks := []
          fallbackTriggered := false
          evaluatorTriggered := false
          evaluatorVerdict := none }
  | .ok candidates =>
      (pipeline.rerank shown rewritten candidates (topN.getD pipeline.topN)).map
        fun (chunks, fallbackTriggered) =>
          let evaluatorTriggered :=
            decide ((chunks.length : Int) < pipeline.minRerankedResults)
          { requestId
            query
            rewrittenQuery := rewritten
            chunks
            fallbackTriggered
            evaluatorTriggered
            evaluatorVerdict :=
              if evaluatorTriggered then pipeline.evaluate rewritten chunks
              else none }

end RetrievalPipeline
end Retrieval
end ChatPlatform
