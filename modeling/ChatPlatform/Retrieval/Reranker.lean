import ChatPlatform.Foundation.Dynamic

/-!
# The reranker port

A reranker orders documents by their relevance to a query and fails with one of two
normalized errors. Any other exception that leaves an adapter is one it did not
normalize.
-/

namespace ChatPlatform
namespace Retrieval

/-- A reranking request; results refer to documents by position. -/
structure RerankRequest where
  /-- The query. -/
  query : Str
  /-- The documents. -/
  documents : List Str
  /-- Number of results wanted; all of them when absent. -/
  topN : Option Int
  deriving DecidableEq

/-- One result. -/
structure RankedDocument (F : Type) where
  /-- Position of the document. -/
  index : Int
  /-- Rank, from one. -/
  rank : Nat
  /-- Score given by the backend, if any. -/
  relevanceScore : Option F

/-- A normalized failure. -/
structure RerankerError where
  /-- A safe message. -/
  message : Str
  /-- The backend that failed. -/
  backend : Str
  /-- The code the backend gave, if any. -/
  errorCode : Option Str := none
  deriving DecidableEq

/-- An exception that leaves a reranker. -/
inductive RerankException
  /-- A failure that must not be retried. -/
  | terminal (error : RerankerError)
  /-- A failure that may be retried. -/
  | transient (error : RerankerError)
  /-- An exception that is no `RerankerError`, by class name. -/
  | other (name : Str)
  deriving DecidableEq

/-- The class of an exception of an operation on values. -/
def faultName : ValueFault → Str
  | .typeError => "TypeError".toList
  | .valueError => "ValueError".toList
  | .keyError => "KeyError".toList
  | .attributeError => "AttributeError".toList
  | .overflowError => "OverflowError".toList

/-- Check a request and give the number of results wanted. -/
def validateRequest
    (backend : Str)
    (maxDocuments : Option Nat)
    (request : RerankRequest) : Except RerankException Int :=
  let topN := request.topN.getD request.documents.length
  if Text.strip request.query = [] then
    .error (.terminal ⟨"rerank query must not be empty".toList, backend, none⟩)
  else if maxDocuments.any fun limit => limit < request.documents.length then
    .error (.terminal ⟨"rerank request exceeds 200 documents".toList, backend, none⟩)
  else if request.documents.any fun document => Text.strip document = [] then
    .error (.terminal ⟨"rerank documents must not be empty".toList, backend, none⟩)
  else if topN < 0 || (request.documents.length : Int) < topN then
    .error (.terminal ⟨"top_n is outside the document range".toList, backend, none⟩)
  else .ok topN

variable {F : Type} [FloatOps F]

/-- The items of a value that is iterated over. -/
def iterate : Value F → Except ValueFault (List (Value F))
  | .list items => .ok items
  | .dict entries => .ok (entries.map fun entry => .str entry.1)
  | .str text => .ok (text.map fun c => .str [c])
  | .none | .bool _ | .int _ | .float _ => .error .typeError

/-- One result of a response, read under the names of the backend. -/
def rankedDocument
    (indexKey scoreKey : Str)
    (rank : Nat)
    (item : Value F) : Except ValueFault (RankedDocument F) := do
  let indexValue ← item.getItem indexKey
  let index ← indexValue.asInt
  let score ← item.getAttribute scoreKey
  match score with
  | none | some .none => .ok ⟨index, rank, none⟩
  | some score => do
      let number ← score.asFloat
      .ok ⟨index, rank, some number⟩

/-- The results of a response, ranked by their position from `rank` on. -/
def rankedDocuments
    (indexKey scoreKey : Str)
    (rank : Nat) : List (Value F) → Except ValueFault (List (RankedDocument F))
  | [] => .ok []
  | item :: rest => do
      let document ← rankedDocument indexKey scoreKey rank item
      let documents ← rankedDocuments indexKey scoreKey (rank + 1) rest
      .ok (document :: documents)

/-- The results of a response: a list under `key`. -/
def decodeResults
    (key indexKey scoreKey : Str)
    (response : Value F) : Except ValueFault (List (RankedDocument F)) := do
  let field ← response.getItem key
  let items ← iterate field
  rankedDocuments indexKey scoreKey 1 items

/-- Take the results of a response. The three classes of exceptions both adapters
catch become a terminal error, and a position outside the documents does too. -/
def acceptResults
    (backend : Str)
    (invalidResponse invalidIndex : Str)
    (request : RerankRequest)
    (decoded : Except ValueFault (List (RankedDocument F))) :
    Except RerankException (List (RankedDocument F)) :=
  match decoded with
  | .error .keyError | .error .typeError | .error .valueError =>
      .error (.terminal ⟨invalidResponse, backend, none⟩)
  | .error fault => .error (.other (faultName fault))
  | .ok results =>
      if results.any fun result =>
          result.index < 0 || (request.documents.length : Int) ≤ result.index then
        .error (.terminal ⟨invalidIndex, backend, none⟩)
      else .ok results

end Retrieval
end ChatPlatform
