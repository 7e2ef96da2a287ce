import ChatPlatform.Foundation.Traversal
import ChatPlatform.Retrieval.Pipeline

/-!
# Retrieval without a reranker

A retrieval with candidates survives every failure of the reranker, except for what
the AWS adapter lets through: an exception of building its client, and an overflow
while its response is read. Nothing else can leave the cascade that the pipeline does
not catch.
-/

namespace ChatPlatform
namespace Retrieval

open Traversal

variable {F : Type} [FloatOps F]

/-! ## Reading responses -/

/-- Reading a number from a value never fails for want of an attribute. -/
private theorem asInt_ne_attributeError (value : Value F) :
    value.asInt ≠ .error .attributeError := by
  unfold Value.asInt
  split
  · exact nofun
  · exact nofun
  · split <;> exact nofun
  · split
    · exact nofun
    · split <;> exact nofun
  · exact nofun
  · exact nofun
  · exact nofun

/-- Reading a score from a value never fails for want of an attribute. -/
private theorem asFloat_ne_attributeError (value : Value F) :
    value.asFloat ≠ .error .attributeError := by
  unfold Value.asFloat
  split
  · split <;> exact nofun
  · split <;> exact nofun
  · exact nofun
  · split <;> exact nofun
  · exact nofun
  · exact nofun
  · exact nofun

omit [FloatOps F] in
/-- A missing item is no missing attribute. -/
private theorem getItem_ne_attributeError (value : Value F) (key : Str) :
    value.getItem key ≠ .error .attributeError := by
  unfold Value.getItem
  split
  · split <;> exact nofun
  · exact nofun

omit [FloatOps F] in
/-- Only a dictionary has items under string keys, and it has the attribute `get`. -/
private theorem getAttribute_ne_error_of_getItem
    {value item : Value F}
    {key : Str}
    (found : value.getItem key = .ok item)
    (other : Str) : ∀ fault, value.getAttribute other ≠ .error fault := by
  cases value with
  | dict entries => exact nofun
  | none => cases found
  | bool flag => cases found
  | int number => cases found
  | float number => cases found
  | str text => cases found
  | list items => cases found

/-- Reading one result never fails for want of an attribute. -/
private theorem rankedDocument_ne_attributeError
    (indexKey scoreKey : Str)
    (rank : Nat)
    (item : Value F) :
    rankedDocument indexKey scoreKey rank item ≠ .error .attributeError := by
  intro fails
  unfold rankedDocument at fails
  rcases error_of_bind_eq_error fails with missing | ⟨indexValue, found, fails⟩
  · exact getItem_ne_attributeError _ _ missing
  rcases error_of_bind_eq_error fails with noInt | ⟨index, -, fails⟩
  · exact asInt_ne_attributeError _ noInt
  rcases error_of_bind_eq_error fails with noGet | ⟨score, -, fails⟩
  · exact getAttribute_ne_error_of_getItem found _ _ noGet
  split at fails
  · cases fails
  · cases fails
  · rcases error_of_bind_eq_error fails with noFloat | ⟨number, -, fails⟩
    · exact asFloat_ne_attributeError _ noFloat
    · cases fails

/-- Reading the results never fails for want of an attribute. -/
private theorem rankedDocuments_ne_attributeError
    (indexKey scoreKey : Str)
    (rank : Nat)
    (items : List (Value F)) :
    rankedDocuments indexKey scoreKey rank items ≠ .error .attributeError := by
  induction items generalizing rank with
  | nil => exact nofun
  | cons item rest inductionHypothesis =>
      intro fails
      rcases error_of_bind_eq_error fails with first | ⟨document, -, fails⟩
      · exact rankedDocument_ne_attributeError _ _ _ _ first
      rcases error_of_bind_eq_error fails with others | ⟨documents, -, fails⟩
      · exact inductionHypothesis _ others
      · cases fails

/-- Reading a response never fails for want of an attribute. -/
theorem decodeResults_ne_attributeError
    (key indexKey scoreKey : Str)
    (response : Value F) :
    decodeResults key indexKey scoreKey response ≠ .error .attributeError := by
  intro fails
  rcases error_of_bind_eq_error fails with missing | ⟨field, -, fails⟩
  · exact getItem_ne_attributeError _ _ missing
  rcases error_of_bind_eq_error fails with noItems | ⟨items, -, fails⟩
  · unfold iterate at noItems
    split at noItems <;> cases noItems
  · exact rankedDocuments_ne_attributeError _ _ _ _ fails

/-- Every result refers to a document. -/
def InRange (documents : List Str) (results : List (RankedDocument F)) : Prop :=
  ∀ result ∈ results, 0 ≤ result.index ∧ result.index < (documents.length : Int)

omit [FloatOps F] in
/-- Accepted results refer to documents. -/
theorem inRange_of_acceptResults
    {backend invalidResponse invalidIndex : Str}
    {request : RerankRequest}
    {decoded : Except ValueFault (List (RankedDocument F))}
    {results : List (RankedDocument F)}
    (accepted : acceptResults backend invalidResponse invalidIndex request decoded =
      .ok results) :
    InRange request.documents results := by
  unfold acceptResults at accepted
  split at accepted
  · cases accepted
  · cases accepted
  · cases accepted
  · cases accepted
  · split at accepted
    · cases accepted
    · rename_i noneOutside
      cases accepted
      intro result present
      have inside := fun outside => noneOutside
        (List.any_eq_true.mpr ⟨result, present, outside⟩)
      simp only [Bool.or_eq_true, decide_eq_true_eq, not_or, imp_false] at inside
      omega

omit [FloatOps F] in
/-- What is not one of the caught classes passes through. -/
private theorem acceptResults_eq_other_iff
    {backend invalidResponse invalidIndex : Str}
    {request : RerankRequest}
    {decoded : Except ValueFault (List (RankedDocument F))}
    (noAttribute : decoded ≠ .error .attributeError) :
    (∃ name, acceptResults backend invalidResponse invalidIndex request decoded =
      .error (.other name)) ↔ decoded = .error .overflowError := by
  constructor
  · rintro ⟨name, escapes⟩
    match decoded, noAttribute, escapes with
    | .error .attributeError, noAttribute, _ => exact absurd rfl noAttribute
    | .error .overflowError, _, _ => rfl
    | .error .keyError, _, escapes => simp [acceptResults] at escapes
    | .error .typeError, _, escapes => simp [acceptResults] at escapes
    | .error .valueError, _, escapes => simp [acceptResults] at escapes
    | .ok results, _, escapes =>
        simp only [acceptResults] at escapes
        split at escapes <;> simp at escapes
  · rintro rfl
    exact ⟨_, rfl⟩

/-! ## The adapters -/

/-- A checked request is checked again with success by an adapter that accepts as
many documents. -/
private theorem validateRequest_of_validateRequest
    {backend other : Str}
    {limit : Option Nat}
    {request : RerankRequest}
    {topN : Int}
    (checked : validateRequest backend limit request = .ok topN) :
    validateRequest other none request =
      .ok (request.topN.getD request.documents.length) := by
  unfold validateRequest at checked ⊢
  dsimp only at checked ⊢
  split at checked
  · cases checked
  split at checked
  · cases checked
  split at checked
  · cases checked
  split at checked
  · cases checked
  · rename_i query _ documents topN
    rw [if_neg query, if_neg (by simp), if_neg documents, if_neg topN]

/-- The primary adapter gives up other than by its own explicit refusal. -/
def PrimaryGivesUp
    (shown : Value F → Str)
    (gcp : GcpReranker F)
    (request : RerankRequest) : Prop :=
  ∃ exception, GcpReranker.rerank shown gcp request = .error exception ∧
    ∀ error, exception ≠ .terminal error

/-- The AWS adapter lets an exception through: its client cannot be built, or reading
the response of the client overflows. -/
def AwsEscapes (aws : AwsReranker F) (request : RerankRequest) : Prop :=
  (∃ name, aws.buildClient = .error name) ∨
    ∃ client response, aws.buildClient = .ok client ∧
      client (aws.awsCall request
        (request.topN.getD request.documents.length)) = .ok response ∧
      AwsReranker.decode response = .error .overflowError

namespace GcpReranker

variable {shown : Value F → Str} {gcp : GcpReranker F} {request : RerankRequest}

/-- Results of the primary adapter refer to documents. -/
theorem inRange_of_rerank
    {results : List (RankedDocument F)}
    (succeeds : rerank shown gcp request = .ok results) :
    InRange request.documents results := by
  obtain ⟨topN, -, succeeds⟩ := exists_of_bind_eq_ok succeeds
  split at succeeds
  · cases succeeds
    exact nofun
  split at succeeds
  · cases succeeds
  obtain ⟨token, -, succeeds⟩ := exists_of_bind_eq_ok succeeds
  obtain ⟨response, -, succeeds⟩ := exists_of_bind_eq_ok succeeds
  obtain ⟨-, -, succeeds⟩ := exists_of_bind_eq_ok succeeds
  split at succeeds
  · cases succeeds
  · cases succeeds
  · exact inRange_of_acceptResults succeeds

/-- When the primary adapter gives up, the request was checked and has documents. -/
theorem checked_of_primaryGivesUp (givesUp : PrimaryGivesUp shown gcp request) :
    (∃ topN, validateRequest backend (some 200) request = .ok topN) ∧
      request.documents ≠ [] := by
  obtain ⟨exception, fails, notTerminal⟩ := givesUp
  rcases error_of_bind_eq_error fails with refused | ⟨topN, checked, fails⟩
  · unfold validateRequest at refused
    dsimp only at refused
    repeat' split at refused
    all_goals first
      | cases refused; exact absurd rfl (notTerminal _)
      | cases refused
  · refine ⟨⟨topN, checked⟩, fun none => ?_⟩
    rw [if_pos none] at fails
    cases fails

end GcpReranker

namespace AwsReranker

variable {aws : AwsReranker F} {request : RerankRequest}

/-- Results of the AWS adapter refer to documents. -/
theorem inRange_of_rerank
    {results : List (RankedDocument F)}
    (succeeds : aws.rerank request = .ok results) :
    InRange request.documents results := by
  obtain ⟨topN, -, succeeds⟩ := exists_of_bind_eq_ok succeeds
  split at succeeds
  · cases succeeds
    exact nofun
  split at succeeds
  · cases succeeds
  split at succeeds
  · cases succeeds
  · exact inRange_of_acceptResults succeeds

omit [FloatOps F] in
/-- The normalization of a failed call is a `RerankerError`. -/
private theorem normalizeAwsError_ne_other (fault : AwsFault) (name : Str) :
    normalizeAwsError fault ≠ .other name := by
  unfold normalizeAwsError
  split
  · dsimp only
    split <;> exact nofun
  · exact nofun
  · exact nofun

/-- For a checked request the AWS adapter raises something else than a
`RerankerError` exactly when it lets an exception through. -/
theorem rerank_eq_other_iff
    {limit : Option Nat}
    {topN : Int}
    (checked : validateRequest GcpReranker.backend limit request = .ok topN)
    (documents : request.documents ≠ []) :
    (∃ name, aws.rerank request = .error (.other name)) ↔ AwsEscapes aws request := by
  unfold rerank AwsEscapes
  rw [validateRequest_of_validateRequest checked]
  simp only [bind, Except.bind, if_neg documents]
  cases built : aws.buildClient with
  | error name => simp
  | ok client =>
      cases called : client (aws.awsCall request
          (request.topN.getD request.documents.length)) with
      | error fault =>
          simp [called, normalizeAwsError_ne_other]
      | ok response =>
          have noAttribute : decode response ≠ .error .attributeError :=
            decodeResults_ne_attributeError _ _ _ _
          simp only [called, reduceCtorEq, exists_false, false_or, Except.ok.injEq]
          rw [acceptResults_eq_other_iff noAttribute]
          constructor
          · intro overflow
            exact ⟨client, response, rfl, called, overflow⟩
          · rintro ⟨_, _, rfl, same, overflow⟩
            rw [called] at same
            cases same
            exact overflow

end AwsReranker

namespace CascadingReranker

variable {shown : Value F → Str} {cascade : CascadingReranker F}
  {request : RerankRequest}

/-- Results of the cascade refer to documents. -/
theorem inRange_of_rerank
    {results : List (RankedDocument F)}
    (succeeds : cascade.rerank shown request = .ok results) :
    InRange request.documents results := by
  unfold rerank at succeeds
  split at succeeds
  case h_1 primary =>
    cases succeeds
    exact GcpReranker.inRange_of_rerank primary
  case h_2 => cases succeeds
  case h_3 => exact AwsReranker.inRange_of_rerank succeeds
  case h_4 => exact AwsReranker.inRange_of_rerank succeeds

/-- The cascade raises something else than a `RerankerError` exactly when the primary
adapter gives up and the AWS adapter lets an exception through. -/
theorem rerank_eq_other_iff :
    (∃ name, cascade.rerank shown request = .error (.other name)) ↔
      PrimaryGivesUp shown cascade.primary request ∧
        AwsEscapes cascade.fallback request := by
  have fallback : PrimaryGivesUp shown cascade.primary request →
      ((∃ name, cascade.fallback.rerank request = .error (.other name)) ↔
        AwsEscapes cascade.fallback request) := by
    intro givesUp
    obtain ⟨⟨topN, checked⟩, documents⟩ := GcpReranker.checked_of_primaryGivesUp givesUp
    exact AwsReranker.rerank_eq_other_iff checked documents
  unfold rerank
  cases primary : GcpReranker.rerank shown cascade.primary request with
  | ok results => simp [PrimaryGivesUp, primary]
  | error exception =>
      cases exception with
      | terminal error => simp [PrimaryGivesUp, primary]
      | transient error =>
          have givesUp : PrimaryGivesUp shown cascade.primary request :=
            ⟨_, primary, nofun⟩
          rw [and_iff_right givesUp]
          exact fallback givesUp
      | other name =>
          have givesUp : PrimaryGivesUp shown cascade.primary request :=
            ⟨_, primary, nofun⟩
          rw [and_iff_right givesUp]
          exact fallback givesUp

end CascadingReranker

/-! ## The pipeline -/

namespace RetrievalPipeline

/-- A chunk is made of the candidate its result names, and has the rank of the result. -/
def Names
    (candidates : List RetrievedChunk)
    (result : RankedDocument F)
    (ranked : RankedChunk) : Prop :=
  candidates[result.index.toNat]? = some ranked.chunk ∧ ranked.rank = result.rank

omit [FloatOps F] in
/-- Results that refer to candidates give the chunks they name. -/
theorem chunksOf_of_inRange
    {candidates : List RetrievedChunk}
    {results : List (RankedDocument F)}
    (inside : ∀ result ∈ results,
      0 ≤ result.index ∧ result.index < (candidates.length : Int)) :
    ∃ chunks, chunksOf candidates results = .ok chunks ∧
      List.Forall₂ (Names candidates) results chunks := by
  induction results with
  | nil => exact ⟨[], rfl, .nil⟩
  | cons result rest inductionHypothesis =>
      obtain ⟨nonnegative, below⟩ := inside result List.mem_cons_self
      have position : result.index.toNat < candidates.length := by omega
      have named : candidates[result.index.toNat]? = some candidates[result.index.toNat] :=
        List.getElem?_eq_getElem position
      obtain ⟨chunks, others, namedOthers⟩ := inductionHypothesis fun other present =>
        inside other (List.mem_cons_of_mem result present)
      refine ⟨⟨candidates[result.index.toNat], result.rank⟩ :: chunks, ?_,
        .cons ⟨named, rfl⟩ namedOthers⟩
      simp [chunksOf, itemAt, nonnegative, named, others, Except.map]

variable {shown : Value F → Str} {pipeline : RetrievalPipeline F}

/-- Reranking fails exactly when the cascade raises something else than a
`RerankerError`. -/
private theorem rerank_eq_error_iff
    {query : Str}
    {candidates : List RetrievedChunk}
    {topN : Int} :
    (∃ exception, pipeline.rerank shown query candidates topN = .error exception) ↔
      ∃ name, pipeline.reranker.rerank shown (rerankRequest query candidates topN) =
        .error (.other name) := by
  unfold rerank
  cases reranked : pipeline.reranker.rerank shown
      (rerankRequest query candidates topN) with
  | error exception => cases exception <;> simp
  | ok results =>
      have inside : ∀ result ∈ results.insertionSort fun left right =>
          left.rank ≤ right.rank,
          0 ≤ result.index ∧ result.index < (candidates.length : Int) := by
        intro result present
        simpa [rerankRequest] using CascadingReranker.inRange_of_rerank reranked result
          ((List.perm_insertionSort _ _).mem_iff.mp present)
      obtain ⟨chunks, given, -⟩ := chunksOf_of_inRange inside
      simp [given, Except.map]

/-- Reranking that is refused leaves the leading candidates in their order. -/
private theorem rerank_of_refused
    {query : Str}
    {candidates : List RetrievedChunk}
    {topN : Int}
    {reranked : List RankedChunk × Bool}
    (succeeds : pipeline.rerank shown query candidates topN = .ok reranked)
    (refused : ∀ results, pipeline.reranker.rerank shown
      (rerankRequest query candidates topN) ≠ .ok results) :
    reranked = (inRetrievalOrder (leading candidates topN), true) := by
  unfold rerank at succeeds
  split at succeeds
  case h_1 => cases succeeds; rfl
  case h_2 => cases succeeds; rfl
  case h_3 => cases succeeds
  case h_4 results accepted => exact absurd accepted (refused results)

variable (shown) in
/-- A retrieval with candidates fails exactly when their reranking does. -/
theorem retrieve_of_candidates
    (requestId : Uuid)
    {query : Str}
    (topN : Option Int)
    {candidates : List RetrievedChunk}
    (found : pipeline.hybridSearch (pipeline.rewrite query) pipeline.topKCandidates =
      .ok candidates)
    (nonempty : candidates ≠ []) :
    (∀ exception,
      pipeline.rerank shown (pipeline.rewrite query) candidates
          (topN.getD pipeline.topN) = .error exception →
        pipeline.retrieve shown requestId query topN = .error exception) ∧
      ∀ reranked,
        pipeline.rerank shown (pipeline.rewrite query) candidates
            (topN.getD pipeline.topN) = .ok reranked →
          ∃ result, pipeline.retrieve shown requestId query topN = .ok result ∧
            result.chunks = reranked.1 ∧ result.fallbackTriggered = reranked.2 := by
  unfold retrieve
  dsimp only
  rw [found]
  cases candidates with
  | nil => exact absurd rfl nonempty
  | cons chunk rest =>
      constructor
      · intro exception failed
        simp [failed, Except.map]
      · intro reranked succeeded
        exact ⟨_, by dsimp only; rw [succeeded]; rfl, rfl, rfl⟩

/-- The chunks in retrieval order, with their ranks. -/
theorem inRetrievalOrder_spec (chunks : List RetrievedChunk) :
    (inRetrievalOrder chunks).map (·.chunk) = chunks ∧
      (inRetrievalOrder chunks).map (·.rank) =
        (List.range chunks.length).map (· + 1) := by
  constructor
  · apply List.ext_getElem <;> simp [inRetrievalOrder]
  · apply List.ext_getElem <;> simp [inRetrievalOrder]

/-- The reranker was asked and its answer accepted. -/
def Accepted
    (shown : Value F → Str)
    (pipeline : RetrievalPipeline F)
    (query : Str)
    (candidates : List RetrievedChunk)
    (topN : Int) : Prop :=
  candidates ≠ [] ∧ ∃ results, pipeline.reranker.rerank shown
    (rerankRequest query candidates topN) = .ok results

/-- The retrieval returns, and without an accepted reranking it returns the first
candidates in their order, ranked from one, and says so. -/
def Survives
    (shown : Value F → Str)
    (pipeline : RetrievalPipeline F)
    (requestId : Uuid)
    (query : Str)
    (topN : Option Int)
    (candidates : List RetrievedChunk) : Prop :=
  ∃ result, pipeline.retrieve shown requestId query topN = .ok result ∧
    (¬ Accepted shown pipeline (pipeline.rewrite query) candidates
        (topN.getD pipeline.topN) →
      result.chunks.map (·.chunk) =
          candidates.take (topN.getD pipeline.topN).toNat ∧
        result.chunks.map (·.rank) =
          (List.range result.chunks.length).map (· + 1) ∧
        result.fallbackTriggered = true)

/-- Whatever the cascade does: a retrieval survives exactly when there are candidates
and the cascade does not get from a primary adapter that gives up to an AWS adapter
that lets an exception through. -/
theorem survives_iff
    {requestId : Uuid}
    {query : Str}
    {topN : Option Int}
    {candidates : List RetrievedChunk}
    (found : pipeline.hybridSearch (pipeline.rewrite query) pipeline.topKCandidates =
      .ok candidates)
    (positive : 1 ≤ topN.getD pipeline.topN) :
    let request := rerankRequest (pipeline.rewrite query) candidates
      (topN.getD pipeline.topN)
    Survives shown pipeline requestId query topN candidates ↔
      candidates ≠ [] ∧
        ¬ (PrimaryGivesUp shown pipeline.reranker.primary request ∧
          AwsEscapes pipeline.reranker.fallback request) := by
  intro request
  by_cases nonempty : candidates = []
  · subst nonempty
    refine iff_of_false ?_ fun holds => absurd rfl holds.1
    rintro ⟨result, returned, unaccepted⟩
    have flagged := (unaccepted fun accepted => absurd rfl accepted.1).2.2
    unfold retrieve at returned
    dsimp only at returned
    rw [found] at returned
    cases returned
    cases flagged
  · obtain ⟨whenFailed, whenReranked⟩ :=
      retrieve_of_candidates shown requestId topN found nonempty
    rw [and_iff_right nonempty, ← CascadingReranker.rerank_eq_other_iff,
      ← rerank_eq_error_iff]
    constructor
    · rintro ⟨result, returned, -⟩ ⟨exception, failed⟩
      rw [whenFailed exception failed] at returned
      cases returned
    · intro noFailure
      cases reranked : pipeline.rerank shown (pipeline.rewrite query) candidates
          (topN.getD pipeline.topN) with
      | error exception => exact absurd ⟨exception, reranked⟩ noFailure
      | ok outcome =>
          obtain ⟨result, returned, chunks, flag⟩ := whenReranked outcome reranked
          refine ⟨result, returned, fun unaccepted => ?_⟩
          have refused := rerank_of_refused reranked fun results accepted =>
            unaccepted ⟨nonempty, results, accepted⟩
          obtain ⟨order, ranks⟩ := inRetrievalOrder_spec
            (leading candidates (topN.getD pipeline.topN))
          have first : leading candidates (topN.getD pipeline.topN) =
              candidates.take (topN.getD pipeline.topN).toNat := by
            rw [leading, if_pos (by omega)]
          rw [chunks, flag, refused]
          refine ⟨order.trans first, ?_, rfl⟩
          rw [ranks]
          simp [inRetrievalOrder]

/-! ## GCP out of reach -/

/-- A pipeline with one candidate whose primary backend is out of reach. -/
def unreachablePrimary
    (boto3Client : Except Str (AwsClient Empty)) : RetrievalPipeline Empty where
  generate := fun _ => .error (.other "RuntimeError".toList [])
  hybridSearch := fun _ _ => .ok [⟨⟨1⟩, ⟨2⟩, "passage".toList⟩]
  reranker :=
    { primary :=
        { projectId := "project".toList
          accessTokenProvider :=
            { cachedToken := some "token".toList
              credentials := .error .unavailable
              exchange := fun _ => ⟨.error .requestError, none⟩ }
          post := fun _ => ⟨.error .requestError, none⟩ }
      fallback := { boto3Client } }
  upper := id

/-- When AWS throttles the call, the retrieval falls back. -/
theorem survives_throttled :
    Survives (fun _ => [])
      (unreachablePrimary (.ok fun _ =>
        .error (.clientError "ThrottlingException".toList)))
      ⟨9⟩ "question".toList (some 1) [⟨⟨1⟩, ⟨2⟩, "passage".toList⟩] := by
  refine (survives_iff rfl (by decide)).mpr ⟨nofun, ?_⟩
  rintro ⟨-, ⟨name, unbuilt⟩ | ⟨client, response, built, called, -⟩⟩
  · cases unbuilt
  · cases built
    cases called

/-- When the AWS client cannot be built, the retrieval fails. -/
theorem not_survives_unbuilt :
    ¬ Survives (fun _ => [])
      (unreachablePrimary (.error "PartialCredentialsError".toList))
      ⟨9⟩ "question".toList (some 1) [⟨⟨1⟩, ⟨2⟩, "passage".toList⟩] := by
  rintro ⟨result, returned, -⟩
  have failed : (unreachablePrimary (.error "PartialCredentialsError".toList)).retrieve
      (fun _ => []) ⟨9⟩ "question".toList (some 1) =
        .error (.reranker (.other "PartialCredentialsError".toList)) := by rfl
  rw [failed] at returned
  cases returned

end RetrievalPipeline

end Retrieval
end ChatPlatform
