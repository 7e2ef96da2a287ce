import ChatPlatform.Retrieval.Fallback

/-!
# Rankings

An adapter ranks the results of a response by their order, refuses what it cannot read,
and refuses a position outside the documents. It does not compare the positions with
each other and counts neither against the number wanted nor against zero. So what the
pipeline makes of a response is a ranking of the candidates exactly when the response
is one already, or is refused.
-/

namespace ChatPlatform
namespace Retrieval

open Traversal
open RetrievalPipeline (Names)

variable {F : Type} [FloatOps F]

/-! ## Ranks -/

/-- The results have the ranks of their positions. -/
def RankedInOrder (results : List (RankedDocument F)) : Prop :=
  results.map (·.rank) = List.range' 1 results.length

/-- A result read for a rank has it. -/
private theorem rank_of_rankedDocument
    {indexKey scoreKey : Str}
    {rank : Nat}
    {item : Value F}
    {document : RankedDocument F}
    (read : rankedDocument indexKey scoreKey rank item = .ok document) :
    document.rank = rank := by
  obtain ⟨indexValue, -, read⟩ := exists_of_bind_eq_ok read
  obtain ⟨index, -, read⟩ := exists_of_bind_eq_ok read
  obtain ⟨score, -, read⟩ := exists_of_bind_eq_ok read
  split at read
  · cases read
    rfl
  · cases read
    rfl
  · obtain ⟨number, -, read⟩ := exists_of_bind_eq_ok read
    cases read
    rfl

/-- The results of a response are numbered. -/
private theorem ranks_of_rankedDocuments
    {indexKey scoreKey : Str}
    {rank : Nat}
    {items : List (Value F)}
    {results : List (RankedDocument F)}
    (read : rankedDocuments indexKey scoreKey rank items = .ok results) :
    results.map (·.rank) = List.range' rank results.length := by
  induction items generalizing rank results with
  | nil =>
      cases read
      rfl
  | cons item rest inductionHypothesis =>
      obtain ⟨document, first, read⟩ := exists_of_bind_eq_ok read
      obtain ⟨documents, others, read⟩ := exists_of_bind_eq_ok read
      cases read
      rw [List.map_cons, List.length_cons, List.range'_succ, inductionHypothesis others,
        rank_of_rankedDocument first]

/-- The results of a response are ranked in their order. -/
theorem rankedInOrder_of_decodeResults
    {key indexKey scoreKey : Str}
    {response : Value F}
    {results : List (RankedDocument F)}
    (read : decodeResults key indexKey scoreKey response = .ok results) :
    RankedInOrder results := by
  obtain ⟨field, -, read⟩ := exists_of_bind_eq_ok read
  obtain ⟨items, -, read⟩ := exists_of_bind_eq_ok read
  exact ranks_of_rankedDocuments read

omit [FloatOps F] in
/-- Sorting results ranked in their order changes nothing. -/
theorem RankedInOrder.insertionSort_eq
    {results : List (RankedDocument F)}
    (inOrder : RankedInOrder results) :
    (results.insertionSort fun left right => left.rank ≤ right.rank) = results := by
  apply List.Pairwise.insertionSort_eq
  have increasing : (results.map (·.rank)).Pairwise (· < ·) :=
    inOrder ▸ List.pairwise_lt_range'
  exact (List.pairwise_map.mp increasing).imp Nat.le_of_lt

omit [FloatOps F] in
/-- Accepted results are those that were read. -/
theorem decoded_of_acceptResults
    {backend invalidResponse invalidIndex : Str}
    {request : RerankRequest}
    {decoded : Except ValueFault (List (RankedDocument F))}
    {results : List (RankedDocument F)}
    (accepted : acceptResults backend invalidResponse invalidIndex request decoded =
      .ok results) :
    decoded = .ok results := by
  unfold acceptResults at accepted
  split at accepted
  · cases accepted
  · cases accepted
  · cases accepted
  · cases accepted
  · split at accepted
    · cases accepted
    · exact congrArg Except.ok (Except.ok.inj accepted)

/-! ## What the pipeline makes of an outcome -/

/-- The adapter raised one of the two normalized errors. -/
def RaisesRerankerError {α : Type} (outcome : Except RerankException α) : Prop :=
  ∃ error, outcome = .error (.terminal error) ∨ outcome = .error (.transient error)

/-- The end of the reranking stage, for any outcome of the reranker behind the port. -/
def settle
    (candidates : List RetrievedChunk)
    (topN : Int) :
    Except RerankException (List (RankedDocument F)) →
      Except PipelineException (List RankedChunk × Bool)
  | .error (.terminal _) | .error (.transient _) =>
      .ok (inRetrievalOrder (leading candidates topN), true)
  | .error (.other name) => .error (.reranker (.other name))
  | .ok ranked =>
      (RetrievalPipeline.chunksOf candidates (ranked.insertionSort fun left right =>
        left.rank ≤ right.rank)).map fun chunks => (chunks, false)

/-- The stage settles the outcome of the cascade. -/
theorem RetrievalPipeline.rerank_eq_settle
    (shown : Value F → Str)
    (pipeline : RetrievalPipeline F)
    (query : Str)
    (candidates : List RetrievedChunk)
    (topN : Int) :
    pipeline.rerank shown query candidates topN =
      settle candidates topN
        (pipeline.reranker.rerank shown (rerankRequest query candidates topN)) := by
  unfold RetrievalPipeline.rerank settle
  cases pipeline.reranker.rerank shown (rerankRequest query candidates topN) with
  | ok results => rfl
  | error exception => cases exception <;> rfl

omit [FloatOps F] in
/-- Numbered results inside the candidates are taken one by one. -/
theorem settle_of_inRange
    {candidates : List RetrievedChunk}
    {results : List (RankedDocument F)}
    (topN : Int)
    (inOrder : RankedInOrder results)
    (inside : InRange (candidates.map (·.text)) results) :
    ∃ chunks, settle candidates topN (.ok results) = .ok (chunks, false) ∧
      List.Forall₂ (Names candidates) results chunks := by
  have within : ∀ result ∈ results,
      0 ≤ result.index ∧ result.index < (candidates.length : Int) := by
    simpa [InRange] using inside
  obtain ⟨chunks, given, named⟩ := RetrievalPipeline.chunksOf_of_inRange within
  refine ⟨chunks, ?_, named⟩
  rw [settle, inOrder.insertionSort_eq, given]
  rfl

/-! ## Rankings of candidates -/

/-- A ranking of at most `topN` candidates. -/
structure IsRanking
    (candidates : List RetrievedChunk)
    (topN : Int)
    (chunks : List RankedChunk) : Prop where
  /-- Only candidates are ranked. -/
  members : ∀ ranked ∈ chunks, ranked.chunk ∈ candidates
  /-- No candidate is ranked twice. -/
  distinct : (chunks.map (·.chunk)).Nodup
  /-- No more are ranked than wanted. -/
  count : (chunks.length : Int) ≤ topN
  /-- The ranks count from one. -/
  ranks : chunks.map (·.rank) = List.range' 1 chunks.length
  /-- Something is ranked. -/
  nonempty : chunks ≠ []

/-- What is read from a response is refused, or is a ranking: some position is outside
the candidates, or the positions name distinct candidates, not more than wanted, and at
least one. -/
def ReadsAsRanking
    (candidates : List RetrievedChunk)
    (topN : Int) : Except ValueFault (List (RankedDocument F)) → Prop
  | .error fault => fault ≠ .overflowError
  | .ok results =>
      (∃ result ∈ results, result.index < 0 ∨ (candidates.length : Int) ≤ result.index) ∨
        (results.map fun result => candidates[result.index.toNat]?).Nodup ∧
          (results.length : Int) ≤ topN ∧ results ≠ []

omit [FloatOps F] in
/-- Numbered chunks are a ranking exactly when the positions they were taken from are
one. -/
theorem isRanking_iff
    {candidates : List RetrievedChunk}
    {topN : Int}
    {results : List (RankedDocument F)}
    {chunks : List RankedChunk}
    (inOrder : RankedInOrder results)
    (named : List.Forall₂ (Names candidates) results chunks) :
    IsRanking candidates topN chunks ↔
      (results.map fun result => candidates[result.index.toNat]?).Nodup ∧
        (results.length : Int) ≤ topN ∧ results ≠ [] := by
  have sameChunks : chunks.map (fun ranked => some ranked.chunk) =
      results.map fun result => candidates[result.index.toNat]? :=
    map_eq_of_forall₂ (fun _ _ names => names.1.symm) named
  have sameRanks : chunks.map (·.rank) = results.map (·.rank) :=
    map_eq_of_forall₂ (fun _ _ names => names.2) named
  have sameLength : results.length = chunks.length := named.length_eq
  have distinct : (chunks.map (·.chunk)).Nodup ↔
      (results.map fun result => candidates[result.index.toNat]?).Nodup := by
    rw [← sameChunks, ← List.nodup_map_iff (Option.some_injective RetrievedChunk), List.map_map]
    rfl
  have empty : chunks ≠ [] ↔ results ≠ [] := by
    rw [← List.length_pos_iff, ← List.length_pos_iff, sameLength]
  constructor
  · intro ranking
    exact ⟨distinct.mp ranking.distinct, sameLength ▸ ranking.count,
      empty.mp ranking.nonempty⟩
  · rintro ⟨apart, few, nonempty⟩
    refine ⟨?_, distinct.mpr apart, sameLength ▸ few, ?_, empty.mpr nonempty⟩
    · intro ranked held
      obtain ⟨result, -, names⟩ := exists_left_of_mem named held
      exact List.mem_of_getElem? names.1
    · rw [sameRanks, inOrder, sameLength]

/-! ## Responses -/

/-- What an adapter makes of a response is a ranking, or a normalized error. -/
def EndsInRanking
    (candidates : List RetrievedChunk)
    (topN : Int)
    (outcome : Except RerankException (List (RankedDocument F))) : Prop :=
  RaisesRerankerError outcome ∨
    ∃ chunks flag, settle candidates topN outcome = .ok (chunks, flag) ∧
      IsRanking candidates topN chunks

omit [FloatOps F] in
/-- A raised normalized error ends well. -/
theorem EndsInRanking.of_terminal
    {candidates : List RetrievedChunk}
    {topN : Int}
    (error : RerankerError) :
    EndsInRanking (F := F) candidates topN (.error (.terminal error)) :=
  Or.inl ⟨error, Or.inl rfl⟩

omit [FloatOps F] in
/-- Reading a response ends in a ranking exactly when it reads as one. -/
theorem endsInRanking_acceptResults_iff
    {backend invalidResponse invalidIndex : Str}
    {query : Str}
    {candidates : List RetrievedChunk}
    {topN : Int}
    {decoded : Except ValueFault (List (RankedDocument F))}
    (noAttribute : decoded ≠ .error .attributeError)
    (inOrder : ∀ results, decoded = .ok results → RankedInOrder results) :
    EndsInRanking candidates topN (acceptResults backend invalidResponse invalidIndex
        (RetrievalPipeline.rerankRequest query candidates topN) decoded) ↔
      ReadsAsRanking candidates topN decoded := by
  match decoded, noAttribute, inOrder with
  | .error .keyError, _, _ => exact iff_of_true (.of_terminal _) nofun
  | .error .typeError, _, _ => exact iff_of_true (.of_terminal _) nofun
  | .error .valueError, _, _ => exact iff_of_true (.of_terminal _) nofun
  | .error .attributeError, noAttribute, _ => exact absurd rfl noAttribute
  | .error .overflowError, _, _ =>
      refine iff_of_false ?_ fun different => different rfl
      rintro (⟨error, raised | raised⟩ | ⟨chunks, flag, settled, -⟩)
      · cases raised
      · cases raised
      · cases settled
  | .ok results, _, inOrder =>
      unfold acceptResults ReadsAsRanking
      dsimp only
      split
      · rename_i outside
        refine iff_of_true (.of_terminal _) (Or.inl ?_)
        obtain ⟨result, held, wrong⟩ := List.any_eq_true.mp outside
        refine ⟨result, held, ?_⟩
        simpa [RetrievalPipeline.rerankRequest] using wrong
      · rename_i noneOutside
        have inside : InRange (candidates.map (·.text)) results := by
          intro result held
          have within : ¬ (result.index < 0 ∨
              ((candidates.map (·.text)).length : Int) ≤ result.index) := fun wrong =>
            noneOutside (List.any_eq_true.mpr ⟨result, held, by
              simpa [RetrievalPipeline.rerankRequest] using wrong⟩)
          omega
        have noOutside : ¬ ∃ result ∈ results,
            result.index < 0 ∨ (candidates.length : Int) ≤ result.index := by
          rintro ⟨result, held, wrong⟩
          have within := inside result held
          rw [List.length_map] at within
          omega
        obtain ⟨chunks, settled, named⟩ := settle_of_inRange topN (inOrder results rfl) inside
        rw [or_iff_right noOutside, ← isRanking_iff (inOrder results rfl) named]
        constructor
        · rintro (⟨error, raised | raised⟩ | ⟨others, flag, settledSo, ranking⟩)
          · cases raised
          · cases raised
          · rw [settled] at settledSo
            cases settledSo
            exact ranking
        · exact fun ranking => Or.inr ⟨chunks, false, settled, ranking⟩

/-- A check of a request refuses it for good, or gives the number wanted. -/
theorem validateRequest_cases
    (backend : Str)
    (maxDocuments : Option Nat)
    (request : RerankRequest) :
    (∃ error, validateRequest backend maxDocuments request = .error (.terminal error)) ∨
      validateRequest backend maxDocuments request =
        .ok (request.topN.getD request.documents.length) := by
  unfold validateRequest
  dsimp only
  split
  · exact Or.inl ⟨_, rfl⟩
  split
  · exact Or.inl ⟨_, rfl⟩
  split
  · exact Or.inl ⟨_, rfl⟩
  split
  · exact Or.inl ⟨_, rfl⟩
  · exact Or.inr rfl

/-- A status from 400 on is refused with a normalized error, any other is accepted. -/
theorem GcpReranker.checkStatus_cases (unavailable rejected : Str) (statusCode : Int) :
    400 ≤ statusCode ∧ (∃ error,
        checkStatus unavailable rejected statusCode = .error (.terminal error) ∨
        checkStatus unavailable rejected statusCode = .error (.transient error)) ∨
      statusCode < 400 ∧ checkStatus unavailable rejected statusCode = .ok () := by
  unfold checkStatus
  dsimp only
  split
  · exact Or.inl ⟨by omega, _, Or.inr rfl⟩
  split
  · exact Or.inl ⟨by omega, _, Or.inl rfl⟩
  · exact Or.inr ⟨by omega, rfl⟩

/-- An adapter with a JSON response of its service. -/
inductive Answer (F : Type)
  /-- The ranking service answers with a status and a body. -/
  | gcp (adapter : GcpReranker F) (statusCode : Int) (body : Value F)
  /-- The client returns a body. -/
  | aws (adapter : AwsReranker F) (body : Value F)

namespace Answer

/-- What the adapter returns or raises. -/
def outcome (shown : Value F → Str) (request : RerankRequest) :
    Answer F → Except RerankException (List (RankedDocument F))
  | .gcp adapter _ _ => GcpReranker.rerank shown adapter request
  | .aws adapter _ => adapter.rerank request

/-- The service gives the response to the call made of a request. -/
def Given (shown : Value F → Str) (request : RerankRequest) : Answer F → Prop
  | .gcp adapter statusCode body => ∃ token,
      GcpReranker.accessToken shown adapter.accessTokenProvider = .ok token ∧
        adapter.post ⟨adapter.projectId, adapter.location, token,
          GcpReranker.payload adapter request
            (request.topN.getD request.documents.length)⟩ =
          ⟨.ok ⟨statusCode, .ok body⟩, none⟩
  | .aws adapter body => ∃ client, adapter.buildClient = .ok client ∧
      client (adapter.awsCall request (request.topN.getD request.documents.length)) =
        .ok body

/-- The results of the response, as the adapter reads them. -/
def reading : Answer F → Except ValueFault (List (RankedDocument F))
  | .gcp _ _ body => GcpReranker.decode body
  | .aws _ body => AwsReranker.decode body

/-- The adapter does not come to read the response: it refuses the request, has no
project, or refuses the status. -/
def Unread (request : RerankRequest) : Answer F → Prop
  | .gcp adapter statusCode _ =>
      (∃ error, validateRequest GcpReranker.backend (some 200) request = .error error) ∨
        adapter.projectId = [] ∨ 400 ≤ statusCode
  | .aws _ _ => ∃ error, validateRequest AwsReranker.backend none request = .error error

end Answer

/-- Whatever a service answers: the adapter raises a normalized error or the pipeline
makes a ranking of the results, exactly when the response goes unread or reads as a
ranking. -/
theorem answer_endsInRanking_iff
    (shown : Value F → Str)
    (query : Str)
    {candidates : List RetrievedChunk}
    {topN : Int}
    (positive : 1 ≤ topN)
    (within : topN ≤ candidates.length)
    {answer : Answer F}
    (given : answer.Given shown (RetrievalPipeline.rerankRequest query candidates topN)) :
    EndsInRanking candidates topN
        (answer.outcome shown (RetrievalPipeline.rerankRequest query candidates topN)) ↔
      answer.Unread (RetrievalPipeline.rerankRequest query candidates topN) ∨
        ReadsAsRanking candidates topN answer.reading := by
  have documents : (RetrievalPipeline.rerankRequest query candidates topN).documents ≠ [] := by
    intro none
    have empty : candidates = [] := List.map_eq_nil_iff.mp none
    rw [empty, List.length_nil] at within
    omega
  cases answer with
  | gcp adapter statusCode body =>
      obtain ⟨token, obtained, answered⟩ := given
      unfold Answer.outcome GcpReranker.rerank
      rcases validateRequest_cases GcpReranker.backend (some 200)
        (RetrievalPipeline.rerankRequest query candidates topN) with ⟨error, refused⟩ | checked
      · rw [refused]
        exact iff_of_true (.of_terminal error) (Or.inl (Or.inl ⟨_, refused⟩))
      rw [checked]
      simp only [bind, Except.bind, if_neg documents]
      by_cases project : adapter.projectId = []
      · rw [if_pos project]
        exact iff_of_true (.of_terminal _) (Or.inl (Or.inr (Or.inl project)))
      rw [if_neg project, obtained]
      dsimp only
      rw [answered]
      dsimp only [GcpReranker.finishExchange]
      rcases GcpReranker.checkStatus_cases
        "GCP reranker is temporarily unavailable".toList
        "GCP reranker request was rejected".toList statusCode with
        ⟨failed, error, refused⟩ | ⟨succeeded, accepted⟩
      · refine iff_of_true (Or.inl ⟨error, ?_⟩) (Or.inl (Or.inr (Or.inr failed)))
        rcases refused with terminal | transient
        · rw [terminal]
          exact Or.inl rfl
        · rw [transient]
          exact Or.inr rfl
      · have read : ¬ (Answer.gcp adapter statusCode body).Unread
            (RetrievalPipeline.rerankRequest query candidates topN) := by
          rintro (⟨error, refused⟩ | none | failed)
          · rw [checked] at refused
            cases refused
          · exact project none
          · omega
        rw [accepted, or_iff_right read]
        exact endsInRanking_acceptResults_iff (decodeResults_ne_attributeError _ _ _ _)
          fun results => rankedInOrder_of_decodeResults
  | aws adapter body =>
      obtain ⟨client, built, answered⟩ := given
      unfold Answer.outcome AwsReranker.rerank
      rcases validateRequest_cases AwsReranker.backend none
        (RetrievalPipeline.rerankRequest query candidates topN) with ⟨error, refused⟩ | checked
      · rw [refused]
        exact iff_of_true (.of_terminal error) (Or.inl ⟨_, refused⟩)
      have read : ¬ (Answer.aws adapter body).Unread
          (RetrievalPipeline.rerankRequest query candidates topN) := by
        rintro ⟨error, refused⟩
        rw [checked] at refused
        cases refused
      rw [checked, or_iff_right read]
      simp only [bind, Except.bind, if_neg documents, built, answered]
      exact endsInRanking_acceptResults_iff (decodeResults_ne_attributeError _ _ _ _)
        fun results => rankedInOrder_of_decodeResults

/-! ## Results of the adapters -/

/-- Results of the primary adapter are ranked in their order. -/
theorem GcpReranker.rankedInOrder_of_rerank
    {shown : Value F → Str}
    {gcp : GcpReranker F}
    {request : RerankRequest}
    {results : List (RankedDocument F)}
    (succeeds : GcpReranker.rerank shown gcp request = .ok results) :
    RankedInOrder results := by
  obtain ⟨topN, -, succeeds⟩ := exists_of_bind_eq_ok succeeds
  split at succeeds
  · cases succeeds
    rfl
  split at succeeds
  · cases succeeds
  obtain ⟨token, -, succeeds⟩ := exists_of_bind_eq_ok succeeds
  obtain ⟨response, -, succeeds⟩ := exists_of_bind_eq_ok succeeds
  obtain ⟨-, -, succeeds⟩ := exists_of_bind_eq_ok succeeds
  split at succeeds
  · cases succeeds
  · cases succeeds
  · exact rankedInOrder_of_decodeResults (decoded_of_acceptResults succeeds)

/-- Results of the AWS adapter are ranked in their order. -/
theorem AwsReranker.rankedInOrder_of_rerank
    {aws : AwsReranker F}
    {request : RerankRequest}
    {results : List (RankedDocument F)}
    (succeeds : aws.rerank request = .ok results) : RankedInOrder results := by
  obtain ⟨topN, -, succeeds⟩ := exists_of_bind_eq_ok succeeds
  split at succeeds
  · cases succeeds
    rfl
  split at succeeds
  · cases succeeds
  split at succeeds
  · cases succeeds
  · exact rankedInOrder_of_decodeResults (decoded_of_acceptResults succeeds)

/-- Results of the cascade are ranked in their order. -/
theorem CascadingReranker.rankedInOrder_of_rerank
    {shown : Value F → Str}
    {cascade : CascadingReranker F}
    {request : RerankRequest}
    {results : List (RankedDocument F)}
    (succeeds : cascade.rerank shown request = .ok results) : RankedInOrder results := by
  unfold CascadingReranker.rerank at succeeds
  split at succeeds
  case h_1 primary =>
    cases succeeds
    exact GcpReranker.rankedInOrder_of_rerank primary
  case h_2 => cases succeeds
  case h_3 => exact AwsReranker.rankedInOrder_of_rerank succeeds
  case h_4 => exact AwsReranker.rankedInOrder_of_rerank succeeds

/-- Whatever the cascade does, the chunks of the reranking stage have the ranks of their
positions. -/
theorem RetrievalPipeline.ranks_of_rerank
    {shown : Value F → Str}
    {pipeline : RetrievalPipeline F}
    {query : Str}
    {candidates : List RetrievedChunk}
    {topN : Int}
    {reranked : List RankedChunk × Bool}
    (succeeds : pipeline.rerank shown query candidates topN = .ok reranked) :
    reranked.1.map (·.rank) = List.range' 1 reranked.1.length := by
  have fallback : ∀ chunks, (inRetrievalOrder chunks).map (·.rank) =
      List.range' 1 (inRetrievalOrder chunks).length := by
    intro chunks
    rw [(inRetrievalOrder_spec chunks).2, inRetrievalOrder, List.length_mapIdx,
      List.range'_eq_map_range]
    exact List.map_congr_left fun position _ => Nat.add_comm position 1
  rw [rerank_eq_settle] at succeeds
  cases reranking : pipeline.reranker.rerank shown
      (rerankRequest query candidates topN) with
  | error exception =>
      rw [reranking] at succeeds
      cases exception with
      | terminal error =>
          cases succeeds
          exact fallback _
      | transient error =>
          cases succeeds
          exact fallback _
      | other name => cases succeeds
  | ok results =>
      rw [reranking] at succeeds
      have inOrder := CascadingReranker.rankedInOrder_of_rerank reranking
      obtain ⟨chunks, settled, named⟩ := settle_of_inRange topN inOrder
        (CascadingReranker.inRange_of_rerank reranking)
      rw [settled] at succeeds
      cases succeeds
      have sameRanks : chunks.map (·.rank) = results.map (·.rank) :=
        map_eq_of_forall₂ (fun _ _ names => names.2) named
      rw [sameRanks, inOrder, named.length_eq]

/-- The chunks of every retrieval have the ranks of their positions. -/
theorem RetrievalPipeline.ranks_of_retrieve
    {shown : Value F → Str}
    {pipeline : RetrievalPipeline F}
    {requestId : Uuid}
    {query : Str}
    {topN : Option Int}
    {result : PipelineResult}
    (returned : pipeline.retrieve shown requestId query topN = .ok result) :
    result.chunks.map (·.rank) = List.range' 1 result.chunks.length := by
  cases found : pipeline.hybridSearch (pipeline.rewrite query) pipeline.topKCandidates with
  | error name =>
      unfold retrieve at returned
      dsimp only at returned
      rw [found] at returned
      cases returned
  | ok candidates =>
      by_cases nonempty : candidates = []
      · subst nonempty
        unfold retrieve at returned
        dsimp only at returned
        rw [found] at returned
        cases returned
        rfl
      · obtain ⟨whenFailed, whenReranked⟩ :=
          retrieve_of_candidates shown requestId topN found nonempty
        cases reranked : pipeline.rerank shown (pipeline.rewrite query) candidates
            (topN.getD pipeline.topN) with
        | error exception =>
            rw [whenFailed exception reranked] at returned
            cases returned
        | ok outcome =>
            obtain ⟨same, returnedSame, chunks, -⟩ := whenReranked outcome reranked
            rw [returnedSame] at returned
            cases returned
            rw [chunks]
            exact ranks_of_rerank reranked

/-! ## A duplicate -/

/-- Two candidates. -/
def twoCandidates : List RetrievedChunk :=
  [⟨⟨1⟩, ⟨9⟩, "first".toList⟩, ⟨⟨2⟩, ⟨9⟩, "second".toList⟩]

/-- The ranking service names the first document twice. -/
def duplicateBody : Value Empty :=
  .dict [("records".toList, .list
    [.dict [("id".toList, .str "0".toList)], .dict [("id".toList, .str "0".toList)]])]

/-- The primary adapter with this response. -/
def duplicateAnswer : Answer Empty :=
  .gcp
    { projectId := "project".toList
      accessTokenProvider :=
        { cachedToken := some "token".toList
          credentials := .error .unavailable
          exchange := fun _ => ⟨.error .requestError, none⟩ }
      post := fun _ => ⟨.ok ⟨200, .ok duplicateBody⟩, none⟩ }
    200 duplicateBody

/-- A document named twice is neither refused nor left out. -/
theorem duplicateAnswer_endsInNoRanking :
    duplicateAnswer.Given (fun _ => [])
        (RetrievalPipeline.rerankRequest "question".toList twoCandidates 2) ∧
      ¬ EndsInRanking twoCandidates 2
        (duplicateAnswer.outcome (fun _ => [])
          (RetrievalPipeline.rerankRequest "question".toList twoCandidates 2)) := by
  have accepted : duplicateAnswer.outcome (fun _ => [])
      (RetrievalPipeline.rerankRequest "question".toList twoCandidates 2) =
        .ok [⟨0, 1, none⟩, ⟨0, 2, none⟩] := by rfl
  refine ⟨⟨"token".toList, rfl, rfl⟩, ?_⟩
  rw [accepted]
  rintro (⟨error, raised | raised⟩ | ⟨chunks, flag, settled, ranking⟩)
  · cases raised
  · cases raised
  · cases settled
    exact absurd ranking.distinct (by decide)

/-- The criterion for this response. -/
theorem answer_endsInRanking_iff_duplicate :
    EndsInRanking twoCandidates 2
        (duplicateAnswer.outcome (fun _ => [])
          (RetrievalPipeline.rerankRequest "question".toList twoCandidates 2)) ↔
      duplicateAnswer.Unread
          (RetrievalPipeline.rerankRequest "question".toList twoCandidates 2) ∨
        ReadsAsRanking twoCandidates 2 duplicateAnswer.reading :=
  answer_endsInRanking_iff (fun _ => []) "question".toList (by decide) (by decide)
    ⟨"token".toList, rfl, rfl⟩

end Retrieval
end ChatPlatform
