import ChatPlatform.Retrieval.Rankings

/-!
# Retrieval with a healthy reranker

A backend that answers every request with the first positions of an order of all
documents is used exactly when there are as many candidates as results are wanted. With
fewer, both adapters refuse the request themselves, and the retrieval falls back
although no backend failed.
-/

namespace ChatPlatform
namespace Retrieval

open Traversal
open RetrievalPipeline (Names)

variable {F : Type} [FloatOps F]

/-! ## Healthy backends -/

/-- The positions a backend answers with, for a query, documents and a number wanted. -/
abbrev BackendOrder := Str → List Str → Int → List Nat

/-- The first positions of a permutation of the positions below a number. -/
def PermutationPrefix (count length : Nat) (order : List Nat) : Prop :=
  ∃ permutation, List.Perm permutation (List.range count) ∧
    order = permutation.take length

/-- A request as the services take it. -/
structure WellFormedRequest (query : Str) (documents : List Str) (topN : Int) : Prop where
  /-- The query is not blank. -/
  query : Text.strip query ≠ []
  /-- There are documents. -/
  nonempty : documents ≠ []
  /-- They are at most two hundred. -/
  count : documents.length ≤ 200
  /-- None of them is blank. -/
  texts : ∀ document ∈ documents, Text.strip document ≠ []
  /-- Some result is wanted. -/
  positive : 1 ≤ topN

/-- The order of a backend is a permutation cut to the number wanted. -/
def RanksAll (order : BackendOrder) : Prop :=
  ∀ query documents topN, WellFormedRequest query documents topN →
    PermutationPrefix documents.length (min topN.toNat documents.length)
      (order query documents topN)

/-- A record of a response names a position, and its score, if any, is a number. -/
def RecordOf
    (indexKey scoreKey : Str)
    (written : Nat → Value F)
    (index : Nat)
    (record : Value F) : Prop :=
  ∃ fields, record = .dict fields ∧ Dict.get fields indexKey = some (written index) ∧
    ∀ score, Dict.get fields scoreKey = some score →
      score = .none ∨ ∃ number, score.asFloat = .ok number

/-- A response lists records of the positions of an order. -/
def ResponseOf
    (key indexKey scoreKey : Str)
    (written : Nat → Value F)
    (order : List Nat)
    (body : Value F) : Prop :=
  ∃ entries records, body = .dict entries ∧ Dict.get entries key = some (.list records) ∧
    List.Forall₂ (RecordOf indexKey scoreKey written) order records

/-- The ranking service answers every request in an order. -/
structure GcpAnswers
    (shown : Value F → Str)
    (gcp : GcpReranker F)
    (order : BackendOrder) : Prop where
  /-- A project is configured. -/
  project : gcp.projectId ≠ []
  /-- A token is obtained, the call succeeds and its body lists the positions. -/
  answers : ∀ query documents topN, WellFormedRequest query documents topN →
    ∃ token statusCode body,
      GcpReranker.accessToken shown gcp.accessTokenProvider = .ok token ∧
      statusCode < 400 ∧
      gcp.post ⟨gcp.projectId, gcp.location, token,
        GcpReranker.payload gcp ⟨query, documents, some topN⟩ topN⟩ =
          ⟨.ok ⟨statusCode, .ok body⟩, none⟩ ∧
      ResponseOf "records".toList "id".toList "score".toList
        (fun index => .str (Numeral.decimal index)) (order query documents topN) body

/-- The client of AWS answers every request in an order. -/
def AwsAnswers (aws : AwsReranker F) (order : BackendOrder) : Prop :=
  ∃ client, aws.buildClient = .ok client ∧
    ∀ query documents topN, WellFormedRequest query documents topN →
      ∃ body, client (aws.awsCall ⟨query, documents, some topN⟩ topN) = .ok body ∧
        ResponseOf "results".toList "index".toList "relevanceScore".toList
          (fun index => .int index) (order query documents topN) body

/-- A healthy backend serves the cascade: GCP, or AWS while GCP gives up on the requests
that its adapter lets through. -/
def Serves
    (shown : Value F → Str)
    (cascade : CascadingReranker F)
    (order : BackendOrder) : Prop :=
  RanksAll order ∧ (GcpAnswers shown cascade.primary order ∨
    (∀ query documents topN, WellFormedRequest query documents topN →
      topN ≤ documents.length →
        PrimaryGivesUp shown cascade.primary ⟨query, documents, some topN⟩) ∧
      AwsAnswers cascade.fallback order)

/-- The retrieval uses the reranker: it did not fall back, and its chunks are the
candidates in the order of the backend, as many as wanted and found. -/
def Used
    (shown : Value F → Str)
    (pipeline : RetrievalPipeline F)
    (requestId : Uuid)
    (query : Str)
    (topN : Option Int)
    (candidates : List RetrievedChunk)
    (order : BackendOrder) : Prop :=
  let wanted := topN.getD pipeline.topN
  ∃ result, pipeline.retrieve shown requestId query topN = .ok result ∧
    result.fallbackTriggered = false ∧
    result.chunks.length = min wanted.toNat candidates.length ∧
    result.chunks.map (fun ranked => some ranked.chunk) =
      (order (pipeline.rewrite query) (candidates.map (·.text)) wanted).map
        fun position => candidates[position]?

/-! ## What the adapters make of healthy answers -/

/-- Positions of a cut permutation are below the number, and as many as cut to. -/
theorem PermutationPrefix.spec
    {count length : Nat}
    {order : List Nat}
    (cut : PermutationPrefix count length order) :
    (∀ position ∈ order, position < count) ∧ order.length = min length count := by
  obtain ⟨permutation, rearranged, rfl⟩ := cut
  constructor
  · intro position held
    have inRange := rearranged.mem_iff.mp (List.mem_of_mem_take held)
    exact List.mem_range.mp inRange
  · rw [List.length_take, rearranged.length_eq, List.length_range]

omit [FloatOps F] in
/-- A request that wants no more than there are documents is let through; one that wants
more is refused for good. -/
theorem validateRequest_of_wellFormed
    (backend : Str)
    {query : Str}
    {documents : List Str}
    {topN : Int}
    {limit : Option Nat}
    (generous : ∀ most ∈ limit, 200 ≤ most)
    (wellFormed : WellFormedRequest query documents topN) :
    validateRequest backend limit ⟨query, documents, some topN⟩ =
      if topN ≤ documents.length then .ok topN
      else .error (.terminal ⟨"top_n is outside the document range".toList, backend, none⟩) := by
  have notTooMany : (limit.any fun most => most < documents.length) = false := by
    cases limit with
    | none => rfl
    | some most =>
        have enough := generous most rfl
        have count := wellFormed.count
        exact decide_eq_false (by omega)
  have noneBlank : (documents.any fun document => Text.strip document = []) = false := by
    rw [List.any_eq_false]
    intro document held
    simpa using wellFormed.texts document held
  have positive := wellFormed.positive
  unfold validateRequest
  dsimp only [Option.getD_some]
  rw [if_neg wellFormed.query, notTooMany, noneBlank]
  by_cases few : topN ≤ documents.length
  · rw [if_pos few]
    simp [not_lt.mpr few, show ¬ topN < 0 by omega]
  · rw [if_neg few]
    simp [not_le.mp few]

/-- A record gives its position. -/
private theorem rankedDocument_of_record
    {indexKey scoreKey : Str}
    {written : Nat → Value F}
    {index : Nat}
    {record : Value F}
    (readable : (written index).asInt = .ok (index : Int))
    (isRecord : RecordOf indexKey scoreKey written index record)
    (rank : Nat) :
    ∃ document, rankedDocument indexKey scoreKey rank record = .ok document ∧
      document.index = index := by
  obtain ⟨fields, rfl, named, scored⟩ := isRecord
  unfold rankedDocument
  simp only [Value.getItem, named, Value.getAttribute, bind, Except.bind, readable]
  cases found : Dict.get fields scoreKey with
  | none => exact ⟨⟨index, rank, none⟩, rfl, rfl⟩
  | some score =>
      rcases scored score found with rfl | ⟨number, isNumber⟩
      · exact ⟨⟨index, rank, none⟩, rfl, rfl⟩
      · cases score with
        | none => exact ⟨⟨index, rank, none⟩, rfl, rfl⟩
        | _ => exact ⟨⟨index, rank, some number⟩, by simp only [isNumber], rfl⟩

/-- Records give their positions. -/
private theorem rankedDocuments_of_records
    {indexKey scoreKey : Str}
    {written : Nat → Value F}
    {order : List Nat}
    {records : List (Value F)}
    (readable : ∀ index ∈ order, (written index).asInt = .ok (index : Int))
    (isRecords : List.Forall₂ (RecordOf indexKey scoreKey written) order records)
    (rank : Nat) :
    ∃ results, rankedDocuments indexKey scoreKey rank records = .ok results ∧
      results.map (·.index) = order.map Int.ofNat := by
  induction isRecords generalizing rank with
  | nil => exact ⟨[], rfl, rfl⟩
  | @cons index record order records isRecord _ inductionHypothesis =>
      obtain ⟨document, first, here⟩ := rankedDocument_of_record
        (readable index List.mem_cons_self) isRecord rank
      obtain ⟨results, others, rest⟩ := inductionHypothesis
        (fun other held => readable other (List.mem_cons_of_mem index held)) (rank + 1)
      refine ⟨document :: results, ?_, ?_⟩
      · simp only [rankedDocuments, first, others, bind, Except.bind]
      · rw [List.map_cons, List.map_cons, here, rest]
        rfl

/-- A response that lists positions inside the documents is accepted as it is. -/
private theorem acceptResults_of_response
    (backend invalidResponse invalidIndex : Str)
    {key indexKey scoreKey : Str}
    (request : RerankRequest)
    {written : Nat → Value F}
    {order : List Nat}
    {body : Value F}
    (readable : ∀ index ∈ order, (written index).asInt = .ok (index : Int))
    (inside : ∀ index ∈ order, index < request.documents.length)
    (response : ResponseOf key indexKey scoreKey written order body) :
    ∃ results, acceptResults backend invalidResponse invalidIndex request
        (decodeResults key indexKey scoreKey body) = .ok results ∧
      results.map (·.index) = order.map Int.ofNat := by
  obtain ⟨entries, records, rfl, listed, isRecords⟩ := response
  obtain ⟨results, read, positions⟩ := rankedDocuments_of_records readable isRecords 1
  have decoded : decodeResults key indexKey scoreKey (.dict entries) = .ok results := by
    simp only [decodeResults, Value.getItem, listed, iterate, read, bind, Except.bind]
  have noneOutside : (results.any fun result =>
      result.index < 0 || (request.documents.length : Int) ≤ result.index) = false := by
    rw [List.any_eq_false]
    intro result held
    have indexHeld : result.index ∈ order.map Int.ofNat :=
      positions ▸ List.mem_map_of_mem held
    obtain ⟨index, indexIn, same⟩ := List.mem_map.mp indexHeld
    have below := inside index indexIn
    have whole : result.index = (index : Int) := same.symm
    simp only [Bool.or_eq_true, decide_eq_true_eq, not_or]
    omega
  refine ⟨results, ?_, positions⟩
  rw [decoded, acceptResults, noneOutside]
  rfl

/-- The results of a serving adapter stand at the positions of the order. -/
private def Follows (order : List Nat) (results : List (RankedDocument F)) : Prop :=
  results.map (·.index) = order.map Int.ofNat

/-- A small position is printed and read back. -/
private theorem asInt_decimal
    {index : Nat}
    (small : index < 1000) :
    (Value.str (F := F) (Numeral.decimal index)).asInt = .ok (index : Int) := by
  have short : ((Numeral.decimal index).filter fun c =>
      (Numeral.digitValue c).isSome).length ≤ Value.maxIntDigits := by
    have digits : (Numeral.decimal index).length ≤ 3 :=
      (Nat.length_toDigits_le_iff (by decide) (by decide)).mpr small
    exact ((List.length_filter_le _ _).trans digits).trans (by decide)
  unfold Value.asInt
  dsimp only
  rw [if_neg (not_lt.mpr short), Numeral.intLiteral_decimal]

/-- The positions of a request's order are those of its documents. -/
private theorem inside_of_ranksAll
    {order : BackendOrder}
    {query : Str}
    {documents : List Str}
    {topN : Int}
    (ranksAll : RanksAll order)
    (wellFormed : WellFormedRequest query documents topN) :
    (∀ position ∈ order query documents topN, position < documents.length) ∧
      (order query documents topN).length = min topN.toNat documents.length := by
  obtain ⟨inside, length⟩ := (ranksAll query documents topN wellFormed).spec
  refine ⟨inside, ?_⟩
  omega

namespace GcpReranker

/-- A primary adapter whose service answers gives the results in its order. -/
private theorem rerank_of_answers
    {shown : Value F → Str}
    {gcp : GcpReranker F}
    {order : BackendOrder}
    {query : Str}
    {documents : List Str}
    {topN : Int}
    (ranksAll : RanksAll order)
    (answers : GcpAnswers shown gcp order)
    (wellFormed : WellFormedRequest query documents topN)
    (few : topN ≤ documents.length) :
    ∃ results, rerank shown gcp ⟨query, documents, some topN⟩ = .ok results ∧
      Follows (order query documents topN) results := by
  obtain ⟨token, statusCode, body, obtained, succeeded, answered, response⟩ :=
    answers.answers query documents topN wellFormed
  obtain ⟨inside, -⟩ := inside_of_ranksAll ranksAll wellFormed
  have readable : ∀ position ∈ order query documents topN,
      (Value.str (F := F) (Numeral.decimal position)).asInt = .ok (position : Int) := by
    intro position held
    have below := inside position held
    have count := wellFormed.count
    exact asInt_decimal (by omega)
  have generous : ∀ most ∈ some 200, 200 ≤ most := by
    rintro most ⟨⟩
    exact le_rfl
  have checked := validateRequest_of_wellFormed backend generous wellFormed
  rw [if_pos few] at checked
  have status : checkStatus "GCP reranker is temporarily unavailable".toList
      "GCP reranker request was rejected".toList statusCode = .ok () := by
    rcases checkStatus_cases "GCP reranker is temporarily unavailable".toList
      "GCP reranker request was rejected".toList statusCode with ⟨failed, -⟩ | ⟨-, accepted⟩
    · omega
    · exact accepted
  obtain ⟨results, accepted, follows⟩ := acceptResults_of_response backend
    "GCP reranker response is invalid".toList
    "GCP reranker returned an invalid document index".toList
    ⟨query, documents, some topN⟩ readable inside response
  refine ⟨results, ?_, follows⟩
  unfold rerank
  rw [checked]
  simp only [bind, Except.bind, if_neg wellFormed.nonempty, if_neg answers.project, obtained,
    answered, finishExchange, status]
  exact accepted

end GcpReranker

namespace AwsReranker

/-- An AWS adapter whose client answers gives the results in its order. -/
private theorem rerank_of_answers
    {aws : AwsReranker F}
    {order : BackendOrder}
    {query : Str}
    {documents : List Str}
    {topN : Int}
    (ranksAll : RanksAll order)
    (answers : AwsAnswers aws order)
    (wellFormed : WellFormedRequest query documents topN)
    (few : topN ≤ documents.length) :
    ∃ results, aws.rerank ⟨query, documents, some topN⟩ = .ok results ∧
      Follows (order query documents topN) results := by
  obtain ⟨client, built, answers⟩ := answers
  obtain ⟨body, answered, response⟩ := answers query documents topN wellFormed
  obtain ⟨inside, -⟩ := inside_of_ranksAll ranksAll wellFormed
  have noLimit : ∀ most ∈ (none : Option Nat), 200 ≤ most := nofun
  have checked := validateRequest_of_wellFormed backend noLimit wellFormed
  rw [if_pos few] at checked
  obtain ⟨results, accepted, follows⟩ := acceptResults_of_response backend
    "AWS reranker response is invalid".toList
    "AWS reranker returned an invalid document index".toList
    ⟨query, documents, some topN⟩ (fun _ _ => rfl) inside response
  refine ⟨results, ?_, follows⟩
  unfold rerank
  rw [checked]
  simp only [bind, Except.bind, if_neg wellFormed.nonempty, built, answered]
  exact accepted

end AwsReranker

namespace CascadingReranker

variable {shown : Value F → Str} {cascade : CascadingReranker F} {order : BackendOrder}
  {query : Str} {documents : List Str} {topN : Int}

/-- A served cascade gives the results in the order of its backend. -/
private theorem rerank_of_serves
    (serves : Serves shown cascade order)
    (wellFormed : WellFormedRequest query documents topN)
    (few : topN ≤ documents.length) :
    ∃ results, cascade.rerank shown ⟨query, documents, some topN⟩ = .ok results ∧
      Follows (order query documents topN) results := by
  obtain ⟨ranksAll, gcp | ⟨givesUp, aws⟩⟩ := serves
  · obtain ⟨results, primary, follows⟩ :=
      GcpReranker.rerank_of_answers ranksAll gcp wellFormed few
    exact ⟨results, by rw [rerank, primary], follows⟩
  · obtain ⟨results, fallback, follows⟩ :=
      AwsReranker.rerank_of_answers ranksAll aws wellFormed few
    obtain ⟨exception, primary, notTerminal⟩ := givesUp query documents topN wellFormed few
    refine ⟨results, ?_, follows⟩
    rw [rerank, primary]
    cases exception with
    | terminal error => exact absurd rfl (notTerminal error)
    | transient error => exact fallback
    | other name => exact fallback

variable (shown cascade) in
/-- The cascade refuses a request that wants more than there are documents. -/
private theorem rerank_of_many
    (wellFormed : WellFormedRequest query documents topN)
    (many : ¬ topN ≤ documents.length) :
    ∃ error, cascade.rerank shown ⟨query, documents, some topN⟩ =
      .error (.terminal error) := by
  have generous : ∀ most ∈ some 200, 200 ≤ most := by
    rintro most ⟨⟩
    exact le_rfl
  have checked := validateRequest_of_wellFormed GcpReranker.backend generous wellFormed
  rw [if_neg many] at checked
  exact ⟨_, by rw [rerank, GcpReranker.rerank, checked]; rfl⟩

end CascadingReranker

/-! ## The retrieval -/

/-- With a healthy backend, non-blank candidates and a non-blank query, the reranker is
used exactly when there are as many candidates as results are wanted. -/
theorem healthy_used_iff
    {shown : Value F → Str}
    {pipeline : RetrievalPipeline F}
    {order : BackendOrder}
    (serves : Serves shown pipeline.reranker order)
    (requestId : Uuid)
    {query : Str}
    {topN : Option Int}
    {candidates : List RetrievedChunk}
    (found : pipeline.hybridSearch (pipeline.rewrite query) pipeline.topKCandidates =
      .ok candidates)
    (notBlank : Text.strip (pipeline.rewrite query) ≠ [])
    (nonempty : candidates ≠ [])
    (count : candidates.length ≤ 200)
    (texts : ∀ candidate ∈ candidates, Text.strip candidate.text ≠ [])
    (positive : 1 ≤ topN.getD pipeline.topN) :
    Used shown pipeline requestId query topN candidates order ↔
      topN.getD pipeline.topN ≤ candidates.length := by
  have wellFormed : WellFormedRequest (pipeline.rewrite query) (candidates.map (·.text))
      (topN.getD pipeline.topN) :=
    { query := notBlank
      nonempty := fun none => nonempty (List.map_eq_nil_iff.mp none)
      count := by rwa [List.length_map]
      texts := List.forall_mem_map.mpr texts
      positive := positive }
  obtain ⟨-, whenReranked⟩ := RetrievalPipeline.retrieve_of_candidates shown requestId topN
    found nonempty
  constructor
  · rintro ⟨result, returned, notFallback, -⟩
    by_contra many
    have manyWanted : ¬ topN.getD pipeline.topN ≤ (candidates.map (·.text)).length := by
      rwa [List.length_map]
    obtain ⟨error, refused⟩ := CascadingReranker.rerank_of_many shown pipeline.reranker
      wellFormed manyWanted
    have reranked : pipeline.rerank shown (pipeline.rewrite query) candidates
        (topN.getD pipeline.topN) =
          .ok (inRetrievalOrder (leading candidates (topN.getD pipeline.topN)), true) := by
      rw [RetrievalPipeline.rerank_eq_settle, RetrievalPipeline.rerankRequest, refused]
      rfl
    obtain ⟨same, returnedSame, -, flagged⟩ := whenReranked _ reranked
    rw [returned] at returnedSame
    cases returnedSame
    rw [flagged] at notFallback
    cases notFallback
  · intro few
    have fewDocuments : topN.getD pipeline.topN ≤ (candidates.map (·.text)).length := by
      rwa [List.length_map]
    obtain ⟨results, accepted, follows⟩ :=
      CascadingReranker.rerank_of_serves serves wellFormed fewDocuments
    obtain ⟨chunks, settled, named⟩ := settle_of_inRange (topN.getD pipeline.topN)
      (CascadingReranker.rankedInOrder_of_rerank accepted)
      (CascadingReranker.inRange_of_rerank accepted)
    have reranked : pipeline.rerank shown (pipeline.rewrite query) candidates
        (topN.getD pipeline.topN) = .ok (chunks, false) := by
      rw [RetrievalPipeline.rerank_eq_settle, RetrievalPipeline.rerankRequest, accepted]
      exact settled
    obtain ⟨result, returned, same, notFallback⟩ := whenReranked _ reranked
    obtain ⟨-, length⟩ := inside_of_ranksAll serves.1 wellFormed
    refine ⟨result, returned, notFallback, ?_, ?_⟩
    · have counted := congrArg List.length follows
      rw [List.length_map, List.length_map, length, List.length_map] at counted
      rw [same, ← named.length_eq, counted]
    · have places : results.map (fun result => candidates[result.index.toNat]?) =
          (order (pipeline.rewrite query) (candidates.map (·.text))
            (topN.getD pipeline.topN)).map fun position => candidates[position]? := by
        have mapped := congrArg (List.map fun index : Int => candidates[index.toNat]?) follows
        rwa [List.map_map, List.map_map] at mapped
      rw [same, ← places]
      exact map_eq_of_forall₂ (fun _ _ names => names.1.symm) named

/-! ## A backend that keeps the order -/

/-- A ranking service that answers with the first records of the request. -/
def echoService (call : GcpCall Empty) : HttpExchange Empty :=
  match Dict.get call.payload "records".toList, Dict.get call.payload "topN".toList with
  | some (.list records), some (.int topN) =>
      ⟨.ok ⟨200, .ok (.dict [("records".toList,
        .list (records.take (min topN.toNat records.length)))])⟩, none⟩
  | _, _ => ⟨.error .requestError, none⟩

/-- Its order: that of the documents. -/
def echoOrder : BackendOrder := fun _ documents topN =>
  (List.range documents.length).take (min topN.toNat documents.length)

/-- A pipeline that finds some candidates and reranks with this service. -/
def echoPipeline (candidates : List RetrievedChunk) : RetrievalPipeline Empty where
  generate := fun _ => .error (.other "RuntimeError".toList [])
  hybridSearch := fun _ _ => .ok candidates
  reranker :=
    { primary :=
        { projectId := "project".toList
          accessTokenProvider :=
            { cachedToken := some "token".toList
              credentials := .error .unavailable
              exchange := fun _ => ⟨.error .requestError, none⟩ }
          post := echoService }
      fallback := { boto3Client := .error "NoRegionError".toList } }
  upper := id

/-- The service is healthy. -/
theorem serves_echoPipeline (candidates : List RetrievedChunk) :
    Serves (fun _ => []) (echoPipeline candidates).reranker echoOrder := by
  refine ⟨fun query documents topN _ => ⟨_, .refl _, rfl⟩, Or.inl ⟨by simp [echoPipeline], ?_⟩⟩
  intro query documents topN _
  let records : List (Value Empty) := documents.mapIdx fun index document =>
    .dict [("id".toList, .str (Numeral.decimal index)), ("content".toList, .str document)]
  have length : records.length = documents.length := List.length_mapIdx
  refine ⟨"token".toList, 200, .dict [("records".toList,
    .list (records.take (min topN.toNat records.length)))], rfl, by decide, rfl, ?_⟩
  refine ⟨_, _, rfl, rfl, ?_⟩
  rw [length]
  refine List.forall₂_take _ (List.forall₂_iff_get.mpr ⟨?_, ?_⟩)
  · rw [List.length_range, length]
  · intro index inRange inRecords
    refine ⟨[("id".toList, .str (Numeral.decimal index)),
      ("content".toList, .str (documents.get ⟨index, length ▸ inRecords⟩))], ?_, ?_, ?_⟩
    · simp [records]
    · simp
    · simp

/-- One candidate, and five results wanted by default: the service is healthy, and the
retrieval falls back. -/
theorem echoPipeline_not_used :
    Serves (fun _ => []) (echoPipeline [⟨⟨1⟩, ⟨2⟩, "passage".toList⟩]).reranker echoOrder ∧
      ¬ Used (fun _ => []) (echoPipeline [⟨⟨1⟩, ⟨2⟩, "passage".toList⟩]) ⟨9⟩
        "question".toList none [⟨⟨1⟩, ⟨2⟩, "passage".toList⟩] echoOrder := by
  refine ⟨serves_echoPipeline _, ?_⟩
  rintro ⟨result, returned, notFallback, -⟩
  have flagged : ((echoPipeline [⟨⟨1⟩, ⟨2⟩, "passage".toList⟩]).retrieve (fun _ => []) ⟨9⟩
      "question".toList none).map (·.fallbackTriggered) = .ok true := by rfl
  rw [returned] at flagged
  exact absurd (notFallback.symm.trans (Except.ok.inj flagged)) (by decide)

/-- With one result wanted of the one candidate the criterion applies. -/
theorem healthy_used_iff_echo :
    Used (fun _ => []) (echoPipeline [⟨⟨1⟩, ⟨2⟩, "passage".toList⟩]) ⟨9⟩
        "question".toList (some 1) [⟨⟨1⟩, ⟨2⟩, "passage".toList⟩] echoOrder ↔
      (1 : Int) ≤ [(⟨⟨1⟩, ⟨2⟩, "passage".toList⟩ : RetrievedChunk)].length :=
  healthy_used_iff (serves_echoPipeline _) ⟨9⟩ rfl (by decide) (by decide) (by decide)
    (by decide) (by decide)

end Retrieval
end ChatPlatform
