import ChatPlatform.Foundation.Greedy
import ChatPlatform.Foundation.JsonWeight
import ChatPlatform.Foundation.Queries
import ChatPlatform.Foundation.Text
import ChatPlatform.Foundation.Traversal
import Mathlib.Algebra.BigOperators.Group.List.Basic
import Mathlib.Algebra.Order.Field.Rat
import Mathlib.Data.Char
import Mathlib.Data.List.Lex
import Mathlib.Data.Prod.Lex

/-!
# Exact memory search

The entries of a conversation are compared with a query, ordered by their similarity and
taken one after the other, with a limit for each source message. The number wanted is
compared after an entry was taken, so that one entry is taken even when none is wanted.

A token is estimated at four bytes of a text. The estimate rounds up, so that it is not
additive: the estimate of lines that are joined is not the sum of their estimates.
-/

namespace ChatPlatform
namespace Recall

/-- A part of a source message. -/
structure MemoryChunk where
  /-- Identifier of the part. -/
  artifactId : Str
  /-- The tenant. -/
  tenantId : Str
  /-- The conversation. -/
  conversationId : Str
  /-- The message it is a part of. -/
  sourceMessageId : Str
  /-- Author of the message. -/
  sourceRole : Str
  /-- Number of the message. -/
  sourceSequence : Int
  /-- Number of the part. -/
  chunkOrdinal : Int
  /-- Where the part starts. -/
  startOffset : Int
  /-- Where it ends. -/
  endOffset : Int
  /-- Text of the part. -/
  content : Str
  /-- Digest of the message. -/
  sourceHash : Str
  /-- Digest of the part. -/
  embeddingInputHash : Str
  /-- Version of the index. -/
  indexVersion : Str
  deriving DecidableEq

variable {K : Type}

/-- A part with its vector. -/
structure VectorizedChunk (K : Type) where
  /-- The part. -/
  chunk : MemoryChunk
  /-- Its vector. -/
  vector : List K

/-- A part with its similarity to a query. -/
structure RetrievedChunk (K : Type) where
  /-- The part. -/
  chunk : MemoryChunk
  /-- Its similarity. -/
  similarity : K
  deriving DecidableEq

/-- Entries whose vectors share their dimensions. -/
structure ExactMemoryIndex (K : Type) where
  /-- The entries. -/
  entries : List (VectorizedChunk K)
  /-- Their vectors have one length. -/
  dimensions : ∀ left ∈ entries, ∀ right ∈ entries, left.vector.length = right.vector.length

/-- What is searched for. -/
structure SearchRequest (K : Type) where
  /-- The vector of the query. -/
  queryVector : List K
  /-- The tenant. -/
  tenantId : Str
  /-- The conversation. -/
  conversationId : Str
  /-- The version of the index. -/
  indexVersion : Str
  /-- Messages whose parts are not wanted. -/
  excludedSourceMessageIds : List Str
  /-- The least similarity, if there is one. -/
  similarityThreshold : Option K
  /-- Number of parts wanted. -/
  retrievalTopKChunks : Int
  /-- Most parts of one message. -/
  maxSelectedChunksPerSourceMessage : Int

section Similarity

variable [Field K] [LinearOrder K] (sqrt : K → K)

/-- The length of a vector. -/
def norm (vector : List K) : K := sqrt (vector.map fun value => value * value).sum

/-- The cosine of two vectors, nothing for one without a length. -/
def cosine (left right : List K) : K :=
  if norm sqrt left = 0 ∨ norm sqrt right = 0 then 0
  else (List.zipWith (· * ·) left right).sum / (norm sqrt left * norm sqrt right)

/-- The cosine of two vectors of one length. -/
def cosineSimilarity (left right : List K) : Except Str K :=
  if left.length ≠ right.length then .error "vector dimensions differ".toList
  else .ok (cosine sqrt left right)

end Similarity

namespace ExactMemoryIndex

/-- Whether an entry is in the scope of a request. -/
def inScope (request : SearchRequest K) (entry : VectorizedChunk K) : Bool :=
  entry.chunk.tenantId = request.tenantId &&
    entry.chunk.conversationId = request.conversationId &&
    entry.chunk.indexVersion = request.indexVersion &&
    !decide (entry.chunk.sourceMessageId ∈ request.excludedSourceMessageIds)

variable [Field K] [LinearOrder K] (sqrt : K → K)

/-- Whether a result is at or above the threshold. -/
def reaches (request : SearchRequest K) (result : RetrievedChunk K) : Bool :=
  match request.similarityThreshold with
  | none => true
  | some threshold => !decide (result.similarity < threshold)

/-- The key by which candidates are ordered: most similar first, then by their place in the
conversation and their identifier. -/
def resultKey (result : RetrievedChunk K) : K ×ₗ Int ×ₗ Int ×ₗ Str :=
  toLex (-result.similarity, toLex (result.chunk.sourceSequence,
    toLex (result.chunk.chunkOrdinal, result.chunk.artifactId)))

/-- The state of the selection. -/
structure Selection (K : Type) where
  /-- What was selected. -/
  selected : List (RetrievedChunk K) := []
  /-- The identifiers of what was selected. -/
  seenArtifacts : List Str := []
  /-- How many parts of each message were selected. -/
  perSource : Str → Nat := fun _ => 0

/-- Select one more result. -/
def Selection.add (selection : Selection K) (result : RetrievedChunk K) : Selection K where
  selected := selection.selected ++ [result]
  seenArtifacts := selection.seenArtifacts ++ [result.chunk.artifactId]
  perSource := fun sourceId =>
    if sourceId = result.chunk.sourceMessageId then selection.perSource sourceId + 1
    else selection.perSource sourceId

/-- The loop over the candidates. -/
def selectFrom
    (request : SearchRequest K)
    (selection : Selection K) : List (RetrievedChunk K) → List (RetrievedChunk K)
  | [] => selection.selected
  | candidate :: rest =>
      if candidate.chunk.artifactId ∈ selection.seenArtifacts then
        selectFrom request selection rest
      else if request.maxSelectedChunksPerSourceMessage ≤
          selection.perSource candidate.chunk.sourceMessageId then
        selectFrom request selection rest
      else if request.retrievalTopKChunks ≤ (selection.add candidate).selected.length then
        (selection.add candidate).selected
      else selectFrom request (selection.add candidate) rest

/-- The result an entry may become. -/
def retrieved (request : SearchRequest K) (entry : VectorizedChunk K) :
    Except Str (RetrievedChunk K) := do
  let similarity ← cosineSimilarity sqrt request.queryVector entry.vector
  .ok ⟨entry.chunk, similarity⟩

/-- Search the entries. -/
def search (index : ExactMemoryIndex K) (request : SearchRequest K) :
    Except Str (List (RetrievedChunk K)) :=
  if request.retrievalTopKChunks < 0 then
    .error "retrieval_top_k_chunks must be non-negative".toList
  else if request.maxSelectedChunksPerSourceMessage ≤ 0 then
    .error "max_selected_chunks_per_source_message must be positive".toList
  else do
    let compared ← (index.entries.filter (inScope request)).mapM (retrieved sqrt request)
    let candidates := Queries.sortBy resultKey (compared.filter (reaches request))
    .ok (selectFrom request {} candidates)

/-! ## The loop as a greedy selection -/

/-- Whether what was selected admits a candidate. -/
def admits (request : SearchRequest K) (chosen : List (RetrievedChunk K))
    (candidate : RetrievedChunk K) : Bool :=
  !decide (candidate.chunk.artifactId ∈ chosen.map (·.chunk.artifactId)) &&
    decide ((chosen.countP (·.chunk.sourceMessageId = candidate.chunk.sourceMessageId) : Int) <
      request.maxSelectedChunksPerSourceMessage)

/-- Whether enough was selected. -/
def isFull (request : SearchRequest K) (chosen : List (RetrievedChunk K)) : Bool :=
  decide (request.retrievalTopKChunks ≤ chosen.length)

/-- The identifiers and the counts are those of what was selected. -/
structure Selection.Agrees (selection : Selection K) : Prop where
  /-- The identifiers. -/
  seen : selection.seenArtifacts = selection.selected.map (·.chunk.artifactId)
  /-- The counts. -/
  counts : ∀ sourceId, selection.perSource sourceId =
    selection.selected.countP (·.chunk.sourceMessageId = sourceId)

omit [Field K] [LinearOrder K] in
theorem Selection.Agrees.add
    {selection : Selection K}
    (agrees : selection.Agrees)
    (result : RetrievedChunk K) : (selection.add result).Agrees := by
  refine ⟨?_, fun sourceId => ?_⟩
  · simp only [Selection.add, agrees.seen, List.map_append, List.map_cons, List.map_nil]
  · simp only [Selection.add, agrees.counts, List.countP_append, List.countP_cons,
      List.countP_nil, Nat.zero_add, decide_eq_true_eq]
    by_cases same : sourceId = result.chunk.sourceMessageId
    · rw [if_pos same, if_pos same.symm]
    · rw [if_neg same, if_neg (Ne.symm same), Nat.add_zero]

omit [Field K] [LinearOrder K] in
/-- The loop is the greedy selection. -/
theorem selectFrom_eq_pick
    {request : SearchRequest K}
    {selection : Selection K}
    (agrees : selection.Agrees)
    (candidates : List (RetrievedChunk K)) :
    selectFrom request selection candidates =
      Greedy.pick (admits request) (isFull request) selection.selected candidates := by
  induction candidates generalizing selection with
  | nil => rfl
  | cons candidate rest inductionHypothesis =>
      unfold selectFrom Greedy.pick
      by_cases seen : candidate.chunk.artifactId ∈ selection.seenArtifacts
      · have refused : ¬ admits request selection.selected candidate = true := by
          simp only [admits, ← agrees.seen, seen, decide_true, Bool.not_true,
            Bool.false_and, Bool.false_eq_true, not_false_eq_true]
        rw [if_pos seen, if_neg refused, inductionHypothesis agrees]
      · rw [if_neg seen]
        by_cases enough : request.maxSelectedChunksPerSourceMessage ≤
            selection.perSource candidate.chunk.sourceMessageId
        · have refused : ¬ admits request selection.selected candidate = true := by
            rw [agrees.counts] at enough
            simp only [admits, Bool.and_eq_true, decide_eq_true_eq, not_and, not_lt]
            exact fun _ => enough
          rw [if_pos enough, if_neg refused, inductionHypothesis agrees]
        · have admitted : admits request selection.selected candidate = true := by
            rw [agrees.counts] at enough
            simp only [admits, ← agrees.seen, seen, decide_false, Bool.not_false,
              Bool.true_and, decide_eq_true_eq]
            exact lt_of_not_ge enough
          rw [if_neg enough, if_pos admitted, inductionHypothesis (agrees.add candidate)]
          simp only [isFull, decide_eq_true_eq]
          rfl

/-! ## What a search finds -/

/-- What an entry has to be to be found. -/
structure Eligible (request : SearchRequest K) (result : RetrievedChunk K) : Prop where
  /-- It is one of the tenant. -/
  tenant : result.chunk.tenantId = request.tenantId
  /-- It is one of the conversation. -/
  conversation : result.chunk.conversationId = request.conversationId
  /-- It is one of the version. -/
  version : result.chunk.indexVersion = request.indexVersion
  /-- Its message is not excluded. -/
  wanted : result.chunk.sourceMessageId ∉ request.excludedSourceMessageIds
  /-- Its similarity is at or above the threshold. -/
  near : ∀ threshold, request.similarityThreshold = some threshold →
    threshold ≤ result.similarity

/-- The result an entry becomes when its vector is as long as that of the query. -/
def resultOf (request : SearchRequest K) (entry : VectorizedChunk K) : RetrievedChunk K :=
  ⟨entry.chunk, cosine sqrt request.queryVector entry.vector⟩

/-- The results that come before a result, or at its place, in the order of the keys. -/
def preceding (results : List (RetrievedChunk K)) (result : RetrievedChunk K) :
    List (RetrievedChunk K) :=
  results.filter fun earlier => resultKey earlier ≤ resultKey result

/-- What a search promises: it is in its scope, within its bounds, in order, the same for
every order of the entries, and leaves out no entry that it could have selected. -/
structure GreedyMaximal
    (index : ExactMemoryIndex K)
    (request : SearchRequest K)
    (results : List (RetrievedChunk K)) : Prop where
  /-- There are at most as many results as wanted. -/
  atMost : (results.length : Int) ≤ request.retrievalTopKChunks
  /-- There are at most as many of one message as wanted. -/
  perMessage : ∀ sourceId,
    (results.countP (·.chunk.sourceMessageId = sourceId) : Int) ≤
      request.maxSelectedChunksPerSourceMessage
  /-- No part is found twice. -/
  distinct : (results.map (·.chunk.artifactId)).Nodup
  /-- Every result is an entry that is eligible. -/
  found : ∀ result ∈ results,
    Eligible request result ∧ ∃ entry ∈ index.entries, resultOf sqrt request entry = result
  /-- The results are in order. -/
  sorted : results.Pairwise fun left right => resultKey left ≤ resultKey right
  /-- The order of entries with distinct identifiers does not matter. -/
  anyOrder : ∀ other : ExactMemoryIndex K, other.entries.Perm index.entries →
    (index.entries.map (·.chunk.artifactId)).Nodup →
      search sqrt other request = .ok results
  /-- An eligible entry is left out only when enough results precede it, enough of its
  message do, or its part is selected already. -/
  leftOut : ∀ entry ∈ index.entries, Eligible request (resultOf sqrt request entry) →
    resultOf sqrt request entry ∈ results ∨
      request.retrievalTopKChunks ≤ (preceding results (resultOf sqrt request entry)).length ∨
      request.maxSelectedChunksPerSourceMessage ≤
        (preceding results (resultOf sqrt request entry)).countP
          (·.chunk.sourceMessageId = entry.chunk.sourceMessageId) ∨
      ∃ earlier ∈ preceding results (resultOf sqrt request entry),
        earlier.chunk.artifactId = entry.chunk.artifactId

/-! ## The candidates -/

variable {sqrt} {index : ExactMemoryIndex K} {request : SearchRequest K}

variable (sqrt index request) in
/-- The candidates in their order. -/
def candidates : List (RetrievedChunk K) :=
  Queries.sortBy resultKey
    (((index.entries.filter (inScope request)).map (resultOf sqrt request)).filter
      (reaches request))

private theorem inScope_and_reaches_iff (entry : VectorizedChunk K) :
    inScope request entry = true ∧ reaches request (resultOf sqrt request entry) = true ↔
      Eligible request (resultOf sqrt request entry) := by
  have threshold : reaches request (resultOf sqrt request entry) = true ↔
      ∀ least, request.similarityThreshold = some least →
        least ≤ (resultOf sqrt request entry).similarity := by
    unfold reaches
    cases request.similarityThreshold with
    | none => simp only [reduceCtorEq, false_implies, implies_true]
    | some least =>
        simp only [Bool.not_eq_true', decide_eq_false_iff_not, not_lt, Option.some.injEq,
          forall_eq']
  rw [threshold]
  simp only [inScope, Bool.and_eq_true, decide_eq_true_eq, Bool.not_eq_true',
    decide_eq_false_iff_not]
  constructor
  · rintro ⟨⟨⟨⟨tenant, conversation⟩, version⟩, wanted⟩, near⟩
    exact ⟨tenant, conversation, version, wanted, near⟩
  · rintro ⟨tenant, conversation, version, wanted, near⟩
    exact ⟨⟨⟨⟨tenant, conversation⟩, version⟩, wanted⟩, near⟩

/-- The candidates are the eligible entries. -/
theorem mem_candidates (result : RetrievedChunk K) :
    result ∈ candidates sqrt index request ↔
      Eligible request result ∧
        ∃ entry ∈ index.entries, resultOf sqrt request entry = result := by
  unfold candidates
  rw [(Queries.sortBy_perm _ _).mem_iff, List.mem_filter, List.mem_map]
  constructor
  · rintro ⟨⟨entry, inside, rfl⟩, near⟩
    obtain ⟨held, isScoped⟩ := List.mem_filter.mp inside
    exact ⟨(inScope_and_reaches_iff entry).mp ⟨isScoped, near⟩, entry, held, rfl⟩
  · rintro ⟨eligible, entry, held, rfl⟩
    obtain ⟨isScoped, near⟩ := (inScope_and_reaches_iff entry).mpr eligible
    exact ⟨⟨entry, List.mem_filter.mpr ⟨held, isScoped⟩, rfl⟩, near⟩

theorem candidates_sorted :
    (candidates sqrt index request).Pairwise fun left right =>
      resultKey left ≤ resultKey right :=
  (Queries.orderedBy_sortBy _ _).2

/-- Entries with distinct identifiers have the same candidates in every order. -/
theorem candidates_eq_of_perm
    {other : ExactMemoryIndex K}
    (rearranged : other.entries.Perm index.entries)
    (apart : (index.entries.map (·.chunk.artifactId)).Nodup) :
    candidates sqrt other request = candidates sqrt index request := by
  refine Queries.sortBy_eq_of_perm ?_
    (((rearranged.symm.filter _).map _).filter _)
  refine List.Nodup.of_map (fun key => (ofLex (ofLex (ofLex key).2).2).2) ?_
  rw [List.map_map]
  refine apart.sublist ?_
  have inOrder := (List.filter_sublist (p := reaches request)
    (l := (index.entries.filter (inScope request)).map (resultOf sqrt request))).map
      (fun result => result.chunk.artifactId)
  rw [List.map_map] at inOrder
  exact inOrder.trans (List.filter_sublist.map _)

variable (sqrt index request) in
/-- What is selected from the candidates. -/
def picked : List (RetrievedChunk K) :=
  Greedy.pick (admits request) (isFull request) [] (candidates sqrt index request)

/-- The vectors of the entries in scope are as long as that of the query. -/
def Comparable (index : ExactMemoryIndex K) (request : SearchRequest K) : Prop :=
  ∀ entry ∈ index.entries, inScope request entry = true →
    request.queryVector.length = entry.vector.length

/-- A search with valid limits compares vectors of one length, and selects from the
candidates. -/
theorem search_eq
    (limitHeld : 0 ≤ request.retrievalTopKChunks)
    (messageLimitHeld : 1 ≤ request.maxSelectedChunksPerSourceMessage)
    (comparable : Comparable index request) :
    search sqrt index request = .ok (picked sqrt index request) := by
  have compared : (index.entries.filter (inScope request)).mapM (retrieved sqrt request) =
      .ok ((index.entries.filter (inScope request)).map (resultOf sqrt request)) := by
    refine Traversal.mapM_eq_ok_map fun entry inside => ?_
    obtain ⟨held, isScoped⟩ := List.mem_filter.mp inside
    unfold retrieved cosineSimilarity
    rw [if_neg (not_not_intro (comparable entry held isScoped))]
    rfl
  have start : ({} : Selection K).Agrees := ⟨rfl, fun _ => rfl⟩
  unfold search
  rw [if_neg (by omega), if_neg (by omega), compared]
  exact congrArg Except.ok (selectFrom_eq_pick start _)

/-- A search that compares vectors of different lengths fails. -/
theorem search_eq_error
    (limitHeld : 0 ≤ request.retrievalTopKChunks)
    (messageLimitHeld : 1 ≤ request.maxSelectedChunksPerSourceMessage)
    (differ : ¬ Comparable index request) :
    search sqrt index request = .error "vector dimensions differ".toList := by
  have fails : (index.entries.filter (inScope request)).mapM (retrieved sqrt request) =
      .error "vector dimensions differ".toList := by
    refine Traversal.mapM_eq_error (fun entry _ problem failed => ?_) ?_
    · unfold retrieved cosineSimilarity at failed
      split at failed
      · cases failed
        rfl
      · cases failed
    · unfold Comparable at differ
      push Not at differ
      obtain ⟨entry, held, isScoped, apart⟩ := differ
      refine ⟨entry, List.mem_filter.mpr ⟨held, isScoped⟩, ?_⟩
      unfold retrieved cosineSimilarity
      rw [if_pos apart]
      rfl
  unfold search
  rw [if_neg (by omega), if_neg (by omega), fails]
  rfl

/-! ## What is selected -/

/-- What is selected is a sequence of candidates in their order. -/
private theorem picked_sublist :
    (picked sqrt index request).Sublist (candidates sqrt index request) :=
  Greedy.pick_sublist _

/-- No part is selected twice, and not too many of one message. -/
def WithinMessages (request : SearchRequest K) (chosen : List (RetrievedChunk K)) : Prop :=
  (chosen.map (·.chunk.artifactId)).Nodup ∧
    ∀ sourceId, (chosen.countP (·.chunk.sourceMessageId = sourceId) : Int) ≤
      request.maxSelectedChunksPerSourceMessage

private theorem picked_withinMessages
    (messageLimitHeld : 1 ≤ request.maxSelectedChunksPerSourceMessage) :
    WithinMessages request (picked sqrt index request) := by
  have keeps : ∀ chosen, ∀ item ∈ candidates sqrt index request,
      WithinMessages request chosen → admits request chosen item = true →
        WithinMessages request (chosen ++ [item]) := by
    rintro chosen item - ⟨distinct, perMessage⟩ admitted
    simp only [admits, Bool.and_eq_true, Bool.not_eq_true', decide_eq_false_iff_not,
      decide_eq_true_eq] at admitted
    obtain ⟨unseen, room⟩ := admitted
    constructor
    · rw [List.map_append, List.nodup_append']
      refine ⟨distinct, List.nodup_singleton _, fun artifactId seen isItem => unseen ?_⟩
      rwa [List.mem_singleton.mp isItem] at seen
    · intro sourceId
      rw [List.countP_append, List.countP_singleton]
      by_cases same : item.chunk.sourceMessageId = sourceId
      · subst same
        rw [if_pos (decide_eq_true rfl)]
        omega
      · rw [if_neg (by rwa [decide_eq_true_eq]), Nat.add_zero]
        exact perMessage sourceId
  refine Greedy.pick_invariant keeps ⟨List.nodup_nil, fun _ => ?_⟩
  rw [List.countP_nil]
  omega

/-- An eligible entry that is left out is preceded by results that leave no room for it. -/
private theorem picked_leftOut
    {entry : VectorizedChunk K}
    (held : entry ∈ index.entries)
    (eligible : Eligible request (resultOf sqrt request entry)) :
    let result := resultOf sqrt request entry
    let before := preceding (picked sqrt index request) result
    result ∈ picked sqrt index request ∨
      request.retrievalTopKChunks ≤ before.length ∨
      request.maxSelectedChunksPerSourceMessage ≤
        before.countP (·.chunk.sourceMessageId = entry.chunk.sourceMessageId) ∨
      ∃ earlier ∈ before, earlier.chunk.artifactId = entry.chunk.artifactId := by
  intro result before
  have isCandidate : result ∈ candidates sqrt index request :=
    (mem_candidates result).mpr ⟨eligible, entry, held, rfl⟩
  have orLeftOut : result ∈ picked sqrt index request ∨
      ∃ chosen, chosen <+: picked sqrt index request ∧
        (∀ earlier ∈ chosen, resultKey earlier ≤ resultKey result) ∧
        (admits request chosen result = false ∨ isFull request chosen = true) :=
    Greedy.mem_pick_or_leftOut candidates_sorted (fun _ none => by cases none) isCandidate
  rcases orLeftOut with selected | ⟨chosen, isPrefix, precedes, refused⟩
  · exact Or.inl selected
  right
  have precede : chosen.Sublist before := by
    have inOrder := isPrefix.sublist.filter fun earlier => resultKey earlier ≤ resultKey result
    rwa [List.filter_eq_self.mpr fun earlier inChosen =>
      decide_eq_true (precedes earlier inChosen)] at inOrder
  rcases refused with notAdmitted | isFull
  · right
    simp only [admits, Bool.and_eq_false_iff, Bool.not_eq_false', decide_eq_true_eq,
      decide_eq_false_iff_not, not_lt] at notAdmitted
    rcases notAdmitted with seen | enough
    · obtain ⟨earlier, inChosen, same⟩ := List.mem_map.mp seen
      exact Or.inr ⟨earlier, precede.subset inChosen, same⟩
    · have counted := precede.countP_le
        (p := fun earlier => earlier.chunk.sourceMessageId = entry.chunk.sourceMessageId)
      exact Or.inl (enough.trans (by exact_mod_cast counted))
  · left
    have counted := precede.length_le
    have reached := of_decide_eq_true isFull
    omega

/-- Nothing but the number of results can go wrong. -/
theorem greedyMaximal_iff_atMost
    (limitHeld : 0 ≤ request.retrievalTopKChunks)
    (messageLimitHeld : 1 ≤ request.maxSelectedChunksPerSourceMessage)
    (comparable : Comparable index request) :
    GreedyMaximal sqrt index request (picked sqrt index request) ↔
      ((picked sqrt index request).length : Int) ≤ request.retrievalTopKChunks := by
  refine ⟨GreedyMaximal.atMost, fun atMost => ?_⟩
  obtain ⟨distinct, perMessage⟩ := picked_withinMessages messageLimitHeld
  refine ⟨atMost, perMessage, distinct, fun result inResults =>
    (mem_candidates result).mp (picked_sublist.subset inResults),
    candidates_sorted.sublist picked_sublist, fun other rearranged apart => ?_,
    fun entry held eligible => picked_leftOut held eligible⟩
  unfold picked
  rw [← candidates_eq_of_perm rearranged apart]
  exact search_eq limitHeld messageLimitHeld fun entry held =>
    comparable entry (rearranged.mem_iff.mp held)

/-- There are too many results only when none is wanted and there is a candidate. -/
theorem picked_atMost_iff
    (limitHeld : 0 ≤ request.retrievalTopKChunks)
    (messageLimitHeld : 1 ≤ request.maxSelectedChunksPerSourceMessage) :
    ((picked sqrt index request).length : Int) ≤ request.retrievalTopKChunks ↔
      1 ≤ request.retrievalTopKChunks ∨ candidates sqrt index request = [] := by
  constructor
  · intro atMost
    by_contra! wrong
    obtain ⟨noneWanted, some⟩ := wrong
    obtain ⟨first, rest, isFirst⟩ := List.exists_cons_of_ne_nil some
    have admitted : admits request [] first = true := by
      simp only [admits, List.map_nil, List.not_mem_nil, decide_false, Bool.not_false,
        Bool.true_and, List.countP_nil]
      exact decide_eq_true (by omega)
    have taken : [first] <+: picked sqrt index request := by
      unfold picked
      rw [isFirst, Greedy.pick, if_pos admitted]
      split
      · exact List.prefix_rfl
      · exact Greedy.prefix_pick _ _
    have := taken.length_le
    rw [List.length_singleton] at this
    omega
  · rintro (wanted | none)
    · have within : (picked sqrt index request).length ≤ request.retrievalTopKChunks.toNat := by
        refine Greedy.length_pick_le (fun chosen notFull => ?_) ?_ _
        · have := of_decide_eq_false notFull
          omega
        · rw [List.length_nil]
          omega
      omega
    · unfold picked
      rw [none]
      exact limitHeld

/-- A search with valid limits compares only vectors of one length, and keeps what it
promises exactly when a result is wanted or no entry is eligible. -/
theorem search_greedyMaximal_iff
    (sqrt : K → K)
    (index : ExactMemoryIndex K)
    (request : SearchRequest K)
    (limitHeld : 0 ≤ request.retrievalTopKChunks)
    (messageLimitHeld : 1 ≤ request.maxSelectedChunksPerSourceMessage) :
    ¬ Comparable index request ∧
        search sqrt index request = .error "vector dimensions differ".toList ∨
      ∃ results, search sqrt index request = .ok results ∧
        (GreedyMaximal sqrt index request results ↔
          1 ≤ request.retrievalTopKChunks ∨
            ∀ entry ∈ index.entries, ¬ Eligible request (resultOf sqrt request entry)) := by
  by_cases comparable : Comparable index request
  · refine Or.inr ⟨_, search_eq limitHeld messageLimitHeld comparable, ?_⟩
    rw [greedyMaximal_iff_atMost limitHeld messageLimitHeld comparable,
      picked_atMost_iff limitHeld messageLimitHeld, List.eq_nil_iff_forall_not_mem]
    refine or_congr_right ⟨fun none entry held eligible => ?_, fun none result inside => ?_⟩
    · exact none _ ((mem_candidates _).mpr ⟨eligible, entry, held, rfl⟩)
    · obtain ⟨eligible, entry, held, rfl⟩ := (mem_candidates result).mp inside
      exact none entry held eligible
  · exact Or.inl ⟨comparable, search_eq_error limitHeld messageLimitHeld comparable⟩

/-! ## Two searches -/

/-- A part of the first message of a conversation. -/
def sampleChunk (artifactId : Str) (chunkOrdinal : Int) : MemoryChunk where
  artifactId
  tenantId := "tenant".toList
  conversationId := "conversation".toList
  sourceMessageId := "message".toList
  sourceRole := "user".toList
  sourceSequence := 1
  chunkOrdinal
  startOffset := 0
  endOffset := 4
  content := "text".toList
  sourceHash := []
  embeddingInputHash := []
  indexVersion := "v1".toList

/-- Two parts of one message. -/
def sampleIndex : ExactMemoryIndex ℚ where
  entries := [⟨sampleChunk "far".toList 0, [-1]⟩, ⟨sampleChunk "near".toList 1, [1]⟩]
  dimensions := by decide

/-- A search for one part of each message. -/
def sampleRequest (retrievalTopKChunks : Int) : SearchRequest ℚ where
  queryVector := [1]
  tenantId := "tenant".toList
  conversationId := "conversation".toList
  indexVersion := "v1".toList
  excludedSourceMessageIds := []
  similarityThreshold := none
  retrievalTopKChunks
  maxSelectedChunksPerSourceMessage := 1

/-- The square root of one is one. -/
def sampleSqrt (value : ℚ) : ℚ := value

/-- When two parts are wanted, the second one of the message is left out. -/
theorem search_greedyMaximal_two :
    search sampleSqrt sampleIndex (sampleRequest 2) =
        .ok [⟨sampleChunk "near".toList 1, 1⟩] ∧
      GreedyMaximal sampleSqrt sampleIndex (sampleRequest 2)
        [⟨sampleChunk "near".toList 1, 1⟩] := by
  have ran : search sampleSqrt sampleIndex (sampleRequest 2) =
      .ok [⟨sampleChunk "near".toList 1, 1⟩] := by decide +kernel
  refine ⟨ran, ?_⟩
  rcases search_greedyMaximal_iff sampleSqrt sampleIndex (sampleRequest 2) (by decide)
    (by decide) with ⟨_, failed⟩ | ⟨results, found, keeps⟩
  · rw [ran] at failed
    cases failed
  · rw [ran] at found
    cases found
    exact keeps.mpr (Or.inl (by decide))

/-- When none is wanted, one is found. -/
theorem not_search_greedyMaximal :
    search sampleSqrt sampleIndex (sampleRequest 0) =
        .ok [⟨sampleChunk "near".toList 1, 1⟩] ∧
      ¬GreedyMaximal sampleSqrt sampleIndex (sampleRequest 0)
        [⟨sampleChunk "near".toList 1, 1⟩] := by
  refine ⟨by decide +kernel, fun keeps => ?_⟩
  have : ¬((1 : Int) ≤ 0) := by decide
  exact this keeps.atMost

end ExactMemoryIndex

/-! ## Estimated tokens -/

open Text

/-- The estimated number of tokens of a text. -/
def estimatedTokens (text : Str) : Nat :=
  if text.isEmpty then 0 else max 1 ((utf8Length text + 3) / 4)

/-- The estimate is a quarter of the bytes, rounded up. -/
theorem estimatedTokens_eq (text : Str) : estimatedTokens text = (utf8Length text + 3) / 4 := by
  cases text with
  | nil => rfl
  | cons c rest =>
      have := c.utf8Size_pos
      rw [estimatedTokens, if_neg (by rw [List.isEmpty_cons]; exact Bool.false_ne_true),
        utf8Length_cons]
      omega

/-- A text is within a budget when its bytes are within four times as many. -/
theorem estimatedTokens_le_iff (text : Str) (budget : Int) :
    (estimatedTokens text : Int) ≤ budget ↔ (utf8Length text : Int) ≤ 4 * budget := by
  rw [estimatedTokens_eq]
  omega

end Recall
end ChatPlatform
