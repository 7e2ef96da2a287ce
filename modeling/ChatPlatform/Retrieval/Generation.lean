import ChatPlatform.Foundation.KeySort
import ChatPlatform.Foundation.Traversal
import ChatPlatform.Prompt.Context
import ChatPlatform.Retrieval.Rankings

/-!
# Retrieved documents for the generation

The augmentor waits for the retrieval pipeline and cuts its chunks to sources: in the
order of their ranks, each to a number of characters, as many as fit a number of
sources and a number of characters for all of them. What it makes is always within the
three limits, leaves nothing out without need, and passes the checks of the renderer,
also after the last sources were dropped.
-/

namespace ChatPlatform
namespace Retrieval

/-- How the bounded wait for the pipeline ends. -/
inductive RetrievalEnd
  /-- The pipeline returned. -/
  | finished (result : PipelineResult)
  /-- The time was over, or the pipeline raised a timeout of its own. -/
  | timedOut
  /-- The pipeline raised another exception. -/
  | failed
  deriving DecidableEq

/-- The augmentor: the pipeline it waits for and its three limits. -/
structure RagGenerationAugmentor where
  /-- The wait for the pipeline, by identifier and query of the request. -/
  pipeline : Uuid → Str → RetrievalEnd
  /-- Number of sources. -/
  maxSources : Int
  /-- Number of characters of one source. -/
  maxSourceChars : Int
  /-- Number of characters of all sources. -/
  maxContextChars : Int

namespace RagGenerationAugmentor

variable (augmentor : RagGenerationAugmentor)

/-- The source made of a chunk with the characters that remain. -/
def sourceOf (kept : Nat) (remaining : Int) (ranked : RankedChunk) : RagSource :=
  let content := leading ranked.chunk.text (min augmentor.maxSourceChars remaining)
  { citation := citationMarker (kept + 1)
    documentId := ranked.chunk.documentId
    chunkId := ranked.chunk.chunkId
    rank := ranked.rank
    content
    truncated := decide (content.length < ranked.chunk.text.length) }

/-- The loop over the chunks in the order of their ranks. -/
def retain
    (retained : List RagSource)
    (remaining : Int) : List RankedChunk → List RagSource
  | [] => retained
  | ranked :: rest =>
      if augmentor.maxSources ≤ retained.length ∨ remaining ≤ 0 then retained
      else if ranked.chunk.text = [] then retain retained remaining rest
      else
        let source := augmentor.sourceOf retained.length remaining ranked
        if source.content = [] then retain retained remaining rest
        else retain (retained ++ [source]) (remaining - source.content.length) rest

/-- The sources of a result of the pipeline. -/
def sourcesOf (result : PipelineResult) : List RagSource :=
  augmentor.retain [] augmentor.maxContextChars
    (result.chunks.insertionSort fun left right => left.rank ≤ right.rank)

/-- Retrieve for a request and bound what was found. -/
def augment (requestId : Uuid) (query : Str) : RagGenerationContext :=
  match augmentor.pipeline requestId query with
  | .timedOut => { outcome := some .timeout }
  | .failed => { outcome := some .error }
  | .finished result =>
      let sources := augmentor.sourcesOf result
      { sources
        outcome := some (if sources = [] then .empty else .ok) }

end RagGenerationAugmentor

/-! ## Bounded sources -/

/-- Number of characters of all sources. -/
def contentTotal (sources : List RagSource) : Nat :=
  (sources.map (·.content.length)).sum

/-- A source is cut from a chunk: a non-empty prefix of its text of a bounded number of
characters, marked when it is a strict one. -/
structure CutFrom (maxSourceChars : Int) (ranked : RankedChunk) (source : RagSource) :
    Prop where
  /-- It names the document of the chunk. -/
  document : source.documentId = ranked.chunk.documentId
  /-- It names the chunk. -/
  passage : source.chunkId = ranked.chunk.chunkId
  /-- It has the rank of the chunk. -/
  rank : source.rank = ranked.rank
  /-- It is not empty. -/
  nonempty : source.content ≠ []
  /-- It is a prefix of the text. -/
  isPrefix : source.content <+: ranked.chunk.text
  /-- It is within the limit. -/
  bounded : (source.content.length : Int) ≤ maxSourceChars
  /-- It is marked exactly when something was cut off. -/
  marked : source.truncated = true ↔ source.content ≠ ranked.chunk.text

/-- One position of a list of chunks is better ranked than another: its chunk has the
smaller rank, or the same rank and the earlier position. -/
def BetterRanked (chunks : List RankedChunk) (better worse : Nat) : Prop :=
  ∃ first second, chunks[better]? = some first ∧ chunks[worse]? = some second ∧
    (first.rank < second.rank ∨ first.rank = second.rank ∧ better < worse)

/-- What the sources made of the chunks at some positions keep to. -/
structure BoundedSources
    (augmentor : RagGenerationAugmentor)
    (chunks : List RankedChunk)
    (positions : List Nat)
    (sources : List RagSource) : Prop where
  /-- They are not more than the limit. -/
  count : (sources.length : Int) ≤ augmentor.maxSources
  /-- All together are within the limit. -/
  total : (contentTotal sources : Int) ≤ augmentor.maxContextChars
  /-- Each is cut from the chunk at its position. -/
  cuts : List.Forall₂ (fun position source => ∃ ranked, chunks[position]? = some ranked ∧
    CutFrom augmentor.maxSourceChars ranked source) positions sources
  /-- No position is used twice. -/
  distinct : positions.Nodup
  /-- The positions are in the order of the ranks. -/
  ordered : positions.Pairwise (BetterRanked chunks)
  /-- The ranks do not decrease. -/
  ranks : sources.Pairwise fun earlier later => earlier.rank ≤ later.rank
  /-- The citations are numbered without a gap. -/
  cited : sources.map (·.citation) = (List.range' 1 sources.length).map citationMarker
  /-- A chunk with a text is left out only for better ranked ones that reach a limit. -/
  omitted : ∀ position ranked, chunks[position]? = some ranked → ranked.chunk.text ≠ [] →
    position ∉ positions → (∀ kept ∈ positions, BetterRanked chunks kept position) ∧
      (augmentor.maxSources ≤ sources.length ∨
        augmentor.maxContextChars ≤ contentTotal sources)

/-! ## The loop -/

variable {F : Type} {augmentor : RagGenerationAugmentor}

/-- A run of the loop over positioned chunks, with the number of sources kept before and
the characters that remain: the chunks it uses and the sources made of them. -/
inductive Drawn (augmentor : RagGenerationAugmentor) :
    Nat → Int → List (RankedChunk × Nat) → List ((RankedChunk × Nat) × RagSource) → Prop
  /-- The chunks are at their end. -/
  | ended {kept : Nat} {remaining : Int} : Drawn augmentor kept remaining [] []
  /-- A limit is reached. -/
  | full {kept : Nat} {remaining : Int} {items : List (RankedChunk × Nat)}
      (limit : augmentor.maxSources ≤ kept ∨ remaining ≤ 0) :
      Drawn augmentor kept remaining items []
  /-- A chunk without a text is passed by. -/
  | blank {kept : Nat} {remaining : Int} {item : RankedChunk × Nat}
      {rest : List (RankedChunk × Nat)} {draws : List ((RankedChunk × Nat) × RagSource)}
      (noText : item.1.chunk.text = [])
      (others : Drawn augmentor kept remaining rest draws) :
      Drawn augmentor kept remaining (item :: rest) draws
  /-- A source is cut from a chunk. -/
  | taken {kept : Nat} {remaining : Int} {item : RankedChunk × Nat} {source : RagSource}
      {rest : List (RankedChunk × Nat)} {draws : List ((RankedChunk × Nat) × RagSource)}
      (room : kept < augmentor.maxSources)
      (within : source.content.length ≤ remaining)
      (marker : source.citation = citationMarker (kept + 1))
      (cut : CutFrom augmentor.maxSourceChars item.1 source)
      (others : Drawn augmentor (kept + 1) (remaining - source.content.length) rest draws) :
      Drawn augmentor kept remaining (item :: rest) ((item, source) :: draws)

/-- The source made of a chunk with a text is cut from it, within the characters that
remain. -/
theorem cutFrom_sourceOf
    (augmentor : RagGenerationAugmentor)
    {ranked : RankedChunk}
    {remaining : Int}
    (kept : Nat)
    (positive : 0 < augmentor.maxSourceChars)
    (remains : 0 < remaining)
    (text : ranked.chunk.text ≠ []) :
    CutFrom augmentor.maxSourceChars ranked (augmentor.sourceOf kept remaining ranked) ∧
      ((augmentor.sourceOf kept remaining ranked).content.length : Int) ≤ remaining := by
  let allowed := min augmentor.maxSourceChars remaining
  have allowedPositive : 0 < allowed := lt_min positive remains
  have content : (augmentor.sourceOf kept remaining ranked).content =
      ranked.chunk.text.take allowed.toNat := if_pos allowedPositive.le
  have length : ((augmentor.sourceOf kept remaining ranked).content.length : Int) ≤ allowed := by
    rw [content, List.length_take]
    omega
  have isPrefix : (augmentor.sourceOf kept remaining ranked).content <+:
      ranked.chunk.text := content ▸ List.take_prefix _ _
  refine ⟨⟨rfl, rfl, rfl, ?_, isPrefix, length.trans (min_le_left _ _), ?_⟩,
    length.trans (min_le_right _ _)⟩
  · rw [content]
    intro empty
    rcases List.take_eq_nil_iff.mp empty with none | noText
    · omega
    · exact text noText
  · refine decide_eq_true_iff.trans ⟨fun shorter same => ?_, fun different => ?_⟩
    · exact absurd (congrArg List.length same) shorter.ne
    · exact lt_of_le_of_ne isPrefix.length_le fun same =>
        different (isPrefix.eq_of_length same)

/-- The loop appends the sources of a run. -/
theorem exists_drawn
    (positive : 0 < augmentor.maxSourceChars)
    (items : List (RankedChunk × Nat))
    (retained : List RagSource)
    (remaining : Int) :
    ∃ draws, augmentor.retain retained remaining (items.map Prod.fst) =
        retained ++ draws.map Prod.snd ∧
      Drawn augmentor retained.length remaining items draws := by
  induction items generalizing retained remaining with
  | nil => exact ⟨[], (List.append_nil retained).symm, .ended⟩
  | cons item rest inductionHypothesis =>
      rw [List.map_cons, RagGenerationAugmentor.retain]
      dsimp only
      split_ifs with limit noText noContent
      · exact ⟨[], (List.append_nil retained).symm, .full limit⟩
      · obtain ⟨draws, loop, run⟩ := inductionHypothesis retained remaining
        exact ⟨draws, loop, .blank noText run⟩
      · obtain ⟨cut, _⟩ := cutFrom_sourceOf augmentor retained.length positive
          (not_le.mp (not_or.mp limit).2) noText
        exact absurd noContent cut.nonempty
      · obtain ⟨room, remains⟩ := not_or.mp limit
        obtain ⟨cut, within⟩ := cutFrom_sourceOf augmentor retained.length positive
          (not_le.mp remains) noText
        obtain ⟨draws, loop, run⟩ := inductionHypothesis
          (retained ++ [augmentor.sourceOf retained.length remaining item.1]) _
        rw [List.length_append, List.length_singleton] at run
        refine ⟨(item, _) :: draws, ?_, .taken (not_le.mp room) within rfl cut run⟩
        rw [loop, List.append_assoc]
        rfl

namespace Drawn

variable {kept : Nat} {remaining : Int} {items : List (RankedChunk × Nat)}
  {draws : List ((RankedChunk × Nat) × RagSource)}

/-- The used chunks come in their order, none of them twice. -/
theorem sublist (run : Drawn augmentor kept remaining items draws) :
    (draws.map Prod.fst).Sublist items := by
  induction run with
  | ended => exact .slnil
  | full => exact List.nil_sublist _
  | blank _ _ inductionHypothesis => exact inductionHypothesis.cons _
  | taken _ _ _ _ _ inductionHypothesis => exact inductionHypothesis.cons_cons _

/-- The number of sources stays within its limit. -/
theorem count
    (run : Drawn augmentor kept remaining items draws)
    (before : kept ≤ augmentor.maxSources) :
    ((kept + draws.length : Nat) : Int) ≤ augmentor.maxSources := by
  induction run with
  | ended => exact before
  | full => exact before
  | blank _ _ inductionHypothesis => exact inductionHypothesis before
  | taken room _ _ _ _ inductionHypothesis =>
      have rest := inductionHypothesis (by omega)
      rw [List.length_cons]
      omega

/-- The sources use no more than the characters that remain. -/
theorem total
    (run : Drawn augmentor kept remaining items draws)
    (before : 0 ≤ remaining) :
    (contentTotal (draws.map Prod.snd) : Int) ≤ remaining := by
  induction run with
  | ended => exact before
  | full => exact before
  | blank _ _ inductionHypothesis => exact inductionHypothesis before
  | taken _ within _ _ _ inductionHypothesis =>
      have rest := inductionHypothesis (by omega)
      simp only [contentTotal, List.map_cons, List.sum_cons] at rest ⊢
      omega

/-- Each source is cut from its chunk. -/
theorem cuts (run : Drawn augmentor kept remaining items draws) :
    ∀ draw ∈ draws, CutFrom augmentor.maxSourceChars draw.1.1 draw.2 := by
  induction run with
  | ended => exact fun _ held => nomatch held
  | full => exact fun _ held => nomatch held
  | blank _ _ inductionHypothesis => exact inductionHypothesis
  | taken _ _ _ cut _ inductionHypothesis =>
      exact List.forall_mem_cons.mpr ⟨cut, inductionHypothesis⟩

/-- The citations are numbered from the sources kept before. -/
theorem citations (run : Drawn augmentor kept remaining items draws) :
    draws.map (·.2.citation) =
      (List.range' (kept + 1) draws.length).map citationMarker := by
  induction run with
  | ended => rfl
  | full => rfl
  | blank _ _ inductionHypothesis => exact inductionHypothesis
  | taken _ _ marker _ _ inductionHypothesis =>
      rw [List.map_cons, inductionHypothesis, List.length_cons, List.range'_succ,
        List.map_cons, marker]

/-- Where no text is left out, there was none, or a limit was reached before: the used
chunks are then all before the one left out. -/
theorem omitted
    (run : Drawn augmentor kept remaining items draws)
    {Before : RankedChunk × Nat → RankedChunk × Nat → Prop}
    (ordered : items.Pairwise Before)
    {item : RankedChunk × Nat}
    (held : item ∈ items)
    (text : item.1.chunk.text ≠ [])
    (unused : item ∉ draws.map Prod.fst) :
    (∀ used ∈ draws.map Prod.fst, Before used item) ∧
      (augmentor.maxSources ≤ (kept + draws.length : Nat) ∨
        remaining ≤ contentTotal (draws.map Prod.snd)) := by
  induction run with
  | ended => exact nomatch held
  | full limit => exact ⟨fun _ used => (nomatch used), limit⟩
  | blank noText _ inductionHypothesis =>
      rcases List.mem_cons.mp held with rfl | inRest
      · exact absurd noText text
      · exact inductionHypothesis (List.pairwise_cons.mp ordered).2 inRest unused
  | taken _ _ _ _ _ inductionHypothesis =>
      rw [List.map_cons, List.mem_cons, not_or] at unused
      obtain ⟨different, unusedRest⟩ := unused
      obtain ⟨firstBefore, restOrdered⟩ := List.pairwise_cons.mp ordered
      have inRest := (List.mem_cons.mp held).resolve_left different
      obtain ⟨before, limit⟩ := inductionHypothesis restOrdered inRest unusedRest
      refine ⟨List.forall_mem_cons.mpr ⟨firstBefore _ inRest, before⟩, ?_⟩
      rw [List.length_cons]
      simp only [contentTotal, List.map_cons, List.sum_cons] at limit ⊢
      omega

end Drawn

/-! ## The sources of a request -/

/-- Numbered sources with positive ranks are cited by their positions. -/
theorem citedFrom_of_citations
    {start : Nat}
    {sources : List RagSource}
    (numbered : sources.map (·.citation) =
      (List.range' start sources.length).map citationMarker)
    (positive : ∀ source ∈ sources, 1 ≤ source.rank) : CitedFrom start sources := by
  induction sources generalizing start with
  | nil => trivial
  | cons source rest inductionHypothesis =>
      rw [List.length_cons, List.range'_succ, List.map_cons, List.map_cons] at numbered
      obtain ⟨marker, others⟩ := List.cons_eq_cons.mp numbered
      obtain ⟨first, restPositive⟩ := List.forall_mem_cons.mp positive
      exact ⟨marker, first, inductionHypothesis others restPositive⟩

/-- A position is not better ranked than itself. -/
theorem BetterRanked.ne
    {chunks : List RankedChunk}
    {better worse : Nat}
    (before : BetterRanked chunks better worse) : better ≠ worse := by
  rintro rfl
  obtain ⟨first, second, here, there, smaller | ⟨_, earlier⟩⟩ := before
  · rw [Option.some.inj (here.symm.trans there)] at smaller
    exact lt_irrefl _ smaller
  · exact lt_irrefl _ earlier

/-- The stable order of positioned chunks is that of their positions. -/
theorem betterRanked_of_stablyBefore
    {chunks : List RankedChunk}
    {left right : RankedChunk × Nat}
    (leftHeld : left ∈ chunks.zipIdx)
    (rightHeld : right ∈ chunks.zipIdx)
    (before : KeySort.StablyBefore RankedChunk.rank left right) :
    BetterRanked chunks left.2 right.2 :=
  ⟨left.1, right.1, List.mem_zipIdx_iff_getElem?.mp leftHeld,
    List.mem_zipIdx_iff_getElem?.mp rightHeld, before⟩

/-- The sources of a run over the chunks in the order of their ranks are bounded. -/
theorem Drawn.bounded
    {chunks : List RankedChunk}
    {draws : List ((RankedChunk × Nat) × RagSource)}
    (sourcesPositive : 0 < augmentor.maxSources)
    (contextPositive : 0 < augmentor.maxContextChars)
    (run : Drawn augmentor 0 augmentor.maxContextChars
      (chunks.zipIdx.insertionSort fun left right => left.1.rank ≤ right.1.rank) draws) :
    BoundedSources augmentor chunks (draws.map (·.1.2)) (draws.map Prod.snd) := by
  have stable := KeySort.insertionSort_zipIdx_stable RankedChunk.rank chunks 0
  have drawnStable : draws.Pairwise fun earlier later =>
      KeySort.StablyBefore RankedChunk.rank earlier.1 later.1 :=
    List.pairwise_map.mp (stable.sublist run.sublist)
  have positioned : ∀ used ∈ draws.map Prod.fst, used ∈ chunks.zipIdx := fun used held =>
    (List.mem_insertionSort _).mp (run.sublist.subset held)
  have drawnPositioned : ∀ draw ∈ draws, draw.1 ∈ chunks.zipIdx := fun draw held =>
    positioned draw.1 (List.mem_map_of_mem held)
  have drawnOrdered : draws.Pairwise fun earlier later =>
      BetterRanked chunks earlier.1.2 later.1.2 :=
    drawnStable.imp_of_mem fun earlierHeld laterHeld =>
      betterRanked_of_stablyBefore (drawnPositioned _ earlierHeld) (drawnPositioned _ laterHeld)
  have ordered : (draws.map (·.1.2)).Pairwise (BetterRanked chunks) :=
    List.pairwise_map.mpr drawnOrdered
  refine
    { count := ?_
      total := run.total contextPositive.le
      cuts := ?_
      distinct := ordered.imp BetterRanked.ne
      ordered := ordered
      ranks := ?_
      cited := ?_
      omitted := ?_ }
  · have count := run.count (by omega)
    rw [List.length_map]
    omega
  · rw [List.forall₂_map_left_iff, List.forall₂_map_right_iff, List.forall₂_same]
    exact fun draw held => ⟨draw.1.1,
      List.mem_zipIdx_iff_getElem?.mp (drawnPositioned draw held), run.cuts draw held⟩
  · refine List.pairwise_map.mpr (drawnStable.imp_of_mem ?_)
    intro earlier later earlierHeld laterHeld before
    rw [(run.cuts earlier earlierHeld).rank, (run.cuts later laterHeld).rank]
    rcases before with smaller | ⟨same, _⟩
    · exact Int.ofNat_le.mpr smaller.le
    · exact Int.ofNat_le.mpr same.le
  · rw [List.map_map, List.length_map]
    exact run.citations
  · intro position ranked there text unused
    have item : (ranked, position) ∈ chunks.zipIdx := List.mem_zipIdx_iff_getElem?.mpr there
    have unusedItem : (ranked, position) ∉ draws.map Prod.fst := by
      intro held
      obtain ⟨draw, drawHeld, same⟩ := List.mem_map.mp held
      exact unused (List.mem_map.mpr ⟨draw, drawHeld, congrArg Prod.snd same⟩)
    obtain ⟨before, limit⟩ := run.omitted stable ((List.mem_insertionSort _).mpr item) text
      unusedItem
    refine ⟨?_, ?_⟩
    · intro kept held
      obtain ⟨draw, drawHeld, rfl⟩ := List.mem_map.mp held
      exact betterRanked_of_stablyBefore (drawnPositioned draw drawHeld) item
        (before draw.1 (List.mem_map_of_mem drawHeld))
    · rwa [List.length_map, ← Nat.zero_add draws.length]

/-- The sources of a result are bounded. -/
theorem exists_boundedSources
    (sourcesPositive : 0 < augmentor.maxSources)
    (charsPositive : 0 < augmentor.maxSourceChars)
    (contextPositive : 0 < augmentor.maxContextChars)
    (result : PipelineResult) :
    ∃ positions, BoundedSources augmentor result.chunks positions
      (augmentor.sourcesOf result) := by
  obtain ⟨draws, loop, run⟩ := exists_drawn charsPositive
    (result.chunks.zipIdx.insertionSort fun left right => left.1.rank ≤ right.1.rank) []
    augmentor.maxContextChars
  rw [KeySort.map_insertionSort_zipIdx RankedChunk.rank] at loop
  refine ⟨draws.map (·.1.2), ?_⟩
  rw [RagGenerationAugmentor.sourcesOf, loop, List.nil_append]
  exact run.bounded sourcesPositive contextPositive

/-- Bounded sources of chunks with positive ranks are cited by their positions. -/
theorem BoundedSources.citedFrom
    {chunks : List RankedChunk}
    {positions : List Nat}
    {sources : List RagSource}
    (bounded : BoundedSources augmentor chunks positions sources)
    (ranked : ∀ chunk ∈ chunks, 1 ≤ chunk.rank) : CitedFrom 1 sources := by
  refine citedFrom_of_citations bounded.cited ?_
  intro source held
  obtain ⟨position, _, chunk, there, cut⟩ := Traversal.exists_left_of_mem bounded.cuts held
  rw [cut.rank]
  exact Int.ofNat_le.mpr (ranked chunk (List.mem_of_getElem? there))

/-- The wait for a pipeline whose time may be over first. -/
def RetrievalPipeline.awaited
    [FloatOps F]
    (shown : Value F → Str)
    (pipeline : RetrievalPipeline F)
    (expires : Uuid → Str → Bool)
    (requestId : Uuid)
    (query : Str) : RetrievalEnd :=
  if expires requestId query then .timedOut
  else
    match pipeline.retrieve shown requestId query none with
    | .ok result => .finished result
    | .error _ => .failed

/-- The pipeline ranks its chunks from one. -/
theorem RetrievalPipeline.rank_positive_of_awaited
    [FloatOps F]
    {shown : Value F → Str}
    {pipeline : RetrievalPipeline F}
    {expires : Uuid → Str → Bool}
    {requestId : Uuid}
    {query : Str}
    {result : PipelineResult}
    (finished : pipeline.awaited shown expires requestId query = .finished result) :
    ∀ chunk ∈ result.chunks, 1 ≤ chunk.rank := by
  unfold awaited at finished
  split at finished
  · cases finished
  split at finished
  · rename_i other returned
    cases finished
    intro chunk held
    have rank : chunk.rank ∈ List.range' 1 result.chunks.length :=
      ranks_of_retrieve returned ▸ List.mem_map_of_mem held
    exact (List.mem_range'_1.mp rank).1
  · cases finished

/-- Over the retrieval pipeline, the sources of every request are cited by their
positions. -/
theorem citedFrom_augment_awaited
    [FloatOps F]
    {shown : Value F → Str}
    {pipeline : RetrievalPipeline F}
    {expires : Uuid → Str → Bool}
    (sourcesPositive : 0 < augmentor.maxSources)
    (charsPositive : 0 < augmentor.maxSourceChars)
    (contextPositive : 0 < augmentor.maxContextChars)
    (waits : augmentor.pipeline = pipeline.awaited shown expires)
    (requestId : Uuid)
    (query : Str) : CitedFrom 1 (augmentor.augment requestId query).sources := by
  unfold RagGenerationAugmentor.augment
  split
  · trivial
  · trivial
  · rename_i result finished
    rw [waits] at finished
    obtain ⟨positions, bounded⟩ :=
      exists_boundedSources sourcesPositive charsPositive contextPositive result
    exact bounded.citedFrom (RetrievalPipeline.rank_positive_of_awaited finished)

/-- What the augmentor makes of any result is within its limits, in the order of the
ranks, without a needless omission, and accepted by the renderer whatever number of last
sources is dropped. -/
theorem augment_bounded
    (sourcesPositive : 0 < augmentor.maxSources)
    (charsPositive : 0 < augmentor.maxSourceChars)
    (contextPositive : 0 < augmentor.maxContextChars)
    {requestId : Uuid}
    {query : Str}
    {result : PipelineResult}
    (finished : augmentor.pipeline requestId query = .finished result)
    (ranked : ∀ chunk ∈ result.chunks, 1 ≤ chunk.rank) :
    (∃ positions, BoundedSources augmentor result.chunks positions
      (augmentor.augment requestId query).sources) ∧
      ∀ count, 0 < count → count ≤ (augmentor.augment requestId query).sources.length →
        validatedSources (F := F) (RagGenerationContext.providerMetadata
          { sources := (augmentor.augment requestId query).sources.take count }) =
          some (((augmentor.augment requestId query).sources.take count).map
            (·.providerDict)) := by
  have sources : (augmentor.augment requestId query).sources = augmentor.sourcesOf result := by
    rw [RagGenerationAugmentor.augment, finished]
  obtain ⟨positions, bounded⟩ :=
    exists_boundedSources sourcesPositive charsPositive contextPositive result
  rw [sources]
  refine ⟨⟨positions, bounded⟩, fun count positive within => ?_⟩
  have cited := CitedFrom.of_prefix (bounded.citedFrom ranked) (List.take_prefix count _)
  refine (validatedSources_providerMetadata cited).trans (if_neg ?_)
  intro empty
  rcases List.take_eq_nil_iff.mp empty with none | noSources
  · omega
  · rw [noSources, List.length_nil] at within
    omega

/-- Three chunks, the second of them without a text. -/
def cutChunks : List RankedChunk :=
  [⟨⟨⟨1⟩, ⟨1⟩, "retrieval".toList⟩, 2⟩, ⟨⟨⟨2⟩, ⟨1⟩, []⟩, 1⟩,
    ⟨⟨⟨3⟩, ⟨2⟩, "pipeline".toList⟩, 1⟩]

/-- A result with the three chunks. -/
def cutResult (requestId : Uuid) (query : Str) : PipelineResult where
  requestId
  query
  rewrittenQuery := query
  chunks := cutChunks
  fallbackTriggered := false
  evaluatorTriggered := false
  evaluatorVerdict := none

/-- An augmentor with small limits whose pipeline finds the three chunks. -/
def cutAugmentor : RagGenerationAugmentor where
  pipeline := fun requestId query => .finished (cutResult requestId query)
  maxSources := 2
  maxSourceChars := 6
  maxContextChars := 10

/-- Two sources of at most ten characters are made of the three chunks. -/
theorem augment_bounded_cutChunks :
    (∃ positions, BoundedSources cutAugmentor cutChunks positions
      (cutAugmentor.augment ⟨7⟩ "query".toList).sources) ∧
      ∀ count, 0 < count →
        count ≤ (cutAugmentor.augment ⟨7⟩ "query".toList).sources.length →
        validatedSources (F := Rat) (RagGenerationContext.providerMetadata
          { sources := (cutAugmentor.augment ⟨7⟩ "query".toList).sources.take count }) =
          some (((cutAugmentor.augment ⟨7⟩ "query".toList).sources.take count).map
            (·.providerDict)) := by
  have finished : cutAugmentor.pipeline ⟨7⟩ "query".toList =
      .finished (cutResult ⟨7⟩ "query".toList) := rfl
  exact augment_bounded (by decide) (by decide) (by decide) finished (by decide)

example : (cutAugmentor.augment ⟨7⟩ "query".toList).sources =
    [⟨"S1".toList, ⟨2⟩, ⟨3⟩, 1, "pipeli".toList, true⟩,
      ⟨"S2".toList, ⟨1⟩, ⟨1⟩, 2, "retr".toList, true⟩] := by
  decide +kernel

end Retrieval
end ChatPlatform
