import ChatPlatform.Foundation.Queries
import ChatPlatform.Foundation.Text
import Mathlib.Algebra.Order.Field.Rat
import Mathlib.Data.Prod.Lex
import Mathlib.Tactic.Positivity

/-!
# Hybrid search

Two legs rank the passages, one by the distance of their embeddings and one by their match
with the words of the query. Each keeps its first passages, a full outer join fuses the
legs, and the passages are ordered by the sum of their reciprocal ranks. Every order of the
query has the identifier of the passage as its last key, so that of all the results the
query language permits there is only one.
-/

namespace ChatPlatform
namespace Retrieval
namespace HybridSearch

open Queries

/-- The constant of the reciprocal rank fusion. -/
def rrfK : Nat := 60

/-- A stored passage. -/
structure Chunk (I D M E S : Type) where
  /-- Identifier of the passage. -/
  id : I
  /-- Identifier of its document. -/
  documentId : D
  /-- Text of the passage. -/
  text : Str
  /-- Where it stands in its document. -/
  metadata : Option M
  /-- Embedding of the passage. -/
  embedding : E
  /-- Words of the passage. -/
  searchVector : S

/-- What the query computes of a passage. -/
structure Query (E S Distance Rank : Type) where
  /-- Distance of an embedding from that of the query. -/
  distance : E → Distance
  /-- Whether the words match those of the query. -/
  isMatch : S → Bool
  /-- How well they match. -/
  tsRank : S → Rank

/-- A row of a leg. -/
structure LegRow (I D M : Type) where
  /-- Identifier of the passage. -/
  id : I
  /-- Identifier of its document. -/
  documentId : D
  /-- Text of the passage. -/
  text : Str
  /-- Where it stands in its document. -/
  metadata : Option M
  /-- Its rank in the leg, from one. -/
  rank : Nat
  deriving DecidableEq

/-- A row of the result. -/
structure ScoredChunk (I D M : Type) where
  /-- Identifier of the passage. -/
  chunkId : I
  /-- Identifier of its document. -/
  documentId : D
  /-- Text of the passage. -/
  text : Str
  /-- Where it stands in its document. -/
  metadata : Option M
  /-- Its score. -/
  score : ℚ
  deriving DecidableEq

variable {I D M E S Distance Rank : Type}

/-- The share of a rank in the score. -/
def share (rank : Nat) : ℚ := 1 / ((rrfK + rank : Nat) : ℚ)

/-- A passage with its number as a row of a leg. -/
def legRow (numbered : Chunk I D M E S × Nat) : LegRow I D M where
  id := numbered.1.id
  documentId := numbered.1.documentId
  text := numbered.1.text
  metadata := numbered.1.metadata
  rank := numbered.2

/-- A row of the join, with the columns of the side that has them and the shares of both. -/
def fuse : JoinedRow (LegRow I D M) (LegRow I D M) → ScoredChunk I D M
  | .both semantic keyword =>
      { chunkId := semantic.id, documentId := semantic.documentId, text := semantic.text
        metadata := semantic.metadata.or keyword.metadata
        score := share semantic.rank + share keyword.rank }
  | .leftOnly semantic =>
      { chunkId := semantic.id, documentId := semantic.documentId, text := semantic.text
        metadata := semantic.metadata, score := share semantic.rank + 0 }
  | .rightOnly keyword =>
      { chunkId := keyword.id, documentId := keyword.documentId, text := keyword.text
        metadata := keyword.metadata, score := 0 + share keyword.rank }

section Search

variable [LinearOrder I] [LinearOrder Distance] [LinearOrder Rank]
  (query : Query E S Distance Rank) (topK : Nat)

/-- The key of the semantic leg. -/
def semanticKey (chunk : Chunk I D M E S) : Distance ×ₗ I :=
  toLex (query.distance chunk.embedding, chunk.id)

/-- The key of the keyword leg: best match first. -/
def keywordKey (chunk : Chunk I D M E S) : Rankᵒᵈ ×ₗ I :=
  toLex (OrderDual.toDual (query.tsRank chunk.searchVector), chunk.id)

/-- The key of the result: highest score first. -/
def fusedKey (row : ScoredChunk I D M) : ℚᵒᵈ ×ₗ I :=
  toLex (OrderDual.toDual row.score, row.chunkId)

/-- What a leg may be: rows numbered in the order of the leg's key, and the first of them
in that order. -/
def Leg
    {Key : Type}
    [LinearOrder Key]
    (key : Chunk I D M E S → Key)
    (topK : Nat)
    (chunks : List (Chunk I D M E S))
    (leg : List (LegRow I D M)) : Prop :=
  ∃ limited, (∃ numbered, NumberedBy key chunks numbered ∧
      LimitedBy (fun found => key found.1) topK numbered limited) ∧
    leg = limited.map legRow

/-- The passages that match the query. -/
def matching (chunks : List (Chunk I D M E S)) : List (Chunk I D M E S) :=
  chunks.filter fun chunk => query.isMatch chunk.searchVector

/-- The results that the query permits over the visible passages. -/
def Permitted (chunks : List (Chunk I D M E S)) (result : List (ScoredChunk I D M)) : Prop :=
  ∃ semantic keyword, Leg (semanticKey query) topK chunks semantic ∧
    Leg (keywordKey query) topK (matching query chunks) keyword ∧
    ∃ joined : List (JoinedRow (LegRow I D M) (LegRow I D M)),
      joined.Perm (fullOuterJoin LegRow.id LegRow.id semantic keyword) ∧
      LimitedBy fusedKey topK (joined.map fuse) result

/-! ## Scores -/

/-- Whether the first passages of the semantic leg contain a passage. -/
def InSemantic (chunks : List (Chunk I D M E S)) (chunk : Chunk I D M E S) : Prop :=
  rankOf (semanticKey query) chunks chunk ≤ topK

/-- Whether the first passages of the keyword leg contain a passage. -/
def InKeyword (chunks : List (Chunk I D M E S)) (chunk : Chunk I D M E S) : Prop :=
  query.isMatch chunk.searchVector = true ∧
    rankOf (keywordKey query) (matching query chunks) chunk ≤ topK

instance (chunks : List (Chunk I D M E S)) (chunk : Chunk I D M E S) :
    Decidable (InSemantic query topK chunks chunk) :=
  inferInstanceAs (Decidable (rankOf (semanticKey query) chunks chunk ≤ topK))

instance (chunks : List (Chunk I D M E S)) (chunk : Chunk I D M E S) :
    Decidable (InKeyword query topK chunks chunk) :=
  inferInstanceAs (Decidable (query.isMatch chunk.searchVector = true ∧
    rankOf (keywordKey query) (matching query chunks) chunk ≤ topK))

/-- The shares of a passage in the legs whose first passages contain it. -/
def fusedScore (chunks : List (Chunk I D M E S)) (chunk : Chunk I D M E S) : ℚ :=
  (if InSemantic query topK chunks chunk then
    share (rankOf (semanticKey query) chunks chunk) else 0) +
  (if InKeyword query topK chunks chunk then
    share (rankOf (keywordKey query) (matching query chunks) chunk) else 0)

/-- A passage as it is returned. -/
def scored (chunks : List (Chunk I D M E S)) (chunk : Chunk I D M E S) :
    ScoredChunk I D M where
  chunkId := chunk.id
  documentId := chunk.documentId
  text := chunk.text
  metadata := chunk.metadata
  score := fusedScore query topK chunks chunk

/-! ## Legs -/

variable {query topK} {chunks : List (Chunk I D M E S)}

/-- The first passages in the order of a key, with their ranks. -/
def legOf
    {Key : Type}
    [LinearOrder Key]
    (key : Chunk I D M E S → Key)
    (topK : Nat)
    (chunks : List (Chunk I D M E S)) : List (LegRow I D M) :=
  (((sortBy key chunks).take topK).map (ranked key chunks)).map legRow

section Legs

omit [LinearOrder I]

variable {Key : Type} [LinearOrder Key] {key : Chunk I D M E S → Key}

theorem leg_iff
    (distinct : (chunks.map key).Nodup)
    (leg : List (LegRow I D M)) : Leg key topK chunks leg ↔ leg = legOf key topK chunks := by
  unfold Leg legOf
  simp only [limited_numbered_iff distinct topK, exists_eq_left]

variable (topK) in
/-- A row of a leg is one of its first passages. -/
theorem mem_legOf
    (distinct : (chunks.map key).Nodup)
    (row : LegRow I D M) :
    row ∈ legOf key topK chunks ↔ ∃ chunk ∈ chunks, rankOf key chunks chunk ≤ topK ∧
      row = legRow (ranked key chunks chunk) := by
  unfold legOf
  rw [List.map_map, List.mem_map]
  constructor
  · rintro ⟨chunk, taken, rfl⟩
    obtain ⟨held, within⟩ := (mem_take_sortBy distinct topK chunk).mp taken
    exact ⟨chunk, held, within, rfl⟩
  · rintro ⟨chunk, held, within, rfl⟩
    exact ⟨chunk, (mem_take_sortBy distinct topK chunk).mpr ⟨held, within⟩, rfl⟩

variable (key topK) in
/-- A leg has no passage twice. -/
theorem legOf_nodup (distinctIds : (chunks.map (·.id)).Nodup) :
    ((legOf key topK chunks).map (·.id)).Nodup := by
  unfold legOf
  rw [List.map_map, List.map_map]
  exact (((sortBy_perm key chunks).map (·.id)).nodup_iff.mpr distinctIds).sublist
    ((List.take_sublist topK _).map _)

end Legs

omit [LinearOrder I] in
/-- Keys that end with the identifier are distinct. -/
private theorem lexKey_nodup
    {First : Type}
    (first : Chunk I D M E S → First)
    (distinctIds : (chunks.map (·.id)).Nodup) :
    (chunks.map fun chunk => toLex (first chunk, chunk.id)).Nodup := by
  refine List.Nodup.of_map (fun key => (ofLex key).2) ?_
  rw [List.map_map]
  exact distinctIds

variable (query) in
omit [LinearOrder I] [LinearOrder Distance] [LinearOrder Rank] in
theorem semanticKey_nodup (distinctIds : (chunks.map (·.id)).Nodup) :
    (chunks.map (semanticKey query)).Nodup :=
  lexKey_nodup _ distinctIds

variable (query) in
omit [LinearOrder I] [LinearOrder Distance] [LinearOrder Rank] in
theorem keywordKey_nodup (distinctIds : (chunks.map (·.id)).Nodup) :
    (chunks.map (keywordKey query)).Nodup :=
  lexKey_nodup _ distinctIds

variable (query) in
omit [LinearOrder I] [LinearOrder Distance] [LinearOrder Rank] in
theorem matching_nodup (distinctIds : (chunks.map (·.id)).Nodup) :
    ((matching query chunks).map (·.id)).Nodup :=
  distinctIds.sublist (List.filter_sublist.map _)

variable (query topK chunks) in
/-- The rows of the join, fused. -/
def fused : List (ScoredChunk I D M) :=
  (fullOuterJoin LegRow.id LegRow.id (legOf (semanticKey query) topK chunks)
    (legOf (keywordKey query) topK (matching query chunks))).map fuse

variable (query topK) in
/-- No passage is fused twice. -/
theorem fused_nodup (distinctIds : (chunks.map (·.id)).Nodup) :
    ((fused query topK chunks).map (·.chunkId)).Nodup := by
  have joined := fullOuterJoin_nodup
    (legOf_nodup topK (semanticKey query) distinctIds)
    (legOf_nodup topK (keywordKey query) (matching_nodup query distinctIds))
  unfold fused
  rw [List.map_map]
  refine (List.map_congr_left fun row _ => ?_) ▸ joined
  cases row with
  | both semantic keyword => rfl
  | leftOnly semantic => rfl
  | rightOnly keyword => rfl

variable (query topK) in
omit [LinearOrder Rank] in
/-- A row of the semantic leg is a passage that it contains. -/
theorem mem_semanticLeg
    (distinctIds : (chunks.map (·.id)).Nodup)
    (row : LegRow I D M) :
    row ∈ legOf (semanticKey query) topK chunks ↔
      ∃ chunk ∈ chunks, InSemantic query topK chunks chunk ∧
        row = legRow (ranked (semanticKey query) chunks chunk) :=
  mem_legOf topK (semanticKey_nodup query distinctIds) row

variable (query topK) in
omit [LinearOrder Distance] in
/-- A row of the keyword leg is a passage that it contains. -/
theorem mem_keywordLeg
    (distinctIds : (chunks.map (·.id)).Nodup)
    (row : LegRow I D M) :
    row ∈ legOf (keywordKey query) topK (matching query chunks) ↔
      ∃ chunk ∈ chunks, InKeyword query topK chunks chunk ∧
        row = legRow (ranked (keywordKey query) (matching query chunks) chunk) := by
  rw [mem_legOf topK (keywordKey_nodup query (matching_nodup query distinctIds))]
  refine exists_congr fun chunk => ?_
  rw [matching, List.mem_filter, and_assoc]
  exact and_congr_right fun _ => and_assoc.symm

section Fuse

variable {chunk : Chunk I D M E S}

/-- A passage of both legs has the shares of both. -/
theorem fuse_both
    (inSemantic : InSemantic query topK chunks chunk)
    (inKeyword : InKeyword query topK chunks chunk) :
    fuse (.both (legRow (ranked (semanticKey query) chunks chunk))
      (legRow (ranked (keywordKey query) (matching query chunks) chunk))) =
        scored query topK chunks chunk := by
  rw [scored, fusedScore, if_pos inSemantic, if_pos inKeyword]
  simp only [fuse, legRow, ranked, Option.or_self]

/-- A passage of the semantic leg alone has its share. -/
theorem fuse_leftOnly
    (inSemantic : InSemantic query topK chunks chunk)
    (notKeyword : ¬InKeyword query topK chunks chunk) :
    fuse (.leftOnly (legRow (ranked (semanticKey query) chunks chunk))) =
      scored query topK chunks chunk := by
  rw [scored, fusedScore, if_pos inSemantic, if_neg notKeyword]
  rfl

/-- A passage of the keyword leg alone has its share. -/
theorem fuse_rightOnly
    (notSemantic : ¬InSemantic query topK chunks chunk)
    (inKeyword : InKeyword query topK chunks chunk) :
    fuse (.rightOnly (legRow (ranked (keywordKey query) (matching query chunks) chunk))) =
      scored query topK chunks chunk := by
  rw [scored, fusedScore, if_neg notSemantic, if_pos inKeyword]
  rfl

end Fuse

/-- What is fused are the passages of the legs with their scores. -/
theorem mem_fused
    (distinctIds : (chunks.map (·.id)).Nodup)
    (entry : ScoredChunk I D M) :
    entry ∈ fused query topK chunks ↔ ∃ chunk ∈ chunks,
      (InSemantic query topK chunks chunk ∨ InKeyword query topK chunks chunk) ∧
        entry = scored query topK chunks chunk := by
  have same : ∀ left ∈ chunks, ∀ right ∈ chunks, left.id = right.id → left = right :=
    fun left leftHeld right rightHeld =>
      List.inj_on_of_nodup_map distinctIds leftHeld rightHeld
  have inSemanticLeg := mem_semanticLeg query topK distinctIds
  have inKeywordLeg := mem_keywordLeg query topK distinctIds
  have inJoin := mem_fullOuterJoin LegRow.id (legOf (semanticKey query) topK chunks)
    (legOf_nodup topK (keywordKey query) (matching_nodup query distinctIds))
  unfold fused
  rw [List.mem_map]
  constructor
  · rintro ⟨row, joined, rfl⟩
    have held := (inJoin row).mp joined
    cases row with
    | both semantic keyword =>
        obtain ⟨semanticHeld, keywordHeld, sameId⟩ := held
        obtain ⟨chunk, present, inSemantic, rfl⟩ := (inSemanticLeg semantic).mp semanticHeld
        obtain ⟨other, otherPresent, inKeyword, rfl⟩ := (inKeywordLeg keyword).mp keywordHeld
        obtain rfl := same chunk present other otherPresent sameId
        exact ⟨chunk, present, Or.inl inSemantic, fuse_both inSemantic inKeyword⟩
    | leftOnly semantic =>
        obtain ⟨semanticHeld, noPartner⟩ := held
        obtain ⟨chunk, present, inSemantic, rfl⟩ := (inSemanticLeg semantic).mp semanticHeld
        have notKeyword : ¬InKeyword query topK chunks chunk := fun inKeyword =>
          noPartner _ ((inKeywordLeg _).mpr ⟨chunk, present, inKeyword, rfl⟩) rfl
        exact ⟨chunk, present, Or.inl inSemantic, fuse_leftOnly inSemantic notKeyword⟩
    | rightOnly keyword =>
        obtain ⟨keywordHeld, noPartner⟩ := held
        obtain ⟨chunk, present, inKeyword, rfl⟩ := (inKeywordLeg keyword).mp keywordHeld
        have notSemantic : ¬InSemantic query topK chunks chunk := fun inSemantic =>
          noPartner _ ((inSemanticLeg _).mpr ⟨chunk, present, inSemantic, rfl⟩) rfl
        exact ⟨chunk, present, Or.inr inKeyword, fuse_rightOnly notSemantic inKeyword⟩
  · rintro ⟨chunk, present, inLeg, rfl⟩
    by_cases inSemantic : InSemantic query topK chunks chunk
    · have semanticHeld := (inSemanticLeg _).mpr ⟨chunk, present, inSemantic, rfl⟩
      by_cases inKeyword : InKeyword query topK chunks chunk
      · have keywordHeld := (inKeywordLeg _).mpr ⟨chunk, present, inKeyword, rfl⟩
        exact ⟨.both _ _, (inJoin _).mpr ⟨semanticHeld, keywordHeld, rfl⟩,
          fuse_both inSemantic inKeyword⟩
      · refine ⟨.leftOnly _, (inJoin _).mpr ⟨semanticHeld, ?_⟩,
          fuse_leftOnly inSemantic inKeyword⟩
        rintro other otherHeld sameId
        obtain ⟨partner, partnerPresent, within, rfl⟩ := (inKeywordLeg other).mp otherHeld
        obtain rfl := same chunk present partner partnerPresent sameId
        exact inKeyword within
    · have inKeyword := inLeg.resolve_left inSemantic
      have keywordHeld := (inKeywordLeg _).mpr ⟨chunk, present, inKeyword, rfl⟩
      refine ⟨.rightOnly _, (inJoin _).mpr ⟨keywordHeld, ?_⟩,
        fuse_rightOnly inSemantic inKeyword⟩
      rintro other otherHeld sameId
      obtain ⟨partner, partnerPresent, within, rfl⟩ := (inSemanticLeg other).mp otherHeld
      obtain rfl := same partner partnerPresent chunk present sameId
      exact inSemantic within

/-! ## The result -/

omit [LinearOrder I] [LinearOrder Distance] [LinearOrder Rank] in
theorem fusedKey_nodup
    {rows : List (ScoredChunk I D M)}
    (distinctIds : (rows.map (·.chunkId)).Nodup) : (rows.map fusedKey).Nodup := by
  refine List.Nodup.of_map (fun key => (ofLex key).2) ?_
  rw [List.map_map]
  exact distinctIds

variable (query topK chunks) in
/-- The passages of the legs with the highest scores. -/
def hybridSearch : List (ScoredChunk I D M) :=
  (sortBy fusedKey (fused query topK chunks)).take topK

/-- Of the results the query permits there is one. -/
theorem permitted_iff
    (distinctIds : (chunks.map (·.id)).Nodup)
    (result : List (ScoredChunk I D M)) :
    Permitted query topK chunks result ↔ result = hybridSearch query topK chunks := by
  have fusedKeys := fusedKey_nodup (fused_nodup query topK distinctIds)
  have matchingIds := matching_nodup query distinctIds
  constructor
  · rintro ⟨semantic, keyword, isSemantic, isKeyword, joined, rearranged, ordered, isOrdered, rfl⟩
    obtain rfl := (leg_iff (semanticKey_nodup query distinctIds) semantic).mp isSemantic
    obtain rfl := (leg_iff (keywordKey_nodup query matchingIds) keyword).mp isKeyword
    rw [(isOrdered.of_perm (rearranged.map fuse)).eq_sortBy fusedKeys]
    rfl
  · rintro rfl
    exact ⟨_, _, (leg_iff (semanticKey_nodup query distinctIds) _).mpr rfl,
      (leg_iff (keywordKey_nodup query matchingIds) _).mpr rfl, _, List.Perm.refl _, _,
      orderedBy_sortBy fusedKey _, rfl⟩

/-- The result does not depend on how the visible passages are listed. -/
theorem hybridSearch_perm
    {others : List (Chunk I D M E S)}
    (distinctIds : (chunks.map (·.id)).Nodup)
    (rearranged : chunks.Perm others) :
    hybridSearch query topK others = hybridSearch query topK chunks := by
  have otherIds : (others.map (·.id)).Nodup := (rearranged.map _).nodup_iff.mp distinctIds
  have matchingRearranged : (matching query chunks).Perm (matching query others) :=
    rearranged.filter _
  have sameLegs : ∀ {Key : Type} [LinearOrder Key] (key : Chunk I D M E S → Key)
      (rows listed : List (Chunk I D M E S)), (rows.map key).Nodup → rows.Perm listed →
        legOf key topK listed = legOf key topK rows := by
    intro Key _ key rows listed distinct sameRows
    unfold legOf
    rw [sortBy_eq_of_perm distinct sameRows]
    have sameRank : ranked key listed = ranked key rows := by
      funext row
      rw [ranked, ranked, rankOf_perm sameRows]
    rw [sameRank]
  have sameFused : fused query topK others = fused query topK chunks := by
    unfold fused
    rw [sameLegs _ _ _ (semanticKey_nodup query distinctIds) rearranged,
      sameLegs _ _ _ (keywordKey_nodup query (matching_nodup query distinctIds)) matchingRearranged]
  unfold hybridSearch
  rw [sameFused]

omit [LinearOrder I] [LinearOrder Distance] [LinearOrder Rank] in
theorem share_nonneg (rank : Nat) : 0 ≤ share rank := by
  unfold share
  positivity

/-- A passage of no leg has no score. -/
theorem fusedScore_of_no_leg
    {chunk : Chunk I D M E S}
    (notSemantic : ¬InSemantic query topK chunks chunk)
    (notKeyword : ¬InKeyword query topK chunks chunk) :
    fusedScore query topK chunks chunk = 0 := by
  rw [fusedScore, if_neg notSemantic, if_neg notKeyword, add_zero]

theorem fusedScore_nonneg (chunk : Chunk I D M E S) :
    0 ≤ fusedScore query topK chunks chunk := by
  unfold fusedScore
  refine add_nonneg ?_ ?_
  · split
    · exact share_nonneg _
    · exact le_rfl
  · split
    · exact share_nonneg _
    · exact le_rfl

/-- Entries in the order of their keys have scores that do not increase. -/
theorem score_le_of_fusedKey_le
    {early late : ScoredChunk I D M}
    (ordered : fusedKey early ≤ fusedKey late) : late.score ≤ early.score := by
  rcases Prod.Lex.toLex_le_toLex.mp ordered with less | ⟨same, _⟩
  · exact (OrderDual.toDual_lt_toDual.mp less).le
  · exact (OrderDual.toDual_inj.mp same).ge

/-- Over any set of passages with identifiers of their own, and however the query may break
ties, a hybrid search has one result: at most the wanted number of passages, none twice,
in an order in which scores do not increase, each with the shares of its ranks in the
legs, and none outscored by a passage that is left out. -/
theorem hybridSearch_deterministic
    (query : Query E S Distance Rank)
    (topK : Nat)
    (chunks : List (Chunk I D M E S))
    (distinctIds : (chunks.map (·.id)).Nodup) :
    ∃ result : List (ScoredChunk I D M),
      (∀ listed, listed.Perm chunks → ∀ other,
        Permitted query topK listed other ↔ other = result) ∧
      result.length ≤ topK ∧
      (result.map (·.chunkId)).Nodup ∧
      result.Pairwise (fun early late => late.score ≤ early.score) ∧
      (∀ entry ∈ result, ∃ chunk ∈ chunks, entry = scored query topK chunks chunk) ∧
      ∀ chunk ∈ chunks, chunk.id ∉ result.map (·.chunkId) → ∀ entry ∈ result,
        fusedScore query topK chunks chunk ≤ entry.score := by
  have fusedKeys := fusedKey_nodup (fused_nodup query topK distinctIds)
  have inFused : ∀ entry ∈ hybridSearch query topK chunks, entry ∈ fused query topK chunks :=
    fun entry held => (sortBy_perm _ _).mem_iff.mp (List.mem_of_mem_take held)
  refine ⟨hybridSearch query topK chunks, ?_, List.length_take_le _ _, ?_, ?_, ?_, ?_⟩
  · intro listed rearranged other
    have listedIds : (listed.map (·.id)).Nodup :=
      (rearranged.map _).nodup_iff.mpr distinctIds
    rw [permitted_iff listedIds, hybridSearch_perm distinctIds rearranged.symm]
  · exact (((sortBy_perm fusedKey _).map (·.chunkId)).nodup_iff.mpr
      (fused_nodup query topK distinctIds)).sublist ((List.take_sublist topK _).map _)
  · exact ((orderedBy_sortBy fusedKey _).2.imp score_le_of_fusedKey_le).sublist
      (List.take_sublist topK _)
  · intro entry held
    obtain ⟨chunk, present, _, isScored⟩ := (mem_fused distinctIds entry).mp (inFused entry held)
    exact ⟨chunk, present, isScored⟩
  · intro chunk present leftOut entry held
    by_cases inLeg : InSemantic query topK chunks chunk ∨ InKeyword query topK chunks chunk
    · have candidate := (mem_fused distinctIds (scored query topK chunks chunk)).mpr
        ⟨chunk, present, inLeg, rfl⟩
      exact score_le_of_fusedKey_le (le_of_not_mem_take held candidate fun taken =>
        leftOut (List.mem_map.mpr ⟨_, taken, rfl⟩))
    · obtain ⟨notSemantic, notKeyword⟩ := not_or.mp inLeg
      obtain ⟨found, _, _, rfl⟩ := (mem_fused distinctIds entry).mp (inFused entry held)
      rw [fusedScore_of_no_leg notSemantic notKeyword]
      exact fusedScore_nonneg found

end Search

/-! ## Passages that tie -/

/-- A query at one distance from every passage, matched by every passage. -/
def tiedQuery : Query Unit Unit Nat Nat where
  distance _ := 0
  isMatch _ := true
  tsRank _ := 1

/-- Three passages that nothing but their identifiers tells apart. -/
def tiedChunks : List (Chunk Nat Nat Unit Unit Unit) :=
  [⟨3, 1, "c".toList, none, (), ()⟩, ⟨1, 1, "a".toList, none, (), ()⟩,
    ⟨2, 1, "b".toList, none, (), ()⟩]

/-- Passages that tie in both legs are found in the order of their identifiers, however
they are listed. -/
theorem hybridSearch_deterministic_tied :
    ∃ result : List (ScoredChunk Nat Nat Unit),
      (∀ listed, listed.Perm tiedChunks → ∀ other,
        Permitted tiedQuery 2 listed other ↔ other = result) ∧
      result.map (fun entry => (entry.chunkId, entry.score)) = [(1, 2 / 61), (2, 2 / 62)] := by
  obtain ⟨result, unique, _⟩ := hybridSearch_deterministic tiedQuery 2 tiedChunks (by decide)
  refine ⟨result, unique, ?_⟩
  have found := (unique tiedChunks (List.Perm.refl _) _).mp
    ((permitted_iff (by decide) _).mpr rfl)
  rw [← found]
  decide +kernel

end HybridSearch
end Retrieval
end ChatPlatform
