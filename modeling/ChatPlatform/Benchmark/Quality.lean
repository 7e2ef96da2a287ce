import ChatPlatform.Foundation.Keyed
import ChatPlatform.Foundation.Ranking
import ChatPlatform.Foundation.Text
import Mathlib.Analysis.SpecialFunctions.Log.Base
import Mathlib.Data.List.GetD
import Mathlib.Data.List.Sort

/-!
# Benchmark quality

The quality of a ranking of the candidates of a row: the discounted gain of its first ten grades
by that of the ten largest, the reciprocal rank of the first relevant candidate among ten, and
whether one is among five. The discount of a rank is a parameter, which is positive and falls.
-/

namespace ChatPlatform
namespace Benchmark

open Ranking

/-! ## The quality of a ranking -/

/-- A candidate of a row. -/
structure Candidate where
  /-- Its text. -/
  text : Str
  /-- Its grade. -/
  relevance : Nat

/-- A row of the dataset. -/
structure DatasetRow where
  /-- The identifier of the query. -/
  queryId : Str
  /-- The query. -/
  query : Str
  /-- The language of the query. -/
  language : Str
  /-- The candidates. -/
  candidates : List Candidate

/-- The scores of a ranking. -/
structure QualityScores (K : Type*) where
  /-- The normalised discounted gain of ten. -/
  ndcgAt10 : K
  /-- The reciprocal rank among ten. -/
  mrrAt10 : K
  /-- Whether there is a hit among five. -/
  hitRateAt5 : K
  deriving DecidableEq

/-- The grade at an index, if it is the index of a candidate. -/
def gradeAt
    (grades : List Nat)
    (index : Int) : Option Nat :=
  if 0 ≤ index ∧ index < grades.length then grades[index.toNat]? else none

/-- The grades in the order of a ranking. -/
def rankedGrades
    (grades : List Nat)
    (ranking : List Int) : List Nat :=
  ranking.filterMap (gradeAt grades)

/-- The grades from the largest to the least. -/
def idealGrades (grades : List Nat) : List Nat := grades.insertionSort (· ≥ ·)

/-- The ranks, counted from one, of the relevant grades. -/
def relevantRanks (grades : List Nat) : List Nat :=
  (grades.zipIdx 1).filterMap fun entry => if entry.1 ≥ 1 then some entry.2 else none

section Quality

variable {K : Type*} [Field K] (discount : Nat → K)

/-- The sum of the gains of grades under the discounts of their ranks. -/
def discountedGain (grades : List Nat) : K :=
  (grades.zipIdx.map fun entry => ((2 ^ entry.1 - 1 : Nat) : K) * discount entry.2).sum

/-- The quality of a ranking of the candidates of a row. -/
def quality
    [DecidableEq K]
    (ranking : List Int)
    (row : DatasetRow) : QualityScores K :=
  let grades := row.candidates.map (·.relevance)
  let ranked := rankedGrades grades ranking
  let dcg := discountedGain discount (ranked.take 10)
  let idcg := discountedGain discount ((idealGrades grades).take 10)
  { ndcgAt10 := if idcg ≠ 0 then dcg / idcg else 0
    mrrAt10 :=
      match relevantRanks (ranked.take 10) with
      | [] => 0
      | rank :: _ => 1 / (rank : K)
    hitRateAt5 := if (ranked.take 5).any (fun grade => decide (grade ≥ 1)) then 1 else 0 }

end Quality

/-! ## Ranked grades -/

/-- An index that has a grade is that of a candidate. -/
theorem gradeAt_eq_some
    {grades : List Nat}
    {index : Int}
    {grade : Nat}
    (found : gradeAt grades index = some grade) :
    0 ≤ index ∧ index.toNat < grades.length ∧ grades[index.toNat]? = some grade := by
  rw [gradeAt] at found
  split at found
  case isTrue inside => exact ⟨inside.1, by omega, found⟩
  case isFalse => cases found

/-- The places of the candidates of a ranking. -/
def rankedPlaces
    (grades : List Nat)
    (ranking : List Int) : List Nat :=
  (ranking.filter fun index => (gradeAt grades index).isSome).map Int.toNat

/-- The places are those of candidates. -/
theorem rankedPlaces_subset
    (grades : List Nat)
    (ranking : List Int) : rankedPlaces grades ranking ⊆ List.range grades.length := by
  intro place member
  obtain ⟨index, held, rfl⟩ := List.mem_map.mp member
  obtain ⟨grade, found⟩ := Option.isSome_iff_exists.mp (List.mem_filter.mp held).2
  exact List.mem_range.mpr (gradeAt_eq_some found).2.1

/-- Distinct indices have distinct places. -/
theorem nodup_rankedPlaces
    (grades : List Nat)
    (ranking : List Int)
    (distinct : ranking.Nodup) : (rankedPlaces grades ranking).Nodup := by
  refine List.Nodup.map_on ?_ (distinct.filter _)
  intro left leftHeld right rightHeld same
  obtain ⟨_, leftFound⟩ := Option.isSome_iff_exists.mp (List.mem_filter.mp leftHeld).2
  obtain ⟨_, rightFound⟩ := Option.isSome_iff_exists.mp (List.mem_filter.mp rightHeld).2
  have leftNatural := (gradeAt_eq_some leftFound).1
  have rightNatural := (gradeAt_eq_some rightFound).1
  omega

/-- The ranked grades are those at the places. -/
theorem rankedGrades_eq
    (grades : List Nat)
    (ranking : List Int) :
    rankedGrades grades ranking =
      (rankedPlaces grades ranking).map fun place => grades.getD place 0 := by
  induction ranking with
  | nil => rfl
  | cons index rest ih =>
      rw [rankedGrades, rankedPlaces] at ih ⊢
      cases found : gradeAt grades index with
      | none =>
          rw [List.filterMap_cons_none found, ih,
            List.filter_cons_of_neg (by rw [found]; exact Bool.false_ne_true)]
      | some grade =>
          have held := (gradeAt_eq_some found).2.2
          rw [List.filterMap_cons_some found, ih,
            List.filter_cons_of_pos (by rw [found]; rfl), List.map_cons, List.map_cons,
            List.getD_eq_getElem?_getD, held, Option.getD_some]

/-- The grades at all places are the grades. -/
theorem map_getD_range (grades : List Nat) :
    (List.range grades.length).map (fun place => grades.getD place 0) = grades := by
  refine List.ext_getElem (by rw [List.length_map, List.length_range]) fun place _ inside => ?_
  rw [List.getElem_map, List.getElem_range, List.getD_eq_getElem?_getD,
    List.getElem?_eq_getElem inside, Option.getD_some]

/-- Distinct indices select grades of distinct candidates. -/
theorem rankedGrades_le
    (grades : List Nat)
    (ranking : List Int)
    (distinct : ranking.Nodup) :
    (rankedGrades grades ranking : Multiset Nat) ≤ (grades : Multiset Nat) := by
  have places : (rankedPlaces grades ranking : Multiset Nat) ≤ (List.range grades.length) :=
    (Multiset.le_iff_subset (Multiset.coe_nodup.mpr
      (nodup_rankedPlaces grades ranking distinct))).mpr (rankedPlaces_subset grades ranking)
  have selected := Multiset.map_le_map (f := fun place => grades.getD place 0) places
  rwa [Multiset.map_coe, Multiset.map_coe, ← rankedGrades_eq, map_getD_range] at selected

/-- The ideal grades are the grades. -/
theorem idealGrades_perm (grades : List Nat) : (idealGrades grades).Perm grades :=
  List.perm_insertionSort _ grades

/-- The ideal grades do not rise. -/
theorem pairwise_idealGrades (grades : List Nat) :
    (idealGrades grades).Pairwise (· ≥ ·) :=
  List.pairwise_insertionSort _ grades

/-- A grade is at most the first of the ideal grades. -/
theorem le_head_idealGrades
    (grades : List Nat)
    (grade : Nat)
    (held : grade ∈ grades) : grade ≤ (idealGrades grades).getD 0 0 := by
  have member := (idealGrades_perm grades).mem_iff.mpr held
  have ordered := pairwise_idealGrades grades
  cases ideal : idealGrades grades with
  | nil =>
      rw [ideal] at member
      exact absurd member List.not_mem_nil
  | cons largest rest =>
      rw [ideal] at member ordered
      obtain rfl | member := List.mem_cons.mp member
      · exact le_rfl
      · exact (List.pairwise_cons.mp ordered).1 grade member

/-! ## Gains -/

section Gains

variable {K : Type*} [Field K]

/-- The gain of a grade. -/
def gain (grade : Nat) : K := ((2 ^ grade - 1 : Nat) : K)

/-- The gain of grade zero is zero. -/
theorem gain_zero : gain (K := K) 0 = 0 := Nat.cast_zero

/-- The discounted gain is the weighted sum of the gains. -/
theorem discountedGain_eq
    (discount : Nat → K)
    (grades : List Nat) :
    discountedGain discount grades = discounted discount (grades.map gain) 0 := by
  have shifted : ∀ place, ((grades.zipIdx place).map fun entry =>
      ((2 ^ entry.1 - 1 : Nat) : K) * discount entry.2).sum =
        discounted discount (grades.map gain) place := by
    induction grades with
    | nil => exact fun _ => rfl
    | cons grade rest ih =>
        intro place
        rw [List.zipIdx_cons, List.map_cons, List.sum_cons, ih, List.map_cons, discounted, gain]
  exact shifted 0

variable [LinearOrder K] [IsStrictOrderedRing K]

/-- Gains rise with the grade. -/
theorem gain_strictMono : StrictMono (gain (K := K)) := by
  intro low high less
  have powers : 2 ^ low < 2 ^ high := Nat.pow_lt_pow_right (by decide) less
  have positive : 0 < 2 ^ low := Nat.two_pow_pos low
  exact Nat.cast_lt.mpr (by omega)

/-- Gains are not negative. -/
theorem gain_nonneg (grade : Nat) : 0 ≤ gain (K := K) grade := Nat.cast_nonneg _

/-- The gains of some of the grades are dominated by those of the ideal grades. -/
theorem dominated_ideal
    (some grades : List Nat)
    (inside : (some : Multiset Nat) ≤ (grades : Multiset Nat))
    (count : Nat) :
    Dominated (K := K) ((some.take count).map gain)
      (((idealGrades grades).take count).map gain) := by
  have ideal : (some : Multiset Nat) ≤ (idealGrades grades : Multiset Nat) := by
    rwa [Multiset.coe_eq_coe.mpr (idealGrades_perm grades)]
  have gains := Multiset.map_le_map (f := gain (K := K)) ideal
  rw [Multiset.map_coe, Multiset.map_coe] at gains
  rw [List.map_take, List.map_take]
  refine Dominated.take _ _ (dominated_of_le _ _ ?_ ?_ gains) count
  · exact (pairwise_idealGrades grades).map _ fun high low atMost =>
      gain_strictMono.monotone atMost
  · intro value member
    obtain ⟨grade, -, rfl⟩ := List.mem_map.mp member
    exact gain_nonneg grade

end Gains

/-! ## The three scores -/

/-- The first ten grades, followed by zeros. -/
def firstTen (grades : List Nat) : List Nat := (List.range 10).map fun rank => grades.getD rank 0

/-- Whether the grade at a rank, counted from one, is relevant. -/
def RelevantAt
    (grades : List Nat)
    (rank : Nat) : Prop :=
  ∃ grade ∈ grades[rank - 1]?, 1 ≤ grade

/-- The grades among the first ten. -/
theorem getD_take_ten
    (grades : List Nat)
    (rank : Nat)
    (within : rank < 10) : (grades.take 10).getD rank 0 = grades.getD rank 0 := by
  rw [List.getD_eq_getElem?_getD, List.getElem?_take_of_lt within, ← List.getD_eq_getElem?_getD]

section Scores

variable {K : Type*} [Field K]

/-- The first relevant rank of grades is that of their reciprocal rank. -/
theorem relevantRanks_reciprocal (grades : List Nat) :
    (match relevantRanks grades with
      | [] => (0 : K)
      | rank :: _ => 1 / (rank : K)) = reciprocalRank (1 ≤ ·) grades 0 := by
  have shifted : ∀ place, (match (grades.zipIdx (place + 1)).filterMap
        fun entry => if entry.1 ≥ 1 then some entry.2 else none with
      | [] => (0 : K)
      | rank :: _ => 1 / (rank : K)) = reciprocalRank (1 ≤ ·) grades place := by
    induction grades with
    | nil => exact fun _ => rfl
    | cons grade rest ih =>
        intro place
        rw [List.zipIdx_cons, reciprocalRank]
        split_ifs with relevant
        · simp only [List.filterMap_cons, ge_iff_le, if_pos relevant]
        · simp only [List.filterMap_cons, ge_iff_le, if_neg relevant]
          exact ih (place + 1)
  exact shifted 0

variable [LinearOrder K] (discount : Nat → K) (ranking : List Int) (row : DatasetRow)

/-- The reciprocal rank of the quality. -/
theorem quality_mrr :
    (quality discount ranking row).mrrAt10 =
      reciprocalRank (1 ≤ ·)
        ((rankedGrades (row.candidates.map (·.relevance)) ranking).take 10) 0 :=
  relevantRanks_reciprocal _

/-- The reciprocal rank of the quality is that of the best relevant rank. -/
theorem quality_mrr_cases :
    let ranked := rankedGrades (row.candidates.map (·.relevance)) ranking
    let mrr := (quality discount ranking row).mrrAt10
    (mrr = 0 ∧ ∀ rank, 1 ≤ rank → rank ≤ 10 → ¬RelevantAt ranked rank) ∨
      ∃ rank : Nat, IsLeast {rank | 1 ≤ rank ∧ rank ≤ 10 ∧ RelevantAt ranked rank} rank ∧
        mrr = 1 / (rank : K) := by
  intro ranked mrr
  have first : ∀ rank, 1 ≤ rank → rank ≤ 10 → (ranked.take 10)[rank - 1]? = ranked[rank - 1]? :=
    fun rank _ _ => List.getElem?_take_of_lt (by omega)
  obtain ⟨none, zero⟩ | ⟨before, grade, after, split, relevant, none, rank⟩ :=
    reciprocalRank_cases (K := K) (1 ≤ ·) (ranked.take 10) 0
  · refine .inl ⟨(quality_mrr discount ranking row).trans zero, ?_⟩
    rintro rank atLeast atMost ⟨grade, held, relevant⟩
    rw [← first rank atLeast atMost] at held
    exact none grade (List.mem_of_getElem? held) relevant
  · have short : before.length < 10 := by
      have lengths := congrArg List.length split
      rw [List.length_append, List.length_cons] at lengths
      have := List.length_take_le 10 ranked
      omega
    refine .inr ⟨before.length + 1, ⟨⟨by omega, by omega, grade, ?_, relevant⟩, ?_⟩, ?_⟩
    · rw [← first _ (by omega) (by omega), split, Nat.add_sub_cancel,
        List.getElem?_append_right le_rfl, Nat.sub_self]
      rfl
    · rintro rank ⟨atLeast, atMost, other, held, otherRelevant⟩
      by_contra less
      rw [← first rank atLeast atMost, split,
        List.getElem?_append_left (by omega)] at held
      exact none other (List.mem_of_getElem? held) otherRelevant
    · rw [← Nat.zero_add before.length]
      exact (quality_mrr discount ranking row).trans rank

variable [IsStrictOrderedRing K]

/-- The hit rate of the quality is one when the reciprocal rank is a fifth or more. -/
theorem quality_hit :
    (quality discount ranking row).hitRateAt5 =
      if 1 / 5 ≤ (quality discount ranking row).mrrAt10 then 1 else 0 := by
  have reached := one_div_le_reciprocalRank_iff (K := K) (1 ≤ ·)
    ((rankedGrades (row.candidates.map (·.relevance)) ranking).take 10) 0 5 (by decide)
  rw [Nat.zero_add, Nat.cast_ofNat, List.take_take, ← quality_mrr discount] at reached
  rw [quality]
  refine if_congr (Iff.trans ?_ reached.symm) rfl rfl
  rw [List.any_eq_true]
  simp only [decide_eq_true_eq]
  rfl

end Scores

/-! ## Normalisation -/

section Normalised

variable {K : Type*} [Field K] [LinearOrder K]

/-- What the scores of a ranking say. -/
structure Normalised
    (discount : Nat → K)
    (ranking : List Int)
    (row : DatasetRow)
    (scores : QualityScores K) : Prop where
  /-- The normalised gain is between zero and one. -/
  ndcg_bounds : 0 ≤ scores.ndcgAt10 ∧ scores.ndcgAt10 ≤ 1
  /-- Unless all grades are zero, it is one when the first ten are the ten largest in order. -/
  ndcg_eq_one : (∃ candidate ∈ row.candidates, 0 < candidate.relevance) →
    (scores.ndcgAt10 = 1 ↔
      firstTen (rankedGrades (row.candidates.map (·.relevance)) ranking) =
        firstTen (idealGrades (row.candidates.map (·.relevance))))
  /-- The reciprocal rank is zero or that of the best relevant rank. -/
  mrr_cases :
    (scores.mrrAt10 = 0 ∧ ∀ rank, 1 ≤ rank → rank ≤ 10 →
      ¬RelevantAt (rankedGrades (row.candidates.map (·.relevance)) ranking) rank) ∨
      ∃ rank : Nat,
        IsLeast {rank | 1 ≤ rank ∧ rank ≤ 10 ∧
          RelevantAt (rankedGrades (row.candidates.map (·.relevance)) ranking) rank} rank ∧
        scores.mrrAt10 = 1 / (rank : K)
  /-- The hit rate is zero or one. -/
  hit_cases : scores.hitRateAt5 = 0 ∨ scores.hitRateAt5 = 1
  /-- It is one when the reciprocal rank is a fifth or more. -/
  hit_eq_one : scores.hitRateAt5 = 1 ↔ 1 / 5 ≤ scores.mrrAt10
  /-- No score falls when the higher one of two neighbours moves up. -/
  exchange : ∀ before low high after, ranking = before ++ low :: high :: after →
    (∀ lowGrade ∈ gradeAt (row.candidates.map (·.relevance)) low,
      ∀ highGrade ∈ gradeAt (row.candidates.map (·.relevance)) high, lowGrade ≤ highGrade) →
      scores.ndcgAt10 ≤ (quality discount (before ++ high :: low :: after) row).ndcgAt10 ∧
        scores.mrrAt10 ≤ (quality discount (before ++ high :: low :: after) row).mrrAt10 ∧
          scores.hitRateAt5 ≤ (quality discount (before ++ high :: low :: after) row).hitRateAt5

/-- Neighbours that change places in a ranking leave the ranked grades or change places there. -/
theorem rankedGrades_exchange
    (grades : List Nat)
    (before after : List Int)
    (low high : Int)
    (atMost : ∀ lowGrade ∈ gradeAt grades low, ∀ highGrade ∈ gradeAt grades high,
      lowGrade ≤ highGrade) :
    rankedGrades grades (before ++ low :: high :: after) =
        rankedGrades grades (before ++ high :: low :: after) ∨
      ∃ first lowGrade highGrade last, lowGrade ≤ highGrade ∧
        rankedGrades grades (before ++ low :: high :: after) =
          first ++ lowGrade :: highGrade :: last ∧
        rankedGrades grades (before ++ high :: low :: after) =
          first ++ highGrade :: lowGrade :: last := by
  simp only [rankedGrades, List.filterMap_append]
  cases lowFound : gradeAt grades low with
  | none =>
      refine .inl ?_
      cases highFound : gradeAt grades high with
      | none => simp only [List.filterMap_cons, lowFound, highFound]
      | some => simp only [List.filterMap_cons, lowFound, highFound]
  | some lowGrade =>
      cases highFound : gradeAt grades high with
      | none =>
          refine .inl ?_
          simp only [List.filterMap_cons, lowFound, highFound]
      | some highGrade =>
          refine .inr ⟨before.filterMap (gradeAt grades), lowGrade, highGrade,
            after.filterMap (gradeAt grades), atMost _ lowFound _ highFound, ?_, ?_⟩
          · simp only [List.filterMap_cons, lowFound, highFound]
          · simp only [List.filterMap_cons, lowFound, highFound]

variable [IsStrictOrderedRing K]
variable (discount : Nat → K)
variable (falling : StrictAnti discount) (positive : ∀ rank, 0 < discount rank)

include falling positive

/-- A discounted gain is not negative, and zero when every grade is. -/
theorem discountedGain_of_ideal
    (grades : List Nat)
    (count : Nat) :
    0 ≤ discountedGain discount (grades.take count) ∧
      (discountedGain discount (grades.take count) = 0 →
        ∀ rank, (grades.take count).getD rank 0 = 0) := by
  have none : Dominated (K := K) [] ((grades.take count).map gain) := by
    intro fewer
    rw [List.take_nil]
    refine List.sum_nonneg fun value member => ?_
    obtain ⟨grade, -, rfl⟩ := List.mem_map.mp (List.mem_of_mem_take member)
    exact gain_nonneg grade
  have compared := discounted_of_dominated discount falling positive _ _ none
  rw [← discountedGain_eq] at compared
  refine ⟨compared.1, fun zero rank => ?_⟩
  have same := compared.2 zero.symm rank
  rw [List.getD_nil, ← gain_zero, List.getD_map] at same
  exact (gain_strictMono.injective same).symm

/-- The ideal gain is positive unless all grades are zero. -/
theorem idealGain_pos
    (grades : List Nat)
    (some : ∃ grade ∈ grades, 0 < grade) :
    0 < discountedGain discount ((idealGrades grades).take 10) := by
  have ideal := discountedGain_of_ideal discount falling positive (idealGrades grades) 10
  refine lt_of_le_of_ne ideal.1 fun zero => ?_
  obtain ⟨grade, held, relevant⟩ := some
  have largest := le_head_idealGrades grades grade held
  rw [← getD_take_ten _ 0 (by decide), ideal.2 zero.symm 0] at largest
  omega

/-- The gain of ranked grades is at most the ideal gain. -/
theorem discountedGain_le_ideal
    (some grades : List Nat)
    (inside : (some : Multiset Nat) ≤ (grades : Multiset Nat)) :
    discountedGain discount (some.take 10) ≤
        discountedGain discount ((idealGrades grades).take 10) ∧
      (discountedGain discount (some.take 10) =
          discountedGain discount ((idealGrades grades).take 10) ↔
        firstTen some = firstTen (idealGrades grades)) := by
  have compared := discounted_of_dominated discount falling positive _ _
    (dominated_ideal some grades inside 10)
  rw [← discountedGain_eq, ← discountedGain_eq] at compared
  refine ⟨compared.1, fun same => ?_, fun same => ?_⟩
  · refine List.map_inj_left.mpr fun rank within => ?_
    have entries := compared.2 same rank
    rw [← gain_zero, List.getD_map, List.getD_map] at entries
    have grade := gain_strictMono.injective entries
    rwa [getD_take_ten _ _ (List.mem_range.mp within),
      getD_take_ten _ _ (List.mem_range.mp within)] at grade
  · have entries := List.map_inj_left.mp same
    rw [discountedGain_eq, discountedGain_eq]
    have long : ∀ grades : List Nat, ((grades.take 10).map (gain (K := K))).length ≤ 10 := by
      intro grades
      rw [List.length_map]
      exact List.length_take_le _ _
    rw [discounted_eq_sum discount _ 0 10 (long _), discounted_eq_sum discount _ 0 10 (long _)]
    refine Finset.sum_congr rfl fun rank within => ?_
    have within := Finset.mem_range.mp within
    rw [← gain_zero, List.getD_map, List.getD_map, getD_take_ten _ _ within,
      getD_take_ten _ _ within, entries rank (List.mem_range.mpr within)]

/-- The normalised gain of ranked grades that come before others. -/
theorem quality_ndcg_mono
    (ranking higher : List Int)
    (row : DatasetRow)
    (dominated : Dominated (K := K)
      ((rankedGrades (row.candidates.map (·.relevance)) ranking).map gain)
      ((rankedGrades (row.candidates.map (·.relevance)) higher).map gain)) :
    (quality discount ranking row).ndcgAt10 ≤ (quality discount higher row).ndcgAt10 := by
  have compared := (discounted_of_dominated discount falling positive _ _
    (dominated.take _ _ 10)).1
  rw [← List.map_take, ← List.map_take, ← discountedGain_eq, ← discountedGain_eq] at compared
  rw [quality, quality]
  simp only
  split
  · exact div_le_div_of_nonneg_right compared
      (discountedGain_of_ideal discount falling positive _ 10).1
  · exact le_rfl

/-- The quality of a ranking of distinct indices is normalised. -/
theorem quality_normalised
    (ranking : List Int)
    (row : DatasetRow)
    (distinct : ranking.Nodup) :
    Normalised discount ranking row (quality discount ranking row) := by
  have inside := rankedGrades_le (row.candidates.map (·.relevance)) ranking distinct
  have below := discountedGain_le_ideal discount falling positive _ _ inside
  have natural := (discountedGain_of_ideal discount falling positive
    (rankedGrades (row.candidates.map (·.relevance)) ranking) 10).1
  have ideal := (discountedGain_of_ideal discount falling positive
    (idealGrades (row.candidates.map (·.relevance))) 10).1
  have hit := quality_hit discount ranking row
  constructor
  case ndcg_bounds =>
    rw [quality]
    simp only
    split
    · exact ⟨div_nonneg natural ideal, div_le_one_of_le₀ below.1 ideal⟩
    · exact ⟨le_rfl, zero_le_one⟩
  case ndcg_eq_one =>
    rintro ⟨candidate, held, relevant⟩
    have positiveGain := idealGain_pos discount falling positive
      (row.candidates.map (·.relevance)) ⟨_, List.mem_map_of_mem held, relevant⟩
    rw [quality]
    simp only
    rw [if_pos positiveGain.ne', div_eq_one_iff_eq positiveGain.ne', below.2]
  case mrr_cases => exact quality_mrr_cases discount ranking row
  case hit_cases =>
    rw [hit]
    split
    · exact .inr rfl
    · exact .inl rfl
  case hit_eq_one =>
    rw [hit]
    split
    case isTrue reached => exact iff_of_true rfl reached
    case isFalse missed => exact iff_of_false zero_ne_one missed
  case exchange =>
    rintro before low high after rfl atMost
    have exchanged := rankedGrades_exchange _ before after low high atMost
    have ndcg : (quality discount (before ++ low :: high :: after) row).ndcgAt10 ≤
        (quality discount (before ++ high :: low :: after) row).ndcgAt10 := by
      refine quality_ndcg_mono discount falling positive _ _ row ?_
      obtain same | ⟨first, lowGrade, highGrade, last, lower, lowRanked, highRanked⟩ := exchanged
      · rw [same]
        exact fun _ => le_rfl
      · rw [lowRanked, highRanked]
        simp only [List.map_append, List.map_cons]
        exact dominated_exchange _ _ _ _ (gain_strictMono.monotone lower)
    have mrr : (quality discount (before ++ low :: high :: after) row).mrrAt10 ≤
        (quality discount (before ++ high :: low :: after) row).mrrAt10 := by
      rw [quality_mrr, quality_mrr]
      obtain same | ⟨first, lowGrade, highGrade, last, lower, lowRanked, highRanked⟩ := exchanged
      · rw [same]
      · rw [lowRanked, highRanked]
        exact reciprocalRank_take_exchange _ _ _ (fun relevant => relevant.trans lower) _ _ _
    refine ⟨ndcg, mrr, ?_⟩
    rw [hit, quality_hit]
    split
    case isTrue reached => rw [if_pos (reached.trans mrr)]
    case isFalse =>
      split
      · exact zero_le_one
      · exact le_rfl

end Normalised

/-! ## The metrics of an arm -/

section Arm

variable {K : Type} [Field K] [DecidableEq K]

/-- What the metrics read of a record. -/
structure ArmRecord where
  /-- The phase. -/
  phase : Str
  /-- The identifier of the query. -/
  queryId : Str
  /-- The indices of the ranked candidates. -/
  ranking : List Int
  /-- What failed. -/
  error : Option Str

/-- The mean, which is zero of no values. -/
def mean (values : List K) : K :=
  if values.isEmpty then 0 else values.sum / (values.length : K)

/-- The mean of each score. -/
def meanScores (scores : List (QualityScores K)) : QualityScores K where
  ndcgAt10 := mean (scores.map (·.ndcgAt10))
  mrrAt10 := mean (scores.map (·.mrrAt10))
  hitRateAt5 := mean (scores.map (·.hitRateAt5))

/-- The metrics of an arm. -/
structure ArmMetrics (K : Type) where
  /-- The means over all queries. -/
  aggregate : QualityScores K
  /-- The means over the queries of a language. -/
  byLanguage : List (Str × QualityScores K)
  /-- The share of the records that failed. -/
  errorRate : K
  /-- The means over the records of a query. -/
  perQuery : List (Str × QualityScores K)

/-- The means over the records of each query; zeros for a query without records. -/
def perQueryScores
    (discount : Nat → K)
    (dataset : List DatasetRow)
    (records : List ArmRecord) : List (Str × QualityScores K) :=
  (Keyed.ofList (dataset.map fun row => (row.queryId, row))).map fun entry =>
    let scores := (records.filter fun record => decide (record.queryId = entry.1)).map
      fun record => quality discount record.ranking entry.2
    (entry.1, meanScores (if scores.isEmpty then [⟨0, 0, 0⟩] else scores))

/-- The metrics of an arm over a dataset. -/
def armMetrics
    (discount : Nat → K)
    (dataset : List DatasetRow)
    (records : List ArmRecord) : ArmMetrics K :=
  let benchmarkRecords := records.filter fun record => decide (record.phase = "benchmark".toList)
  let perQuery := perQueryScores discount dataset benchmarkRecords
  { aggregate := meanScores (perQuery.map (·.2))
    byLanguage := ["en".toList, "es".toList].map fun language =>
      (language, meanScores
        ((dataset.filter fun row => decide (row.language = language)).filterMap
          fun row => Keyed.find perQuery row.queryId))
    errorRate :=
      if benchmarkRecords.isEmpty then 0
      else
        ((benchmarkRecords.countP fun record => record.error.any fun text => !text.isEmpty : Nat)
          : K) / (benchmarkRecords.length : K)
    perQuery := perQuery }

end Arm

section ArmBounds

variable {K : Type} [Field K] [LinearOrder K] [IsStrictOrderedRing K]

/-- Scores between zero and one. -/
structure InUnit (scores : QualityScores K) : Prop where
  /-- The normalised gain. -/
  ndcg : 0 ≤ scores.ndcgAt10 ∧ scores.ndcgAt10 ≤ 1
  /-- The reciprocal rank. -/
  mrr : 0 ≤ scores.mrrAt10 ∧ scores.mrrAt10 ≤ 1
  /-- The hit rate. -/
  hit : 0 ≤ scores.hitRateAt5 ∧ scores.hitRateAt5 ≤ 1

/-- The mean of values between zero and one. -/
theorem mean_bounds
    (values : List K)
    (bounded : ∀ value ∈ values, 0 ≤ value ∧ value ≤ 1) : 0 ≤ mean values ∧ mean values ≤ 1 := by
  rw [mean]
  split
  · exact ⟨le_rfl, zero_le_one⟩
  · exact average_bounds values bounded

/-- The means of scores between zero and one. -/
theorem inUnit_meanScores
    (scores : List (QualityScores K))
    (bounded : ∀ score ∈ scores, InUnit score) : InUnit (meanScores scores) where
  ndcg := mean_bounds _ (List.forall_mem_map.mpr fun score held => (bounded score held).ndcg)
  mrr := mean_bounds _ (List.forall_mem_map.mpr fun score held => (bounded score held).mrr)
  hit := mean_bounds _ (List.forall_mem_map.mpr fun score held => (bounded score held).hit)

/-- The quality of a ranking of distinct indices is between zero and one. -/
theorem inUnit_quality
    (discount : Nat → K)
    (falling : StrictAnti discount)
    (positive : ∀ rank, 0 < discount rank)
    (ranking : List Int)
    (row : DatasetRow)
    (distinct : ranking.Nodup) : InUnit (quality discount ranking row) := by
  have normalised := quality_normalised discount falling positive ranking row distinct
  refine ⟨normalised.ndcg_bounds, ?_, ?_⟩
  · rw [quality_mrr]
    have below := reciprocalRank_le (K := K) (1 ≤ ·)
      ((rankedGrades (row.candidates.map (·.relevance)) ranking).take 10) 0
    rw [Nat.zero_add, Nat.cast_one, div_one] at below
    exact ⟨reciprocalRank_nonneg _ _ _, below⟩
  · obtain none | all := normalised.hit_cases
    · rw [none]
      exact ⟨le_rfl, zero_le_one⟩
    · rw [all]
      exact ⟨zero_le_one, le_rfl⟩

/-- The metrics of an arm are between zero and one whatever the discount is, when no ranking names
an index twice. -/
theorem armMetrics_bounds
    (discount : Nat → K)
    (falling : StrictAnti discount)
    (positive : ∀ rank, 0 < discount rank)
    (dataset : List DatasetRow)
    (records : List ArmRecord)
    (distinct : ∀ record ∈ records, record.ranking.Nodup) :
    let metrics := armMetrics discount dataset records
    InUnit metrics.aggregate ∧ (∀ entry ∈ metrics.byLanguage, InUnit entry.2) ∧
      ∀ entry ∈ metrics.perQuery, InUnit entry.2 := by
  intro metrics
  have perQuery : ∀ entry ∈ metrics.perQuery, InUnit entry.2 := by
    intro entry held
    obtain ⟨row, -, rfl⟩ := List.mem_map.mp held
    refine inUnit_meanScores _ fun score scored => ?_
    split at scored
    · obtain rfl := List.mem_singleton.mp scored
      exact ⟨⟨le_rfl, zero_le_one⟩, ⟨le_rfl, zero_le_one⟩, ⟨le_rfl, zero_le_one⟩⟩
    · obtain ⟨record, recordHeld, rfl⟩ := List.mem_map.mp scored
      exact inUnit_quality discount falling positive _ _
        (distinct record (List.mem_of_mem_filter (List.mem_of_mem_filter recordHeld)))
  refine ⟨inUnit_meanScores _ (List.forall_mem_map.mpr perQuery), ?_, perQuery⟩
  intro entry held
  obtain ⟨language, -, rfl⟩ := List.mem_map.mp held
  refine inUnit_meanScores _ fun score scored => ?_
  obtain ⟨row, -, found⟩ := List.mem_filterMap.mp scored
  exact perQuery _ (Keyed.mem_of_find found)

end ArmBounds

/-! ## The logarithmic discount -/

/-- The base of the logarithm is a numeral. -/
local instance atLeastTwo_base : Nat.AtLeastTwo 2 := ⟨le_rfl⟩

/-- The discount of a rank. -/
noncomputable def logDiscount (rank : Nat) : ℝ := 1 / Real.logb 2 (rank + 2)

/-- The logarithm of a rank is positive. -/
theorem logb_rank_pos (rank : Nat) : 0 < Real.logb 2 ((rank : ℝ) + 2) :=
  Real.logb_pos one_lt_two (by linarith [Nat.cast_nonneg (α := ℝ) rank])

/-- The discounts are positive. -/
theorem logDiscount_pos (rank : Nat) : 0 < logDiscount rank := one_div_pos.mpr (logb_rank_pos rank)

/-- The discounts fall. -/
theorem strictAnti_logDiscount : StrictAnti logDiscount := by
  intro low high less
  refine one_div_lt_one_div_of_lt (logb_rank_pos low) (Real.logb_lt_logb one_lt_two ?_ ?_)
  · linarith [Nat.cast_nonneg (α := ℝ) low]
  · linarith [(Nat.cast_lt (α := ℝ)).mpr less]

/-- The metrics of an arm are between zero and one when no ranking names an index twice. -/
theorem inUnit_armMetrics
    (dataset : List DatasetRow)
    (records : List ArmRecord)
    (distinct : ∀ record ∈ records, record.ranking.Nodup) :
    let metrics := armMetrics logDiscount dataset records
    InUnit metrics.aggregate ∧ (∀ entry ∈ metrics.byLanguage, InUnit entry.2) ∧
      ∀ entry ∈ metrics.perQuery, InUnit entry.2 :=
  armMetrics_bounds logDiscount strictAnti_logDiscount logDiscount_pos dataset records distinct

/-- A row with three candidates. -/
def sampleRow : DatasetRow where
  queryId := "q1".toList
  query := "how".toList
  language := "en".toList
  candidates := [⟨"a".toList, 0⟩, ⟨"b".toList, 2⟩, ⟨"c".toList, 1⟩]

/-- A partial ranking with an index out of range. -/
theorem quality_normalised_sample :
    Normalised logDiscount [2, 30, 1] sampleRow (quality logDiscount [2, 30, 1] sampleRow) :=
  quality_normalised logDiscount strictAnti_logDiscount logDiscount_pos _ _ (by decide)

end Benchmark
end ChatPlatform
