import ChatPlatform.Foundation.Numeral
import ChatPlatform.Foundation.Ranking

/-!
# Retrieval metrics

The window counts chunks, while the ranks count the distinct documents that are left when the
window is collapsed. Recall, average precision and reciprocal rank of the collapsed window are
exact rationals here.
-/

namespace ChatPlatform
namespace Evaluation

open Ranking

/-! ## The metrics -/

/-- A metric fails. -/
inductive MetricError
  /-- `ValueError`. -/
  | value (message : Str)
  /-- `ZeroDivisionError`. -/
  | zeroDivision
  deriving DecidableEq

/-- The least grade that counts as relevant. -/
def relevanceThreshold : Int := 1

/-- Whether a grade counts as relevant. -/
def isRelevant (grade : Int) : Bool := decide (grade ≥ relevanceThreshold)

/-- The judgment of a document. -/
structure Judgment where
  /-- The document. -/
  sourcePath : Str
  /-- Its grade. -/
  grade : Int

/-- The documents that are judged relevant. -/
def relevantPaths (judgments : List Judgment) : Finset Str :=
  ((judgments.filter fun judgment => isRelevant judgment.grade).map (·.sourcePath)).toFinset

/-- The documents in the order in which they are first seen. -/
def collapseLoop (seen : Finset Str) : List Str → List Str
  | [] => []
  | sourcePath :: rest =>
      if sourcePath ∉ seen then sourcePath :: collapseLoop (insert sourcePath seen) rest
      else collapseLoop seen rest

/-- The distinct documents of the first `k` chunks. -/
def collapse
    (sourcePaths : List Str)
    (k : Int) : Except MetricError (List Str) :=
  if k < 0 then .error (.value ("k must be non-negative, got ".toList ++ Numeral.decimal k))
  else .ok (collapseLoop ∅ (sourcePaths.take k.toNat))

/-- The share of the relevant documents that the window holds. -/
def recallAtK
    (sourcePaths : List Str)
    (relevant : Finset Str)
    (k : Int) : Except MetricError ℚ :=
  if relevant = ∅ then
    .error (.value "recall is undefined for a query with no relevant documents".toList)
  else
    match collapse sourcePaths k with
    | .error problem => .error problem
    | .ok collapsed => .ok ((relevant ∩ collapsed.toFinset).card / relevant.card)

/-- The loop over the collapsed window, with the hits so far and the sum so far. -/
def averagePrecisionLoop (relevant : Finset Str) : List Str → Nat → Nat → ℚ → ℚ
  | [], _, _, precisionSum => precisionSum
  | sourcePath :: rest, position, hits, precisionSum =>
      if sourcePath ∈ relevant then
        averagePrecisionLoop relevant rest (position + 1) (hits + 1)
          (precisionSum + ((hits + 1 : Nat) : ℚ) / position)
      else averagePrecisionLoop relevant rest (position + 1) hits precisionSum

/-- The average precision over the collapsed window. -/
def averagePrecisionAtK
    (sourcePaths : List Str)
    (relevant : Finset Str)
    (k : Int) : Except MetricError ℚ :=
  if relevant = ∅ then
    .error
      (.value "average precision is undefined for a query with no relevant documents".toList)
  else
    match collapse sourcePaths k with
    | .error problem => .error problem
    | .ok collapsed =>
        if min (relevant.card : Int) k = 0 then .error .zeroDivision
        else
          .ok (averagePrecisionLoop relevant collapsed 1 0 0 / (min (relevant.card : Int) k : Int))

/-- The loop that looks for the first relevant document. -/
def reciprocalRankLoop (relevant : Finset Str) : List Str → Nat → ℚ
  | [], _ => 0
  | sourcePath :: rest, position =>
      if sourcePath ∈ relevant then 1 / position
      else reciprocalRankLoop relevant rest (position + 1)

/-- The reciprocal of the rank of the first relevant document. -/
def reciprocalRankAtK
    (sourcePaths : List Str)
    (relevant : Finset Str)
    (k : Int) : Except MetricError ℚ :=
  if relevant = ∅ then
    .error
      (.value "reciprocal rank is undefined for a query with no relevant documents".toList)
  else
    match collapse sourcePaths k with
    | .error problem => .error problem
    | .ok collapsed => .ok (reciprocalRankLoop relevant collapsed 1)

/-- The unweighted mean. -/
def mean (values : List ℚ) : Except MetricError ℚ :=
  if values = [] then .error (.value "cannot take the mean of an empty sequence".toList)
  else .ok (values.sum / values.length)

/-- The mean of values between zero and one is between zero and one. -/
theorem mean_bounds
    (values : List ℚ)
    (average : ℚ)
    (bounded : ∀ value ∈ values, 0 ≤ value ∧ value ≤ 1)
    (averaged : mean values = .ok average) : 0 ≤ average ∧ average ≤ 1 := by
  rw [mean] at averaged
  split at averaged
  · cases averaged
  · obtain rfl := Except.ok.inj averaged
    exact average_bounds values bounded

/-! ## The collapsed window -/

section Collapse

variable (seen : Finset Str) (paths : List Str)

/-- The collapsed window holds what the window holds, apart from what was seen. -/
theorem mem_collapseLoop (path : Str) :
    path ∈ collapseLoop seen paths ↔ path ∈ paths ∧ path ∉ seen := by
  induction paths generalizing seen with
  | nil => simp [collapseLoop]
  | cons first rest ih =>
      rw [collapseLoop]
      split
      case isTrue unseen =>
        rw [List.mem_cons, ih, List.mem_cons, Finset.mem_insert, not_or]
        constructor
        · rintro (rfl | ⟨member, -, absent⟩)
          · exact ⟨.inl rfl, unseen⟩
          · exact ⟨.inr member, absent⟩
        · rintro ⟨rfl | member, absent⟩
          · exact .inl rfl
          · by_cases same : path = first
            · exact .inl same
            · exact .inr ⟨member, same, absent⟩
      case isFalse known =>
        rw [not_not] at known
        rw [ih, List.mem_cons]
        constructor
        · exact fun inside => ⟨.inr inside.1, inside.2⟩
        · rintro ⟨rfl | member, absent⟩
          · exact absurd known absent
          · exact ⟨member, absent⟩

/-- The collapsed window holds nothing twice. -/
theorem nodup_collapseLoop : (collapseLoop seen paths).Nodup := by
  induction paths generalizing seen with
  | nil => exact List.nodup_nil
  | cons first rest ih =>
      rw [collapseLoop]
      split
      · refine List.nodup_cons.mpr ⟨fun member => ?_, ih _⟩
        exact ((mem_collapseLoop _ _ _).mp member).2 (Finset.mem_insert_self _ _)
      · exact ih _

/-- The collapsed window is no longer than the window. -/
theorem length_collapseLoop_le : (collapseLoop seen paths).length ≤ paths.length := by
  induction paths generalizing seen with
  | nil => exact le_rfl
  | cons first rest ih =>
      rw [collapseLoop]
      split
      · exact Nat.succ_le_succ (ih _)
      · exact (ih _).trans (Nat.le_succ _)

/-- Distinct documents are left as they are. -/
theorem collapseLoop_of_nodup
    (distinct : paths.Nodup)
    (unseen : ∀ path ∈ paths, path ∉ seen) : collapseLoop seen paths = paths := by
  induction paths generalizing seen with
  | nil => rfl
  | cons first rest ih =>
      rw [List.nodup_cons] at distinct
      rw [collapseLoop, if_pos (unseen first List.mem_cons_self), ih _ distinct.2]
      intro path member
      rw [Finset.mem_insert, not_or]
      exact ⟨fun same => distinct.1 (same ▸ member), unseen path (List.mem_cons_of_mem _ member)⟩

end Collapse

/-! ## The loops -/

section Loops

variable (relevant : Finset Str)

/-- The loop adds the precisions. -/
theorem averagePrecisionLoop_eq
    (paths : List Str)
    (place hits : Nat)
    (sum : ℚ) :
    averagePrecisionLoop relevant paths (place + 1) hits sum =
      sum + precisions (· ∈ relevant) hits place paths := by
  induction paths generalizing place hits sum with
  | nil => exact (add_zero _).symm
  | cons path rest ih =>
      rw [averagePrecisionLoop, precisions]
      split
      · rw [ih, add_assoc]
      · rw [ih]

/-- The loop finds the reciprocal rank. -/
theorem reciprocalRankLoop_eq
    (paths : List Str)
    (place : Nat) :
    reciprocalRankLoop relevant paths (place + 1) =
      reciprocalRank (· ∈ relevant) paths place := by
  induction paths generalizing place with
  | nil => rfl
  | cons path rest ih =>
      rw [reciprocalRankLoop, reciprocalRank]
      split
      · rfl
      · exact ih _

end Loops

/-! ## The window and its hits -/

section Window

variable (sourcePaths : List Str) (relevant : Finset Str) (k : Int)

/-- The collapsed window. -/
def window : List Str := collapseLoop ∅ (sourcePaths.take k.toNat)

/-- A window that is not negative is collapsed. -/
theorem collapse_eq (kPositive : 1 ≤ k) : collapse sourcePaths k = .ok (window sourcePaths k) :=
  if_neg (not_lt.mpr (zero_le_one.trans kPositive))

/-- The window of distinct documents. -/
theorem window_of_nodup (distinct : sourcePaths.Nodup) :
    window sourcePaths k = sourcePaths.take k.toNat :=
  collapseLoop_of_nodup _ _ (distinct.sublist (List.take_sublist _ _))
    fun _ _ => Finset.notMem_empty _

/-- The relevant documents of the window are its hits. -/
theorem card_found :
    (relevant ∩ (window sourcePaths k).toFinset).card =
      hitCount (· ∈ relevant) (window sourcePaths k) := by
  have found : relevant ∩ (window sourcePaths k).toFinset =
      ((window sourcePaths k).filter fun path => decide (path ∈ relevant)).toFinset := by
    ext path
    simp only [Finset.mem_inter, List.mem_toFinset, List.mem_filter, decide_eq_true_eq]
    exact and_comm
  have distinct : (window sourcePaths k).Nodup := nodup_collapseLoop _ _
  rw [found, List.toFinset_card_of_nodup (distinct.filter _), hitCount,
    List.countP_eq_length_filter]

/-- There are at most as many hits as relevant documents, and at most `k`. -/
theorem hitCount_le :
    hitCount (· ∈ relevant) (window sourcePaths k) ≤ min relevant.card k.toNat := by
  refine le_min ?_ (List.countP_le_length.trans ?_)
  · rw [← card_found]
    exact Finset.card_le_card Finset.inter_subset_left
  · exact (length_collapseLoop_le _ _).trans (List.length_take_le _ _)

/-- The greatest number of hits that a window can have. -/
theorem cast_min (kPositive : 1 ≤ k) :
    min (relevant.card : Int) k = ((min relevant.card k.toNat : Nat) : Int) := by
  rw [Nat.cast_min, Int.toNat_of_nonneg (zero_le_one.trans kPositive)]

/-- A window can have hits. -/
theorem min_pos
    (relevantNonempty : relevant.Nonempty)
    (kPositive : 1 ≤ k) : 0 < min relevant.card k.toNat :=
  lt_min relevantNonempty.card_pos (by omega)

/-- The recall is the number of hits by the number of relevant documents. -/
theorem recallAtK_eq
    (relevantNonempty : relevant.Nonempty)
    (kPositive : 1 ≤ k) :
    recallAtK sourcePaths relevant k =
      .ok (hitCount (· ∈ relevant) (window sourcePaths k) / relevant.card) := by
  rw [recallAtK, if_neg relevantNonempty.ne_empty, collapse_eq _ _ kPositive, ← card_found]

/-- The average precision is the sum of the precisions by the greatest number of hits. -/
theorem averagePrecisionAtK_eq
    (relevantNonempty : relevant.Nonempty)
    (kPositive : 1 ≤ k) :
    averagePrecisionAtK sourcePaths relevant k =
      .ok (precisions (· ∈ relevant) 0 0 (window sourcePaths k) /
        (min relevant.card k.toNat : Nat)) := by
  have positive := min_pos relevant k relevantNonempty kPositive
  rw [averagePrecisionAtK, if_neg relevantNonempty.ne_empty, collapse_eq _ _ kPositive]
  simp only [cast_min relevant k kPositive]
  rw [if_neg (Int.natCast_ne_zero.mpr positive.ne'), averagePrecisionLoop_eq, zero_add,
    Int.cast_natCast]

/-- The reciprocal rank is that of the window. -/
theorem reciprocalRankAtK_eq
    (relevantNonempty : relevant.Nonempty)
    (kPositive : 1 ≤ k) :
    reciprocalRankAtK sourcePaths relevant k =
      .ok (reciprocalRank (· ∈ relevant) (window sourcePaths k) 0) := by
  rw [reciprocalRankAtK, if_neg relevantNonempty.ne_empty, collapse_eq _ _ kPositive,
    ← reciprocalRankLoop_eq]

/-- A larger window has no fewer hits. -/
theorem hitCount_window_mono
    (larger : Int)
    (atLeast : k ≤ larger) :
    hitCount (· ∈ relevant) (window sourcePaths k) ≤
      hitCount (· ∈ relevant) (window sourcePaths larger) := by
  rw [← card_found, ← card_found]
  refine Finset.card_le_card (Finset.inter_subset_inter_left fun path member => ?_)
  rw [List.mem_toFinset, window, mem_collapseLoop] at member ⊢
  exact ⟨(List.take_prefix_take_left (Int.toNat_le_toNat atLeast)).subset member.1, member.2⟩

/-- The first document of the window is the first document. -/
theorem head?_window (kPositive : 1 ≤ k) :
    (window sourcePaths k).head? = sourcePaths.head? := by
  obtain ⟨rest, count⟩ : ∃ rest, k.toNat = rest + 1 := ⟨k.toNat - 1, by omega⟩
  cases sourcePaths with
  | nil => rw [window, List.take_nil, collapseLoop]
  | cons path paths =>
      rw [window, count, List.take_succ_cons, collapseLoop, if_pos (Finset.notMem_empty _)]
      rfl

/-- The precisions are those of a perfect window when the first documents are all relevant. -/
theorem precisions_eq_min_iff :
    precisions (· ∈ relevant) 0 0 (window sourcePaths k) =
        ((min relevant.card k.toNat : Nat) : ℚ) ↔
      min relevant.card k.toNat ≤ (window sourcePaths k).length ∧
        ∀ path ∈ (window sourcePaths k).take (min relevant.card k.toNat), path ∈ relevant := by
  have above := precisions_le (K := ℚ) (· ∈ relevant) 0 0 (window sourcePaths k) le_rfl
  have most := hitCount_le sourcePaths relevant k
  constructor
  · intro perfect
    rw [perfect, Nat.cast_le] at above
    have full := Nat.le_antisymm most above
    rw [← full] at perfect ⊢
    exact ⟨List.countP_le_length, first_hits_of_precisions_eq _ 0 _ perfect⟩
  · rintro ⟨enough, first⟩
    refine le_antisymm (above.trans (Nat.cast_le.mpr most)) ?_
    exact le_precisions _ 0 _ _ enough first

end Window

/-! ## Soundness -/

/-- What the three metrics of a query say. -/
structure Sound
    (sourcePaths : List Str)
    (relevant : Finset Str)
    (k : Int)
    (share precision rank : ℚ) : Prop where
  /-- The recall is between zero and one. -/
  recall_bounds : 0 ≤ share ∧ share ≤ 1
  /-- The average precision is between zero and one. -/
  precision_bounds : 0 ≤ precision ∧ precision ≤ 1
  /-- The reciprocal rank is between zero and one. -/
  rank_bounds : 0 ≤ rank ∧ rank ≤ 1
  /-- The recall does not fall with the window. -/
  recall_mono : ∀ larger, k ≤ larger →
    ∃ more, recallAtK sourcePaths relevant larger = .ok more ∧ share ≤ more
  /-- They are zero together. -/
  zero_together : (share = 0 ↔ precision = 0) ∧ (precision = 0 ↔ rank = 0)
  /-- The average precision is perfect when the first documents are all relevant. -/
  precision_eq_one : ∃ collapsed, collapse sourcePaths k = .ok collapsed ∧
    (precision = 1 ↔ min relevant.card k.toNat ≤ collapsed.length ∧
      ∀ path ∈ collapsed.take (min relevant.card k.toNat), path ∈ relevant)
  /-- The reciprocal rank is perfect when the first document is relevant. -/
  rank_eq_one : rank = 1 ↔ ∃ path ∈ sourcePaths.head?, path ∈ relevant
  /-- Of distinct documents, a relevant one that moves up lowers neither. -/
  exchange : ∀ before low high after, sourcePaths = before ++ low :: high :: after →
    sourcePaths.Nodup → low ∉ relevant → high ∈ relevant →
      ∃ precision' rank',
        averagePrecisionAtK (before ++ high :: low :: after) relevant k = .ok precision' ∧
          reciprocalRankAtK (before ++ high :: low :: after) relevant k = .ok rank' ∧
            precision ≤ precision' ∧ rank ≤ rank'

/-- The metrics of every list of documents are sound. -/
theorem metrics_sound
    (sourcePaths : List Str)
    (relevant : Finset Str)
    (k : Int)
    (relevantNonempty : relevant.Nonempty)
    (kPositive : 1 ≤ k) :
    ∃ share precision rank,
      recallAtK sourcePaths relevant k = .ok share ∧
        averagePrecisionAtK sourcePaths relevant k = .ok precision ∧
          reciprocalRankAtK sourcePaths relevant k = .ok rank ∧
            Sound sourcePaths relevant k share precision rank := by
  have cardPositive : (0 : ℚ) < relevant.card := Nat.cast_pos.mpr relevantNonempty.card_pos
  have minPositive : (0 : ℚ) < (min relevant.card k.toNat : Nat) :=
    Nat.cast_pos.mpr (min_pos relevant k relevantNonempty kPositive)
  have most := hitCount_le sourcePaths relevant k
  have precisionsBelow := precisions_le (K := ℚ) (· ∈ relevant) 0 0 (window sourcePaths k) le_rfl
  have precisionsNonneg := precisions_nonneg (K := ℚ) (· ∈ relevant) 0 0 (window sourcePaths k)
  have precisionsZero : precisions (K := ℚ) (· ∈ relevant) 0 0 (window sourcePaths k) = 0 ↔
      hitCount (· ∈ relevant) (window sourcePaths k) = 0 := by
    refine ⟨fun zero => ?_, fun zero => ?_⟩
    · exact Nat.eq_zero_of_not_pos fun some =>
        (precisions_pos (K := ℚ) (· ∈ relevant) 0 0 (window sourcePaths k) some).ne' zero
    · rw [zero, Nat.cast_zero] at precisionsBelow
      exact le_antisymm precisionsBelow precisionsNonneg
  have rankZero : reciprocalRank (K := ℚ) (· ∈ relevant) (window sourcePaths k) 0 = 0 ↔
      hitCount (· ∈ relevant) (window sourcePaths k) = 0 := by
    rw [reciprocalRank_eq_zero_iff, hitCount, List.countP_eq_zero]
    simp only [decide_eq_true_eq]
  have rankAtMost := reciprocalRank_le (K := ℚ) (· ∈ relevant) (window sourcePaths k) 0
  rw [Nat.zero_add, Nat.cast_one, div_one] at rankAtMost
  refine ⟨_, _, _, recallAtK_eq sourcePaths relevant k relevantNonempty kPositive,
    averagePrecisionAtK_eq sourcePaths relevant k relevantNonempty kPositive,
    reciprocalRankAtK_eq sourcePaths relevant k relevantNonempty kPositive, ?_⟩
  constructor
  case recall_bounds =>
    refine ⟨div_nonneg (Nat.cast_nonneg _) (Nat.cast_nonneg _), ?_⟩
    exact div_le_one_of_le₀ (Nat.cast_le.mpr (most.trans (min_le_left _ _))) (Nat.cast_nonneg _)
  case precision_bounds =>
    refine ⟨div_nonneg precisionsNonneg (Nat.cast_nonneg _), ?_⟩
    exact div_le_one_of_le₀ (precisionsBelow.trans (Nat.cast_le.mpr most)) (Nat.cast_nonneg _)
  case rank_bounds =>
    exact ⟨reciprocalRank_nonneg _ _ _, rankAtMost⟩
  case recall_mono =>
    intro larger atLeast
    refine ⟨_, recallAtK_eq sourcePaths relevant larger relevantNonempty
      (kPositive.trans atLeast), ?_⟩
    exact div_le_div_of_nonneg_right
      (Nat.cast_le.mpr (hitCount_window_mono sourcePaths relevant k larger atLeast))
      (Nat.cast_nonneg _)
  case zero_together =>
    rw [div_eq_zero_iff, div_eq_zero_iff, or_iff_left cardPositive.ne',
      or_iff_left minPositive.ne', Nat.cast_eq_zero, precisionsZero]
    exact ⟨Iff.rfl, rankZero.symm⟩
  case precision_eq_one =>
    refine ⟨_, collapse_eq sourcePaths k kPositive, ?_⟩
    rw [div_eq_one_iff_eq minPositive.ne']
    exact precisions_eq_min_iff sourcePaths relevant k
  case rank_eq_one =>
    rw [reciprocalRank_eq_one_iff, head?_window _ _ kPositive]
  case exchange =>
    rintro before low high after rfl distinct lowIrrelevant highRelevant
    have swapped : (before ++ high :: low :: after).Nodup :=
      (List.Perm.append_left before (List.Perm.swap _ _ _)).nodup distinct
    refine ⟨_, _, averagePrecisionAtK_eq _ relevant k relevantNonempty kPositive,
      reciprocalRankAtK_eq _ relevant k relevantNonempty kPositive, ?_, ?_⟩
    · rw [window_of_nodup _ _ distinct, window_of_nodup _ _ swapped]
      exact div_le_div_of_nonneg_right
        (precisions_take_exchange _ low high lowIrrelevant highRelevant _ _ _)
        (Nat.cast_nonneg _)
    · rw [window_of_nodup _ _ distinct, window_of_nodup _ _ swapped]
      exact reciprocalRank_take_exchange _ low high (fun _ => highRelevant) _ _ _

/-- Two chunks of one document, a document that is not relevant and one that is: everything
relevant is found, the second document one place too late. -/
theorem metrics_sound_sample :
    let paths := ["a".toList, "a".toList, "b".toList, "c".toList]
    let relevant : Finset Str := {"a".toList, "c".toList}
    recallAtK paths relevant 4 = .ok 1 ∧
      averagePrecisionAtK paths relevant 4 = .ok (5 / 6) ∧
        reciprocalRankAtK paths relevant 4 = .ok 1 ∧
          Sound paths relevant 4 1 (5 / 6) 1 := by
  intro paths relevant
  have shareIs : recallAtK paths relevant 4 = .ok 1 := by decide +kernel
  have precisionIs : averagePrecisionAtK paths relevant 4 = .ok (5 / 6) := by decide +kernel
  have rankIs : reciprocalRankAtK paths relevant 4 = .ok 1 := by decide +kernel
  obtain ⟨share, precision, rank, recalled, averaged, ranked, sound⟩ :=
    metrics_sound paths relevant 4 ⟨"a".toList, by decide⟩ (by decide)
  obtain rfl := Except.ok.inj (shareIs.symm.trans recalled)
  obtain rfl := Except.ok.inj (precisionIs.symm.trans averaged)
  obtain rfl := Except.ok.inj (rankIs.symm.trans ranked)
  exact ⟨shareIs, precisionIs, rankIs, sound⟩

end Evaluation
end ChatPlatform
