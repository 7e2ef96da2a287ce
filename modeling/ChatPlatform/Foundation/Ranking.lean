import Mathlib.Algebra.BigOperators.Module
import Mathlib.Algebra.Order.BigOperators.Group.List
import Mathlib.Algebra.Order.BigOperators.Ring.Finset
import Mathlib.Algebra.Order.Field.Basic
import Mathlib.Algebra.Order.Field.Rat
import Mathlib.Data.Multiset.Basic
import Mathlib.Tactic.GCongr
import Mathlib.Tactic.Linarith
import Mathlib.Tactic.Ring

/-!
# Rankings

The scores of a ranked list: the reciprocal rank of its first hit, the precisions at its hits, and
the sum of its gains under weights that fall with the rank. No selection of gains has a larger
weighted sum than the largest gains in their order, and none of the scores falls when the better
one of two neighbours moves up.
-/

namespace ChatPlatform
namespace Ranking

/-! ## The rank of the first hit -/

section Reciprocal

variable {α K : Type*} [Field K] (hit : α → Prop) [DecidablePred hit]

/-- The reciprocal of the rank of the first hit, where `place` entries come before the list, and
zero without a hit. -/
def reciprocalRank : List α → Nat → K
  | [], _ => 0
  | entry :: rest, place =>
      if hit entry then 1 / ((place + 1 : Nat) : K) else reciprocalRank rest (place + 1)

/-- A hit at the first place. -/
theorem reciprocalRank_of_hit
    (entry : α)
    (rest : List α)
    (place : Nat)
    (hits : hit entry) :
    reciprocalRank (K := K) hit (entry :: rest) place = 1 / ((place + 1 : Nat) : K) :=
  if_pos hits

/-- No hit at the first place. -/
theorem reciprocalRank_of_miss
    (entry : α)
    (rest : List α)
    (place : Nat)
    (misses : ¬hit entry) :
    reciprocalRank (K := K) hit (entry :: rest) place = reciprocalRank hit rest (place + 1) :=
  if_neg misses

/-- A reciprocal rank is zero without a hit, and otherwise that of the first hit. -/
theorem reciprocalRank_cases
    (entries : List α)
    (place : Nat) :
    ((∀ entry ∈ entries, ¬hit entry) ∧ reciprocalRank (K := K) hit entries place = 0) ∨
      ∃ before entry after, entries = before ++ entry :: after ∧ hit entry ∧
        (∀ other ∈ before, ¬hit other) ∧
          reciprocalRank (K := K) hit entries place =
            1 / ((place + before.length + 1 : Nat) : K) := by
  induction entries generalizing place with
  | nil => exact .inl ⟨fun _ member => absurd member List.not_mem_nil, rfl⟩
  | cons first rest ih =>
      by_cases hits : hit first
      · refine .inr ⟨[], first, rest, rfl, hits, fun _ member => absurd member List.not_mem_nil, ?_⟩
        exact reciprocalRank_of_hit hit first rest place hits
      · rw [reciprocalRank_of_miss hit first rest place hits]
        obtain ⟨none, zero⟩ | ⟨before, entry, after, rfl, hit', none, rank⟩ := ih (place + 1)
        · exact .inl ⟨List.forall_mem_cons.mpr ⟨hits, none⟩, zero⟩
        · refine .inr ⟨first :: before, entry, after, rfl, hit',
            List.forall_mem_cons.mpr ⟨hits, none⟩, ?_⟩
          rw [rank, List.length_cons, Nat.add_right_comm place 1, Nat.add_assoc place]

variable [LinearOrder K]

/-- Lists after the same entries compare as they do by themselves. -/
theorem reciprocalRank_append_le
    (before low high : List α)
    (place : Nat)
    (lower : ∀ place, reciprocalRank (K := K) hit low place ≤ reciprocalRank hit high place) :
    reciprocalRank (K := K) hit (before ++ low) place ≤
      reciprocalRank hit (before ++ high) place := by
  induction before generalizing place with
  | nil => exact lower place
  | cons entry rest ih =>
      rw [List.cons_append, List.cons_append, reciprocalRank, reciprocalRank]
      split
      · exact le_rfl
      · exact ih _

variable [IsStrictOrderedRing K]

/-- A reciprocal rank is at most the reciprocal of the first rank. -/
theorem reciprocalRank_le
    (entries : List α)
    (place : Nat) :
    reciprocalRank (K := K) hit entries place ≤ 1 / ((place + 1 : Nat) : K) := by
  obtain ⟨-, zero⟩ | ⟨before, entry, after, -, -, -, rank⟩ :=
    reciprocalRank_cases (K := K) hit entries place
  · rw [zero]
    exact div_nonneg zero_le_one (Nat.cast_nonneg _)
  · rw [rank]
    exact one_div_le_one_div_of_le (Nat.cast_pos.mpr (Nat.succ_pos _))
      (Nat.cast_le.mpr (by omega))

/-- A reciprocal rank is not negative. -/
theorem reciprocalRank_nonneg
    (entries : List α)
    (place : Nat) : 0 ≤ reciprocalRank (K := K) hit entries place := by
  obtain ⟨-, zero⟩ | ⟨before, entry, after, -, -, -, rank⟩ :=
    reciprocalRank_cases (K := K) hit entries place
  · exact zero.ge
  · rw [rank]
    exact div_nonneg zero_le_one (Nat.cast_nonneg _)

/-- A reciprocal rank is zero without a hit only. -/
theorem reciprocalRank_eq_zero_iff
    (entries : List α)
    (place : Nat) :
    reciprocalRank (K := K) hit entries place = 0 ↔ ∀ entry ∈ entries, ¬hit entry := by
  obtain ⟨none, zero⟩ | ⟨before, entry, after, rfl, hits, -, rank⟩ :=
    reciprocalRank_cases (K := K) hit entries place
  · exact iff_of_true zero none
  · rw [rank]
    refine iff_of_false (one_div_ne_zero (Nat.cast_ne_zero.mpr (Nat.succ_ne_zero _))) ?_
    exact fun none => none entry (List.mem_append_right _ List.mem_cons_self) hits

/-- A reciprocal rank reaches the reciprocal of a rank when a hit stands there or before. -/
theorem one_div_le_reciprocalRank_iff
    (entries : List α)
    (place count : Nat)
    (countPositive : 0 < count) :
    1 / ((place + count : Nat) : K) ≤ reciprocalRank hit entries place ↔
      ∃ entry ∈ entries.take count, hit entry := by
  have positive : (0 : K) < ((place + count : Nat) : K) := Nat.cast_pos.mpr (by omega)
  induction entries generalizing place count with
  | nil =>
      rw [List.take_nil]
      refine iff_of_false (not_le.mpr (one_div_pos.mpr positive)) ?_
      exact fun ⟨_, member, _⟩ => absurd member List.not_mem_nil
  | cons first rest ih =>
      obtain ⟨count, rfl⟩ : ∃ other, count = other + 1 := ⟨count - 1, by omega⟩
      rw [List.take_succ_cons]
      by_cases hits : hit first
      · rw [reciprocalRank_of_hit hit first rest place hits]
        refine iff_of_true ?_ ⟨first, List.mem_cons_self, hits⟩
        exact one_div_le_one_div_of_le (Nat.cast_pos.mpr (Nat.succ_pos _))
          (Nat.cast_le.mpr (by omega))
      · rw [reciprocalRank_of_miss hit first rest place hits, ← Nat.add_assoc,
          Nat.add_right_comm]
        rcases Nat.eq_zero_or_pos count with rfl | more
        · rw [List.take_zero]
          refine iff_of_false (not_le.mpr ?_) ?_
          · refine (reciprocalRank_le hit rest (place + 1)).trans_lt ?_
            exact one_div_lt_one_div_of_lt (Nat.cast_pos.mpr (Nat.succ_pos _))
              (Nat.cast_lt.mpr (by omega))
          · rintro ⟨entry, member, hits'⟩
            obtain rfl := List.mem_singleton.mp member
            exact hits hits'
        · refine (ih (place + 1) count more (Nat.cast_pos.mpr (by omega))).trans ?_
          constructor
          · rintro ⟨entry, member, hits'⟩
            exact ⟨entry, List.mem_cons_of_mem _ member, hits'⟩
          · rintro ⟨entry, member, hits'⟩
            obtain rfl | member := List.mem_cons.mp member
            · exact absurd hits' hits
            · exact ⟨entry, member, hits'⟩

/-- A reciprocal rank is one when the first entry is a hit. -/
theorem reciprocalRank_eq_one_iff (entries : List α) :
    reciprocalRank (K := K) hit entries 0 = 1 ↔ ∃ entry ∈ entries.head?, hit entry := by
  have below := reciprocalRank_le (K := K) hit entries 0
  have reached := one_div_le_reciprocalRank_iff (K := K) hit entries 0 1 Nat.one_pos
  rw [Nat.zero_add, Nat.cast_one, div_one] at below reached
  rw [List.take_one] at reached
  simp only [Option.mem_toList] at reached
  exact ⟨fun one => reached.mp one.ge, fun first => le_antisymm below (reached.mpr first)⟩

end Reciprocal

/-! ## The precisions at the hits -/

section Precisions

variable {α K : Type*} [Field K] (hit : α → Prop) [DecidablePred hit]

/-- The number of hits of a list. -/
def hitCount (entries : List α) : Nat := entries.countP fun entry => decide (hit entry)

/-- The sum of the precisions at the hits of a list, where `earlier` of the `place` entries before
it are hits. -/
def precisions : Nat → Nat → List α → K
  | _, _, [] => 0
  | earlier, place, entry :: rest =>
      if hit entry then
        ((earlier + 1 : Nat) : K) / ((place + 1 : Nat) : K) +
          precisions (earlier + 1) (place + 1) rest
      else precisions earlier (place + 1) rest

/-- A hit counts. -/
theorem hitCount_of_hit
    (entry : α)
    (rest : List α)
    (member : hit entry) : hitCount hit (entry :: rest) = hitCount hit rest + 1 :=
  List.countP_cons_of_pos (decide_eq_true member)

/-- A hit counts, in the field of the scores. -/
theorem cast_hitCount_of_hit
    (entry : α)
    (rest : List α)
    (member : hit entry) :
    (hitCount hit (entry :: rest) : K) = 1 + (hitCount hit rest : K) := by
  rw [hitCount_of_hit _ _ _ member, Nat.cast_add, Nat.cast_one, add_comm]

/-- Any other entry does not count. -/
theorem hitCount_of_miss
    (entry : α)
    (rest : List α)
    (absent : ¬hit entry) : hitCount hit (entry :: rest) = hitCount hit rest :=
  List.countP_cons_of_neg (by rwa [decide_eq_true_eq])

/-- Precisions of two lists in a row. -/
theorem precisions_append
    (earlier place : Nat)
    (before after : List α) :
    precisions (K := K) hit earlier place (before ++ after) =
      precisions hit earlier place before +
        precisions hit (earlier + hitCount hit before) (place + before.length) after := by
  induction before generalizing earlier place with
  | nil => exact (zero_add _).symm
  | cons entry rest ih =>
      rw [List.cons_append, precisions, precisions, List.length_cons, Nat.add_comm rest.length,
        ← Nat.add_assoc]
      split
      case isTrue member =>
        rw [ih, hitCount_of_hit _ _ _ member, Nat.add_comm (hitCount hit rest),
          ← Nat.add_assoc, ← add_assoc]
      case isFalse absent => rw [ih, hitCount_of_miss _ _ _ absent]

variable [LinearOrder K] [IsStrictOrderedRing K]

/-- A precision is at most one. -/
theorem precision_le_one
    (earlier place : Nat)
    (fewer : earlier ≤ place) : ((earlier + 1 : Nat) : K) / ((place + 1 : Nat) : K) ≤ 1 :=
  div_le_one_of_le₀ (Nat.cast_le.mpr (Nat.succ_le_succ fewer)) (Nat.cast_nonneg _)

/-- Precisions are not negative. -/
theorem precisions_nonneg
    (earlier place : Nat)
    (entries : List α) : 0 ≤ precisions (K := K) hit earlier place entries := by
  induction entries generalizing earlier place with
  | nil => exact le_rfl
  | cons entry rest ih =>
      rw [precisions]
      split
      · exact add_nonneg (div_nonneg (Nat.cast_nonneg _) (Nat.cast_nonneg _)) (ih _ _)
      · exact ih _ _

/-- Precisions sum to at most the number of hits. -/
theorem precisions_le
    (earlier place : Nat)
    (entries : List α)
    (fewer : earlier ≤ place) :
    precisions hit earlier place entries ≤ (hitCount hit entries : K) := by
  induction entries generalizing earlier place with
  | nil => exact Nat.cast_zero.ge
  | cons entry rest ih =>
      rw [precisions]
      split
      case isTrue member =>
        rw [cast_hitCount_of_hit _ _ _ member]
        exact add_le_add (precision_le_one _ _ fewer) (ih _ _ (Nat.succ_le_succ fewer))
      case isFalse absent =>
        rw [hitCount_of_miss _ _ _ absent]
        exact ih _ _ (fewer.trans (Nat.le_succ _))

/-- After an entry that is no hit, hits have precisions below one. -/
theorem precisions_lt
    (earlier place : Nat)
    (entries : List α)
    (fewer : earlier < place)
    (some : 0 < hitCount hit entries) :
    precisions hit earlier place entries < (hitCount hit entries : K) := by
  induction entries generalizing place with
  | nil => exact absurd some (lt_irrefl 0)
  | cons entry rest ih =>
      rw [precisions]
      split
      case isTrue member =>
        rw [cast_hitCount_of_hit _ _ _ member]
        refine add_lt_add_of_lt_of_le ?_ (precisions_le hit _ _ _ (Nat.succ_le_succ fewer.le))
        rw [div_lt_one (Nat.cast_pos.mpr (Nat.succ_pos _)), Nat.cast_lt]
        exact Nat.succ_lt_succ fewer
      case isFalse absent =>
        rw [hitCount_of_miss _ _ _ absent] at some ⊢
        exact ih _ (fewer.trans (Nat.lt_succ_self _)) some

/-- A hit has a positive precision. -/
theorem precisions_pos
    (earlier place : Nat)
    (entries : List α)
    (some : 0 < hitCount hit entries) : 0 < precisions (K := K) hit earlier place entries := by
  induction entries generalizing place with
  | nil => exact absurd some (lt_irrefl 0)
  | cons entry rest ih =>
      rw [precisions]
      split
      · exact add_pos_of_pos_of_nonneg
          (div_pos (Nat.cast_pos.mpr (Nat.succ_pos _)) (Nat.cast_pos.mpr (Nat.succ_pos _)))
          (precisions_nonneg hit _ _ _)
      case isFalse absent =>
        rw [hitCount_of_miss _ _ _ absent] at some
        exact ih _ some

/-- Precisions that sum to the number of hits are those of hits that come first. -/
theorem first_hits_of_precisions_eq
    (place : Nat)
    (entries : List α)
    (full : precisions hit place place entries = (hitCount hit entries : K)) :
    ∀ entry ∈ entries.take (hitCount hit entries), hit entry := by
  induction entries generalizing place with
  | nil => exact fun _ member => absurd member List.not_mem_nil
  | cons first rest ih =>
      by_cases member : hit first
      · rw [precisions, if_pos member, cast_hitCount_of_hit _ _ _ member,
          div_self (Nat.cast_ne_zero.mpr (Nat.succ_ne_zero place)), add_right_inj] at full
        rw [hitCount_of_hit _ _ _ member, List.take_succ_cons]
        exact List.forall_mem_cons.mpr ⟨member, ih _ full⟩
      · rw [precisions, if_neg member, hitCount_of_miss _ _ _ member] at full
        rw [hitCount_of_miss _ _ _ member]
        rcases Nat.eq_zero_or_pos (hitCount hit rest) with none | some
        · rw [none, List.take_zero]
          exact fun _ member => absurd member List.not_mem_nil
        · exact absurd full (precisions_lt (K := K) hit _ _ _ (Nat.lt_succ_self _) some).ne

/-- Hits that come first have precision one. -/
theorem le_precisions
    (place count : Nat)
    (entries : List α)
    (enough : count ≤ entries.length)
    (first : ∀ entry ∈ entries.take count, hit entry) :
    (count : K) ≤ precisions hit place place entries := by
  induction entries generalizing place count with
  | nil =>
      obtain rfl := Nat.le_zero.mp enough
      exact Nat.cast_zero.le
  | cons entry rest ih =>
      cases count with
      | zero => exact Nat.cast_zero.le.trans (precisions_nonneg hit _ _ _)
      | succ count =>
          rw [List.take_succ_cons, List.forall_mem_cons] at first
          rw [precisions, if_pos first.1,
            div_self (Nat.cast_ne_zero.mpr (Nat.succ_ne_zero place)), Nat.cast_add, Nat.cast_one,
            add_comm]
          exact add_le_add le_rfl (ih _ _ (Nat.succ_le_succ_iff.mp enough) first.2)

/-- A hit contributes more one place earlier. -/
theorem precisions_exchange
    (earlier place : Nat)
    (low high : α)
    (rest : List α)
    (lowMisses : ¬hit low)
    (highHits : hit high) :
    precisions (K := K) hit earlier place (low :: high :: rest) ≤
      precisions hit earlier place (high :: low :: rest) := by
  rw [precisions, if_neg lowMisses, precisions, if_pos highHits, precisions,
    if_pos highHits, precisions, if_neg lowMisses]
  refine add_le_add (div_le_div_of_nonneg_left (Nat.cast_nonneg _)
    (Nat.cast_pos.mpr (Nat.succ_pos _)) (Nat.cast_le.mpr (Nat.le_succ _))) le_rfl


end Precisions

/-! ## Weighted gains -/

section Discounted

variable {K : Type*} [Field K]

/-- The sum of the gains of a list under the weights of their ranks, where `place` entries come
before the list. -/
def discounted (weight : Nat → K) : List K → Nat → K
  | [], _ => 0
  | gain :: rest, place => gain * weight place + discounted weight rest (place + 1)

/-- The sum of the first gains. -/
theorem sum_range_getD
    (gains : List K)
    (count : Nat) :
    ∑ place ∈ Finset.range count, gains.getD place 0 = (gains.take count).sum := by
  induction gains generalizing count with
  | nil => simp only [List.getD_nil, Finset.sum_const_zero, List.take_nil, List.sum_nil]
  | cons gain rest ih =>
      cases count with
      | zero => rfl
      | succ count =>
          rw [Finset.sum_range_succ', List.take_succ_cons, List.sum_cons, ← ih, add_comm]
          simp only [List.getD_cons_zero, List.getD_cons_succ]

/-- The weighted sum of a list is that of its entries, followed by zeros. -/
theorem discounted_eq_sum
    (weight : Nat → K)
    (gains : List K)
    (place count : Nat)
    (enough : gains.length ≤ count) :
    discounted weight gains place =
      ∑ rank ∈ Finset.range count, weight (place + rank) * gains.getD rank 0 := by
  induction gains generalizing place count with
  | nil => simp only [discounted, List.getD_nil, mul_zero, Finset.sum_const_zero]
  | cons gain rest ih =>
      obtain ⟨count, rfl⟩ : ∃ other, count = other + 1 :=
        ⟨count - 1, by rw [List.length_cons] at enough; omega⟩
      rw [discounted, ih (place + 1) count (Nat.succ_le_succ_iff.mp enough),
        Finset.sum_range_succ', add_comm, mul_comm gain]
      simp only [List.getD_cons_zero, List.getD_cons_succ, Nat.add_zero, Nat.add_assoc,
        Nat.add_comm 1]

variable [LinearOrder K]

/-- The gains of one list are at most those of another, however many of the first are summed. -/
def Dominated (low high : List K) : Prop :=
  ∀ count, (low.take count).sum ≤ (high.take count).sum

/-- First entries of dominated gains are dominated by as many. -/
theorem Dominated.take
    (low high : List K)
    (dominated : Dominated low high)
    (count : Nat) : Dominated (low.take count) (high.take count) := by
  intro fewer
  rw [List.take_take, List.take_take]
  exact dominated _

variable [IsStrictOrderedRing K]

section Weighted

variable (weight gain : Nat → K)
variable (falling : StrictAnti weight) (positive : ∀ rank, 0 < weight rank)

include falling positive

/-- A weighted sum is not negative when no sum of first gains is, and zero only when all of these
are. -/
theorem weighted_sum_of_first_sums
    (count : Nat)
    (firstSums : ∀ fewer ≤ count, 0 ≤ ∑ rank ∈ Finset.range fewer, gain rank) :
    0 ≤ ∑ rank ∈ Finset.range count, weight rank * gain rank ∧
      (∑ rank ∈ Finset.range count, weight rank * gain rank = 0 →
        ∀ fewer ≤ count, ∑ rank ∈ Finset.range fewer, gain rank = 0) := by
  induction count with
  | zero =>
      refine ⟨le_rfl, fun _ fewer none => ?_⟩
      rw [Nat.le_zero.mp none, Finset.sum_range_zero]
  | succ count =>
      have parts := Finset.sum_range_by_parts weight gain (count + 1)
      simp only [smul_eq_mul, Nat.add_sub_cancel] at parts
      rw [sub_eq_add_neg, ← Finset.sum_neg_distrib] at parts
      have last : 0 ≤ weight count * ∑ rank ∈ Finset.range (count + 1), gain rank :=
        mul_nonneg (positive count).le (firstSums _ le_rfl)
      have steps : ∀ rank ∈ Finset.range count,
          0 ≤ -((weight (rank + 1) - weight rank) *
            ∑ earlier ∈ Finset.range (rank + 1), gain earlier) := by
        intro rank member
        rw [← neg_mul, neg_sub]
        refine mul_nonneg (sub_nonneg.mpr (falling (Nat.lt_succ_self rank)).le) ?_
        exact firstSums _ (Nat.succ_le_succ (Finset.mem_range.mp member).le)
      rw [parts]
      refine ⟨add_nonneg last (Finset.sum_nonneg steps), fun zero fewer within => ?_⟩
      rw [add_eq_zero_iff_of_nonneg last (Finset.sum_nonneg steps),
        Finset.sum_eq_zero_iff_of_nonneg steps] at zero
      cases fewer with
      | zero => exact Finset.sum_range_zero _
      | succ fewer =>
          rcases Nat.lt_or_eq_of_le (Nat.succ_le_succ_iff.mp within) with below | rfl
          · have step := zero.2 fewer (Finset.mem_range.mpr below)
            rw [neg_eq_zero, mul_eq_zero, sub_eq_zero] at step
            exact step.resolve_left (falling (Nat.lt_succ_self fewer)).ne
          · exact (mul_eq_zero.mp zero.1).resolve_left (positive fewer).ne'

end Weighted

variable (weight : Nat → K) (falling : StrictAnti weight) (positive : ∀ rank, 0 < weight rank)

include falling positive

/-- Dominated gains have a weighted sum that is no larger, and as large only when the gains are
the same. -/
theorem discounted_of_dominated
    (low high : List K)
    (dominated : Dominated low high) :
    discounted weight low 0 ≤ discounted weight high 0 ∧
      (discounted weight low 0 = discounted weight high 0 →
        ∀ rank, low.getD rank 0 = high.getD rank 0) := by
  obtain ⟨count, atLeast⟩ : ∃ count, count = max low.length high.length := ⟨_, rfl⟩
  have firstSums : ∀ fewer, 0 ≤ ∑ rank ∈ Finset.range fewer,
      (high.getD rank 0 - low.getD rank 0) := by
    intro fewer
    rw [Finset.sum_sub_distrib, sum_range_getD, sum_range_getD, sub_nonneg]
    exact dominated fewer
  have difference : ∀ larger, count ≤ larger →
      discounted weight high 0 - discounted weight low 0 =
        ∑ rank ∈ Finset.range larger, weight rank * (high.getD rank 0 - low.getD rank 0) := by
    intro larger enough
    rw [discounted_eq_sum weight low 0 larger (by omega),
      discounted_eq_sum weight high 0 larger (by omega), ← Finset.sum_sub_distrib]
    simp only [Nat.zero_add, mul_sub]
  constructor
  · rw [← sub_nonneg, difference count le_rfl]
    exact (weighted_sum_of_first_sums weight _ falling positive count
      fun fewer _ => firstSums fewer).1
  · intro same rank
    have zero := (difference (count + rank + 1) (by omega)).symm
    rw [sub_eq_zero.mpr same.symm] at zero
    have sums := (weighted_sum_of_first_sums weight _ falling positive _
      fun fewer _ => firstSums fewer).2 zero
    have one := sums (rank + 1) (by omega)
    rw [Finset.sum_range_succ, sums rank (by omega), zero_add, sub_eq_zero] at one
    exact one.symm

end Discounted

/-! ## The largest gains -/

section Largest

variable {K : Type*} [Field K] [LinearOrder K] [IsStrictOrderedRing K]

/-- No selection of gains exceeds as many of the largest. -/
theorem sum_le_sum_take
    (gains : List K)
    (chosen : Multiset K)
    (count : Nat)
    (ordered : gains.Pairwise (· ≥ ·))
    (natural : ∀ gain ∈ gains, 0 ≤ gain)
    (inside : chosen ≤ (gains : Multiset K))
    (few : chosen.card ≤ count) : chosen.sum ≤ (gains.take count).sum := by
  induction gains generalizing chosen count with
  | nil =>
      obtain rfl := Multiset.le_zero.mp inside
      rw [List.take_nil]
      exact le_rfl
  | cons largest rest ih =>
      rw [List.pairwise_cons] at ordered
      rw [List.forall_mem_cons] at natural
      rw [← Multiset.cons_coe] at inside
      cases count with
      | zero =>
          obtain rfl := Multiset.card_eq_zero.mp (Nat.le_zero.mp few)
          exact le_rfl
      | succ count =>
          rw [List.take_succ_cons, List.sum_cons]
          by_cases member : largest ∈ chosen
          · obtain ⟨others, rfl⟩ := Multiset.exists_cons_of_mem member
            rw [Multiset.card_cons] at few
            rw [Multiset.sum_cons]
            exact add_le_add le_rfl (ih others count ordered.2 natural.2
              ((Multiset.cons_le_cons_iff _).mp inside) (Nat.succ_le_succ_iff.mp few))
          · rw [Multiset.le_cons_of_notMem member] at inside
            rcases Multiset.empty_or_exists_mem chosen with rfl | ⟨gain, chosenGain⟩
            · rw [Multiset.sum_zero]
              refine add_nonneg natural.1 (List.sum_nonneg fun gain taken => ?_)
              exact natural.2 gain (List.mem_of_mem_take taken)
            · obtain ⟨others, rfl⟩ := Multiset.exists_cons_of_mem chosenGain
              rw [Multiset.card_cons] at few
              rw [Multiset.sum_cons]
              have member := Multiset.mem_coe.mp (Multiset.mem_of_le inside chosenGain)
              exact add_le_add (ordered.1 gain member) (ih others count ordered.2 natural.2
                ((Multiset.le_cons_self _ _).trans inside) (Nat.succ_le_succ_iff.mp few))

/-- A list of some of the gains is dominated by all of them in their order. -/
theorem dominated_of_le
    (some gains : List K)
    (ordered : gains.Pairwise (· ≥ ·))
    (natural : ∀ gain ∈ gains, 0 ≤ gain)
    (inside : (some : Multiset K) ≤ (gains : Multiset K)) : Dominated some gains := by
  intro count
  have taken : ((some.take count : List K) : Multiset K) ≤ (gains : Multiset K) :=
    (Multiset.coe_le.mpr (List.take_sublist count some).subperm).trans inside
  exact sum_le_sum_take gains _ count ordered natural taken (List.length_take_le count some)

end Largest

/-! ## Neighbours that change places -/

section Exchange

/-- The first entries of a list whose first two change places. -/
theorem take_exchange_cases
    {α : Type*}
    (low high : α)
    (count : Nat)
    (rest : List α) :
    ((low :: high :: rest).take count = [] ∧ (high :: low :: rest).take count = []) ∨
      ((low :: high :: rest).take count = [low] ∧ (high :: low :: rest).take count = [high]) ∨
        ∃ some, (low :: high :: rest).take count = low :: high :: some ∧
          (high :: low :: rest).take count = high :: low :: some := by
  match count with
  | 0 => exact .inl ⟨rfl, rfl⟩
  | 1 => exact .inr (.inl ⟨rfl, rfl⟩)
  | count + 2 => exact .inr (.inr ⟨rest.take count, rfl, rfl⟩)

variable {K : Type*} [Field K] [LinearOrder K] [IsStrictOrderedRing K]

/-- The gains are dominated when the larger one of two neighbours moves up. -/
theorem dominated_exchange
    (before rest : List K)
    (low high : K)
    (atMost : low ≤ high) :
    Dominated (before ++ low :: high :: rest) (before ++ high :: low :: rest) := by
  intro count
  rw [List.take_append, List.take_append, List.sum_append, List.sum_append]
  refine add_le_add le_rfl ?_
  obtain ⟨lower, higher⟩ | ⟨lower, higher⟩ | ⟨some, lower, higher⟩ :=
    take_exchange_cases low high (count - before.length) rest
  · rw [lower, higher]
  · rw [lower, higher, List.sum_singleton, List.sum_singleton]
    exact atMost
  · rw [lower, higher]
    simp only [List.sum_cons]
    exact (add_left_comm low high some.sum).le

variable {α : Type*} (hit : α → Prop) [DecidablePred hit]

/-- The precisions of a window do not fall when a hit moves up. -/
theorem precisions_take_exchange
    (low high : α)
    (lowMisses : ¬hit low)
    (highHits : hit high)
    (count : Nat)
    (before rest : List α) :
    precisions (K := K) hit 0 0 ((before ++ low :: high :: rest).take count) ≤
      precisions hit 0 0 ((before ++ high :: low :: rest).take count) := by
  rw [List.take_append, List.take_append, precisions_append, precisions_append]
  refine add_le_add le_rfl ?_
  obtain ⟨lower, higher⟩ | ⟨lower, higher⟩ | ⟨some, lower, higher⟩ :=
    take_exchange_cases low high (count - before.length) rest
  · rw [lower, higher]
  · rw [lower, higher, precisions, if_neg lowMisses]
    exact precisions_nonneg hit _ _ _
  · rw [lower, higher]
    exact precisions_exchange hit _ _ low high some lowMisses highHits

/-- The reciprocal rank of a window does not fall when the one of two neighbours moves up that is
a hit if the other is. -/
theorem reciprocalRank_take_exchange
    (low high : α)
    (atMost : hit low → hit high)
    (count : Nat)
    (before rest : List α) :
    reciprocalRank (K := K) hit ((before ++ low :: high :: rest).take count) 0 ≤
      reciprocalRank hit ((before ++ high :: low :: rest).take count) 0 := by
  rw [List.take_append, List.take_append]
  refine reciprocalRank_append_le hit _ _ _ 0 fun place => ?_
  obtain ⟨lower, higher⟩ | ⟨lower, higher⟩ | ⟨some, lower, higher⟩ :=
    take_exchange_cases low high (count - before.length) rest
  · rw [lower, higher]
  · rw [lower, higher]
    by_cases hits : hit low
    · rw [reciprocalRank_of_hit hit low _ place hits,
        reciprocalRank_of_hit hit high _ place (atMost hits)]
    · rw [reciprocalRank_of_miss hit low _ place hits]
      exact reciprocalRank_nonneg hit [high] place
  · rw [lower, higher]
    by_cases hits : hit high
    · rw [reciprocalRank_of_hit hit high _ place hits]
      exact reciprocalRank_le hit _ place
    · rw [reciprocalRank_of_miss hit low _ place fun lowHits => hits (atMost lowHits),
        reciprocalRank_of_miss hit high _ _ hits, reciprocalRank_of_miss hit high _ _ hits,
        reciprocalRank_of_miss hit low _ _ fun lowHits => hits (atMost lowHits)]

end Exchange

/-! ## Averages -/

/-- The average of scores between zero and one is between zero and one. -/
theorem average_bounds
    {K : Type*}
    [Field K]
    [LinearOrder K]
    [IsStrictOrderedRing K]
    (scores : List K)
    (bounded : ∀ score ∈ scores, 0 ≤ score ∧ score ≤ 1) :
    0 ≤ scores.sum / (scores.length : K) ∧ scores.sum / (scores.length : K) ≤ 1 := by
  have above : scores.sum ≤ scores.length • (1 : K) :=
    List.sum_le_card_nsmul scores 1 fun score member => (bounded score member).2
  rw [nsmul_one] at above
  exact ⟨div_nonneg (List.sum_nonneg fun score member => (bounded score member).1)
    (Nat.cast_nonneg _), div_le_one_of_le₀ above (Nat.cast_nonneg _)⟩

end Ranking
end ChatPlatform
