import ChatPlatform.Foundation.Queries
import Mathlib.Data.List.NodupEquivFin
import Mathlib.Order.Lattice.Nat

/-!
# Answers in the order of their questions

Answers that carry the numbers of their questions may come in any order. They stand in the
order of the questions exactly when their numbers are those of all questions and sorting by
the numbers leaves the answers as they are.
-/

namespace ChatPlatform
namespace Alignment

open Queries

variable {α : Type}

/-- The numbers of the first questions. -/
def questionNumbers (count : Nat) : List Int :=
  (List.range count).map fun number : Nat => (number : Int)

/-- There is a result for every question: the only answer with its number. -/
def Aligned (count : Nat) (numbers : List Int) (answers results : List α) : Prop :=
  results.length = count ∧ ∀ number < count, ∃ (place : Nat) (answer : α),
    numbers[place]? = some (number : Int) ∧
      (∀ other : Nat, numbers[other]? = some (number : Int) → other = place) ∧
      answers[place]? = some answer ∧ results[number]? = some answer

/-- The answers sorted by their numbers. -/
def sortedAnswers (numbers : List Int) (answers : List α) : List α :=
  (sortBy Prod.fst (numbers.zip answers)).map Prod.snd

theorem questionNumbers_nodup (count : Nat) : (questionNumbers count).Nodup :=
  List.nodup_range.map fun _ _ => Int.ofNat.inj

theorem questionNumbers_sorted (count : Nat) :
    (questionNumbers count).Pairwise (· ≤ ·) := by
  unfold questionNumbers
  rw [List.pairwise_map]
  exact List.pairwise_lt_range.imp fun before => Int.ofNat_le.mpr before.le

theorem getElem?_questionNumbers
    {count number : Nat}
    (inside : number < count) : (questionNumbers count)[number]? = some (number : Int) := by
  unfold questionNumbers
  rw [List.getElem?_map, List.getElem?_range inside]
  rfl

theorem length_questionNumbers (count : Nat) : (questionNumbers count).length = count := by
  rw [questionNumbers, List.length_map, List.length_range]

/-- An answer and its number stand in the same place. -/
theorem mem_zip_iff
    {numbers : List Int}
    {answers : List α}
    (number : Int)
    (answer : α) :
    (number, answer) ∈ numbers.zip answers ↔
      ∃ place : Nat, numbers[place]? = some number ∧ answers[place]? = some answer := by
  rw [List.mem_iff_getElem?]
  constructor
  · rintro ⟨place, found⟩
    exact ⟨place, List.getElem?_zip_eq_some.mp found⟩
  · rintro ⟨place, found⟩
    exact ⟨place, List.getElem?_zip_eq_some.mpr found⟩

section Pairs

variable {numbers : List Int} {answers : List α} (paired : numbers.length = answers.length)

include paired

theorem map_fst_zip_eq : (numbers.zip answers).map Prod.fst = numbers :=
  List.map_fst_zip paired.le

/-- Numbers that are rearranged from those of the questions are distinct. -/
theorem nodup_zip
    {count : Nat}
    (rearranged : numbers.Perm (questionNumbers count)) :
    ((numbers.zip answers).map Prod.fst).Nodup := by
  rw [map_fst_zip_eq paired]
  exact rearranged.nodup_iff.mpr (questionNumbers_nodup count)

/-- Aligned answers have the numbers of the questions. -/
theorem Aligned.perm
    {count : Nat}
    (aligned : Aligned count numbers answers answers) :
    numbers.Perm (questionNumbers count) := by
  obtain ⟨isCount, own⟩ := aligned
  have allHeld : questionNumbers count ⊆ numbers := by
    intro value held
    obtain ⟨number, inside, rfl⟩ := List.mem_map.mp held
    obtain ⟨place, _, found, _⟩ := own number (List.mem_range.mp inside)
    exact List.mem_of_getElem? found
  have countLength := length_questionNumbers count
  exact (((questionNumbers_nodup count).subperm allHeld).perm_of_length_le (by omega)).symm

/-- Aligned answers are sorted by their numbers already. -/
theorem Aligned.sorted
    {count : Nat}
    (aligned : Aligned count numbers answers answers) :
    sortedAnswers numbers answers = answers := by
  have rearranged := aligned.perm paired
  obtain ⟨isCount, own⟩ := aligned
  have targetPaired : (questionNumbers count).length = answers.length :=
    (length_questionNumbers count).trans isCount.symm
  have targetFst := map_fst_zip_eq targetPaired
  have targetNodup : ((questionNumbers count).zip answers).Nodup := by
    refine List.Nodup.of_map Prod.fst ?_
    rw [targetFst]
    exact questionNumbers_nodup count
  have targetHeld : (questionNumbers count).zip answers ⊆ numbers.zip answers := by
    rintro ⟨value, answer⟩ held
    obtain ⟨number, isValue, isAnswer⟩ := (mem_zip_iff value answer).mp held
    have inside : number < count := by
      rw [← isCount]
      exact (List.getElem?_eq_some_iff.mp isAnswer).1
    rw [getElem?_questionNumbers inside] at isValue
    obtain ⟨place, found, atPlace, _, answerAt, resultAt⟩ := own number inside
    refine (mem_zip_iff value answer).mpr ⟨place, atPlace.trans isValue, ?_⟩
    rw [answerAt, ← resultAt, isAnswer]
  have ordered : OrderedBy Prod.fst (numbers.zip answers)
      ((questionNumbers count).zip answers) := by
    refine ⟨(targetNodup.subperm targetHeld).perm_of_length_le ?_, ?_⟩
    · rw [List.length_zip, List.length_zip]
      omega
    · rw [← List.pairwise_map, targetFst]
      exact questionNumbers_sorted count
  rw [sortedAnswers, ← ordered.eq_sortBy (nodup_zip paired rearranged),
    List.map_snd_zip targetPaired.ge]

/-- Answers that have the numbers of the questions and are sorted by them are aligned. -/
theorem aligned_of_sorted
    {count : Nat}
    (rearranged : numbers.Perm (questionNumbers count))
    (sorted : sortedAnswers numbers answers = answers) :
    Aligned count numbers answers answers := by
  have isCount : answers.length = count := by
    rw [← paired, rearranged.length_eq, length_questionNumbers]
  have isOrdered := orderedBy_sortBy Prod.fst (numbers.zip answers)
  have firsts : (sortBy Prod.fst (numbers.zip answers)).map Prod.fst =
      questionNumbers count := by
    have alike := isOrdered.1.map Prod.fst
    rw [map_fst_zip_eq paired] at alike
    exact (alike.trans rearranged).eq_of_pairwise
      (fun _ _ _ _ forth back => le_antisymm forth back)
      (List.pairwise_map.mpr isOrdered.2) (questionNumbers_sorted count)
  refine ⟨isCount, fun number inside => ?_⟩
  have inAnswers : number < answers.length := isCount ▸ inside
  have first : ((sortBy Prod.fst (numbers.zip answers)).map Prod.fst)[number]? =
      some (number : Int) := by
    rw [firsts, getElem?_questionNumbers inside]
  have second : ((sortBy Prod.fst (numbers.zip answers)).map Prod.snd)[number]? =
      some answers[number] := by
    rw [show (sortBy Prod.fst (numbers.zip answers)).map Prod.snd = answers from sorted,
      List.getElem?_eq_getElem inAnswers]
  rw [List.getElem?_map, Option.map_eq_some_iff] at first second
  obtain ⟨⟨value, answer⟩, found, rfl⟩ := first
  obtain ⟨other, foundOther, isAnswer⟩ := second
  obtain rfl : (((number : Int), answer) : Int × α) = other :=
    Option.some.inj (found.symm.trans foundOther)
  obtain ⟨place, atPlace, answerAt⟩ := (mem_zip_iff _ _).mp
    (isOrdered.1.mem_iff.mp (List.mem_of_getElem? found))
  refine ⟨place, answer, atPlace, fun otherPlace atOther => ?_, answerAt, ?_⟩
  · have otherInside : otherPlace < numbers.length :=
      (List.getElem?_eq_some_iff.mp atOther).1
    exact (List.getElem?_inj otherInside (rearranged.nodup_iff.mpr
      (questionNumbers_nodup count))).mp (atOther.trans atPlace.symm)
  · rw [List.getElem?_eq_getElem inAnswers, ← isAnswer]

/-- The answers are aligned exactly when their numbers are those of the questions and they
are sorted by them already. -/
theorem aligned_iff (count : Nat) :
    Aligned count numbers answers answers ↔
      numbers.Perm (questionNumbers count) ∧ sortedAnswers numbers answers = answers :=
  ⟨fun aligned => ⟨aligned.perm paired, aligned.sorted paired⟩,
    fun ⟨rearranged, sorted⟩ => aligned_of_sorted paired rearranged sorted⟩

end Pairs

end Alignment
end ChatPlatform
