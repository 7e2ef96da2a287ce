import Mathlib.Algebra.BigOperators.Group.List.Basic
import Mathlib.Data.Int.Cast.Lemmas
import Mathlib.Data.List.Pairwise
import Mathlib.Data.List.Sublists

/-!
# Greedy selection

Items are taken one after the other as long as what was selected admits them, until the
selection is full. The selection is a sequence of items in their order, keeps what every
admitted item keeps, and leaves an item out only when a part of it that comes before the
item does not admit it or is full already. Where items are taken from the end of a list, they
are taken for as long as their costs stay within a budget and there are not too many of them.
-/

namespace ChatPlatform
namespace Greedy

variable {Item : Type} (admits : List Item → Item → Bool) (full : List Item → Bool)

/-- Select items one after the other; whether the selection is full is seen only when an
item was added. -/
def pick (selected : List Item) : List Item → List Item
  | [] => selected
  | item :: rest =>
      if admits selected item then
        if full (selected ++ [item]) then selected ++ [item]
        else pick (selected ++ [item]) rest
      else pick selected rest

variable {admits full}

variable (admits full) in
/-- The selection goes on with items in their order. -/
theorem exists_pick_eq (selected items : List Item) :
    ∃ picked, pick admits full selected items = selected ++ picked ∧
      picked.Sublist items := by
  induction items generalizing selected with
  | nil => exact ⟨[], (List.append_nil _).symm, .slnil⟩
  | cons item rest inductionHypothesis =>
      unfold pick
      split
      · split
        · exact ⟨[item], rfl, List.singleton_sublist.mpr List.mem_cons_self⟩
        · obtain ⟨picked, same, inOrder⟩ := inductionHypothesis (selected ++ [item])
          refine ⟨item :: picked, ?_, inOrder.cons_cons item⟩
          rw [same, List.append_assoc, List.singleton_append]
      · obtain ⟨picked, same, inOrder⟩ := inductionHypothesis selected
        exact ⟨picked, same, inOrder.cons item⟩

theorem prefix_pick (selected items : List Item) :
    selected <+: pick admits full selected items := by
  obtain ⟨picked, same, _⟩ := exists_pick_eq admits full selected items
  exact ⟨picked, same.symm⟩

/-- A selection from nothing consists of items in their order. -/
theorem pick_sublist (items : List Item) : (pick admits full [] items).Sublist items := by
  obtain ⟨picked, same, inOrder⟩ := exists_pick_eq admits full [] items
  rw [same]
  exact inOrder

/-- What every admitted item keeps, the selection keeps. -/
theorem pick_invariant
    {holds : List Item → Prop}
    {selected items : List Item}
    (keeps : ∀ chosen, ∀ item ∈ items, holds chosen → admits chosen item = true →
      holds (chosen ++ [item]))
    (start : holds selected) : holds (pick admits full selected items) := by
  induction items generalizing selected with
  | nil => exact start
  | cons item rest inductionHypothesis =>
      have later : ∀ chosen, ∀ other ∈ rest, holds chosen → admits chosen other = true →
          holds (chosen ++ [other]) :=
        fun chosen other held => keeps chosen other (List.mem_cons_of_mem _ held)
      unfold pick
      split
      · rename_i admitted
        have next := keeps selected item List.mem_cons_self start admitted
        split
        · exact next
        · exact inductionHypothesis later next
      · exact inductionHypothesis later start

/-- A selection that is not too long stays within the length at which it is full. -/
theorem length_pick_le
    {limit : Nat}
    (isFull : ∀ chosen, full chosen = false → chosen.length < limit)
    {selected : List Item}
    (start : selected.length < limit)
    (items : List Item) : (pick admits full selected items).length ≤ limit := by
  induction items generalizing selected with
  | nil => exact start.le
  | cons item rest inductionHypothesis =>
      unfold pick
      split
      · split
        · rw [List.length_append, List.length_singleton]
          exact start
        · rename_i notFull
          exact inductionHypothesis (isFull _ (Bool.eq_false_iff.mpr notFull))
      · exact inductionHypothesis start

/-- An item is left out only when a first part of the selection, of items that come before
it, does not admit it or is full. -/
theorem mem_pick_or_leftOut
    {before : Item → Item → Prop}
    {selected items : List Item}
    (ordered : items.Pairwise before)
    (after : ∀ chosen ∈ selected, ∀ item ∈ items, before chosen item)
    {item : Item}
    (held : item ∈ items) :
    item ∈ pick admits full selected items ∨
      ∃ chosen, chosen <+: pick admits full selected items ∧
        (∀ earlier ∈ chosen, before earlier item) ∧
        (admits chosen item = false ∨ full chosen = true) := by
  induction items generalizing selected with
  | nil => cases held
  | cons first rest inductionHypothesis =>
      obtain ⟨firstBefore, restOrdered⟩ := List.pairwise_cons.mp ordered
      have afterRest : ∀ chosen ∈ selected, ∀ item ∈ rest, before chosen item :=
        fun chosen inSelected other inRest =>
          after chosen inSelected other (List.mem_cons_of_mem _ inRest)
      have afterNext : ∀ chosen ∈ selected ++ [first], ∀ item ∈ rest, before chosen item := by
        intro chosen inNext other inRest
        rcases List.mem_append.mp inNext with early | last
        · exact afterRest chosen early other inRest
        · rw [List.mem_singleton.mp last]
          exact firstBefore other inRest
      unfold pick
      split
      · split
        · rename_i isFull
          rcases List.mem_cons.mp held with rfl | inRest
          · exact Or.inl (List.mem_append_right _ (List.mem_singleton_self _))
          · exact Or.inr ⟨_, List.prefix_rfl, fun earlier inNext =>
              afterNext earlier inNext item inRest, Or.inr isFull⟩
        · rcases List.mem_cons.mp held with rfl | inRest
          · exact Or.inl ((prefix_pick _ rest).subset
              (List.mem_append_right _ (List.mem_singleton_self _)))
          · exact inductionHypothesis restOrdered afterNext inRest
      · rename_i notAdmitted
        rcases List.mem_cons.mp held with rfl | inRest
        · exact Or.inr ⟨selected, prefix_pick _ rest, fun earlier inSelected =>
            after earlier inSelected item List.mem_cons_self,
            Or.inl (Bool.eq_false_iff.mpr notAdmitted)⟩
        · exact inductionHypothesis restOrdered afterRest inRest

end Greedy

/-! ## The latest items within a budget -/

namespace Latest

variable {Item : Type} (cost : Item → Nat) (maxCost : Int) (maxItems : Option Int)

/-- What items cost together. -/
def total (items : List Item) : Nat := (items.map cost).sum

/-- Take items one after the other, the last one first. -/
def fitFrom (selected : List Item) (consumed : Nat) : List Item → List Item
  | [] => selected
  | item :: earlier =>
      if maxItems.any fun limit : Int => limit ≤ selected.length then selected
      else if maxCost < consumed + cost item then selected
      else fitFrom (selected ++ [item]) (consumed + cost item) earlier

/-- The latest items within the budget, in their order. -/
def fit (items : List Item) : List Item :=
  (fitFrom cost maxCost maxItems [] 0 items.reverse).reverse

variable {cost maxCost maxItems}

@[simp] theorem total_append (first second : List Item) :
    total cost (first ++ second) = total cost first + total cost second := by
  simp only [total, List.map_append, List.sum_append]

theorem total_cons (item : Item) (rest : List Item) :
    total cost (item :: rest) = cost item + total cost rest := by
  simp only [total, List.map_cons, List.sum_cons]

theorem total_singleton (item : Item) : total cost [item] = cost item := by
  simp only [total, List.map_cons, List.map_nil, List.sum_cons, List.sum_nil, Nat.add_zero]

theorem total_fitFrom_le
    {selected : List Item}
    {consumed : Nat}
    (accounted : consumed = total cost selected)
    (within : (consumed : Int) ≤ maxCost)
    (items : List Item) :
    (total cost (fitFrom cost maxCost maxItems selected consumed items) : Int) ≤ maxCost := by
  induction items generalizing selected consumed with
  | nil =>
      rw [fitFrom, ← accounted]
      exact within
  | cons item earlier inductionHypothesis =>
      unfold fitFrom
      split
      · rw [← accounted]
        exact within
      · split
        · rw [← accounted]
          exact within
        · rename_i fits
          refine inductionHypothesis ?_ ?_
          · rw [total_append, total_singleton, accounted]
          · rw [Nat.cast_add]
            exact Int.not_lt.mp fits

variable (cost maxItems) in
/-- The latest items stay within the budget. -/
theorem total_fit_le
    (nonnegative : 0 ≤ maxCost)
    (items : List Item) : (total cost (fit cost maxCost maxItems items) : Int) ≤ maxCost := by
  have kept : (total cost (fitFrom cost maxCost maxItems [] 0 items.reverse) : Int) ≤ maxCost :=
    total_fitFrom_le rfl nonnegative _
  unfold fit
  rwa [total, (((List.reverse_perm _).map cost).sum_eq)]

end Latest
end ChatPlatform
