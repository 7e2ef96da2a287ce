import Mathlib.Data.List.Sort
import Mathlib.Order.Basic

/-!
# Sorting by a key

A relation that compares keys of a linear order sorts a list. Where the elements
are told apart by their keys, the result does not depend on the order in which
they came; where they are not, elements of one key keep the order in which they came.
-/

namespace ChatPlatform
namespace KeySort

variable {Item Key : Type} [LinearOrder Key]

/-- On the elements of a list, a relation compares their keys. -/
def Compares
    (precedes : Item → Item → Prop)
    (key : Item → Key)
    (items : List Item) : Prop :=
  ∀ left ∈ items, ∀ right ∈ items, precedes left right ↔ key left ≤ key right

/-- Sorting by a relation that compares keys is sorting by the keys. -/
theorem insertionSort_eq
    {precedes : Item → Item → Prop}
    [DecidableRel precedes]
    {key : Item → Key}
    {items : List Item}
    (compares : Compares precedes key items) :
    items.insertionSort precedes =
      items.insertionSort (fun left right => key left ≤ key right) := by
  have mapped := List.map_insertionSort precedes
    (fun left right => key left ≤ key right) id items compares
  rwa [List.map_id, List.map_id] at mapped

/-- Sorting by keys that tell the elements apart forgets their order. -/
theorem insertionSort_key_perm
    {key : Item → Key}
    {items others : List Item}
    (injective : ∀ left ∈ items, ∀ right ∈ items, key left = key right → left = right)
    (rearranged : items.Perm others) :
    items.insertionSort (fun left right => key left ≤ key right) =
      others.insertionSort (fun left right => key left ≤ key right) := by
  let byKey : Item → Item → Prop := fun left right => key left ≤ key right
  have : Std.Total byKey := ⟨fun left right => le_total (key left) (key right)⟩
  have : IsTrans Item byKey := ⟨fun _ _ _ early late => le_trans early late⟩
  have sameItems : (items.insertionSort byKey).Perm (others.insertionSort byKey) :=
    ((List.perm_insertionSort byKey items).trans rearranged).trans
      (List.perm_insertionSort byKey others).symm
  apply sameItems.eq_of_pairwise ?_ (List.pairwise_insertionSort byKey items)
    (List.pairwise_insertionSort byKey others)
  intro left right leftHeld rightHeld forth back
  apply injective left ((List.mem_insertionSort byKey).mp leftHeld) right
  · exact rearranged.mem_iff.mpr ((List.mem_insertionSort byKey).mp rightHeld)
  · exact le_antisymm forth back

/-- Two rearrangements of elements told apart by their keys are sorted alike. -/
theorem insertionSort_perm
    {precedes : Item → Item → Prop}
    [DecidableRel precedes]
    {key : Item → Key}
    {items others : List Item}
    (compares : Compares precedes key items)
    (injective : ∀ left ∈ items, ∀ right ∈ items, key left = key right → left = right)
    (rearranged : items.Perm others) :
    items.insertionSort precedes = others.insertionSort precedes := by
  have comparesOthers : Compares precedes key others := by
    intro left leftHeld right rightHeld
    exact compares left (rearranged.mem_iff.mpr leftHeld) right
      (rearranged.mem_iff.mpr rightHeld)
  rw [insertionSort_eq compares, insertionSort_eq comparesOthers]
  exact insertionSort_key_perm injective rearranged

/-! ## Stability -/

/-- A positioned item comes before another in a stable order: its key is smaller, or
the keys are the same and it stood earlier. -/
def StablyBefore (key : Item → Key) (left right : Item × Nat) : Prop :=
  key left.1 < key right.1 ∨ key left.1 = key right.1 ∧ left.2 < right.2

/-- An item put into later ones that are in stable order leaves them so. -/
private theorem pairwise_orderedInsert
    {key : Item → Key}
    (item : Item)
    {start : Nat}
    {sorted : List (Item × Nat)}
    (stable : sorted.Pairwise (StablyBefore key))
    (later : ∀ other ∈ sorted, start < other.2) :
    (sorted.orderedInsert (fun left right => key left.1 ≤ key right.1) (item, start)).Pairwise
      (StablyBefore key) := by
  induction sorted with
  | nil => exact List.pairwise_singleton _ _
  | cons first rest inductionHypothesis =>
      obtain ⟨firstBefore, restStable⟩ := List.pairwise_cons.mp stable
      have restLater : ∀ other ∈ rest, start < other.2 := fun other held =>
        later other (List.mem_cons_of_mem first held)
      rw [List.orderedInsert_cons]
      split
      · rename_i notAfter
        have before : ∀ other ∈ first :: rest, key item ≤ key other.1 := by
          intro other held
          rcases List.mem_cons.mp held with rfl | inRest
          · exact notAfter
          · rcases firstBefore other inRest with smaller | ⟨same, _⟩
            · exact notAfter.trans smaller.le
            · exact notAfter.trans same.le
        refine List.pairwise_cons.mpr ⟨fun other held => ?_, stable⟩
        rcases (before other held).lt_or_eq with smaller | same
        · exact Or.inl smaller
        · exact Or.inr ⟨same, later other held⟩
      · rename_i after
        refine List.pairwise_cons.mpr
          ⟨fun other held => ?_, inductionHypothesis restStable restLater⟩
        rcases (List.mem_orderedInsert _).mp held with rfl | inRest
        · exact Or.inl (lt_of_not_ge after)
        · exact firstBefore other inRest

/-- Sorting positioned items by their keys is stable. -/
theorem insertionSort_zipIdx_stable
    (key : Item → Key)
    (items : List Item)
    (start : Nat) :
    ((items.zipIdx start).insertionSort fun left right => key left.1 ≤ key right.1).Pairwise
      (StablyBefore key) := by
  induction items generalizing start with
  | nil => exact List.Pairwise.nil
  | cons item rest inductionHypothesis =>
      rw [List.zipIdx_cons, List.insertionSort_cons]
      refine pairwise_orderedInsert item (inductionHypothesis (start + 1)) ?_
      intro other held
      have inRest := (List.mem_insertionSort _).mp held
      exact List.le_snd_of_mem_zipIdx inRest

/-- Sorting positioned items sorts the items. -/
theorem map_insertionSort_zipIdx
    (key : Item → Key)
    (items : List Item) :
    ((items.zipIdx).insertionSort fun left right => key left.1 ≤ key right.1).map Prod.fst =
      items.insertionSort fun left right => key left ≤ key right := by
  rw [List.map_insertionSort (fun left right : Item × Nat => key left.1 ≤ key right.1)
    (fun left right => key left ≤ key right) Prod.fst items.zipIdx
    (fun _ _ _ _ => Iff.rfl), List.zipIdx_map_fst]

/-- The element at a place of a sorted list is above a bound when few elements are not. -/
theorem lt_getElem_insertionSort_iff
    {keys : List Key}
    {place : Nat}
    (inside : place < (keys.insertionSort (· ≤ ·)).length)
    (bound : Key) :
    bound < (keys.insertionSort (· ≤ ·))[place] ↔
      keys.countP (fun key => key ≤ bound) ≤ place := by
  have sorted : (keys.insertionSort (· ≤ ·)).Pairwise (· ≤ ·) :=
    List.pairwise_insertionSort _ keys
  rw [← (List.perm_insertionSort (· ≤ ·) keys).countP_eq]
  generalize keys.insertionSort (· ≤ ·) = ordered at inside sorted ⊢
  have split : ordered.take place ++ ordered[place] :: ordered.drop (place + 1) = ordered := by
    rw [← List.drop_eq_getElem_cons inside, List.take_append_drop]
  have apart := split ▸ sorted
  obtain ⟨-, later, between⟩ := List.pairwise_append.mp apart
  have length : (ordered.take place).length = place :=
    List.length_take_of_le inside.le
  constructor
  · intro above
    have none : (ordered[place] :: ordered.drop (place + 1)).countP
        (fun key => key ≤ bound) = 0 := by
      rw [List.countP_eq_zero]
      intro key held
      rw [decide_eq_true_eq, not_le]
      rcases List.mem_cons.mp held with rfl | held
      · exact above
      · exact above.trans_le ((List.pairwise_cons.mp later).1 key held)
    calc ordered.countP (fun key => key ≤ bound)
        = (ordered.take place).countP (fun key => key ≤ bound) := by
          conv_lhs => rw [← split, List.countP_append, none, Nat.add_zero]
      _ ≤ (ordered.take place).length := List.countP_le_length
      _ = place := length
  · intro few
    by_contra below
    have least := not_lt.mp below
    have all : (ordered.take place).countP (fun key => key ≤ bound) = place := by
      rw [← length, List.length_take_of_le inside.le, List.countP_eq_length.mpr, length]
      intro key held
      exact decide_eq_true ((between key held _ List.mem_cons_self).trans least)
    have many : place + 1 ≤ ordered.countP (fun key => key ≤ bound) := by
      conv_rhs => rw [← split, List.countP_append, all, List.countP_cons,
        if_pos (decide_eq_true least)]
      omega
    omega
end KeySort
end ChatPlatform
