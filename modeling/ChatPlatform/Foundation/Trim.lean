import Mathlib.Data.List.Infix

/-!
# Dropping elements until a bound holds

Two loops recur in code that fits a sequence into a budget: drop the last element
while the rest is still over the bound, and drop the first element while it is
and more than one is left. Both are given for an arbitrary test `exceeds` on what is
left, so that the test may measure the rest in any way.
-/

namespace ChatPlatform
namespace Trim

variable {α : Type}

/-- The end-dropping loop on the reversed sequence. -/
def trimEndReversed (exceeds : List α → Bool) : List α → List α
  | [] => []
  | last :: earlier =>
      if exceeds (last :: earlier).reverse then trimEndReversed exceeds earlier
      else last :: earlier

/-- Drop the last element while `exceeds` holds of what is left. -/
def trimEnd (exceeds : List α → Bool) (items : List α) : List α :=
  (trimEndReversed exceeds items.reverse).reverse

/-- Drop the first element while `exceeds` holds of what is left and more than one
element is left. -/
def trimFront (exceeds : List α → Bool) : List α → List α
  | [] => []
  | [only] => [only]
  | first :: next :: rest =>
      if exceeds (first :: next :: rest) then trimFront exceeds (next :: rest)
      else first :: next :: rest

@[simp] theorem trimEnd_nil (exceeds : List α → Bool) : trimEnd exceeds [] = [] := rfl

/-- One step of the end-dropping loop. -/
theorem trimEnd_concat
    (exceeds : List α → Bool)
    (items : List α)
    (last : α) :
    trimEnd exceeds (items ++ [last]) =
      if exceeds (items ++ [last]) then trimEnd exceeds items
      else items ++ [last] := by
  unfold trimEnd
  rw [List.reverse_append, List.reverse_singleton, List.singleton_append,
    trimEndReversed]
  simp only [List.reverse_cons, List.reverse_reverse]
  split <;> simp

/-- What the end-dropping loop keeps is a prefix. -/
theorem trimEnd_prefix
    (exceeds : List α → Bool)
    (items : List α) : trimEnd exceeds items <+: items := by
  induction items using List.reverseRecOn with
  | nil => simp
  | append_singleton items last inductionHypothesis =>
      rw [trimEnd_concat]
      split
      · exact inductionHypothesis.trans (List.prefix_append items [last])
      · exact List.prefix_rfl

/-- The end-dropping loop stops within the bound or with nothing left. -/
theorem trimEnd_stops
    (exceeds : List α → Bool)
    (items : List α) :
    trimEnd exceeds items = [] ∨ exceeds (trimEnd exceeds items) = false := by
  induction items using List.reverseRecOn with
  | nil => exact Or.inl rfl
  | append_singleton items last inductionHypothesis =>
      rw [trimEnd_concat]
      split
      · exact inductionHypothesis
      · rename_i within
        exact Or.inr (Bool.eq_false_iff.mpr within)

/-- A sequence within the bound is left alone. -/
theorem trimEnd_eq_self
    {exceeds : List α → Bool}
    {items : List α}
    (within : exceeds items = false) : trimEnd exceeds items = items := by
  induction items using List.reverseRecOn with
  | nil => rfl
  | append_singleton items last _ =>
      rw [trimEnd_concat, within]
      rfl

/-- What the front-dropping loop keeps is a suffix. -/
theorem trimFront_suffix
    (exceeds : List α → Bool)
    (items : List α) : trimFront exceeds items <:+ items := by
  induction items with
  | nil => exact List.suffix_rfl
  | cons first rest inductionHypothesis =>
      cases rest with
      | nil => exact List.suffix_rfl
      | cons next others =>
          unfold trimFront
          split
          · exact inductionHypothesis.trans (List.suffix_cons first _)
          · exact List.suffix_rfl

/-- The front-dropping loop never drops everything. -/
theorem trimFront_ne_nil
    (exceeds : List α → Bool)
    {items : List α}
    (nonempty : items ≠ []) : trimFront exceeds items ≠ [] := by
  induction items with
  | nil => exact absurd rfl nonempty
  | cons first rest inductionHypothesis =>
      cases rest with
      | nil => simp [trimFront]
      | cons next others =>
          unfold trimFront
          split
          · exact inductionHypothesis (by simp)
          · simp

/-- The front-dropping loop stops within the bound or at a single element. -/
theorem trimFront_stops
    (exceeds : List α → Bool)
    (items : List α) :
    exceeds (trimFront exceeds items) = false ∨
      (trimFront exceeds items).length ≤ 1 := by
  induction items with
  | nil => exact Or.inr (by simp [trimFront])
  | cons first rest inductionHypothesis =>
      cases rest with
      | nil => exact Or.inr (by simp [trimFront])
      | cons next others =>
          unfold trimFront
          split
          · exact inductionHypothesis
          · rename_i within
            exact Or.inl (Bool.eq_false_iff.mpr within)

/-- The front-dropping loop on mapped elements. -/
theorem trimFront_map
    {β : Type}
    (exceeds : List β → Bool)
    (change : α → β)
    (items : List α) :
    trimFront exceeds (items.map change) =
      (trimFront (fun rest => exceeds (rest.map change)) items).map change := by
  induction items with
  | nil => rfl
  | cons first rest inductionHypothesis =>
      cases rest with
      | nil => rfl
      | cons next others =>
          simp only [List.map_cons] at inductionHypothesis ⊢
          unfold trimFront
          simp only [List.map_cons]
          split
          · exact inductionHypothesis
          · rfl

/-! ## The greediest choice -/

/-- What is kept is the longest prefix that fits, and nothing when no prefix fits. -/
structure LongestPrefix
    (fits : List α → Prop)
    (items kept : List α) : Prop where
  /-- It is cut from the end. -/
  isPrefix : kept <+: items
  /-- What is kept fits. -/
  meets : kept = [] ∨ fits kept
  /-- No prefix that fits is longer. -/
  longest : ∀ other, other <+: items → fits other → other <+: kept

/-- What is kept is the longest suffix that fits, and nothing when no suffix fits. -/
structure LongestSuffix
    (fits : List α → Prop)
    (items kept : List α) : Prop where
  /-- It is cut from the front. -/
  isSuffix : kept <:+ items
  /-- What is kept fits. -/
  meets : kept = [] ∨ fits kept
  /-- No suffix that fits is longer. -/
  longest : ∀ other, other <:+ items → fits other → other <:+ kept

/-- The longest prefix only depends on which sequences fit. -/
theorem LongestPrefix.of_iff
    {fits others : List α → Prop}
    {items kept : List α}
    (longest : LongestPrefix fits items kept)
    (same : ∀ rest, fits rest ↔ others rest) : LongestPrefix others items kept where
  isPrefix := longest.isPrefix
  meets := longest.meets.imp_right (same kept).mp
  longest := fun other isPrefix fit => longest.longest other isPrefix ((same other).mpr fit)

/-- The end-dropping loop keeps the longest prefix within the bound. -/
theorem trimEnd_longest
    (exceeds : List α → Bool)
    (items : List α) :
    LongestPrefix (fun rest => exceeds rest = false) items (trimEnd exceeds items) := by
  have isShorter := trimEnd_prefix exceeds items
  refine ⟨isShorter, trimEnd_stops exceeds items, ?_⟩
  clear isShorter
  induction items using List.reverseRecOn with
  | nil =>
      intro other isPrefix _
      exact isPrefix
  | append_singleton items last inductionHypothesis =>
      intro other isPrefix fits
      rw [trimEnd_concat]
      split
      · rename_i tooLong
        rcases List.prefix_concat_iff.mp isPrefix with whole | earlier
        · rw [whole, tooLong] at fits
          exact absurd fits (by simp)
        · exact inductionHypothesis other earlier fits
      · exact isPrefix

/-- The front-dropping loop keeps every suffix within the bound. -/
theorem suffix_trimFront
    {exceeds : List α → Bool}
    {items other : List α}
    (isSuffix : other <:+ items)
    (within : exceeds other = false) : other <:+ trimFront exceeds items := by
  induction items with
  | nil => exact isSuffix
  | cons first rest inductionHypothesis =>
      cases rest with
      | nil => exact isSuffix
      | cons next others =>
          unfold trimFront
          split
          · rename_i tooLong
            rcases List.suffix_cons_iff.mp isSuffix with whole | later
            · rw [whole, tooLong] at within
              exact absurd within (by simp)
            · exact inductionHypothesis later
          · exact isSuffix

/-- When the last element alone is within the bound, the front-dropping loop keeps the
longest suffix within it. -/
theorem trimFront_longest
    (exceeds : List α → Bool)
    (items : List α)
    (lastFits : ∀ last, [last] <:+ items → exceeds [last] = false) :
    LongestSuffix (fun rest => exceeds rest = false) items
      (trimFront exceeds items) := by
  have isSuffix := trimFront_suffix exceeds items
  refine ⟨isSuffix, ?_, fun other => suffix_trimFront⟩
  rcases trimFront_stops exceeds items with within | short
  · exact Or.inr within
  · generalize trimFront exceeds items = kept at isSuffix short
    match kept with
    | [] => exact Or.inl rfl
    | [last] => exact Or.inr (lastFits last isSuffix)

/-- When the last element alone is over the bound, and with it every longer suffix, the
front-dropping loop keeps it alone. -/
theorem trimFront_eq_last
    (exceeds : List α → Bool)
    {items : List α}
    {last : α}
    (isLast : [last] <:+ items)
    (tooLong : ∀ rest, [last] <:+ rest → exceeds rest = true) :
    trimFront exceeds items = [last] := by
  have nonempty : items ≠ [] := by
    rintro rfl
    exact absurd (List.suffix_nil.mp isLast) (by simp)
  have keeps : [last] <:+ trimFront exceeds items :=
    List.suffix_of_suffix_length_le isLast (trimFront_suffix exceeds items)
      (List.length_pos_iff.mpr (trimFront_ne_nil exceeds nonempty))
  rcases trimFront_stops exceeds items with within | short
  · rw [tooLong _ keeps] at within
    exact absurd within (by simp)
  · exact (keeps.eq_of_length_le short).symm

end Trim
end ChatPlatform
