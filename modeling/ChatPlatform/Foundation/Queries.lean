import ChatPlatform.Foundation.KeySort
import Mathlib.Data.List.Nodup
import Mathlib.Data.List.Perm.Basic

/-!
# Ordering, numbering, limiting and joining rows

A query language orders rows by a key and leaves rows with equal keys in any order. The
results it permits are a relation. Where a key tells the rows apart the relation has one
result: the rows in sorted order, each numbered by the rows before it, and a limit keeps
those whose number is within it.
-/

namespace ChatPlatform
namespace Queries

variable {Row Key : Type} [LinearOrder Key]

/-! ## What is permitted -/

/-- The rows in an order of their keys. -/
def OrderedBy (key : Row → Key) (rows result : List Row) : Prop :=
  result.Perm rows ∧ result.Pairwise fun left right => key left ≤ key right

/-- The first rows in an order of their keys. -/
def LimitedBy (key : Row → Key) (limit : Nat) (rows result : List Row) : Prop :=
  ∃ ordered, OrderedBy key rows ordered ∧ result = ordered.take limit

/-- The rows, each with its number in an order of their keys, in whatever order. -/
def NumberedBy (key : Row → Key) (rows : List Row) (numbered : List (Row × Nat)) : Prop :=
  ∃ ordered, OrderedBy key rows ordered ∧ numbered.Perm (ordered.zipIdx 1)

/-! ## What a key determines -/

/-- The rows sorted by a key. -/
def sortBy (key : Row → Key) (rows : List Row) : List Row :=
  rows.insertionSort fun left right => key left ≤ key right

/-- One more than the number of rows with a smaller key. -/
def rankOf (key : Row → Key) (rows : List Row) (row : Row) : Nat :=
  1 + rows.countP fun other => key other < key row

/-- A row with its rank. -/
def ranked (key : Row → Key) (rows : List Row) (row : Row) : Row × Nat :=
  (row, rankOf key rows row)

section Determined

variable {key : Row → Key} {rows others result : List Row}

theorem sortBy_perm (key : Row → Key) (rows : List Row) : (sortBy key rows).Perm rows :=
  List.perm_insertionSort _ rows

theorem rankOf_perm (rearranged : rows.Perm others) (row : Row) :
    rankOf key rows row = rankOf key others row := by
  unfold rankOf
  rw [rearranged.countP_eq]

/-- Sorting gives an order of the keys. -/
theorem orderedBy_sortBy (key : Row → Key) (rows : List Row) :
    OrderedBy key rows (sortBy key rows) := by
  have : Std.Total fun left right : Row => key left ≤ key right :=
    ⟨fun left right => le_total (key left) (key right)⟩
  have : IsTrans Row fun left right => key left ≤ key right :=
    ⟨fun _ _ _ early late => le_trans early late⟩
  exact ⟨sortBy_perm key rows, List.pairwise_insertionSort _ rows⟩

/-- An order of the keys is one of the rearranged rows. -/
theorem OrderedBy.of_perm
    (ordered : OrderedBy key rows result)
    (rearranged : rows.Perm others) : OrderedBy key others result :=
  ⟨ordered.1.trans rearranged, ordered.2⟩

/-- Where the key tells the rows apart there is one order. -/
theorem OrderedBy.eq_sortBy
    (ordered : OrderedBy key rows result)
    (distinct : (rows.map key).Nodup) : result = sortBy key rows := by
  have sorted := orderedBy_sortBy key rows
  refine (ordered.1.trans sorted.1.symm).eq_of_pairwise ?_ ordered.2 sorted.2
  intro left right leftHeld rightHeld forth back
  exact List.inj_on_of_nodup_map distinct (ordered.1.mem_iff.mp leftHeld)
    (sorted.1.mem_iff.mp rightHeld) (le_antisymm forth back)

/-- Where the key tells the rows apart, sorting orders them strictly. -/
theorem sortBy_strict (distinct : (rows.map key).Nodup) :
    (sortBy key rows).Pairwise fun left right => key left < key right := by
  have nodup : ((sortBy key rows).map key).Nodup :=
    ((sortBy_perm key rows).map key).nodup_iff.mpr distinct
  have apart := List.pairwise_map.mp nodup
  refine ((orderedBy_sortBy key rows).2.and apart).imp ?_
  rintro left right ⟨before, differ⟩
  exact lt_of_le_of_ne before differ

/-- In a strictly ordered list the rows before a place are those with a smaller key. -/
theorem countP_lt_getElem
    {sorted : List Row}
    (strict : sorted.Pairwise fun left right => key left < key right)
    {place : Nat}
    (inside : place < sorted.length) :
    sorted.countP (fun other => key other < key sorted[place]) = place := by
  have split : sorted.take place ++ sorted[place] :: sorted.drop (place + 1) = sorted := by
    rw [← List.drop_eq_getElem_cons inside, List.take_append_drop]
  have apart : (sorted.take place ++ sorted[place] :: sorted.drop (place + 1)).Pairwise
      fun left right => key left < key right := by
    rw [split]
    exact strict
  obtain ⟨-, later, between⟩ := List.pairwise_append.mp apart
  have smaller : (sorted.take place).countP (fun other => key other < key sorted[place]) =
      place := by
    rw [List.countP_eq_length.mpr fun other held =>
      decide_eq_true (between other held _ List.mem_cons_self), List.length_take]
    omega
  have none : (sorted[place] :: sorted.drop (place + 1)).countP
      (fun other => key other < key sorted[place]) = 0 := by
    rw [List.countP_eq_zero]
    intro other held
    rw [decide_eq_true_eq, not_lt]
    rcases List.mem_cons.mp held with rfl | inLater
    · exact le_rfl
    · exact (List.rel_of_pairwise_cons later inLater).le
  calc sorted.countP (fun other => key other < key sorted[place])
      = (sorted.take place ++ sorted[place] :: sorted.drop (place + 1)).countP
          (fun other => key other < key sorted[place]) := by rw [split]
    _ = place := by rw [List.countP_append, smaller, none, Nat.add_zero]

/-- Numbering sorted rows gives each its rank. -/
theorem zipIdx_sortBy (distinct : (rows.map key).Nodup) :
    (sortBy key rows).zipIdx 1 = (sortBy key rows).map (ranked key rows) := by
  apply List.ext_getElem
  · rw [List.length_zipIdx, List.length_map]
  · intro place inside _
    rw [List.length_zipIdx] at inside
    rw [List.getElem_zipIdx, List.getElem_map, ranked,
      ← rankOf_perm (sortBy_perm key rows), rankOf,
      countP_lt_getElem (sortBy_strict distinct) inside]

/-- Numbered rows are the rows with their ranks. -/
theorem NumberedBy.perm
    {numbered : List (Row × Nat)}
    (isNumbered : NumberedBy key rows numbered)
    (distinct : (rows.map key).Nodup) : numbered.Perm (rows.map (ranked key rows)) := by
  obtain ⟨ordered, isOrdered, rearranged⟩ := isNumbered
  rw [isOrdered.eq_sortBy distinct, zipIdx_sortBy distinct] at rearranged
  exact rearranged.trans ((sortBy_perm key rows).map _)

theorem numberedBy_ranked
    (distinct : (rows.map key).Nodup) :
    NumberedBy key rows (rows.map (ranked key rows)) := by
  refine ⟨sortBy key rows, orderedBy_sortBy key rows, ?_⟩
  rw [zipIdx_sortBy distinct]
  exact ((sortBy_perm key rows).map _).symm

/-- A limit keeps the rows whose rank is within it. -/
theorem mem_take_sortBy
    (distinct : (rows.map key).Nodup)
    (limit : Nat)
    (row : Row) :
    row ∈ (sortBy key rows).take limit ↔ row ∈ rows ∧ rankOf key rows row ≤ limit := by
  have strict := sortBy_strict distinct
  rw [List.mem_take_iff_getElem, ← (sortBy_perm key rows).mem_iff, List.mem_iff_getElem]
  constructor
  · rintro ⟨place, inside, rfl⟩
    have within : place < (sortBy key rows).length := by omega
    refine ⟨⟨place, within, rfl⟩, ?_⟩
    rw [← rankOf_perm (sortBy_perm key rows), rankOf, countP_lt_getElem strict within]
    omega
  · rintro ⟨⟨place, within, rfl⟩, isWithin⟩
    rw [← rankOf_perm (sortBy_perm key rows), rankOf, countP_lt_getElem strict within]
      at isWithin
    exact ⟨place, by omega, rfl⟩

/-- Numbered rows that are limited in the order of their numbers are the first of the
sorted rows with their ranks. -/
theorem limited_numbered_iff
    (distinct : (rows.map key).Nodup)
    (limit : Nat)
    (leg : List (Row × Nat)) :
    (∃ numbered, NumberedBy key rows numbered ∧
        LimitedBy (fun found => key found.1) limit numbered leg) ↔
      leg = ((sortBy key rows).take limit).map (ranked key rows) := by
  have sorted : OrderedBy (fun found : Row × Nat => key found.1)
      (rows.map (ranked key rows)) ((sortBy key rows).map (ranked key rows)) := by
    refine ⟨(sortBy_perm key rows).map _, ?_⟩
    rw [List.pairwise_map]
    exact (orderedBy_sortBy key rows).2
  have apart : ((rows.map (ranked key rows)).map fun found : Row × Nat =>
      key found.1).Nodup := by
    rw [List.map_map]
    exact distinct
  rw [List.map_take]
  constructor
  · rintro ⟨numbered, isNumbered, ordered, isOrdered, rfl⟩
    rw [(isOrdered.of_perm (isNumbered.perm distinct)).eq_sortBy apart,
      sorted.eq_sortBy apart]
  · rintro rfl
    exact ⟨_, numberedBy_ranked distinct, _, sorted, rfl⟩

/-- What a limit leaves out comes after everything it keeps. -/
theorem le_of_not_mem_take
    {limit : Nat}
    {kept left : Row}
    (isKept : kept ∈ (sortBy key rows).take limit)
    (held : left ∈ rows)
    (leftOut : left ∉ (sortBy key rows).take limit) : key kept ≤ key left := by
  have sorted := (orderedBy_sortBy key rows).2
  rw [← List.take_append_drop limit (sortBy key rows)] at sorted
  have inSorted := (sortBy_perm key rows).mem_iff.mpr held
  rw [← List.take_append_drop limit (sortBy key rows)] at inSorted
  rcases List.mem_append.mp inSorted with inFirst | inRest
  · exact absurd inFirst leftOut
  · exact (List.pairwise_append.mp sorted).2.2 kept isKept left inRest

/-- Rearranged rows are sorted alike where the key tells them apart. -/
theorem sortBy_eq_of_perm
    (distinct : (rows.map key).Nodup)
    (rearranged : rows.Perm others) : sortBy key others = sortBy key rows :=
  ((orderedBy_sortBy key others).of_perm rearranged.symm).eq_sortBy distinct

end Determined

/-! ## Outer joins -/

/-- A row of a full outer join. -/
inductive JoinedRow (Left Right : Type) where
  /-- Partners from both sides. -/
  | both (left : Left) (right : Right)
  /-- A row of the left side without a partner. -/
  | leftOnly (left : Left)
  /-- A row of the right side without a partner. -/
  | rightOnly (right : Right)
  deriving DecidableEq

section Joins

variable {Left Right Id : Type} [DecidableEq Id] (leftId : Left → Id) (rightId : Right → Id)

/-- A left row with its partners. -/
def joinRow (right : List Right) (row : Left) : List (JoinedRow Left Right) :=
  match right.filter fun other => leftId row = rightId other with
  | [] => [.leftOnly row]
  | partner :: partners => (partner :: partners).map (.both row)

/-- The full outer join on equal identifiers. -/
def fullOuterJoin (left : List Left) (right : List Right) : List (JoinedRow Left Right) :=
  left.flatMap (joinRow leftId rightId right) ++
    (right.filter fun other => ¬ ∃ row ∈ left, leftId row = rightId other).map .rightOnly

/-- The first of the identifiers of a joined row. -/
def JoinedRow.id : JoinedRow Left Right → Id
  | .both left _ => leftId left
  | .leftOnly left => leftId left
  | .rightOnly right => rightId right

variable {leftId rightId} {left : List Left} {right : List Right}

variable (leftId) in
/-- Where the identifiers of the right side are distinct, a left row is joined once. -/
theorem joinRow_eq
    (distinct : (right.map rightId).Nodup)
    (row : Left) :
    (∃ partner ∈ right, leftId row = rightId partner ∧
        joinRow leftId rightId right row = [.both row partner]) ∨
      (∀ other ∈ right, leftId row ≠ rightId other) ∧
        joinRow leftId rightId right row = [.leftOnly row] := by
  have partnersDistinct : ((right.filter fun other => leftId row = rightId other).map
      rightId).Nodup := distinct.sublist (List.filter_sublist.map _)
  have allPartners : ∀ other, other ∈ right.filter (fun other => leftId row = rightId other) ↔
      other ∈ right ∧ leftId row = rightId other := by
    intro other
    rw [List.mem_filter, decide_eq_true_eq]
  unfold joinRow
  cases isPartners : right.filter fun other => leftId row = rightId other with
  | nil =>
      refine Or.inr ⟨fun other held same => ?_, rfl⟩
      have inFilter := (allPartners other).mpr ⟨held, same⟩
      rw [isPartners] at inFilter
      cases inFilter
  | cons partner partners =>
      rw [isPartners] at partnersDistinct allPartners
      obtain ⟨held, same⟩ := (allPartners partner).mp List.mem_cons_self
      refine Or.inl ⟨partner, held, same, ?_⟩
      cases partners with
      | nil => rfl
      | cons next partners =>
          have nextSame := ((allPartners next).mp
            (List.mem_cons_of_mem _ List.mem_cons_self)).2
          rw [List.map_cons, List.map_cons, List.nodup_cons] at partnersDistinct
          exact absurd (same.symm.trans nextSame ▸ List.mem_cons_self) partnersDistinct.1

/-- Where the identifiers of both sides are distinct, so are those of the join. -/
theorem fullOuterJoin_nodup
    (leftDistinct : (left.map leftId).Nodup)
    (rightDistinct : (right.map rightId).Nodup) :
    ((fullOuterJoin leftId rightId left right).map
      (JoinedRow.id leftId rightId)).Nodup := by
  have leftIds : (left.flatMap (joinRow leftId rightId right)).map
      (JoinedRow.id leftId rightId) = left.map leftId := by
    rw [List.map_flatMap, List.map_eq_flatMap]
    refine List.flatMap_congr fun row held => ?_
    rcases joinRow_eq leftId rightDistinct row with ⟨partner, _, _, joined⟩ | ⟨_, joined⟩
    · rw [joined]
      rfl
    · rw [joined]
      rfl
  unfold fullOuterJoin
  rw [List.map_append, leftIds, List.map_map, List.nodup_append']
  refine ⟨leftDistinct, rightDistinct.sublist (List.filter_sublist.map _), ?_⟩
  intro id inLeft inRight
  obtain ⟨row, held, rfl⟩ := List.mem_map.mp inLeft
  obtain ⟨other, unmatched, same⟩ := List.mem_map.mp inRight
  exact of_decide_eq_true (List.mem_filter.mp unmatched).2 ⟨row, held, same.symm⟩

variable (leftId left) in
/-- The rows of a join whose sides have distinct identifiers. -/
theorem mem_fullOuterJoin
    (rightDistinct : (right.map rightId).Nodup)
    (joined : JoinedRow Left Right) :
    joined ∈ fullOuterJoin leftId rightId left right ↔
      match joined with
      | .both row other => row ∈ left ∧ other ∈ right ∧ leftId row = rightId other
      | .leftOnly row => row ∈ left ∧ ∀ other ∈ right, leftId row ≠ rightId other
      | .rightOnly other => other ∈ right ∧ ∀ row ∈ left, leftId row ≠ rightId other := by
  have only : ∀ other, other ∈ right.filter
      (fun other => ¬ ∃ row ∈ left, leftId row = rightId other) ↔
        other ∈ right ∧ ∀ row ∈ left, leftId row ≠ rightId other := by
    intro other
    rw [List.mem_filter, decide_eq_true_eq]
    simp only [not_exists, not_and]
  unfold fullOuterJoin
  rw [List.mem_append, List.mem_flatMap, List.mem_map]
  cases joined with
  | both row other =>
      constructor
      · rintro (⟨held, inLeft, isJoined⟩ | ⟨_, _, isRight⟩)
        · rcases joinRow_eq leftId rightDistinct held with
            ⟨partner, inRight, same, joinedTo⟩ | ⟨_, joinedTo⟩
          · rw [joinedTo, List.mem_singleton, JoinedRow.both.injEq] at isJoined
            obtain ⟨rfl, rfl⟩ := isJoined
            exact ⟨inLeft, inRight, same⟩
          · rw [joinedTo, List.mem_singleton] at isJoined
            cases isJoined
        · cases isRight
      · rintro ⟨inLeft, inRight, same⟩
        refine Or.inl ⟨row, inLeft, ?_⟩
        rcases joinRow_eq leftId rightDistinct row with
          ⟨partner, partnerHeld, samePartner, joinedTo⟩ | ⟨noPartner, _⟩
        · rw [joinedTo, List.inj_on_of_nodup_map rightDistinct inRight partnerHeld
            (same.symm.trans samePartner)]
          exact List.mem_singleton_self _
        · exact absurd same (noPartner other inRight)
  | leftOnly row =>
      constructor
      · rintro (⟨held, inLeft, isJoined⟩ | ⟨_, _, isRight⟩)
        · rcases joinRow_eq leftId rightDistinct held with
            ⟨partner, _, _, joinedTo⟩ | ⟨noPartner, joinedTo⟩
          · rw [joinedTo, List.mem_singleton] at isJoined
            cases isJoined
          · rw [joinedTo, List.mem_singleton, JoinedRow.leftOnly.injEq] at isJoined
            subst isJoined
            exact ⟨inLeft, noPartner⟩
        · cases isRight
      · rintro ⟨inLeft, noPartner⟩
        refine Or.inl ⟨row, inLeft, ?_⟩
        rcases joinRow_eq leftId rightDistinct row with
          ⟨partner, partnerHeld, samePartner, _⟩ | ⟨_, joinedTo⟩
        · exact absurd samePartner (noPartner partner partnerHeld)
        · rw [joinedTo]
          exact List.mem_singleton_self _
  | rightOnly other =>
      constructor
      · rintro (⟨held, _, isJoined⟩ | ⟨found, unmatched, isRight⟩)
        · rcases joinRow_eq leftId rightDistinct held with
            ⟨partner, _, _, joinedTo⟩ | ⟨_, joinedTo⟩
          · rw [joinedTo, List.mem_singleton] at isJoined
            cases isJoined
          · rw [joinedTo, List.mem_singleton] at isJoined
            cases isJoined
        · cases isRight
          exact (only other).mp unmatched
      · intro unmatched
        exact Or.inr ⟨other, (only other).mpr unmatched, rfl⟩

end Joins

end Queries
end ChatPlatform
