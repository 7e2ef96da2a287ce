import Mathlib.Data.List.Chain
import Mathlib.Data.List.Infix

/-!
# Blocks of a sequence

A span names a block of a sequence by the positions where it begins and ends. Blocks in
the order of a sequence may overlap; they follow it when every element lies in one of
them. Following survives when elements are left out of the sequence and of its blocks,
and sequences that are followed one after the other are followed as a whole.
-/

namespace ChatPlatform
namespace Spans

variable {α : Type}

/-- The block of a sequence at a span. -/
def slice (whole : List α) (span : Nat × Nat) : List α := (whole.take span.2).drop span.1

/-- A span counted from a later position. -/
def shift (offset : Nat) (span : Nat × Nat) : Nat × Nat := (offset + span.1, offset + span.2)

/-- Whether a position lies in a span. -/
def Within (position : Nat) (span : Nat × Nat) : Prop :=
  span.1 ≤ position ∧ position < span.2

instance (position : Nat) (span : Nat × Nat) : Decidable (Within position span) :=
  inferInstanceAs (Decidable (_ ∧ _))

/-- Spans of a sequence of some length, none of which begins or ends before an earlier one. -/
structure Ascending
    (length : Nat)
    (spans : List (Nat × Nat)) : Prop where
  /-- Every span is one of the sequence. -/
  bounded : ∀ span ∈ spans, span.1 ≤ span.2 ∧ span.2 ≤ length
  /-- The spans are in order. -/
  ordered : spans.Pairwise fun earlier later => earlier.1 ≤ later.1 ∧ earlier.2 ≤ later.2

/-- The parts are blocks of the whole, in its order, and every element of the whole lies in
one of them. -/
def Follows
    (whole : List α)
    (parts : List (List α)) : Prop :=
  ∃ spans, parts = spans.map (slice whole) ∧ Ascending whole.length spans ∧
    ∀ position < whole.length, ∃ span ∈ spans, Within position span

/-! ## Slices -/

@[simp] theorem slice_whole (whole : List α) : slice whole (0, whole.length) = whole := by
  simp [slice]

theorem length_slice
    {whole : List α}
    {span : Nat × Nat}
    (bounded : span.2 ≤ whole.length) : (slice whole span).length = span.2 - span.1 := by
  rw [slice, List.length_drop, List.length_take, Nat.min_eq_left bounded]

/-- A block of a first part. -/
theorem slice_append_left
    {first : List α}
    {span : Nat × Nat}
    (bounded : span.2 ≤ first.length)
    (second : List α) : slice (first ++ second) span = slice first span := by
  rw [slice, slice, List.take_append_of_le_length bounded]

/-- A block of a second part. -/
theorem slice_append_shift
    (first second : List α)
    (span : Nat × Nat) : slice (first ++ second) (shift first.length span) = slice second span := by
  rw [slice, slice, shift, List.take_length_add_append, List.drop_length_add_append]

/-- The block between two others. -/
theorem slice_append_mid (first middle last : List α) :
    slice (first ++ middle ++ last) (first.length, first.length + middle.length) = middle := by
  rw [slice_append_left (by simp)]
  have whole := slice_append_shift first middle (0, middle.length)
  rw [slice_whole] at whole
  exact whole

/-- A sequence is cut into what comes before a block, the block and what comes after it. -/
theorem take_append_slice_append_drop
    (whole : List α)
    (span : Nat × Nat)
    (ascends : span.1 ≤ span.2) :
    whole.take span.1 ++ (slice whole span ++ whole.drop span.2) = whole := by
  have front : whole.take span.1 ++ slice whole span = whole.take span.2 := by
    have cut := List.take_append_drop span.1 (whole.take span.2)
    rwa [List.take_take, Nat.min_eq_left ascends] at cut
  rw [← List.append_assoc, front, List.take_append_drop]

/-- From a position on, a sequence is a block and what comes after it. -/
theorem drop_eq_slice_append_drop
    (whole : List α)
    {first last : Nat}
    (ascends : first ≤ last) :
    whole.drop first = slice whole (first, last) ++ whole.drop last := by
  have cut := take_append_slice_append_drop whole (first, last) ascends
  exact List.append_cancel_left ((List.take_append_drop first whole).trans cut.symm)

/-- A block of a block. -/
theorem slice_slice
    {outer inner : Nat × Nat}
    (bounded : inner.2 ≤ outer.2 - outer.1)
    (whole : List α) : slice (slice whole outer) inner = slice whole (shift outer.1 inner) := by
  simp only [slice, shift]
  rw [List.take_drop, List.take_take, List.drop_drop]
  by_cases empty : inner.2 = 0
  · rw [empty]
    rw [List.drop_eq_nil_of_le, List.drop_eq_nil_of_le]
    · exact le_trans (List.length_take_le _ _) (by omega)
    · exact le_trans (List.length_take_le _ _) (by omega)
  · rw [Nat.min_eq_left (by omega)]

/-- Shifting twice is shifting once. -/
theorem shift_comp_shift (first second : Nat) :
    shift first ∘ shift second = shift (first + second) := by
  funext span
  simp only [Function.comp_apply, shift, Nat.add_assoc]

/-- Adjacent blocks make up one. -/
theorem slice_append_slice
    {first middle last : Nat}
    (ascends : first ≤ middle ∧ middle ≤ last)
    (whole : List α) :
    slice whole (first, middle) ++ slice whole (middle, last) = slice whole (first, last) := by
  have cut := take_append_slice_append_drop (whole.take last) (first, middle) ascends.1
  have same : slice (whole.take last) (first, middle) = slice whole (first, middle) := by
    rw [slice, slice, List.take_take, Nat.min_eq_left ascends.2]
  rw [same, List.take_take, Nat.min_eq_left (le_trans ascends.1 ascends.2)] at cut
  have front := List.take_append_drop first (whole.take last)
  rw [List.take_take, Nat.min_eq_left (le_trans ascends.1 ascends.2)] at front
  exact List.append_cancel_left (cut.trans front.symm)

/-! ## Ascending spans -/

theorem Ascending.nil (length : Nat) : Ascending length [] :=
  ⟨fun _ held => absurd held List.not_mem_nil, List.Pairwise.nil⟩

/-- Spans that are moved by an order stay in order. -/
theorem Ascending.map
    {length moved : Nat}
    {spans : List (Nat × Nat)}
    (ascending : Ascending length spans)
    (move : Nat → Nat)
    (monotone : ∀ {a b : Nat}, a ≤ b → move a ≤ move b)
    (bounded : move length ≤ moved) :
    Ascending moved (spans.map fun span => (move span.1, move span.2)) := by
  constructor
  · intro span present
    obtain ⟨before, isSpan, rfl⟩ := List.mem_map.mp present
    obtain ⟨ascends, ends⟩ := ascending.bounded before isSpan
    exact ⟨monotone ascends, (monotone ends).trans bounded⟩
  · exact List.Pairwise.map _ (fun _ _ order => ⟨monotone order.1, monotone order.2⟩)
      ascending.ordered

/-- Shifted spans stay in order. -/
theorem Ascending.shift
    {length moved : Nat}
    {spans : List (Nat × Nat)}
    (ascending : Ascending length spans)
    {offset : Nat}
    (bounded : offset + length ≤ moved) : Ascending moved (spans.map (shift offset)) :=
  ascending.map (offset + ·) (fun order => Nat.add_le_add_left order offset) bounded

/-- Spans of a first part and then spans after it are in order. -/
theorem Ascending.append
    {middle length : Nat}
    {first second : List (Nat × Nat)}
    (ascendingFirst : Ascending middle first)
    (ascendingSecond : Ascending length second)
    (starts : ∀ span ∈ second, middle ≤ span.1)
    (bounded : middle ≤ length) : Ascending length (first ++ second) := by
  constructor
  · intro span present
    rcases List.mem_append.mp present with early | late
    · obtain ⟨ascends, ends⟩ := ascendingFirst.bounded span early
      exact ⟨ascends, ends.trans bounded⟩
    · exact ascendingSecond.bounded span late
  · rw [List.pairwise_append]
    refine ⟨ascendingFirst.ordered, ascendingSecond.ordered, fun earlier early later late => ?_⟩
    obtain ⟨ascends, ends⟩ := ascendingFirst.bounded earlier early
    have begins := starts later late
    have laterAscends := (ascendingSecond.bounded later late).1
    omega

/-! ## Following -/

theorem follows_nil : Follows ([] : List α) [] :=
  ⟨[], rfl, Ascending.nil 0, fun _ within => absurd within (Nat.not_lt_zero _)⟩

/-- A sequence that is followed and then another that is followed are followed as a whole. -/
theorem Follows.append
    {first second : List α}
    {firstParts secondParts : List (List α)}
    (followsFirst : Follows first firstParts)
    (followsSecond : Follows second secondParts) :
    Follows (first ++ second) (firstParts ++ secondParts) := by
  obtain ⟨firstSpans, rfl, ascendingFirst, coversFirst⟩ := followsFirst
  obtain ⟨secondSpans, rfl, ascendingSecond, coversSecond⟩ := followsSecond
  refine ⟨firstSpans ++ secondSpans.map (shift first.length), ?_, ?_, ?_⟩
  · rw [List.map_append, List.map_map]
    congr 1
    · refine List.map_congr_left fun span present => ?_
      exact (slice_append_left (ascendingFirst.bounded span present).2 second).symm
    · exact List.map_congr_left fun span _ => (slice_append_shift first second span).symm
  · refine ascendingFirst.append (ascendingSecond.shift (by rw [List.length_append])) ?_ (by simp)
    intro span present
    obtain ⟨before, -, rfl⟩ := List.mem_map.mp present
    exact Nat.le_add_right _ _
  · intro position within
    by_cases early : position < first.length
    · obtain ⟨span, present, inside⟩ := coversFirst position early
      exact ⟨span, List.mem_append_left _ present, inside⟩
    · obtain ⟨span, present, begins, ends⟩ := coversSecond (position - first.length) (by
        rw [List.length_append] at within
        omega)
      refine ⟨shift first.length span, List.mem_append_right _ (List.mem_map_of_mem present), ?_⟩
      constructor
      · show first.length + span.1 ≤ position
        omega
      · show position < first.length + span.2
        omega

/-! ## Leaving elements out -/

section Filter

variable
    (keep : α → Bool)
    (whole : List α)

/-- How many elements before a position are kept. -/
def rank (position : Nat) : Nat := ((whole.take position).filter keep).length

theorem rank_le_rank {first second : Nat} (order : first ≤ second) :
    rank keep whole first ≤ rank keep whole second :=
  ((List.take_prefix_take_left order).filter keep).length_le

theorem rank_length : rank keep whole whole.length = (whole.filter keep).length := by
  rw [rank, List.take_length]

/-- What is kept before a position. -/
theorem take_filter (position : Nat) :
    (whole.filter keep).take (rank keep whole position) = (whole.take position).filter keep := by
  have cut := congrArg (List.filter keep) (List.take_append_drop position whole)
  rw [List.filter_append] at cut
  rw [← cut]
  exact List.take_left

/-- What is kept of a block is a block of what is kept. -/
theorem slice_filter {span : Nat × Nat} (ascends : span.1 ≤ span.2) :
    slice (whole.filter keep) (rank keep whole span.1, rank keep whole span.2) =
      (slice whole span).filter keep := by
  have cut := congrArg (List.filter keep) (List.take_append_drop span.1 (whole.take span.2))
  rw [List.filter_append, List.take_take, Nat.min_eq_left ascends] at cut
  rw [slice, take_filter, ← cut]
  exact List.drop_left

/-- Every element that is kept is one of the sequence. -/
theorem exists_position_of_rank {kept : Nat} (within : kept < (whole.filter keep).length) :
    ∃ (position : Nat) (bound : position < whole.length),
      keep whole[position] = true ∧ rank keep whole position = kept ∧
        rank keep whole (position + 1) = kept + 1 := by
  induction whole generalizing kept with
  | nil => exact absurd within (Nat.not_lt_zero _)
  | cons first rest inductionHypothesis =>
      cases isKept : keep first with
      | true =>
          cases kept with
          | zero => exact ⟨0, by simp, isKept, by simp [rank], by simp [rank, isKept]⟩
          | succ kept =>
              rw [List.filter_cons_of_pos isKept, List.length_cons] at within
              obtain ⟨position, bound, holds, here, next⟩ :=
                inductionHypothesis (Nat.lt_of_succ_lt_succ within)
              refine ⟨position + 1, Nat.succ_lt_succ bound, holds, ?_, ?_⟩
              · rw [← here]
                simp [rank, isKept]
              · rw [← next]
                simp [rank, isKept]
      | false =>
          rw [List.filter_cons_of_neg (by simp [isKept])] at within
          obtain ⟨position, bound, holds, here, next⟩ := inductionHypothesis within
          refine ⟨position + 1, Nat.succ_lt_succ bound, holds, ?_, ?_⟩
          · rw [← here]
            simp [rank, isKept]
          · rw [← next]
            simp [rank, isKept]

/-- Blocks that reach every element to be kept follow what is kept. -/
theorem follows_filter
    {spans : List (Nat × Nat)}
    (ascending : Ascending whole.length spans)
    (covers : ∀ position (bound : position < whole.length), keep whole[position] = true →
      ∃ span ∈ spans, Within position span) :
    Follows (whole.filter keep) (spans.map fun span => (slice whole span).filter keep) := by
  refine ⟨spans.map fun span => (rank keep whole span.1, rank keep whole span.2), ?_, ?_, ?_⟩
  · rw [List.map_map]
    refine List.map_congr_left fun span present => ?_
    exact (slice_filter keep whole (ascending.bounded span present).1).symm
  · exact ascending.map (rank keep whole) (rank_le_rank keep whole) (rank_length keep whole).le
  · intro kept within
    obtain ⟨position, bound, holds, here, next⟩ := exists_position_of_rank keep whole within
    obtain ⟨span, present, begins, ends⟩ := covers position bound holds
    refine ⟨_, List.mem_map_of_mem present, ?_, ?_⟩
    · rw [← here]
      exact rank_le_rank keep whole begins
    · have reached := rank_le_rank keep whole (Nat.succ_le_of_lt ends)
      rw [Nat.succ_eq_add_one, next] at reached
      exact reached

end Filter

/-! ## Ranges of a loop -/

/-- The ranges that a loop takes of a sequence, at most `count` of them: where a range ends and
where the next one starts are given, and a range that reaches the end of the sequence is the
last. -/
def rangesFrom
    (length : Nat)
    (ending : Nat → Nat)
    (next : Nat → Nat → Nat) : Nat → Nat → List (Nat × Nat)
  | 0, _ => []
  | count + 1, start =>
      if start < length then
        (start, ending start) ::
          if length ≤ ending start then []
          else rangesFrom length ending next count (next start (ending start))
      else []

/-- What one turn of such a loop does: its range is not empty and not too long, and the next one
starts after its start and not after its end. -/
structure Moves
    (length size : Nat)
    (ending : Nat → Nat)
    (next : Nat → Nat → Nat) : Prop where
  /-- The range. -/
  ends : ∀ start < length,
    start < ending start ∧ ending start ≤ start + size ∧ ending start ≤ length
  /-- The next start. -/
  starts : ∀ start < length, ending start < length →
    start < next start (ending start) ∧ next start (ending start) ≤ ending start

/-- Ranges from a start on, at most `limit` of them, that reach the end of the sequence unless
there are as many as that. -/
structure Advancing
    (start length size limit : Nat)
    (ranges : List (Nat × Nat)) : Prop where
  /-- The starts rise. -/
  rising : ranges.Pairwise fun earlier later => earlier.1 < later.1
  /-- No range is empty or too long. -/
  sized : ∀ range ∈ ranges, range.1 < range.2 ∧ range.2 ≤ range.1 + size ∧ range.2 ≤ length
  /-- A range starts at or before the end of the one before. -/
  touching : ranges.IsChain fun earlier later => later.1 ≤ earlier.2
  /-- The first range is at the start. -/
  first : ∀ range ∈ ranges.head?, range.1 = start
  /-- The last range reaches the end. -/
  last : ranges.length < limit →
    (ranges = [] ∧ length ≤ start) ∨ ∃ range ∈ ranges.getLast?, range.2 = length
  /-- There are not too many. -/
  few : ranges.length ≤ limit

/-- No range starts before the start. -/
theorem Advancing.le_start
    {start length size limit : Nat}
    {ranges : List (Nat × Nat)}
    (advancing : Advancing start length size limit ranges)
    (range : Nat × Nat)
    (member : range ∈ ranges) : start ≤ range.1 := by
  cases ranges with
  | nil => exact absurd member List.not_mem_nil
  | cons head rest =>
      have isStart := advancing.first head rfl
      obtain rfl | later := List.mem_cons.mp member
      · exact isStart.ge
      · exact isStart.ge.trans ((List.pairwise_cons.mp advancing.rising).1 range later).le

/-- Ranges that touch leave out no position between the first start and the last end. -/
theorem exists_within_of_touching
    {length : Nat}
    (ranges : List (Nat × Nat))
    (touching : ranges.IsChain fun earlier later => later.1 ≤ earlier.2)
    (last : ∃ range ∈ ranges.getLast?, range.2 = length)
    (position : Nat)
    (after : ∀ range ∈ ranges.head?, range.1 ≤ position)
    (before : position < length) : ∃ range ∈ ranges, Within position range := by
  induction ranges with
  | nil =>
      obtain ⟨range, member, -⟩ := last
      cases member
  | cons range rest ih =>
      by_cases inside : position < range.2
      · exact ⟨range, List.mem_cons_self, after range rfl, inside⟩
      · cases rest with
        | nil =>
            obtain ⟨other, member, reached⟩ := last
            rw [List.getLast?_singleton] at member
            obtain rfl := Option.mem_some_iff.mp member
            omega
        | cons next others =>
            rw [List.getLast?_cons_cons] at last
            rw [List.isChain_cons_cons] at touching
            obtain ⟨held, member, within⟩ := ih touching.2 last fun other isNext => by
              obtain rfl := Option.mem_some_iff.mp isNext
              omega
            exact ⟨held, List.mem_cons_of_mem _ member, within⟩

/-- Unless there are as many as the limit, the ranges cover the sequence from the start on. -/
theorem Advancing.covers
    {start length size limit : Nat}
    {ranges : List (Nat × Nat)}
    (advancing : Advancing start length size limit ranges)
    (fewer : ranges.length < limit)
    (position : Nat)
    (after : start ≤ position)
    (before : position < length) : ∃ range ∈ ranges, Within position range := by
  obtain ⟨-, ended⟩ | last := advancing.last fewer
  · omega
  · refine exists_within_of_touching ranges advancing.touching last position ?_ before
    exact fun range member => (advancing.first range member).le.trans after

/-- Such a loop advances. -/
theorem advancing_rangesFrom
    {length size : Nat}
    {ending : Nat → Nat}
    {next : Nat → Nat → Nat}
    (moves : Moves length size ending next)
    (count start : Nat) :
    Advancing start length size count (rangesFrom length ending next count start) := by
  induction count generalizing start with
  | zero => exact ⟨.nil, by simp [rangesFrom], .nil, by simp [rangesFrom], nofun, le_rfl⟩
  | succ count ih =>
      rw [rangesFrom]
      split
      case isFalse ended =>
        exact ⟨.nil, by simp, .nil, by simp, fun _ => .inl ⟨rfl, not_lt.mp ended⟩, Nat.zero_le _⟩
      case isTrue inside =>
        obtain ⟨nonempty, short, within⟩ := moves.ends start inside
        split
        case isTrue reached =>
          refine ⟨List.pairwise_singleton _ _, ?_, .singleton _, ?_, fun _ => .inr ?_, ?_⟩
          · intro range member
            obtain rfl := List.mem_singleton.mp member
            exact ⟨nonempty, short, within⟩
          · intro range member
            obtain rfl := Option.mem_some_iff.mp member
            rfl
          · exact ⟨_, rfl, le_antisymm within reached⟩
          · exact Nat.succ_le_succ (Nat.zero_le _)
        case isFalse more =>
          obtain ⟨later, touches⟩ := moves.starts start inside (not_le.mp more)
          have rest := ih (next start (ending start))
          refine ⟨List.pairwise_cons.mpr ⟨fun range member => ?_, rest.rising⟩,
            List.forall_mem_cons.mpr ⟨⟨nonempty, short, within⟩, rest.sized⟩,
            rest.touching.cons fun range member => ?_, ?_,
            fun few => .inr ?_, Nat.succ_le_succ rest.few⟩
          · exact later.trans_le (rest.le_start range member)
          · rw [rest.first range member]
            exact touches
          · intro range member
            obtain rfl := Option.mem_some_iff.mp member
            rfl
          · have some := rest.last (Nat.succ_lt_succ_iff.mp few)
            obtain ⟨none, ended⟩ | ⟨range, member, reached⟩ := some
            · omega
            · refine ⟨range, ?_, reached⟩
              rw [List.getLast?_cons, Option.mem_def.mp member]
              rfl

end Spans
end ChatPlatform
