import ChatPlatform.Ingest.Chunking

/-!
# Where the windows lie

The windows of a text are blocks of it: each is trimmed and not empty, they are in order,
and every character that is not white space lies in one of them.
-/

namespace ChatPlatform
namespace Ingest

open Text Spans

/-- The characters of a text that are not white space. -/
def ink (text : Str) : Str := text.filter fun c => !isSpace c

theorem ink_append (first second : Str) : ink (first ++ second) = ink first ++ ink second :=
  List.filter_append ..

/-- White space has no ink. -/
theorem ink_eq_nil {gap : Str} (isGap : ∀ c ∈ gap, isSpace c = true) : ink gap = [] := by
  rw [ink, List.filter_eq_nil_iff]
  intro c present
  simp [isGap c present]

/-! ## What stripping keeps -/

/-- Where the stripped text lies in a text. -/
def stripSpan (text : Str) : Nat × Nat :=
  let lead := (text.takeWhile isSpace).length
  (lead, lead + (strip text).length)

/-- A text is its stripped text between white space. -/
theorem exists_gaps (text : Str) :
    ∃ back, (∀ c ∈ back, isSpace c = true) ∧
      text = text.takeWhile isSpace ++ strip text ++ back := by
  refine ⟨(text.dropWhile isSpace).rtakeWhile isSpace, ?_, ?_⟩
  · intro c present
    exact List.mem_rtakeWhile_imp present
  · rw [strip, List.append_assoc, List.rdropWhile_append_rtakeWhile,
      List.takeWhile_append_dropWhile]

/-- Stripping loses no ink. -/
theorem ink_strip (text : Str) : ink (strip text) = ink text := by
  obtain ⟨back, isGap, whole⟩ := exists_gaps text
  have parts := congrArg ink whole
  rw [ink_append, ink_append, ink_eq_nil isGap,
    ink_eq_nil fun c present => List.mem_takeWhile_imp present] at parts
  simpa using parts.symm

/-- The stripped text is the block at its span. -/
theorem slice_stripSpan (text : Str) : slice text (stripSpan text) = strip text := by
  obtain ⟨back, -, whole⟩ := exists_gaps text
  have block := slice_append_mid (text.takeWhile isSpace) (strip text) back
  rw [← whole] at block
  exact block

/-- The span of the stripped text is one of the text. -/
theorem stripSpan_bounded (text : Str) :
    (stripSpan text).1 ≤ (stripSpan text).2 ∧ (stripSpan text).2 ≤ text.length := by
  obtain ⟨back, -, whole⟩ := exists_gaps text
  have measured := congrArg List.length whole
  simp only [List.length_append] at measured
  refine ⟨Nat.le_add_right _ _, ?_⟩
  show (text.takeWhile isSpace).length + (strip text).length ≤ text.length
  omega

/-- Everything but white space is kept by stripping. -/
theorem within_stripSpan
    {text : Str}
    {position : Nat}
    {c : Char}
    (here : text[position]? = some c)
    (inked : isSpace c = false) : Within position (stripSpan text) := by
  obtain ⟨back, isGap, whole⟩ := exists_gaps text
  have bounded := (List.getElem?_eq_some_iff.mp here).1
  rw [whole] at here
  constructor
  · by_contra early
    rw [List.append_assoc, List.getElem?_append_left (Nat.lt_of_not_le early)] at here
    rw [List.mem_takeWhile_imp (List.mem_of_getElem? here)] at inked
    cases inked
  · by_contra late
    rw [List.getElem?_append_right (by
      rw [List.length_append]
      exact Nat.le_of_not_lt late)] at here
    rw [isGap c (List.mem_of_getElem? here)] at inked
    cases inked

/-- What stripping keeps is trimmed. -/
theorem isTrimmed_strip (text : Str) : IsTrimmed (strip text) := by
  constructor
  · intro c isHead
    obtain ⟨tail, whole⟩ := List.rdropWhile_prefix isSpace (text.dropWhile isSpace)
    have isFirst : (text.dropWhile isSpace).head? = some c := by
      rw [← whole, List.head?_append]
      show (strip text).head?.or _ = _
      rw [isHead]
      rfl
    have kept := List.head?_dropWhile_not isSpace text
    rw [isFirst] at kept
    exact kept
  · intro c isLast
    have held : strip text ≠ [] := by
      intro empty
      rw [empty] at isLast
      cases isLast
    rw [List.getLast?_eq_some_getLast held] at isLast
    cases isLast
    exact strip_getLast_not_space held

/-! ## Spans of windows -/

/-- A span of a text that is trimmed and not empty. -/
structure Trimmed
    (text : Str)
    (span : Nat × Nat) : Prop where
  /-- It is one of the text. -/
  bounded : span.1 < span.2 ∧ span.2 ≤ text.length
  /-- Neither end is white space. -/
  trimmed : IsTrimmed (slice text span)

/-- A stripped text that is not empty is trimmed. -/
theorem trimmed_stripSpan
    {text : Str}
    (held : strip text ≠ []) : Trimmed text (stripSpan text) := by
  refine ⟨⟨?_, (stripSpan_bounded text).2⟩, ?_⟩
  · exact Nat.lt_add_of_pos_right (List.length_pos_iff.mpr held)
  · rw [slice_stripSpan]
    exact isTrimmed_strip text

/-- A trimmed span begins and ends with ink. -/
theorem Trimmed.ends
    {text : Str}
    {span : Nat × Nat}
    (held : Trimmed text span) :
    (∃ c, text[span.1]? = some c ∧ isSpace c = false) ∧
      ∃ c, text[span.2 - 1]? = some c ∧ isSpace c = false := by
  obtain ⟨⟨ascends, bounded⟩, noFront, noBack⟩ := held
  have measured : (slice text span).length = span.2 - span.1 := length_slice bounded
  have get : ∀ position, span.1 + position < span.2 →
      (slice text span)[position]? = text[span.1 + position]? := by
    intro position inside
    rw [slice, List.getElem?_drop, List.getElem?_take_of_lt inside]
  constructor
  · have first := get 0 (by omega)
    rw [Nat.add_zero] at first
    have here := List.getElem?_eq_getElem (l := text) (i := span.1) (by omega)
    refine ⟨_, here, noFront _ ?_⟩
    rw [List.head?_eq_getElem?, first, here]
  · have last := get (span.2 - span.1 - 1) (by omega)
    rw [show span.1 + (span.2 - span.1 - 1) = span.2 - 1 by omega] at last
    have here := List.getElem?_eq_getElem (l := text) (i := span.2 - 1) (by omega)
    refine ⟨_, here, noBack _ ?_⟩
    rw [List.getLast?_eq_getElem?, measured, last, here]

/-- The window from a position. -/
def window
    (stripped : Str)
    (chunkSize start : Nat) : Nat × Nat :=
  (start, min (start + chunkSize) stripped.length)

/-- Where the windows from a position on lie after stripping. -/
def windowSpansFrom
    (stripped : Str)
    (chunkSize : Nat)
    {step : Nat}
    (moves : 0 < step)
    (start : Nat) : List (Nat × Nat) :=
  if start < stripped.length then
    (if strip (slice stripped (window stripped chunkSize start)) = [] then []
      else [shift start (stripSpan (slice stripped (window stripped chunkSize start)))]) ++
    if (window stripped chunkSize start).2 = stripped.length then []
    else windowSpansFrom stripped chunkSize moves (start + step)
  else []
termination_by stripped.length - start

/-- What holds past the end of a text, and at a position if it holds at the next window,
holds everywhere. -/
private theorem window_induction
    (stripped : Str)
    {step : Nat}
    (moves : 0 < step)
    {holds : Nat → Prop}
    (past : ∀ start, stripped.length ≤ start → holds start)
    (back : ∀ start, start < stripped.length → holds (start + step) → holds start)
    (start : Nat) : holds start := by
  by_cases before : start < stripped.length
  · exact back start before (window_induction stripped moves past back (start + step))
  · exact past start (Nat.le_of_not_lt before)
termination_by stripped.length - start

section Windows

variable
    (stripped : Str)
    (chunkSize : Nat)
    {step : Nat}
    (moves : 0 < step)

/-- A window is one of the text. -/
private theorem window_bounded
    {start : Nat}
    (before : start < stripped.length) :
    start ≤ (window stripped chunkSize start).2 ∧
      (window stripped chunkSize start).2 ≤ stripped.length := by
  dsimp only [window]
  omega

/-- A stripped window lies in the window. -/
private theorem stripSpan_window_le
    {start : Nat}
    (before : start < stripped.length) :
    (stripSpan (slice stripped (window stripped chunkSize start))).2 ≤
      (window stripped chunkSize start).2 - start := by
  have inner := (stripSpan_bounded (slice stripped (window stripped chunkSize start))).2
  rw [length_slice (window_bounded stripped chunkSize before).2] at inner
  exact inner

/-- The block at the span of a stripped window is the stripped window. -/
private theorem slice_shift_stripSpan
    {start : Nat}
    (before : start < stripped.length) :
    slice stripped (shift start (stripSpan (slice stripped (window stripped chunkSize start)))) =
      strip (slice stripped (window stripped chunkSize start)) := by
  have block := slice_slice (stripSpan_window_le stripped chunkSize before) stripped
  rw [slice_stripSpan] at block
  exact block.symm

/-- The windows from a position within the text. -/
private theorem windowsFrom_of_lt
    {start : Nat}
    (before : start < stripped.length) :
    windowsFrom stripped chunkSize moves start =
      if strip (slice stripped (window stripped chunkSize start)) = [] then
        if (window stripped chunkSize start).2 = stripped.length then []
        else windowsFrom stripped chunkSize moves (start + step)
      else
        strip (slice stripped (window stripped chunkSize start)) ::
          if (window stripped chunkSize start).2 = stripped.length then []
          else windowsFrom stripped chunkSize moves (start + step) := by
  rw [windowsFrom, if_pos before]
  rfl

/-- The windows are the blocks at their spans. -/
theorem windowsFrom_eq (start : Nat) :
    windowsFrom stripped chunkSize moves start =
      (windowSpansFrom stripped chunkSize moves start).map (slice stripped) := by
  induction start using window_induction stripped moves with
  | past start past =>
      rw [windowsFrom, windowSpansFrom, if_neg (Nat.not_lt_of_le past),
        if_neg (Nat.not_lt_of_le past)]
      rfl
  | back start before later =>
      rw [windowsFrom_of_lt stripped chunkSize moves before, windowSpansFrom, if_pos before,
        List.map_append, later]
      by_cases empty : strip (slice stripped (window stripped chunkSize start)) = []
      · rw [if_pos empty, if_pos empty, apply_ite (List.map (slice stripped))]
        rfl
      · rw [if_neg empty, if_neg empty, apply_ite (List.map (slice stripped)), List.map_singleton,
          slice_shift_stripSpan stripped chunkSize before]
        rfl

/-- Every window lies where a window begins. -/
private theorem mem_windowSpansFrom
    {first : Nat}
    {span : Nat × Nat}
    (present : span ∈ windowSpansFrom stripped chunkSize moves first) :
    ∃ start, first ≤ start ∧ start < stripped.length ∧
      strip (slice stripped (window stripped chunkSize start)) ≠ [] ∧
        span = shift start (stripSpan (slice stripped (window stripped chunkSize start))) := by
  induction first using window_induction stripped moves with
  | past first past =>
      rw [windowSpansFrom, if_neg (Nat.not_lt_of_le past)] at present
      cases present
  | back first before later =>
      rw [windowSpansFrom, if_pos before] at present
      rcases List.mem_append.mp present with here | there
      · split at here
        · cases here
        · rename_i held
          exact ⟨first, le_rfl, before, held, List.mem_singleton.mp here⟩
      · split at there
        · cases there
        · obtain ⟨start, order, inside⟩ := later there
          exact ⟨start, (Nat.le_add_right _ _).trans order, inside⟩

/-- Ink in a window lies in its stripped part. -/
private theorem within_of_within_window
    (start : Nat)
    {position : Nat}
    {c : Char}
    (here : stripped[position]? = some c)
    (inked : isSpace c = false)
    (inside : Within position (window stripped chunkSize start)) :
    Within position
      (shift start (stripSpan (slice stripped (window stripped chunkSize start)))) := by
  have inner : (slice stripped (window stripped chunkSize start))[position - start]? = some c := by
    rw [slice, List.getElem?_drop, List.getElem?_take_of_lt]
    · rw [← here]
      congr 1
      exact Nat.add_sub_of_le inside.1
    · have ends := inside.2
      have begins := inside.1
      dsimp only [window] at ends begins ⊢
      omega
  obtain ⟨begins, ends⟩ := within_stripSpan inner inked
  have after : start ≤ position := inside.1
  constructor
  · dsimp only [shift]
    omega
  · dsimp only [shift]
    omega

/-- What a window covers is trimmed and no longer than a window. -/
private theorem trimmed_window
    {start : Nat}
    (before : start < stripped.length)
    (held : strip (slice stripped (window stripped chunkSize start)) ≠ []) :
    Trimmed stripped
        (shift start (stripSpan (slice stripped (window stripped chunkSize start)))) ∧
      (stripSpan (slice stripped (window stripped chunkSize start))).2 ≤ chunkSize := by
  have inner := stripSpan_window_le stripped chunkSize before
  have outer := window_bounded stripped chunkSize before
  have ascends := (trimmed_stripSpan held).bounded.1
  refine ⟨⟨⟨Nat.add_lt_add_left ascends start, ?_⟩, ?_⟩, ?_⟩
  · dsimp only [shift]
    omega
  · rw [slice_shift_stripSpan stripped chunkSize before]
    exact isTrimmed_strip _
  · refine inner.trans ?_
    dsimp only [window]
    omega

/-- A later window covers nothing earlier. -/
private theorem window_order
    {first second : Nat}
    (order : first ≤ second)
    (before : second < stripped.length)
    (heldFirst : strip (slice stripped (window stripped chunkSize first)) ≠ [])
    (heldSecond : strip (slice stripped (window stripped chunkSize second)) ≠ []) :
    first + (stripSpan (slice stripped (window stripped chunkSize first))).1 ≤
        second + (stripSpan (slice stripped (window stripped chunkSize second))).1 ∧
      first + (stripSpan (slice stripped (window stripped chunkSize first))).2 ≤
        second + (stripSpan (slice stripped (window stripped chunkSize second))).2 := by
  have beforeFirst : first < stripped.length := lt_of_le_of_lt order before
  have ascends := (trimmed_window stripped chunkSize beforeFirst heldFirst).1.bounded.1
  have ascendsSecond := (trimmed_window stripped chunkSize before heldSecond).1.bounded.1
  have inner := stripSpan_window_le stripped chunkSize beforeFirst
  have innerSecond := stripSpan_window_le stripped chunkSize before
  obtain ⟨-, last, isLast, lastInked⟩ :=
    (trimmed_window stripped chunkSize beforeFirst heldFirst).1.ends
  obtain ⟨⟨begin, isFirst, beginInked⟩, -⟩ :=
    (trimmed_window stripped chunkSize before heldSecond).1.ends
  have reach : (window stripped chunkSize first).2 ≤ (window stripped chunkSize second).2 := by
    dsimp only [window]
    omega
  dsimp only [shift] at ascends ascendsSecond isLast isFirst
  constructor
  · by_contra later
    obtain ⟨begins, -⟩ := within_of_within_window stripped chunkSize first
      isFirst beginInked ⟨(Nat.le_add_right _ _).trans' order, by omega⟩
    exact later begins
  · by_contra later
    obtain ⟨-, ends⟩ := within_of_within_window stripped chunkSize second
      isLast lastInked ⟨(show second ≤ _ by omega), by omega⟩
    dsimp only [shift] at ends
    omega

/-- The windows are in order, trimmed and short. -/
theorem windowSpansFrom_ascending (start : Nat) :
    Ascending stripped.length (windowSpansFrom stripped chunkSize moves start) ∧
      ∀ span ∈ windowSpansFrom stripped chunkSize moves start,
        Trimmed stripped span ∧ span.2 - span.1 ≤ chunkSize := by
  have each : ∀ first, ∀ span ∈ windowSpansFrom stripped chunkSize moves first,
      Trimmed stripped span ∧ span.2 - span.1 ≤ chunkSize := by
    intro first span present
    obtain ⟨start, -, before, held, rfl⟩ := mem_windowSpansFrom stripped chunkSize moves present
    obtain ⟨trimmed, short⟩ := trimmed_window stripped chunkSize before held
    refine ⟨trimmed, ?_⟩
    dsimp only [shift]
    omega
  refine ⟨⟨fun span present => ?_, ?_⟩, each start⟩
  · have bounded := (each start span present).1.bounded
    exact ⟨bounded.1.le, bounded.2⟩
  · induction start using window_induction stripped moves with
    | past start past =>
        rw [windowSpansFrom, if_neg (Nat.not_lt_of_le past)]
        exact List.Pairwise.nil
    | back start before later =>
        rw [windowSpansFrom, if_pos before, List.pairwise_append]
        refine ⟨?_, ?_, ?_⟩
        · split
          · exact List.Pairwise.nil
          · exact List.pairwise_singleton _ _
        · split
          · exact List.Pairwise.nil
          · exact later
        · intro earlier isEarlier next isNext
          split at isEarlier
          · cases isEarlier
          · rename_i held
            rw [List.mem_singleton.mp isEarlier]
            split at isNext
            · cases isNext
            · obtain ⟨second, order, beforeSecond, heldSecond, rfl⟩ :=
                mem_windowSpansFrom stripped chunkSize moves isNext
              exact window_order stripped chunkSize ((Nat.le_add_right _ _).trans order)
                beforeSecond held heldSecond

/-- When windows overlap or touch, all ink from the first window on lies in one. -/
theorem windowSpansFrom_covers
    (touches : step ≤ chunkSize)
    {start position : Nat}
    {c : Char}
    (after : start ≤ position)
    (here : stripped[position]? = some c)
    (inked : isSpace c = false) :
    ∃ span ∈ windowSpansFrom stripped chunkSize moves start, Within position span := by
  have bound := (List.getElem?_eq_some_iff.mp here).1
  induction start using window_induction stripped moves with
  | past start past => exact absurd (past.trans after) (Nat.not_le_of_lt bound)
  | back start before later =>
      rw [windowSpansFrom, if_pos before]
      by_cases inside : position < (window stripped chunkSize start).2
      · have within := within_of_within_window stripped chunkSize start here inked ⟨after, inside⟩
        have held : strip (slice stripped (window stripped chunkSize start)) ≠ [] := by
          intro empty
          obtain ⟨begins, ends⟩ := within
          dsimp only [shift, stripSpan] at begins ends
          rw [empty] at ends
          exact absurd begins (Nat.not_le_of_lt ends)
        exact ⟨_, List.mem_append_left _ (by rw [if_neg held]; exact List.mem_singleton_self _),
          within⟩
      · have unfinished : (window stripped chunkSize start).2 ≠ stripped.length := by
          intro ended
          exact inside (ended.symm ▸ bound)
        have next : start + step ≤ position := by
          dsimp only [window] at inside unfinished
          omega
        obtain ⟨span, present, within⟩ := later next
        exact ⟨span, List.mem_append_right _ (by rw [if_neg unfinished]; exact present), within⟩

end Windows

/-! ## The pieces of a region -/

/-- The pieces of a region of a text: trimmed and short blocks of it, in order, one of
which holds each character of the region that is not white space. -/
structure Pieces
    (text : Str)
    (region : Nat × Nat)
    (chunkSize : Nat)
    (spans : List (Nat × Nat)) : Prop where
  /-- They lie in the region. -/
  inside : ∀ span ∈ spans, region.1 ≤ span.1 ∧ span.2 ≤ region.2
  /-- They are trimmed and not empty. -/
  trimmed : ∀ span ∈ spans, Trimmed text span
  /-- They are short. -/
  short : ∀ span ∈ spans, span.2 - span.1 ≤ chunkSize
  /-- They are in order. -/
  ordered : spans.Pairwise fun earlier later => earlier.1 ≤ later.1 ∧ earlier.2 ≤ later.2
  /-- They hold all ink of the region. -/
  covers : ∀ {position : Nat} {c : Char}, text[position]? = some c → isSpace c = false →
    Within position region → ∃ span ∈ spans, Within position span

/-- The pieces are spans of the text in order. -/
theorem Pieces.ascending
    {text : Str}
    {region : Nat × Nat}
    {chunkSize : Nat}
    {spans : List (Nat × Nat)}
    (pieces : Pieces text region chunkSize spans) : Ascending text.length spans where
  bounded := fun span present =>
    ⟨(pieces.trimmed span present).bounded.1.le, (pieces.trimmed span present).bounded.2⟩
  ordered := pieces.ordered

/-- The pieces of a block are pieces of the whole. -/
theorem Pieces.shift
    {text : Str}
    {region : Nat × Nat}
    {chunkSize : Nat}
    {spans : List (Nat × Nat)}
    (bounded : region.2 ≤ text.length)
    (pieces : Pieces (slice text region) (0, (slice text region).length) chunkSize spans) :
    Pieces text region chunkSize (spans.map (Spans.shift region.1)) := by
  have measured := length_slice bounded
  have within : ∀ span ∈ spans, span.1 < span.2 ∧ span.2 ≤ region.2 - region.1 := by
    intro span present
    have here := (pieces.trimmed span present).bounded
    rw [measured] at here
    exact here
  constructor
  · intro span present
    obtain ⟨inner, isInner, rfl⟩ := List.mem_map.mp present
    have here := within inner isInner
    dsimp only [Spans.shift]
    omega
  · intro span present
    obtain ⟨inner, isInner, rfl⟩ := List.mem_map.mp present
    have here := within inner isInner
    refine ⟨?_, ?_⟩
    · dsimp only [Spans.shift]
      omega
    · rw [← slice_slice here.2]
      exact (pieces.trimmed inner isInner).trimmed
  · intro span present
    obtain ⟨inner, isInner, rfl⟩ := List.mem_map.mp present
    have short := pieces.short inner isInner
    dsimp only [Spans.shift]
    omega
  · exact List.Pairwise.map _ (fun _ _ order =>
      ⟨Nat.add_le_add_left order.1 _, Nat.add_le_add_left order.2 _⟩) pieces.ordered
  · intro position c here inked ⟨begins, ends⟩
    have inner : (slice text region)[position - region.1]? = some c := by
      rw [slice, List.getElem?_drop, Nat.add_sub_of_le begins, List.getElem?_take_of_lt ends, here]
    obtain ⟨span, present, first, last⟩ := pieces.covers inner inked
      ⟨Nat.zero_le _, (List.getElem?_eq_some_iff.mp inner).1⟩
    refine ⟨_, List.mem_map_of_mem present, ?_, ?_⟩
    · dsimp only [Spans.shift]
      omega
    · dsimp only [Spans.shift]
      omega

/-- The pieces of a part that holds all ink of a region are the pieces of the region. -/
theorem Pieces.widen
    {text : Str}
    {part region : Nat × Nat}
    {chunkSize : Nat}
    {spans : List (Nat × Nat)}
    (pieces : Pieces text part chunkSize spans)
    (inside : region.1 ≤ part.1 ∧ part.2 ≤ region.2)
    (inked : ∀ {position : Nat} {c : Char}, text[position]? = some c → isSpace c = false →
      Within position region → Within position part) : Pieces text region chunkSize spans where
  inside := fun span present =>
    ⟨inside.1.trans (pieces.inside span present).1, (pieces.inside span present).2.trans inside.2⟩
  trimmed := pieces.trimmed
  short := pieces.short
  ordered := pieces.ordered
  covers := fun here isInk within => pieces.covers here isInk (inked here isInk within)

/-- A text without ink has no pieces. -/
theorem Pieces.nil
    {text : Str}
    (noInk : ∀ {position : Nat} {c : Char}, text[position]? = some c → isSpace c = true)
    (region : Nat × Nat)
    (chunkSize : Nat) : Pieces text region chunkSize [] where
  inside := fun _ held => absurd held List.not_mem_nil
  trimmed := fun _ held => absurd held List.not_mem_nil
  short := fun _ held => absurd held List.not_mem_nil
  ordered := List.Pairwise.nil
  covers := fun here inked => absurd (noInk here) (by simp [inked])

/-- Where the pieces of a text lie. -/
def splitRecursiveSpans
    (text : Str)
    (chunkSize overlap : Int) : List (Nat × Nat) :=
  if strip text = [] then []
  else if short : overlap < 0 ∨ chunkSize ≤ overlap ∨ ((strip text).length : Int) ≤ chunkSize then
    [stripSpan text]
  else
    have moves : 0 < (chunkSize - overlap).toNat := by omega
    (windowSpansFrom (strip text) chunkSize.toNat moves 0).map (shift (stripSpan text).1)

section Valid

variable
    {chunkSize overlap : Int}
    (positive : 0 < chunkSize)
    (nonnegative : 0 ≤ overlap)
    (smaller : overlap < chunkSize)

include positive nonnegative smaller

/-- The pieces of a text are the blocks at their spans. -/
theorem splitRecursive_eq (text : Str) :
    splitRecursive text chunkSize overlap =
      .ok ((splitRecursiveSpans text chunkSize overlap).map (slice text)) := by
  unfold splitRecursive splitRecursiveSpans
  dsimp only
  by_cases empty : strip text = []
  · rw [if_pos empty, if_pos empty]
    rfl
  · rw [if_neg empty, if_neg empty, if_neg (by omega), dif_neg (by omega)]
    by_cases short : ((strip text).length : Int) ≤ chunkSize
    · rw [if_pos short, dif_pos (by omega), List.map_singleton, slice_stripSpan]
    · rw [if_neg short, dif_neg (by omega), windowsFrom_eq, List.map_map]
      congr 1
      refine List.map_congr_left fun span present => ?_
      have bounded := ((windowSpansFrom_ascending _ _ _ _).2 span present).1.bounded.2
      have measured := length_slice (stripSpan_bounded text).2
      rw [slice_stripSpan] at measured
      rw [measured] at bounded
      rw [Function.comp_apply, ← slice_slice bounded, slice_stripSpan]

/-- The pieces of a text hold all its ink. -/
theorem pieces_splitRecursiveSpans (text : Str) :
    Pieces text (0, text.length) chunkSize.toNat
      (splitRecursiveSpans text chunkSize overlap) := by
  have lead := stripSpan_bounded text
  have measured := length_slice lead.2
  rw [slice_stripSpan] at measured
  unfold splitRecursiveSpans
  by_cases empty : strip text = []
  · rw [if_pos empty]
    refine Pieces.nil (fun {position c} here => ?_) _ _
    exact (strip_eq_nil_iff text).mp empty c (List.mem_of_getElem? here)
  · rw [if_neg empty]
    suffices pieces : Pieces text (stripSpan text) chunkSize.toNat _ from
      pieces.widen ⟨Nat.zero_le _, lead.2⟩ fun here inked _ => within_stripSpan here inked
    by_cases short : ((strip text).length : Int) ≤ chunkSize
    · rw [dif_pos (by omega)]
      refine ⟨?_, ?_, ?_, List.pairwise_singleton _ _, ?_⟩
      · intro span present
        rw [List.mem_singleton.mp present]
        exact ⟨le_rfl, le_rfl⟩
      · intro span present
        rw [List.mem_singleton.mp present]
        exact trimmed_stripSpan empty
      · intro span present
        rw [List.mem_singleton.mp present]
        omega
      · exact fun _ _ inside => ⟨_, List.mem_singleton_self _, inside⟩
    · rw [dif_neg (by omega)]
      dsimp only
      refine Pieces.shift lead.2 ?_
      rw [slice_stripSpan]
      have moves : 0 < (chunkSize - overlap).toNat := by omega
      have ascending := windowSpansFrom_ascending (strip text) chunkSize.toNat moves 0
      refine ⟨?_, fun span present => (ascending.2 span present).1,
        fun span present => (ascending.2 span present).2, ascending.1.ordered, ?_⟩
      · exact fun span present => ⟨Nat.zero_le _, (ascending.1.bounded span present).2⟩
      · exact fun here inked _ => windowSpansFrom_covers (strip text) chunkSize.toNat _ (by omega)
          (Nat.zero_le _) here inked

end Valid

end Ingest
end ChatPlatform
