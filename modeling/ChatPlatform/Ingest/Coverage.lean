import ChatPlatform.Ingest.Windows

/-!
# Chunking loses nothing

A text with a valid chunk size and overlap is always chunked. The chunks are trimmed,
short and not empty, and they follow the characters of the text that are not white space
and not the marks of a header. The chunks of a Markdown section carry the titles of the
headers that enclose it.
-/

namespace ChatPlatform
namespace Ingest

open Text Spans

/-! ## What is to be shown -/

/-- A chunk that is not empty, has no white space around it and is no longer than allowed. -/
def Sized
    (chunkSize : Int)
    (chunk : RawChunk) : Prop :=
  chunk.text ≠ [] ∧ IsTrimmed chunk.text ∧ (chunk.text.length : Int) ≤ chunkSize

/-- The chunks of a text under a label. -/
structure SectionChunks
    (chunkSize : Int)
    (labelled : Str × Str)
    (chunks : List RawChunk) : Prop where
  /-- They carry the label. -/
  label : ∀ chunk ∈ chunks, chunk.sectionPath = labelled.1
  /-- They have the right size. -/
  sized : ∀ chunk ∈ chunks, Sized chunkSize chunk
  /-- They follow the ink of the text. -/
  follows : Follows (ink labelled.2) (chunks.map fun chunk => ink chunk.text)

/-- Whether a position holds one of the number signs that mark a header. -/
def isMarker
    (headers : List HeaderMatch)
    (position : Nat) : Bool :=
  headers.any fun header => decide (Within position (header.start, header.start + header.level))

/-- The characters from a position on that are neither white space nor mark a header. -/
def unmarkedFrom
    (headers : List HeaderMatch)
    (position : Nat)
    (text : Str) : Str :=
  ((text.zipIdx position).filter fun entry =>
    !isSpace entry.1 && !isMarker headers entry.2).map (·.1)

/-- What the chunks of a document have to hold. -/
def inkToHold (docType text : Str) : Str :=
  if docType = "markdown".toList then unmarkedFrom (finditer text) 0 text else ink text

/-- The headers that are still open after the last one: those that all later headers are
below. -/
def enclosing : List HeaderMatch → List HeaderMatch
  | [] => []
  | header :: later =>
      if later.all (fun other => decide (header.level < other.level)) then
        header :: enclosing later
      else enclosing later

/-- The titles of the headers that enclose a header, joined. -/
def chainOfTitles
    (headers : List HeaderMatch)
    (index : Nat) : Str :=
  join " > ".toList ((enclosing (headers.take (index + 1))).map fun header => strip header.title)

/-- What stands between the marks of a header and the next header. -/
def sectionSource
    (text : Str)
    (headers : List HeaderMatch)
    (index : Nat) : Str :=
  match headers.drop index with
  | [] => []
  | header :: later => slice text (header.start + header.level, nextStart text later)

/-- The chunks are those of what stands before the first header and then those of each
header, labelled with the titles of the headers that enclose it, whose levels increase. -/
def LabelledByHeaders
    (text : Str)
    (chunkSize : Int)
    (chunks : List RawChunk) : Prop :=
  ∃ front parts, chunks = front ++ parts.flatten ∧
    SectionChunks chunkSize ([], text.take (nextStart text (finditer text))) front ∧
    List.Forall₂ (fun index part => SectionChunks chunkSize
      (chainOfTitles (finditer text) index, sectionSource text (finditer text) index) part)
      (List.range (finditer text).length) parts ∧
    ∀ index, ((enclosing ((finditer text).take (index + 1))).map (·.level)).Pairwise (· < ·)

/-- Nothing of a document is lost in its chunks. -/
structure LosesNothing
    (docType text : Str)
    (chunkSize : Int)
    (chunks : List RawChunk) : Prop where
  /-- Every chunk has the right size. -/
  sized : ∀ chunk ∈ chunks, Sized chunkSize chunk
  /-- The chunks follow what they have to hold. -/
  covered : Follows (inkToHold docType text) (chunks.map fun chunk => ink chunk.text)
  /-- Only number signs are left out. -/
  markers : ∀ position, isMarker (finditer text) position = true → text[position]? = some '#'
  /-- Markdown chunks are labelled by the headers that enclose them. -/
  labelled : docType = "markdown".toList → LabelledByHeaders text chunkSize chunks

/-! ## Sections -/

/-- The ink of sections one after the other. -/
private theorem follows_flatten
    {chunkSize : Int}
    {sections : List (Str × Str)}
    {parts : List (List RawChunk)}
    (each : List.Forall₂ (SectionChunks chunkSize) sections parts) :
    Follows (sections.map fun labelled => ink labelled.2).flatten
      (parts.flatten.map fun chunk => ink chunk.text) := by
  induction each with
  | nil => exact follows_nil
  | cons here _ inductionHypothesis =>
      rw [List.map_cons, List.flatten_cons, List.flatten_cons, List.map_append]
      exact here.follows.append inductionHypothesis

/-- Every chunk of sections is one of a section. -/
private theorem sized_flatten
    {chunkSize : Int}
    {sections : List (Str × Str)}
    {parts : List (List RawChunk)}
    (each : List.Forall₂ (SectionChunks chunkSize) sections parts) :
    ∀ chunk ∈ parts.flatten, Sized chunkSize chunk := by
  induction each with
  | nil => exact fun _ held => absurd held List.not_mem_nil
  | cons here _ inductionHypothesis =>
      intro chunk present
      rcases List.mem_append.mp (List.flatten_cons ▸ present) with early | late
      · exact here.sized chunk early
      · exact inductionHypothesis chunk late

section Valid

variable
    {chunkSize overlap : Int}
    (positive : 0 < chunkSize)
    (nonnegative : 0 ≤ overlap)
    (smaller : overlap < chunkSize)

include positive nonnegative smaller

/-- A text is split into chunks that follow its ink. -/
theorem splitRecursive_spec (text label : Str) :
    ∃ pieces, splitRecursive text chunkSize overlap = .ok pieces ∧
      SectionChunks chunkSize (label, text) (pieces.map (⟨·, label⟩)) := by
  have pieces := pieces_splitRecursiveSpans positive nonnegative smaller text
  refine ⟨_, splitRecursive_eq positive nonnegative smaller text, ?_, ?_, ?_⟩
  · intro chunk present
    obtain ⟨piece, -, rfl⟩ := List.mem_map.mp present
    rfl
  · intro chunk present
    obtain ⟨piece, isPiece, rfl⟩ := List.mem_map.mp present
    obtain ⟨span, isSpan, rfl⟩ := List.mem_map.mp isPiece
    obtain ⟨⟨ascends, bounded⟩, trimmed⟩ := pieces.trimmed span isSpan
    have short := pieces.short span isSpan
    have measured : (slice text span).length = span.2 - span.1 := length_slice bounded
    refine ⟨?_, trimmed, ?_⟩
    · rintro (empty : slice text span = [])
      rw [empty, List.length_nil] at measured
      omega
    · show ((slice text span).length : Int) ≤ chunkSize
      omega
  · rw [List.map_map, List.map_map]
    refine follows_filter _ text pieces.ascending fun position bound kept => ?_
    exact pieces.covers (List.getElem?_eq_getElem bound) (by simpa using kept)
      ⟨Nat.zero_le _, bound⟩

/-- Labelled texts are split into chunks, section by section. -/
theorem chunkSections_spec (sections : List (Str × Str)) :
    ∃ parts, chunkSections chunkSize overlap sections = .ok parts.flatten ∧
      List.Forall₂ (SectionChunks chunkSize) sections parts := by
  induction sections with
  | nil => exact ⟨[], rfl, List.Forall₂.nil⟩
  | cons labelled rest inductionHypothesis =>
      obtain ⟨label, text⟩ := labelled
      obtain ⟨pieces, split, here⟩ := splitRecursive_spec positive nonnegative smaller text label
      obtain ⟨parts, chunked, later⟩ := inductionHypothesis
      refine ⟨pieces.map (⟨·, label⟩) :: parts, ?_, List.Forall₂.cons here later⟩
      rw [chunkSections, split, chunked]
      rfl

/-- A text without a label is split into chunks. -/
theorem chunkWhole_spec (text : Str) :
    ∃ chunks, chunkWhole text chunkSize overlap = .ok chunks ∧
      SectionChunks chunkSize ([], text) chunks := by
  obtain ⟨pieces, split, here⟩ := splitRecursive_spec positive nonnegative smaller text []
  refine ⟨_, ?_, here⟩
  rw [chunkWhole, split]
  rfl

end Valid

/-! ## Headers that enclose -/

/-- A further header closes those that it is not below. -/
theorem enclosing_concat
    (earlier : List HeaderMatch)
    (header : HeaderMatch) :
    enclosing (earlier ++ [header]) =
      (enclosing earlier).filter (fun other => decide (other.level < header.level)) ++
        [header] := by
  induction earlier with
  | nil => rfl
  | cons first earlier inductionHypothesis =>
      rw [List.cons_append, enclosing, enclosing, inductionHypothesis, List.all_append]
      by_cases below : earlier.all (fun other => decide (first.level < other.level)) = true
      · rw [below, if_pos rfl]
        by_cases belowLast : first.level < header.level
        · rw [if_pos (by simp [belowLast]), List.filter_cons_of_pos (by simp [belowLast])]
          rfl
        · rw [if_neg (by simp [belowLast]), List.filter_cons_of_neg (by simp [belowLast])]
      · rw [if_neg (by simp [below]), if_neg below]

/-- Headers that enclose one another are on increasing levels. -/
theorem enclosing_levels (headers : List HeaderMatch) :
    ((enclosing headers).map (·.level)).Pairwise (· < ·) := by
  induction headers using List.reverseRecOn with
  | nil => exact List.Pairwise.nil
  | append_singleton earlier header inductionHypothesis =>
      rw [enclosing_concat, List.map_append, List.pairwise_append]
      refine ⟨?_, List.pairwise_singleton _ _, ?_⟩
      · exact inductionHypothesis.sublist (List.filter_sublist.map _)
      · intro level isLevel last isLast
        obtain ⟨other, present, rfl⟩ := List.mem_map.mp isLevel
        rw [List.map_singleton, List.mem_singleton] at isLast
        rw [isLast]
        exact of_decide_eq_true (List.mem_filter.mp present).2

/-- On increasing levels, closing headers from the end closes all that are not above. -/
private theorem rdropWhile_levels
    (level : Nat)
    {path : List (Nat × Str)}
    (increases : (path.map (·.1)).Pairwise (· < ·)) :
    path.rdropWhile (fun entry => level ≤ entry.1) =
      path.filter (fun entry => decide (entry.1 < level)) := by
  induction path using List.reverseRecOn with
  | nil => rfl
  | append_singleton path entry inductionHypothesis =>
      rw [List.map_append, List.pairwise_append] at increases
      obtain ⟨earlier, -, below⟩ := increases
      rw [List.filter_append]
      by_cases closes : level ≤ entry.1
      · rw [List.rdropWhile_concat_pos _ _ _ (by simp [closes]), inductionHypothesis earlier,
          List.filter_cons_of_neg (by simp [closes]), List.filter_nil, List.append_nil]
      · rw [List.rdropWhile_concat_neg _ _ _ (by simp [closes]),
          List.filter_cons_of_pos (by simpa using closes), List.filter_nil]
        congr 1
        refine (List.filter_eq_self.mpr fun other present => ?_).symm
        have order := below other.1 (List.mem_map_of_mem present) entry.1 (by simp)
        exact decide_eq_true (order.trans (Nat.lt_of_not_le closes))

/-- The open headers with their titles. -/
private def pathOf (headers : List HeaderMatch) : List (Nat × Str) :=
  (enclosing headers).map fun header => (header.level, strip header.title)

/-- The path under a further header. -/
private theorem pathOf_concat
    (earlier : List HeaderMatch)
    (header : HeaderMatch) :
    (pathOf earlier).rdropWhile (fun entry => header.level ≤ entry.1) ++
        [(header.level, strip header.title)] = pathOf (earlier ++ [header]) := by
  have increases := enclosing_levels earlier
  rw [rdropWhile_levels header.level (by
    rw [pathOf, List.map_map]
    exact increases), pathOf, pathOf, enclosing_concat, List.map_append, List.filter_map]
  rfl

/-- What a header is followed by holds the ink of its title and of what comes after it. -/
private theorem ink_sectionText
    {text : Str}
    {header : HeaderMatch}
    {position : Nat}
    {later : List HeaderMatch}
    (inside : HeadersIn text position (header :: later)) :
    header.stop ≤ nextStart text later ∧ nextStart text later ≤ text.length ∧
      header.start + header.level ≤ header.stop ∧
        ink (slice text (header.start + header.level, header.stop)) = ink header.title := by
  obtain ⟨-, -, -, ⟨gap, isGap, ends, shape⟩, next⟩ := inside
  have bounded : ∀ {position : Nat} {headers : List HeaderMatch}, HeadersIn text position headers →
      position ≤ nextStart text headers ∧ nextStart text headers ≤ text.length := by
    intro position headers held
    induction headers generalizing position with
    | nil => exact ⟨held, le_rfl⟩
    | cons first rest inductionHypothesis =>
        obtain ⟨begins, -, -, ⟨gap, -, stops, -⟩, others⟩ := held
        obtain ⟨after, bound⟩ := inductionHypothesis others
        refine ⟨begins, ?_⟩
        have early : first.start ≤ first.stop := by omega
        exact early.trans (after.trans bound)
  obtain ⟨after, bound⟩ := bounded next
  refine ⟨after, bound, by omega, ?_⟩
  have cut : slice text (header.start + header.level, header.stop) = gap ++ header.title := by
    have inner : slice (slice text (header.start, header.stop))
          (header.level, header.level + (gap ++ header.title).length) =
        slice text (shift header.start
          (header.level, header.level + (gap ++ header.title).length)) := by
      refine slice_slice ?_ text
      rw [List.length_append]
      dsimp only
      omega
    have block := slice_append_mid (List.replicate header.level '#') (gap ++ header.title) []
    rw [List.append_nil, List.length_replicate, ← shape, inner] at block
    rw [List.length_append] at block
    rw [← block]
    congr 1
    dsimp only [shift]
    congr 1
    omega
  rw [cut, ink_append, ink_eq_nil isGap, List.nil_append]

/-- The sections of the headers that come later, labelled as they are enclosed. -/
private theorem sectionsFrom_spec
    {text : Str}
    {headers : List HeaderMatch}
    (earlier : List HeaderMatch)
    {later : List HeaderMatch}
    (whole : headers = earlier ++ later)
    {position : Nat}
    (inside : HeadersIn text position later) :
    List.Forall₂ (fun index labelled => labelled.1 = chainOfTitles headers index ∧
        ink labelled.2 = ink (sectionSource text headers index))
      (List.range' earlier.length later.length) (sectionsFrom text (pathOf earlier) later) := by
  induction later generalizing earlier position with
  | nil => exact List.Forall₂.nil
  | cons header later inductionHypothesis =>
      have next := inductionHypothesis (earlier ++ [header]) (by simp [whole])
        inside.2.2.2.2
      rw [List.length_append, List.length_singleton, ← pathOf_concat] at next
      rw [List.length_cons, List.range'_succ, sectionsFrom]
      refine List.Forall₂.cons ⟨?_, ?_⟩ next
      · rw [chainOfTitles, pathOf_concat, pathOf, List.map_map, whole, List.take_append,
          List.take_of_length_le (Nat.le_succ _), Nat.add_sub_cancel_left]
        rfl
      · obtain ⟨after, bound, marks, title⟩ := ink_sectionText inside
        have source : sectionSource text headers earlier.length =
            slice text (header.start + header.level, nextStart text later) := by
          rw [sectionSource, whole, List.drop_left]
        rw [source, ← slice_append_slice ⟨marks, after⟩, ink_append, title]
        dsimp only
        split
        · rename_i empty
          rw [ink_strip, ← ink_strip (slice text (header.stop, nextStart text later)), empty]
          exact (List.append_nil _).symm
        · rw [ink_strip, ink_append, ink_strip]
          congr 1
          rw [← ink_strip (slice text (header.stop, nextStart text later))]
          rfl

/-! ## Ink outside of marks -/

/-- The characters of one text and of the next. -/
private theorem unmarkedFrom_append
    (headers : List HeaderMatch)
    (position : Nat)
    (first second : Str) :
    unmarkedFrom headers position (first ++ second) =
      unmarkedFrom headers position first ++
        unmarkedFrom headers (position + first.length) second := by
  rw [unmarkedFrom, List.zipIdx_append, List.filter_append, List.map_append]
  rfl

/-- Where nothing is marked, all ink is left. -/
private theorem unmarkedFrom_of_unmarked
    {headers : List HeaderMatch}
    (position : Nat)
    {text : Str}
    (unmarked : ∀ here, position ≤ here → here < position + text.length →
      isMarker headers here = false) : unmarkedFrom headers position text = ink text := by
  induction text generalizing position with
  | nil => rfl
  | cons c text inductionHypothesis =>
      have here := unmarked position le_rfl (by simp)
      have later := inductionHypothesis (position + 1) fun here after before =>
        unmarked here (by omega) (by
          rw [List.length_cons]
          omega)
      unfold unmarkedFrom ink at later ⊢
      rw [List.zipIdx_cons, List.filter_cons, List.filter_cons]
      cases isGap : isSpace c with
      | true => simpa [here] using later
      | false => simpa [here] using later

/-- Where everything is marked, nothing is left. -/
private theorem unmarkedFrom_of_marked
    {headers : List HeaderMatch}
    {position : Nat}
    {text : Str}
    (marked : ∀ here, position ≤ here → here < position + text.length →
      isMarker headers here = true) : unmarkedFrom headers position text = [] := by
  rw [unmarkedFrom, List.map_eq_nil_iff, List.filter_eq_nil_iff]
  rintro ⟨c, here⟩ present
  obtain ⟨after, before, -⟩ := List.mem_zipIdx present
  simp [marked here after before]

/-- Marks that all lie before a position make no difference from there on. -/
private theorem unmarkedFrom_cons
    {header : HeaderMatch}
    {position : Nat}
    (past : header.start + header.level ≤ position)
    (later : List HeaderMatch)
    (text : Str) :
    unmarkedFrom (header :: later) position text = unmarkedFrom later position text := by
  unfold unmarkedFrom
  congr 1
  refine List.filter_congr ?_
  rintro ⟨c, here⟩ present
  obtain ⟨after, -, -⟩ := List.mem_zipIdx present
  have outside : ¬Within here (header.start, header.start + header.level) := by
    rintro ⟨-, ends⟩
    dsimp only at ends
    omega
  simp [isMarker, outside]

/-- Before the headers nothing is marked. -/
private theorem isMarker_before
    {text : Str}
    {headers : List HeaderMatch}
    {position here : Nat}
    (inside : HeadersIn text position headers)
    (before : here < nextStart text headers) : isMarker headers here = false := by
  induction headers generalizing position with
  | nil => rfl
  | cons header later inductionHypothesis =>
      obtain ⟨after, -, marks, -⟩ := ink_sectionText inside
      have first : here < header.start := before
      have others := inductionHypothesis inside.2.2.2.2 (by omega)
      rw [isMarker] at others ⊢
      rw [List.any_cons, others, Bool.or_false]
      refine decide_eq_false ?_
      rintro ⟨begins, -⟩
      exact absurd first (Nat.not_lt_of_le begins)

/-- The marks of a header are number signs. -/
theorem getElem?_of_isMarker
    {text : Str}
    {headers : List HeaderMatch}
    {position : Nat}
    (inside : HeadersIn text position headers)
    {here : Nat}
    (marked : isMarker headers here = true) : text[here]? = some '#' := by
  induction headers generalizing position with
  | nil => cases marked
  | cons header later inductionHypothesis =>
      rw [isMarker, List.any_cons, Bool.or_eq_true] at marked
      rcases marked with first | others
      · obtain ⟨-, -, -, ⟨gap, -, ends, shape⟩, -⟩ := inside
        obtain ⟨begins, stops⟩ := of_decide_eq_true first
        dsimp only at begins stops
        have block : (slice text (header.start, header.stop))[here - header.start]? = some '#' := by
          rw [shape, List.getElem?_append_left (by
            rw [List.length_replicate]
            omega), List.getElem?_replicate_of_lt (by omega)]
        rw [slice, List.getElem?_drop, Nat.add_sub_of_le begins,
          List.getElem?_take_of_lt (by
            dsimp only
            omega)] at block
        exact block
      · exact inductionHypothesis inside.2.2.2.2 others

/-- What is not marked is what stands before the headers and between them. -/
private theorem unmarkedFrom_eq
    {text : Str}
    {headers : List HeaderMatch}
    {position : Nat}
    (inside : HeadersIn text position headers) :
    unmarkedFrom headers position (text.drop position) =
      ink (slice text (position, nextStart text headers)) ++
        ((List.range headers.length).map fun index =>
          ink (sectionSource text headers index)).flatten := by
  induction headers generalizing position with
  | nil =>
      rw [unmarkedFrom_of_unmarked position fun _ _ _ => rfl]
      show _ = ink (slice text (position, text.length)) ++ []
      rw [List.append_nil, slice, List.take_length]
  | cons header later inductionHypothesis =>
      obtain ⟨after, bound, marks, title⟩ := ink_sectionText inside
      have begins : position ≤ header.start := inside.1
      have next := inductionHypothesis inside.2.2.2.2
      have cut : text.drop position = slice text (position, header.start) ++
          (slice text (header.start, header.start + header.level) ++
            (slice text (header.start + header.level, header.stop) ++ text.drop header.stop)) := by
        rw [drop_eq_slice_append_drop text begins,
          drop_eq_slice_append_drop text (Nat.le_add_right header.start header.level),
          drop_eq_slice_append_drop text marks]
      have lengths : ∀ {first last : Nat}, first ≤ last → last ≤ header.stop →
          (slice text (first, last)).length = last - first := by
        intro first last _ ends
        exact length_slice (by
          dsimp only
          omega)
      rw [cut, unmarkedFrom_append, unmarkedFrom_append, unmarkedFrom_append,
        lengths begins (by omega), lengths (by omega) marks, lengths marks le_rfl,
        Nat.add_sub_of_le begins, Nat.add_sub_of_le (Nat.le_add_right _ _),
        Nat.add_sub_of_le marks, unmarkedFrom_cons marks, unmarkedFrom_cons le_rfl, next]
      have front : unmarkedFrom (header :: later) position (slice text (position, header.start)) =
          ink (slice text (position, header.start)) := by
        refine unmarkedFrom_of_unmarked _ fun here _ before => isMarker_before inside ?_
        rw [lengths begins (by omega), Nat.add_sub_of_le begins] at before
        exact before
      have signs : unmarkedFrom (header :: later) header.start
          (slice text (header.start, header.start + header.level)) = [] := by
        refine unmarkedFrom_of_marked fun here from_ before => ?_
        rw [lengths (by omega) marks, Nat.add_sub_of_le (Nat.le_add_right _ _)] at before
        rw [isMarker, List.any_cons, decide_eq_true ⟨from_, before⟩, Bool.true_or]
      have line : unmarkedFrom later (header.start + header.level)
          (slice text (header.start + header.level, header.stop)) =
            ink (slice text (header.start + header.level, header.stop)) := by
        refine unmarkedFrom_of_unmarked _ fun here _ before =>
          isMarker_before inside.2.2.2.2 (lt_of_lt_of_le ?_ after)
        rw [lengths marks le_rfl, Nat.add_sub_of_le marks] at before
        exact before
      rw [front, signs, line, List.nil_append, List.length_cons, List.range_succ_eq_map,
        List.map_cons, List.flatten_cons, List.map_map]
      show _ = ink (slice text (position, header.start)) ++
        (ink (slice text (header.start + header.level, nextStart text later)) ++ _)
      rw [← slice_append_slice ⟨marks, after⟩, ink_append, List.append_assoc]
      rfl

/-! ## Documents -/

/-- The chunks of a text are those of any text with the same ink. -/
private theorem SectionChunks.of_ink
    {chunkSize : Int}
    {labelled other : Str × Str}
    {chunks : List RawChunk}
    (held : SectionChunks chunkSize labelled chunks)
    (sameLabel : labelled.1 = other.1)
    (sameInk : ink labelled.2 = ink other.2) : SectionChunks chunkSize other chunks where
  label := fun chunk present => (held.label chunk present).trans sameLabel
  sized := held.sized
  follows := sameInk ▸ held.follows

/-- A text without ink has no chunks. -/
private theorem sectionChunks_nil
    {text : Str}
    (empty : strip text = [])
    (chunkSize : Int)
    (label : Str) : SectionChunks chunkSize (label, text) [] where
  label := fun _ held => absurd held List.not_mem_nil
  sized := fun _ held => absurd held List.not_mem_nil
  follows := by
    show Follows (ink text) []
    rw [← ink_strip, empty]
    exact follows_nil

/-- Chunks of texts that have the labels and the ink asked for. -/
private theorem forall₂_sectionChunks
    {ι : Type}
    {chunkSize : Int}
    {asked : ι → Str × Str}
    {indices : List ι}
    {sections : List (Str × Str)}
    {parts : List (List RawChunk)}
    (same : List.Forall₂ (fun index labelled => labelled.1 = (asked index).1 ∧
      ink labelled.2 = ink (asked index).2) indices sections)
    (each : List.Forall₂ (SectionChunks chunkSize) sections parts) :
    List.Forall₂ (fun index part => SectionChunks chunkSize (asked index) part) indices parts := by
  induction same generalizing parts with
  | nil =>
      cases each
      exact List.Forall₂.nil
  | cons here _ inductionHypothesis =>
      cases each with
      | cons first rest =>
          exact List.Forall₂.cons (first.of_ink here.1 here.2) (inductionHypothesis rest)

/-- The chunks of a labelled Markdown text follow what is not marked. -/
private theorem LabelledByHeaders.follows
    {text : Str}
    {chunkSize : Int}
    {chunks : List RawChunk}
    (labelled : LabelledByHeaders text chunkSize chunks) :
    (∀ chunk ∈ chunks, Sized chunkSize chunk) ∧
      Follows (unmarkedFrom (finditer text) 0 text) (chunks.map fun chunk => ink chunk.text) := by
  obtain ⟨front, parts, rfl, first, each, -⟩ := labelled
  have whole := unmarkedFrom_eq (headersIn_finditer text)
  rw [List.drop_zero, slice, List.drop_zero] at whole
  have sections : List.Forall₂ (SectionChunks chunkSize)
      ((List.range (finditer text).length).map fun index =>
        (chainOfTitles (finditer text) index, sectionSource text (finditer text) index)) parts :=
    List.forall₂_map_left_iff.mpr each
  constructor
  · intro chunk present
    rcases List.mem_append.mp present with early | late
    · exact first.sized chunk early
    · exact sized_flatten sections chunk late
  · rw [whole, List.map_append]
    have rest := follows_flatten sections
    rw [List.map_map] at rest
    exact first.follows.append rest

/-- The regions of the definitions hold what comes from the first one on. -/
private theorem ink_regionsFrom
    (lines : List Str)
    {node : Node}
    {later : List Node}
    (ordered : (node :: later).Pairwise fun first second => first.lineno ≤ second.lineno) :
    ((regionsFrom lines (node :: later)).map fun labelled => ink labelled.2).flatten =
      ink (lines.drop (node.lineno - 1)).flatten := by
  induction later generalizing node with
  | nil =>
      simp [regionsFrom, ink_strip, slice]
  | cons next later inductionHypothesis =>
      obtain ⟨here, others⟩ := List.pairwise_cons.mp ordered
      have order : node.lineno ≤ next.lineno := here next List.mem_cons_self
      rw [regionsFrom, List.map_cons, List.flatten_cons, inductionHypothesis others, ink_strip,
        ← ink_append, ← List.flatten_append, ← drop_eq_slice_append_drop lines (by omega)]

/-- Sections without text hold no ink. -/
private theorem flatten_ink_filter (sections : List (Str × Str)) :
    ((sections.filter (·.2 ≠ [])).map fun labelled => ink labelled.2).flatten =
      (sections.map fun labelled => ink labelled.2).flatten := by
  induction sections with
  | nil => rfl
  | cons labelled rest inductionHypothesis =>
      by_cases empty : labelled.2 = []
      · rw [List.filter_cons_of_neg (by simp [empty]), inductionHypothesis, List.map_cons, empty]
        rfl
      · rw [List.filter_cons_of_pos (by simp [empty]), List.map_cons, List.map_cons,
          List.flatten_cons, List.flatten_cons, inductionHypothesis]

section Documents

variable
    {chunkSize overlap : Int}
    (positive : 0 < chunkSize)
    (nonnegative : 0 ≤ overlap)
    (smaller : overlap < chunkSize)

include positive nonnegative smaller

/-- Sections after a text that may be without ink are split one after the other. -/
private theorem chunkSections_after
    (label text : Str)
    (sections : List (Str × Str)) :
    ∃ front parts, chunkSections chunkSize overlap
        (if strip text = [] then sections else (label, strip text) :: sections) =
          .ok (front ++ parts.flatten) ∧
      SectionChunks chunkSize (label, text) front ∧
        List.Forall₂ (SectionChunks chunkSize) sections parts := by
  by_cases empty : strip text = []
  · obtain ⟨parts, chunked, each⟩ := chunkSections_spec positive nonnegative smaller sections
    rw [if_pos empty]
    exact ⟨[], parts, chunked, sectionChunks_nil empty chunkSize label, each⟩
  · obtain ⟨parts, chunked, each⟩ := chunkSections_spec positive nonnegative smaller
      ((label, strip text) :: sections)
    rw [if_neg empty]
    cases each with
    | cons first rest =>
        exact ⟨_, _, chunked, first.of_ink rfl (ink_strip text), rest⟩

/-- A Markdown text is labelled by its headers. -/
private theorem splitMarkdown_labelled (text : Str) :
    ∃ chunks, splitMarkdown text chunkSize overlap = .ok chunks ∧
      LabelledByHeaders text chunkSize chunks := by
  have levels := fun index => enclosing_levels ((finditer text).take (index + 1))
  have labels := sectionsFrom_spec [] (List.nil_append (finditer text)).symm
    (headersIn_finditer text)
  unfold LabelledByHeaders
  cases found : finditer text with
  | nil =>
      obtain ⟨chunks, chunked, here⟩ := chunkWhole_spec positive nonnegative smaller text
      refine ⟨chunks, by rw [splitMarkdown, found, chunked], chunks, [], ?_, ?_, ?_, ?_⟩
      · simp
      · rw [nextStart, List.take_length]
        exact here
      · exact List.Forall₂.nil
      · rwa [found] at levels
  | cons header later =>
      rw [found] at levels labels
      obtain ⟨front, parts, chunked, first, rest⟩ := chunkSections_after positive nonnegative
        smaller [] (text.take header.start) (sectionsFrom text [] (header :: later))
      refine ⟨front ++ parts.flatten, ?_, front, parts, rfl, first, ?_, levels⟩
      · rw [splitMarkdown, found]
        exact chunked
      · rw [List.range_eq_range']
        exact forall₂_sectionChunks labels rest

/-- A Python source is split into chunks that follow its ink. -/
private theorem splitPython_holds
    (parser : Parser)
    (source : Str) :
    ∃ chunks, splitPython parser source chunkSize overlap = .ok chunks ∧
      (∀ chunk ∈ chunks, Sized chunkSize chunk) ∧
        Follows (ink source) (chunks.map fun chunk => ink chunk.text) := by
  have whole : ∃ chunks, chunkWhole source chunkSize overlap = .ok chunks ∧
      (∀ chunk ∈ chunks, Sized chunkSize chunk) ∧
        Follows (ink source) (chunks.map fun chunk => ink chunk.text) := by
    obtain ⟨chunks, chunked, here⟩ := chunkWhole_spec positive nonnegative smaller source
    exact ⟨chunks, chunked, here.sized, here.follows⟩
  unfold splitPython
  cases parsed : parser.parse source with
  | none => exact whole
  | some body =>
      have ordered := (parser.ordered parsed).filter Node.isDefinition
      dsimp only
      rw [List.mergeSort_of_pairwise (by
        rw [List.pairwise_map]
        exact ordered.imp fun order => decide_eq_true order)]
      cases defined : body.filter Node.isDefinition with
      | nil => exact whole
      | cons node later =>
          rw [defined] at ordered
          obtain ⟨front, parts, chunked, first, each⟩ := chunkSections_after positive nonnegative
            smaller "<module>".toList ((splitlinesKeepends source).take (node.lineno - 1)).flatten
            ((regionsFrom (splitlinesKeepends source) (node :: later)).filter (·.2 ≠ []))
          refine ⟨_, chunked, ?_, ?_⟩
          · intro chunk present
            rcases List.mem_append.mp present with early | late
            · exact first.sized chunk early
            · exact sized_flatten each chunk late
          · have follows := first.follows.append (follows_flatten each)
            rw [flatten_ink_filter, ink_regionsFrom _ ordered, ← ink_append, ← List.flatten_append,
              List.take_append_drop, flatten_splitlinesKeepends, ← List.map_append] at follows
            exact follows

/-- A document with a valid size and overlap is chunked, and nothing of it is lost. -/
theorem chunkDocument_losesNothing
    (parser : Parser)
    (docType text : Str) :
    ∃ chunks, chunkDocument parser docType text chunkSize overlap = .ok chunks ∧
      LosesNothing docType text chunkSize chunks := by
  have markers : ∀ position, isMarker (finditer text) position = true →
      text[position]? = some '#' :=
    fun _ marked => getElem?_of_isMarker (headersIn_finditer text) marked
  unfold chunkDocument
  by_cases isMarkdown : docType = "markdown".toList
  · obtain ⟨chunks, chunked, labelled⟩ := splitMarkdown_labelled positive nonnegative smaller text
    obtain ⟨sized, follows⟩ := labelled.follows
    rw [if_pos isMarkdown]
    refine ⟨chunks, chunked, sized, ?_, markers, fun _ => labelled⟩
    rw [inkToHold, if_pos isMarkdown]
    exact follows
  · rw [if_neg isMarkdown]
    by_cases isPython : docType = "python".toList
    · obtain ⟨chunks, chunked, sized, follows⟩ :=
        splitPython_holds positive nonnegative smaller parser text
      rw [if_pos isPython]
      refine ⟨chunks, chunked, sized, ?_, markers, fun same => absurd same isMarkdown⟩
      rw [inkToHold, if_neg isMarkdown]
      exact follows
    · obtain ⟨chunks, chunked, here⟩ := chunkWhole_spec positive nonnegative smaller text
      rw [if_neg isPython]
      refine ⟨chunks, chunked, here.sized, ?_, markers, fun same => absurd same isMarkdown⟩
      rw [inkToHold, if_neg isMarkdown]
      exact here.follows

end Documents

/-- A module that imports something and defines a function. -/
def importAndFunction : Str := "import os\n\ndef foo():\n    return os\n".toList

/-- The parser on that module, where any other text has a syntax error. -/
def importAndFunctionParser : Parser where
  parse source :=
    if source = importAndFunction then
      some [⟨.other, [], 1, 1, 1⟩, ⟨.functionDef, "foo".toList, 3, 3, 4⟩]
    else none
  positive := by
    intro source body parsed node present
    split at parsed
    · cases parsed
      rcases List.mem_cons.mp present with rfl | inRest
      · decide
      · rw [List.mem_singleton.mp inRest]
        decide
    · cases parsed
  ordered := by
    intro source body parsed
    split at parsed
    · cases parsed
      decide
    · cases parsed

/-- Nothing of that module is lost. -/
theorem chunkDocument_losesNothing_function :
    0 < defaultChunkSize ∧ 0 ≤ defaultOverlap ∧ defaultOverlap < defaultChunkSize ∧
      ∃ chunks, chunkDocument importAndFunctionParser "python".toList importAndFunction
          defaultChunkSize defaultOverlap = .ok chunks ∧
        LosesNothing "python".toList importAndFunction defaultChunkSize chunks :=
  ⟨by decide, by decide, by decide,
    chunkDocument_losesNothing (by decide) (by decide) (by decide) _ _ _⟩

end Ingest
end ChatPlatform
