import ChatPlatform.Foundation.Lines
import ChatPlatform.Ingest.Windows

/-!
# Whose code a chunk holds

The regions of a Python source begin at the line numbers of its top-level definitions, but
the lines are counted by a splitting that ends lines at more characters than the parser
does. Each chunk is followed to where it lies in the source: the chunks that hold a
character carry the name of the last definition at or before its line, as the splitting
counts lines, and a decorator stands before the line of its definition.
-/

namespace ChatPlatform
namespace Ingest

open Text Spans

/-! ## Where the chunks lie -/

/-- Where the chunks of a region lie. -/
def regionSpans
    (source : Str)
    (chunkSize overlap : Int)
    (region : Nat × Nat) : List (Nat × Nat) :=
  let text := slice source region
  (splitRecursiveSpans (strip text) chunkSize overlap).map
    (shift (region.1 + (stripSpan text).1))

/-- The chunks of a labelled region, each with where it lies. -/
def locate
    (source : Str)
    (chunkSize overlap : Int)
    (labelled : Str × (Nat × Nat)) : List (RawChunk × (Nat × Nat)) :=
  (regionSpans source chunkSize overlap labelled.2).map fun span =>
    (⟨slice source span, labelled.1⟩, span)

/-- How many lines stand before the next definition, or in all. -/
def nextLine (lines : List Str) : List Node → Nat
  | [] => lines.length
  | next :: _ => next.lineno - 1

/-- The regions of the definitions: each reaches to the next one. -/
def definitionRegions (lines : List Str) : List Node → List (Str × (Nat × Nat))
  | [] => []
  | node :: later =>
      (node.name, (lineOffset lines (node.lineno - 1), lineOffset lines (nextLine lines later))) ::
        definitionRegions lines later

/-- The regions of a source with definitions. -/
def pythonRegions
    (source : Str)
    (node : Node)
    (later : List Node) : List (Str × (Nat × Nat)) :=
  let lines := splitlinesKeepends source
  ("<module>".toList, (0, lineOffset lines (node.lineno - 1))) ::
    definitionRegions lines (node :: later)

/-- The chunks of a Python source, each with where it lies. -/
def locatedChunks
    (parser : Parser)
    (source : Str)
    (chunkSize overlap : Int) : List (RawChunk × (Nat × Nat)) :=
  match ((parser.parse source).getD []).filter Node.isDefinition with
  | [] => (splitRecursiveSpans source chunkSize overlap).map fun span =>
      (⟨slice source span, []⟩, span)
  | node :: later => (pythonRegions source node later).flatMap (locate source chunkSize overlap)

/-! ## Lines -/

/-- The line a position is on, as the parser counts lines. -/
def astLine (source : Str) (position : Nat) : Nat := 1 + lineIndex isNewline source position

/-- A character of a definition, from its first decorator to the last line of its body, that
is not white space. -/
def InkOf
    (source : Str)
    (node : Node)
    (position : Nat) : Prop :=
  (∃ c, source[position]? = some c ∧ isSpace c = false) ∧
    node.firstLine ≤ astLine source position ∧ astLine source position ≤ node.endLineno

/-- The name of the last definition at or before a line, if there is one. -/
def labelAt
    (definitions : List Node)
    (line : Nat) : Str :=
  match (definitions.filter fun node => node.lineno ≤ line).getLast? with
  | none => "<module>".toList
  | some node => node.name

/-! ## What is to be shown -/

/-- Every character of a definition lies in a chunk, and only in chunks with its name. -/
def Attributed
    (parser : Parser)
    (source : Str)
    (chunkSize overlap : Int) : Prop :=
  ∀ body, parser.parse source = some body → ∀ node ∈ body.filter Node.isDefinition,
    ∀ position, InkOf source node position →
      (∃ located ∈ locatedChunks parser source chunkSize overlap,
        Within position located.2) ∧
      ∀ located ∈ locatedChunks parser source chunkSize overlap,
        Within position located.2 → located.1.sectionPath = node.name

/-- For every character of a definition, its line and the other line ends before it, counted
together, lead to a definition of the same name. -/
def LeadsToItsName
    (parser : Parser)
    (source : Str) : Prop :=
  ∀ body, parser.parse source = some body → ∀ node ∈ body.filter Node.isDefinition,
    ∀ position, InkOf source node position →
      labelAt (body.filter Node.isDefinition)
        (astLine source position + drift source position) = node.name

/-! ## Regions -/

/-- The text of some lines is the block where they lie. -/
private theorem flatten_slice
    (lines : List Str)
    (first last : Nat) :
    (slice lines (first, last)).flatten =
      slice lines.flatten (lineOffset lines first, lineOffset lines last) := by
  rcases le_total first last with ascends | descends
  · have front : lines.take first ++ slice lines (first, last) = lines.take last := by
      have cut : slice lines (0, first) ++ slice lines (first, last) = slice lines (0, last) :=
        slice_append_slice ⟨Nat.zero_le first, ascends⟩ lines
      simpa [slice] using cut
    have block := slice_append_mid (lines.take first).flatten (slice lines (first, last)).flatten
      (lines.drop last).flatten
    rw [← List.flatten_append, ← List.flatten_append, ← List.length_append, ← List.flatten_append,
      front, List.take_append_drop] at block
    exact block.symm
  · rw [slice, slice, List.drop_eq_nil_of_le, List.drop_eq_nil_of_le]
    · rfl
    · exact (List.length_take_le _ _).trans (lineOffset_le_lineOffset lines descends)
    · exact (List.length_take_le _ _).trans descends

/-- A definition begins on a line no later than a position exactly when its region does not
begin after the position. -/
private theorem lineOffset_lineno_le_iff
    {source : Str}
    {position : Nat}
    (inside : position < source.length)
    (node : Node) :
    lineOffset (splitlinesKeepends source) (node.lineno - 1) ≤ position ↔
      node.lineno ≤ astLine source position + drift source position := by
  rw [lineOffset_le_iff inside, lineIndex_eq_add_drift, astLine]
  omega

/-- The definitions up to one, when the next ones are later than a line. -/
private theorem labelAt_of_split
    {before later : List Node}
    {node : Node}
    {line : Nat}
    (reached : node.lineno ≤ line)
    (others : ∀ next ∈ later, line < next.lineno) :
    labelAt (before ++ node :: later) line = node.name := by
  have none : later.filter (fun node => decide (node.lineno ≤ line)) = [] := by
    rw [List.filter_eq_nil_iff]
    intro next present
    simpa using others next present
  rw [labelAt, List.filter_append, List.filter_cons_of_pos (by simpa using reached), none,
    List.getLast?_append]
  rfl

section Regions

variable
    {source : Str}
    {definitions : List Node}
    (ordered : definitions.Pairwise fun earlier later => earlier.lineno ≤ later.lineno)
    {position : Nat}
    (inside : position < source.length)

include ordered inside

/-- A region that holds a position carries the name that its line leads to. -/
private theorem label_of_within
    (before : List Node)
    {rest : List Node}
    (whole : definitions = before ++ rest)
    {labelled : Str × (Nat × Nat)}
    (present : labelled ∈ definitionRegions (splitlinesKeepends source) rest)
    (within : Within position labelled.2) :
    labelled.1 = labelAt definitions (astLine source position + drift source position) := by
  induction rest generalizing before with
  | nil => cases present
  | cons node later inductionHypothesis =>
      rw [definitionRegions] at present
      rcases List.mem_cons.mp present with rfl | inLater
      · have reached := (lineOffset_lineno_le_iff inside node).mp within.1
        rw [whole] at ordered ⊢
        refine (labelAt_of_split reached fun next isNext => ?_).symm
        cases later with
        | nil => cases isNext
        | cons first others =>
            have beyond : ¬lineOffset (splitlinesKeepends source) (first.lineno - 1) ≤ position :=
              Nat.not_le_of_lt within.2
            rw [lineOffset_lineno_le_iff inside first, Nat.not_le] at beyond
            have tail := (List.pairwise_cons.mp (List.pairwise_append.mp ordered).2.1).2
            rcases List.mem_cons.mp isNext with rfl | isOther
            · exact beyond
            · exact beyond.trans_le ((List.pairwise_cons.mp tail).1 next isOther)
      · exact inductionHypothesis (before ++ [node]) (by simp [whole]) inLater

omit ordered in
/-- Every position from the first definition on lies in a region. -/
private theorem exists_definitionRegion
    (before : List Node)
    {later : List Node}
    {node : Node}
    (whole : definitions = before ++ node :: later)
    (reached : lineOffset (splitlinesKeepends source) (node.lineno - 1) ≤ position) :
    ∃ labelled ∈ definitionRegions (splitlinesKeepends source) (node :: later),
      Within position labelled.2 := by
  induction later generalizing before node with
  | nil =>
      refine ⟨_, List.mem_cons_self, reached, ?_⟩
      show position < lineOffset (splitlinesKeepends source) (splitlinesKeepends source).length
      rw [lineOffset, List.take_length, flatten_splitlinesKeepends]
      exact inside
  | cons next later inductionHypothesis =>
      by_cases further : lineOffset (splitlinesKeepends source) (next.lineno - 1) ≤ position
      · obtain ⟨labelled, present, within⟩ := inductionHypothesis (before ++ [node])
          (by simp [whole]) further
        exact ⟨labelled, List.mem_cons_of_mem _ present, within⟩
      · exact ⟨_, List.mem_cons_self, reached, Nat.lt_of_not_le further⟩

/-- Before the region of the first definition, no name is led to. -/
private theorem labelAt_before
    {node : Node}
    {later : List Node}
    (whole : definitions = node :: later)
    (before : position < lineOffset (splitlinesKeepends source) (node.lineno - 1)) :
    labelAt definitions (astLine source position + drift source position) =
      "<module>".toList := by
  have beyond := Nat.not_le_of_lt before
  rw [lineOffset_lineno_le_iff inside node, Nat.not_le] at beyond
  have none : definitions.filter (fun node =>
      decide (node.lineno ≤ astLine source position + drift source position)) = [] := by
    rw [whole] at ordered ⊢
    rw [List.filter_eq_nil_iff]
    intro other present
    have order : node.lineno ≤ other.lineno := by
      rcases List.mem_cons.mp present with rfl | isLater
      · exact le_rfl
      · exact (List.pairwise_cons.mp ordered).1 other isLater
    simpa using beyond.trans_le order
  rw [labelAt, none]
  rfl

end Regions

/-! ## Located chunks -/

/-- A text that is empty has no chunks. -/
private theorem chunkSections_filter
    (chunkSize overlap : Int)
    (sections : List (Str × Str)) :
    chunkSections chunkSize overlap (sections.filter (·.2 ≠ [])) =
      chunkSections chunkSize overlap sections := by
  induction sections with
  | nil => rfl
  | cons labelled rest inductionHypothesis =>
      obtain ⟨label, text⟩ := labelled
      by_cases empty : text = []
      · rw [List.filter_cons_of_neg (by simp [empty]), inductionHypothesis, empty, chunkSections]
        show _ = chunkSections chunkSize overlap rest >>= fun later => .ok ([] ++ later)
        cases chunkSections chunkSize overlap rest with
        | error raised => rfl
        | ok later => rfl
      · rw [List.filter_cons_of_pos (by simp [empty]), chunkSections, chunkSections,
          inductionHypothesis]

/-- The regions are regions of the source. -/
private theorem pythonRegions_bounded
    (source : Str)
    (node : Node)
    (later : List Node) :
    ∀ labelled ∈ pythonRegions source node later, labelled.2.2 ≤ source.length := by
  have each : ∀ definitions : List Node,
      ∀ labelled ∈ definitionRegions (splitlinesKeepends source) definitions,
        labelled.2.2 ≤ source.length := by
    intro definitions
    induction definitions with
    | nil => exact fun _ held => absurd held List.not_mem_nil
    | cons node later inductionHypothesis =>
        intro labelled present
        rcases List.mem_cons.mp present with rfl | inLater
        · exact lineOffset_le_length source _
        · exact inductionHypothesis labelled inLater
  intro labelled present
  rcases List.mem_cons.mp present with rfl | isDefinition
  · exact lineOffset_le_length source _
  · exact each (node :: later) labelled isDefinition

/-- The stripped texts of the regions are those that are chunked. -/
private theorem regionsFrom_eq
    (source : Str)
    (definitions : List Node) :
    regionsFrom (splitlinesKeepends source) definitions =
      (definitionRegions (splitlinesKeepends source) definitions).map fun labelled =>
        (labelled.1, strip (slice source labelled.2)) := by
  have texts := flatten_slice (splitlinesKeepends source)
  rw [flatten_splitlinesKeepends] at texts
  induction definitions with
  | nil => rfl
  | cons node later inductionHypothesis =>
      rw [definitionRegions, List.map_cons, ← inductionHypothesis, ← texts]
      cases later with
      | nil => rfl
      | cons next later => rfl

section Located

variable
    {chunkSize overlap : Int}
    (positive : 0 < chunkSize)
    (nonnegative : 0 ≤ overlap)
    (smaller : overlap < chunkSize)

include positive nonnegative smaller

/-- The chunks of a region are its pieces. -/
theorem pieces_regionSpans
    {source : Str}
    {region : Nat × Nat}
    (bounded : region.2 ≤ source.length) :
    Pieces source region chunkSize.toNat (regionSpans source chunkSize overlap region) := by
  have lead := stripSpan_bounded (slice source region)
  have measured := length_slice bounded
  have pieces := pieces_splitRecursiveSpans positive nonnegative smaller
    (strip (slice source region))
  have outer := Pieces.shift lead.2 ((slice_stripSpan (slice source region)).symm ▸ pieces)
  have widened : Pieces (slice source region) (0, (slice source region).length) _ _ :=
    outer.widen ⟨Nat.zero_le _, lead.2⟩ fun here inked _ => within_stripSpan here inked
  have shifted := Pieces.shift bounded widened
  rw [List.map_map, shift_comp_shift, slice_stripSpan] at shifted
  exact shifted

/-- A region is chunked into its located chunks. -/
private theorem chunkSections_locate
    {source : Str}
    {regions : List (Str × (Nat × Nat))}
    (bounded : ∀ labelled ∈ regions, labelled.2.2 ≤ source.length) :
    chunkSections chunkSize overlap
        (regions.map fun labelled => (labelled.1, strip (slice source labelled.2))) =
      .ok ((regions.flatMap (locate source chunkSize overlap)).map (·.1)) := by
  induction regions with
  | nil => rfl
  | cons labelled rest inductionHypothesis =>
      have here := bounded labelled List.mem_cons_self
      have next := inductionHypothesis fun other present =>
        bounded other (List.mem_cons_of_mem _ present)
      rw [List.map_cons, chunkSections, next,
        splitRecursive_eq positive nonnegative smaller, List.flatMap_cons, List.map_append]
      show Except.ok (_ ++ _) = Except.ok (_ ++ _)
      congr 2
      rw [locate, regionSpans, List.map_map, List.map_map, List.map_map]
      refine List.map_congr_left fun span present => ?_
      have bound := (pieces_splitRecursiveSpans positive nonnegative smaller
        (strip (slice source labelled.2))).ascending.bounded span present
      have lead := stripSpan_bounded (slice source labelled.2)
      have measured := length_slice lead.2
      rw [slice_stripSpan] at measured
      rw [length_slice here] at lead
      have inner : slice (strip (slice source labelled.2)) span =
          slice source (shift labelled.2.1
            (shift (stripSpan (slice source labelled.2)).1 span)) := by
        have fits : (shift (stripSpan (slice source labelled.2)).1 span).2 ≤
            labelled.2.2 - labelled.2.1 := by
          dsimp only [shift]
          omega
        rw [← slice_slice fits, ← slice_slice (measured ▸ bound.2), slice_stripSpan]
      rw [Function.comp_apply, Function.comp_apply, inner, ← shift_comp_shift]
      rfl

/-- The located chunks are the chunks of the source, each at its place. -/
theorem splitPython_eq
    (parser : Parser)
    (source : Str) :
    splitPython parser source chunkSize overlap =
        .ok ((locatedChunks parser source chunkSize overlap).map (·.1)) ∧
      ∀ located ∈ locatedChunks parser source chunkSize overlap,
        located.1.text = slice source located.2 := by
  have whole : chunkWhole source chunkSize overlap =
      .ok (((splitRecursiveSpans source chunkSize overlap).map fun span =>
        ((⟨slice source span, []⟩ : RawChunk), span)).map (·.1)) := by
    rw [chunkWhole, splitRecursive_eq positive nonnegative smaller, List.map_map]
    show Except.ok _ = _
    rw [List.map_map]
    rfl
  unfold splitPython locatedChunks
  cases parsed : parser.parse source with
  | none =>
      refine ⟨whole, fun located present => ?_⟩
      obtain ⟨span, -, rfl⟩ := List.mem_map.mp present
      rfl
  | some body =>
      have ordered := (parser.ordered parsed).filter Node.isDefinition
      dsimp only [Option.getD_some]
      rw [List.mergeSort_of_pairwise (by
        rw [List.pairwise_map]
        exact ordered.imp fun order => decide_eq_true order)]
      cases defined : body.filter Node.isDefinition with
      | nil =>
          refine ⟨whole, fun located present => ?_⟩
          obtain ⟨span, -, rfl⟩ := List.mem_map.mp present
          rfl
      | cons node later =>
          have front : ((splitlinesKeepends source).take (node.lineno - 1)).flatten =
              slice source (0, lineOffset (splitlinesKeepends source) (node.lineno - 1)) := by
            have text := flatten_slice (splitlinesKeepends source) 0 (node.lineno - 1)
            rw [flatten_splitlinesKeepends, slice] at text
            exact text
          have located := chunkSections_locate positive nonnegative smaller
            (pythonRegions_bounded source node later)
          rw [pythonRegions, List.map_cons, ← regionsFrom_eq, ← chunkSections_filter,
            ← front] at located
          refine ⟨Eq.trans ?_ located, fun located present => ?_⟩
          · show chunkSections chunkSize overlap (if strip
              ((splitlinesKeepends source).take (node.lineno - 1)).flatten = [] then _ else _) = _
            by_cases empty : strip ((splitlinesKeepends source).take (node.lineno - 1)).flatten = []
            · rw [if_pos empty, List.filter_cons_of_neg (by simp [empty])]
            · rw [if_neg empty, List.filter_cons_of_pos (by simp [empty])]
          · obtain ⟨labelled, -, inRegion⟩ := List.mem_flatMap.mp present
            obtain ⟨span, -, rfl⟩ := List.mem_map.mp inRegion
            rfl

end Located

/-! ## Attribution -/

section Attribution

variable
    {chunkSize overlap : Int}
    (positive : 0 < chunkSize)
    (nonnegative : 0 ≤ overlap)
    (smaller : overlap < chunkSize)

include positive nonnegative smaller

/-- Of a source with definitions, every character that is not white space lies in a chunk,
and only in chunks with the name that its line leads to. -/
theorem located_label
    {parser : Parser}
    {source : Str}
    {body : List Node}
    (parsed : parser.parse source = some body)
    (defined : body.filter Node.isDefinition ≠ [])
    {position : Nat}
    {c : Char}
    (here : source[position]? = some c)
    (inked : isSpace c = false) :
    (∃ located ∈ locatedChunks parser source chunkSize overlap, Within position located.2) ∧
      ∀ located ∈ locatedChunks parser source chunkSize overlap, Within position located.2 →
        located.1.sectionPath = labelAt (body.filter Node.isDefinition)
          (astLine source position + drift source position) := by
  have inside := (List.getElem?_eq_some_iff.mp here).1
  have ordered := (parser.ordered parsed).filter Node.isDefinition
  obtain ⟨node, later, whole⟩ := List.exists_cons_of_ne_nil defined
  have isLocated : locatedChunks parser source chunkSize overlap =
      (pythonRegions source node later).flatMap (locate source chunkSize overlap) := by
    rw [locatedChunks, parsed, Option.getD_some, whole]
  have labels : ∀ labelled ∈ pythonRegions source node later, Within position labelled.2 →
      labelled.1 = labelAt (body.filter Node.isDefinition)
        (astLine source position + drift source position) := by
    intro labelled present within
    rcases List.mem_cons.mp present with rfl | isDefinition
    · exact (labelAt_before ordered inside whole within.2).symm
    · exact label_of_within ordered inside [] whole isDefinition within
  have covered : ∃ labelled ∈ pythonRegions source node later, Within position labelled.2 := by
    by_cases reached :
        lineOffset (splitlinesKeepends source) (node.lineno - 1) ≤ position
    · obtain ⟨labelled, present, within⟩ :=
        exists_definitionRegion inside [] whole reached
      exact ⟨labelled, List.mem_cons_of_mem _ present, within⟩
    · exact ⟨_, List.mem_cons_self, Nat.zero_le _, Nat.lt_of_not_le reached⟩
  have pieces := fun labelled present => pieces_regionSpans positive nonnegative smaller
    (pythonRegions_bounded source node later labelled present)
  rw [isLocated]
  constructor
  · obtain ⟨labelled, present, within⟩ := covered
    obtain ⟨span, isSpan, inSpan⟩ := (pieces labelled present).covers here inked within
    exact ⟨_, List.mem_flatMap.mpr ⟨labelled, present, List.mem_map_of_mem isSpan⟩, inSpan⟩
  · intro located present within
    obtain ⟨labelled, isRegion, inRegion⟩ := List.mem_flatMap.mp present
    obtain ⟨span, isSpan, rfl⟩ := List.mem_map.mp inRegion
    obtain ⟨begins, ends⟩ := (pieces labelled isRegion).inside span isSpan
    exact labels labelled isRegion
      ⟨begins.trans within.1, lt_of_lt_of_le within.2 ends⟩

/-- Every definition is attributed to its name if and only if the line of each of its
characters, counted with the other line ends before it, leads to a definition of its name. -/
theorem attributed_iff
    (parser : Parser)
    (source : Str) :
    Attributed parser source chunkSize overlap ↔ LeadsToItsName parser source := by
  constructor
  · intro attributed body parsed node present position ink
    obtain ⟨⟨c, here, inked⟩, -⟩ := id ink
    obtain ⟨⟨located, isLocated, within⟩, labels⟩ :=
      attributed body parsed node present position ink
    rw [← labels located isLocated within]
    exact ((located_label positive nonnegative smaller parsed (List.ne_nil_of_mem present) here
      inked).2 located isLocated within).symm
  · intro leads body parsed node present position ink
    obtain ⟨⟨c, here, inked⟩, -⟩ := id ink
    obtain ⟨covered, labels⟩ := located_label positive nonnegative smaller parsed
      (List.ne_nil_of_mem present) here inked
    refine ⟨covered, fun located isLocated within => ?_⟩
    rw [labels located isLocated within]
    exact leads body parsed node present position ink

end Attribution

/-- When no definition is decorated, each ends before the next begins and no line ends but by
line feeds and carriage returns, every line leads to its definition. -/
theorem leadsToItsName_of_plain
    {parser : Parser}
    {source : Str}
    (undecorated : ∀ body, parser.parse source = some body →
      ∀ node ∈ body.filter Node.isDefinition, node.firstLine = node.lineno)
    (apart : ∀ body, parser.parse source = some body →
      (body.filter Node.isDefinition).Pairwise fun earlier later =>
        earlier.endLineno < later.lineno)
    (noOther : ∀ c ∈ source, isOtherBreak c = false) : LeadsToItsName parser source := by
  intro body parsed node present position ink
  obtain ⟨-, begins, ends⟩ := ink
  obtain ⟨before, later, whole⟩ := List.append_of_mem present
  have none : drift source position = 0 := by
    rw [drift, List.length_eq_zero_iff, List.filter_eq_nil_iff]
    intro c inside
    simp [noOther c (List.mem_of_mem_take inside)]
  have next := apart body parsed
  rw [undecorated body parsed node present] at begins
  rw [whole] at next ⊢
  rw [none, Nat.add_zero]
  refine labelAt_of_split begins fun other isLater => ends.trans_lt ?_
  exact (List.pairwise_cons.mp (List.pairwise_append.mp next).2.1).1 other isLater

/-! ## Two sources -/

/-- A parser that parses one source, where any other text has a syntax error. -/
def parserOf
    (source : Str)
    (body : List Node)
    (positive : ∀ node ∈ body, 1 ≤ node.lineno)
    (ordered : body.Pairwise fun earlier later => earlier.lineno ≤ later.lineno) : Parser where
  parse text := if text = source then some body else none
  positive := by
    intro text parsedBody parsed
    split at parsed
    · cases parsed
      exact positive
    · cases parsed
  ordered := by
    intro text parsedBody parsed
    split at parsed
    · cases parsed
      exact ordered
    · cases parsed

@[simp] theorem parserOf_parse
    (source : Str)
    (body : List Node)
    (positive : ∀ node ∈ body, 1 ≤ node.lineno)
    (ordered : body.Pairwise fun earlier later => earlier.lineno ≤ later.lineno) :
    (parserOf source body positive ordered).parse source = some body :=
  if_pos rfl

/-- A decorated function. -/
def decorated : Str := "@cache\ndef f():\n    return 1\n".toList

/-- Its parser. -/
def decoratedParser : Parser :=
  parserOf decorated [⟨.functionDef, "f".toList, 2, 1, 3⟩] (by decide) (by decide)

/-- A function that returns a form feed, and another one. -/
def formFeed : Str := "def f():\n    return '\x0c'\ndef g():\n    return 1\n".toList

/-- Their parser. -/
def formFeedParser : Parser :=
  parserOf formFeed [⟨.functionDef, "f".toList, 1, 1, 2⟩, ⟨.functionDef, "g".toList, 3, 3, 4⟩]
    (by decide) (by decide)

/-- What the attribution of the decorated function depends on. -/
theorem attributed_iff_decorated :
    Attributed decoratedParser decorated defaultChunkSize defaultOverlap ↔
      LeadsToItsName decoratedParser decorated :=
  attributed_iff (by decide) (by decide) (by decide) decoratedParser decorated

/-- A decorator is held by a chunk of the module, and what follows a form feed in a function
by a chunk of the next one. -/
theorem not_attributed :
    ¬Attributed decoratedParser decorated defaultChunkSize defaultOverlap ∧
      ¬Attributed formFeedParser formFeed defaultChunkSize defaultOverlap := by
  constructor
  · intro attributed
    have parsed : decoratedParser.parse decorated =
        some [⟨.functionDef, "f".toList, 2, 1, 3⟩] := parserOf_parse _ _ _ _
    have here : decorated[0]? = some '@' := rfl
    obtain ⟨⟨located, isLocated, within⟩, labels⟩ := attributed _ parsed _ List.mem_cons_self 0
      ⟨⟨_, here, rfl⟩, by decide, by decide⟩
    have named := labels located isLocated within
    rw [(located_label (by decide) (by decide) (by decide) parsed (by decide) here rfl).2
      located isLocated within] at named
    exact absurd named (by decide)
  · intro attributed
    have parsed : formFeedParser.parse formFeed =
        some [⟨.functionDef, "f".toList, 1, 1, 2⟩, ⟨.functionDef, "g".toList, 3, 3, 4⟩] :=
      parserOf_parse _ _ _ _
    have here : formFeed[22]? = some '\x27' := rfl
    obtain ⟨⟨located, isLocated, within⟩, labels⟩ := attributed _ parsed _ List.mem_cons_self 22
      ⟨⟨_, here, rfl⟩, by decide, by decide⟩
    have named := labels located isLocated within
    rw [(located_label (by decide) (by decide) (by decide) parsed (by decide) here rfl).2
      located isLocated within] at named
    exact absurd named (by decide)

end Ingest
end ChatPlatform
