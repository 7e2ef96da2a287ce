import ChatPlatform.Foundation.Lines
import ChatPlatform.Foundation.Spans
import ChatPlatform.Ingest.Run

/-!
# Chunking documents

A text is cut into windows of characters that overlap; a Markdown text is cut at its
headers first, and a Python source at its top-level functions and classes. No function
reads anything but its arguments, and the parser of Python sources is a parameter.
-/

namespace ChatPlatform
namespace Ingest

open Text Spans

/-- The size of a chunk where none is given. -/
def defaultChunkSize : Int := 500

/-- The overlap of neighbouring chunks where none is given. -/
def defaultOverlap : Int := 75

/-! ## Windows -/

/-- The windows from a position on. -/
def windowsFrom
    (stripped : Str)
    (chunkSize : Nat)
    {step : Nat}
    (moves : 0 < step)
    (start : Nat) : List Str :=
  if start < stripped.length then
    let stop := min (start + chunkSize) stripped.length
    let piece := strip (slice stripped (start, stop))
    let later :=
      if stop = stripped.length then [] else windowsFrom stripped chunkSize moves (start + step)
    if piece = [] then later else piece :: later
  else []
termination_by stripped.length - start

/-- Windows of characters with overlap. -/
def splitRecursive
    (text : Str)
    (chunkSize overlap : Int) : Except Str (List Str) :=
  let stripped := strip text
  if stripped = [] then .ok []
  else if chunkSize ≤ 0 then .error "chunk_size must be positive".toList
  else if valid : overlap < 0 ∨ chunkSize ≤ overlap then
    .error "overlap must be >= 0 and < chunk_size".toList
  else if (stripped.length : Int) ≤ chunkSize then .ok [stripped]
  else
    have moves : 0 < (chunkSize - overlap).toNat := by omega
    .ok (windowsFrom stripped chunkSize.toNat moves 0)

/-- The chunks of labelled texts, in order. -/
def chunkSections
    (chunkSize overlap : Int) : List (Str × Str) → Except Str (List RawChunk)
  | [] => .ok []
  | (sectionPath, sectionText) :: rest => do
      let pieces ← splitRecursive sectionText chunkSize overlap
      let later ← chunkSections chunkSize overlap rest
      .ok (pieces.map (⟨·, sectionPath⟩) ++ later)

/-- The chunks of a text as a whole, without a label. -/
def chunkWhole
    (text : Str)
    (chunkSize overlap : Int) : Except Str (List RawChunk) := do
  let pieces ← splitRecursive text chunkSize overlap
  .ok (pieces.map (⟨·, []⟩))

/-! ## Markdown -/

/-- A match of the header pattern. -/
structure HeaderMatch where
  /-- Where it begins. -/
  start : Nat
  /-- How many number signs there are. -/
  level : Nat
  /-- The rest of the line after white space. -/
  title : Str
  /-- Where it ends. -/
  stop : Nat
  deriving DecidableEq

/-- Match `(#{1,6})\s+(.*)$`: how many number signs there are, how much white space, and
the rest of the line. The white space may reach over lines. -/
def matchHeader (text : Str) : Option (Nat × Nat × Str) :=
  let level := (text.takeWhile (· = '#')).length
  let rest := text.dropWhile (· = '#')
  let blanks := (rest.takeWhile isSpace).length
  if 1 ≤ level ∧ level ≤ 6 ∧ 1 ≤ blanks then
    some (level, blanks, (rest.dropWhile isSpace).takeWhile (· ≠ '\n'))
  else none

/-- The matches from a position on; `skip` characters still belong to the last match. -/
def finditerFrom (position : Nat) (atLineStart : Bool) : (skip : Nat) → Str → List HeaderMatch
  | _, [] => []
  | skip + 1, c :: rest => finditerFrom (position + 1) (c = '\n') skip rest
  | 0, c :: rest =>
      match if atLineStart then matchHeader (c :: rest) else none with
      | some (level, blanks, title) =>
          ⟨position, level, title, position + level + blanks + title.length⟩ ::
            finditerFrom (position + 1) (c = '\n') (level + blanks + title.length - 1) rest
      | none => finditerFrom (position + 1) (c = '\n') 0 rest

/-- The headers of a Markdown text. -/
def finditer (text : Str) : List HeaderMatch := finditerFrom 0 true 0 text

/-- Where the next header begins, or the text ends. -/
def nextStart (text : Str) : List HeaderMatch → Nat
  | [] => text.length
  | header :: _ => header.start

/-- The labels and the texts of the sections, under the headers that are still open. -/
def sectionsFrom (text : Str) (path : List (Nat × Str)) : List HeaderMatch → List (Str × Str)
  | [] => []
  | header :: later =>
      let title := strip header.title
      let body := strip (slice text (header.stop, nextStart text later))
      let path := path.rdropWhile (fun entry => header.level ≤ entry.1) ++ [(header.level, title)]
      let sectionPath := join " > ".toList (path.map (·.2))
      let sectionText := if body = [] then title else strip (title ++ '\n' :: body)
      (sectionPath, sectionText) :: sectionsFrom text path later

/-- Split by the headers first, then within each section. -/
def splitMarkdown
    (text : Str)
    (chunkSize overlap : Int) : Except Str (List RawChunk) :=
  match finditer text with
  | [] => chunkWhole text chunkSize overlap
  | header :: later =>
      let preamble := strip (text.take header.start)
      let sections := sectionsFrom text [] (header :: later)
      chunkSections chunkSize overlap
        (if preamble = [] then sections else ([], preamble) :: sections)

/-! ## Python -/

/-- The kinds of statements that are told apart. -/
inductive NodeKind where
  | functionDef
  | asyncFunctionDef
  | classDef
  | other
  deriving DecidableEq

/-- A statement of a module. -/
structure Node where
  /-- What it is. -/
  kind : NodeKind
  /-- The name of a function or a class. -/
  name : Str
  /-- The line it begins on, after its decorators; lines are counted from one. -/
  lineno : Nat
  /-- The line its first decorator begins on, or else the line it begins on. -/
  firstLine : Nat
  /-- The line it ends on. -/
  endLineno : Nat
  deriving DecidableEq

/-- A parser of Python sources. -/
structure Parser where
  /-- The statements of the module, or `none` on a syntax error. -/
  parse : Str → Option (List Node)
  /-- Lines are counted from one. -/
  positive : ∀ {source body}, parse source = some body → ∀ node ∈ body, 1 ≤ node.lineno
  /-- The statements are in the order of the source. -/
  ordered : ∀ {source body}, parse source = some body →
    body.Pairwise fun earlier later => earlier.lineno ≤ later.lineno

/-- Whether a statement defines a function or a class. -/
def Node.isDefinition (node : Node) : Bool := node.kind ≠ .other

/-- The names and the texts of the regions of the definitions. -/
def regionsFrom (lines : List Str) : List Node → List (Str × Str)
  | [] => []
  | node :: later =>
      let stop := match later with
        | [] => lines.length
        | next :: _ => next.lineno - 1
      (node.name, strip (slice lines (node.lineno - 1, stop)).flatten) :: regionsFrom lines later

/-- Split by the top-level definitions first, then within each. -/
def splitPython
    (parser : Parser)
    (source : Str)
    (chunkSize overlap : Int) : Except Str (List RawChunk) :=
  match parser.parse source with
  | none => chunkWhole source chunkSize overlap
  | some body =>
      let lines := splitlinesKeepends source
      let topLevel := body.filter Node.isDefinition
      match (topLevel.map (·.lineno)).mergeSort with
      | [] => chunkWhole source chunkSize overlap
      | boundary :: _ =>
          let preamble := strip (lines.take (boundary - 1)).flatten
          let regions := (regionsFrom lines topLevel).filter (·.2 ≠ [])
          chunkSections chunkSize overlap
            (if preamble = [] then regions else ("<module>".toList, preamble) :: regions)

/-- Split a text by the type of its document. -/
def chunkDocument
    (parser : Parser)
    (docType text : Str)
    (chunkSize overlap : Int) : Except Str (List RawChunk) :=
  if docType = "markdown".toList then splitMarkdown text chunkSize overlap
  else if docType = "python".toList then splitPython parser text chunkSize overlap
  else chunkWhole text chunkSize overlap

/-! ## Headers -/

/-- A match at the beginning of a text. -/
theorem matchHeader_eq_some
    {text title : Str}
    {level blanks : Nat}
    (found : matchHeader text = some (level, blanks, title)) :
    1 ≤ level ∧ level ≤ 6 ∧ ∃ gap after, gap.length = blanks ∧ 1 ≤ blanks ∧
      (∀ c ∈ gap, isSpace c = true) ∧
        text = List.replicate level '#' ++ (gap ++ (title ++ after)) := by
  rw [matchHeader] at found
  split at found
  · rename_i held
    obtain ⟨some, few, spaced⟩ := held
    simp only [Option.some.injEq, Prod.mk.injEq] at found
    obtain ⟨rfl, rfl, rfl⟩ := found
    refine ⟨some, few, (text.dropWhile (· = '#')).takeWhile isSpace,
      ((text.dropWhile (· = '#')).dropWhile isSpace).dropWhile (· ≠ '\n'), rfl, spaced,
      fun c present => List.mem_takeWhile_imp present, ?_⟩
    have marks : text.takeWhile (· = '#') =
        List.replicate (text.takeWhile (· = '#')).length '#' :=
      List.eq_replicate_of_mem fun c present => by
        simpa using List.mem_takeWhile_imp present
    rw [← marks, List.takeWhile_append_dropWhile, List.takeWhile_append_dropWhile,
      List.takeWhile_append_dropWhile]
  · cases found

/-- Headers lie in a text, in order and apart, from a position on. -/
def HeadersIn (text : Str) (position : Nat) : List HeaderMatch → Prop
  | [] => position ≤ text.length
  | header :: later =>
      position ≤ header.start ∧ 1 ≤ header.level ∧ header.level ≤ 6 ∧
        (∃ gap, (∀ c ∈ gap, isSpace c = true) ∧
          header.stop = header.start + header.level + gap.length + header.title.length ∧
            slice text (header.start, header.stop) =
              List.replicate header.level '#' ++ (gap ++ header.title)) ∧
          HeadersIn text header.stop later

/-- Headers lie in the text from any earlier position on. -/
theorem HeadersIn.mono
    {text : Str}
    {first second : Nat}
    {headers : List HeaderMatch}
    (inside : HeadersIn text second headers)
    (order : first ≤ second) : HeadersIn text first headers := by
  cases headers with
  | nil => exact order.trans inside
  | cons header later => exact ⟨order.trans inside.1, inside.2⟩

/-- The scan finds headers in order, after the last match. -/
private theorem headersIn_finditerFrom
    (rest front : Str)
    (atLineStart : Bool)
    (skip : Nat)
    (fits : skip ≤ rest.length) :
    HeadersIn (front ++ rest) (front.length + skip)
      (finditerFrom front.length atLineStart skip rest) := by
  induction rest generalizing front atLineStart skip with
  | nil =>
      cases skip with
      | zero => simp [finditerFrom, HeadersIn]
      | succ skip => exact absurd fits (Nat.not_succ_le_zero skip)
  | cons c rest inductionHypothesis =>
      have whole : front ++ c :: rest = (front ++ [c]) ++ rest := by simp
      have moved : (front ++ [c]).length = front.length + 1 := by simp
      cases skip with
      | succ skip =>
          have next := inductionHypothesis (front ++ [c]) (c = '\n') skip
            (Nat.le_of_succ_le_succ fits)
          rw [← whole, moved, Nat.add_right_comm] at next
          exact next
      | zero =>
          rw [finditerFrom]
          split
          · rename_i level blanks title found
            have isMatch : matchHeader (c :: rest) = some (level, blanks, title) := by
              cases atLineStart with
              | true => exact found
              | false => cases found
            obtain ⟨some, few, gap, after, rfl, spaced, isGap, shape⟩ := matchHeader_eq_some isMatch
            have measured := congrArg List.length shape
            simp only [List.length_cons, List.length_append, List.length_replicate] at measured
            have next := inductionHypothesis (front ++ [c]) (c = '\n')
              (level + gap.length + title.length - 1) (by omega)
            rw [← whole, moved, show front.length + 1 + (level + gap.length + title.length - 1) =
              front.length + level + gap.length + title.length by omega] at next
            refine ⟨le_rfl, some, few, ⟨gap, isGap, rfl, ?_⟩, next⟩
            have block := slice_append_mid front
              (List.replicate level '#' ++ (gap ++ title)) after
            rw [shape]
            simp only [List.length_append, List.length_replicate, List.append_assoc,
              Nat.add_assoc] at block ⊢
            exact block
          · have next := inductionHypothesis (front ++ [c]) (c = '\n') 0 (Nat.zero_le _)
            rw [← whole, moved] at next
            exact next.mono (Nat.le_succ _)

/-- The headers of a text lie in it, in order and apart. -/
theorem headersIn_finditer (text : Str) : HeadersIn text 0 (finditer text) :=
  headersIn_finditerFrom text [] true 0 (Nat.zero_le _)

end Ingest
end ChatPlatform
