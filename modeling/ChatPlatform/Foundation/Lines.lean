import ChatPlatform.Foundation.Text

/-!
# Splitting text into lines

The built-in line splitting of the modelled language breaks lines at more characters
than a line feed and a carriage return. The lines and their ends make up the text, no
line holds a break, and a text that holds no carriage return and no line feed is cut
at its other breaks alone. The line a position lies on is the number of line ends before
it. Which characters end a line is a parameter there: the numbers for the two sets of
characters differ by the other ends before the position.
-/

namespace ChatPlatform
namespace Text

/-- Code points that end a line. -/
def isLineBreak (c : Char) : Bool :=
  let n := c.toNat
  (10 ≤ n && n ≤ 13) || (0x1C ≤ n && n ≤ 0x1E) || n == 0x85 || n == 0x2028 || n == 0x2029

/-- The lines of a text with the ends of each, where `line` holds the characters read so
far of the line in progress. -/
def linesFrom (line : Str) : Str → List (Str × Str)
  | [] => if line = [] then [] else [(line, [])]
  | '\r' :: '\n' :: rest => (line, ['\r', '\n']) :: linesFrom [] rest
  | c :: rest =>
      if isLineBreak c then (line, [c]) :: linesFrom [] rest
      else linesFrom (line ++ [c]) rest

/-- The lines of a text. -/
def splitlines (s : Str) : List Str := (linesFrom [] s).map (·.1)

/-- The lines of a text, each with its end. -/
def splitlinesKeepends (s : Str) : List Str := (linesFrom [] s).map fun line => line.1 ++ line.2

/-- The pieces between single breaks, where `piece` holds the characters read so far of
the piece in progress. -/
def cutFrom (piece : Str) : Str → List Str
  | [] => [piece]
  | c :: rest => if isLineBreak c then piece :: cutFrom [] rest else cutFrom (piece ++ [c]) rest

/-- The pieces of a text between single breaks; there is always one. -/
def cut (s : Str) : List Str := cutFrom [] s

/-- A text that no break ends early. -/
def Unbroken (s : Str) : Prop := ∀ c ∈ s, isLineBreak c = false

instance (s : Str) : Decidable (Unbroken s) := decidableForallMem s (fun c => isLineBreak c = false)

/-- A text on one line, as far as line feeds and carriage returns go. -/
def OneLine (s : Str) : Prop := ∀ c ∈ s, c ≠ '\r' ∧ c ≠ '\n'

instance (s : Str) : Decidable (OneLine s) := decidableForallMem s (fun c => c ≠ '\r' ∧ c ≠ '\n')

/-- A break is white space. -/
theorem isSpace_of_isLineBreak {c : Char} (isBreak : isLineBreak c = true) : isSpace c = true := by
  unfold isLineBreak at isBreak
  unfold isSpace
  simp only [Bool.or_eq_true, Bool.and_eq_true, decide_eq_true_eq, beq_iff_eq] at isBreak ⊢
  omega

/-- A text without white space has no break. -/
theorem Unbroken.of_no_space {s : Str} (noSpace : ∀ c ∈ s, isSpace c = false) : Unbroken s := by
  intro c present
  by_contra isBreak
  have isSpace := isSpace_of_isLineBreak (Bool.not_eq_false _ ▸ isBreak)
  rw [noSpace c present] at isSpace
  cases isSpace

/-- White space after a text that is trimmed and not empty is all that stripping removes. -/
theorem strip_append
    {front : Str}
    (trimmed : IsTrimmed front)
    (held : front ≠ [])
    (s : Str) : strip (front ++ s) = front ++ s.rdropWhile isSpace := by
  obtain ⟨noFront, noBack⟩ := trimmed
  have last : isSpace (front.getLast held) = false :=
    noBack _ (List.getLast?_eq_some_getLast held)
  have drops : (front ++ s).dropWhile isSpace = front ++ s := by
    cases front with
    | nil => exact absurd rfl held
    | cons c front => exact List.dropWhile_cons_of_neg (by simp [noFront c rfl])
  have keeps : front.rdropWhile isSpace = front := by
    rw [List.rdropWhile_eq_self_iff]
    intro _
    simp [last]
  unfold strip
  rw [drops]
  induction s using List.reverseRecOn with
  | nil => rw [List.append_nil, keeps, List.rdropWhile_nil, List.append_nil]
  | append_singleton s c inductionHypothesis =>
      rw [← List.append_assoc]
      cases isGap : isSpace c with
      | true =>
          rw [List.rdropWhile_concat_pos _ _ _ isGap, List.rdropWhile_concat_pos _ _ _ isGap]
          refine inductionHypothesis ?_
          cases front with
          | nil => exact absurd rfl held
          | cons d front => exact List.dropWhile_cons_of_neg (by simp [noFront d rfl])
      | false =>
          rw [List.rdropWhile_concat_neg _ _ _ (by simp [isGap]),
            List.rdropWhile_concat_neg _ _ _ (by simp [isGap]), List.append_assoc]

/-! ## Pieces -/

/-- A break ends a piece. -/
theorem cutFrom_cons_of_break
    {c : Char}
    (isBreak : isLineBreak c = true)
    (piece rest : Str) : cutFrom piece (c :: rest) = piece :: cutFrom [] rest := by
  rw [cutFrom, if_pos isBreak]

/-- What no break ends belongs to the piece in progress. -/
theorem cutFrom_append_unbroken
    {start : Str}
    (unbroken : Unbroken start)
    (piece rest : Str) : cutFrom piece (start ++ rest) = cutFrom (piece ++ start) rest := by
  induction start generalizing piece with
  | nil => rw [List.nil_append, List.append_nil]
  | cons c start inductionHypothesis =>
      rw [List.cons_append, cutFrom, if_neg (by simp [unbroken c List.mem_cons_self]),
        inductionHypothesis fun d present => unbroken d (List.mem_cons_of_mem _ present),
        List.append_assoc, List.singleton_append]

/-- A text without breaks is its only piece. -/
theorem cut_of_unbroken {s : Str} (unbroken : Unbroken s) : cut s = [s] := by
  have pieces := cutFrom_append_unbroken unbroken [] []
  rw [List.append_nil, List.nil_append] at pieces
  exact pieces

/-- A text that has a break is cut at the first one. -/
theorem exists_first_break {s : Str} (broken : ¬Unbroken s) :
    ∃ start c rest, s = start ++ c :: rest ∧ Unbroken start ∧ isLineBreak c = true := by
  induction s with
  | nil => exact absurd (fun c present => absurd present List.not_mem_nil) broken
  | cons d s inductionHypothesis =>
      cases isBreak : isLineBreak d with
      | true => exact ⟨[], d, s, rfl, fun c present => absurd present List.not_mem_nil, isBreak⟩
      | false =>
          have later : ¬Unbroken s := by
            intro unbroken
            refine broken fun c present => ?_
            rcases List.mem_cons.mp present with rfl | inRest
            · exact isBreak
            · exact unbroken c inRest
          obtain ⟨start, c, rest, rfl, unbroken, ends⟩ := inductionHypothesis later
          refine ⟨d :: start, c, rest, rfl, fun e present => ?_, ends⟩
          rcases List.mem_cons.mp present with rfl | inStart
          · exact isBreak
          · exact unbroken e inStart

/-! ## Lines -/

/-- A character that does not begin a pair is taken alone. -/
private theorem linesFrom_cons
    {c : Char}
    {rest : Str}
    (alone : c = '\r' → rest.head? ≠ some '\n')
    (line : Str) :
    linesFrom line (c :: rest) =
      if isLineBreak c then (line, [c]) :: linesFrom [] rest
      else linesFrom (line ++ [c]) rest := by
  rw [linesFrom]
  rintro tail rfl rfl
  exact alone rfl rfl

/-- A line that ends with a line feed or a carriage return and a line feed is cut at its
other breaks. -/
theorem map_linesFrom_append
    {text : Str}
    (oneLine : OneLine text)
    {ending : Str}
    (isEnding : ending = ['\n'] ∨ ending = ['\r', '\n'])
    (line rest : Str) :
    (linesFrom line (text ++ (ending ++ rest))).map (·.1) =
      cutFrom line text ++ splitlines rest := by
  induction text generalizing line with
  | nil =>
      rcases isEnding with rfl | rfl
      · show (linesFrom line ('\n' :: rest)).map (·.1) = _
        rw [linesFrom_cons (fun same => absurd same (by decide)), if_pos (by decide)]
        rfl
      · rfl
  | cons c text inductionHypothesis =>
      obtain ⟨notReturn, -⟩ := oneLine c List.mem_cons_self
      have tail := inductionHypothesis fun d present => oneLine d (List.mem_cons_of_mem _ present)
      rw [List.cons_append, linesFrom_cons (fun same => absurd same notReturn), cutFrom]
      split
      · rw [List.map_cons, tail]
        rfl
      · exact tail _

/-- Reading a line and what follows its end. -/
theorem splitlines_append
    {text ending : Str}
    (oneLine : OneLine text)
    (isEnding : ending = ['\n'] ∨ ending = ['\r', '\n'])
    (rest : Str) :
    splitlines (text ++ (ending ++ rest)) = cut text ++ splitlines rest :=
  map_linesFrom_append oneLine isEnding [] rest

/-- The lines and their ends make up the text. -/
theorem flatten_linesFrom (line s : Str) :
    ((linesFrom line s).map fun found => found.1 ++ found.2).flatten = line ++ s := by
  induction line, s using linesFrom.induct with
  | case1 => simp [linesFrom]
  | case2 line notEmpty => simp [linesFrom, notEmpty]
  | case3 line rest inductionHypothesis => simp [linesFrom, inductionHypothesis]
  | case4 line c rest notPair isBreak inductionHypothesis =>
      rw [linesFrom.eq_3 _ _ _ notPair, if_pos isBreak, List.map_cons, List.flatten_cons,
        inductionHypothesis]
      simp
  | case5 line c rest notPair noBreak inductionHypothesis =>
      rw [linesFrom.eq_3 _ _ _ notPair, if_neg noBreak, inductionHypothesis, List.append_assoc,
        List.singleton_append]

/-- The lines with their ends make up the text. -/
theorem flatten_splitlinesKeepends (s : Str) : (splitlinesKeepends s).flatten = s :=
  flatten_linesFrom [] s

/-- No line holds a break. -/
theorem unbroken_of_mem_linesFrom
    {line s : Str}
    (unbroken : Unbroken line)
    {found : Str × Str}
    (present : found ∈ linesFrom line s) : Unbroken found.1 := by
  have none : Unbroken [] := fun c present => absurd present List.not_mem_nil
  induction line, s using linesFrom.induct with
  | case1 => simp [linesFrom] at present
  | case2 line notEmpty =>
      rw [linesFrom, if_neg notEmpty, List.mem_singleton] at present
      rw [present]
      exact unbroken
  | case3 line rest inductionHypothesis =>
      rw [linesFrom, List.mem_cons] at present
      rcases present with rfl | inRest
      · exact unbroken
      · exact inductionHypothesis none inRest
  | case4 line c rest notPair isBreak inductionHypothesis =>
      rw [linesFrom.eq_3 _ _ _ notPair, if_pos isBreak, List.mem_cons] at present
      rcases present with rfl | inRest
      · exact unbroken
      · exact inductionHypothesis none inRest
  | case5 line c rest notPair noBreak inductionHypothesis =>
      rw [linesFrom.eq_3 _ _ _ notPair, if_neg noBreak] at present
      refine inductionHypothesis (fun d inLine => ?_) present
      rcases List.mem_append.mp inLine with early | last
      · exact unbroken d early
      · rw [List.mem_singleton.mp last]
        exact Bool.eq_false_iff.mpr noBreak

/-- No line of a text holds a break. -/
theorem unbroken_of_mem_splitlines
    {s line : Str}
    (present : line ∈ splitlines s) : Unbroken line := by
  obtain ⟨found, isFound, rfl⟩ := List.mem_map.mp present
  exact unbroken_of_mem_linesFrom (fun c inside => absurd inside List.not_mem_nil) isFound

/-! ## The line of a position -/

/-- Whether a line ends with a character, where a carriage return and a line feed are one
end. -/
def endsLine (isBreak : Char → Bool) (c : Char) (rest : Str) : Bool :=
  isBreak c && !(c = '\r' && rest.head? = some '\n')

/-- How many lines end before a position. -/
def lineIndex (isBreak : Char → Bool) : Str → Nat → Nat
  | [], _ => 0
  | _, 0 => 0
  | c :: rest, position + 1 =>
      (if endsLine isBreak c rest then 1 else 0) + lineIndex isBreak rest position

/-- A line feed or a carriage return. -/
def isNewline (c : Char) : Bool := c = '\n' || c = '\r'

/-- A character that ends a line but is neither a line feed nor a carriage return. -/
def isOtherBreak (c : Char) : Bool := isLineBreak c && !isNewline c

/-- How many line ends before a position are neither line feeds nor carriage returns. -/
def drift (s : Str) (position : Nat) : Nat := ((s.take position).filter isOtherBreak).length

/-- Where each line begins, for any number of lines. -/
def lineOffset (lines : List Str) (count : Nat) : Nat := (lines.take count).flatten.length

@[simp] theorem lineIndex_zero (isBreak : Char → Bool) (s : Str) : lineIndex isBreak s 0 = 0 := by
  cases s with
  | nil => rfl
  | cons c s => rfl

@[simp] theorem lineOffset_zero (lines : List Str) : lineOffset lines 0 = 0 := rfl

@[simp] theorem lineOffset_succ (line : Str) (lines : List Str) (count : Nat) :
    lineOffset (line :: lines) (count + 1) = line.length + lineOffset lines count := by
  rw [lineOffset, List.take_succ_cons, List.flatten_cons, List.length_append]
  rfl

@[simp] theorem drift_cons_succ (c : Char) (s : Str) (position : Nat) :
    drift (c :: s) (position + 1) = (if isOtherBreak c then 1 else 0) + drift s position := by
  rw [drift, drift, List.take_succ_cons, List.filter_cons]
  cases isOtherBreak c with
  | true => exact Nat.add_comm _ 1
  | false => exact (Nat.zero_add _).symm

/-- Lines begin in order. -/
theorem lineOffset_le_lineOffset
    (lines : List Str)
    {first last : Nat}
    (order : first ≤ last) : lineOffset lines first ≤ lineOffset lines last :=
  (List.take_prefix_take_left order).flatten.length_le

/-- No line begins after the text. -/
theorem lineOffset_le_length (s : Str) (count : Nat) :
    lineOffset (splitlinesKeepends s) count ≤ s.length := by
  have whole := (List.take_prefix count (splitlinesKeepends s)).flatten.length_le
  rw [flatten_splitlinesKeepends] at whole
  exact whole

/-- A newline is a line break. -/
private theorem isLineBreak_of_isNewline {c : Char} (isEnd : isNewline c = true) :
    isLineBreak c = true := by
  rw [isNewline, Bool.or_eq_true] at isEnd
  rcases isEnd with feed | carriage
  · rw [of_decide_eq_true feed]
    decide
  · rw [of_decide_eq_true carriage]
    decide

/-- The two numbers of a line differ by the other ends before the position. -/
theorem lineIndex_eq_add_drift (s : Str) (position : Nat) :
    lineIndex isLineBreak s position = lineIndex isNewline s position + drift s position := by
  induction s generalizing position with
  | nil => simp [lineIndex, drift]
  | cons c s inductionHypothesis =>
      cases position with
      | zero => rfl
      | succ position =>
          have here : (if endsLine isLineBreak c s then 1 else 0) =
              (if endsLine isNewline c s then 1 else 0) + if isOtherBreak c then 1 else 0 := by
            unfold endsLine isOtherBreak
            cases isEnd : isNewline c with
            | true => simp [isLineBreak_of_isNewline isEnd]
            | false =>
                have notReturn : c ≠ '\r' := by
                  rintro rfl
                  cases isEnd
                simp [notReturn]
          rw [lineIndex, lineIndex, inductionHypothesis, drift_cons_succ, here]
          omega

/-- Before a text ends its first line, positions lie on that line. -/
private theorem lineIndex_append
    {line : Str}
    (unbroken : Unbroken line)
    (rest : Str)
    (position : Nat) :
    lineIndex isLineBreak (line ++ rest) position =
      lineIndex isLineBreak rest (position - line.length) := by
  induction line generalizing position with
  | nil => rfl
  | cons c line inductionHypothesis =>
      cases position with
      | zero => simp
      | succ position =>
          have noEnd : endsLine isLineBreak c (line ++ rest) = false := by
            rw [endsLine, unbroken c List.mem_cons_self, Bool.false_and]
          rw [List.cons_append, lineIndex, noEnd,
            inductionHypothesis (fun d present => unbroken d (List.mem_cons_of_mem _ present)),
            List.length_cons, Nat.succ_sub_succ]
          simp

/-- A line begins at or before a position exactly when the position lies on it or on a later
one. -/
private theorem lineOffset_linesFrom_le_iff
    {line : Str}
    (unbroken : Unbroken line)
    (s : Str)
    (position : Nat)
    (inside : position < line.length + s.length)
    (count : Nat) :
    lineOffset ((linesFrom line s).map fun found => found.1 ++ found.2) count ≤ position ↔
      count ≤ lineIndex isLineBreak (line ++ s) position := by
  have none : Unbroken [] := fun c present => absurd present List.not_mem_nil
  induction line, s using linesFrom.induct generalizing position count with
  | case1 => simp at inside
  | case2 line notEmpty =>
      rw [linesFrom, if_neg notEmpty, lineIndex_append unbroken]
      cases count with
      | zero => simp
      | succ count =>
          simp only [List.map_cons, List.map_nil, lineOffset_succ, List.append_nil, lineIndex]
          simp only [List.length_nil, Nat.add_zero] at inside
          omega
  | case3 line rest inductionHypothesis =>
      rw [linesFrom, lineIndex_append unbroken, List.map_cons]
      cases count with
      | zero => simp
      | succ count =>
          rw [lineOffset_succ]
          simp only [List.length_append, List.length_cons, List.length_nil] at inside ⊢
          by_cases early : position < line.length + 2
          · have first :
                lineIndex isLineBreak ('\r' :: '\n' :: rest) (position - line.length) = 0 := by
              obtain zero | one : position - line.length = 0 ∨ position - line.length = 1 := by
                omega
              · rw [zero, lineIndex_zero]
              · rw [one]
                rfl
            omega
          · obtain ⟨later, rfl⟩ := Nat.exists_eq_add_of_le (Nat.le_of_not_lt early)
            have next := inductionHypothesis none later (by
              simp only [List.length_nil]
              omega) count
            rw [List.nil_append] at next
            rw [show line.length + 2 + later - line.length = later + 2 by omega]
            have moved : lineIndex isLineBreak ('\r' :: '\n' :: rest) (later + 2) =
                1 + lineIndex isLineBreak rest later := by
              rw [lineIndex, lineIndex]
              exact Nat.zero_add _
            omega
  | case4 line c rest notPair isBreak inductionHypothesis =>
      rw [linesFrom.eq_3 _ _ _ notPair, if_pos isBreak, lineIndex_append unbroken, List.map_cons]
      have ends : endsLine isLineBreak c rest = true := by
        rw [endsLine, isBreak, Bool.true_and]
        cases rest with
        | nil => simp
        | cons d rest =>
            by_cases pair : c = '\r' ∧ d = '\n'
            · exact absurd (pair.2 ▸ rfl) (notPair rest pair.1)
            · rw [not_and_or] at pair
              simpa using pair
      cases count with
      | zero => simp
      | succ count =>
          rw [lineOffset_succ]
          simp only [List.length_append, List.length_cons, List.length_nil] at inside ⊢
          by_cases early : position < line.length + 1
          · rw [show position - line.length = 0 by omega, lineIndex_zero]
            omega
          · obtain ⟨later, rfl⟩ := Nat.exists_eq_add_of_le (Nat.le_of_not_lt early)
            have next := inductionHypothesis none later (by
              simp only [List.length_nil]
              omega) count
            rw [List.nil_append] at next
            rw [show line.length + 1 + later - line.length = later + 1 by omega, lineIndex, ends,
              if_pos rfl]
            omega
  | case5 line c rest notPair noBreak inductionHypothesis =>
      have longer : Unbroken (line ++ [c]) := by
        intro d present
        rcases List.mem_append.mp present with early | last
        · exact unbroken d early
        · rw [List.mem_singleton.mp last]
          exact Bool.eq_false_iff.mpr noBreak
      have next := inductionHypothesis longer position (by
        simp only [List.length_append, List.length_cons, List.length_nil] at inside ⊢
        omega) count
      rw [linesFrom.eq_3 _ _ _ notPair, if_neg noBreak]
      rw [List.append_assoc, List.singleton_append] at next
      exact next

/-- A line of a text begins at or before a position exactly when the position lies on it or
on a later one. -/
theorem lineOffset_le_iff
    {s : Str}
    {position : Nat}
    (inside : position < s.length)
    (count : Nat) :
    lineOffset (splitlinesKeepends s) count ≤ position ↔
      count ≤ lineIndex isLineBreak s position :=
  lineOffset_linesFrom_le_iff (fun _ present => absurd present List.not_mem_nil) s position
    (by simpa using inside) count

end Text
end ChatPlatform
