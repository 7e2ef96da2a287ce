import ChatPlatform.Foundation.Pattern
import ChatPlatform.Foundation.Spans

/-!
# Scanning a text

A scan takes the matches of a matcher from left to right, each after the end of the one
before it. Where there is a match, some match that is found reaches there. A text that
stands between gaps is scanned as on its own when the matcher does not depend on what is
beyond a gap.
-/

namespace ChatPlatform
namespace Pattern

variable {isGap : Char → Bool}

/-! ## Matches in a text -/

/-- The matches from a position on with what they capture; `skip` characters still belong to
the last match. -/
def scanFrom {γ : Type} (matcher : Place → Option (Nat × γ)) (position : Nat)
    (before : Option Char) : (skip : Nat) → Str → List ((Nat × Nat) × γ)
  | _, [] => []
  | skip + 1, c :: rest => scanFrom matcher (position + 1) (some c) skip rest
  | 0, c :: rest =>
      match matcher (before, c :: rest) with
      | some (length + 1, captured) =>
          ((position, position + (length + 1)), captured) ::
            scanFrom matcher (position + 1) (some c) length rest
      | _ => scanFrom matcher (position + 1) (some c) 0 rest

/-- The matches in a text with what they capture. -/
def scan {γ : Type} (matcher : Place → Option (Nat × γ)) (text : Str) : List ((Nat × Nat) × γ) :=
  scanFrom matcher 0 none 0 text

/-- A pattern captures nothing. -/
def matcher (pattern : Pattern) (place : Place) : Option (Nat × Unit) :=
  (matchAt pattern place).map (·, ())

/-- Where a pattern matches in a text. -/
def finditer (pattern : Pattern) (text : Str) : List (Nat × Nat) :=
  (scan pattern.matcher text).map (·.1)

/-! ## Matchers -/

section Matchers

variable
    {γ : Type}
    (isGap : Char → Bool)
    (matcher : Place → Option (Nat × γ))

/-- A match is no longer than the text. -/
def Bounded : Prop :=
  ∀ {place : Place} {length : Nat} {captured : γ},
    matcher place = some (length, captured) → length ≤ place.2.length

/-- The match at a place does not depend on what stands around. -/
def Contextual : Prop :=
  ∀ {suffix : Str}, Begins isGap suffix → ∀ {inner outer : Place},
    Alike isGap suffix inner outer → matcher outer = matcher inner

/-- A match at a place is still one in any surroundings. -/
def Persistent : Prop :=
  ∀ {suffix : Str}, Begins isGap suffix → ∀ {inner outer : Place},
    Alike isGap suffix inner outer → ∀ {length : Nat} {captured : γ},
      matcher inner = some (length + 1, captured) →
        ∃ other captured, matcher outer = some (other + 1, captured)

end Matchers

/-- The matches of a pattern are bounded by the text. -/
theorem bounded_matcher (pattern : Pattern) : Bounded pattern.matcher := by
  intro place length captured found
  obtain ⟨found, isMatch, same⟩ := Option.map_eq_some_iff.mp found
  obtain ⟨stop, -, isLength⟩ := Option.map_eq_some_iff.mp isMatch
  cases same
  rw [← isLength]
  exact Nat.sub_le _ _

/-- A pattern that takes no gap matches alike in any surroundings. -/
theorem contextual_matcher
    {pattern : Pattern}
    (blurred : pattern.Blurred isGap)
    (avoids : pattern.Avoids isGap) : Contextual isGap pattern.matcher := by
  intro suffix begins inner outer alike
  have each := ends_alike begins blurred avoids alike
  unfold Pattern.matcher matchAt
  generalize pattern.ends inner = innerEnds at each
  generalize pattern.ends outer = outerEnds at each
  cases each with
  | nil => rfl
  | cons here _ =>
      simp only [List.head?_cons, Option.map_some]
      rw [here.2, alike.2, List.length_append, List.length_append, Nat.add_sub_add_right]

/-- A pattern that takes something and looks at gaps as at ends keeps its matches. -/
theorem persistent_matcher
    {pattern : Pattern}
    (blurred : pattern.Blurred isGap)
    (takes : 0 < pattern.least) : Persistent isGap pattern.matcher := by
  intro suffix begins inner outer alike length captured found
  obtain ⟨found, isMatch, same⟩ := Option.map_eq_some_iff.mp found
  obtain ⟨stop, isHead, -⟩ := Option.map_eq_some_iff.mp isMatch
  obtain ⟨other, present, -⟩ := ends_persist begins blurred alike stop (List.mem_of_head? isHead)
  obtain ⟨first, isFirst⟩ := Option.isSome_iff_exists.mp
    (List.isSome_head?.mpr (List.ne_nil_of_mem present))
  have shorter := length_ends pattern outer first (List.mem_of_head? isFirst)
  refine ⟨outer.2.length - first.2.length - 1, (), ?_⟩
  unfold Pattern.matcher matchAt
  rw [isFirst, Nat.sub_add_cancel (by omega)]
  rfl

/-! ## Scanning -/

section Scanning

variable
    {γ : Type}
    {matcher : Place → Option (Nat × γ)}

/-- The character before a position. -/
def behind (before : Option Char) (text : Str) : Option Char := text.getLast?.or before

@[simp] theorem behind_nil (before : Option Char) : behind before [] = before := rfl

@[simp] theorem behind_cons (before : Option Char) (c : Char) (text : Str) :
    behind before (c :: text) = behind (some c) text := by
  cases text with
  | nil => rfl
  | cons d text =>
      rw [behind, behind, List.getLast?_cons_cons]
      simp [List.getLast?_cons]

/-- What a scan finds, moved. -/
def moved (offset : Nat) (found : (Nat × Nat) × γ) : (Nat × Nat) × γ :=
  ((offset + found.1.1, offset + found.1.2), found.2)

/-- One step of a scan. -/
theorem scanFrom_zero_cons
    (matcher : Place → Option (Nat × γ))
    (position : Nat)
    (before : Option Char)
    (c : Char)
    (rest : Str) :
    scanFrom matcher position before 0 (c :: rest) =
      match matcher (before, c :: rest) with
      | some (length + 1, captured) =>
          ((position, position + (length + 1)), captured) ::
            scanFrom matcher (position + 1) (some c) length rest
      | _ => scanFrom matcher (position + 1) (some c) 0 rest := rfl

/-- Scanning from a later position. -/
theorem scanFrom_add
    (offset position : Nat)
    (before : Option Char)
    (skip : Nat)
    (text : Str) :
    scanFrom matcher (offset + position) before skip text =
      (scanFrom matcher position before skip text).map (moved offset) := by
  induction text generalizing position before skip with
  | nil =>
      cases skip with
      | zero => rfl
      | succ skip => rfl
  | cons c rest inductionHypothesis =>
      cases skip with
      | succ skip => exact inductionHypothesis (position + 1) (some c) skip
      | zero =>
          rw [scanFrom_zero_cons, scanFrom_zero_cons]
          split
          · rw [List.map_cons, ← inductionHypothesis, moved, Nat.add_assoc offset position]
            rfl
          · exact inductionHypothesis (position + 1) (some c) 0

/-- What a scan finds is a match where it is found. -/
theorem mem_scanFrom
    (bounded : Bounded matcher)
    {position : Nat}
    {before : Option Char}
    {skip : Nat}
    {text : Str}
    {found : (Nat × Nat) × γ}
    (present : found ∈ scanFrom matcher position before skip text) :
    ∃ front back length, text = front ++ back ∧ skip ≤ front.length ∧
      found.1 = (position + front.length, position + front.length + (length + 1)) ∧
        length + 1 ≤ back.length ∧
          matcher (behind before front, back) = some (length + 1, found.2) := by
  induction text generalizing position before skip with
  | nil =>
      cases skip with
      | zero => cases present
      | succ skip => cases present
  | cons c rest inductionHypothesis =>
      have later : ∀ {skip : Nat},
          found ∈ scanFrom matcher (position + 1) (some c) skip rest →
            ∃ front back length, c :: rest = front ++ back ∧ skip + 1 ≤ front.length ∧
              found.1 = (position + front.length, position + front.length + (length + 1)) ∧
                length + 1 ≤ back.length ∧
                  matcher (behind before front, back) = some (length + 1, found.2) := by
        intro skip inRest
        obtain ⟨front, back, length, rfl, far, same, fits, isMatch⟩ := inductionHypothesis inRest
        refine ⟨c :: front, back, length, rfl, Nat.succ_le_succ far, ?_, fits, ?_⟩
        · rw [same, List.length_cons, Nat.add_assoc position, Nat.add_comm 1]
        · rw [behind_cons]
          exact isMatch
      cases skip with
      | succ skip => exact later present
      | zero =>
          rw [scanFrom_zero_cons] at present
          split at present
          · rename_i length captured isMatch
            rcases List.mem_cons.mp present with rfl | inRest
            · exact ⟨[], c :: rest, length, rfl, le_rfl, rfl, bounded isMatch, isMatch⟩
            · obtain ⟨front, back, other, whole, far, found⟩ := later inRest
              exact ⟨front, back, other, whole, Nat.zero_le _, found⟩
          · obtain ⟨front, back, other, whole, far, found⟩ := later present
            exact ⟨front, back, other, whole, Nat.zero_le _, found⟩

/-- Where there is a match, a scan finds one that reaches there. -/
theorem exists_scanFrom
    {position : Nat}
    {before : Option Char}
    {skip : Nat}
    (front : Str)
    {back : Str}
    {length : Nat}
    {captured : γ}
    (isMatch : matcher (behind before front, back) = some (length + 1, captured))
    (held : back ≠ [])
    (open_ : skip ≤ front.length) :
    ∃ found ∈ scanFrom matcher position before skip (front ++ back),
      found.1.1 ≤ position + front.length ∧ position + front.length < found.1.2 := by
  induction front generalizing position before skip with
  | nil =>
      obtain ⟨c, rest, rfl⟩ := List.exists_cons_of_ne_nil held
      obtain rfl := Nat.le_zero.mp open_
      rw [behind_nil] at isMatch
      rw [List.nil_append, scanFrom_zero_cons, isMatch]
      exact ⟨_, List.mem_cons_self, le_rfl, Nat.lt_add_of_pos_right (Nat.succ_pos _)⟩
  | cons c front inductionHypothesis =>
      rw [behind_cons] at isMatch
      have next := fun {skip} => @inductionHypothesis (position + 1) (some c) skip isMatch
      rw [List.length_cons] at open_ ⊢
      have same : position + (front.length + 1) = position + 1 + front.length := by omega
      cases skip with
      | succ skip =>
          rw [same]
          exact next (Nat.le_of_succ_le_succ open_)
      | zero =>
          rw [List.cons_append, scanFrom_zero_cons, same]
          split
          · rename_i other captured found
            by_cases reaches : other ≤ front.length
            · obtain ⟨found, present, reaching⟩ := next reaches
              exact ⟨found, List.mem_cons_of_mem _ present, reaching⟩
            · refine ⟨_, List.mem_cons_self, ?_, ?_⟩
              · dsimp only
                omega
              · dsimp only
                omega
          · exact next (Nat.zero_le _)

section Contextual

variable
    (bounded : Bounded matcher)
    (contextual : Contextual isGap matcher)

include bounded contextual

/-- Scanning a text and then what stands around it. -/
theorem scanFrom_append
    {back : Str}
    (begins : Begins isGap back)
    (position : Nat)
    (before : Option Char)
    {skip : Nat}
    (text : Str)
    (fits : skip ≤ text.length) :
    scanFrom matcher position before skip (text ++ back) =
      scanFrom matcher position before skip text ++
        scanFrom matcher (position + text.length) (behind before text) 0 back := by
  induction text generalizing position before skip with
  | nil =>
      obtain rfl := Nat.le_zero.mp fits
      rfl
  | cons c rest inductionHypothesis =>
      have same : position + (c :: rest).length = position + 1 + rest.length := by
        rw [List.length_cons]
        omega
      rw [same, behind_cons]
      cases skip with
      | succ skip => exact inductionHypothesis (position + 1) (some c) (Nat.le_of_succ_le_succ fits)
      | zero =>
          have alike : Alike isGap back (before, c :: rest) (before, c :: rest ++ back) :=
            ⟨rfl, rfl⟩
          rw [List.cons_append, scanFrom_zero_cons, scanFrom_zero_cons, ← List.cons_append,
            contextual begins alike]
          split
          · rename_i length captured isMatch
            have short := bounded isMatch
            rw [inductionHypothesis (position + 1) (some c) (Nat.le_of_succ_le_succ short)]
            rfl
          · exact inductionHypothesis (position + 1) (some c) (Nat.zero_le _)

omit bounded in
/-- What stands before the first character only matters up to gaps. -/
theorem scanFrom_blur
    (position : Nat)
    {before other : Option Char}
    (alike : blur isGap before = blur isGap other)
    (text : Str) :
    scanFrom matcher position before 0 text = scanFrom matcher position other 0 text := by
  cases text with
  | nil => rfl
  | cons c rest =>
      have begins : Begins isGap [] := rfl
      have same : matcher (before, c :: rest) = matcher (other, c :: rest) :=
        contextual begins ⟨alike.symm, (List.append_nil _).symm⟩
      rw [scanFrom_zero_cons, scanFrom_zero_cons, same]

/-- No match begins at a gap. -/
private theorem scanFrom_gap
    {gap : Char}
    (isGapChar : isGap gap = true)
    (position : Nat)
    (before : Option Char)
    (rest : Str) :
    scanFrom matcher position before 0 (gap :: rest) =
      scanFrom matcher (position + 1) (some gap) 0 rest := by
  have begins : Begins isGap (gap :: rest) := isGapChar
  have same : matcher (before, gap :: rest) = matcher (before, []) :=
    contextual begins ⟨rfl, rfl⟩
  rw [scanFrom_zero_cons]
  split
  · rename_i length captured isMatch
    rw [same] at isMatch
    exact absurd (bounded isMatch) (Nat.not_succ_le_zero length)
  · rfl

/-- What stands before the surroundings does not matter. -/
private theorem scanFrom_begins
    {back : Str}
    (begins : Begins isGap back)
    (position : Nat)
    (before : Option Char) :
    scanFrom matcher position before 0 back = (scan matcher back).map (moved position) := by
  rw [scan, ← scanFrom_add, Nat.add_zero]
  cases back with
  | nil => rfl
  | cons gap rest =>
      rw [scanFrom_gap bounded contextual begins, scanFrom_gap bounded contextual begins]

/-- After a gap a text is scanned as on its own. -/
theorem scan_append
    {front : Str}
    (closes : Ends isGap front)
    (text : Str) :
    scan matcher (front ++ text) =
      scan matcher front ++ (scan matcher text).map (moved front.length) := by
  rcases List.eq_nil_or_concat front with rfl | ⟨start, gap, rfl⟩
  · rw [List.nil_append, List.length_nil, scan, scan, ← scanFrom_add]
    rfl
  · rw [List.concat_eq_append] at closes ⊢
    have isGapChar : isGap gap = true := by
      rw [Ends, List.getLast?_concat] at closes
      exact closes
    have blurs : blur isGap (some gap) = blur isGap none := if_pos isGapChar
    have beginsText : Begins isGap (gap :: text) := isGapChar
    have beginsNil : Begins isGap [gap] := isGapChar
    unfold scan
    rw [List.append_assoc, List.singleton_append,
      scanFrom_append bounded contextual beginsText 0 none start (Nat.zero_le _),
      scanFrom_append bounded contextual beginsNil 0 none start (Nat.zero_le _),
      scanFrom_gap bounded contextual isGapChar, scanFrom_gap bounded contextual isGapChar,
      scanFrom_blur contextual _ blurs text, ← scanFrom_add, List.append_assoc, Nat.zero_add,
      List.length_append, List.length_singleton]
    rfl

/-- A text between gaps is scanned as on its own. -/
theorem scan_context
    {front back : Str}
    (closes : Ends isGap front)
    (begins : Begins isGap back)
    (text : Str) :
    scan matcher (front ++ (text ++ back)) =
      scan matcher front ++ ((scan matcher text).map (moved front.length) ++
        (scan matcher back).map (moved (front.length + text.length))) := by
  rw [scan_append bounded contextual closes]
  congr 1
  have inner : scan matcher (text ++ back) =
      scan matcher text ++ (scan matcher back).map (moved text.length) := by
    rw [scan, scanFrom_append bounded contextual begins 0 none text (Nat.zero_le _),
      scanFrom_begins bounded contextual begins, Nat.zero_add]
    rfl
  rw [inner, List.map_append, List.map_map]
  congr 1
  refine List.map_congr_left fun found _ => ?_
  simp only [Function.comp_apply, moved, Nat.add_assoc]

end Contextual

/-- A place of a text and the same place of its surroundings. -/
theorem alike_behind
    {front : Str}
    (closes : Ends isGap front)
    (start rest suffix : Str) :
    Alike isGap suffix (behind none start, rest)
      (behind none (front ++ start), rest ++ suffix) := by
  refine ⟨?_, rfl⟩
  unfold behind
  rw [Option.or_none, Option.or_none, List.getLast?_append]
  cases start.getLast? with
  | some c => rfl
  | none => exact (if_pos closes).symm

/-- Where something is found in a text, something is found in its surroundings. -/
theorem exists_scan_context
    (bounded : Bounded matcher)
    (persistent : Persistent isGap matcher)
    {front back : Str}
    (closes : Ends isGap front)
    (begins : Begins isGap back)
    {text : Str}
    {found : (Nat × Nat) × γ}
    (present : found ∈ scan matcher text) :
    ∃ other ∈ scan matcher (front ++ (text ++ back)),
      other.1.1 ≤ front.length + found.1.1 ∧ front.length + found.1.1 < other.1.2 := by
  obtain ⟨start, rest, length, rfl, -, same, fits, isMatch⟩ := mem_scanFrom bounded present
  obtain ⟨other, captured, isOther⟩ :=
    persistent begins (alike_behind closes start rest back) isMatch
  have held : rest ++ back ≠ [] := by
    refine List.append_ne_nil_of_left_ne_nil (fun empty => ?_) _
    rw [empty] at fits
    exact absurd fits (Nat.not_succ_le_zero _)
  obtain ⟨reaching, isReaching, early, late⟩ :=
    @exists_scanFrom γ matcher 0 none 0 (front ++ start) (rest ++ back) _ _ isOther held
      (Nat.zero_le _)
  rw [List.length_append, Nat.zero_add] at early late
  refine ⟨reaching, ?_, ?_, ?_⟩
  · rw [List.append_assoc, ← List.append_assoc front]
    exact isReaching
  · rw [same, Nat.zero_add]
    exact early
  · rw [same, Nat.zero_add]
    exact late

end Scanning

/-! ## Spans of matches -/

/-- A match is a block of the text that is not empty. -/
theorem bounded_of_mem_finditer
    {pattern : Pattern}
    {text : Str}
    {span : Nat × Nat}
    (present : span ∈ finditer pattern text) : span.1 < span.2 ∧ span.2 ≤ text.length := by
  obtain ⟨found, isFound, rfl⟩ := List.mem_map.mp present
  obtain ⟨front, back, length, rfl, -, same, fits, -⟩ :=
    mem_scanFrom (bounded_matcher pattern) isFound
  rw [same, List.length_append]
  dsimp only
  omega

/-- A text between gaps has the matches that it has on its own, and no others. -/
theorem finditer_context
    {pattern : Pattern}
    (blurred : pattern.Blurred isGap)
    (avoids : pattern.Avoids isGap)
    {front back : Str}
    (closes : Ends isGap front)
    (begins : Begins isGap back)
    (text : Str) :
    finditer pattern (front ++ (text ++ back)) =
      finditer pattern front ++ ((finditer pattern text).map (Spans.shift front.length) ++
        (finditer pattern back).map (Spans.shift (front.length + text.length))) := by
  unfold finditer
  rw [scan_context (bounded_matcher pattern) (contextual_matcher blurred avoids) closes begins,
    List.map_append, List.map_append, List.map_map, List.map_map, List.map_map, List.map_map]
  rfl

/-- A match in a text is one in its surroundings. -/
theorem mem_finditer_context
    {pattern : Pattern}
    (blurred : pattern.Blurred isGap)
    (avoids : pattern.Avoids isGap)
    {front back : Str}
    (closes : Ends isGap front)
    (begins : Begins isGap back)
    {text : Str}
    {span : Nat × Nat}
    (present : span ∈ finditer pattern text) :
    Spans.shift front.length span ∈ finditer pattern (front ++ (text ++ back)) := by
  rw [finditer_context blurred avoids closes begins]
  exact List.mem_append_right _ (List.mem_append_left _ (List.mem_map_of_mem present))

end Pattern
end ChatPlatform
