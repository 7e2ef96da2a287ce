import ChatPlatform.PayloadScan.Scan

/-!
# A layer among its surroundings

A text that stands between gaps is composed, blanked out and decoded apart from what stands
around it, and its tokens are found where they are.
-/

namespace ChatPlatform
namespace PayloadScan

open Pattern Decoding Spans

/-! ## Gaps -/

/-- The gaps are three characters. -/
theorem isGap_iff (c : Char) : isGap c = true ↔ c = ' ' ∨ c = '\n' ∨ c = '"' := by
  simp [isGap, or_assoc]

/-- What holds of the three gaps holds of every gap. -/
private theorem of_isGap
    {test : Char → Bool}
    (space : test ' ' = false)
    (feed : test '\n' = false)
    (quote : test '"' = false) : ∀ c, isGap c = true → test c = false := by
  intro c gap
  rcases (isGap_iff c).mp gap with rfl | rfl | rfl
  · exact space
  · exact feed
  · exact quote

/-- A pattern of one character takes no gap. -/
private theorem avoids_one
    {test : Char → Bool}
    (space : test ' ' = false)
    (feed : test '\n' = false)
    (quote : test '"' = false) : (one test).Avoids isGap :=
  of_isGap space feed quote

section Tables

variable (unicode : Unicode)

/-- A gap belongs to no word. -/
theorem isWord_gap : ∀ c, isGap c = true → unicode.isWord c = false :=
  of_isGap (by rw [unicode.word_ascii (by decide)]; decide)
    (by rw [unicode.word_ascii (by decide)]; decide)
    (by rw [unicode.word_ascii (by decide)]; decide)

/-- A gap is no digit. -/
theorem isDigit_gap : ∀ c, isGap c = true → unicode.isDigit c = false :=
  of_isGap (by rw [Unicode.isDigit, unicode.digit_ascii (by decide)]; decide)
    (by rw [Unicode.isDigit, unicode.digit_ascii (by decide)]; decide)
    (by rw [Unicode.isDigit, unicode.digit_ascii (by decide)]; decide)

/-! ## Patterns that take no gap -/

/-- A pattern whose matches do not depend on what stands beyond a gap. -/
def Apart (pattern : Pattern) : Prop := pattern.Blurred isGap ∧ pattern.Avoids isGap

theorem apart_openaiKeyRe : Apart (openaiKeyRe unicode) := by
  have word := blurred_wordBoundary (isWord_gap unicode)
  exact ⟨⟨word, blurred_literal _, blurred_atLeast (blurred_one _) Nat.one_pos 20, word⟩,
    trivial, avoids_literal (by decide), avoids_atLeast (avoids_one rfl rfl rfl) 20, trivial⟩

theorem apart_awsKeyRe : Apart (awsKeyRe unicode) := by
  have word := blurred_wordBoundary (isWord_gap unicode)
  exact ⟨⟨word, blurred_literal _, blurred_times (blurred_one _) 16, word⟩,
    trivial, avoids_literal (by decide), avoids_times (avoids_one rfl rfl rfl) 16, trivial⟩

theorem apart_localPathRe : Apart (localPathRe unicode) := by
  have behind : ∀ c, isGap c = true →
      (unicode.isWord c || c = '.' || c = '-') = false := by
    intro c gap
    rw [isWord_gap unicode c gap]
    rcases (isGap_iff c).mp gap with rfl | rfl | rfl <;> decide
  exact ⟨⟨blurred_notBehind behind, trivial, ⟨blurred_literal _, blurred_literal _⟩, trivial,
      blurred_atLeast (blurred_one _) Nat.one_pos 1⟩,
    trivial, avoids_one rfl rfl rfl, ⟨avoids_literal (by decide), avoids_literal (by decide)⟩,
    avoids_one rfl rfl rfl, avoids_atLeast (avoids_one rfl rfl rfl) 1⟩

end Tables

theorem apart_emailRe : Apart emailRe :=
  ⟨⟨blurred_atLeast (blurred_one _) Nat.one_pos 1, trivial,
      blurred_atLeast (blurred_one _) Nat.one_pos 1,
      ⟨⟨trivial, blurred_atLeast (blurred_one _) Nat.one_pos 1⟩, fun _ => by decide⟩, trivial,
      blurred_atLeast (blurred_one _) Nat.one_pos 2⟩,
    avoids_atLeast (avoids_one rfl rfl rfl) 1, avoids_one rfl rfl rfl,
    avoids_atLeast (avoids_one rfl rfl rfl) 1,
    ⟨avoids_one rfl rfl rfl, avoids_atLeast (avoids_one rfl rfl rfl) 1⟩, avoids_one rfl rfl rfl,
    avoids_atLeast (avoids_one rfl rfl rfl) 2⟩

theorem apart_uuidRe : Apart uuidRe := by
  have digit : (one isHexDigit).Avoids isGap := avoids_one rfl rfl rfl
  have digits := avoids_times digit
  have dash : (one fun c => c = '-').Avoids isGap := avoids_one rfl rfl rfl
  exact ⟨⟨blurred_times (blurred_one _) 8, trivial, blurred_times (blurred_one _) 4, trivial,
      blurred_times (blurred_one _) 4, trivial, blurred_times (blurred_one _) 4, trivial,
      blurred_times (blurred_one _) 12⟩,
    digits 8, dash, digits 4, dash, digits 4, dash, digits 4, dash, digits 12⟩

theorem apart_syntheticProhibitedRe : Apart syntheticProhibitedRe :=
  ⟨⟨blurred_literal _, blurred_between (blurred_one _) 3 12, trivial,
      blurred_times (blurred_one _) 8⟩,
    avoids_literal (by decide), avoids_between (avoids_one rfl rfl rfl) 3 12,
    avoids_one rfl rfl rfl, avoids_times (avoids_one rfl rfl rfl) 8⟩

theorem apart_base64CandidateRe : Apart base64CandidateRe :=
  ⟨⟨blurred_atLeast (blurred_one _) Nat.one_pos 16, blurred_between (blurred_one _) 0 2⟩,
    avoids_atLeast (avoids_one rfl rfl rfl) 16, avoids_between (avoids_one rfl rfl rfl) 0 2⟩

theorem apart_percentRe : Apart percentRe :=
  ⟨⟨trivial, blurred_times (blurred_one _) 2⟩, avoids_one rfl rfl rfl,
    avoids_times (avoids_one rfl rfl rfl) 2⟩

/-! ## Readings -/

/-- A reading of texts that reads what stands before and after a gap apart. -/
structure ReadsApart (read : Str → Option Str) : Prop where
  /-- The empty text is read. -/
  nil : read [] = some []
  /-- A gap is kept. -/
  gap : ∀ (front : Str) {gap : Char} (back : Str), isGap gap = true →
    read (front ++ gap :: back) =
      (read front).bind fun first => (read back).map fun second => first ++ gap :: second

namespace ReadsApart

variable
    {read : Str → Option Str}
    (apart : ReadsApart read)

include apart

/-- A gap at the beginning is kept. -/
private theorem cons
    {gap : Char}
    (isGapChar : isGap gap = true)
    (back : Str) : read (gap :: back) = (read back).map (gap :: ·) := by
  have split := apart.gap [] back isGapChar
  rw [apart.nil] at split
  exact split

/-- A gap at the end is kept. -/
private theorem concat
    (front : Str)
    {gap : Char}
    (isGapChar : isGap gap = true) : read (front ++ [gap]) = (read front).map (· ++ [gap]) := by
  rw [apart.gap front [] isGapChar, apart.nil]
  cases read front <;> rfl

/-- What a text that begins with a gap is read as begins with a gap. -/
theorem begins
    {back second : Str}
    (starts : Begins isGap back)
    (isSecond : read back = some second) : Begins isGap second := by
  cases back with
  | nil =>
      rw [apart.nil] at isSecond
      cases isSecond
      exact starts
  | cons gap rest =>
      rw [apart.cons starts] at isSecond
      obtain ⟨later, -, rfl⟩ := Option.map_eq_some_iff.mp isSecond
      exact starts

/-- What a text that ends with a gap is read as ends with a gap. -/
theorem closes
    {front first : Str}
    (stops : Ends isGap front)
    (isFirst : read front = some first) : Ends isGap first := by
  rcases List.eq_nil_or_concat front with rfl | ⟨start, gap, rfl⟩
  · rw [apart.nil] at isFirst
    cases isFirst
    exact stops
  · rw [List.concat_eq_append] at stops isFirst
    have isGapChar : isGap gap = true := by
      rw [Ends, List.getLast?_concat] at stops
      exact stops
    rw [apart.concat start isGapChar] at isFirst
    obtain ⟨earlier, -, rfl⟩ := Option.map_eq_some_iff.mp isFirst
    rw [Ends, List.getLast?_concat]
    exact isGapChar

/-- A text and what follows it after a gap are read apart. -/
private theorem append
    {back : Str}
    (starts : Begins isGap back)
    (text : Str) :
    read (text ++ back) =
      (read text).bind fun middle => (read back).map fun second => middle ++ second := by
  cases back with
  | nil =>
      rw [List.append_nil, apart.nil]
      cases read text with
      | none => rfl
      | some middle => exact congrArg some (List.append_nil middle).symm
  | cons gap rest =>
      rw [apart.gap text rest starts, apart.cons starts]
      cases read text with
      | none => rfl
      | some middle => cases read rest <;> rfl

/-- A text between gaps is read apart from its surroundings. -/
theorem surrounded
    {front back : Str}
    (stops : Ends isGap front)
    (starts : Begins isGap back)
    (text : Str) :
    read (front ++ (text ++ back)) =
      (read front).bind fun first => (read text).bind fun middle =>
        (read back).map fun second => first ++ (middle ++ second) := by
  rcases List.eq_nil_or_concat front with rfl | ⟨start, gap, rfl⟩
  · rw [apart.nil]
    exact apart.append starts text
  · rw [List.concat_eq_append] at stops ⊢
    have isGapChar : isGap gap = true := by
      rw [Ends, List.getLast?_concat] at stops
      exact stops
    rw [List.append_assoc, List.singleton_append, apart.gap start _ isGapChar,
      apart.append starts text, apart.concat start isGapChar]
    cases read start with
    | none => rfl
    | some first =>
        cases read text with
        | none => rfl
        | some middle =>
            cases read back with
            | none => rfl
            | some second => simp

end ReadsApart

/-- Composing reads apart. -/
theorem readsApart_nfkc (unicode : Unicode) : ReadsApart fun text => some (unicode.nfkc text) := by
  constructor
  · exact congrArg some unicode.nfkc_nil
  · intro front gap back isGapChar
    exact congrArg some (unicode.nfkc_gap front back isGapChar)

/-- Undoing percent escapes reads apart. -/
theorem readsApart_unquote : ReadsApart fun text => decodeUtf8 (unquoteToBytes text) := by
  constructor
  · rfl
  · intro front gap back isGapChar
    have plain : gap.toNat < 128 ∧ gap ≠ '%' ∧ hexValue gap = none := by
      rcases (isGap_iff gap).mp isGapChar with rfl | rfl | rfl <;> decide
    obtain ⟨isAscii, noPercent, noDigit⟩ := plain
    have single : encodeChar gap = [gap.toNat] := if_pos isAscii
    rw [unquoteToBytes, unquoteFrom_append noPercent noDigit front back (Nat.zero_le _), single,
      List.append_assoc, List.singleton_append, decodeUtf8,
      decodeFrom_append isAscii _ _ (Nat.zero_le _), Char.ofNat_toNat]
    rfl

/-! ## Blanks -/

/-- Two texts are blanked out apart. -/
private theorem blankOut_append
    {left : Str}
    {first : List (Nat × Nat)}
    (bounded : ∀ span ∈ first, span.2 ≤ left.length)
    (second : List (Nat × Nat))
    (right : Str) :
    blankOut (first ++ second.map (shift left.length)) (left ++ right) =
      blankOut first left ++ blankOut second right := by
  unfold blankOut
  rw [List.zipIdx_append, List.map_append, Nat.zero_add]
  congr 1
  · refine List.map_congr_left fun entry present => ?_
    have early := List.snd_lt_of_mem_zipIdx present
    have same : (second.map (shift left.length)).any (fun span => decide (Within entry.2 span)) =
        false := by
      rw [List.any_map, List.any_eq_false]
      intro span _ within
      have late := (of_decide_eq_true within).1
      dsimp only [shift] at late
      omega
    rw [List.any_append, same, Bool.or_false]
  · have moved : (right.zipIdx 0).map (Prod.map id (· + left.length)) = right.zipIdx left.length :=
      List.map_snd_add_zipIdx_eq_zipIdx
    rw [← moved, List.map_map]
    refine List.map_congr_left fun ⟨c, position⟩ _ => ?_
    have none : first.any (fun span => decide (Within (position + left.length) span)) = false := by
      rw [List.any_eq_false]
      intro span present within
      have early := (of_decide_eq_true within).2
      have bound := bounded span present
      omega
    have same : (second.map (shift left.length)).any
        (fun span => decide (Within (position + left.length) span)) =
          second.any fun span => decide (Within position span) := by
      rw [List.any_map]
      congr 1
      funext span
      refine decide_eq_decide.mpr ?_
      dsimp only [Within, shift]
      omega
    rw [Function.comp_apply, Prod.map_apply, List.any_append, none, same, Bool.false_or, id_eq]

/-- A text that begins with a gap is blanked out to one that does. -/
private theorem begins_blankOut
    (spans : List (Nat × Nat))
    {back : Str}
    (starts : Begins isGap back) : Begins isGap (blankOut spans back) := by
  cases back with
  | nil => exact starts
  | cons gap rest =>
      rw [blankOut, List.zipIdx_cons, List.map_cons]
      show isGap (if _ then ' ' else gap) = true
      split
      · rfl
      · exact starts

/-- A text that ends with a gap is blanked out to one that does. -/
private theorem ends_blankOut
    (spans : List (Nat × Nat))
    {front : Str}
    (stops : Ends isGap front) : Ends isGap (blankOut spans front) := by
  rcases List.eq_nil_or_concat front with rfl | ⟨start, gap, rfl⟩
  · exact stops
  · rw [List.concat_eq_append, Ends, List.getLast?_concat] at stops
    rw [List.concat_eq_append, blankOut, List.zipIdx_append, List.zipIdx_singleton, List.map_append,
      List.map_singleton, Ends, List.getLast?_concat]
    show isGap (if _ then ' ' else gap) = true
    split
    · rfl
    · exact stops

theorem length_blankOut
    (spans : List (Nat × Nat))
    (text : Str) : (blankOut spans text).length = text.length := by
  rw [blankOut, List.length_map, List.length_zipIdx]

theorem length_numericView (text : Str) : (numericView text).length = text.length :=
  length_blankOut _ text

theorem begins_numericView
    {back : Str}
    (starts : Begins isGap back) : Begins isGap (numericView back) :=
  begins_blankOut _ starts

theorem ends_numericView
    {front : Str}
    (stops : Ends isGap front) : Ends isGap (numericView front) :=
  ends_blankOut _ stops

section Surrounded

variable
    {front back : Str}
    (closes : Ends isGap front)
    (begins : Begins isGap back)

include closes begins

/-- A text between gaps is viewed apart from its surroundings. -/
theorem numericView_surrounded (text : Str) :
    numericView (front ++ (text ++ back)) =
      numericView front ++ (numericView text ++ numericView back) := by
  have bounded : ∀ {text : Str}, ∀ span ∈ finditer uuidRe text, span.2 ≤ text.length :=
    fun span present => (bounded_of_mem_finditer present).2
  unfold numericView
  rw [finditer_context apart_uuidRe.1 apart_uuidRe.2 closes begins, ← shift_comp_shift,
    ← List.map_map, ← List.map_append, blankOut_append bounded, blankOut_append bounded]

/-- A span of a text lies in a synthetic token of the surroundings when it lies in one of the
text. -/
theorem insideSynthetic_surrounded
    {text : Str}
    {span : Nat × Nat}
    (held : span.1 < span.2)
    (bounded : span.2 ≤ text.length) :
    insideSynthetic (shift front.length span) (syntheticSpans (front ++ (text ++ back))) =
      insideSynthetic span (syntheticSpans text) := by
  unfold insideSynthetic syntheticSpans
  rw [finditer_context apart_syntheticProhibitedRe.1 apart_syntheticProhibitedRe.2 closes begins,
    List.any_append, List.any_append, List.any_map, List.any_map]
  have early : (finditer syntheticProhibitedRe front).any
      (fun token => token.1 ≤ (shift front.length span).1 &&
        (shift front.length span).2 ≤ token.2) = false := by
    rw [List.any_eq_false]
    intro token present inside
    have bound := (bounded_of_mem_finditer present).2
    have late := of_decide_eq_true (Bool.and_eq_true_iff.mp inside).2
    dsimp only [shift] at late
    omega
  have late : (finditer syntheticProhibitedRe back).any
      ((fun token => token.1 ≤ (shift front.length span).1 &&
        (shift front.length span).2 ≤ token.2) ∘ shift (front.length + text.length)) = false := by
    rw [List.any_eq_false]
    intro token _ inside
    have early := of_decide_eq_true (Bool.and_eq_true_iff.mp inside).1
    dsimp only [shift] at early
    omega
  rw [early, late, Bool.false_or, Bool.or_false]
  congr 1
  funext token
  dsimp only [Function.comp_apply, shift]
  congr 1
  · exact decide_eq_decide.mpr (Nat.add_le_add_iff_left)
  · exact decide_eq_decide.mpr (Nat.add_le_add_iff_left)

omit closes begins in
/-- A block of a text is the same in its surroundings. -/
theorem slice_surrounded
    {text : Str}
    {span : Nat × Nat}
    (bounded : span.2 ≤ text.length) :
    slice (front ++ (text ++ back)) (shift front.length span) = slice text span := by
  rw [slice_append_shift, slice_append_left bounded]

/-- What may be an encoding in a text may be one in its surroundings. -/
theorem candidates_surrounded
    {text : Str}
    {span : Nat × Nat}
    (present : span ∈ candidates text) :
    shift front.length span ∈ candidates (front ++ (text ++ back)) := by
  obtain ⟨isMatch, passes⟩ := List.mem_filter.mp present
  obtain ⟨held, bounded⟩ := bounded_of_mem_finditer isMatch
  refine List.mem_filter.mpr ⟨mem_finditer_context apart_base64CandidateRe.1
    apart_base64CandidateRe.2 closes begins isMatch, ?_⟩
  rw [slice_surrounded bounded, insideSynthetic_surrounded closes begins held bounded]
  exact passes

/-- A percent escape of a text is one of its surroundings. -/
theorem hasPercent_surrounded
    {text : Str}
    (escaped : hasPercent text = true) : hasPercent (front ++ (text ++ back)) = true := by
  rw [hasPercent, Bool.not_eq_true', List.isEmpty_eq_false_iff_exists_mem] at escaped ⊢
  obtain ⟨span, present⟩ := escaped
  exact ⟨_, mem_finditer_context apart_percentRe.1 apart_percentRe.2 closes begins present⟩

end Surrounded

end PayloadScan
end ChatPlatform
