import ChatPlatform.PayloadScan.Secrets

/-!
# Detection among neighbouring words

A finding of a text is one of every text that the text stands in between gaps, but for the
numbers that are found by a checksum: what may be such a number may run on into the
neighbouring words. What a text decodes to is found in its surroundings too.
-/

namespace ChatPlatform
namespace PayloadScan

open Pattern Decoding Spans

section Layers

variable (unicode : Unicode)

/-! ## One layer -/

/-- Whether what may be a number is one among its neighbours as it is on its own. -/
def StandsAlone (front text back : Str) (span : Nat × Nat) : Kind → Prop
  | .cardNumber => shift front.length span ∈
      finditer (cardCandidateRe unicode) (numericView (front ++ (text ++ back)))
  | .iban => shift front.length span ∈
      finditer (ibanCandidateRe unicode) (numericView (front ++ (text ++ back)))
  | _ => True

instance (front text back : Str) (span : Nat × Nat) (kind : Kind) :
    Decidable (StandsAlone unicode front text back span kind) :=
  match kind with
  | .cardNumber | .iban => inferInstanceAs (Decidable (_ ∈ _))
  | .openaiKey | .awsKey | .secretAssignment | .localPath | .email | .phone
  | .opaqueEncodedBlob => inferInstanceAs (Decidable True)

/-- A text has a finding that its neighbours leave alone. -/
def ShowsHere (front text back : Str) : Prop :=
  ∃ kind, ∃ span ∈ spansOf unicode text kind,
    insideSynthetic span (syntheticSpans text) = false ∧
      StandsAlone unicode front text back span kind

/-- A view differs from a text in blanks. -/
private theorem forall₂_numericView (text : Str) :
    List.Forall₂ (fun viewed c => viewed = ' ' ∨ viewed = c) (numericView text) text := by
  have same : (text.zipIdx.map Prod.fst) = text := List.zipIdx_map_fst 0 text
  unfold numericView blankOut
  conv => rhs; rw [← same]
  rw [List.forall₂_map_left_iff, List.forall₂_map_right_iff, List.forall₂_same]
  intro entry _
  split
  · exact Or.inl rfl
  · exact Or.inr rfl

/-- No more digits are viewed than there are. -/
private theorem countP_slice_numericView
    (text : Str)
    (span : Nat × Nat) :
    (slice (numericView text) span).countP unicode.isDigit ≤
      (slice text span).countP unicode.isDigit := by
  have alike : List.Forall₂ (fun viewed c => viewed = ' ' ∨ viewed = c)
      (slice (numericView text) span) (slice text span) :=
    List.forall₂_drop _ (List.forall₂_take _ (forall₂_numericView text))
  generalize slice (numericView text) span = viewed at alike
  generalize slice text span = block at alike
  induction alike with
  | nil => exact le_rfl
  | cons here _ inductionHypothesis =>
      rw [List.countP_cons, List.countP_cons]
      rcases here with rfl | rfl
      · rw [isDigit_gap unicode ' ' rfl]
        exact (Nat.add_le_add_right inductionHypothesis _).trans (Nat.le_add_right _ _)
      · exact Nat.add_le_add_right inductionHypothesis _

/-- A synthetic token has at most eight digits. -/
private theorem countP_token
    {token : Str}
    (takes : syntheticProhibitedRe.Takes token) : token.countP unicode.isDigit ≤ 8 := by
  obtain ⟨front, digits, rfl, isFront, length, -⟩ := parts_of_token takes
  have none : front.countP unicode.isDigit = 0 := by
    rw [List.countP_eq_zero]
    intro c present isDigit
    have plain : c.toNat < 128 ∧ c.isDigit = false := by
      rcases isFront c present with isUpper | rfl
      · have bounds := isAlpha_bounds (c := c) (Text.isAlpha_iff.mpr (.inl isUpper))
        refine ⟨by omega, ?_⟩
        rw [← Bool.not_eq_true]
        intro isDigit
        have other := Numeral.isDigit_bounds isDigit
        omega
      · decide
    rw [Unicode.isDigit, unicode.digit_ascii plain.1, plain.2] at isDigit
    cases isDigit
  rw [List.countP_append, none, Nat.zero_add, ← length]
  exact List.countP_le_length

/-- A telephone number has at least nine digits. -/
private theorem countP_phone
    {taken : Str}
    (takes : (phoneRe unicode).Takes taken) : 9 ≤ taken.countP unicode.isDigit := by
  obtain ⟨_, _, rfl, -, plus, _, rfl, -, _, _, rfl, ⟨first, rfl, isDigit⟩, _, _, rfl,
    ⟨times, more, rfl, isTimes, -⟩, -⟩ := takes
  have each : ∀ {part : Str}, (seq (optional (one fun c => c = ' ' || c = '.' || c = '(' ||
      c = ')' || c = '-')) (one unicode.isDigit)).Takes part →
        1 ≤ part.countP unicode.isDigit := by
    rintro part ⟨gap, _, rfl, -, d, rfl, isDigitChar⟩
    rw [List.countP_append, List.countP_singleton, if_pos isDigitChar]
    exact Nat.le_add_left 1 _
  have several := le_countP_of_takes_times each isTimes
  simp only [List.countP_append, List.countP_singleton, if_pos isDigit]
  omega

private theorem blurred_phoneRe : (phoneRe unicode).Blurred isGap := by
  have refused : ∀ c, isGap c = true → (unicode.isWord c || c = '-') = false := by
    intro c gap
    rw [isWord_gap unicode c gap]
    rcases (isGap_iff c).mp gap with rfl | rfl | rfl <;> decide
  have digit : (seq (optional (one fun c => c = ' ' || c = '.' || c = '(' || c = ')' || c = '-'))
      (one unicode.isDigit)).Blurred isGap := ⟨blurred_optional (blurred_one _), trivial⟩
  exact ⟨blurred_notBehind refused, blurred_optional (blurred_one _), trivial,
    blurred_between digit 8 14, blurred_notAhead refused⟩

/-- No telephone number lies in a synthetic token. -/
private theorem phone_outside
    {text : Str}
    {span : Nat × Nat}
    (present : span ∈ spansOf unicode text .phone) :
    insideSynthetic span (syntheticSpans text) = false := by
  rw [← Bool.not_eq_true, insideSynthetic, List.any_eq_true]
  rintro ⟨token, isToken, inside⟩
  obtain ⟨before, taken, after, isText, rfl, takes⟩ := takes_of_mem_finditer isToken
  obtain ⟨front, number, back, isView, rfl, takesNumber⟩ := takes_of_mem_finditer present
  simp only [Bool.and_eq_true, decide_eq_true_eq] at inside
  obtain ⟨early, late⟩ := inside
  have many := countP_phone unicode takesNumber
  have few := countP_token unicode takes
  have isNumber :
      slice (numericView text) (front.length, front.length + number.length) = number := by
    rw [isView, ← List.append_assoc, slice_append_mid]
  have fewer := countP_slice_numericView unicode text (front.length, front.length + number.length)
  have isTaken : slice text (before.length, before.length + taken.length) = taken := by
    rw [isText, ← List.append_assoc, slice_append_mid]
  have isBlock : slice text (front.length, front.length + number.length) =
      slice taken (front.length - before.length,
        front.length + number.length - before.length) := by
    rw [← isTaken, slice_slice (by dsimp only; omega), shift]
    congr 2 <;> (dsimp only; omega)
  have least : (slice text (front.length, front.length + number.length)).countP unicode.isDigit ≤
      taken.countP unicode.isDigit := by
    rw [isBlock]
    exact List.Sublist.countP_le ((List.drop_sublist _ _).trans (List.take_sublist _ _))
  rw [isNumber] at fewer
  omega

section Surrounded

variable
    {front back : Str}
    (closes : Ends isGap front)
    (begins : Begins isGap back)

include closes begins

/-- A text with a telephone number has one in any surroundings. -/
private theorem phone_surrounded
    {text : Str}
    {span : Nat × Nat}
    (present : span ∈ spansOf unicode text .phone) :
    ∃ other, other ∈ spansOf unicode (front ++ (text ++ back)) .phone := by
  obtain ⟨found, isFound, -⟩ := List.mem_map.mp present
  have takes : 0 < (phoneRe unicode).least := by simp [phoneRe, least]
  obtain ⟨other, isOther, -, -⟩ := exists_scan_context (bounded_matcher _)
    (persistent_matcher (blurred_phoneRe unicode) takes) (ends_numericView closes)
    (begins_numericView begins) isFound
  rw [← numericView_surrounded closes begins] at isOther
  exact ⟨other.1, List.mem_map_of_mem isOther⟩

/-- What stands alone is found in its surroundings. -/
theorem spansOf_surrounded
    {text : Str}
    {kind : Kind}
    {span : Nat × Nat}
    (present : span ∈ spansOf unicode text kind)
    (outside : insideSynthetic span (syntheticSpans text) = false)
    (alone : StandsAlone unicode front text back span kind) :
    ∃ other ∈ spansOf unicode (front ++ (text ++ back)) kind,
      insideSynthetic other (syntheticSpans (front ++ (text ++ back))) = false := by
  have moved : ∀ {pattern : Pattern} {view : Str}, view.length = text.length →
      span ∈ finditer pattern view →
        insideSynthetic (shift front.length span) (syntheticSpans (front ++ (text ++ back))) =
          false := by
    intro pattern view same isMatch
    obtain ⟨held, bounded⟩ := bounded_of_mem_finditer isMatch
    rw [insideSynthetic_surrounded closes begins held (bounded.trans same.le)]
    exact outside
  have apart : ∀ {pattern : Pattern}, Apart pattern → span ∈ finditer pattern text →
      ∃ other ∈ finditer pattern (front ++ (text ++ back)),
        insideSynthetic other (syntheticSpans (front ++ (text ++ back))) = false :=
    fun isApart isMatch => ⟨_, mem_finditer_context isApart.1 isApart.2 closes begins isMatch,
      moved rfl isMatch⟩
  have checked : ∀ {pattern : Pattern} {valid : Str → Bool},
      span ∈ (finditer pattern (numericView text)).filter
        (fun span => valid (slice (numericView text) span)) →
      shift front.length span ∈ finditer pattern (numericView (front ++ (text ++ back))) →
        ∃ other ∈ (finditer pattern (numericView (front ++ (text ++ back)))).filter
          (fun span => valid (slice (numericView (front ++ (text ++ back))) span)),
            insideSynthetic other (syntheticSpans (front ++ (text ++ back))) = false := by
    intro pattern valid isFound isMatch
    obtain ⟨isCandidate, isValid⟩ := List.mem_filter.mp isFound
    have bounded := (bounded_of_mem_finditer isCandidate).2
    refine ⟨_, List.mem_filter.mpr ⟨isMatch, ?_⟩, moved (length_numericView text) isCandidate⟩
    rw [numericView_surrounded closes begins, ← length_numericView front,
      slice_surrounded bounded]
    exact isValid
  cases kind with
  | openaiKey => exact apart (apart_openaiKeyRe unicode) present
  | awsKey => exact apart (apart_awsKeyRe unicode) present
  | secretAssignment =>
      exact secretAssignment_surrounded unicode closes begins present outside
  | localPath => exact apart (apart_localPathRe unicode) present
  | email => exact apart apart_emailRe present
  | phone =>
      obtain ⟨other, isOther⟩ := phone_surrounded unicode closes begins present
      exact ⟨other, isOther, phone_outside unicode isOther⟩
  | cardNumber => exact checked present alone
  | iban => exact checked present alone
  | opaqueEncodedBlob => cases present

end Surrounded

end Layers

end PayloadScan
end ChatPlatform
