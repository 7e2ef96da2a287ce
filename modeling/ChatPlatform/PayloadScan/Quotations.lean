import ChatPlatform.Foundation.JsonOccurrences
import ChatPlatform.Foundation.JsonWeight
import ChatPlatform.PayloadScan.Nested

/-!
# Detection among words and inside quotation marks

A text among other words is not cleared when it has a finding, unless all its findings are
numbers that run on into the neighbouring words. No number runs on across a quotation mark,
so what shows in the characters that JSON writes for a text shows in every JSON text with the
literal.
-/

namespace ChatPlatform
namespace PayloadScan

open Pattern Decoding Spans

/-! ## Texts among words -/

/-- What stands between words: a space or a line feed. -/
def isWordGap (c : Char) : Bool := c = ' ' || c = '\n'

/-- What stands between words is a gap. -/
private theorem isGap_of_isWordGap {c : Option Char} (gap : c.all isWordGap = true) :
    c.all isGap = true := by
  cases c with
  | none => rfl
  | some c =>
      rw [Option.all_some, isWordGap] at gap
      rw [Option.all_some, isGap, gap, Bool.true_or]

/-- A text that has a finding is not cleared among other words, if some finding of it, in some
layer, is no number or is found at its place among the words, or if all of it exceeds a
limit. -/
theorem alarms_among_words
    (unicode : Unicode)
    {before content after : Str}
    (closes : Ends isWordGap before)
    (begins : Begins isWordGap after)
    (shows : HasFinding unicode content → Shows unicode maxDecodeDepth before content after ∨
      Exceeds unicode (before ++ content ++ after))
    (found : HasFinding unicode content) :
    Alarms (scanText unicode (before ++ content ++ after)) := by
  rcases shows found with shows | exceeds
  · rw [List.append_assoc]
    exact alarms_of_shows unicode (isGap_of_isWordGap closes) (isGap_of_isWordGap begins) shows
  · exact alarms_of_exceeds unicode exceeds

/-- A card number on its own is found. -/
private theorem scanText_card :
    scanText ascii "4111111111111111".toList = .ok [⟨.cardNumber, 0, 0, 16⟩] := by
  decide +kernel

/-- A card number between words is not cleared. -/
theorem alarms_among_words_card :
    Alarms (scanText ascii ("card ".toList ++ "4111111111111111".toList ++ " expired".toList)) :=
  alarms_among_words ascii (by decide) (by decide)
    (fun _ => Or.inl (Or.inl ⟨.cardNumber, (0, 16), by decide +kernel, by decide +kernel,
      by decide +kernel⟩))
    ⟨_, scanText_card, List.cons_ne_nil _ _⟩

/-- A card number before another number is cleared. -/
theorem not_alarms_among_words :
    ¬ ∀ (unicode : Unicode) (before content after : Str), Ends isWordGap before →
      Begins isWordGap after → HasFinding unicode content →
        Alarms (scanText unicode (before ++ content ++ after)) := by
  intro detects
  have cleared : scanText ascii ([] ++ "4111111111111111".toList ++ " 123".toList) = .ok [] := by
    decide +kernel
  exact detects ascii [] _ " 123".toList rfl (by decide)
    ⟨_, scanText_card, List.cons_ne_nil _ _⟩ [] cleared rfl

/-! ## Texts inside quotation marks -/

section Quotations

variable (unicode : Unicode)

/-- A quotation mark. -/
abbrev isQuotation (c : Char) : Bool := c = '"'

/-- Viewing reads apart. -/
theorem readsApart_numericView : ReadsApart fun text => some (numericView text) := by
  constructor
  · rfl
  · intro front gap back isGapChar
    have endsNil : Ends isGap [] := rfl
    have beginsNil : Begins isGap [] := rfl
    have beginsGap : Begins isGap [gap] := isGapChar
    have endsGap : Ends isGap (front ++ [gap]) := by
      rw [Ends, List.getLast?_concat]
      exact isGapChar
    have single : numericView [gap] = [gap] := by
      rcases (isGap_iff gap).mp isGapChar with rfl | rfl | rfl <;> decide
    have none : numericView [] = [] := rfl
    have whole := numericView_surrounded endsGap beginsNil back
    have start := numericView_surrounded endsNil beginsGap front
    rw [List.nil_append, none, List.nil_append, single] at start
    rw [List.append_nil, none, List.append_nil, start, List.append_assoc, List.append_assoc,
      List.singleton_append] at whole
    exact congrArg some whole

/-- Viewing what stands before and after a quotation mark. -/
private theorem numericView_quotation (front back : Str) :
    numericView (front ++ '"' :: back) = numericView front ++ '"' :: numericView back :=
  Option.some.inj (readsApart_numericView.gap front back rfl)

/-- What may be a number does not take a quotation mark. -/
private theorem mem_finditer_quoted
    {pattern : Pattern}
    (blurred : pattern.Blurred isQuotation)
    (avoids : pattern.Avoids isQuotation)
    (opening closing : Str)
    {front text back : Str}
    {span : Nat × Nat}
    (present : shift front.length span ∈
      finditer pattern (numericView (front ++ (text ++ back)))) :
    shift (opening ++ '"' :: front).length span ∈ finditer pattern
      (numericView (opening ++ '"' :: front ++ (text ++ (back ++ '"' :: closing)))) := by
  have ends : Ends isQuotation (numericView opening ++ ['"']) := by
    rw [Ends, List.getLast?_concat]
    rfl
  have begins : Begins isQuotation ('"' :: numericView closing) := rfl
  have moved := mem_finditer_context blurred avoids ends begins present
  have whole : opening ++ '"' :: front ++ (text ++ (back ++ '"' :: closing)) =
      opening ++ '"' :: (front ++ (text ++ back) ++ '"' :: closing) := by
    simp only [List.append_assoc, List.cons_append]
  have place : shift (opening ++ '"' :: front).length span =
      shift (numericView opening ++ ['"']).length (shift front.length span) := by
    simp only [shift, List.length_append, List.length_cons, length_numericView, List.length_nil,
      Prod.mk.injEq]
    omega
  rw [whole, numericView_quotation, numericView_quotation, place]
  rw [List.append_assoc _ ['"'], List.singleton_append] at moved
  exact moved

/-- A test that a quotation mark fails. -/
private theorem of_isQuotation
    {test : Char → Bool}
    (refused : test '"' = false) : ∀ c, isQuotation c = true → test c = false := by
  intro c quotation
  rw [of_decide_eq_true quotation]
  exact refused

private theorem quotation_cardCandidateRe :
    (cardCandidateRe unicode).Blurred isQuotation ∧
      (cardCandidateRe unicode).Avoids isQuotation := by
  have noDigit := of_isQuotation (isDigit_gap unicode '"' rfl)
  have step : (seq (optional (one fun c => c = ' ' || c = '-')) (one unicode.isDigit)).Blurred
      isQuotation := ⟨blurred_optional (blurred_one _), trivial⟩
  have stepAvoids : (seq (optional (one fun c => c = ' ' || c = '-'))
      (one unicode.isDigit)).Avoids isQuotation := ⟨of_isQuotation rfl, noDigit⟩
  exact ⟨⟨blurred_notBehind noDigit, trivial, blurred_between step 12 18, blurred_notAhead noDigit⟩,
    trivial, noDigit, avoids_between stepAvoids 12 18, trivial⟩

private theorem quotation_ibanCandidateRe :
    (ibanCandidateRe unicode).Blurred isQuotation ∧
      (ibanCandidateRe unicode).Avoids isQuotation := by
  have word := blurred_wordBoundary (of_isQuotation (isWord_gap unicode '"' rfl))
  have upper : (one Char.isUpper).Avoids isQuotation := of_isQuotation rfl
  have digit : (one unicode.isDigit).Avoids isQuotation :=
    of_isQuotation (isDigit_gap unicode '"' rfl)
  have step : (seq (optional (one (· = ' '))) (one fun c => c.isUpper || c.isDigit)).Blurred
      isQuotation := ⟨blurred_optional (blurred_one _), trivial⟩
  have stepAvoids : (seq (optional (one (· = ' ')))
      (one fun c => c.isUpper || c.isDigit)).Avoids isQuotation :=
    ⟨of_isQuotation rfl, of_isQuotation rfl⟩
  exact ⟨⟨word, blurred_times (blurred_one _) 2, blurred_times (blurred_one _) 2,
      blurred_between step 11 30, word⟩,
    trivial, avoids_times upper 2, avoids_times digit 2, avoids_between stepAvoids 11 30, trivial⟩

/-- A finding that stands alone in a literal does so in the whole text. -/
private theorem StandsAlone.quoted
    {front text back : Str}
    {span : Nat × Nat}
    {kind : Kind}
    (alone : StandsAlone unicode front text back span kind)
    (opening closing : Str) :
    StandsAlone unicode (opening ++ '"' :: front) text (back ++ '"' :: closing) span kind := by
  cases kind with
  | cardNumber =>
      obtain ⟨blurred, avoids⟩ := quotation_cardCandidateRe unicode
      exact mem_finditer_quoted blurred avoids opening closing alone
  | iban =>
      obtain ⟨blurred, avoids⟩ := quotation_ibanCandidateRe unicode
      exact mem_finditer_quoted blurred avoids opening closing alone
  | _ => trivial

/-- What shows in a layer of a literal shows in the layer. -/
private theorem ShowsHere.quoted
    {front text back : Str}
    (shows : ShowsHere unicode front text back)
    (opening closing : Str) :
    ShowsHere unicode (opening ++ '"' :: front) text (back ++ '"' :: closing) := by
  obtain ⟨kind, span, present, outside, alone⟩ := shows
  exact ⟨kind, span, present, outside, alone.quoted unicode opening closing⟩

/-- What shows in a literal shows in the whole text. -/
theorem Shows.quoted
    {levels : Nat}
    {front text back : Str}
    (shows : Shows unicode levels front text back)
    (opening closing : Str) :
    Shows unicode levels (opening ++ '"' :: front) text (back ++ '"' :: closing) := by
  have quotation : isGap '"' = true := rfl
  induction levels generalizing front text back opening closing with
  | zero =>
      rcases shows with here | deep
      · refine Or.inl ?_
        rw [unicode.nfkc_gap _ _ quotation, unicode.nfkc_gap _ _ quotation]
        exact here.quoted unicode _ _
      · exact Or.inr deep
  | succ levels inductionHypothesis =>
      unfold Shows
      rw [unicode.nfkc_gap _ _ quotation, unicode.nfkc_gap _ _ quotation]
      rcases shows with here | ⟨escaped, deeper⟩ | encoded
      · exact Or.inl (here.quoted unicode _ _)
      · refine Or.inr (Or.inl ⟨escaped, fun isFirst isMiddle isLast => ?_⟩)
        rw [readsApart_unquote.gap _ _ quotation] at isFirst isLast
        obtain ⟨early, -, isFirst⟩ := Option.bind_eq_some_iff.mp isFirst
        obtain ⟨innerFront, isFront, rfl⟩ := Option.map_eq_some_iff.mp isFirst
        obtain ⟨innerBack, isBack, isLast⟩ := Option.bind_eq_some_iff.mp isLast
        obtain ⟨late, -, rfl⟩ := Option.map_eq_some_iff.mp isLast
        exact inductionHypothesis (deeper isFront isMiddle isBack) early late
      · exact Or.inr (Or.inr encoded)

end Quotations

/-! ## String literals -/

/-- The characters that JSON writes for a text. -/
def written (content : Str) : Str := content.flatMap (Json.escapeChar Json.compact)

/-- Some words of what JSON writes for a text show among the others. -/
def ShowsRendered (unicode : Unicode) (content : Str) : Prop :=
  ∃ before part after, written content = before ++ (part ++ after) ∧ Ends isGap before ∧
    Begins isGap after ∧ Shows unicode maxDecodeDepth before part after

/-- What JSON writes for a text shows when it has a finding. -/
theorem showsRendered_of_written
    {unicode : Unicode}
    {content : Str}
    (found : HasFinding unicode (written content)) : ShowsRendered unicode content := by
  obtain ⟨findings, scanned, held⟩ := found
  obtain ⟨finding, rest, rfl⟩ := List.exists_cons_of_ne_nil held
  refine ⟨[], written content, [], (List.append_nil _).symm, rfl, rfl, ?_⟩
  exact shows_of_scanText unicode scanned List.mem_cons_self (Or.inr ⟨rfl, rfl⟩)

/-- A text that shows is not cleared in any JSON text with its literal. -/
theorem alarms_of_showsRendered
    {unicode : Unicode}
    {content rendered : Str}
    (shows : ShowsRendered unicode content)
    (literal : Json.quote Json.compact content <:+: rendered) :
    Alarms (scanText unicode rendered) := by
  obtain ⟨before, part, after, isWritten, closes, begins, shows⟩ := shows
  obtain ⟨opening, closing, rfl⟩ := literal
  have closesWritten : Ends isGap (opening ++ '"' :: before) := by
    rcases List.eq_nil_or_concat before with rfl | ⟨start, c, rfl⟩
    · rw [Ends, List.getLast?_concat]
      rfl
    · rw [List.concat_eq_append, Ends, List.getLast?_concat] at closes
      rw [List.concat_eq_append, ← List.cons_append, ← List.append_assoc, Ends,
        List.getLast?_concat]
      exact closes
  have beginsWritten : Begins isGap (after ++ '"' :: closing) := by
    cases after with
    | nil => rfl
    | cons c rest => exact begins
  have whole : opening ++ Json.quote Json.compact content ++ closing =
      (opening ++ '"' :: before) ++ (part ++ (after ++ '"' :: closing)) := by
    rw [Json.quote, ← written, isWritten]
    simp only [List.append_assoc, List.cons_append, List.nil_append]
  rw [whole]
  exact alarms_of_shows unicode closesWritten beginsWritten
    (shows.quoted unicode opening closing)

end PayloadScan
end ChatPlatform
