import ChatPlatform.Foundation.Blanking
import ChatPlatform.Foundation.Numeral
import ChatPlatform.Foundation.Words
import ChatPlatform.PayloadScan.Patterns
import Mathlib.Data.List.Find
import Mathlib.Data.List.Sort

/-!
# The honesty sweep

The sweep looks for forbidden phrases near every mention of the marker, in a text in which the
premise, short sentences that deny something and phrases in code spans are masked. What is
masked is blanked in place, but the gaps between sentences are narrowed to one blank, and a
window that is cut out of the text ends words that go on. The sweep reports every phrase that
stands alone near a mention, and others only where one of these effects is met.
-/

namespace ChatPlatform
namespace Honesty

open Text Blanking
open PayloadScan (foldsTo)

/-! ## The lists -/

/-- The phrases that claim too much. -/
def forbidden : List Str :=
  ["validated".toList, "validates".toList, "validation".toList, "confirmed".toList,
    "confirms".toList, "confirmatory".toList, "proven".toList, "proves".toList,
    "demonstrated".toList, "established".toList, "verified effective".toList,
    "shown to work".toList, "evidence that it works".toList]

/-- The premise. -/
def premise : Str :=
  ("E-BM25 is being integrated for controlled production evaluation under " ++
    "uncertainty, not because it has been scientifically confirmed.").toList

/-- What the sweep looks around. -/
def marker : Str := "E-BM25".toList

/-- The words that deny something. -/
def negators : List Str := ["not".toList, "no".toList, "never".toList, "cannot".toList]

/-- A phrase of lists of what is not to be done. -/
def presentation : Str := "any presentation of this integration as".toList

/-- The phrases that are looked for in sentences that deny something. -/
def forbiddenStyle : List Str := forbidden ++ ["confirmatory validation".toList]

/-- The longest sentence that may be masked. -/
def maxNegationSpan : Nat := 1000

/-- How far a phrase may stand from the marker. -/
def reach : Nat := 80

/-- The mark of code spans. -/
def codeMark : Char := Char.ofNat 96

/-! ## Masking -/

/-- A sentence that ends, and not with an ellipsis. -/
def endsSentence (sentence : Str) : Bool :=
  sentence.getLast?.any isStop && !(['.', '.'].isSuffixOf sentence)

/-- The sentences of a text, each with the gap after it, after a sentence and a gap that are in
progress. -/
def segmentsFrom (sentence gap : Str) : Str → List (Str × Str)
  | [] => if gap = [] then [(sentence, [])] else [(sentence, gap), ([], [])]
  | c :: rest =>
      if gap ≠ [] then
        if isSpace c then segmentsFrom sentence (gap ++ [c]) rest
        else (sentence, gap) :: segmentsFrom [c] [] rest
      else if isSpace c && endsSentence sentence then segmentsFrom sentence [c] rest
      else segmentsFrom (sentence ++ [c]) [] rest

/-- The sentences of a text with the gaps after them. -/
def segments (text : Str) : List (Str × Str) := segmentsFrom [] [] text

/-- The sentences of a text. -/
def sentences (text : Str) : List Str := (segments text).map (·.1)

/-- The length of a forbidden phrase in a code span at the front of a text. -/
def backtickToken (text : Str) : Option Nat :=
  (forbidden.find? fun phrase =>
    begins foldsTo (codeMark :: phrase ++ [codeMark]) text).map fun phrase => phrase.length + 2

section Sweep

variable (isWord : Char → Bool)

/-- A change between characters of words and others. -/
def boundary (before after : Option Char) : Bool := before.any isWord != after.any isWord

/-- Whether a denial stands at the front of a text. -/
def isNegator (before : Option Char) (text : Str) : Bool :=
  negators.any (fun negator =>
    boundary isWord before text.head? && begins foldsTo negator text &&
      boundary isWord text[negator.length - 1]? text[negator.length]?) ||
    begins foldsTo presentation text

/-- Whether one of the phrases stands at the front of a text. -/
def isForbiddenStyle (_ : Option Char) (text : Str) : Bool :=
  forbiddenStyle.any fun phrase => begins foldsTo phrase text

/-- A sentence that mentions the marker, a denial and a phrase. -/
def isNegationSentence (sentence : Str) : Bool :=
  contains marker sentence && somewhere (isNegator isWord) none sentence &&
    somewhere isForbiddenStyle none sentence

/-- A sentence, or blanks in its place. -/
def pardon (sentence : Str) : Str :=
  if isNegationSentence isWord sentence && decide (sentence.length ≤ maxNegationSpan) then
    blanks sentence.length
  else sentence

/-- The text that is swept. -/
def maskExceptions (text : Str) : Str :=
  let text := replace premise (blanks premise.length) text
  let text := join [' '] ((sentences text).map (pardon isWord))
  substitute backtickToken (fun found => blanks found.length) text

/-! ## Findings -/

/-- The part of a text around a mention that starts at some place. -/
def window (masked : Str) (start : Nat) : Str :=
  (masked.take (min masked.length (start + marker.length + reach))).drop (start - reach)

/-- The phrases that are reported for a mention. -/
def reported (masked : Str) (start : Nat) : List Str :=
  forbidden.filter fun phrase =>
    somewhere (standsAlone isWord foldsTo phrase) none (window masked start)

/-- The text of a finding. -/
def message (source phrase window : Str) : Str :=
  source ++ ": '".toList ++ phrase ++ "' near: ...".toList ++ collapse window ++ "...".toList

/-- The findings in a text. -/
def findings (text source : Str) : List Str :=
  let masked := maskExceptions isWord text
  (starts marker masked).flatMap fun start =>
    (reported isWord masked start).map fun phrase =>
      message source phrase (window masked start)

/-! ## What is to be reported -/

/-- The sentences with what is masked in them, and the gaps after them. -/
def maskedSegments (text : Str) : List (Str × Str) :=
  (segments (replace premise (blanks premise.length) text)).map fun segment =>
    (substitute backtickToken (fun found => blanks found.length) (pardon isWord segment.1),
      segment.2)

/-- The text with the exceptions blanked in place. -/
def blanked (text : Str) : Str := loose (maskedSegments isWord text)

/-- Where a place goes in the text that is swept. -/
def narrowed (text : Str) (i : Nat) : Nat := place (maskedSegments isWord text) i

/-- No exception reaches into a part of the text. -/
def Untouched (text : Str) (i count : Nat) : Prop :=
  ((blanked isWord text).drop i).take count = (text.drop i).take count

instance (text : Str) (i count : Nat) : Decidable (Untouched isWord text i count) :=
  inferInstanceAs (Decidable (_ = _))

/-- The mentions of the marker outside the exceptions. -/
def mentions (text : Str) : List Nat :=
  (starts marker text).filter fun start => Untouched isWord text start marker.length

/-- A phrase stands at a place outside the exceptions. -/
structure Stands (text phrase : Str) (i : Nat) : Prop where
  /-- It is the phrase but for its case. -/
  here : begins foldsTo phrase (text.drop i) = true
  /-- It is outside the exceptions. -/
  untouched : Untouched isWord text i phrase.length

/-- A phrase stands alone within reach of a mention. -/
structure Genuine (text phrase : Str) (start i : Nat) : Prop extends
    Stands isWord text phrase i where
  /-- No word goes on before it. -/
  before : (precursor text i).any isWord = false
  /-- No word goes on after it. -/
  after : text[i + phrase.length]?.any isWord = false
  /-- It stands before or after the mention, and not too far away. -/
  near : start ≤ i + reach ∧ i + phrase.length ≤ start ∨
    start + marker.length ≤ i ∧ i + phrase.length ≤ start + marker.length + reach

/-- A phrase is cut out of the narrowed text with the window around a mention. -/
structure Seen (text phrase : Str) (start i : Nat) : Prop extends
    Stands isWord text phrase i where
  /-- It starts in the window. -/
  starts : narrowed isWord text start ≤ narrowed isWord text i + reach
  /-- It ends in the window. -/
  ends : narrowed isWord text i + phrase.length ≤
    narrowed isWord text start + marker.length + reach
  /-- It starts where the window does, or no word goes on before it. -/
  before : narrowed isWord text i + reach = narrowed isWord text start ∨
    (precursor (blanked isWord text) i).any isWord = false
  /-- It ends where the window does, or no word goes on after it. -/
  after : narrowed isWord text i + phrase.length =
      narrowed isWord text start + marker.length + reach ∨
    (blanked isWord text)[i + phrase.length]?.any isWord = false

/-- The window ends a word that goes on. -/
def CutsWord (text phrase : Str) (start i : Nat) : Prop :=
  narrowed isWord text i + reach = narrowed isWord text start ∧
      (precursor text i).any isWord = true ∨
    narrowed isWord text i + phrase.length =
        narrowed isWord text start + marker.length + reach ∧
      text[i + phrase.length]?.any isWord = true

/-- The phrase is too far away, before the gaps are narrowed. -/
def Distant (phrase : Str) (start i : Nat) : Prop :=
  i + reach < start ∨ start + marker.length + reach < i + phrase.length

/-- An exception begins or ends in the middle of a word. -/
def MasksWord (text phrase : Str) (i : Nat) : Prop :=
  (precursor text i).any isWord = true ∧ (precursor (blanked isWord text) i).any isWord = false ∨
    text[i + phrase.length]?.any isWord = true ∧
      (blanked isWord text)[i + phrase.length]?.any isWord = false

/-- The phrase and the mention share a letter. -/
def Overlaps (phrase : Str) (start i : Nat) : Prop :=
  i < start + marker.length ∧ start < i + phrase.length

/-- A phrase is seen in one of the four ways that are none to be reported. -/
structure Mistaken (text phrase : Str) (start i : Nat) : Prop extends
    Seen isWord text phrase start i where
  /-- One of the effects of windows and masks. -/
  effect : CutsWord isWord text phrase start i ∨ Distant phrase start i ∨
    MasksWord isWord text phrase i ∨ Overlaps phrase start i

/-- The sweep reports a phrase for a mention exactly when it stands alone within reach. -/
structure Exact (text : Str) : Prop where
  /-- The findings are those for the mentions outside the exceptions. -/
  mentioned : ∀ source, findings isWord text source =
    (mentions isWord text).flatMap fun start =>
      (reported isWord (maskExceptions isWord text) (narrowed isWord text start)).map fun phrase =>
        message source phrase
          (window (maskExceptions isWord text) (narrowed isWord text start))
  /-- The phrases are those that stand alone within reach. -/
  phrases : ∀ start ∈ mentions isWord text, ∀ phrase ∈ forbidden,
    phrase ∈ reported isWord (maskExceptions isWord text) (narrowed isWord text start) ↔
      ∃ i, Genuine isWord text phrase start i

/-- Where a phrase is mistaken for one that is to be reported, one that is stands there too. -/
def Harmless (text : Str) : Prop :=
  ∀ start ∈ mentions isWord text, ∀ phrase ∈ forbidden,
    (∃ i, Mistaken isWord text phrase start i) → ∃ i, Genuine isWord text phrase start i

end Sweep

/-! ## Letters and lists -/

/-- A letter in any case is no gap and ends no sentence. -/
theorem plain_foldsTo : Plain foldsTo := by
  intro w c folds closing
  have bounds : c.toNat < 65 ∨ 122 < c.toNat ∧ c.toNat ≠ 0x17F ∧ c.toNat ≠ 0x212A ∧
      c.toNat ≠ 0x130 ∧ c.toNat ≠ 0x131 := by
    rcases closing with space | stop
    · simp only [isSpace, Bool.or_eq_true, Bool.and_eq_true, decide_eq_true_eq, beq_iff_eq]
        at space
      omega
    · simp only [isStop, Bool.or_eq_true, decide_eq_true_eq] at stop
      rcases stop with (rfl | rfl) | rfl
      · decide
      · decide
      · decide
  have unchanged : c.toLower = c := by
    unfold Char.toLower
    split
    case isTrue upper =>
      simp only [ge_iff_le, UInt32.le_iff_toNat_le] at upper
      have low : 65 ≤ c.toNat := upper.1
      have high : c.toNat ≤ 90 := upper.2
      omega
    case isFalse => rfl
  simp only [foldsTo, Bool.or_eq_true, Bool.and_eq_true, decide_eq_true_eq, unchanged] at folds
  rcases folds with ((same | ⟨-, isLong⟩) | ⟨-, isKelvin⟩) | ⟨-, isDotted | isDotless⟩
  · exact same.symm
  · omega
  · omega
  · omega
  · omega

/-- A character is itself. -/
theorem plain_exact : Plain fun w c => w == c := fun _ _ alike _ => beq_iff_eq.mp alike

/-- The marker is one word. -/
theorem solid_marker : Solid marker := of_codePoints Solid (by decide)

/-- No phrase has what ends a sentence. -/
theorem solid_forbidden : ∀ phrase ∈ forbidden, Solid phrase := by
  simp only [forbidden, List.forall_mem_cons]
  refine ⟨?_, ?_, ?_, ?_, ?_, ?_, ?_, ?_, ?_, ?_, ?_, ?_, ?_, nofun⟩ <;>
    exact of_codePoints Solid (by decide)

/-- Every phrase is within reach. -/
theorem length_forbidden : ∀ phrase ∈ forbidden, phrase.length ≤ reach := by
  simp only [forbidden, List.forall_mem_cons]
  refine ⟨?_, ?_, ?_, ?_, ?_, ?_, ?_, ?_, ?_, ?_, ?_, ?_, ?_, nofun⟩ <;>
    exact of_codePoints (fun phrase => phrase.length ≤ reach) (by decide)

/-- The premise is long. -/
theorem length_premise : 100 ≤ premise.length := by
  have joined : premise = _ ++ _ := String.toList_append
  have both : ∀ front back : Str, 50 ≤ front.length → 50 ≤ back.length →
      100 ≤ (front ++ back).length := by
    intro front back frontLong backLong
    rw [List.length_append]
    omega
  rw [joined]
  exact both _ _ (of_codePoints (fun front => 50 ≤ front.length) (by decide))
    (of_codePoints (fun back => 50 ≤ back.length) (by decide))

/-! ## Sentences and gaps -/

/-- The pieces of a text are not none. -/
private theorem Segmented.ne_nil
    {closing : Char → Bool}
    {segments : List (Str × Str)}
    (segmented : Segmented closing segments) : segments ≠ [] := by
  cases segmented with
  | last piece => exact List.cons_ne_nil _ _
  | cons ends closes nonempty spaces others => exact List.cons_ne_nil _ _

/-- A sentence that ends may stand in front of others. -/
private theorem segmented_cons
    {sentence gap : Str}
    {rest : List (Str × Str)}
    (ends : endsSentence sentence = true)
    (nonempty : gap ≠ [])
    (spaces : ∀ c ∈ gap, isSpace c = true)
    (others : Segmented isStop rest) : Segmented isStop ((sentence, gap) :: rest) := by
  unfold endsSentence at ends
  cases isLast : sentence.getLast? with
  | none =>
      rw [isLast] at ends
      cases ends
  | some last =>
      rw [isLast, Option.any_some, Bool.and_eq_true] at ends
      obtain ⟨next, rest, rfl⟩ := List.exists_cons_of_ne_nil (Segmented.ne_nil others)
      exact .cons isLast ends.1 nonempty spaces others

/-- The sentences and gaps that follow make up the text, and each gap follows a sentence. -/
private theorem segmentsFrom_spec
    (sentence gap text : Str)
    (follows : gap = [] ∨ endsSentence sentence = true ∧ ∀ c ∈ gap, isSpace c = true) :
    Segmented isStop (segmentsFrom sentence gap text) ∧
      loose (segmentsFrom sentence gap text) = sentence ++ (gap ++ text) := by
  induction text generalizing sentence gap with
  | nil =>
      rw [segmentsFrom]
      split
      case isTrue noGap =>
        rw [noGap]
        exact ⟨.last sentence, by simp [loose]⟩
      case isFalse someGap =>
        obtain ⟨ends, spaces⟩ := follows.resolve_left someGap
        exact ⟨segmented_cons ends someGap spaces (.last []), by simp [loose]⟩
  | cons c rest inductionHypothesis =>
      rw [segmentsFrom]
      split
      case isTrue someGap =>
        obtain ⟨ends, spaces⟩ := follows.resolve_left someGap
        split
        case isTrue space =>
          have wider : ∀ d ∈ gap ++ [c], isSpace d = true :=
            List.forall_mem_append.mpr ⟨spaces, List.forall_mem_singleton.mpr space⟩
          obtain ⟨segmented, whole⟩ := inductionHypothesis sentence (gap ++ [c])
            (Or.inr ⟨ends, wider⟩)
          exact ⟨segmented, by rw [whole, List.append_assoc]; rfl⟩
        case isFalse noSpace =>
          obtain ⟨segmented, whole⟩ := inductionHypothesis [c] [] (Or.inl rfl)
          refine ⟨segmented_cons ends someGap spaces segmented, ?_⟩
          rw [loose_cons, whole]
          rfl
      case isFalse noGap =>
        have empty : gap = [] := not_not.mp noGap
        split
        case isTrue starts =>
          obtain ⟨space, ends⟩ := Bool.and_eq_true_iff.mp starts
          obtain ⟨segmented, whole⟩ := inductionHypothesis sentence [c]
            (Or.inr ⟨ends, List.forall_mem_singleton.mpr space⟩)
          exact ⟨segmented, by rw [whole, empty]; rfl⟩
        case isFalse =>
          obtain ⟨segmented, whole⟩ := inductionHypothesis (sentence ++ [c]) [] (Or.inl rfl)
          exact ⟨segmented, by rw [whole, empty, List.append_assoc]; rfl⟩

/-- A text is cut into sentences and the gaps after them. -/
theorem segments_spec (text : Str) :
    Segmented isStop (segments text) ∧ loose (segments text) = text :=
  segmentsFrom_spec [] [] text (Or.inl rfl)

/-! ## Masks -/

/-- A code span is of two characters or more, and in the text. -/
private theorem backtickToken_fits
    (text : Str)
    (count : Nat)
    (found : backtickToken text = some count) : 2 ≤ count ∧ count ≤ text.length := by
  unfold backtickToken at found
  obtain ⟨phrase, isPhrase, rfl⟩ := Option.map_eq_some_iff.mp found
  have stands := List.find?_some isPhrase
  change begins foldsTo (codeMark :: (phrase ++ [codeMark])) (text.drop 0) = true at stands
  have fits := length_le_of_begins (List.cons_ne_nil _ _) stands
  rw [List.length_cons, List.length_append, List.length_singleton] at fits
  exact ⟨Nat.le_add_left 2 _, by omega⟩

/-- A text in which code spans are masked is blanked in parts. -/
private theorem blanked_tokens (text : Str) :
    Blanked text (substitute backtickToken (fun found => blanks found.length) text) := by
  refine blanked_substitute backtickToken_fits (fun text count found => ?_) text
  rw [List.length_take_of_le (backtickToken_fits text count found).2]

section Masks

variable {isWord : Char → Bool}

/-- A text is as long as what it contains. -/
private theorem length_le_of_contains
    {needle text : Str}
    (found : contains needle text = true) : needle.length ≤ text.length := by
  induction text with
  | nil => rw [List.isEmpty_iff.mp found]
  | cons c rest inductionHypothesis =>
      rw [contains, Bool.or_eq_true] at found
      rcases found with here | later
      · exact (List.isPrefixOf_iff_prefix.mp here).length_le
      · exact Nat.le_succ_of_le (inductionHypothesis later)

/-- A sentence that mentions the marker is long enough to be blanked. -/
private theorem two_le_of_isNegationSentence
    {sentence : Str}
    (denies : isNegationSentence isWord sentence = true) : 2 ≤ sentence.length := by
  simp only [isNegationSentence, Bool.and_eq_true] at denies
  have long : 2 ≤ marker.length := of_codePoints (fun marker => 2 ≤ marker.length) (by decide)
  exact Nat.le_trans long (length_le_of_contains denies.1.1)

/-- A sentence that is masked is blanked. -/
private theorem blanked_pardon
    (isWord : Char → Bool)
    (sentence : Str) : Blanked sentence (pardon isWord sentence) := by
  unfold pardon
  split
  case isTrue denies =>
    exact Blanked.blankAll (two_le_of_isNegationSentence (Bool.and_eq_true_iff.mp denies).1)
  case isFalse => exact Blanked.refl sentence

/-- A code span does not run over the end of a sentence, masked or not. -/
private theorem backtickToken_apart
    (sentence : Str)
    (last : Char)
    (ends : sentence.getLast? = some last)
    (stops : isStop last = true)
    (k : Nat)
    (inside : k < (pardon isWord sentence).length)
    (rest : Str) :
    backtickToken ((pardon isWord sentence).drop k ++ ' ' :: rest) =
      backtickToken ((pardon isWord sentence).drop k) := by
  unfold pardon at inside ⊢
  split at inside
  case isTrue denies =>
    rw [if_pos denies, blanks, List.drop_replicate]
    rw [blanks, List.length_replicate] at inside
    obtain ⟨more, isMore⟩ : ∃ more, sentence.length - k = more + 1 :=
      ⟨sentence.length - k - 1, by omega⟩
    rw [isMore, List.replicate_succ]
    rfl
  case isFalse admits =>
    rw [if_neg admits]
    have endsPart : (sentence.drop k).getLast? = some last := by
      rw [List.getLast?_drop, if_neg (Nat.not_le.mpr inside), ends]
    have refused : ∀ phrase ∈ forbidden, ∀ w ∈ codeMark :: phrase ++ [codeMark],
        foldsTo w last = false := by
      intro phrase isPhrase w held
      refine Bool.eq_false_iff.mpr fun folds => ?_
      have same := plain_foldsTo w last folds (Or.inr stops)
      have noStop : isStop w = false := by
        rw [List.cons_append, List.mem_cons, List.mem_append, List.mem_singleton] at held
        rcases held with rfl | inPhrase | rfl
        · decide
        · exact ((solid_forbidden phrase isPhrase).ordinary w inPhrase).1
        · decide
      rw [same, stops] at noStop
      cases noStop
    unfold backtickToken
    refine congrArg (Option.map _) (List.find?_congr fun phrase isPhrase => ?_)
    exact begins_append endsPart (refused phrase isPhrase) _

/-- The text that is swept has the masked sentences with one blank in each gap. -/
theorem maskExceptions_eq (text : Str) :
    maskExceptions isWord text = tight (maskedSegments isWord text) := by
  have joined : ∀ found : List (Str × Str),
      join [' '] ((found.map (·.1)).map (pardon isWord)) =
        tight (found.map fun segment => (pardon isWord segment.1, segment.2)) := by
    intro found
    rw [tight, List.map_map, List.map_map]
    rfl
  unfold maskExceptions maskedSegments sentences
  dsimp only
  rw [joined]
  exact (segments_spec _).1.substitute_tight (fun text count found =>
    (backtickToken_fits text count found).2) (fun rest => rfl) backtickToken_apart

/-- The masked sentences are pieces of the text. -/
theorem segmented_masked
    (isWord : Char → Bool)
    (text : Str) : Segmented isClosing (maskedSegments isWord text) := by
  refine (segments_spec _).1.map (fun sentence =>
    substitute backtickToken (fun found => blanks found.length) (pardon isWord sentence))
      fun sentence last ends stops => ?_
  have positive : 0 < sentence.length := by
    cases sentence with
    | nil => cases ends
    | cons c rest => exact Nat.succ_pos _
  have faded := (blanked_pardon isWord sentence).faded.trans
    (blanked_tokens (pardon isWord sentence)).faded
  rw [List.getLast?_eq_getElem?] at ends ⊢
  rw [faded.length]
  rcases faded.place (sentence.length - 1) with same | ⟨isBlank, -⟩
  · exact ⟨last, same.trans ends, by rw [isClosing, stops, Bool.true_or]⟩
  · exact ⟨' ', isBlank, by decide⟩

/-- The exceptions are blanked in place. -/
theorem faded_blanked
    (isWord : Char → Bool)
    (text : Str) : Faded text (blanked isWord text) := by
  have premiseBlanked : Blanked text (replace premise (blanks premise.length) text) := by
    have long : 2 ≤ premise.length := Nat.le_trans (by decide) length_premise
    have nonempty : premise ≠ [] := List.ne_nil_of_length_pos (by omega)
    rw [replace_eq_substitute nonempty]
    refine blanked_substitute (fun text count found => ?_) (fun text count found => ?_) text
    · unfold literalMatcher at found
      split at found
      case isTrue occurs =>
        rw [← Option.some.inj found]
        exact ⟨long, (List.isPrefixOf_iff_prefix.mp occurs).length_le⟩
      case isFalse => cases found
    · unfold literalMatcher at found
      split at found
      case isTrue => rw [Option.some.inj found]
      case isFalse => cases found
  have whole := (segments_spec (replace premise (blanks premise.length) text)).2
  have pardoned := blanked_loose (segments (replace premise (blanks premise.length) text))
    (blanked_pardon isWord)
  have spanned := blanked_loose ((segments (replace premise (blanks premise.length) text)).map
    fun segment => (pardon isWord segment.1, segment.2)) blanked_tokens
  rw [whole] at pardoned
  rw [List.map_map] at spanned
  exact (premiseBlanked.faded.trans pardoned.faded).trans spanned.faded

/-! ## What is reported -/

/-- A word stands in the blanked text where it stands in the text outside the exceptions. -/
private theorem begins_blanked_iff
    {same : Char → Char → Bool}
    {word text : Str}
    (plain : Plain same)
    (solid : Solid word)
    (i : Nat) :
    begins same word ((blanked isWord text).drop i) = true ↔
      begins same word (text.drop i) = true ∧ Untouched isWord text i word.length := by
  constructor
  · intro stands
    have unchanged := (faded_blanked isWord text).unchanged plain solid stands
    exact ⟨begins_congr unchanged ▸ stands, unchanged⟩
  · rintro ⟨stands, unchanged⟩
    rw [begins_congr unchanged]
    exact stands

/-- The mentions are where the marker stands in the blanked text. -/
private theorem mem_mentions
    {text : Str}
    {start : Nat} :
    start ∈ mentions isWord text ↔
      begins (fun w c => w == c) marker ((blanked isWord text).drop start) = true := by
  have once : 'E' ∉ "-BM25".toList := by decide
  rw [begins_blanked_iff plain_exact solid_marker, begins_eq_isPrefixOf, mentions,
    List.mem_filter, decide_eq_true_eq]
  exact and_congr_left fun _ => mem_starts once

/-- The mentions in the text that is swept are those outside the exceptions. -/
theorem starts_maskExceptions (text : Str) :
    starts marker (maskExceptions isWord text) =
      (mentions isWord text).map (narrowed isWord text) := by
  have segmented := segmented_masked isWord text
  have once : 'E' ∉ "-BM25".toList := by decide
  have sorted : ((mentions isWord text).map (narrowed isWord text)).Pairwise (· < ·) := by
    rw [List.pairwise_map]
    refine ((sorted_starts text).filter _).imp_of_mem fun {i k} isMention _ later => ?_
    exact segmented.place_lt plain_exact solid_marker (mem_mentions.mp isMention) later
  refine (sorted_starts _).eq_of_mem_iff sorted fun j => ?_
  rw [maskExceptions_eq]
  refine (mem_starts once).trans ?_
  rw [List.mem_map]
  constructor
  · intro occurs
    rw [← begins_eq_isPrefixOf] at occurs
    obtain ⟨i, stands, isPlace⟩ := segmented.exists_place plain_exact solid_marker occurs
    exact ⟨i, mem_mentions.mpr stands, isPlace⟩
  · rintro ⟨i, isMention, rfl⟩
    have stands := mem_mentions.mp isMention
    have moved : Moved (fun _ => false) (maskedSegments isWord text) i marker.length :=
      segmented.moved plain_exact solid_marker (fun _ _ => rfl) stands
    rw [← begins_eq_isPrefixOf]
    exact moved.stands stands

/-- A phrase is reported for a mention exactly when it is seen. -/
theorem mem_reported_iff
    {text phrase : Str}
    (start : Nat)
    (noWord : ∀ c, isSpace c = true → isWord c = false)
    (isPhrase : phrase ∈ forbidden) :
    phrase ∈ reported isWord (maskExceptions isWord text) (narrowed isWord text start) ↔
      ∃ i, Seen isWord text phrase start i := by
  have segmented := segmented_masked isWord text
  have solid := solid_forbidden phrase isPhrase
  rw [reported, List.mem_filter, window, standsAlone_window solid.nonempty (Nat.min_le_left _ _),
    maskExceptions_eq, and_iff_right isPhrase]
  constructor
  · rintro ⟨j, notBefore, fits, occurs, before, after⟩
    obtain ⟨i, stands, rfl⟩ := segmented.exists_place plain_foldsTo solid occurs
    have moved := segmented.moved plain_foldsTo solid noWord stands
    obtain ⟨here, untouched⟩ := (begins_blanked_iff plain_foldsTo solid i).mp stands
    have isBefore : (precursor (blanked isWord text) i).any isWord =
        (precursor (tight (maskedSegments isWord text))
          (place (maskedSegments isWord text) i)).any isWord := moved.before.symm
    have isAfter : (blanked isWord text)[i + phrase.length]?.any isWord =
        (tight (maskedSegments isWord text))[place (maskedSegments isWord text) i +
          phrase.length]?.any isWord := moved.after.symm
    unfold narrowed at notBefore fits before after
    refine ⟨i, ⟨⟨here, untouched⟩, ?_, ?_, ?_, ?_⟩⟩
    · unfold narrowed
      omega
    · unfold narrowed
      omega
    · rw [isBefore]
      unfold narrowed
      rcases before with isStart | before
      · by_cases far : reach ≤ place (maskedSegments isWord text) start
        · exact Or.inl (by omega)
        · right
          rw [precursor, if_pos (by omega)]
          rfl
      · exact Or.inr before
    · rw [isAfter]
      unfold narrowed
      rcases after with isEnd | after
      · by_cases far : place (maskedSegments isWord text) start + marker.length + reach ≤
            (tight (maskedSegments isWord text)).length
        · exact Or.inl (by omega)
        · right
          rw [List.getElem?_eq_none (by omega)]
          rfl
      · exact Or.inr after
  · rintro ⟨i, seen⟩
    have stands := (begins_blanked_iff plain_foldsTo solid i).mpr ⟨seen.here, seen.untouched⟩
    have moved := segmented.moved plain_foldsTo solid noWord stands
    have occurs := moved.stands stands
    have inside := length_le_of_begins solid.nonempty occurs
    have first := seen.starts
    have last := seen.ends
    have before := seen.before
    have after := seen.after
    unfold narrowed at first last before after ⊢
    refine ⟨place (maskedSegments isWord text) i, by omega, by omega, occurs, ?_, ?_⟩
    · rcases before with isStart | before
      · exact Or.inl (by omega)
      · exact Or.inr (moved.before.trans before)
    · rcases after with isEnd | after
      · exact Or.inl (by omega)
      · exact Or.inr (moved.after.trans after)

/-- A phrase that is to be reported is seen. -/
theorem Genuine.seen
    {text phrase : Str}
    {start i : Nat}
    (noWord : ∀ c, isSpace c = true → isWord c = false)
    (isPhrase : phrase ∈ forbidden)
    (genuine : Genuine isWord text phrase start i) : Seen isWord text phrase start i := by
  have segmented := segmented_masked isWord text
  have faded := faded_blanked isWord text
  have short := length_forbidden phrase isPhrase
  have fades : ∀ k : Nat, text[k]?.any isWord = false →
      (blanked isWord text)[k]?.any isWord = false := by
    intro k noWordThere
    rcases faded.place k with same | ⟨isBlank, -⟩
    · rw [same, noWordThere]
    · rw [isBlank, Option.any_some, noWord ' ' (by decide)]
  have closer : ∀ {k l : Nat}, k ≤ l → narrowed isWord text k ≤ narrowed isWord text l ∧
      narrowed isWord text l ≤ narrowed isWord text k + (l - k) := segmented.place_le
  refine ⟨genuine.toStands, ?_, ?_, Or.inr ?_, Or.inr (fades _ genuine.after)⟩
  · rcases genuine.near with ⟨near, before⟩ | ⟨after, near⟩
    · have apart := closer (show i ≤ start by omega)
      omega
    · have apart := closer (show start ≤ i by omega)
      omega
  · rcases genuine.near with ⟨near, before⟩ | ⟨after, near⟩
    · have apart := closer (show i ≤ start by omega)
      omega
    · have apart := closer (show start ≤ i by omega)
      omega
  · have before := genuine.before
    unfold precursor at before ⊢
    split
    · rfl
    case isFalse notFirst =>
      rw [if_neg notFirst] at before
      exact fades _ before

/-- A phrase that is seen is to be reported unless one of the effects is met. -/
theorem Seen.genuine_or_mistaken
    {text phrase : Str}
    {start i : Nat}
    (seen : Seen isWord text phrase start i) :
    Genuine isWord text phrase start i ∨ Mistaken isWord text phrase start i := by
  by_cases effect : CutsWord isWord text phrase start i ∨ Distant phrase start i ∨
      MasksWord isWord text phrase i ∨ Overlaps phrase start i
  · exact Or.inr ⟨seen, effect⟩
  · simp only [not_or] at effect
    obtain ⟨uncut, close, whole, apart⟩ := effect
    refine Or.inl ⟨seen.toStands, ?_, ?_, ?_⟩
    · refine Bool.eq_false_iff.mpr fun goesOn => ?_
      rcases seen.before with isStart | before
      · exact uncut (Or.inl ⟨isStart, goesOn⟩)
      · exact whole (Or.inl ⟨goesOn, before⟩)
    · refine Bool.eq_false_iff.mpr fun goesOn => ?_
      rcases seen.after with isEnd | after
      · exact uncut (Or.inr ⟨isEnd, goesOn⟩)
      · exact whole (Or.inr ⟨goesOn, after⟩)
    · unfold Distant at close
      unfold Overlaps at apart
      omega

/-- The sweep is exact exactly for the texts in which no effect of windows and masks makes a
phrase seen for a mention that has no genuine one. -/
theorem exact_iff_harmless
    (isWord : Char → Bool)
    (noWord : ∀ c, isSpace c = true → isWord c = false)
    (text : Str) : Exact isWord text ↔ Harmless isWord text := by
  constructor
  · rintro exact start isMention phrase isPhrase ⟨i, mistaken⟩
    rw [← exact.phrases start isMention phrase isPhrase, mem_reported_iff start noWord isPhrase]
    exact ⟨i, mistaken.toSeen⟩
  · intro harmless
    refine ⟨fun source => ?_, fun start isMention phrase isPhrase => ?_⟩
    · unfold findings
      dsimp only
      rw [starts_maskExceptions, List.flatMap_map]
    · rw [mem_reported_iff start noWord isPhrase]
      constructor
      · rintro ⟨i, seen⟩
        rcases seen.genuine_or_mistaken with genuine | mistaken
        · exact ⟨i, genuine⟩
        · exact harmless start isMention phrase isPhrase ⟨i, mistaken⟩
      · rintro ⟨i, genuine⟩
        exact ⟨i, genuine.seen noWord isPhrase⟩

end Masks

/-! ## One sentence without exceptions -/

section Single

variable {isWord : Char → Bool} {text : Str}

/-- A sentence that is shorter than the premise, denies nothing and quotes no phrase. -/
theorem maskedSegments_of_short
    (short : text.length < 100)
    (whole : segments text = [(text, [])])
    (kept : pardon isWord text = text)
    (unquoted : substitute backtickToken (fun found => blanks found.length) text = text) :
    maskedSegments isWord text = [(text, [])] := by
  have shorter : text.length < premise.length := Nat.lt_of_lt_of_le short length_premise
  rw [maskedSegments, replace_of_short _ shorter, whole, List.map_singleton, kept, unquoted]

/-- Nothing is blanked in it. -/
theorem blanked_of_single
    (single : maskedSegments isWord text = [(text, [])]) : blanked isWord text = text := by
  simp [blanked, single, loose]

/-- It is swept as it is. -/
theorem maskExceptions_of_single
    (single : maskedSegments isWord text = [(text, [])]) : maskExceptions isWord text = text := by
  rw [maskExceptions_eq, single]
  rfl

/-- Its places stay where they are. -/
theorem narrowed_of_single
    (single : maskedSegments isWord text = [(text, [])])
    (i : Nat) : narrowed isWord text i = i := by
  rw [narrowed, single, place]

/-- All its mentions count. -/
theorem mentions_of_single
    (single : maskedSegments isWord text = [(text, [])]) :
    mentions isWord text = starts marker text := by
  refine List.filter_eq_self.mpr fun start _ => decide_eq_true ?_
  rw [Untouched, blanked_of_single single]

end Single

/-! ## Two texts -/

/-- The letters and digits of the alphabet, and the low line. -/
def isAsciiWord (c : Char) : Bool := c.isAlphanum || c = '_'

/-- No gap is one of them. -/
theorem isAsciiWord_of_isSpace
    (c : Char)
    (space : isSpace c = true) : isAsciiWord c = false := by
  have noLow : c ≠ '_' := by
    rintro rfl
    cases space
  simp only [isSpace, Bool.or_eq_true, Bool.and_eq_true, decide_eq_true_eq, beq_iff_eq] at space
  refine Bool.eq_false_iff.mpr fun isWord => ?_
  simp only [isAsciiWord, Char.isAlphanum, Bool.or_eq_true, Text.isAlpha_iff, decide_eq_true_eq]
    at isWord
  rcases isWord with ((upper | lower) | digit) | low
  · have := Text.isUpper_bounds upper
    omega
  · have := Text.isLower_bounds lower
    omega
  · have := Numeral.isDigit_bounds digit
    omega
  · exact noLow low

/-- A claim about the marker. -/
def claim : Str := "Testing has proven E-BM25 to work.".toList

/-- The claim is one that is to be reported, and no other phrase stands there. -/
private theorem harmless_claim : Harmless isAsciiWord claim := by
  obtain ⟨short, whole, kept, unquoted⟩ : claim.length < 100 ∧ segments claim = [(claim, [])] ∧
      pardon isAsciiWord claim = claim ∧
        substitute backtickToken (fun found => blanks found.length) claim = claim := by
    decide +kernel
  have single := maskedSegments_of_short short whole kept unquoted
  have plain := blanked_of_single single
  have clear : ∀ i count, Untouched isAsciiWord claim i count := fun i count => by
    rw [Untouched, plain]
  have mentioned : mentions isAsciiWord claim = [19] := by
    rw [mentions_of_single single]
    decide +kernel
  have only : ∀ phrase ∈ forbidden, ∀ i < claim.length,
      begins foldsTo phrase (claim.drop i) = true → phrase = "proven".toList := by decide +kernel
  have alone : begins foldsTo "proven".toList (claim.drop 12) = true ∧
      (precursor claim 12).any isAsciiWord = false ∧
        claim[12 + "proven".toList.length]?.any isAsciiWord = false ∧
          "proven".toList.length = 6 := by decide +kernel
  obtain ⟨here, before, after, count⟩ := alone
  rintro start isMention phrase isPhrase ⟨i, mistaken⟩
  rw [mentioned, List.mem_singleton] at isMention
  have fits := length_le_of_begins (solid_forbidden phrase isPhrase).nonempty mistaken.here
  have positive := List.length_pos_iff.mpr (solid_forbidden phrase isPhrase).nonempty
  rw [only phrase isPhrase i (by omega) mistaken.here, isMention]
  exact ⟨12, ⟨here, clear _ _⟩, before, after, Or.inl (by rw [count]; decide)⟩

/-- The sweep is exact for a claim about the marker. -/
theorem exact_iff_harmless_claim : Exact isAsciiWord claim :=
  (exact_iff_harmless isAsciiWord isAsciiWord_of_isSpace claim).mpr harmless_claim

/-- A word that holds a phrase and goes on to the left of the window. -/
def cutWord : Str := "revalidated".toList ++ blanks 71 ++ marker

/-- The window cuts a longer word, which is reported. -/
theorem not_exact :
    ¬∀ (isWord : Char → Bool), (∀ c, isSpace c = true → isWord c = false) →
      ∀ text, Exact isWord text := by
  intro exact
  obtain ⟨short, whole, kept, unquoted⟩ : cutWord.length < 100 ∧
      segments cutWord = [(cutWord, [])] ∧ pardon isAsciiWord cutWord = cutWord ∧
        substitute backtickToken (fun found => blanks found.length) cutWord = cutWord := by
    decide +kernel
  have single := maskedSegments_of_short short whole kept unquoted
  have isPhrase : "validated".toList ∈ forbidden := List.mem_cons_self
  have isMention : 82 ∈ mentions isAsciiWord cutWord := by
    rw [mentions_of_single single]
    decide +kernel
  have isReported : "validated".toList ∈ reported isAsciiWord (maskExceptions isAsciiWord cutWord)
      (narrowed isAsciiWord cutWord 82) := by
    rw [maskExceptions_of_single single, narrowed_of_single single]
    decide +kernel
  have goesOn : ∀ i < cutWord.length, begins foldsTo "validated".toList (cutWord.drop i) = true →
      (precursor cutWord i).any isAsciiWord = true := by decide +kernel
  obtain ⟨i, genuine⟩ := ((exact isAsciiWord isAsciiWord_of_isSpace cutWord).phrases 82 isMention
    _ isPhrase).mp isReported
  have fits := length_le_of_begins (solid_forbidden _ isPhrase).nonempty genuine.here
  have positive := List.length_pos_iff.mpr (solid_forbidden _ isPhrase).nonempty
  have before := genuine.before
  rw [goesOn i (by omega) genuine.here] at before
  cases before

end Honesty
end ChatPlatform
