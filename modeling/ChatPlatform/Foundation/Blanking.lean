import ChatPlatform.Foundation.Occurrences
import Mathlib.Data.List.Basic

/-!
# Blanking parts of a text

A text keeps its places when parts of it are replaced by as many blanks. It is then made of
pieces with gaps between them, and narrowing each gap to one blank moves the places. A word
that holds no end of a sentence and no two blanks in a row stands in a piece wherever it
stands, so that it stands in the narrowed text exactly where a place of the wide one moves to.
-/

namespace ChatPlatform
namespace Blanking

open Text

/-! ## Words that stand in a text -/

/-- Whether a text begins with a word, character by character. -/
def begins (same : Char → Char → Bool) : Str → Str → Bool
  | [], _ => true
  | _ :: _, [] => false
  | w :: word, c :: text => same w c && begins same word text

/-- Whether a test is passed at some place, which sees the character before the place and the
text from there on. -/
def somewhere (test : Option Char → Str → Bool) (before : Option Char) : Str → Bool
  | [] => test before []
  | c :: rest => test before (c :: rest) || somewhere test (some c) rest

/-- The character before a place of a text. -/
def precursor (text : Str) (place : Nat) : Option Char :=
  if place = 0 then none else text[place - 1]?

section Standing

variable {same : Char → Char → Bool} {word text : Str}

theorem begins_iff :
    begins same word text = true ↔ ∀ (i : Nat) (w : Char), word[i]? = some w →
      ∃ c, text[i]? = some c ∧ same w c = true := by
  induction word generalizing text with
  | nil => simp [begins]
  | cons w word inductionHypothesis =>
      cases text with
      | nil =>
          refine iff_of_false Bool.false_ne_true fun all => ?_
          obtain ⟨c, found, -⟩ := all 0 w rfl
          cases found
      | cons c text =>
          rw [begins, Bool.and_eq_true, inductionHypothesis]
          constructor
          · rintro ⟨first, others⟩ i v isV
            cases i with
            | zero =>
                cases isV
                exact ⟨c, rfl, first⟩
            | succ i => exact others i v isV
          · intro all
            refine ⟨?_, fun i v isV => all (i + 1) v isV⟩
            obtain ⟨d, found, first⟩ := all 0 w rfl
            cases found
            exact first

/-- What stands at a place of a text, character by character. -/
theorem begins_drop_iff {place : Nat} :
    begins same word (text.drop place) = true ↔ ∀ (i : Nat) (w : Char), word[i]? = some w →
      ∃ c, text[place + i]? = some c ∧ same w c = true := by
  simp only [begins_iff, List.getElem?_drop]

/-- A word that stands somewhere stands in the text. -/
theorem length_le_of_begins
    {place : Nat}
    (nonempty : word ≠ [])
    (stands : begins same word (text.drop place) = true) :
    place + word.length ≤ text.length := by
  have positive := List.length_pos_iff.mpr nonempty
  have inWord : word.length - 1 < word.length := by omega
  have last : word[word.length - 1]? = some word[word.length - 1] :=
    List.getElem?_eq_getElem inWord
  obtain ⟨c, found, -⟩ := begins_drop_iff.mp stands _ _ last
  have inside := (List.getElem?_eq_some_iff.mp found).1
  omega

/-- A word stands in a part of a text when it stands in the text and ends in the part. -/
theorem begins_take_drop
    {place stop : Nat}
    (inText : stop ≤ text.length)
    (nonempty : word ≠ []) :
    begins same word ((text.take stop).drop place) = true ↔
      begins same word (text.drop place) = true ∧ place + word.length ≤ stop := by
  constructor
  · intro stands
    have fits := length_le_of_begins nonempty stands
    rw [List.length_take, min_eq_left inText] at fits
    refine ⟨begins_drop_iff.mpr fun i w isW => ?_, fits⟩
    obtain ⟨c, found, alike⟩ := begins_drop_iff.mp stands i w isW
    rw [List.getElem?_take] at found
    split at found
    · exact ⟨c, found, alike⟩
    · cases found
  · rintro ⟨stands, fits⟩
    refine begins_drop_iff.mpr fun i w isW => ?_
    obtain ⟨c, found, alike⟩ := begins_drop_iff.mp stands i w isW
    have inWord := (List.getElem?_eq_some_iff.mp isW).1
    exact ⟨c, by rw [List.getElem?_take, if_pos (by omega), found], alike⟩

/-- Character by character, a given text begins a text. -/
theorem begins_eq_isPrefixOf :
    begins (fun w c => w == c) word text = word.isPrefixOf text := by
  induction word generalizing text with
  | nil => simp [begins]
  | cons w word inductionHypothesis =>
      cases text with
      | nil => rfl
      | cons c text => rw [begins, inductionHypothesis, List.isPrefixOf_cons_cons]

/-- A word that none of its characters lets run over the end of a text begins the text alone if
it begins it with something after it. -/
theorem begins_append
    {last : Char}
    (ends : text.getLast? = some last)
    (refused : ∀ w ∈ word, same w last = false)
    (rest : Str) : begins same word (text ++ rest) = begins same word text := by
  have positive : 0 < text.length := by
    cases text with
    | nil => cases ends
    | cons c text => exact Nat.succ_pos _
  rw [Bool.eq_iff_iff, begins_iff, begins_iff]
  constructor
  · intro all i w isW
    have inText : i < text.length := by
      by_contra past
      have inWord := (List.getElem?_eq_some_iff.mp isW).1
      have bound : text.length - 1 < word.length := by omega
      obtain ⟨c, found, alike⟩ := all _ _ (List.getElem?_eq_getElem bound)
      rw [List.getElem?_append_left (by omega), ← List.getLast?_eq_getElem?, ends] at found
      cases found
      rw [refused _ (List.getElem_mem bound)] at alike
      cases alike
    obtain ⟨c, found, alike⟩ := all i w isW
    rw [List.getElem?_append_left inText] at found
    exact ⟨c, found, alike⟩
  · intro all i w isW
    obtain ⟨c, found, alike⟩ := all i w isW
    exact ⟨c, by rw [List.getElem?_append_left (List.getElem?_eq_some_iff.mp found).1, found],
      alike⟩

end Standing

/-- A test that is passed somewhere is passed at a place. -/
theorem somewhere_iff
    {test : Option Char → Str → Bool}
    {before : Option Char}
    {text : Str} :
    somewhere test before text = true ↔
      ∃ k ≤ text.length, test (if k = 0 then before else text[k - 1]?) (text.drop k) = true := by
  induction text generalizing before with
  | nil =>
      rw [somewhere]
      constructor
      · exact fun passed => ⟨0, Nat.le_refl 0, passed⟩
      · rintro ⟨k, bound, passed⟩
        rw [Nat.le_zero.mp bound] at passed
        exact passed
  | cons c rest inductionHypothesis =>
      rw [somewhere, Bool.or_eq_true, inductionHypothesis]
      constructor
      · rintro (passed | ⟨k, bound, passed⟩)
        · exact ⟨0, Nat.zero_le _, passed⟩
        · refine ⟨k + 1, Nat.succ_le_succ bound, ?_⟩
          rw [if_neg (Nat.succ_ne_zero k), Nat.add_sub_cancel, List.drop_succ_cons]
          cases k with
          | zero => exact passed
          | succ k => exact passed
      · rintro ⟨k, bound, passed⟩
        cases k with
        | zero => exact Or.inl passed
        | succ k =>
            refine Or.inr ⟨k, Nat.le_of_succ_le_succ bound, ?_⟩
            rw [if_neg (Nat.succ_ne_zero k), Nat.add_sub_cancel, List.drop_succ_cons] at passed
            cases k with
            | zero => exact passed
            | succ k => exact passed

/-- A word beside which no character of a word stands. -/
def standsAlone
    (isWord : Char → Bool)
    (same : Char → Char → Bool)
    (word : Str)
    (before : Option Char)
    (text : Str) : Bool :=
  !before.any isWord && begins same word text && !(text.drop word.length).head?.any isWord

/-- A word stands alone in a window when it stands there and no character of a word stands
beside it in the window. -/
theorem standsAlone_window
    {isWord : Char → Bool}
    {same : Char → Char → Bool}
    {word text : Str}
    {low high : Nat}
    (nonempty : word ≠ [])
    (inText : high ≤ text.length) :
    somewhere (standsAlone isWord same word) none ((text.take high).drop low) = true ↔
      ∃ i, low ≤ i ∧ i + word.length ≤ high ∧ begins same word (text.drop i) = true ∧
        (i = low ∨ (precursor text i).any isWord = false) ∧
        (i + word.length = high ∨ text[i + word.length]?.any isWord = false) := by
  have after : ∀ k, (((text.take high).drop low).drop k).drop word.length =
      (text.take high).drop (low + k + word.length) := by
    intro k
    rw [List.drop_drop, List.drop_drop]
    congr 1
    omega
  rw [somewhere_iff]
  simp only [standsAlone, Bool.and_eq_true, Bool.not_eq_true', after, List.head?_drop]
  simp only [List.drop_drop, begins_take_drop inText nonempty]
  constructor
  · rintro ⟨k, -, ⟨before, stands, fits⟩, behind⟩
    refine ⟨low + k, Nat.le_add_right _ _, fits, stands, ?_, ?_⟩
    · by_cases first : k = 0
      · exact Or.inl (by omega)
      · rw [if_neg first, List.getElem?_drop, List.getElem?_take, if_pos (by omega)] at before
        right
        unfold precursor
        rw [if_neg (by omega), show low + k - 1 = low + (k - 1) by omega, before]
    · by_cases last : low + k + word.length = high
      · exact Or.inl last
      · rw [List.getElem?_take, if_pos (by omega)] at behind
        exact Or.inr behind
  · rintro ⟨i, notBefore, fits, stands, before, behind⟩
    obtain ⟨k, rfl⟩ : ∃ k, i = low + k := ⟨i - low, by omega⟩
    have positive := List.length_pos_iff.mpr nonempty
    refine ⟨k, ?_, ⟨?_, stands, fits⟩, ?_⟩
    · rw [List.length_drop, List.length_take, min_eq_left inText]
      omega
    · split
      · rfl
      · rw [List.getElem?_drop, List.getElem?_take, if_pos (by omega)]
        rcases before with first | before
        · omega
        · unfold precursor at before
          rwa [if_neg (by omega), show low + k - 1 = low + (k - 1) by omega] at before
    · rw [List.getElem?_take]
      split
      · rcases behind with last | behind
        · omega
        · exact behind
      · rfl

/-! ## Blanks -/

/-- As many blanks. -/
def blanks (count : Nat) : Str := List.replicate count ' '

/-- A text some parts of which, each of two characters or more, are blanked. -/
inductive Blanked : Str → Str → Prop
  | nil : Blanked [] []
  | keep (c : Char) {text out : Str} (rest : Blanked text out) : Blanked (c :: text) (c :: out)
  | blank (part : Str) (long : 2 ≤ part.length) {text out : Str} (rest : Blanked text out) :
      Blanked (part ++ text) (blanks part.length ++ out)

namespace Blanked

theorem refl (text : Str) : Blanked text text := by
  induction text with
  | nil => exact nil
  | cons c rest inductionHypothesis => exact keep c inductionHypothesis

theorem append
    {text out other otherOut : Str}
    (first : Blanked text out)
    (second : Blanked other otherOut) : Blanked (text ++ other) (out ++ otherOut) := by
  induction first with
  | nil => exact second
  | keep c _ inductionHypothesis => exact keep c inductionHypothesis
  | blank part long _ inductionHypothesis =>
      rw [List.append_assoc, List.append_assoc]
      exact blank part long inductionHypothesis

theorem blankAll
    {text : Str}
    (long : 2 ≤ text.length) : Blanked text (blanks text.length) := by
  have blanked := blank text long nil
  rwa [List.append_nil, List.append_nil] at blanked

end Blanked

/-- A text of the same length that has a blank in some places, none of them alone. -/
structure Faded (text out : Str) : Prop where
  /-- The places are the same. -/
  length : out.length = text.length
  /-- A place is as it was, or it is one of several blanks. -/
  place : ∀ i : Nat, out[i]? = text[i]? ∨
    out[i]? = some ' ' ∧ (out[i + 1]? = some ' ' ∨ 0 < i ∧ out[i - 1]? = some ' ')

/-- A text with blanked parts is faded. -/
theorem Blanked.faded
    {text out : Str}
    (blanked : Blanked text out) : Faded text out := by
  induction blanked with
  | nil => exact ⟨rfl, fun _ => Or.inl rfl⟩
  | keep c _ inductionHypothesis =>
      refine ⟨congrArg (· + 1) inductionHypothesis.length, fun i => ?_⟩
      cases i with
      | zero => exact Or.inl rfl
      | succ i =>
          rcases inductionHypothesis.place i with same | ⟨isBlank, next | ⟨positive, before⟩⟩
          · exact Or.inl same
          · exact Or.inr ⟨isBlank, Or.inl next⟩
          · refine Or.inr ⟨isBlank, Or.inr ⟨Nat.succ_pos i, ?_⟩⟩
            obtain ⟨i, rfl⟩ : ∃ less, i = less + 1 := ⟨i - 1, by omega⟩
            exact before
  | @blank part long text out rest inductionHypothesis =>
      have isBlank : ∀ i : Nat, i < part.length → (blanks part.length ++ out)[i]? = some ' ' := by
        intro i inPart
        rw [List.getElem?_append_left (by rw [blanks, List.length_replicate]; exact inPart),
          blanks, List.getElem?_replicate_of_lt inPart]
      have size : (blanks part.length).length = part.length := List.length_replicate
      refine ⟨?_, fun i => ?_⟩
      · rw [List.length_append, List.length_append, size, inductionHypothesis.length]
      · by_cases inPart : i < part.length
        · refine Or.inr ⟨isBlank i inPart, ?_⟩
          by_cases first : i = 0
          · exact Or.inl (isBlank (i + 1) (by omega))
          · exact Or.inr ⟨by omega, isBlank (i - 1) (by omega)⟩
        · have outside : ∀ k : Nat, part.length ≤ k →
              (blanks part.length ++ out)[k]? = out[k - part.length]? := by
            intro k past
            rw [List.getElem?_append_right (by rw [size]; exact past), size]
          rw [outside i (by omega), outside (i + 1) (by omega),
            List.getElem?_append_right (Nat.le_of_not_lt inPart),
            show i + 1 - part.length = i - part.length + 1 by omega]
          rcases inductionHypothesis.place (i - part.length) with
            same | ⟨here, next | ⟨positive, before⟩⟩
          · exact Or.inl same
          · exact Or.inr ⟨here, Or.inl next⟩
          · refine Or.inr ⟨here, Or.inr ⟨by omega, ?_⟩⟩
            rw [outside (i - 1) (by omega), show i - 1 - part.length = i - part.length - 1 by omega]
            exact before

/-- A text that is faded twice is faded. -/
theorem Faded.trans
    {text middle out : Str}
    (first : Faded text middle)
    (second : Faded middle out) : Faded text out := by
  have stays : ∀ i : Nat, middle[i]? = some ' ' → out[i]? = some ' ' := by
    intro i isBlank
    rcases second.place i with same | ⟨here, -⟩
    · rw [same, isBlank]
    · exact here
  refine ⟨second.length.trans first.length, fun i => ?_⟩
  rcases second.place i with same | faded
  · rcases first.place i with sameFirst | ⟨here, next | ⟨positive, before⟩⟩
    · exact Or.inl (same.trans sameFirst)
    · exact Or.inr ⟨stays i here, Or.inl (stays _ next)⟩
    · exact Or.inr ⟨stays i here, Or.inr ⟨positive, stays _ before⟩⟩
  · exact Or.inr faded

/-! ## Solid words -/

/-- The end of a sentence. -/
def isStop (c : Char) : Bool := c = '.' || c = '!' || c = '?'

/-- The end of a sentence or a gap. -/
def isClosing (c : Char) : Bool := isStop c || isSpace c

/-- A way to compare the characters of words that takes no other character for a gap or for
the end of a sentence. -/
def Plain (same : Char → Char → Bool) : Prop :=
  ∀ w c, same w c = true → isSpace c = true ∨ isStop c = true → w = c

/-- A word without an end of a sentence, whose gaps are single blanks between other
characters. -/
structure Solid (word : Str) : Prop where
  /-- There is a word. -/
  nonempty : word ≠ []
  /-- It holds no end of a sentence, and blanks are its only gaps. -/
  ordinary : ∀ w ∈ word, isStop w = false ∧ (isSpace w = true → w = ' ')
  /-- A blank stands between other characters. -/
  inner : ∀ i < word.length, word[i]? = some ' ' →
    0 < i ∧ word[i - 1]? ≠ some ' ' ∧ i + 1 < word.length ∧ word[i + 1]? ≠ some ' '

instance (word : Str) : Decidable (Solid word) :=
  decidable_of_iff
    (word ≠ [] ∧ (∀ w ∈ word, isStop w = false ∧ (isSpace w = true → w = ' ')) ∧
      ∀ i < word.length, word[i]? = some ' ' →
        0 < i ∧ word[i - 1]? ≠ some ' ' ∧ i + 1 < word.length ∧ word[i + 1]? ≠ some ' ')
    ⟨fun ⟨nonempty, ordinary, inner⟩ => ⟨nonempty, ordinary, inner⟩,
      fun solid => ⟨solid.nonempty, solid.ordinary, solid.inner⟩⟩

section Words

variable {same : Char → Char → Bool} {word text : Str}

/-- Where a solid word stands, a gap of the text is a blank of the word. -/
private theorem blank_of_gap
    (plain : Plain same)
    (solid : Solid word)
    {w c : Char}
    (held : w ∈ word)
    (alike : same w c = true)
    (gap : isSpace c = true) : w = ' ' ∧ c = ' ' := by
  have equal := plain w c alike (Or.inl gap)
  have isBlank := (solid.ordinary w held).2 (equal ▸ gap)
  exact ⟨isBlank, equal ▸ isBlank⟩

/-- A solid word does not begin with a gap. -/
theorem not_begins_gap
    (plain : Plain same)
    (solid : Solid word)
    {place : Nat}
    {c : Char}
    (isHere : text[place]? = some c)
    (gap : isSpace c = true) : begins same word (text.drop place) = false := by
  refine Bool.eq_false_iff.mpr fun stands => ?_
  obtain ⟨w, word', rfl⟩ := List.exists_cons_of_ne_nil solid.nonempty
  obtain ⟨d, found, alike⟩ := begins_drop_iff.mp stands 0 w rfl
  rw [Nat.add_zero, isHere] at found
  cases found
  obtain ⟨isBlank, -⟩ := blank_of_gap plain solid List.mem_cons_self alike gap
  exact absurd (solid.inner 0 (Nat.succ_pos _) (congrArg some isBlank)).1 (Nat.lt_irrefl 0)

/-- A solid word that stands in front of a gap after the end of a sentence or another gap ends
before the gap. -/
theorem ends_before_gap
    (plain : Plain same)
    (solid : Solid word)
    {place gap : Nat}
    {last c : Char}
    (inFront : place < gap)
    (isLast : text[gap - 1]? = some last)
    (closes : isClosing last = true)
    (isGap : text[gap]? = some c)
    (isSpaceGap : isSpace c = true)
    (stands : begins same word (text.drop place) = true) : place + word.length ≤ gap := by
  by_contra beyond
  have inWord : gap - place < word.length := by omega
  obtain ⟨d, found, alike⟩ := begins_drop_iff.mp stands _ _ (List.getElem?_eq_getElem inWord)
  rw [show place + (gap - place) = gap by omega, isGap] at found
  cases found
  obtain ⟨isBlank, -⟩ := blank_of_gap plain solid (List.getElem_mem inWord) alike isSpaceGap
  have here : word[gap - place]? = some ' ' := by rw [List.getElem?_eq_getElem inWord, isBlank]
  obtain ⟨positive, notBlank, -, -⟩ := solid.inner _ inWord here
  have beforeWord : gap - place - 1 < word.length := by omega
  obtain ⟨e, foundBefore, alikeBefore⟩ :=
    begins_drop_iff.mp stands _ _ (List.getElem?_eq_getElem beforeWord)
  rw [show place + (gap - place - 1) = gap - 1 by omega, isLast] at foundBefore
  cases foundBefore
  rcases Bool.or_eq_true_iff.mp closes with stop | space
  · have equal := plain _ _ alikeBefore (Or.inr stop)
    have noStop := (solid.ordinary _ (List.getElem_mem beforeWord)).1
    rw [equal, stop] at noStop
    cases noStop
  · obtain ⟨blankBefore, -⟩ :=
      blank_of_gap plain solid (List.getElem_mem beforeWord) alikeBefore space
    exact notBlank (by rw [List.getElem?_eq_getElem beforeWord, blankBefore])

/-- A solid word that stands in a faded text stands in the text, which is unchanged there. -/
theorem Faded.unchanged
    {out : Str}
    (faded : Faded text out)
    (plain : Plain same)
    (solid : Solid word)
    {place : Nat}
    (stands : begins same word (out.drop place) = true) :
    (out.drop place).take word.length = (text.drop place).take word.length := by
  refine List.ext_getElem? fun i => ?_
  rw [List.getElem?_take, List.getElem?_take]
  split
  case isFalse => rfl
  case isTrue inWord =>
    rw [List.getElem?_drop, List.getElem?_drop]
    have blankAt : ∀ k < word.length, out[place + k]? = some ' ' → word[k]? = some ' ' := by
      intro k inside isBlank
      obtain ⟨c, found, alike⟩ := begins_drop_iff.mp stands _ _ (List.getElem?_eq_getElem inside)
      rw [isBlank] at found
      cases found
      rw [List.getElem?_eq_getElem inside,
        (blank_of_gap plain solid (List.getElem_mem inside) alike (by decide)).1]
    rcases faded.place (place + i) with unchanged | ⟨isBlank, next | ⟨-, before⟩⟩
    · exact unchanged
    · obtain ⟨-, -, inside, notBlank⟩ := solid.inner i inWord (blankAt i inWord isBlank)
      exact absurd (blankAt (i + 1) inside next) notBlank
    · obtain ⟨positive, notBlank, -, -⟩ := solid.inner i inWord (blankAt i inWord isBlank)
      rw [show place + i - 1 = place + (i - 1) by omega] at before
      exact absurd (blankAt (i - 1) (by omega) before) notBlank

/-- Whether a word stands at a place depends on the part of the text that it takes. -/
theorem begins_congr
    {other : Str}
    {place : Nat}
    (equal : (text.drop place).take word.length = (other.drop place).take word.length) :
    begins same word (text.drop place) = begins same word (other.drop place) := by
  have charAt : ∀ i < word.length, text[place + i]? = other[place + i]? := by
    intro i inWord
    have here := congrArg (fun part : Str => part[i]?) equal
    simpa only [List.getElem?_take, if_pos inWord, List.getElem?_drop] using here
  rw [Bool.eq_iff_iff, begins_drop_iff, begins_drop_iff]
  constructor
  · intro all i w isW
    rw [← charAt i (List.getElem?_eq_some_iff.mp isW).1]
    exact all i w isW
  · intro all i w isW
    rw [charAt i (List.getElem?_eq_some_iff.mp isW).1]
    exact all i w isW

end Words

/-! ## Pieces and gaps -/

/-- Pieces, each with the gap after it. A piece with another one after it ends with a closing
character, and the gap after it is not empty. -/
inductive Segmented (closing : Char → Bool) : List (Str × Str) → Prop
  | last (piece : Str) : Segmented closing [(piece, [])]
  | cons {piece gap : Str} {last : Char} {next : Str × Str} {rest : List (Str × Str)}
      (ends : piece.getLast? = some last) (closes : closing last = true)
      (nonempty : gap ≠ []) (spaces : ∀ c ∈ gap, isSpace c = true)
      (others : Segmented closing (next :: rest)) :
      Segmented closing ((piece, gap) :: next :: rest)

/-- The pieces with their gaps. -/
def loose (segments : List (Str × Str)) : Str := segments.flatMap fun segment =>
  segment.1 ++ segment.2

/-- The pieces with a blank in place of each gap. -/
def tight (segments : List (Str × Str)) : Str := join [' '] (segments.map (·.1))

/-- Where a place goes when the gaps are narrowed. -/
def place : List (Str × Str) → Nat → Nat
  | [], i | [_], i => i
  | (piece, gap) :: next :: rest, i =>
      if i < piece.length + gap.length then min i piece.length
      else piece.length + 1 + place (next :: rest) (i - (piece.length + gap.length))

section Segments

variable {segments : List (Str × Str)} {piece gap : Str} {next : Str × Str}
  {rest : List (Str × Str)}

theorem loose_cons : loose ((piece, gap) :: rest) = piece ++ (gap ++ loose rest) := by
  rw [loose, List.flatMap_cons, List.append_assoc]
  rfl

theorem tight_cons :
    tight ((piece, gap) :: next :: rest) = piece ++ ' ' :: tight (next :: rest) := by
  rw [tight, List.map_cons, join_cons_of_ne_nil _ _ (by simp), List.append_assoc]
  rfl

/-- Pieces that are changed are pieces still if the changed ones close. -/
theorem Segmented.map
    {closing other : Char → Bool}
    (segmented : Segmented closing segments)
    (change : Str → Str)
    (closes : ∀ piece last, piece.getLast? = some last → closing last = true →
      ∃ final, (change piece).getLast? = some final ∧ other final = true) :
    Segmented other (segments.map fun segment => (change segment.1, segment.2)) := by
  induction segmented with
  | last piece => exact .last (change piece)
  | @cons piece gap last next rest ends isClosing nonempty spaces others inductionHypothesis =>
      obtain ⟨final, isFinal, isOther⟩ := closes piece last ends isClosing
      exact .cons isFinal isOther nonempty spaces inductionHypothesis

/-- Pieces some parts of which are blanked make a text some parts of which are. -/
theorem blanked_loose
    (segments : List (Str × Str))
    {change : Str → Str}
    (blanked : ∀ piece, Blanked piece (change piece)) :
    Blanked (loose segments)
      (loose (segments.map fun segment => (change segment.1, segment.2))) := by
  induction segments with
  | nil => exact .nil
  | cons segment rest inductionHypothesis =>
      rw [List.map_cons, loose_cons, show segment = (segment.1, segment.2) from rfl, loose_cons]
      exact (blanked segment.1).append ((Blanked.refl segment.2).append inductionHypothesis)

/-- A piece with another one after it is not empty. -/
private theorem piece_pos
    {last : Char}
    (ends : piece.getLast? = some last) : 0 < piece.length := by
  cases piece with
  | nil => cases ends
  | cons c rest => exact Nat.succ_pos _

/-- Where a place in a later piece goes. -/
private theorem place_later (i : Nat) :
    place ((piece, gap) :: next :: rest) (piece.length + gap.length + i) =
      piece.length + 1 + place (next :: rest) i := by
  rw [place, if_neg (Nat.not_lt.mpr (Nat.le_add_right _ _)), Nat.add_sub_cancel_left]

/-- The first place stays. -/
theorem Segmented.place_zero (segmented : Segmented isClosing segments) : place segments 0 = 0 := by
  cases segmented with
  | last piece => rfl
  | cons ends closes nonempty spaces others =>
      have positive := piece_pos ends
      rw [place, if_pos (by omega)]
      exact Nat.zero_min _

/-- No other place goes to the first. -/
theorem Segmented.place_pos
    (segmented : Segmented isClosing segments)
    {i : Nat}
    (positive : 0 < i) : 0 < place segments i := by
  cases segmented with
  | last piece => exact positive
  | cons ends closes nonempty spaces others =>
      have nonemptyPiece := piece_pos ends
      rw [place]
      split
      · exact Nat.lt_min.mpr ⟨positive, nonemptyPiece⟩
      · omega

/-- A later place goes no earlier, and no further away. -/
theorem Segmented.place_le
    (segmented : Segmented isClosing segments)
    {i k : Nat}
    (later : i ≤ k) :
    place segments i ≤ place segments k ∧ place segments k ≤ place segments i + (k - i) := by
  induction segmented generalizing i k with
  | last piece =>
      simp only [place]
      omega
  | @cons piece gap last next rest ends closes nonempty spaces others inductionHypothesis =>
      have wide := List.length_pos_iff.mpr nonempty
      simp only [place]
      split
      · split
        · omega
        · have apart := @inductionHypothesis 0 (k - (piece.length + gap.length)) (Nat.zero_le _)
          rw [others.place_zero] at apart
          omega
      · split
        · omega
        · have apart := @inductionHypothesis (i - (piece.length + gap.length))
            (k - (piece.length + gap.length)) (by omega)
          omega

/-- The characters of a text with a part in front of it. -/
private theorem getElem?_past
    (front text : Str)
    (i : Nat) : (front ++ text)[front.length + i]? = text[i]? := by
  rw [List.getElem?_append_right (Nat.le_add_right _ _), Nat.add_sub_cancel_left]

/-- The characters of the later pieces and gaps. -/
private theorem loose_later (i : Nat) :
    (loose ((piece, gap) :: rest))[piece.length + gap.length + i]? = (loose rest)[i]? := by
  rw [loose_cons, Nat.add_assoc, getElem?_past, getElem?_past]

/-- The characters of the later pieces. -/
private theorem tight_later (i : Nat) :
    (tight ((piece, gap) :: next :: rest))[piece.length + 1 + i]? =
      (tight (next :: rest))[i]? := by
  rw [tight_cons, Nat.add_assoc, getElem?_past, Nat.add_comm 1 i, List.getElem?_cons_succ]

/-- The characters of a gap. -/
private theorem loose_gap
    (piece gap : Str)
    (rest : List (Str × Str))
    {i : Nat}
    (past : piece.length ≤ i)
    (inGap : i < piece.length + gap.length) :
    ∃ c ∈ gap, (loose ((piece, gap) :: rest))[i]? = some c := by
  have bound : i - piece.length < gap.length := by omega
  refine ⟨gap[i - piece.length], List.getElem_mem bound, ?_⟩
  rw [loose_cons, List.getElem?_append_right past, List.getElem?_append_left bound,
    List.getElem?_eq_getElem bound]

/-- The characters of a piece. -/
private theorem piece_char
    {i : Nat}
    (inPiece : i < piece.length) :
    (loose ((piece, gap) :: next :: rest))[i]? = piece[i]? ∧
      (tight ((piece, gap) :: next :: rest))[i]? = piece[i]? := by
  rw [loose_cons, tight_cons, List.getElem?_append_left inPiece,
    List.getElem?_append_left inPiece]
  exact ⟨rfl, rfl⟩

/-- The blank after a piece. -/
private theorem tight_blank :
    (tight ((piece, gap) :: next :: rest))[piece.length]? = some ' ' := by
  rw [tight_cons, List.getElem?_append_right (Nat.le_refl _), Nat.sub_self]
  rfl

/-- The last character of a piece. -/
private theorem last_char
    {last : Char}
    (ends : piece.getLast? = some last) : piece[piece.length - 1]? = some last := by
  rw [← List.getLast?_eq_getElem?, ends]

/-- A place that is no gap goes before the next one. -/
theorem Segmented.place_succ
    (segmented : Segmented isClosing segments)
    {i : Nat}
    {c : Char}
    (isHere : (loose segments)[i]? = some c)
    (solid : isSpace c = false) : place segments (i + 1) = place segments i + 1 := by
  induction segmented generalizing i with
  | last piece => rfl
  | @cons piece gap last next rest ends closes nonempty spaces others inductionHypothesis =>
      by_cases inPiece : i < piece.length
      · have wide := List.length_pos_iff.mpr nonempty
        rw [place, place, if_pos (by omega), if_pos (by omega)]
        omega
      · by_cases inGap : i < piece.length + gap.length
        · obtain ⟨d, held, found⟩ := loose_gap piece gap (next :: rest)
            (Nat.le_of_not_lt inPiece) inGap
          rw [isHere] at found
          cases found
          rw [spaces c held] at solid
          cases solid
        · obtain ⟨i, rfl⟩ : ∃ more, i = piece.length + gap.length + more :=
            ⟨i - (piece.length + gap.length), by omega⟩
          rw [loose_later] at isHere
          rw [Nat.add_assoc _ i 1, place_later, place_later, inductionHypothesis isHere]
          rfl

/-- A part of the text is the same where it goes, and so is whether it stands beside the
characters of words. -/
structure Moved (isWord : Char → Bool) (segments : List (Str × Str)) (i n : Nat) : Prop where
  /-- The part is the same. -/
  same : ∀ k < n, (tight segments)[place segments i + k]? = (loose segments)[i + k]?
  /-- The character before it belongs to a word where it did. -/
  before : (precursor (tight segments) (place segments i)).any isWord =
    (precursor (loose segments) i).any isWord
  /-- So does the character after it. -/
  after : (tight segments)[place segments i + n]?.any isWord =
    (loose segments)[i + n]?.any isWord

variable {same : Char → Char → Bool} {word : Str} {isWord : Char → Bool}

/-- A solid word that stands in a text goes where the gaps are narrowed. -/
theorem Segmented.moved
    (segmented : Segmented isClosing segments)
    (plain : Plain same)
    (solid : Solid word)
    (noWord : ∀ c, isSpace c = true → isWord c = false)
    {i : Nat}
    (stands : begins same word ((loose segments).drop i) = true) :
    Moved isWord segments i word.length := by
  induction segmented generalizing i with
  | last piece =>
      have equal : loose [(piece, [])] = tight [(piece, [])] := by
        rw [loose_cons]
        exact List.append_nil piece
      refine ⟨fun k _ => ?_, ?_, ?_⟩
      · rw [equal]
        rfl
      · rw [equal]
        rfl
      · rw [equal]
        rfl
  | @cons piece gap last next rest ends closes nonempty spaces others inductionHypothesis =>
      have wide := List.length_pos_iff.mpr nonempty
      have long := piece_pos ends
      obtain ⟨c, isGap, atGap⟩ := loose_gap piece gap (next :: rest)
        (Nat.le_refl _) (show piece.length < piece.length + gap.length by omega)
      by_cases inPiece : i < piece.length
      · have isLast : (loose ((piece, gap) :: next :: rest))[piece.length - 1]? = some last := by
          rw [(piece_char (by omega)).1, last_char ends]
        have fits := ends_before_gap plain solid inPiece isLast closes atGap (spaces c isGap) stands
        have stays : place ((piece, gap) :: next :: rest) i = i := by
          rw [place, if_pos (by omega)]
          omega
        refine ⟨fun k inWord => ?_, ?_, ?_⟩
        · rw [stays, (piece_char (by omega)).1, (piece_char (by omega)).2]
        · rw [stays]
          unfold precursor
          split
          · rfl
          · rw [(piece_char (by omega)).1, (piece_char (by omega)).2]
        · rw [stays]
          by_cases inside : i + word.length < piece.length
          · rw [(piece_char inside).1, (piece_char inside).2]
          · rw [show i + word.length = piece.length by omega, tight_blank, atGap, Option.any_some,
              Option.any_some, noWord ' ' (by decide), noWord c (spaces c isGap)]
      · by_cases inGap : i < piece.length + gap.length
        · obtain ⟨d, held, found⟩ := loose_gap piece gap (next :: rest)
            (Nat.le_of_not_lt inPiece) inGap
          rw [not_begins_gap plain solid found (spaces d held)] at stands
          cases stands
        · obtain ⟨i, rfl⟩ : ∃ more, i = piece.length + gap.length + more :=
            ⟨i - (piece.length + gap.length), by omega⟩
          have standsLater : begins same word ((loose (next :: rest)).drop i) = true := by
            rw [begins_drop_iff] at stands ⊢
            intro k w isW
            obtain ⟨d, found, alike⟩ := stands k w isW
            rw [Nat.add_assoc _ i k, loose_later] at found
            exact ⟨d, found, alike⟩
          have moved := inductionHypothesis standsLater
          refine ⟨fun k inWord => ?_, ?_, ?_⟩
          · rw [place_later, Nat.add_assoc, tight_later, Nat.add_assoc _ i k, loose_later,
              moved.same k inWord]
          · rw [place_later]
            unfold precursor
            rw [if_neg (by omega), if_neg (by omega)]
            by_cases first : i = 0
            · obtain ⟨d, held, found⟩ := loose_gap piece gap (next :: rest)
                (show piece.length ≤ piece.length + gap.length - 1 by omega) (by omega)
              rw [first, others.place_zero, Nat.add_zero (piece.length + 1), Nat.add_sub_cancel,
                Nat.add_zero (piece.length + gap.length), tight_blank, found, Option.any_some,
                Option.any_some, noWord ' ' (by decide), noWord d (spaces d held)]
            · have positive := others.place_pos (Nat.pos_of_ne_zero first)
              have before := moved.before
              unfold precursor at before
              rw [if_neg first, if_neg (by omega)] at before
              rw [show piece.length + 1 + place (next :: rest) i - 1 =
                  piece.length + 1 + (place (next :: rest) i - 1) by omega, tight_later,
                show piece.length + gap.length + i - 1 =
                  piece.length + gap.length + (i - 1) by omega, loose_later, before]
          · rw [place_later, Nat.add_assoc, tight_later, Nat.add_assoc _ i, loose_later,
              moved.after]

/-- A word that is moved stands where it goes. -/
theorem Moved.stands
    {i : Nat}
    (moved : Moved isWord segments i word.length)
    (stands : begins same word ((loose segments).drop i) = true) :
    begins same word ((tight segments).drop (place segments i)) = true := by
  rw [begins_drop_iff] at stands ⊢
  intro k w isW
  rw [moved.same k (List.getElem?_eq_some_iff.mp isW).1]
  exact stands k w isW

/-- What stands after a solid word goes after it. -/
theorem Segmented.place_lt
    (segmented : Segmented isClosing segments)
    (plain : Plain same)
    (solid : Solid word)
    {i k : Nat}
    (stands : begins same word ((loose segments).drop i) = true)
    (later : i < k) : place segments i < place segments k := by
  have fits := length_le_of_begins solid.nonempty stands
  have positive := List.length_pos_iff.mpr solid.nonempty
  have inText : i < (loose segments).length := by omega
  have isHere : (loose segments)[i]? = some (loose segments)[i] :=
    List.getElem?_eq_getElem inText
  have noGap : isSpace (loose segments)[i] = false := by
    refine Bool.eq_false_iff.mpr fun gap => ?_
    rw [not_begins_gap plain solid isHere gap] at stands
    cases stands
  have next := segmented.place_succ isHere noGap
  have after := (segmented.place_le (show i + 1 ≤ k from later)).1
  omega

/-- A solid word stands where the gaps are narrowed only if it stood in the text. -/
theorem Segmented.exists_place
    (segmented : Segmented isClosing segments)
    (plain : Plain same)
    (solid : Solid word)
    {j : Nat}
    (stands : begins same word ((tight segments).drop j) = true) :
    ∃ i, begins same word ((loose segments).drop i) = true ∧ place segments i = j := by
  induction segmented generalizing j with
  | last piece =>
      refine ⟨j, ?_, rfl⟩
      rw [loose_cons]
      exact (List.append_nil piece).symm ▸ stands
  | @cons piece gap last next rest ends closes nonempty spaces others inductionHypothesis =>
      have long := piece_pos ends
      rcases Nat.lt_trichotomy j piece.length with inPiece | isBlank | past
      · have isLast : (tight ((piece, gap) :: next :: rest))[piece.length - 1]? = some last := by
          rw [(piece_char (by omega)).2, last_char ends]
        have fits := ends_before_gap plain solid inPiece isLast closes tight_blank (by decide)
          stands
        refine ⟨j, ?_, ?_⟩
        · rw [begins_drop_iff] at stands ⊢
          intro k w isW
          have inWord := (List.getElem?_eq_some_iff.mp isW).1
          obtain ⟨c, found, alike⟩ := stands k w isW
          rw [(piece_char (by omega)).2] at found
          exact ⟨c, by rw [(piece_char (by omega)).1, found], alike⟩
        · rw [place, if_pos (by omega)]
          omega
      · rw [not_begins_gap plain solid (isBlank ▸ tight_blank) (by decide)] at stands
        cases stands
      · obtain ⟨j, rfl⟩ : ∃ more, j = piece.length + 1 + more :=
          ⟨j - (piece.length + 1), by omega⟩
        have standsLater : begins same word ((tight (next :: rest)).drop j) = true := by
          rw [begins_drop_iff] at stands ⊢
          intro k w isW
          obtain ⟨d, found, alike⟩ := stands k w isW
          rw [Nat.add_assoc _ j k, tight_later] at found
          exact ⟨d, found, alike⟩
        obtain ⟨i, standsThere, isPlace⟩ := inductionHypothesis standsLater
        refine ⟨piece.length + gap.length + i, ?_, ?_⟩
        · rw [begins_drop_iff] at standsThere ⊢
          intro k w isW
          rw [Nat.add_assoc _ i k, loose_later]
          exact standsThere k w isW
        · rw [place_later, isPlace]

end Segments

/-! ## Replacing matches -/

/-- A text with the matches of a matcher replaced from the left; `skip` characters still belong
to the last match. -/
def substituteFrom (matcher : Str → Option Nat) (replacement : Str → Str) :
    (skip : Nat) → Str → Str
  | _, [] => []
  | 0, c :: rest =>
      match matcher (c :: rest) with
      | some (more + 1) =>
          replacement ((c :: rest).take (more + 1)) ++ substituteFrom matcher replacement more rest
      | _ => c :: substituteFrom matcher replacement 0 rest
  | skip + 1, _ :: rest => substituteFrom matcher replacement skip rest

/-- A text with the matches of a matcher replaced. -/
def substitute (matcher : Str → Option Nat) (replacement : Str → Str) (text : Str) : Str :=
  substituteFrom matcher replacement 0 text

/-- A given text at the front. -/
def literalMatcher (needle : Str) (text : Str) : Option Nat :=
  if needle.isPrefixOf text then some needle.length else none

section Replacing

variable {matcher : Str → Option Nat} {replacement : Str → Str}

/-- Replacing a text is replacing its matches. -/
theorem replace_eq_substitute
    {needle : Str}
    (nonempty : needle ≠ [])
    (other text : Str) :
    replace needle other text = substitute (literalMatcher needle) (fun _ => other) text := by
  have each : ∀ skip, replaceFrom needle other skip text =
      substituteFrom (literalMatcher needle) (fun _ => other) skip text := by
    induction text with
    | nil =>
        intro skip
        cases skip with
        | zero => rfl
        | succ skip => rfl
    | cons c rest inductionHypothesis =>
        intro skip
        cases skip with
        | succ skip => exact inductionHypothesis skip
        | zero =>
            obtain ⟨more, isLength⟩ : ∃ more, needle.length = more + 1 :=
              ⟨needle.length - 1, by have := List.length_pos_iff.mpr nonempty; omega⟩
            rw [replaceFrom, substituteFrom, literalMatcher]
            split
            · rw [isLength, Nat.add_sub_cancel]
              dsimp only
              rw [inductionHypothesis]
            · dsimp only
              rw [inductionHypothesis]
  exact each 0

/-- Replacing matches of two characters or more by as many blanks blanks parts of a text. -/
theorem blanked_substitute
    (fits : ∀ text count, matcher text = some count → 2 ≤ count ∧ count ≤ text.length)
    (isBlank : ∀ text count, matcher text = some count →
      replacement (text.take count) = blanks count)
    (text : Str) : Blanked text (substitute matcher replacement text) := by
  have each : ∀ skip ≤ text.length,
      Blanked (text.drop skip) (substituteFrom matcher replacement skip text) := by
    induction text with
    | nil =>
        intro skip bound
        rw [Nat.le_zero.mp bound]
        exact .nil
    | cons c rest inductionHypothesis =>
        intro skip bound
        cases skip with
        | succ skip => exact inductionHypothesis skip (Nat.le_of_succ_le_succ bound)
        | zero =>
            rw [List.drop_zero, substituteFrom]
            split
            · rename_i more found
              obtain ⟨long, inside⟩ := fits _ _ found
              have size : ((c :: rest).take (more + 1)).length = more + 1 :=
                List.length_take_of_le inside
              rw [isBlank _ _ found]
              have blanked := Blanked.blank ((c :: rest).take (more + 1))
                (by rw [size]; exact long)
                (inductionHypothesis more (Nat.le_of_succ_le_succ inside))
              rwa [size, ← List.drop_succ_cons (a := c), List.take_append_drop] at blanked
            · exact .keep c (inductionHypothesis 0 (Nat.zero_le _))
  exact each 0 (Nat.zero_le _)

/-- Where no match runs from a text into what follows, both are replaced apart. -/
theorem substitute_append
    {front : Str}
    (rest : Str)
    (fits : ∀ text count, matcher text = some count → count ≤ text.length)
    (apart : ∀ k < front.length, matcher (front.drop k ++ rest) = matcher (front.drop k)) :
    substitute matcher replacement (front ++ rest) =
      substitute matcher replacement front ++ substitute matcher replacement rest := by
  have each : ∀ skip ≤ front.length, substituteFrom matcher replacement skip (front ++ rest) =
      substituteFrom matcher replacement skip front ++
        substituteFrom matcher replacement 0 rest := by
    induction front with
    | nil =>
        intro skip bound
        rw [Nat.le_zero.mp bound]
        rfl
    | cons c front inductionHypothesis =>
        have later := inductionHypothesis fun k inside => apart (k + 1) (Nat.succ_lt_succ inside)
        intro skip bound
        cases skip with
        | succ skip => exact later skip (Nat.le_of_succ_le_succ bound)
        | zero =>
            have here := apart 0 (Nat.succ_pos _)
            rw [List.drop_zero, List.cons_append] at here
            rw [List.cons_append, substituteFrom, substituteFrom, here]
            split
            · rename_i more found
              have inside := fits _ _ found
              rw [later more (Nat.le_of_succ_le_succ inside), ← List.cons_append,
                List.take_append_of_le_length inside, List.append_assoc]
            · rw [later 0 (Nat.zero_le _), List.cons_append]
  exact each 0 (Nat.zero_le _)

/-- Where no match runs from a piece into the blank after it, the pieces are replaced apart. -/
theorem Segmented.substitute_tight
    {closing : Char → Bool}
    {segments : List (Str × Str)}
    {change : Str → Str}
    (segmented : Segmented closing segments)
    (fits : ∀ text count, matcher text = some count → count ≤ text.length)
    (blank : ∀ rest, matcher (' ' :: rest) = none)
    (apart : ∀ piece last, piece.getLast? = some last → closing last = true →
      ∀ k < (change piece).length, ∀ rest,
        matcher ((change piece).drop k ++ ' ' :: rest) = matcher ((change piece).drop k)) :
    substitute matcher replacement
        (tight (segments.map fun segment => (change segment.1, segment.2))) =
      tight (segments.map fun segment =>
        (substitute matcher replacement (change segment.1), segment.2)) := by
  induction segmented with
  | last piece => rfl
  | @cons piece gap last next rest ends closes nonempty spaces others inductionHypothesis =>
      rw [List.map_cons, List.map_cons, tight_cons, List.map_cons, List.map_cons, tight_cons,
        substitute_append _ fits fun k inside => apart piece last ends closes k inside _]
      rw [List.map_cons, List.map_cons] at inductionHypothesis
      rw [← inductionHypothesis]
      refine congrArg _ ?_
      rw [substitute, substituteFrom, blank]
      rfl

end Replacing

/-! ## Occurrences -/

/-- Where a needle occurs, from the left; `skip` characters still belong to the last
occurrence. -/
def startsFrom (needle : Str) : (skip position : Nat) → Str → List Nat
  | _, _, [] => []
  | 0, position, c :: rest =>
      if needle.isPrefixOf (c :: rest) then
        position :: startsFrom needle (needle.length - 1) (position + 1) rest
      else startsFrom needle 0 (position + 1) rest
  | skip + 1, position, _ :: rest => startsFrom needle skip (position + 1) rest

/-- Where a needle occurs in a text. -/
def starts (needle text : Str) : List Nat := startsFrom needle 0 0 text

section Starts

variable {needle : Str}

/-- Occurrences are found in their order. -/
private theorem sorted_startsFrom (skip position : Nat) (text : Str) :
    (startsFrom needle skip position text).Pairwise (· < ·) ∧
      ∀ i ∈ startsFrom needle skip position text, position ≤ i := by
  induction text generalizing skip position with
  | nil =>
      cases skip with
      | zero => exact ⟨.nil, by simp [startsFrom]⟩
      | succ skip => exact ⟨.nil, by simp [startsFrom]⟩
  | cons c rest inductionHypothesis =>
      cases skip with
      | succ skip =>
          obtain ⟨sorted, later⟩ := inductionHypothesis skip (position + 1)
          exact ⟨sorted, fun i held => Nat.le_of_succ_le (later i held)⟩
      | zero =>
          rw [startsFrom]
          split
          · obtain ⟨sorted, later⟩ := inductionHypothesis (needle.length - 1) (position + 1)
            refine ⟨List.pairwise_cons.mpr ⟨later, sorted⟩, ?_⟩
            rw [List.forall_mem_cons]
            exact ⟨Nat.le_refl _, fun i held => Nat.le_of_succ_le (later i held)⟩
          · obtain ⟨sorted, later⟩ := inductionHypothesis 0 (position + 1)
            exact ⟨sorted, fun i held => Nat.le_of_succ_le (later i held)⟩

theorem sorted_starts (text : Str) : (starts needle text).Pairwise (· < ·) :=
  (sorted_startsFrom 0 0 text).1

/-- A needle does not occur where an occurrence of it goes on, if its first character does not
occur in it again. -/
private theorem not_occurs_inside
    {first : Char}
    {tail rest : Str}
    (once : first ∉ tail)
    (occurs : tail.isPrefixOf rest = true)
    {k : Nat}
    (inside : k < tail.length) : (first :: tail).isPrefixOf (rest.drop k) = false := by
  obtain ⟨others, rfl⟩ := List.isPrefixOf_iff_prefix.mp occurs
  rw [List.drop_append_of_le_length (Nat.le_of_lt inside), List.drop_eq_getElem_cons inside,
    List.cons_append, List.isPrefixOf_cons_cons, Bool.and_eq_false_iff, beq_eq_false_iff_ne]
  refine Or.inl fun same => once ?_
  rw [same]
  exact List.getElem_mem inside

/-- The places of a text are its first and those of the rest. -/
private theorem exists_place_cons
    (holds : Str → Prop)
    {position i : Nat}
    {c : Char}
    {rest : Str} :
    (∃ k, i = position + k ∧ holds ((c :: rest).drop k)) ↔
      i = position ∧ holds (c :: rest) ∨ ∃ k, i = position + 1 + k ∧ holds (rest.drop k) := by
  constructor
  · rintro ⟨k, isPlace, held⟩
    cases k with
    | zero => exact Or.inl ⟨isPlace, held⟩
    | succ k => exact Or.inr ⟨k, by omega, held⟩
  · rintro (⟨isPlace, held⟩ | ⟨k, isPlace, held⟩)
    · exact ⟨0, isPlace, held⟩
    · exact ⟨k + 1, by omega, held⟩

/-- A needle whose first character does not occur in it again is found wherever it occurs. -/
private theorem mem_startsFrom
    {first : Char}
    {tail : Str}
    (once : first ∉ tail)
    {skip position : Nat}
    {text : Str}
    (apart : ∀ k < skip, (first :: tail).isPrefixOf (text.drop k) = false)
    (i : Nat) :
    i ∈ startsFrom (first :: tail) skip position text ↔
      ∃ k, i = position + k ∧ (first :: tail).isPrefixOf (text.drop k) = true := by
  induction text generalizing skip position with
  | nil =>
      have none : startsFrom (first :: tail) skip position [] = [] := by
        cases skip with
        | zero => rfl
        | succ skip => rfl
      rw [none]
      refine iff_of_false List.not_mem_nil ?_
      rintro ⟨k, -, occurs⟩
      rw [List.drop_nil] at occurs
      cases occurs
  | cons c rest inductionHypothesis =>
      rw [exists_place_cons fun text => (first :: tail).isPrefixOf text = true]
      cases skip with
      | succ skip =>
          have notHere := apart 0 (Nat.succ_pos _)
          rw [List.drop_zero] at notHere
          rw [startsFrom, inductionHypothesis fun k inside => apart (k + 1)
            (Nat.succ_lt_succ inside), notHere]
          simp only [Bool.false_eq_true, and_false, false_or]
      | zero =>
          rw [startsFrom]
          split
          case isTrue occurs =>
            have goesOn : tail.isPrefixOf rest = true := by
              rw [List.isPrefixOf_cons_cons, Bool.and_eq_true] at occurs
              exact occurs.2
            rw [List.mem_cons, List.length_cons, Nat.add_sub_cancel,
              inductionHypothesis fun k inside => not_occurs_inside once goesOn inside, occurs]
            simp only [and_true]
          case isFalse notHere =>
            rw [inductionHypothesis fun k inside => absurd inside (Nat.not_lt_zero k)]
            simp only [notHere, Bool.false_eq_true, and_false, false_or]

/-- A needle whose first character does not occur in it again is found wherever it occurs. -/
theorem mem_starts
    {first : Char}
    {tail : Str}
    (once : first ∉ tail)
    {text : Str}
    {i : Nat} :
    i ∈ starts (first :: tail) text ↔ (first :: tail).isPrefixOf (text.drop i) = true := by
  rw [starts, mem_startsFrom once fun k inside => absurd inside (Nat.not_lt_zero k)]
  simp only [Nat.zero_add, exists_eq_left']

end Starts

end Blanking
end ChatPlatform
