import ChatPlatform.Foundation.JsonRead
import ChatPlatform.Foundation.Lines

/-!
# Where JSON strings begin and end

A scan that only tells string literals from what is between them. A text that a reader
accepts is scanned from outside to outside; within a string it holds no control character,
and outside of one it holds no line break other than a line feed or a carriage return.
-/

namespace ChatPlatform
namespace Json

/-- The place of a scan. -/
inductive Lexical
  /-- Between string literals. -/
  | outside
  /-- Within a string literal. -/
  | inside
  /-- Within a string literal, after a backslash. -/
  | escaped
  deriving DecidableEq, Repr

/-- The characters that may follow a backslash. -/
def isEscapable (c : Char) : Bool := c = 'u' || (shortEscapes.lookup c).isSome

/-- The place after one character, if it may stand there. -/
def lexChar : Lexical → Char → Option Lexical
  | .outside, c =>
      if c = '"' then some .inside
      else if Text.isLineBreak c && !isBlank c then none
      else some .outside
  | .inside, c =>
      if c = '"' then some .outside
      else if c = '\\' then some .escaped
      else if c.toNat < 32 then none
      else some .inside
  | .escaped, c => if isEscapable c then some .inside else none

/-- The place after a text. -/
def lex : Lexical → Str → Option Lexical
  | place, [] => some place
  | place, c :: rest => (lexChar place c).bind fun next => lex next rest

/-- A text is scanned after the text before it. -/
theorem lex_append (place : Lexical) (s rest : Str) :
    lex place (s ++ rest) = (lex place s).bind fun next => lex next rest := by
  induction s generalizing place with
  | nil => rfl
  | cons c s inductionHypothesis =>
      rw [List.cons_append, lex, lex]
      cases lexChar place c with
      | none => rfl
      | some next => exact inductionHypothesis next

/-- A text of characters that keep the place keeps the place. -/
theorem lex_of_kept
    {place : Lexical}
    {s : Str}
    (kept : ∀ c ∈ s, lexChar place c = some place) : lex place s = some place := by
  induction s with
  | nil => rfl
  | cons c s inductionHypothesis =>
      rw [lex, kept c List.mem_cons_self]
      exact inductionHypothesis fun d present => kept d (List.mem_cons_of_mem _ present)

/-- A text of characters that keep the place is passed over. -/
theorem lex_append_of_kept
    {place : Lexical}
    {s : Str}
    (kept : ∀ c ∈ s, lexChar place c = some place)
    (rest : Str) : lex place (s ++ rest) = lex place rest := by
  rw [lex_append, lex_of_kept kept]
  rfl

/-! ## What a reader accepts -/

/-- Outside of a string a character that is neither a break nor a quotation mark may
stand. -/
theorem lexChar_outside
    {c : Char}
    (notQuotation : c ≠ '"')
    (fits : Text.isLineBreak c = false ∨ isBlank c = true) :
    lexChar .outside c = some .outside := by
  rw [lexChar, if_neg notQuotation, if_neg]
  rcases fits with noBreak | blank
  · simp [noBreak]
  · simp [blank]

/-- White space between tokens is passed over. -/
theorem lex_skipBlank (text : Str) : lex .outside (skipBlank text) = lex .outside text := by
  have kept : ∀ c ∈ text.takeWhile isBlank, lexChar .outside c = some .outside := by
    intro c present
    have blank := List.mem_takeWhile_imp present
    refine lexChar_outside ?_ (Or.inr blank)
    rintro rfl
    exact absurd blank (by decide)
  have whole := lex_append_of_kept kept (skipBlank text)
  rw [skipBlank, List.takeWhile_append_dropWhile] at whole
  exact whole.symm

/-- A hexadecimal digit stands for itself within a string. -/
private theorem lexChar_of_hexValue
    {c : Char}
    {digit : Nat}
    (valued : hexValue c = some digit) : lexChar .inside c = some .inside := by
  have ascii : c.toNat < 128 := by
    unfold hexValue at valued
    split at valued
    · assumption
    · cases valued
  have table : ∀ n < 128, hexValue (Char.ofNat n) ≠ none →
      lexChar .inside (Char.ofNat n) = some .inside := by decide
  have found := table c.toNat ascii
  rw [Char.ofNat_toNat, valued] at found
  exact found nofun

/-- The digits of a code unit are passed over. -/
private theorem lex_of_scanUnit
    {text rest : Str}
    {unit : Nat}
    (scanned : scanUnit text = some (unit, rest)) :
    lex .inside text = lex .inside rest := by
  unfold scanUnit at scanned
  split at scanned
  · split at scanned
    · rename_i a b c d first second third fourth
      cases scanned
      simp only [lex, lexChar_of_hexValue first, lexChar_of_hexValue second,
        lexChar_of_hexValue third, lexChar_of_hexValue fourth, Option.bind_some]
    · cases scanned
  · cases scanned

/-- The second half of a pair is passed over. -/
private theorem lex_of_scanLow
    {high : Nat}
    {text rest : Str}
    {c : Char}
    (scanned : scanLow high text = some (c, rest)) : lex .inside text = lex .inside rest := by
  unfold scanLow at scanned
  split at scanned
  · rename_i after
    cases isUnit : scanUnit after with
    | none =>
        rw [isUnit] at scanned
        cases scanned
    | some unit =>
        obtain ⟨low, left⟩ := unit
        rw [isUnit] at scanned
        dsimp only at scanned
        split at scanned
        · obtain ⟨-, rfl⟩ := Prod.mk.inj (Option.some.inj scanned)
          calc lex .inside ('\\' :: 'u' :: after)
          _ = lex .inside after := rfl
          _ = lex .inside left := lex_of_scanUnit isUnit
        · cases scanned
  · cases scanned

/-- A code point is passed over. -/
private theorem lex_of_scanCodePoint
    {text rest : Str}
    {c : Char}
    (scanned : scanCodePoint text = some (c, rest)) :
    lex .inside text = lex .inside rest := by
  unfold scanCodePoint at scanned
  cases isUnit : scanUnit text with
  | none =>
      rw [isUnit] at scanned
      cases scanned
  | some unit =>
      obtain ⟨unit, after⟩ := unit
      rw [isUnit] at scanned
      dsimp only at scanned
      rw [lex_of_scanUnit isUnit]
      split at scanned
      · exact lex_of_scanLow scanned
      · split at scanned
        · cases scanned
        · obtain ⟨-, rfl⟩ := Prod.mk.inj (Option.some.inj scanned)
          rfl

/-- A character of a string is passed over. -/
theorem lex_of_scanChar
    {text rest : Str}
    {c : Char}
    (scanned : scanChar text = some (c, rest)) : lex .inside text = lex .inside rest := by
  unfold scanChar at scanned
  split at scanned
  · cases scanned
  · rename_i first after
    split at scanned
    · cases scanned
    · rename_i notQuotation
      split at scanned
      · rename_i isBackslash
        split at scanned
        · cases scanned
        · rename_i escape left
          have opens : lexChar .inside first = some .escaped := by
            rw [lexChar, if_neg notQuotation, if_pos isBackslash]
          have closes : isEscapable escape = true →
              lex .inside (first :: escape :: left) = lex .inside left := by
            intro may
            rw [lex, opens]
            show (lexChar .escaped escape).bind _ = _
            rw [lexChar, if_pos may]
            rfl
          unfold scanEscape at scanned
          split at scanned
          · rename_i isUnicode
            rw [closes (by rw [isUnicode]; decide)]
            exact lex_of_scanCodePoint scanned
          · obtain ⟨meant, isMeant, same⟩ := Option.map_eq_some_iff.mp scanned
            cases same
            exact closes (by simp [isEscapable, isMeant])
      · rename_i notBackslash
        split at scanned
        · cases scanned
        · rename_i visible
          obtain ⟨rfl, rfl⟩ := Prod.mk.inj (Option.some.inj scanned)
          rw [lex, lexChar, if_neg notQuotation, if_neg notBackslash, if_neg visible]
          rfl

/-- The rest of a string is passed over, with the quotation mark that ends it. -/
theorem lex_of_scanChars
    {fuel : Nat}
    {text s rest : Str}
    (scanned : scanChars fuel text = some (s, rest)) :
    lex .inside text = lex .outside rest := by
  induction fuel generalizing text s with
  | zero => cases scanned
  | succ fuel inductionHypothesis =>
      unfold scanChars at scanned
      split at scanned
      · obtain ⟨rfl, rfl⟩ := Prod.mk.inj (Option.some.inj scanned)
        rfl
      · split at scanned
        · cases scanned
        · rename_i c after isChar
          obtain ⟨⟨others, left⟩, isRest, same⟩ := Option.map_eq_some_iff.mp scanned
          cases same
          rw [lex_of_scanChar isChar]
          exact inductionHypothesis isRest

variable {F : Type} [FloatOps F]

/-- The characters of a word stand between strings. -/
private theorem lexChar_of_mem_words
    {reading : Reading}
    {word : Str}
    {value : Option (Value F)}
    (isWord : (word, value) ∈ words reading) :
    ∀ c ∈ word, lexChar .outside c = some .outside := by
  have table : ∀ word ∈ ["null".toList, "true".toList, "false".toList, "NaN".toList,
      "Infinity".toList, "-Infinity".toList], ∀ c ∈ word,
        lexChar .outside c = some .outside := by decide
  refine table word ?_
  unfold words at isWord
  rcases List.mem_append.mp isWord with plain | constant
  · simp only [List.mem_cons, List.not_mem_nil, or_false, Prod.mk.injEq] at plain
    rcases plain with ⟨rfl, -⟩ | ⟨rfl, -⟩ | ⟨rfl, -⟩ <;> decide
  · split at constant
    · obtain ⟨name, held, same⟩ := List.mem_map.mp constant
      obtain ⟨rfl, -⟩ := Prod.mk.inj same
      exact List.mem_append_right ["null".toList, "true".toList, "false".toList] held
    · exact absurd constant List.not_mem_nil

/-- The characters of a number stand between strings. -/
private theorem lexChar_of_isNumberChar
    {c : Char}
    (isNumber : isNumberChar c = true) : lexChar .outside c = some .outside := by
  have table : ∀ c ∈ "0123456789+-.eE".toList, lexChar .outside c = some .outside := by decide
  exact table c (List.contains_iff_mem.mp isNumber)

/-- A word or a number is passed over. -/
private theorem lex_of_readAtom
    {reading : Reading}
    {text rest : Str}
    {value : Value F}
    (isRead : readAtom reading text = some (value, rest)) :
    lex .outside text = lex .outside rest := by
  unfold readAtom at isRead
  split at isRead
  · rename_i word held isWord
    obtain ⟨found, isFound, same⟩ := Option.map_eq_some_iff.mp isRead
    cases same
    have starts : word.isPrefixOf text = true := by simpa using List.find?_some isWord
    obtain ⟨after, rfl⟩ := List.isPrefixOf_iff_prefix.mp starts
    rw [List.drop_left]
    exact lex_append_of_kept (lexChar_of_mem_words (List.mem_of_find?_eq_some isWord)) after
  · unfold scanNumber at isRead
    obtain ⟨found, valued, same⟩ := Option.map_eq_some_iff.mp isRead
    cases same
    have kept : ∀ c ∈ text.takeWhile isNumberChar, lexChar .outside c = some .outside :=
      fun c present => lexChar_of_isNumberChar (List.mem_takeWhile_imp present)
    have whole := lex_append_of_kept kept (text.dropWhile isNumberChar)
    rw [List.takeWhile_append_dropWhile] at whole
    exact whole

/-- A quotation mark opens a string. -/
private theorem lex_quotation (rest : Str) : lex .outside ('"' :: rest) = lex .inside rest := rfl

/-- A mark between tokens is passed over. -/
private theorem lex_mark
    {c : Char}
    (isMark : c ∈ ['[', ']', '\x7b', '\x7d', ',', ':'])
    (rest : Str) : lex .outside (c :: rest) = lex .outside rest := by
  have table : ∀ c ∈ ['[', ']', '\x7b', '\x7d', ',', ':'],
      lexChar .outside c = some .outside := by decide
  rw [lex, table c isMark]
  rfl

/-- What follows white space begins with a mark that is passed over. -/
private theorem lex_of_head_skipBlank
    {c : Char}
    (isMark : c ∈ ['[', ']', '\x7b', '\x7d', ',', ':'])
    {text : Str}
    (starts : (skipBlank text).head? = some c) :
    lex .outside text = lex .outside ((skipBlank text).drop 1) := by
  rw [← lex_skipBlank text]
  cases held : skipBlank text with
  | nil =>
      rw [held] at starts
      cases starts
  | cons d rest =>
      rw [held] at starts
      cases starts
      exact lex_mark isMark rest

/-- A key is passed over, with its colon. -/
private theorem lex_of_readKey
    {fuel : Nat}
    {text key rest : Str}
    (isRead : readKey fuel text = some (key, rest)) :
    lex .outside text = lex .outside rest := by
  unfold readKey at isRead
  split at isRead
  · cases isRead
  · rename_i c after
    split at isRead
    · rename_i isQuotation
      split at isRead
      · cases isRead
      · rename_i scanned left isKey
        split at isRead
        · cases isRead
        · rename_i mark others isLeft
          split at isRead
          · rename_i isColon
            obtain ⟨-, rfl⟩ := Prod.mk.inj (Option.some.inj isRead)
            rw [isQuotation, lex_quotation, lex_of_scanChars isKey, ← lex_skipBlank left, isLeft,
              isColon, lex_mark (by decide), lex_skipBlank]
          · cases isRead
    · cases isRead

/-- What a reader takes is scanned from outside to outside. -/
theorem lex_of_read (reading : Reading) (fuel : Nat) :
    (∀ {text rest : Str} {value : Value F},
      readValue reading fuel text = some (value, rest) →
        lex .outside text = lex .outside rest) ∧
    (∀ {text rest : Str} {items : List (Value F)},
      readItems reading fuel text = some (items, rest) →
        lex .outside text = lex .outside rest) ∧
    (∀ {text rest : Str} {entries : List (Str × Value F)},
      readEntries reading fuel text = some (entries, rest) →
        lex .outside text = lex .outside rest) := by
  induction fuel with
  | zero =>
      refine ⟨?_, ?_, ?_⟩ <;>
      · intro _ _ _ isRead
        cases isRead
  | succ fuel inductionHypothesis =>
      obtain ⟨values, items, entries⟩ := inductionHypothesis
      refine ⟨?_, ?_, ?_⟩
      · intro text rest value isRead
        cases text with
        | nil => cases isRead
        | cons c after =>
            rw [readValue] at isRead
            split at isRead
            · rename_i isQuotation
              obtain ⟨⟨s, left⟩, isString, same⟩ := Option.map_eq_some_iff.mp isRead
              cases same
              rw [isQuotation, lex_quotation]
              exact lex_of_scanChars isString
            · split at isRead
              · rename_i isMark
                rw [isMark, lex_mark (by decide)]
                split at isRead
                · rename_i isEmpty
                  cases isRead
                  exact lex_of_head_skipBlank (by decide) isEmpty
                · obtain ⟨⟨read, left⟩, isItems, same⟩ := Option.map_eq_some_iff.mp isRead
                  cases same
                  rw [← lex_skipBlank after]
                  exact items isItems
              · split at isRead
                · rename_i isMark
                  rw [isMark, lex_mark (by decide)]
                  split at isRead
                  · rename_i isEmpty
                    cases isRead
                    exact lex_of_head_skipBlank (by decide) isEmpty
                  · obtain ⟨⟨read, left⟩, isEntries, built⟩ :=
                      Option.bind_eq_some_iff.mp isRead
                    obtain ⟨found, -, same⟩ := Option.map_eq_some_iff.mp built
                    cases same
                    rw [← lex_skipBlank after]
                    exact entries isEntries
                · exact lex_of_readAtom isRead
      · intro text rest read isRead
        rw [readItems] at isRead
        split at isRead
        · cases isRead
        · rename_i item after isItem
          rw [values isItem, ← lex_skipBlank after]
          split at isRead
          · cases isRead
          · rename_i c others isLeft
            rw [isLeft]
            split at isRead
            · rename_i isComma
              obtain ⟨⟨later, left⟩, isLater, same⟩ := Option.map_eq_some_iff.mp isRead
              cases same
              rw [isComma, lex_mark (by decide), ← lex_skipBlank others]
              exact items isLater
            · split at isRead
              · rename_i isEnd
                cases isRead
                rw [isEnd, lex_mark (by decide)]
              · cases isRead
      · intro text rest read isRead
        rw [readEntries] at isRead
        split at isRead
        · cases isRead
        · rename_i key left isKey
          rw [lex_of_readKey isKey]
          split at isRead
          · cases isRead
          · rename_i value after isValue
            rw [values isValue, ← lex_skipBlank after]
            split at isRead
            · cases isRead
            · rename_i c others isLeft
              rw [isLeft]
              split at isRead
              · rename_i isComma
                obtain ⟨⟨later, left⟩, isLater, same⟩ := Option.map_eq_some_iff.mp isRead
                cases same
                rw [isComma, lex_mark (by decide), ← lex_skipBlank others]
                exact entries isLater
              · split at isRead
                · rename_i isEnd
                  cases isRead
                  rw [isEnd, lex_mark (by decide)]
                · cases isRead

/-- A text that stands for a value is scanned from outside to outside. -/
theorem lex_of_loads
    {reading : Reading}
    {text : Str}
    {value : Value F}
    (isRead : loads reading text = some value) : lex .outside text = some .outside := by
  unfold loads at isRead
  split at isRead
  · cases isRead
  · rename_i found rest isFound
    split at isRead
    · rename_i nothingLeft
      rw [← lex_skipBlank text, (lex_of_read reading _).1 isFound, ← lex_skipBlank rest,
        nothingLeft]
      rfl
    · cases isRead

/-! ## Open strings -/

/-- The quotation mark, the backslash and the characters that may follow a backslash. -/
private def marks : List Char := ['"', '\\', '/', 'b', 'f', 'n', 'r', 't', 'u']

/-- What a backslash may precede is a mark. -/
private theorem mem_marks_of_isEscapable
    {c : Char}
    (may : isEscapable c = true) : c ∈ marks := by
  unfold isEscapable at may
  rcases Bool.or_eq_true _ _ ▸ may with isUnicode | isShort
  · rw [of_decide_eq_true isUnicode]
    decide
  · obtain ⟨meant, isMeant⟩ := Option.isSome_iff_exists.mp isShort
    have table : ∀ escape ∈ shortEscapes, escape.1 ∈ marks := by decide
    obtain ⟨before, later, same, -⟩ := List.lookup_eq_some_iff.mp isMeant
    refine table (c, meant) ?_
    rw [same]
    exact List.mem_append_right _ List.mem_cons_self

/-- A character that is no mark keeps its place, and it does not follow a backslash. -/
private theorem lexChar_of_not_mem_marks
    {c : Char}
    (noMark : c ∉ marks)
    {place next : Lexical}
    (taken : lexChar place c = some next) :
    next = place ∧ (place = .outside ∧ (Text.isLineBreak c && !isBlank c) = false ∨
      place = .inside ∧ 32 ≤ c.toNat) := by
  have notQuotation : c ≠ '"' := fun same => noMark (by rw [same]; decide)
  have notBackslash : c ≠ '\\' := fun same => noMark (by rw [same]; decide)
  cases place with
  | outside =>
      rw [lexChar, if_neg notQuotation] at taken
      split at taken
      · cases taken
      · exact ⟨(Option.some.inj taken).symm, Or.inl ⟨rfl, Bool.eq_false_iff.mpr ‹_›⟩⟩
  | inside =>
      rw [lexChar, if_neg notQuotation, if_neg notBackslash] at taken
      split at taken
      · cases taken
      · exact ⟨(Option.some.inj taken).symm, Or.inr ⟨rfl, by omega⟩⟩
  | escaped =>
      rw [lexChar] at taken
      split at taken
      · exact absurd (mem_marks_of_isEscapable ‹_›) noMark
      · cases taken

/-- White space is no mark. -/
private theorem not_mem_marks_of_isSpace
    {c : Char}
    (isSpace : Text.isSpace c = true) : c ∉ marks := by
  have table : ∀ d ∈ marks, Text.isSpace d = false := by decide
  intro isMark
  rw [table c isMark] at isSpace
  cases isSpace

/-- Within a text that is scanned to its end, a break that is no white space between
tokens stands in an open string and is no control character. -/
theorem open_before_break
    {start rest : Str}
    {c : Char}
    {last : Lexical}
    (isBreak : Text.isLineBreak c = true)
    (notBlank : isBlank c = false)
    (scanned : lex .outside (start ++ c :: rest) = some last) :
    lex .outside start = some .inside ∧ 32 ≤ c.toNat := by
  rw [lex_append] at scanned
  obtain ⟨place, before, after⟩ := Option.bind_eq_some_iff.mp scanned
  rw [lex] at after
  obtain ⟨next, taken, -⟩ := Option.bind_eq_some_iff.mp after
  have noMark := not_mem_marks_of_isSpace (Text.isSpace_of_isLineBreak isBreak)
  rcases lexChar_of_not_mem_marks noMark taken with ⟨-, ⟨-, may⟩ | ⟨isInside, visible⟩⟩
  · simp [isBreak, notBlank] at may
  · rw [isInside] at before
    exact ⟨before, visible⟩

/-- White space at the start changes no place. -/
theorem lex_dropWhile_isSpace
    {s : Str}
    {place last : Lexical}
    (scanned : lex place s = some last) :
    lex place (s.dropWhile Text.isSpace) = some last := by
  induction s with
  | nil => exact scanned
  | cons c s inductionHypothesis =>
      cases isSpace : Text.isSpace c with
      | false => rw [List.dropWhile_cons_of_neg (by simp [isSpace]), scanned]
      | true =>
          rw [List.dropWhile_cons_of_pos isSpace]
          rw [lex] at scanned
          obtain ⟨next, taken, after⟩ := Option.bind_eq_some_iff.mp scanned
          rw [(lexChar_of_not_mem_marks (not_mem_marks_of_isSpace isSpace) taken).1] at after
          exact inductionHypothesis after

/-- White space at the end changes no place. -/
theorem lex_rdropWhile_isSpace
    {s : Str}
    {place last : Lexical}
    (scanned : lex place s = some last) :
    lex place (s.rdropWhile Text.isSpace) = some last := by
  induction s using List.reverseRecOn generalizing last with
  | nil => exact scanned
  | append_singleton s c inductionHypothesis =>
      cases isSpace : Text.isSpace c with
      | false => rw [List.rdropWhile_concat_neg _ _ _ (by simp [isSpace]), scanned]
      | true =>
          rw [List.rdropWhile_concat_pos _ _ _ isSpace]
          rw [lex_append] at scanned
          obtain ⟨next, before, after⟩ := Option.bind_eq_some_iff.mp scanned
          rw [lex] at after
          obtain ⟨reached, taken, same⟩ := Option.bind_eq_some_iff.mp after
          cases same
          rw [(lexChar_of_not_mem_marks (not_mem_marks_of_isSpace isSpace) taken).1]
          exact inductionHypothesis before

/-- White space that may stand outside of strings may stand at the end. -/
private theorem lex_of_lex_rdropWhile
    {s : Str}
    (kept : ∀ c ∈ s, Text.isSpace c = true → lexChar .outside c = some .outside)
    (scanned : lex .outside (s.rdropWhile Text.isSpace) = some .outside) :
    lex .outside s = some .outside := by
  induction s using List.reverseRecOn with
  | nil => exact scanned
  | append_singleton s c inductionHypothesis =>
      cases isSpace : Text.isSpace c with
      | false => rwa [List.rdropWhile_concat_neg _ _ _ (by simp [isSpace])] at scanned
      | true =>
          rw [List.rdropWhile_concat_pos _ _ _ isSpace] at scanned
          have before := inductionHypothesis
            (fun d present => kept d (List.mem_append_left _ present)) scanned
          rw [lex_append, before, Option.bind_some, lex,
            kept c (List.mem_append_right _ List.mem_cons_self) isSpace]
          rfl

/-- White space around a text that is scanned from outside to outside, without breaks other
than those between tokens, may stand there too. -/
theorem lex_of_lex_strip
    {s : Str}
    (fits : ∀ c ∈ s, Text.isLineBreak c = false ∨ isBlank c = true)
    (scanned : lex .outside (Text.strip s) = some .outside) : lex .outside s = some .outside := by
  have kept : ∀ c ∈ s, Text.isSpace c = true → lexChar .outside c = some .outside := by
    intro c present isSpace
    refine lexChar_outside ?_ (fits c present)
    rintro rfl
    exact absurd isSpace (by decide)
  have front : ∀ c ∈ s.takeWhile Text.isSpace, lexChar .outside c = some .outside :=
    fun c present => kept c ((List.takeWhile_prefix _).subset present)
      (List.mem_takeWhile_imp present)
  have whole := lex_append_of_kept front (s.dropWhile Text.isSpace)
  rw [List.takeWhile_append_dropWhile] at whole
  rw [whole]
  exact lex_of_lex_rdropWhile
    (fun c present => kept c ((List.dropWhile_suffix _).subset present)) scanned

/-- No line of lines that are scanned from outside to outside leaves a string open. -/
theorem not_open_of_lex_join
    {lines : List Str}
    (scanned : lex .outside (Text.join ['\n'] lines) = some .outside) :
    ∀ line ∈ lines, lex .outside line ≠ some .inside := by
  induction lines with
  | nil => exact fun _ present => absurd present List.not_mem_nil
  | cons first rest inductionHypothesis =>
      intro line present isOpen
      cases rest with
      | nil =>
          rw [List.mem_singleton] at present
          rw [Text.join_singleton, ← present, isOpen] at scanned
          cases scanned
      | cons next rest =>
          rw [Text.join_cons_of_ne_nil _ _ (List.cons_ne_nil _ _), List.append_assoc,
            lex_append] at scanned
          obtain ⟨place, before, after⟩ := Option.bind_eq_some_iff.mp scanned
          have notOpen : place = .outside := by
            cases place with
            | outside => rfl
            | inside => cases after
            | escaped => cases after
          rw [notOpen] at before after
          rcases List.mem_cons.mp present with rfl | later
          · rw [isOpen] at before
            cases before
          · exact inductionHypothesis after line later isOpen

end Json
end ChatPlatform
