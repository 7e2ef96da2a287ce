import ChatPlatform.Foundation.JsonRead
import Mathlib.Algebra.Order.BigOperators.Group.List
import Mathlib.Data.List.Perm.Subperm

/-!
# The bytes of JSON texts

The weight of a value is the number of bytes of the shortest text it can be read from. A
reader that refuses repeated keys takes at least the weight of a value from the front of
a text. The size of a written value does not depend on the order of its entries, and a
literal has at most six bytes for each byte of its string.
-/

namespace ChatPlatform

namespace Text

/-- A character of ASCII has one byte. -/
theorem utf8Size_of_ascii {c : Char} (ascii : c.toNat < 128) : c.utf8Size = 1 := by
  rw [Char.utf8Size_eq_one_iff]
  exact UInt32.le_iff_toNat_le.mpr (Nat.le_of_lt_succ ascii)

/-- A text in ASCII has a byte for each character. -/
theorem utf8Length_of_ascii
    {text : Str}
    (ascii : ∀ c ∈ text, c.toNat < 128) : utf8Length text = text.length := by
  induction text with
  | nil => rfl
  | cons c rest inductionHypothesis =>
      rw [utf8Length_cons, utf8Size_of_ascii (ascii c List.mem_cons_self),
        inductionHypothesis fun other held => ascii other (List.mem_cons_of_mem _ held),
        List.length_cons, Nat.add_comm]

/-- A text has at least a byte for each character. -/
theorem length_le_utf8Length (text : Str) : text.length ≤ utf8Length text := by
  induction text with
  | nil => exact Nat.le_refl 0
  | cons c rest inductionHypothesis =>
      have positive := Char.utf8Size_pos c
      rw [List.length_cons, utf8Length_cons]
      omega

/-- What follows some characters has no more bytes. -/
theorem utf8Length_dropWhile_le (drops : Char → Bool) (text : Str) :
    utf8Length (text.dropWhile drops) ≤ utf8Length text := by
  have whole := congrArg utf8Length (List.takeWhile_append_dropWhile (p := drops) (l := text))
  rw [utf8Length_append] at whole
  omega

/-- Separators take a byte each. -/
theorem utf8Length_join (c : Char) (ascii : c.toNat < 128) (pieces : List Str) :
    utf8Length (join [c] pieces) = (pieces.map utf8Length).sum + (pieces.length - 1) := by
  induction pieces with
  | nil => rfl
  | cons piece rest inductionHypothesis =>
      cases rest with
      | nil => simp
      | cons next rest =>
          rw [join_cons_of_ne_nil _ _ (List.cons_ne_nil _ _), utf8Length_append, utf8Length_append,
            inductionHypothesis, utf8Length_cons, utf8Size_of_ascii ascii, utf8Length_nil]
          simp only [List.map_cons, List.sum_cons, List.length_cons]
          omega

end Text

namespace Json

open Text

/-! ## Literals -/

/-- The shortest style. -/
abbrev compact : Style := ⟨true, false⟩

/-- The bytes of a literal. -/
def literalBytes (s : Str) : Nat := utf8Length (quote compact s)

/-- The four digits of a code unit and what introduces them have six bytes. -/
theorem utf8Length_unicodeEscape (unit : Nat) : utf8Length (unicodeEscape unit) = 6 := by
  have ascii : ∀ c ∈ unicodeEscape unit, c.toNat < 128 := by
    have table : Numeral.hexAlphabet.all (fun c => c.toNat < 128) = true := by decide
    intro c held
    rcases List.mem_cons.mp held with rfl | held
    · decide
    · rcases List.mem_cons.mp held with rfl | held
      · decide
      · exact of_decide_eq_true (List.all_eq_true.mp table c
          (Numeral.mem_hexAlphabet_of_mem_hexText held))
  rw [utf8Length_of_ascii ascii]
  simp [unicodeEscape]

/-- A character is written as it is, or it is ASCII and is written with two bytes or, when it
is a control character, with six. -/
theorem utf8Length_escapeChar (c : Char) :
    escapeChar compact c = [c] ∨
      (c.toNat < 128 ∧ utf8Length (escapeChar compact c) = 2) ∨
        (c.toNat < 128 ∧ utf8Length (escapeChar compact c) = 6) := by
  unfold escapeChar
  dsimp only
  split_ifs with quoted backslash newline carriage tab formFeed backspace control ascii basic
  · exact Or.inr (Or.inl ⟨by rw [quoted]; decide, rfl⟩)
  · exact Or.inr (Or.inl ⟨by rw [backslash]; decide, rfl⟩)
  · exact Or.inr (Or.inl ⟨by rw [newline]; decide, rfl⟩)
  · exact Or.inr (Or.inl ⟨by rw [carriage]; decide, rfl⟩)
  · exact Or.inr (Or.inl ⟨by rw [tab]; decide, rfl⟩)
  · exact Or.inr (Or.inl ⟨by omega, rfl⟩)
  · exact Or.inr (Or.inl ⟨by omega, rfl⟩)
  · exact Or.inr (Or.inr ⟨by omega, utf8Length_unicodeEscape _⟩)
  · cases ascii
  · cases ascii
  · exact Or.inl rfl

/-- A written character has at least the bytes of the character, and six at most. -/
theorem utf8Length_escapeChar_bounds (c : Char) :
    c.utf8Size ≤ utf8Length (escapeChar compact c) ∧
      utf8Length (escapeChar compact c) ≤ 6 := by
  rcases utf8Length_escapeChar c with plain | ⟨ascii, two⟩ | ⟨ascii, six⟩
  · rw [plain, utf8Length_cons, utf8Length_nil]
    have := Char.utf8Size_le_four c
    omega
  · rw [two, utf8Size_of_ascii ascii]
    omega
  · rw [six, utf8Size_of_ascii ascii]
    omega

/-- The bytes of a literal are those of its characters and the two quotation marks. -/
theorem literalBytes_eq (s : Str) :
    literalBytes s = (s.map fun c => utf8Length (escapeChar compact c)).sum + 2 := by
  have inside : utf8Length (s.flatMap (escapeChar compact)) =
      (s.map fun c => utf8Length (escapeChar compact c)).sum := by
    induction s with
    | nil => rfl
    | cons c rest inductionHypothesis =>
        rw [List.flatMap_cons, utf8Length_append, inductionHypothesis, List.map_cons,
          List.sum_cons]
  unfold literalBytes quote
  rw [utf8Length_append, utf8Length_cons, inside]
  have quotation : Char.utf8Size '"' = 1 := by decide
  rw [quotation, utf8Length_cons, quotation, utf8Length_nil]
  omega

/-- A literal has six bytes for each byte of its string at most. -/
theorem literalBytes_le (s : Str) : literalBytes s ≤ 2 + 6 * utf8Length s := by
  rw [literalBytes_eq]
  induction s with
  | nil => exact Nat.le_refl 2
  | cons c rest inductionHypothesis =>
      have escaped := (utf8Length_escapeChar_bounds c).2
      have positive := Char.utf8Size_pos c
      rw [List.map_cons, List.sum_cons, utf8Length_cons]
      omega

/-- A literal has at least the bytes of its string. -/
theorem utf8Length_le_literalBytes (s : Str) : utf8Length s + 2 ≤ literalBytes s := by
  rw [literalBytes_eq]
  induction s with
  | nil => exact Nat.le_refl 2
  | cons c rest inductionHypothesis =>
      have longer := (utf8Length_escapeChar_bounds c).1
      rw [List.map_cons, List.sum_cons, utf8Length_cons]
      omega

/-! ## Scanned literals -/

/-- A hexadecimal digit has one byte. -/
private theorem utf8Size_of_hexValue
    {c : Char}
    {digit : Nat}
    (valued : hexValue c = some digit) : c.utf8Size = 1 := by
  unfold hexValue at valued
  split at valued
  · exact utf8Size_of_ascii ‹_›
  · cases valued

/-- A code unit takes four bytes. -/
private theorem utf8Length_scanUnit
    {text rest : Str}
    {unit : Nat}
    (scanned : scanUnit text = some (unit, rest)) :
    utf8Length text = 4 + utf8Length rest := by
  unfold scanUnit at scanned
  split at scanned
  · split at scanned
    · rename_i a b c d first second third fourth
      cases scanned
      simp only [utf8Length_cons, utf8Size_of_hexValue first, utf8Size_of_hexValue second,
        utf8Size_of_hexValue third, utf8Size_of_hexValue fourth]
      omega
    · cases scanned
  · cases scanned

/-- The second half of a pair takes some bytes. -/
private theorem utf8Length_scanLow
    {high : Nat}
    {text rest : Str}
    {c : Char}
    (scanned : scanLow high text = some (c, rest)) : utf8Length rest ≤ utf8Length text := by
  unfold scanLow at scanned
  split at scanned
  · rename_i after
    cases isUnit : scanUnit after with
    | none =>
        rw [isUnit] at scanned
        cases scanned
    | some unit =>
        obtain ⟨low, left⟩ := unit
        have bytes := utf8Length_scanUnit isUnit
        rw [isUnit] at scanned
        dsimp only at scanned
        by_cases isLow : 0xDC00 ≤ low ∧ low < 0xE000
        · rw [if_pos isLow] at scanned
          obtain ⟨-, rfl⟩ := Prod.mk.inj (Option.some.inj scanned)
          rw [utf8Length_cons, utf8Length_cons]
          omega
        · rw [if_neg isLow] at scanned
          cases scanned
  · cases scanned

/-- A code point takes four bytes or more. -/
private theorem utf8Length_scanCodePoint
    {text rest : Str}
    {c : Char}
    (scanned : scanCodePoint text = some (c, rest)) :
    4 + utf8Length rest ≤ utf8Length text := by
  unfold scanCodePoint at scanned
  cases isUnit : scanUnit text with
  | none =>
      rw [isUnit] at scanned
      cases scanned
  | some unit =>
      obtain ⟨unit, after⟩ := unit
      have bytes := utf8Length_scanUnit isUnit
      rw [isUnit] at scanned
      dsimp only at scanned
      by_cases high : 0xD800 ≤ unit ∧ unit < 0xDC00
      · rw [if_pos high] at scanned
        have := utf8Length_scanLow scanned
        omega
      · rw [if_neg high] at scanned
        by_cases low : 0xDC00 ≤ unit ∧ unit < 0xE000
        · rw [if_pos low] at scanned
          cases scanned
        · rw [if_neg low] at scanned
          obtain ⟨-, rfl⟩ := Prod.mk.inj (Option.some.inj scanned)
          omega

/-- A character that needs no escape is written as it is. -/
theorem escapeChar_plain
    {c : Char}
    (notQuotation : c ≠ '"')
    (notBackslash : c ≠ '\\')
    (visible : ¬c.toNat < 32) : escapeChar compact c = [c] := by
  have notSmall : ∀ other : Char, other.toNat < 32 → c ≠ other := by
    rintro other small rfl
    exact visible small
  unfold escapeChar
  dsimp only
  rw [if_neg notQuotation, if_neg notBackslash, if_neg (notSmall _ (by decide)),
    if_neg (notSmall _ (by decide)), if_neg (notSmall _ (by decide)), if_neg (by omega),
    if_neg (by omega), if_neg visible]
  exact if_neg nofun

/-- What one character of a literal takes is enough to write it. -/
theorem utf8Length_scanChar
    {text rest : Str}
    {c : Char}
    (scanned : scanChar text = some (c, rest)) :
    utf8Length (escapeChar compact c) + utf8Length rest ≤ utf8Length text := by
  have atMost := (utf8Length_escapeChar_bounds c).2
  unfold scanChar at scanned
  split at scanned
  · cases scanned
  · rename_i first after
    split at scanned
    · cases scanned
    · rename_i notQuotation
      split at scanned
      · rename_i isBackslash
        have backslash : first.utf8Size = 1 := by
          rw [isBackslash]
          decide
        split at scanned
        · cases scanned
        · rename_i escaped left
          have positive := Char.utf8Size_pos escaped
          unfold scanEscape at scanned
          split at scanned
          · have bytes := utf8Length_scanCodePoint scanned
            rw [utf8Length_cons, utf8Length_cons]
            omega
          · obtain ⟨meant, isMeant, same⟩ := Option.map_eq_some_iff.mp scanned
            cases same
            have short : utf8Length (escapeChar compact c) ≤ 2 := by
              have table : shortEscapes.all (fun escape =>
                  utf8Length (escapeChar compact escape.2) ≤ 2) = true := by decide
              obtain ⟨before, later, same, -⟩ := List.lookup_eq_some_iff.mp isMeant
              refine of_decide_eq_true (List.all_eq_true.mp table (escaped, c) ?_)
              rw [same]
              exact List.mem_append_right _ List.mem_cons_self
            rw [utf8Length_cons, utf8Length_cons]
            omega
      · rename_i notBackslash
        split at scanned
        · cases scanned
        · rename_i visible
          obtain ⟨rfl, rfl⟩ := Prod.mk.inj (Option.some.inj scanned)
          rw [escapeChar_plain notQuotation notBackslash visible, utf8Length_cons, utf8Length_cons,
            utf8Length_nil]
          omega

/-- What the rest of a literal takes is enough to write it. -/
theorem utf8Length_scanChars
    {fuel : Nat}
    {text s rest : Str}
    (scanned : scanChars fuel text = some (s, rest)) :
    literalBytes s + utf8Length rest ≤ utf8Length text + 1 := by
  induction fuel generalizing text s with
  | zero => cases scanned
  | succ fuel inductionHypothesis =>
      unfold scanChars at scanned
      split at scanned
      · obtain ⟨rfl, rfl⟩ := Prod.mk.inj (Option.some.inj scanned)
        have quotation : Char.utf8Size '"' = 1 := by decide
        rw [literalBytes_eq, utf8Length_cons, quotation]
        simp only [List.map_nil, List.sum_nil]
        omega
      · split at scanned
        · cases scanned
        · rename_i c after isChar
          obtain ⟨⟨others, left⟩, isRest, same⟩ := Option.map_eq_some_iff.mp scanned
          cases same
          have first := utf8Length_scanChar isChar
          have later := inductionHypothesis isRest
          rw [literalBytes_eq] at later ⊢
          rw [List.map_cons, List.sum_cons]
          dsimp only at later ⊢
          omega

/-! ## Weights -/

/-- The bytes of some parts with commas between them and brackets around them. -/
def bracketed (parts : List Nat) : Nat := 2 + parts.sum + (parts.length - 1)

/-- With a comma after each part, one bracket is left. -/
theorem bracketed_eq {parts : List Nat} (held : parts ≠ []) :
    bracketed parts = 1 + (parts.map (· + 1)).sum := by
  have commas : (parts.map (· + 1)).sum = parts.sum + parts.length := by
    rw [List.sum_map_add]
    simp
  have positive := List.length_pos_iff.mpr held
  unfold bracketed
  omega

/-- The order of the parts does not matter. -/
theorem bracketed_perm {parts others : List Nat} (same : parts.Perm others) :
    bracketed parts = bracketed others := by
  unfold bracketed
  rw [same.sum_nat, same.length_eq]

/-- Parts with a comma each are enough. -/
theorem bracketed_le (parts : List Nat) :
    bracketed parts ≤ 2 + (parts.map (· + 1)).sum := by
  have commas : (parts.map (· + 1)).sum = parts.sum + parts.length := by
    rw [List.sum_map_add]
    simp
  unfold bracketed
  omega

variable {F : Type}

mutual
/-- The bytes of the shortest text a value can be read from. -/
def weight : Value F → Nat
  | .none => 4
  | .bool _ => 4
  | .int _ => 1
  | .float _ => 1
  | .str s => literalBytes s
  | .list items => bracketed (weightItems items)
  | .dict entries => bracketed (weightEntries entries)
/-- The bytes of the items of a list. -/
def weightItems : List (Value F) → List Nat
  | [] => []
  | item :: rest => weight item :: weightItems rest
/-- The bytes of the entries of a dictionary. -/
def weightEntries : List (Str × Value F) → List Nat
  | [] => []
  | (key, value) :: rest => (literalBytes key + 1 + weight value) :: weightEntries rest
end

theorem weightItems_eq_map (items : List (Value F)) :
    weightItems items = items.map weight := by
  induction items with
  | nil => rfl
  | cons item rest inductionHypothesis => rw [weightItems, inductionHypothesis, List.map_cons]

theorem weightEntries_eq_map (entries : List (Str × Value F)) :
    weightEntries entries =
      entries.map fun entry => literalBytes entry.1 + 1 + weight entry.2 := by
  induction entries with
  | nil => rfl
  | cons entry rest inductionHypothesis =>
      rw [weightEntries, inductionHypothesis, List.map_cons]

variable [FloatOps F]

/-- A number weighs a byte and has one at least. -/
private theorem weight_numberValue
    {token : Str}
    {value : Value F}
    (valued : numberValue token = some value) : weight value = 1 ∧ token ≠ [] := by
  refine ⟨?_, ?_⟩
  · unfold numberValue at valued
    dsimp only at valued
    split at valued
    · cases valued
    · split at valued
      · cases valued
        rfl
      · split at valued
        · obtain ⟨x, -, rfl⟩ := Option.map_eq_some_iff.mp valued
          rfl
        · cases valued
  · rintro rfl
    cases valued

/-- A word is at least as long as its value is heavy. -/
private theorem weight_words
    {reading : Reading}
    {word : Str}
    {value : Value F}
    (isWord : (word, some value) ∈ words reading) : weight value ≤ word.length := by
  unfold words at isWord
  rcases List.mem_append.mp isWord with plain | constant
  · simp only [List.mem_cons, List.not_mem_nil, or_false, Prod.mk.injEq,
      Option.some.injEq] at plain
    rcases plain with ⟨rfl, rfl⟩ | ⟨rfl, rfl⟩ | ⟨rfl, rfl⟩ <;>
    · simp [weight]
  · split at constant
    · obtain ⟨name, held, same⟩ := List.mem_map.mp constant
      obtain ⟨rfl, isValue⟩ := Prod.mk.inj same
      obtain ⟨x, -, rfl⟩ := Option.map_eq_some_iff.mp isValue
      have nonempty : ∀ name ∈ ["NaN".toList, "Infinity".toList, "-Infinity".toList],
          1 ≤ name.length := by decide
      exact nonempty name held
    · exact absurd constant List.not_mem_nil

/-- A reader takes at least the weight of a word or of a number. -/
private theorem weight_readAtom
    {reading : Reading}
    {text rest : Str}
    {value : Value F}
    (isRead : readAtom reading text = some (value, rest)) :
    weight value + utf8Length rest ≤ utf8Length text := by
  unfold readAtom at isRead
  split at isRead
  · rename_i word held isWord
    obtain ⟨found, isFound, same⟩ := Option.map_eq_some_iff.mp isRead
    cases same
    subst isFound
    have light := weight_words (List.mem_of_find?_eq_some isWord)
    have starts : word.isPrefixOf text = true := by simpa using List.find?_some isWord
    obtain ⟨after, rfl⟩ := List.isPrefixOf_iff_prefix.mp starts
    have longer := length_le_utf8Length word
    rw [List.drop_left, utf8Length_append]
    omega
  · unfold scanNumber at isRead
    obtain ⟨found, valued, same⟩ := Option.map_eq_some_iff.mp isRead
    cases same
    obtain ⟨light, held⟩ := weight_numberValue valued
    have whole := congrArg utf8Length
      (List.takeWhile_append_dropWhile (p := isNumberChar) (l := text))
    rw [utf8Length_append] at whole
    have longer := length_le_utf8Length (text.takeWhile isNumberChar)
    have positive := List.length_pos_iff.mpr held
    omega

/-- The first character of a text is dropped. -/
private theorem utf8Length_drop_one
    {text : Str}
    {c : Char}
    (starts : text.head? = some c) : 1 + utf8Length (text.drop 1) ≤ utf8Length text := by
  cases text with
  | nil => cases starts
  | cons first rest =>
      have positive := Char.utf8Size_pos first
      rw [List.drop_one, List.tail_cons, utf8Length_cons]
      omega

/-- What is left after white space has no more bytes. -/
private theorem utf8Length_skipBlank_le (text : Str) :
    utf8Length (skipBlank text) ≤ utf8Length text :=
  utf8Length_dropWhile_le _ _

/-- A key takes the bytes of its literal and one for the colon. -/
private theorem literalBytes_readKey
    {fuel : Nat}
    {text key rest : Str}
    (isRead : readKey fuel text = some (key, rest)) :
    literalBytes key + 1 + utf8Length rest ≤ utf8Length text := by
  unfold readKey at isRead
  split at isRead
  · cases isRead
  · rename_i c after
    split at isRead
    · split at isRead
      · cases isRead
      · rename_i scanned left isKey
        have bytes := utf8Length_scanChars isKey
        have blanks := utf8Length_skipBlank_le left
        have first := Char.utf8Size_pos c
        split at isRead
        · cases isRead
        · rename_i colon others isLeft
          rw [isLeft, utf8Length_cons] at blanks
          have second := Char.utf8Size_pos colon
          split at isRead
          · obtain ⟨rfl, rfl⟩ := Prod.mk.inj (Option.some.inj isRead)
            have := utf8Length_skipBlank_le others
            rw [utf8Length_cons]
            omega
          · cases isRead
    · cases isRead

/-- A reader that refuses repeated keys takes at least the weight of a value from a text. -/
theorem weight_read (constants : Bool) (fuel : Nat) :
    (∀ {text rest : Str} {value : Value F},
      readValue ⟨constants, false⟩ fuel text = some (value, rest) →
        weight value + utf8Length rest ≤ utf8Length text) ∧
    (∀ {text rest : Str} {items : List (Value F)},
      readItems ⟨constants, false⟩ fuel text = some (items, rest) →
        items ≠ [] ∧ ((weightItems items).map (· + 1)).sum + utf8Length rest ≤ utf8Length text) ∧
    (∀ {text rest : Str} {entries : List (Str × Value F)},
      readEntries ⟨constants, false⟩ fuel text = some (entries, rest) →
        entries ≠ [] ∧
          ((weightEntries entries).map (· + 1)).sum + utf8Length rest ≤ utf8Length text) := by
  induction fuel with
  | zero =>
      refine ⟨?_, ?_, ?_⟩ <;>
      · intro _ _ _ isRead
        cases isRead
  | succ fuel inductionHypothesis =>
      obtain ⟨values, items, entries⟩ := inductionHypothesis
      refine ⟨?_, ?_, ?_⟩
      · intro text rest value isRead
        cases text with
        | nil => cases isRead
        | cons c after =>
            have first := Char.utf8Size_pos c
            have blanks := utf8Length_skipBlank_le after
            rw [utf8Length_cons]
            rw [readValue] at isRead
            split at isRead
            · obtain ⟨⟨s, left⟩, isString, same⟩ := Option.map_eq_some_iff.mp isRead
              cases same
              have bytes := utf8Length_scanChars isString
              rw [weight]
              dsimp only at bytes ⊢
              omega
            · split at isRead
              · split at isRead
                · rename_i isEmpty
                  cases isRead
                  have bytes := utf8Length_drop_one isEmpty
                  show 2 + _ ≤ _
                  omega
                · obtain ⟨⟨read, left⟩, isItems, same⟩ := Option.map_eq_some_iff.mp isRead
                  cases same
                  obtain ⟨held, bytes⟩ := items isItems
                  rw [weight, bracketed_eq]
                  · dsimp only at bytes ⊢
                    omega
                  · rw [weightItems_eq_map]
                    exact fun none => held (List.map_eq_nil_iff.mp none)
              · split at isRead
                · split at isRead
                  · rename_i isEmpty
                    cases isRead
                    have bytes := utf8Length_drop_one isEmpty
                    show 2 + _ ≤ _
                    omega
                  · obtain ⟨⟨read, left⟩, isEntries, built⟩ :=
                      Option.bind_eq_some_iff.mp isRead
                    obtain ⟨found, isDictionary, same⟩ := Option.map_eq_some_iff.mp built
                    cases same
                    obtain ⟨held, bytes⟩ := entries isEntries
                    unfold dictionary at isDictionary
                    split at isDictionary
                    · rename_i distinct
                      cases isDictionary
                      rw [weight, Keyed.ofList_of_nodup (distinct.resolve_left Bool.false_ne_true),
                        bracketed_eq]
                      · dsimp only at bytes ⊢
                        omega
                      · rw [weightEntries_eq_map]
                        exact fun none => held (List.map_eq_nil_iff.mp none)
                    · cases isDictionary
                · have := weight_readAtom isRead
                  rwa [utf8Length_cons] at this
      · intro text rest read isRead
        rw [readItems] at isRead
        split at isRead
        · cases isRead
        · rename_i item after isItem
          have bytes := values isItem
          have blanks := utf8Length_skipBlank_le after
          split at isRead
          · cases isRead
          · rename_i c others isLeft
            have positive := Char.utf8Size_pos c
            have more := utf8Length_skipBlank_le others
            rw [isLeft, utf8Length_cons] at blanks
            split at isRead
            · obtain ⟨⟨later, left⟩, isLater, same⟩ := Option.map_eq_some_iff.mp isRead
              cases same
              obtain ⟨-, laterBytes⟩ := items isLater
              refine ⟨List.cons_ne_nil _ _, ?_⟩
              rw [weightItems, List.map_cons, List.sum_cons]
              dsimp only at laterBytes ⊢
              omega
            · split at isRead
              · cases isRead
                refine ⟨List.cons_ne_nil _ _, ?_⟩
                simp only [weightItems, List.map_cons, List.map_nil, List.sum_cons, List.sum_nil]
                omega
              · cases isRead
      · intro text rest read isRead
        rw [readEntries] at isRead
        split at isRead
        · cases isRead
        · rename_i key left isKey
          have keyBytes := literalBytes_readKey isKey
          split at isRead
          · cases isRead
          · rename_i value after isValue
            have bytes := values isValue
            have blanks := utf8Length_skipBlank_le after
            split at isRead
            · cases isRead
            · rename_i c others isLeft
              have positive := Char.utf8Size_pos c
              have more := utf8Length_skipBlank_le others
              rw [isLeft, utf8Length_cons] at blanks
              split at isRead
              · obtain ⟨⟨later, left⟩, isLater, same⟩ := Option.map_eq_some_iff.mp isRead
                cases same
                obtain ⟨-, laterBytes⟩ := entries isLater
                refine ⟨List.cons_ne_nil _ _, ?_⟩
                rw [weightEntries, List.map_cons, List.sum_cons]
                dsimp only at laterBytes ⊢
                omega
              · split at isRead
                · cases isRead
                  refine ⟨List.cons_ne_nil _ _, ?_⟩
                  simp only [weightEntries, List.map_cons, List.map_nil, List.sum_cons,
                    List.sum_nil]
                  omega
                · cases isRead

/-- A text that is read without repeated keys has at least the weight of its value. -/
theorem weight_loads
    {constants : Bool}
    {text : Str}
    {value : Value F}
    (isRead : loads ⟨constants, false⟩ text = some value) :
    weight value ≤ utf8Length text := by
  unfold loads at isRead
  split at isRead
  · cases isRead
  · rename_i found rest isFound
    have bytes := (weight_read constants _).1 isFound
    have blanks := utf8Length_skipBlank_le text
    split at isRead
    · cases isRead
      omega
    · cases isRead

omit [FloatOps F] in
/-- A key of a dictionary has a value. -/
theorem exists_get_of_mem_keys
    {entries : Dict F}
    {key : Str}
    (held : key ∈ Dict.keys entries) : ∃ value, Dict.get entries key = some value := by
  obtain ⟨entry, isEntry, rfl⟩ := List.mem_map.mp held
  unfold Dict.get
  cases found : entries.find? fun other => other.1 = entry.1 with
  | none => exact absurd (decide_eq_true rfl) (List.find?_eq_none.mp found entry isEntry)
  | some other => exact ⟨other.2, rfl⟩

omit [FloatOps F] in
/-- Entries of distinct keys that are found in a dictionary cost no more than all of it. -/
theorem sum_found_le
    (cost : Str × Value F → Nat)
    {required : List (Str × Value F)}
    {entries : Dict F}
    (distinct : (required.map (·.1)).Nodup)
    (found : ∀ entry ∈ required, Dict.get entries entry.1 = some entry.2) :
    (required.map cost).sum ≤ (entries.map cost).sum := by
  have included : required ⊆ entries := by
    intro entry held
    have isFound := found entry held
    unfold Dict.get at isFound
    obtain ⟨other, isOther, sameValue⟩ := Option.map_eq_some_iff.mp isFound
    have sameKey : other.1 = entry.1 := by simpa using List.find?_some isOther
    rw [← Prod.ext sameKey sameValue]
    exact List.mem_of_find?_eq_some isOther
  obtain ⟨some, same, sublist⟩ := distinct.of_map.subperm included
  rw [← (same.map cost).sum_nat]
  exact (sublist.map cost).sum_le_sum fun _ _ => Nat.zero_le _

omit [FloatOps F] in
/-- A dictionary weighs at least as much as entries of distinct keys that are found in it. -/
theorem weight_found_le
    {required : List (Str × Value F)}
    {entries : Dict F}
    (distinct : (required.map (·.1)).Nodup)
    (found : ∀ entry ∈ required, Dict.get entries entry.1 = some entry.2)
    (held : required ≠ []) : weight (.dict required) ≤ weight (.dict entries) := by
  have entriesHeld : entries ≠ [] := by
    rintro rfl
    obtain ⟨entry, rest, rfl⟩ := List.exists_cons_of_ne_nil held
    cases found entry List.mem_cons_self
  rw [weight, weight, weightEntries_eq_map, weightEntries_eq_map,
    bracketed_eq (fun none => held (List.map_eq_nil_iff.mp none)),
    bracketed_eq (fun none => entriesHeld (List.map_eq_nil_iff.mp none)), List.map_map,
    List.map_map]
  have costs := sum_found_le
    ((· + 1) ∘ fun entry : Str × Value F => literalBytes entry.1 + 1 + weight entry.2)
    distinct found
  omega

/-! ## Sizes -/

/-- The bytes of a written value. -/
def size (value : Value F) : Nat := utf8Length (dumps compact value)

@[simp] theorem size_str (s : Str) : size (.str s : Value F) = literalBytes s := rfl

/-- The bytes of parts between two brackets. -/
private theorem utf8Length_brackets
    {opening closing : Char}
    (ascii : opening.toNat < 128 ∧ closing.toNat < 128)
    (parts : List Str) :
    utf8Length (opening :: Text.join [','] parts ++ [closing]) =
      bracketed (parts.map utf8Length) := by
  rw [utf8Length_append, utf8Length_cons, utf8Length_cons, utf8Length_nil,
    utf8Size_of_ascii ascii.1, utf8Size_of_ascii ascii.2, utf8Length_join _ (by decide)]
  unfold bracketed
  rw [List.length_map]
  omega

/-- The bytes of a written list. -/
theorem size_list (items : List (Value F)) : size (.list items) = bracketed (items.map size) := by
  have ascii : '['.toNat < 128 ∧ ']'.toNat < 128 := by decide
  unfold size
  rw [dumps, utf8Length_brackets ascii, dumpsItems_eq_map, List.map_map]
  rfl

/-- The bytes of a written dictionary. -/
theorem size_dict (entries : Dict F) :
    size (.dict entries) =
      bracketed (entries.map fun entry => literalBytes entry.1 + 1 + size entry.2) := by
  have ascii : '\x7b'.toNat < 128 ∧ '\x7d'.toNat < 128 := by decide
  unfold size
  rw [dumps, object, dumpsEntries_eq_map]
  dsimp only
  rw [if_pos rfl, utf8Length_brackets ascii]
  refine bracketed_perm ?_
  refine (((List.perm_insertionSort _ _).map _).map _).trans ?_
  rw [List.map_map, List.map_map]
  refine List.Perm.of_eq (List.map_congr_left fun entry _ => ?_)
  have colon : Char.utf8Size ':' = 1 := by decide
  simp only [Function.comp_apply, utf8Length_append, utf8Length_cons, colon]
  show literalBytes entry.1 + (1 + _) = _
  omega

/-- One part takes the place of another one. -/
private theorem bracketed_change (before after : List Nat) (part other : Nat) :
    bracketed (before ++ part :: after) + other =
      bracketed (before ++ other :: after) + part := by
  unfold bracketed
  simp only [List.sum_append, List.sum_cons, List.length_append, List.length_cons]
  omega

/-- One item of a list takes the place of another one. -/
theorem size_list_item (before after : List (Value F)) (item other : Value F) :
    size (.list (before ++ item :: after)) + size other =
      size (.list (before ++ other :: after)) + size item := by
  simp only [size_list, List.map_append, List.map_cons]
  exact bracketed_change _ _ _ _

/-- One value of a dictionary takes the place of another one. -/
theorem size_dict_entry (before after : Dict F) (key : Str) (value other : Value F) :
    size (.dict (before ++ (key, value) :: after)) + size other =
      size (.dict (before ++ (key, other) :: after)) + size value := by
  simp only [size_dict, List.map_append, List.map_cons]
  have changed := bracketed_change
    (before.map fun entry => literalBytes entry.1 + 1 + size entry.2)
    (after.map fun entry => literalBytes entry.1 + 1 + size entry.2)
    (literalBytes key + 1 + size value) (literalBytes key + 1 + size other)
  omega

end Json
end ChatPlatform
