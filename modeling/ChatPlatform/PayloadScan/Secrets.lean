import ChatPlatform.Foundation.Numeral
import ChatPlatform.Foundation.Taking
import ChatPlatform.PayloadScan.Surroundings

/-!
# Assigned secrets among their surroundings

What is assigned begins after a name and what assigns to it, wherever in the name one
begins, and it is the longest run of the characters of a secret. A match that begins before a
text may take the name of an assignment in it, but then it takes its value too, or else its
own value is no synthetic token.
-/

namespace ChatPlatform
namespace PayloadScan

open Pattern Spans

/-! ## Characters -/

/-- A character of a name. -/
def isNameChar (c : Char) : Bool :=
  c.isAlpha || c = '_' || c = '-' || c.toNat = 0x17F || c.toNat = 0x212A || c.toNat = 0x130 ||
    c.toNat = 0x131

/-- A quotation mark around a secret. -/
def isQuote (c : Char) : Bool := c = '\x27' || c = '"'

/-- A character between a name and what is assigned to it. -/
def isDelimiter (c : Char) : Bool := Text.isSpace c || c = ':' || c = '=' || isQuote c

/-- The code points of letters. -/
theorem isAlpha_bounds
    {c : Char}
    (isAlpha : c.isAlpha = true) :
    (65 ≤ c.toNat ∧ c.toNat ≤ 90) ∨ (97 ≤ c.toNat ∧ c.toNat ≤ 122) :=
  (Text.isAlpha_iff.mp isAlpha).imp Text.isUpper_bounds Text.isLower_bounds

/-- What is a small letter in lower case is a letter. -/
private theorem isAlpha_of_toLower
    {c : Char}
    (isLower : c.toLower.isLower = true) : c.isAlpha = true := by
  rw [Text.isAlpha_iff]
  unfold Char.toLower at isLower
  split at isLower
  · rename_i isUpper
    exact Or.inl (decide_eq_true isUpper)
  · exact Or.inr isLower

/-- A letter in any case is a character of a name. -/
private theorem isNameChar_of_foldsTo
    {letter c : Char}
    (isLower : letter.isLower = true)
    (folds : foldsTo letter c = true) : isNameChar c = true := by
  simp only [foldsTo, Bool.or_eq_true, Bool.and_eq_true, decide_eq_true_eq] at folds
  simp only [isNameChar, Bool.or_eq_true, decide_eq_true_eq]
  rcases folds with ((rfl | ⟨-, isLong⟩) | ⟨-, isKelvin⟩) | ⟨-, isDotted | isDotless⟩
  · simp only [isAlpha_of_toLower isLower, true_or]
  · simp only [isLong, true_or, or_true]
  · simp only [isKelvin, true_or, or_true]
  · simp only [isDotted, true_or, or_true]
  · simp only [isDotless, or_true]

/-- The code points of the characters of names. -/
private theorem isNameChar_bounds
    {c : Char}
    (isName : isNameChar c = true) :
    (65 ≤ c.toNat ∧ c.toNat ≤ 90) ∨ (97 ≤ c.toNat ∧ c.toNat ≤ 122) ∨ c.toNat = 95 ∨
      c.toNat = 45 ∨ c.toNat = 0x17F ∨ c.toNat = 0x212A ∨ c.toNat = 0x130 ∨ c.toNat = 0x131 := by
  simp only [isNameChar, Bool.or_eq_true, decide_eq_true_eq] at isName
  rcases isName with (((((isAlpha | rfl) | rfl) | isLong) | isKelvin) | isDotted) | isDotless
  · have bounds := isAlpha_bounds isAlpha
    omega
  · exact Or.inr (Or.inr (Or.inl rfl))
  · exact Or.inr (Or.inr (Or.inr (Or.inl rfl)))
  · omega
  · omega
  · omega
  · omega

/-- A dash, a digit or a letter does not separate. -/
private theorem isDelimiter_of_bounds
    {c : Char}
    (bounds : (45 ≤ c.toNat ∧ c.toNat ≤ 57) ∨ (65 ≤ c.toNat ∧ c.toNat ≤ 122) ∨
      c.toNat = 0x17F ∨ c.toNat = 0x212A ∨ c.toNat = 0x130 ∨ c.toNat = 0x131) :
    isDelimiter c = false := by
  have other : ∀ d : Char, d.toNat = 58 ∨ d.toNat = 61 ∨ d.toNat = 39 ∨ d.toNat = 34 → c ≠ d := by
    rintro d isCode rfl
    omega
  have noSpace : Text.isSpace c = false := by
    rw [← Bool.not_eq_true, Text.isSpace]
    simp only [Bool.or_eq_true, Bool.and_eq_true, decide_eq_true_eq, beq_iff_eq]
    omega
  simp only [isDelimiter, isQuote, noSpace, Bool.false_or, Bool.or_eq_false_iff,
    decide_eq_false_iff_not]
  exact ⟨⟨other _ (by decide), other _ (by decide)⟩, other _ (by decide), other _ (by decide)⟩

/-- No character of a name stands between it and what is assigned. -/
theorem isDelimiter_of_isNameChar
    {c : Char}
    (isName : isNameChar c = true) : isDelimiter c = false := by
  have bounds := isNameChar_bounds isName
  exact isDelimiter_of_bounds (by omega)

/-- A character of a name is one of a secret. -/
theorem isSecretChar_of_isNameChar
    {c : Char}
    (isName : isNameChar c = true) : isSecretChar c = true := by
  simp only [isNameChar, isSecretChar, isAlphanumeric, Char.isAlphanum, Bool.or_eq_true,
    decide_eq_true_eq] at isName ⊢
  tauto

/-- The code points of hexadecimal digits. -/
private theorem isHexDigit_bounds
    {c : Char}
    (isHex : isHexDigit c = true) :
    (48 ≤ c.toNat ∧ c.toNat ≤ 57) ∨ (97 ≤ c.toNat ∧ c.toNat ≤ 102) := by
  simp only [isHexDigit, Bool.or_eq_true, Bool.and_eq_true, decide_eq_true_eq] at isHex
  rcases isHex with isDigit | ⟨low, high⟩
  · exact Or.inl (Numeral.isDigit_bounds isDigit)
  · exact Or.inr ⟨low, high⟩

/-- A letter that is a hexadecimal digit is one in any case. -/
private theorem isHexDigit_of_foldsTo
    {letter c : Char}
    (isHex : isHexDigit c = true)
    (folds : foldsTo letter c = true) : isHexDigit letter = true := by
  have bounds := isHexDigit_bounds isHex
  have same : c.toLower = c := by
    unfold Char.toLower
    split
    · rename_i isUpper
      simp only [ge_iff_le, UInt32.le_iff_toNat_le] at isUpper
      have low : 65 ≤ c.toNat := isUpper.1
      have high : c.toNat ≤ 90 := isUpper.2
      omega
    · rfl
  simp only [foldsTo, Bool.or_eq_true, Bool.and_eq_true, decide_eq_true_eq, same] at folds
  rcases folds with ((rfl | ⟨-, isLong⟩) | ⟨-, isKelvin⟩) | ⟨-, isDotted | isDotless⟩
  · exact isHex
  · omega
  · omega
  · omega
  · omega

/-! ## Names -/

/-- A name: its characters are those of names, and one of its last eight is no hexadecimal
digit. -/
structure IsName (name : Str) : Prop where
  /-- Every character is one of a name. -/
  chars : ∀ c ∈ name, isNameChar c = true
  /-- A name does not end like a synthetic token. -/
  late : ∃ start c tail, name = start ++ c :: tail ∧ tail.length ≤ 7 ∧ isHexDigit c = false

/-- Something before a name. -/
private theorem IsName.append
    {front name : Str}
    (chars : ∀ c ∈ front, isNameChar c = true)
    (isName : IsName name) : IsName (front ++ name) := by
  obtain ⟨start, c, tail, same, short, noHex⟩ := isName.late
  refine ⟨List.forall_mem_append.mpr ⟨chars, isName.chars⟩, front ++ start, c, tail, ?_, short,
    noHex⟩
  rw [same, List.append_assoc]

/-- A word in any case takes a letter for each of its letters. -/
private theorem takes_caseless
    {word taken : Str}
    (isLower : ∀ letter ∈ word, letter.isLower = true)
    (takes : (caseless word).Takes taken) :
    List.Forall₂ (fun letter c => foldsTo letter c = true) word taken ∧
      ∀ c ∈ taken, isNameChar c = true := by
  induction word generalizing taken with
  | nil =>
      obtain rfl : taken = [] := takes
      exact ⟨List.Forall₂.nil, fun _ none => absurd none List.not_mem_nil⟩
  | cons letter rest inductionHypothesis =>
      obtain ⟨front, back, rfl, ⟨c, rfl, folds⟩, later⟩ := takes
      obtain ⟨lower, restLower⟩ := List.forall_mem_cons.mp isLower
      obtain ⟨each, chars⟩ := inductionHypothesis restLower later
      exact ⟨List.Forall₂.cons folds each,
        List.forall_mem_cons.mpr ⟨isNameChar_of_foldsTo lower folds, chars⟩⟩

/-- A short word that begins with a letter after `f`. -/
private theorem isName_of_takes_caseless
    {letter : Char}
    {rest taken : Str}
    (isLower : ∀ c ∈ letter :: rest, c.isLower = true)
    (noHex : isHexDigit letter = false)
    (short : rest.length ≤ 7)
    (takes : (caseless (letter :: rest)).Takes taken) : IsName taken := by
  obtain ⟨each, chars⟩ := takes_caseless isLower takes
  cases each with
  | cons folds later =>
      refine ⟨chars, [], _, _, rfl, later.length_eq.symm.le.trans short, ?_⟩
      rw [← Bool.not_eq_true]
      intro isHex
      rw [isHexDigit_of_foldsTo isHex folds] at noHex
      cases noHex

/-- A word, perhaps a dash, and `key`. -/
private theorem isName_of_takes_key
    {word taken : Str}
    (isLower : ∀ letter ∈ word, letter.isLower = true)
    (takes : (seq (caseless word) (seq optionalDash (caseless "key".toList))).Takes taken) :
    IsName taken := by
  obtain ⟨front, back, rfl, first, dash, key, rfl, second, third⟩ := takes
  have isKey : IsName key := isName_of_takes_caseless (by decide) (by decide) (by decide) third
  refine IsName.append (takes_caseless isLower first).2 (IsName.append ?_ isKey)
  intro c present
  have isDash := (takes_many_one second).1 c present
  simp only [Bool.or_eq_true, decide_eq_true_eq] at isDash
  rcases isDash with rfl | rfl <;> rfl

/-- What stands for a name is one. -/
private theorem isName_of_takes
    {taken : Str}
    (takes : secretName.Takes taken) : IsName taken := by
  rcases takes with api | secret | token | password | passwd | private_
  · exact isName_of_takes_key (by decide) api
  · exact isName_of_takes_caseless (by decide) (by decide) (by decide) secret
  · exact isName_of_takes_caseless (by decide) (by decide) (by decide) token
  · exact isName_of_takes_caseless (by decide) (by decide) (by decide) password
  · exact isName_of_takes_caseless (by decide) (by decide) (by decide) passwd
  · exact isName_of_takes_key (by decide) private_

/-! ## What is assigned -/

/-- A text after a quotation mark at its beginning. -/
def dropQuote : Str → Str
  | [] => []
  | c :: rest => if isQuote c then rest else c :: rest

/-- What begins after a name and what assigns to it. -/
def valueFrom (text : Str) : Str :=
  dropQuote ((((text.dropWhile (!isDelimiter ·)).dropWhile Text.isSpace).drop 1).dropWhile
    Text.isSpace)

/-- The value that is assigned at the beginning of a text. -/
def assignedValue (text : Str) : Str := (valueFrom text).takeWhile isSecretChar

/-- A character of a secret is neither a space nor a quotation mark nor a gap. -/
private theorem isSecretChar_plain
    {c : Char}
    (isSecret : isSecretChar c = true) :
    Text.isSpace c = false ∧ isQuote c = false ∧ isGap c = false := by
  have bounds : c.toNat ≠ 39 ∧ c.toNat ≠ 34 ∧ ((33 ≤ c.toNat ∧ c.toNat ≤ 122) ∨
      c.toNat = 0x17F ∨ c.toNat = 0x212A ∨ c.toNat = 0x130 ∨ c.toNat = 0x131) := by
    simp only [isSecretChar, isAlphanumeric, Char.isAlphanum, Bool.or_eq_true,
      decide_eq_true_eq] at isSecret
    rcases isSecret with ((((((((((isAlpha | isDigit) | rfl) | rfl) | rfl) | rfl) | rfl) | rfl) |
      isLong) | isKelvin) | isDotted) | isDotless
    · have letter := isAlpha_bounds isAlpha
      omega
    · have digit := Numeral.isDigit_bounds isDigit
      omega
    · decide
    · decide
    · decide
    · decide
    · decide
    · decide
    · omega
    · omega
    · omega
    · omega
  have other : ∀ d : Char, d.toNat = 39 ∨ d.toNat = 34 ∨ d.toNat ≤ 32 → c ≠ d := by
    rintro d isCode rfl
    omega
  refine ⟨?_, ?_, ?_⟩
  · rw [← Bool.not_eq_true, Text.isSpace]
    simp only [Bool.or_eq_true, Bool.and_eq_true, decide_eq_true_eq, beq_iff_eq]
    omega
  · simp only [isQuote, Bool.or_eq_false_iff, decide_eq_false_iff_not]
    exact ⟨other _ (by decide), other _ (by decide)⟩
  · simp only [isGap, Bool.or_eq_false_iff, decide_eq_false_iff_not]
    exact ⟨⟨other _ (by decide), other _ (by decide)⟩, other _ (by decide)⟩

/-- What begins after a name does not depend on where in the name one begins. -/
theorem valueFrom_append_left
    {front : Str}
    (inName : ∀ c ∈ front, isNameChar c = true)
    (text : Str) : valueFrom (front ++ text) = valueFrom text := by
  unfold valueFrom
  rw [List.dropWhile_append_of_pos fun c present => by
    rw [isDelimiter_of_isNameChar (inName c present), Bool.not_false]]

/-- A run that ends in a text ends there when something follows. -/
private theorem dropWhile_append_right
    {test : Char → Bool}
    {text : Str}
    (held : text.dropWhile test ≠ [])
    (back : Str) : (text ++ back).dropWhile test = text.dropWhile test ++ back := by
  rw [List.dropWhile_append, if_neg fun empty => held (List.isEmpty_iff.mp empty)]

/-- What begins after a name does not depend on what follows. -/
theorem valueFrom_append_right
    {text : Str}
    (held : valueFrom text ≠ [])
    (back : Str) : valueFrom (text ++ back) = valueFrom text ++ back := by
  unfold valueFrom at held ⊢
  have afterGap : (((text.dropWhile (!isDelimiter ·)).dropWhile Text.isSpace).drop 1).dropWhile
      Text.isSpace ≠ [] := fun empty => held (by rw [empty]; rfl)
  have separator : (text.dropWhile (!isDelimiter ·)).dropWhile Text.isSpace ≠ [] :=
    fun empty => afterGap (by rw [empty]; rfl)
  have gap : text.dropWhile (!isDelimiter ·) ≠ [] := fun empty => separator (by rw [empty]; rfl)
  rw [dropWhile_append_right gap, dropWhile_append_right separator]
  obtain ⟨c, rest, isSeparator⟩ := List.exists_cons_of_ne_nil separator
  rw [isSeparator, List.drop_succ_cons, List.drop_zero] at afterGap
  rw [isSeparator, List.cons_append, List.drop_succ_cons, List.drop_zero, List.drop_succ_cons,
    List.drop_zero, dropWhile_append_right afterGap]
  obtain ⟨d, later, isLater⟩ := List.exists_cons_of_ne_nil afterGap
  rw [isLater, List.cons_append, dropQuote, dropQuote]
  split
  · rfl
  · rfl

/-- What begins after the parts of an assignment. -/
private theorem valueFrom_parts
    {name gap later quote rest : Str}
    {separator c : Char}
    (inName : ∀ c ∈ name, isNameChar c = true)
    (gaps : ∀ c ∈ gap, Text.isSpace c = true)
    (separates : separator = ':' ∨ separator = '=')
    (laterGaps : ∀ c ∈ later, Text.isSpace c = true)
    (quotes : ∀ c ∈ quote, isQuote c = true)
    (single : quote.length ≤ 1)
    (isSecret : isSecretChar c = true) :
    valueFrom (name ++ (gap ++ separator :: (later ++ (quote ++ c :: rest)))) = c :: rest := by
  obtain ⟨noSpace, noQuote, -⟩ := isSecretChar_plain isSecret
  have plain : Text.isSpace separator = false ∧ isDelimiter separator = true := by
    rcases separates with rfl | rfl <;> decide
  have stays : (gap ++ separator :: (later ++ (quote ++ c :: rest))).dropWhile (!isDelimiter ·) =
      gap ++ separator :: (later ++ (quote ++ c :: rest)) := by
    cases gap with
    | nil => exact List.dropWhile_cons_of_neg (by rw [plain.2]; decide)
    | cons d gap =>
        have isSpace := gaps d List.mem_cons_self
        refine List.dropWhile_cons_of_neg ?_
        simp [isDelimiter, isSpace]
  have unquoted : (quote ++ c :: rest).dropWhile Text.isSpace = quote ++ c :: rest ∧
      dropQuote (quote ++ c :: rest) = c :: rest := by
    match quote with
    | [] =>
        refine ⟨List.dropWhile_cons_of_neg ?_, if_neg ?_⟩
        · rw [noSpace]
          decide
        · rw [noQuote]
          decide
    | [d] =>
        have isQuoteChar := quotes d List.mem_cons_self
        refine ⟨List.dropWhile_cons_of_neg ?_, if_pos isQuoteChar⟩
        simp only [isQuote, Bool.or_eq_true, decide_eq_true_eq] at isQuoteChar
        rcases isQuoteChar with rfl | rfl <;> decide
  rw [valueFrom_append_left inName, valueFrom, stays, List.dropWhile_append_of_pos gaps,
    List.dropWhile_cons_of_neg (by rw [plain.1]; decide), List.drop_one, List.tail_cons,
    List.dropWhile_append_of_pos laterGaps, unquoted.1, unquoted.2]

/-! ## Matches -/

/-- A text begins with a name, what assigns to it and a value. -/
structure Assigns (text : Str) (name middle : Str) : Prop where
  /-- The parts of the text. -/
  parts : text = name ++ (middle ++ valueFrom text)
  /-- The first part is a name. -/
  isName : IsName name
  /-- The second part is there. -/
  held : middle ≠ []
  /-- The second part separates. -/
  delimits : ∀ c ∈ middle, isDelimiter c = true
  /-- The value is long enough. -/
  long : 8 ≤ (assignedValue text).length

/-- What comes first of several lists that are not empty comes first in the first. -/
private theorem head?_flatMap
    {α β : Type}
    {next : α → List β}
    (held : ∀ item, next item ≠ [])
    {found : β}
    {list : List α}
    (isHead : (list.flatMap next).head? = some found) :
    ∃ item, list.head? = some item ∧ (next item).head? = some found := by
  cases list with
  | nil => cases isHead
  | cons item list =>
      obtain ⟨first, rest, here⟩ := List.exists_cons_of_ne_nil (held item)
      rw [List.flatMap_cons, here] at isHead
      exact ⟨item, rfl, here ▸ isHead⟩

/-- There is always an end of a closing quotation mark. -/
private theorem ends_closingQuote_ne_nil
    (opened : Option Char)
    (place : Place) : (closingQuote opened).ends place ≠ [] := by
  cases opened with
  | none => exact List.cons_ne_nil _ _
  | some quote => exact List.append_ne_nil_of_right_ne_nil _ (List.cons_ne_nil _ _)

/-- What closes is the quotation mark that was opened, or nothing. -/
private theorem takes_closingQuote
    {opened : Option Char}
    (isQuoteChar : ∀ c ∈ opened, isQuote c = true)
    {taken : Str}
    (takes : (closingQuote opened).Takes taken) : ∀ c ∈ taken, isQuote c = true := by
  cases opened with
  | none =>
      obtain rfl : taken = [] := takes
      exact fun _ none => absurd none List.not_mem_nil
  | some quote =>
      intro c present
      obtain rfl := of_decide_eq_true ((takes_many_one takes).1 c present)
      exact isQuoteChar c rfl

/-- A match is an assignment whose value is the longest run, and a quotation mark or nothing. -/
theorem assigns_of_secretAssignment
    {unicode : Unicode}
    {place : Place}
    {length : Nat}
    {span : Nat × Nat}
    (found : secretAssignment unicode place = some (length, span)) :
    ∃ name middle quote rest, Assigns place.2 name middle ∧
      (valueFrom place.2).dropWhile isSecretChar = quote ++ rest ∧
        (∀ c ∈ quote, isDelimiter c = true) ∧
          span = ((name ++ middle).length,
            (name ++ middle).length + (assignedValue place.2).length) ∧
              length = span.2 + quote.length := by
  obtain ⟨head, isHead, found⟩ := exists_of_head?_flatMap found
  obtain ⟨start, isStart, found⟩ := exists_of_head?_flatMap found
  obtain ⟨stop, isStop, found⟩ := head?_flatMap
    (fun stop => List.map_eq_nil_iff.not.mpr (ends_closingQuote_ne_nil _ stop)) found
  rw [List.head?_map] at found
  obtain ⟨last, isLast, found⟩ := Option.map_eq_some_iff.mp found
  obtain ⟨isRun, long⟩ := run_of_head?_ends isStop
  obtain ⟨taken, isTaken, takesHead⟩ := takes_of_mem_ends isHead
  obtain ⟨quote, isQuoted, takesQuote⟩ := takes_of_mem_ends isStart
  obtain ⟨closing, isClosed, takesClosing⟩ := takes_of_mem_ends (List.mem_of_head? isLast)
  obtain ⟨_, _, rfl, rfl, name, _, rfl, takesName, _, _, rfl, rfl, gap, _, rfl, takesGap, _,
    later, rfl, ⟨separator, rfl, separates⟩, takesLater⟩ := takesHead
  have gaps := (takes_many_one takesGap).1
  have laterGaps := (takes_many_one takesLater).1
  obtain ⟨quotes, single⟩ : (∀ c ∈ quote, isQuote c = true) ∧ quote.length ≤ 1 :=
    ⟨(takes_many_one takesQuote).1, (takes_many_one takesQuote).2 1 rfl⟩
  have assigns : separator = ':' ∨ separator = '=' := by simpa using separates
  have isName := isName_of_takes takesName
  obtain ⟨c, rest, isValue, isSecret⟩ :
      ∃ c rest, start.2 = c :: rest ∧ isSecretChar c = true := by
    cases isValue : start.2 with
    | nil =>
        rw [isValue] at long
        cases long
    | cons c rest =>
        refine ⟨c, rest, rfl, ?_⟩
        by_contra plain
        rw [isValue, List.takeWhile_cons_of_neg plain] at long
        cases long
  have whole : place.2 = name ++ (gap ++ separator :: (later ++ (quote ++ start.2))) := by
    rw [isTaken, isQuoted]
    simp only [List.nil_append, List.append_assoc, List.cons_append]
  have same : valueFrom place.2 = start.2 := by
    rw [whole, isValue]
    exact valueFrom_parts isName.chars gaps assigns laterGaps quotes single isSecret
  have cut : (start.2.takeWhile isSecretChar).length + stop.2.length = start.2.length := by
    rw [isRun, ← List.length_append, List.takeWhile_append_dropWhile]
  have parts : place.2 = name ++ ((gap ++ separator :: (later ++ quote)) ++ start.2) := by
    rw [whole]
    simp only [List.append_assoc, List.cons_append]
  have total := congrArg List.length parts
  rw [← List.append_assoc, List.length_append] at total
  have rest := congrArg List.length isClosed
  rw [List.length_append] at rest
  refine ⟨name, gap ++ separator :: (later ++ quote), closing, last.2, ⟨?_, isName, ?_, ?_, ?_⟩,
    ?_, ?_, ?_, ?_⟩
  · rw [same]
    exact parts
  · simp
  · intro d present
    rcases List.mem_append.mp present with inGap | present
    · simp [isDelimiter, gaps d inGap]
    · rcases List.mem_cons.mp present with rfl | present
      · rcases assigns with rfl | rfl <;> decide
      · rcases List.mem_append.mp present with inLater | inQuote
        · simp [isDelimiter, laterGaps d inLater]
        · simp [isDelimiter, quotes d inQuote]
  · rw [assignedValue, same]
    exact long
  · rw [same, ← isRun]
    exact isClosed
  · refine fun d present => ?_
    have isQuoteChar : isQuote d = true := by
      refine takes_closingQuote ?_ takesClosing d present
      intro e opened
      split at opened
      · rename_i shorter
        match quote with
        | [] =>
            rw [isQuoted] at shorter
            exact absurd shorter (Nat.lt_irrefl _)
        | f :: quote =>
            rw [isQuoted] at opened
            cases opened
            exact quotes e List.mem_cons_self
      · cases opened
    simp [isDelimiter, isQuoteChar]
  · have isSpan := congrArg Prod.snd found
    dsimp only at isSpan
    rw [← isSpan, assignedValue, same]
    refine Prod.ext ?_ ?_
    · dsimp only
      omega
    · dsimp only
      omega
  · have isSpan := congrArg Prod.snd found
    have isLength := congrArg Prod.fst found
    dsimp only at isSpan isLength
    rw [← isSpan, ← isLength]
    dsimp only
    omega

/-! ## Persistence -/

section Persistence

variable (unicode : Unicode)

private theorem blurred_caseless (word : Str) : (caseless word).Blurred isGap := by
  induction word with
  | nil => exact fun _ _ => rfl
  | cons letter rest inductionHypothesis => exact ⟨trivial, inductionHypothesis⟩

private theorem blurred_secretHead : (secretHead unicode).Blurred isGap := by
  have word := blurred_wordBoundary (isWord_gap unicode)
  have key : ∀ word, (seq (caseless word) (seq optionalDash (caseless "key".toList))).Blurred
      isGap := fun word => ⟨blurred_caseless word, blurred_optional (blurred_one _),
        blurred_caseless _⟩
  exact ⟨word, ⟨key _, blurred_caseless _, blurred_caseless _, blurred_caseless _,
    blurred_caseless _, key _⟩, word, ⟨trivial, fun _ => Nat.one_pos⟩, trivial, trivial,
    fun _ => Nat.one_pos⟩

/-- An assigned secret is one in any surroundings. -/
theorem persistent_secretAssignment : Persistent isGap (secretAssignment unicode) := by
  intro suffix begins inner outer alike length captured found
  obtain ⟨head, isHead, found⟩ := exists_of_head?_flatMap found
  obtain ⟨start, isStart, found⟩ := exists_of_head?_flatMap found
  obtain ⟨stop, isStop, -⟩ := exists_of_head?_flatMap found
  obtain ⟨otherHead, inHead, alikeHead⟩ :=
    ends_persist begins (blurred_secretHead unicode) alike head isHead
  obtain ⟨otherStart, inStart, alikeStart⟩ :=
    ends_persist begins (blurred_optional (blurred_one _)) alikeHead start isStart
  obtain ⟨otherStop, inStop, -⟩ :=
    ends_persist begins (blurred_atLeast (blurred_one _) Nat.one_pos 8) alikeStart stop isStop
  have held : (((secretHead unicode).ends outer).flatMap fun head =>
      (openingQuote.ends head).flatMap fun start =>
        (secretValue.ends start).flatMap fun stop =>
          ((closingQuote (if start.2.length < head.2.length then head.2.head? else none)).ends
            stop).map fun last =>
              (outer.2.length - last.2.length,
                (outer.2.length - start.2.length, outer.2.length - stop.2.length))) ≠ [] := by
    intro empty
    rw [List.flatMap_eq_nil_iff] at empty
    have emptyStart := List.flatMap_eq_nil_iff.mp (empty otherHead inHead) otherStart inStart
    have emptyStop := List.flatMap_eq_nil_iff.mp emptyStart otherStop inStop
    exact ends_closingQuote_ne_nil _ _ (List.map_eq_nil_iff.mp emptyStop)
  obtain ⟨first, rest, isFirst⟩ := List.exists_cons_of_ne_nil held
  have found : secretAssignment unicode outer = some first := by
    rw [secretAssignment, isFirst, List.head?_cons]
  obtain ⟨length, span⟩ := first
  obtain ⟨name, middle, quote, rest, assigns, -, -, isSpan, isLength⟩ :=
    assigns_of_secretAssignment found
  have long := assigns.long
  rw [isSpan] at isLength
  dsimp only at isLength
  refine ⟨length - 1, span, ?_⟩
  rw [found, Nat.sub_add_cancel (by omega)]

/-- A secret is no longer than the text. -/
theorem bounded_secretAssignment : Bounded (secretAssignment unicode) := by
  intro place length captured found
  obtain ⟨head, isHead, found⟩ := exists_of_head?_flatMap found
  obtain ⟨start, isStart, found⟩ := exists_of_head?_flatMap found
  obtain ⟨stop, isStop, found⟩ := exists_of_head?_flatMap found
  rw [List.head?_map] at found
  obtain ⟨last, -, found⟩ := Option.map_eq_some_iff.mp found
  obtain ⟨rfl, -⟩ := Prod.mk.inj found
  exact Nat.sub_le _ _

end Persistence

/-! ## Synthetic tokens -/

/-- A synthetic token: capital letters and dashes, and eight hexadecimal digits. -/
theorem parts_of_token
    {token : Str}
    (takes : syntheticProhibitedRe.Takes token) :
    ∃ front digits, token = front ++ digits ∧ (∀ c ∈ front, c.isUpper = true ∨ c = '-') ∧
      digits.length = 8 ∧ ∀ c ∈ digits, isHexDigit c = true := by
  obtain ⟨text, _, rfl, isText, letters, _, rfl, isLetters, _, digits, rfl, ⟨dash, rfl, isDash⟩,
    isDigits⟩ := takes
  obtain rfl := takes_literal isText
  obtain ⟨length, all⟩ := takes_times_one isDigits
  have capitals : ∀ c ∈ "SYNTHETIC-PROHIBITED-".toList, c.isUpper = true ∨ c = '-' := by decide
  refine ⟨"SYNTHETIC-PROHIBITED-".toList ++ (letters ++ [dash]), digits, ?_, ?_, length, all⟩
  · simp only [List.append_assoc]
  · intro c present
    rcases List.mem_append.mp present with inText | present
    · exact capitals c inText
    · rcases List.mem_append.mp present with inLetters | inDash
      · exact Or.inl (takes_between_one isLetters c inLetters)
      · rw [List.mem_singleton.mp inDash]
        exact Or.inr (of_decide_eq_true isDash)

/-- No character of a synthetic token stands between a name and what is assigned to it. -/
theorem isDelimiter_of_mem_token
    {token : Str}
    (takes : syntheticProhibitedRe.Takes token) : ∀ c ∈ token, isDelimiter c = false := by
  obtain ⟨front, digits, rfl, isFront, -, isDigits⟩ := parts_of_token takes
  intro c present
  rcases List.mem_append.mp present with inFront | inDigits
  · rcases isFront c inFront with isUpper | rfl
    · refine isDelimiter_of_isNameChar ?_
      simp [isNameChar, Text.isAlpha_iff, isUpper]
    · decide
  · have bounds := isHexDigit_bounds (isDigits c inDigits)
    exact isDelimiter_of_bounds (by omega)

/-! ## Shadowing -/

/-- A text that is cut at a character inside its middle part. -/
private theorem cut_within
    {front rest first second third : Str}
    {c : Char}
    (same : front ++ c :: rest = first ++ (second ++ third))
    (starts : first.length ≤ front.length)
    (stops : front.length < first.length + second.length) :
    ∃ left right, second = left ++ c :: right ∧ front = first ++ left ∧ rest = right ++ third := by
  rcases List.append_eq_append_iff.mp same with ⟨more, isFirst, isRest⟩ | ⟨left, rfl, isMiddle⟩
  · rw [isFirst, List.length_append] at starts
    obtain rfl := List.eq_nil_of_length_eq_zero (by omega : more.length = 0)
    rw [List.append_nil] at isFirst
    rw [List.nil_append] at isRest
    rw [isFirst] at stops
    cases second with
    | nil => exact absurd stops (Nat.lt_irrefl _)
    | cons d second =>
        rw [List.cons_append] at isRest
        obtain ⟨rfl, rfl⟩ := List.cons.inj isRest
        exact ⟨[], second, rfl, by rw [List.append_nil, isFirst], rfl⟩
  · rw [List.length_append] at stops
    rcases List.append_eq_append_iff.mp isMiddle with ⟨more, isLeft, -⟩ | ⟨right, isSecond, isRest⟩
    · rw [isLeft, List.length_append] at stops
      omega
    · cases right with
      | nil =>
          rw [List.append_nil] at isSecond
          rw [isSecond] at stops
          exact absurd stops (Nat.lt_irrefl _)
      | cons d right =>
          rw [List.cons_append] at isRest
          obtain ⟨rfl, rfl⟩ := List.cons.inj isRest
          exact ⟨left, right, isSecond, rfl, rfl⟩

/-- A name is no end of a synthetic token. -/
private theorem not_token_of_isName
    {name front token : Str}
    (isName : IsName name)
    (takes : syntheticProhibitedRe.Takes token)
    (same : token = front ++ name) : False := by
  obtain ⟨letters, digits, isToken, -, length, isDigits⟩ := parts_of_token takes
  obtain ⟨start, c, tail, isLate, short, noHex⟩ := isName.late
  have whole : (front ++ start) ++ c :: tail = letters ++ (digits ++ []) := by
    rw [List.append_nil, ← isToken, same, isLate, List.append_assoc]
  have total := congrArg List.length whole
  simp only [List.length_append, List.length_cons, List.length_nil] at total
  obtain ⟨left, right, isCut, -, -⟩ := cut_within whole
    (by rw [List.length_append]; omega) (by rw [List.length_append]; omega)
  have isHex := isDigits c (isCut ▸ List.mem_append_right _ List.mem_cons_self)
  rw [noHex] at isHex
  cases isHex

/-- Where a name begins in a value, the value does not lie in a synthetic token. -/
private theorem not_inside_of_name
    {text start name middle value rest : Str}
    (isName : IsName name)
    (held : middle ≠ [])
    (delimits : ∀ c ∈ middle, isDelimiter c = true)
    {after : Str}
    (isText : text = start ++ (value ++ after))
    (stops : after.head?.all (!isSecretChar ·) = true)
    {front : Str}
    (isCut : text = front ++ (name ++ (middle ++ rest)))
    (starts : start.length ≤ front.length)
    (ends : front.length < start.length + value.length) :
    insideSynthetic (start.length, start.length + value.length) (syntheticSpans text) = false := by
  rw [← Bool.not_eq_true, insideSynthetic, List.any_eq_true]
  rintro ⟨token, isToken, inside⟩
  obtain ⟨before, taken, behindToken, isWhole, rfl, takes⟩ := takes_of_mem_finditer isToken
  simp only [Bool.and_eq_true, decide_eq_true_eq] at inside
  obtain ⟨early, late⟩ := inside
  obtain ⟨c, others, rfl⟩ : ∃ c others, name = c :: others := by
    obtain ⟨first, c, tail, rfl, -, -⟩ := isName.late
    exact List.exists_cons_of_ne_nil (List.append_ne_nil_of_right_ne_nil _ (List.cons_ne_nil _ _))
  obtain ⟨d, middle, rfl⟩ := List.exists_cons_of_ne_nil held
  have secretCut : front ++ c :: (others ++ (d :: middle ++ rest)) = start ++ (value ++ after) :=
    isCut.symm.trans isText
  have tokenCut : front ++ c :: (others ++ (d :: middle ++ rest)) =
      before ++ (taken ++ behindToken) := isCut.symm.trans isWhole
  obtain ⟨left, run, rfl, isFront, isRun⟩ := cut_within secretCut starts ends
  obtain ⟨letters, tail, rfl, isLetters, isTail⟩ :=
    cut_within tokenCut (early.trans starts) (ends.trans_le late)
  have longRun : others.length ≤ run.length := by
    rcases List.append_eq_append_iff.mp isRun with ⟨more, rfl, -⟩ | ⟨more, isOthers, isAfter⟩
    · rw [List.length_append]
      exact Nat.le_add_right _ _
    · cases more with
      | nil =>
          rw [isOthers, List.append_nil]
      | cons e more =>
          have isNameChar : isNameChar e = true :=
            isName.chars e (List.mem_cons_of_mem _ (isOthers ▸ List.mem_append_right _
              List.mem_cons_self))
          rw [isAfter, List.cons_append, List.head?_cons, Option.all_some,
            isSecretChar_of_isNameChar isNameChar] at stops
          cases stops
  have shortTail : tail.length ≤ others.length := by
    rcases List.append_eq_append_iff.mp isTail with ⟨more, isTailMore, isMore⟩ | ⟨more, rfl, -⟩
    · cases more with
      | nil =>
          rw [isTailMore, List.append_nil]
      | cons e more =>
          rw [List.cons_append, List.cons_append] at isMore
          obtain ⟨rfl, -⟩ := List.cons.inj isMore
          have plain := isDelimiter_of_mem_token takes d (List.mem_append_right _
            (List.mem_cons_of_mem _ (isTailMore ▸ List.mem_append_right _ List.mem_cons_self)))
          rw [delimits d List.mem_cons_self] at plain
          cases plain
    · rw [List.length_append]
      exact Nat.le_add_right _ _
  have frontLength := (congrArg List.length isFront).symm.trans (congrArg List.length isLetters)
  simp only [List.length_append, List.length_cons] at frontLength late
  have same : others.length = tail.length := by omega
  obtain ⟨rfl, -⟩ := List.append_inj isTail same
  exact not_token_of_isName isName takes rfl

/-- The value of an assignment does not depend on what follows after a gap. -/
private theorem assignedValue_append
    {text back : Str}
    (held : valueFrom text ≠ [])
    (begins : Begins isGap back) : assignedValue (text ++ back) = assignedValue text := by
  have stops : back.takeWhile isSecretChar = [] := by
    cases back with
    | nil => rfl
    | cons gap back =>
        refine List.takeWhile_cons_of_neg fun isSecret => ?_
        have isGapChar : isGap gap = true := begins
        rw [(isSecretChar_plain isSecret).2.2] at isGapChar
        cases isGapChar
  rw [assignedValue, assignedValue, valueFrom_append_right held, List.takeWhile_append, stops]
  split
  · rename_i whole
    rw [List.append_nil]
    exact ((List.takeWhile_prefix isSecretChar).eq_of_length whole).symm
  · rfl

/-- What is assigned is there. -/
private theorem Assigns.valueFrom_ne_nil
    {text name middle : Str}
    (assigns : Assigns text name middle) : valueFrom text ≠ [] := by
  intro empty
  have long := assigns.long
  rw [assignedValue, empty] at long
  cases long

/-- An assignment that begins inside the name of another has the value of the other. -/
private theorem Assigns.sameValue
    {text name middle other otherName otherMiddle left back : Str}
    (assigns : Assigns text name middle)
    (otherAssigns : Assigns other otherName otherMiddle)
    (begins : Begins isGap back)
    (inLeft : ∀ c ∈ left, isNameChar c = true)
    (isOther : other = left ++ (text ++ back)) :
    assignedValue other = assignedValue text ∧
      otherName.length + otherMiddle.length = left.length + (name.length + middle.length) := by
  have held := assigns.valueFrom_ne_nil
  have sameFrom : valueFrom other = valueFrom text ++ back := by
    rw [isOther, valueFrom_append_left inLeft, valueFrom_append_right held]
  refine ⟨?_, ?_⟩
  · rw [← assignedValue_append held begins, assignedValue, assignedValue, sameFrom,
      valueFrom_append_right held]
  · have total := congrArg List.length assigns.parts
    have otherTotal := congrArg List.length otherAssigns.parts
    have wholeTotal := congrArg List.length isOther
    rw [sameFrom] at otherTotal
    simp only [List.length_append] at total otherTotal wholeTotal
    omega

/-- After a run comes no character of the class. -/
private theorem all_head?_dropWhile
    (test : Char → Bool)
    (text : Str) : (text.dropWhile test).head?.all (!test ·) = true := by
  have refuses := List.head?_dropWhile_not test text
  cases isHead : (text.dropWhile test).head? with
  | none => rfl
  | some c =>
      rw [isHead] at refuses
      simpa using refuses

section Surrounded

variable
    (unicode : Unicode)
    {front back : Str}
    (closes : Ends isGap front)
    (begins : Begins isGap back)

include closes begins

/-- A text with an assigned secret has one in any surroundings. -/
theorem secretAssignment_surrounded
    {text : Str}
    {span : Nat × Nat}
    (present : span ∈ spansOf unicode text .secretAssignment)
    (outside : insideSynthetic span (syntheticSpans text) = false) :
    ∃ other ∈ spansOf unicode (front ++ (text ++ back)) .secretAssignment,
      insideSynthetic other (syntheticSpans (front ++ (text ++ back))) = false := by
  obtain ⟨found, isFound, rfl⟩ := List.mem_map.mp present
  obtain ⟨other, isOther, early, late⟩ := exists_scan_context (bounded_secretAssignment unicode)
    (persistent_secretAssignment unicode) closes begins isFound
  obtain ⟨start, rest, length, rfl, -, isPlace, fits, isMatch⟩ :=
    mem_scanFrom (bounded_secretAssignment unicode) isFound
  obtain ⟨otherStart, otherRest, otherLength, isWhole, -, isOtherPlace, -, isOtherMatch⟩ :=
    mem_scanFrom (bounded_secretAssignment unicode) isOther
  obtain ⟨name, middle, -, -, assigns, -, -, isSpan, -⟩ := assigns_of_secretAssignment isMatch
  obtain ⟨otherName, otherMiddle, quote, after, otherAssigns, isRun, quotes, isOtherSpan,
    isOtherLength⟩ := assigns_of_secretAssignment isOtherMatch
  dsimp only at assigns otherAssigns isRun isSpan isOtherSpan
  refine ⟨shift other.1.1 other.2, List.mem_map_of_mem isOther, ?_⟩
  rw [isPlace, isOtherPlace] at early
  rw [isPlace, isOtherPlace, isOtherLength, isOtherSpan] at late
  rw [isPlace, isSpan] at outside
  rw [isOtherPlace, isOtherSpan]
  simp only [List.length_append, Nat.zero_add] at early late outside ⊢
  have value := List.takeWhile_append_dropWhile (p := isSecretChar) (l := valueFrom otherRest)
  rw [isRun] at value
  have otherParts : otherStart ++ otherRest = otherStart ++ (otherName ++ (otherMiddle ++
      (assignedValue otherRest ++ (quote ++ after)))) := by
    rw [assignedValue, value, ← otherAssigns.parts]
  obtain ⟨c, others, isCons⟩ : ∃ c others, name = c :: others := by
    obtain ⟨first, c, tail, isName, -, -⟩ := assigns.isName.late
    exact List.exists_cons_of_ne_nil (isName ▸ List.append_ne_nil_of_right_ne_nil _
      (List.cons_ne_nil _ _))
  have ofName : isNameChar c = true := assigns.isName.chars c (isCons ▸ List.mem_cons_self)
  have plain := isDelimiter_of_isNameChar ofName
  have restCut : rest ++ back = c :: (others ++ (middle ++ valueFrom rest) ++ back) := by
    conv_lhs => rw [assigns.parts, isCons]
    simp only [List.append_assoc, List.cons_append]
  have cut : (front ++ start) ++ c :: (others ++ (middle ++ valueFrom rest) ++ back) =
      otherStart ++ otherRest := by
    rw [← isWhole, ← restCut]
    simp only [List.append_assoc]
  by_cases inName : front.length + start.length < otherStart.length + otherName.length
  · obtain ⟨left, right, isName, isFront, isRight⟩ := cut_within (cut.trans otherParts)
      (by rw [List.length_append]; exact early) (by rw [List.length_append]; exact inName)
    have isRest : otherRest = left ++ (rest ++ back) := by
      refine List.append_cancel_left (cut.symm.trans ?_)
      rw [isFront, restCut, List.append_assoc]
    obtain ⟨sameValue, sameLength⟩ := assigns.sameValue otherAssigns begins
      (fun d present => otherAssigns.isName.chars d (isName ▸ List.mem_append_left _ present))
      isRest
    have long := assigns.long
    have fitsValue : name.length + middle.length + (assignedValue rest).length ≤ rest.length := by
      have short := (List.takeWhile_prefix isSecretChar (l := valueFrom rest)).length_le
      have total := congrArg List.length assigns.parts
      rw [← assignedValue] at short
      simp only [List.length_append] at total
      omega
    have frontTotal := congrArg List.length isFront
    simp only [List.length_append] at frontTotal
    rw [← insideSynthetic_surrounded closes begins] at outside
    · have same : shift otherStart.length (otherName.length + otherMiddle.length,
          otherName.length + otherMiddle.length + (assignedValue otherRest).length) =
            shift front.length (shift start.length (name.length + middle.length,
              name.length + middle.length + (assignedValue rest).length)) := by
        rw [sameValue]
        simp only [shift, Prod.mk.injEq]
        omega
      rw [same]
      exact outside
    · simp only [shift]
      omega
    · simp only [shift, List.length_append]
      omega
  · by_cases inMiddle : front.length + start.length <
        otherStart.length + otherName.length + otherMiddle.length
    · obtain ⟨left, right, isMiddle, -, -⟩ :=
        cut_within (cut.trans (otherParts.trans (List.append_assoc _ _ _).symm))
          (by simp only [List.length_append]; omega) (by simp only [List.length_append]; omega)
      have delimits := otherAssigns.delimits c
        (isMiddle ▸ List.mem_append_right _ List.mem_cons_self)
      rw [plain] at delimits
      cases delimits
    · by_cases inValue : front.length + start.length < otherStart.length + otherName.length +
          otherMiddle.length + (assignedValue otherRest).length
      · have isText : front ++ (start ++ rest ++ back) = (otherStart ++ otherName ++ otherMiddle) ++
            (assignedValue otherRest ++ (quote ++ after)) := by
          rw [isWhole, otherParts]
          simp only [List.append_assoc]
        have isCut : front ++ (start ++ rest ++ back) =
            (front ++ start) ++ (name ++ (middle ++ (valueFrom rest ++ back))) := by
          conv_lhs => rw [assigns.parts]
          simp only [List.append_assoc]
        have stops := all_head?_dropWhile isSecretChar (valueFrom otherRest)
        rw [isRun] at stops
        have result := not_inside_of_name assigns.isName assigns.held assigns.delimits isText stops
          isCut (by simp only [List.length_append]; omega)
          (by simp only [List.length_append]; omega)
        simp only [List.length_append] at result
        simp only [shift, ← Nat.add_assoc]
        exact result
      · have grouped : otherStart ++ otherRest =
            (otherStart ++ otherName ++ otherMiddle ++ assignedValue otherRest) ++
              (quote ++ after) := by
          rw [otherParts]
          simp only [List.append_assoc]
        obtain ⟨left, right, isQuoted, -, -⟩ := cut_within (cut.trans grouped)
          (by simp only [List.length_append]; omega) (by simp only [List.length_append]; omega)
        have delimits := quotes c (isQuoted ▸ List.mem_append_right _ List.mem_cons_self)
        rw [plain] at delimits
        cases delimits

end Surrounded

end PayloadScan
end ChatPlatform
