import ChatPlatform.Foundation.Value
import Mathlib.Tactic.Ring

/-!
# Scanning JSON tokens

String literals and numbers, the way a strict reader takes them from the front of a
text. What a writer wrote is scanned back, and the shortest way to write a scanned
string is no longer than what was scanned. Half of a surrogate pair stands for no
character and is refused.
-/

namespace ChatPlatform
namespace Json

/-! ## String literals -/

/-- The value of a hexadecimal digit. -/
def hexValue (c : Char) : Option Nat :=
  if c.toNat < 128 then (Numeral.digitValue c).filter (· < 16) else none

/-- The code unit at the front of a text. -/
def scanUnit : Str → Option (Nat × Str)
  | first :: second :: third :: fourth :: rest =>
      match hexValue first, hexValue second, hexValue third, hexValue fourth with
      | some a, some b, some c, some d => some (((a * 16 + b) * 16 + c) * 16 + d, rest)
      | _, _, _, _ => none
  | _ => none

/-- The second half of a surrogate pair. -/
def scanLow (high : Nat) : Str → Option (Char × Str)
  | '\\' :: 'u' :: text =>
      match scanUnit text with
      | some (low, rest) =>
          if 0xDC00 ≤ low ∧ low < 0xE000 then
            some (Char.ofNat (0x10000 + (high - 0xD800) * 0x400 + (low - 0xDC00)), rest)
          else none
      | none => none
  | _ => none

/-- The character of one code unit or of a pair of them. -/
def scanCodePoint (text : Str) : Option (Char × Str) :=
  match scanUnit text with
  | none => none
  | some (unit, rest) =>
      if 0xD800 ≤ unit ∧ unit < 0xDC00 then scanLow unit rest
      else if 0xDC00 ≤ unit ∧ unit < 0xE000 then none
      else some (Char.ofNat unit, rest)

/-- The characters that are escaped by one character. -/
def shortEscapes : List (Char × Char) :=
  [('"', '"'), ('\\', '\\'), ('/', '/'), ('b', Char.ofNat 8), ('f', Char.ofNat 12),
    ('n', '\n'), ('r', '\r'), ('t', '\t')]

/-- The character after a backslash. -/
def scanEscape (c : Char) (rest : Str) : Option (Char × Str) :=
  if c = 'u' then scanCodePoint rest
  else (shortEscapes.lookup c).map fun meant => (meant, rest)

/-- The character at the front of the rest of a string literal. -/
def scanChar : Str → Option (Char × Str)
  | [] => none
  | c :: rest =>
      if c = '"' then none
      else if c = '\\' then
        match rest with
        | [] => none
        | escaped :: rest => scanEscape escaped rest
      else if c.toNat < 32 then none
      else some (c, rest)

/-- The rest of a string literal, up to the quotation mark that ends it. -/
def scanChars : Nat → Str → Option (Str × Str)
  | 0, _ => none
  | fuel + 1, text =>
      match text with
      | '"' :: rest => some ([], rest)
      | text =>
          match scanChar text with
          | none => none
          | some (c, rest) =>
              (scanChars fuel rest).map fun scanned => (c :: scanned.1, scanned.2)

/-! ## What was written is scanned back -/

/-- A printed digit has its value. -/
theorem hexValue_hexDigit (n : Nat) : hexValue (Numeral.hexDigit n) = some (n % 16) := by
  have table : Numeral.hexAlphabet.all (fun c => c.toNat < 128) = true := by decide
  have ascii := List.all_eq_true.mp table _ (Numeral.hexDigit_mem n)
  unfold hexValue
  rw [if_pos (of_decide_eq_true ascii), Numeral.digitValue_hexDigit]
  exact Option.filter_some_pos (decide_eq_true (Nat.mod_lt n (by decide)))

/-- Four printed digits are scanned back. -/
theorem scanUnit_hexText (unit : Nat) (rest : Str) :
    scanUnit (Numeral.hexText 4 unit ++ rest) = some (unit % 65536, rest) := by
  simp only [Numeral.hexText, List.nil_append, List.cons_append, scanUnit, hexValue_hexDigit,
    Option.some.injEq, Prod.mk.injEq, and_true]
  omega

/-- A code unit that is not part of a pair is scanned back as its character. -/
theorem scanChar_unicodeEscape
    {unit : Nat}
    (rest : Str)
    (small : unit < 0x10000)
    (single : ¬(0xD800 ≤ unit ∧ unit < 0xE000)) :
    scanChar (unicodeEscape unit ++ rest) = some (Char.ofNat unit, rest) := by
  have notHigh : ¬(0xD800 ≤ unit ∧ unit < 0xDC00) := by omega
  have notLow : ¬(0xDC00 ≤ unit ∧ unit < 0xE000) := by omega
  show scanCodePoint (Numeral.hexText 4 unit ++ rest) = _
  unfold scanCodePoint
  rw [scanUnit_hexText, Nat.mod_eq_of_lt small]
  dsimp only
  rw [if_neg notHigh, if_neg notLow]

/-- The two code units of a pair are scanned back. -/
theorem scanChar_units
    {high low : Nat}
    (rest : Str)
    (isHigh : 0xD800 ≤ high ∧ high < 0xDC00)
    (isLow : 0xDC00 ≤ low ∧ low < 0xE000) :
    scanChar (unicodeEscape high ++ (unicodeEscape low ++ rest)) =
      some (Char.ofNat (0x10000 + (high - 0xD800) * 0x400 + (low - 0xDC00)), rest) := by
  have highValue : high % 65536 = high := by omega
  have lowValue : low % 65536 = low := by omega
  show scanCodePoint (Numeral.hexText 4 high ++ (unicodeEscape low ++ rest)) = _
  unfold scanCodePoint
  rw [scanUnit_hexText, highValue]
  dsimp only
  rw [if_pos isHigh]
  show scanLow high ('\\' :: 'u' :: (Numeral.hexText 4 low ++ rest)) = _
  rw [scanLow, scanUnit_hexText, lowValue]
  dsimp only
  rw [if_pos isLow]

/-- A pair of code units is scanned back as its character. -/
theorem scanChar_pair
    {n : Nat}
    (rest : Str)
    (large : 0x10000 ≤ n)
    (small : n < 0x110000) :
    scanChar (unicodeEscape (0xD800 + (n - 0x10000) / 0x400) ++
      unicodeEscape (0xDC00 + (n - 0x10000) % 0x400) ++ rest) =
        some (Char.ofNat n, rest) := by
  have assembled : 0x10000 + (0xD800 + (n - 0x10000) / 0x400 - 0xD800) * 0x400 +
      (0xDC00 + (n - 0x10000) % 0x400 - 0xDC00) = n := by omega
  rw [List.append_assoc, scanChar_units rest (by omega) (by omega), assembled]

/-- Every written character is scanned back. -/
theorem scanChar_escapeChar (style : Style) (c : Char) (rest : Str) :
    scanChar (escapeChar style c ++ rest) = some (c, rest) := by
  have whole : Char.ofNat c.toNat = c := Char.ofNat_toNat c
  have valid : c.toNat < 0xD800 ∨ 0xDFFF < c.toNat ∧ c.toNat < 0x110000 := c.valid
  unfold escapeChar
  dsimp only
  split_ifs with quoted backslash newline carriage tab formFeed backspace control ascii basic
  · rw [quoted]
    rfl
  · rw [backslash]
    rfl
  · rw [newline]
    rfl
  · rw [carriage]
    rfl
  · rw [tab]
    rfl
  · rw [← whole, formFeed]
    rfl
  · rw [← whole, backspace]
    rfl
  · rw [scanChar_unicodeEscape rest (by omega) (by omega), whole]
  · rw [scanChar_unicodeEscape rest basic (by omega), whole]
  · rw [scanChar_pair rest (by omega) (by omega), whole]
  · simp only [List.cons_append, List.nil_append, scanChar]
    rw [if_neg quoted, if_neg backslash, if_neg control]

/-- A character at the front is not the end of its literal. -/
theorem scanChars_of_scanChar
    {fuel : Nat}
    {text rest : Str}
    {c : Char}
    (front : scanChar text = some (c, rest)) :
    scanChars (fuel + 1) text =
      (scanChars fuel rest).map fun scanned => (c :: scanned.1, scanned.2) := by
  have notEnd : ∀ after, text = '"' :: after → False := by
    intro after same
    rw [same] at front
    simp [scanChar] at front
  rw [scanChars.eq_3 _ _ notEnd, front]

/-- A written string is scanned back. -/
theorem scanChars_flatMap
    (style : Style)
    (s rest : Str)
    {fuel : Nat}
    (enough : s.length < fuel) :
    scanChars fuel (s.flatMap (escapeChar style) ++ '"' :: rest) = some (s, rest) := by
  induction s generalizing fuel with
  | nil =>
      cases fuel with
      | zero => exact absurd enough (Nat.not_lt_zero _)
      | succ fuel => rfl
  | cons c s inductionHypothesis =>
      cases fuel with
      | zero => exact absurd enough (Nat.not_lt_zero _)
      | succ fuel =>
          rw [List.flatMap_cons, List.append_assoc,
            scanChars_of_scanChar (scanChar_escapeChar style c _),
            inductionHypothesis (Nat.lt_of_succ_lt_succ enough)]
          rfl

/-! ## Numbers -/

/-- The characters numbers are written with. -/
def isNumberChar (c : Char) : Bool := "0123456789+-.eE".toList.contains c

/-- A run of digits that does not begin with a needless zero. -/
def isWhole (digits : Str) : Bool :=
  digits ≠ [] && (digits.length = 1 || digits.head? ≠ some '0')

/-- An optional sign and a run of digits. -/
def isPower : Str → Bool
  | [] => false
  | c :: rest =>
      if c = '+' ∨ c = '-' then rest ≠ [] && rest.all Char.isDigit
      else (c :: rest).all Char.isDigit

/-- Nothing, or an exponent. -/
def isExponent : Str → Bool
  | [] => true
  | c :: rest => (c = 'e' || c = 'E') && isPower rest

/-- A fraction or an exponent or both. -/
def isFraction : Str → Bool
  | [] => false
  | c :: rest =>
      if c = '.' then
        rest.takeWhile Char.isDigit ≠ [] && isExponent (rest.dropWhile Char.isDigit)
      else isExponent (c :: rest)

/-- The sign and the rest of a number. -/
def splitSign : Str → Bool × Str
  | '-' :: body => (true, body)
  | body => (false, body)

variable {F : Type} [FloatOps F]

/-- The value of a number. -/
def numberValue (token : Str) : Option (Value F) :=
  let body := (splitSign token).2
  let whole := body.takeWhile Char.isDigit
  let after := body.dropWhile Char.isDigit
  if !isWhole whole then none
  else if after = [] then
    let magnitude : Int := Nat.ofDigitChars 10 whole 0
    some (.int (if (splitSign token).1 then -magnitude else magnitude))
  else if isFraction after then (FloatOps.ofText token).map .float
  else none

/-- The number at the front of a text. -/
def scanNumber (text : Str) : Option (Value F × Str) :=
  (numberValue (text.takeWhile isNumberChar)).map fun value =>
    (value, text.dropWhile isNumberChar)

/-- Nothing that follows continues a number. -/
def EndsNumber (rest : Str) : Prop := ∀ c ∈ rest.head?, isNumberChar c = false

/-- A number is scanned up to its end. -/
theorem scanNumber_append
    {token rest : Str}
    (written : token.all isNumberChar = true)
    (ends : EndsNumber rest) :
    scanNumber (F := F) (token ++ rest) =
      (numberValue token).map fun value => (value, rest) := by
  have stops : rest.takeWhile isNumberChar = [] ∧ rest.dropWhile isNumberChar = rest := by
    cases rest with
    | nil => exact ⟨rfl, rfl⟩
    | cons c rest =>
        have apart := ends c rfl
        exact ⟨List.takeWhile_cons_of_neg (by simp [apart]),
          List.dropWhile_cons_of_neg (by simp [apart])⟩
  have every := List.all_eq_true.mp written
  unfold scanNumber
  rw [List.takeWhile_append_of_pos every, List.dropWhile_append_of_pos every, stops.1, stops.2,
    List.append_nil]

/-- Printed digits are digits. -/
private theorem toDigits_isDigit {n : Nat} : ∀ c ∈ Nat.toDigits 10 n, c.isDigit = true :=
  fun _ held => Nat.isDigit_of_mem_toDigits (by decide) (by decide) held

/-- A printed number other than zero does not begin with a zero. -/
private theorem head_toDigits
    {n : Nat}
    (positive : 0 < n) : (Nat.toDigits 10 n).head? ≠ some '0' := by
  induction n using Nat.strong_induction_on with
  | _ n inductionHypothesis =>
      by_cases small : n < 10
      · rw [Nat.toDigits_of_lt_base small]
        have table : ∀ k < 10, 0 < k → [Nat.digitChar k].head? ≠ some '0' := by decide
        exact table n small positive
      · rw [Nat.toDigits_of_base_le (by decide) (by omega),
          List.head?_append_of_ne_nil _ Nat.toDigits_ne_nil]
        exact inductionHypothesis (n / 10) (by omega) (by omega)

/-- Printed digits have no needless zero. -/
private theorem isWhole_toDigits (n : Nat) : isWhole (Nat.toDigits 10 n) = true := by
  unfold isWhole
  rw [Bool.and_eq_true, Bool.or_eq_true]
  refine ⟨decide_eq_true Nat.toDigits_ne_nil, ?_⟩
  by_cases zero : n = 0
  · subst zero
    exact Or.inl rfl
  · exact Or.inr (decide_eq_true (head_toDigits (Nat.pos_of_ne_zero zero)))

/-- The digits of a number without a sign. -/
private theorem splitSign_toDigits (n : Nat) :
    splitSign (Nat.toDigits 10 n) = (false, Nat.toDigits 10 n) := by
  cases digits : Nat.toDigits 10 n with
  | nil => rfl
  | cons c rest =>
      have isDigit : c.isDigit = true := by
        apply toDigits_isDigit c
        rw [digits]
        exact List.mem_cons_self
      unfold splitSign
      split
      · rename_i same
        rw [(List.cons.inj same).1] at isDigit
        exact absurd isDigit (by decide)
      · rfl

/-- A printed integer has its value. -/
theorem numberValue_decimal (n : Int) :
    numberValue (F := F) (Numeral.decimal n) = some (.int n) := by
  have whole : ∀ k, (Nat.toDigits 10 k).takeWhile Char.isDigit = Nat.toDigits 10 k :=
    fun k => List.takeWhile_eq_self_iff.mpr toDigits_isDigit
  have after : ∀ k, (Nat.toDigits 10 k).dropWhile Char.isDigit = [] :=
    fun k => List.dropWhile_eq_nil_iff.mpr toDigits_isDigit
  cases n with
  | ofNat k =>
      unfold numberValue Numeral.decimal
      simp only [splitSign_toDigits, whole, after, isWhole_toDigits, Bool.not_true,
        Bool.false_eq_true, if_false, if_true, Nat.ofDigitChars_ten_toDigits]
      rfl
  | negSucc k =>
      unfold numberValue Numeral.decimal
      simp only [splitSign, whole, after, isWhole_toDigits, Bool.not_true,
        Bool.false_eq_true, if_false, if_true, Nat.ofDigitChars_ten_toDigits]
      rfl

/-- A digit is a character of a number. -/
private theorem isNumberChar_of_isDigit
    {c : Char}
    (isDigit : c.isDigit = true) : isNumberChar c = true := by
  have bounds := Numeral.isDigit_bounds isDigit
  have table : ∀ k ≤ 57, 48 ≤ k → isNumberChar (Char.ofNat k) = true := by decide
  have entry := table c.toNat bounds.2 bounds.1
  rwa [Char.ofNat_toNat] at entry

/-- A printed integer is written with the characters of numbers. -/
theorem decimal_all_isNumberChar (n : Int) :
    (Numeral.decimal n).all isNumberChar = true := by
  have digits : ∀ k, (Nat.toDigits 10 k).all isNumberChar = true :=
    fun k => List.all_eq_true.mpr fun c held => isNumberChar_of_isDigit (toDigits_isDigit c held)
  cases n with
  | ofNat k => exact digits k
  | negSucc k =>
      unfold Numeral.decimal
      rw [List.all_cons, digits]
      decide

end Json
end ChatPlatform
