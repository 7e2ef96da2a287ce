import ChatPlatform.Foundation.PrefixCode
import ChatPlatform.Foundation.Value

/-!
# Reading JSON string literals back

A string literal ends at the first quotation mark that is not escaped, and every
escape stands for one character, so a literal determines its string whatever follows.
-/

namespace ChatPlatform
namespace Json

open PrefixCode

/-- The code unit written by four hexadecimal digits. -/
def unitAt (text : Str) : Nat := (text.take 4).foldl Numeral.appendDigit 0

/-- The character after `\u`: one code unit, or two that form a pair. -/
def readUnicode (text : Str) : Char × Str :=
  let unit := unitAt text
  if 0xD800 ≤ unit ∧ unit < 0xE000 then
    (Char.ofNat (0x10000 + (unit - 0xD800) * 0x400 + (unitAt (text.drop 6) - 0xDC00)),
      text.drop 10)
  else (Char.ofNat unit, text.drop 4)

/-- The character after a backslash. -/
def readEscape (c : Char) (rest : Str) : Char × Str :=
  if c = 'u' then readUnicode rest
  else if c = 'n' then ('\n', rest)
  else if c = 'r' then ('\r', rest)
  else if c = 't' then ('\t', rest)
  else if c = 'f' then (Char.ofNat 12, rest)
  else if c = 'b' then (Char.ofNat 8, rest)
  else (c, rest)

/-- The first character of the rest of a string literal. -/
def readChar : Str → Option (Char × Str)
  | [] => none
  | c :: rest =>
      if c = '"' then none
      else if c = '\\' then
        match rest with
        | [] => none
        | escaped :: rest => some (readEscape escaped rest)
      else some (c, rest)

@[simp] theorem readChar_escaped (c : Char) (rest : Str) :
    readChar ('\\' :: c :: rest) = some (readEscape c rest) := rfl

/-- Four printed digits are read back. -/
theorem unitAt_hexText (unit : Nat) (rest : Str) :
    unitAt (Numeral.hexText 4 unit ++ rest) = unit % 65536 := by
  unfold unitAt
  rw [List.take_left' (Numeral.hexText_length 4 unit), Numeral.foldl_hexText]
  simp

/-- A code unit that is not part of a pair is read back as its character. -/
theorem readChar_unicodeEscape
    {unit : Nat}
    (rest : Str)
    (small : unit < 0x10000)
    (single : ¬(0xD800 ≤ unit ∧ unit < 0xE000)) :
    readChar (unicodeEscape unit ++ rest) = some (Char.ofNat unit, rest) := by
  have value : unitAt (Numeral.hexText 4 unit ++ rest) = unit := by
    rw [unitAt_hexText, Nat.mod_eq_of_lt small]
  have after : (Numeral.hexText 4 unit ++ rest).drop 4 = rest :=
    List.drop_left' (Numeral.hexText_length 4 unit)
  simp [unicodeEscape, readEscape, readUnicode, value, after, single]

/-- A pair of code units is read back as its character. -/
theorem readChar_pair
    {n : Nat}
    (rest : Str)
    (large : 0x10000 ≤ n)
    (small : n < 0x110000) :
    readChar (unicodeEscape (0xD800 + (n - 0x10000) / 0x400) ++
      unicodeEscape (0xDC00 + (n - 0x10000) % 0x400) ++ rest) =
        some (Char.ofNat n, rest) := by
  let high := 0xD800 + (n - 0x10000) / 0x400
  let low := 0xDC00 + (n - 0x10000) % 0x400
  have highBound : 0xD800 ≤ high ∧ high < 0xDC00 := by omega
  have lowBound : 0xDC00 ≤ low ∧ low < 0xE000 := by omega
  have highValue : unitAt (Numeral.hexText 4 high ++
      ('\\' :: 'u' :: (Numeral.hexText 4 low ++ rest))) = high := by
    rw [unitAt_hexText, Nat.mod_eq_of_lt (by omega)]
  have lowValue : unitAt (Numeral.hexText 4 low ++ rest) = low := by
    rw [unitAt_hexText, Nat.mod_eq_of_lt (by omega)]
  have afterHigh : (Numeral.hexText 4 high ++
      ('\\' :: 'u' :: (Numeral.hexText 4 low ++ rest))).drop 6 =
        Numeral.hexText 4 low ++ rest := by
    rw [List.drop_append, Numeral.hexText_length]
    simp
  have afterLow : (Numeral.hexText 4 high ++
      ('\\' :: 'u' :: (Numeral.hexText 4 low ++ rest))).drop 10 = rest := by
    rw [← List.drop_drop (i := 4) (j := 6), afterHigh]
    exact List.drop_left' (Numeral.hexText_length 4 low)
  have surrogate : 0xD800 ≤ high ∧ high < 0xE000 := by omega
  have assembled : 0x10000 + (high - 0xD800) * 0x400 + (low - 0xDC00) = n := by omega
  show readChar ('\\' :: 'u' :: (Numeral.hexText 4 high) ++
    ('\\' :: 'u' :: Numeral.hexText 4 low) ++ rest) = _
  simp only [List.cons_append, List.append_assoc, readChar_escaped, readEscape, if_pos,
    readUnicode, highValue, afterHigh, afterLow, lowValue, surrogate, assembled, and_self]

/-- Every written character is read back. -/
theorem readChar_escapeChar (style : Style) (c : Char) (rest : Str) :
    readChar (escapeChar style c ++ rest) = some (c, rest) := by
  have whole : Char.ofNat c.toNat = c := Char.ofNat_toNat c
  have valid : c.toNat < 0xD800 ∨ 0xDFFF < c.toNat ∧ c.toNat < 0x110000 := c.valid
  unfold escapeChar
  dsimp only
  split_ifs with quoted backslash newline carriage tab formFeed backspace control ascii basic
  · rw [quoted]
    rfl
  · rw [backslash]
    rfl
  · rw [newline]
    rfl
  · rw [carriage]
    rfl
  · rw [tab]
    rfl
  · rw [← whole, formFeed]
    rfl
  · rw [← whole, backspace]
    rfl
  · rw [readChar_unicodeEscape rest (by omega) (by omega), whole]
  · rw [readChar_unicodeEscape rest basic (by omega), whole]
  · rw [readChar_pair rest (by omega) (by omega), whole]
  · simp [readChar, quoted, backslash]

/-- Written characters can be told apart, whatever follows. -/
theorem readable_escapeChar (style : Style) : Readable (escapeChar style) :=
  Readable.of_reader readChar (readChar_escapeChar style)

/-- No written character begins with a quotation mark. -/
private theorem escapeChar_starts (style : Style) (c : Char) :
    ∃ first word, escapeChar style c = first :: word ∧ first ≠ '"' := by
  have readBack := readChar_escapeChar style c []
  rw [List.append_nil] at readBack
  cases written : escapeChar style c with
  | nil => simp [written, readChar] at readBack
  | cons first word =>
      refine ⟨first, word, rfl, ?_⟩
      intro quotation
      simp [written, readChar, quotation] at readBack

/-- String literals can be told apart, whatever follows. -/
theorem readable_quote (style : Style) : Readable (quote style) := by
  intro s s' rest rest' same
  exact (readable_escapeChar style).flatMap_closed (escapeChar_starts style)
    (List.cons.inj same).2

end Json
end ChatPlatform
