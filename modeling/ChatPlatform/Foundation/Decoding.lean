import ChatPlatform.Foundation.Text

/-!
# Decoding

Percent escapes and base 64 stand for bytes, and bytes are read as UTF-8. A character of
ASCII that is neither a percent sign nor a hexadecimal digit splits a text into parts that
are decoded apart.
-/

namespace ChatPlatform
namespace Decoding

/-- A byte. -/
abbrev Byte := Nat

/-! ## UTF-8 -/

/-- The bytes of a character. -/
def encodeChar (c : Char) : List Byte :=
  let n := c.toNat
  if n < 0x80 then [n]
  else if n < 0x800 then [0xC0 + n / 64, 0x80 + n % 64]
  else if n < 0x10000 then [0xE0 + n / 4096, 0x80 + n / 64 % 64, 0x80 + n % 64]
  else [0xF0 + n / 262144, 0x80 + n / 4096 % 64, 0x80 + n / 64 % 64, 0x80 + n % 64]

/-- Whether a byte continues a character. -/
def continues (byte : Byte) : Bool := 0x80 ≤ byte && byte ≤ 0xBF

/-- The character of two bytes. -/
def charOfTwo (first : Byte) : List Byte → Option (Char × Nat)
  | second :: _ =>
      if continues second then some (Char.ofNat (first % 32 * 64 + second % 64), 1) else none
  | _ => none

/-- The character of three bytes, which is neither shorter nor a surrogate. -/
def charOfThree (first : Byte) : List Byte → Option (Char × Nat)
  | second :: third :: _ =>
      if continues second && continues third && (first != 0xE0 || 0xA0 ≤ second) &&
          (first != 0xED || second ≤ 0x9F) then
        some (Char.ofNat (first % 16 * 4096 + second % 64 * 64 + third % 64), 2)
      else none
  | _ => none

/-- The character of four bytes, which is neither shorter nor out of range. -/
def charOfFour (first : Byte) : List Byte → Option (Char × Nat)
  | second :: third :: fourth :: _ =>
      if continues second && continues third && continues fourth &&
          (first != 0xF0 || 0x90 ≤ second) && (first != 0xF4 || second ≤ 0x8F) then
        some (Char.ofNat (first % 8 * 262144 + second % 64 * 4096 + third % 64 * 64 +
          fourth % 64), 3)
      else none
  | _ => none

/-- The character that some bytes begin with, and how many bytes it has after the first. -/
def charOf (first : Byte) (rest : List Byte) : Option (Char × Nat) :=
  if first < 0x80 then some (Char.ofNat first, 0)
  else if 0xC2 ≤ first ∧ first ≤ 0xDF then charOfTwo first rest
  else if 0xE0 ≤ first ∧ first ≤ 0xEF then charOfThree first rest
  else if 0xF0 ≤ first ∧ first ≤ 0xF4 then charOfFour first rest
  else none

/-- The text of some bytes, if they are well formed; `skip` bytes still belong to the last
character. -/
def decodeFrom : (skip : Nat) → List Byte → Option Str
  | _, [] => some []
  | skip + 1, _ :: rest => decodeFrom skip rest
  | 0, first :: rest =>
      match charOf first rest with
      | some (c, more) => (decodeFrom more rest).map (c :: ·)
      | none => none

/-- The text of some bytes, if they are well formed. -/
def decodeUtf8 (bytes : List Byte) : Option Str := decodeFrom 0 bytes

/-! ## Percent escapes -/

/-- The value of a hexadecimal digit in either case. -/
def hexValue (c : Char) : Option Nat :=
  if c.isDigit then some (c.toNat - 48)
  else if 'a' ≤ c ∧ c ≤ 'f' then some (c.toNat - 87)
  else if 'A' ≤ c ∧ c ≤ 'F' then some (c.toNat - 55)
  else none

/-- The byte that two hexadecimal digits at the beginning of a text stand for. -/
def escapedByte : Str → Option Byte
  | high :: low :: _ =>
      match hexValue high, hexValue low with
      | some first, some second => some (first * 16 + second)
      | _, _ => none
  | _ => none

/-- The bytes of a text whose percent escapes are undone; `skip` characters still belong to
the last escape. -/
def unquoteFrom : (skip : Nat) → Str → List Byte
  | _, [] => []
  | skip + 1, _ :: rest => unquoteFrom skip rest
  | 0, c :: rest =>
      match if c = '%' then escapedByte rest else none with
      | some byte => byte :: unquoteFrom 2 rest
      | none => encodeChar c ++ unquoteFrom 0 rest

/-- The bytes of a text whose percent escapes are undone. -/
def unquoteToBytes (text : Str) : List Byte := unquoteFrom 0 text

/-! ## Base 64 -/

/-- The value of a character of base 64 in either alphabet. -/
def sextet (c : Char) : Nat :=
  if c.isUpper then c.toNat - 65
  else if c.isLower then c.toNat - 71
  else if c.isDigit then c.toNat + 4
  else if c = '+' || c = '-' then 62
  else 63

/-- The bytes of groups of four values, where a last group may be short. -/
def joinSextets : List Nat → Option (List Byte)
  | [] => some []
  | [_] => none
  | [a, b] => some [a * 4 + b / 16]
  | [a, b, c] => some [a * 4 + b / 16, b % 16 * 16 + c / 4]
  | a :: b :: c :: d :: rest =>
      ([a * 4 + b / 16, b % 16 * 16 + c / 4, c % 4 * 64 + d] ++ ·) <$> joinSextets rest

/-- The bytes of a token, if it is long enough and an encoding. -/
def decodeBase64 (token : Str) : Option (List Byte) :=
  let stripped := token.rdropWhile (· = '=')
  if stripped.length < 16 then none else joinSextets (stripped.map sextet)

/-! ## Decoding in parts -/

/-- A byte of ASCII continues no character. -/
private theorem continues_of_lt {byte : Byte} (isAscii : byte < 0x80) : continues byte = false := by
  rw [continues, Bool.and_eq_false_iff]
  exact Or.inl (decide_eq_false (Nat.not_le_of_lt isAscii))

/-- The character at the beginning does not depend on what follows a character of ASCII. -/
private theorem charOf_append
    {byte : Byte}
    (isAscii : byte < 0x80)
    (first : Byte)
    (front back : List Byte) :
    charOf first (front ++ byte :: back) = charOf first front := by
  have stops := continues_of_lt isAscii
  have two : charOfTwo first (front ++ byte :: back) = charOfTwo first front := by
    match front with
    | [] => simp [charOfTwo, stops]
    | second :: front => rfl
  have three : charOfThree first (front ++ byte :: back) = charOfThree first front := by
    match front with
    | [] => cases back <;> simp [charOfThree, stops]
    | [second] => simp [charOfThree, stops]
    | second :: third :: front => rfl
  have four : charOfFour first (front ++ byte :: back) = charOfFour first front := by
    match front, back with
    | [], [] => rfl
    | [], [third] => rfl
    | [], third :: fourth :: back => simp [charOfFour, stops]
    | [second], [] => rfl
    | [second], fourth :: back => simp [charOfFour, stops]
    | [second, third], back => simp [charOfFour, stops]
    | second :: third :: fourth :: front, back => rfl
  rw [charOf, charOf, two, three, four]

/-- A character has no more bytes than there are. -/
private theorem length_of_charOf
    {first : Byte}
    {rest : List Byte}
    {c : Char}
    {more : Nat}
    (found : charOf first rest = some (c, more)) : more ≤ rest.length := by
  rw [charOf] at found
  split_ifs at found with one two three four
  · cases found
    exact Nat.zero_le _
  · match rest with
    | [] => cases found
    | second :: rest =>
        rw [charOfTwo] at found
        split_ifs at found
        cases found
        exact Nat.le_add_left 1 _
  · match rest with
    | [] => cases found
    | [second] => cases found
    | second :: third :: rest =>
        rw [charOfThree] at found
        split_ifs at found
        cases found
        exact Nat.le_add_left 2 _
  · match rest with
    | [] => cases found
    | [second] => cases found
    | [second, third] => cases found
    | second :: third :: fourth :: rest =>
        rw [charOfFour] at found
        split_ifs at found
        cases found
        exact Nat.le_add_left 3 _

/-- Bytes around a character of ASCII are decoded apart. -/
theorem decodeFrom_append
    {byte : Byte}
    (isAscii : byte < 0x80)
    (front back : List Byte)
    {skip : Nat}
    (fits : skip ≤ front.length) :
    decodeFrom skip (front ++ byte :: back) =
      (decodeFrom skip front).bind fun first =>
        (decodeFrom 0 back).map fun second => first ++ Char.ofNat byte :: second := by
  induction front generalizing skip with
  | nil =>
      obtain rfl := Nat.le_zero.mp fits
      have single : charOf byte back = some (Char.ofNat byte, 0) := if_pos isAscii
      show decodeFrom 0 (byte :: back) = _
      rw [decodeFrom, decodeFrom, single]
      rfl
  | cons first front inductionHypothesis =>
      cases skip with
      | succ skip => exact inductionHypothesis (Nat.le_of_succ_le_succ fits)
      | zero =>
          rw [List.cons_append, decodeFrom, decodeFrom, charOf_append isAscii]
          cases found : charOf first front with
          | none => rfl
          | some character =>
              obtain ⟨c, more⟩ := character
              dsimp only
              rw [inductionHypothesis (length_of_charOf found)]
              cases decodeFrom more front with
              | none => rfl
              | some text =>
                  cases decodeFrom 0 back with
                  | none => rfl
                  | some later => rfl

/-- Characters around one that is neither a percent sign nor a hexadecimal digit are undone
apart. -/
theorem unquoteFrom_append
    {separator : Char}
    (noPercent : separator ≠ '%')
    (noDigit : hexValue separator = none)
    (front back : Str)
    {skip : Nat}
    (fits : skip ≤ front.length) :
    unquoteFrom skip (front ++ separator :: back) =
      unquoteFrom skip front ++ encodeChar separator ++ unquoteFrom 0 back := by
  induction front generalizing skip with
  | nil =>
      obtain rfl := Nat.le_zero.mp fits
      show unquoteFrom 0 (separator :: back) = encodeChar separator ++ unquoteFrom 0 back
      rw [unquoteFrom, if_neg noPercent]
  | cons c front inductionHypothesis =>
      cases skip with
      | succ skip => exact inductionHypothesis (Nat.le_of_succ_le_succ fits)
      | zero =>
          have same : escapedByte (front ++ separator :: back) = escapedByte front := by
            match front with
            | [] =>
                cases back with
                | nil => rfl
                | cons d back =>
                    rw [List.nil_append, escapedByte, noDigit]
                    rfl
            | [d] =>
                rw [List.singleton_append, escapedByte, noDigit]
                cases hexValue d <;> rfl
            | d :: e :: front => rfl
          rw [List.cons_append, unquoteFrom, unquoteFrom, same]
          split
          · rename_i byte escaped
            have long : 2 ≤ front.length := by
              match front with
              | [] => simp [escapedByte] at escaped
              | [d] => simp [escapedByte] at escaped
              | d :: e :: front => simp
            rw [inductionHypothesis long]
            rfl
          · rw [inductionHypothesis (Nat.zero_le _), List.append_assoc, List.append_assoc,
              List.append_assoc]

end Decoding
end ChatPlatform
