import ChatPlatform.Foundation.Scanning

/-!
# What a payload is scanned for

Credentials, local paths, addresses and numbers are found by patterns, and some of them are
confirmed by a checksum. The character tables of the language are a parameter.
-/

namespace ChatPlatform
namespace PayloadScan

open Pattern

/-- White space and quotation marks that stand between words: a space, a line feed or a
double quote. -/
def isGap (c : Char) : Bool := c = ' ' || c = '\n' || c = '"'

/-- A letter or a digit of ASCII. -/
def isAlphanumeric (c : Char) : Bool := c.isAlphanum

/-- The character tables. -/
structure Unicode where
  /-- The compatibility composition of a text. -/
  nfkc : Str → Str
  /-- Whether a character belongs to a word. -/
  isWord : Char → Bool
  /-- The value of a decimal digit. -/
  digit : Char → Option Nat
  /-- The empty text is composed. -/
  nfkc_nil : nfkc [] = []
  /-- Nothing is composed or reordered across a gap. -/
  nfkc_gap : ∀ (front : Str) {gap : Char} (back : Str), isGap gap = true →
    nfkc (front ++ gap :: back) = nfkc front ++ gap :: nfkc back
  /-- The word characters of ASCII. -/
  word_ascii : ∀ {c : Char}, c.toNat < 128 → isWord c = (c.isAlphanum || c = '_')
  /-- The digits of ASCII. -/
  digit_ascii : ∀ {c : Char}, c.toNat < 128 →
    digit c = if c.isDigit then some (c.toNat - 48) else none

/-! ## Credentials and paths -/

/-- A letter in either case, and the letters of other alphabets that count as that letter when
case is ignored. -/
def foldsTo (letter : Char) (c : Char) : Bool :=
  c.toLower = letter || (letter = 's' && c.toNat = 0x17F) || (letter = 'k' && c.toNat = 0x212A) ||
    (letter = 'i' && (c.toNat = 0x130 || c.toNat = 0x131))

/-- A word of small letters in any case. -/
def caseless : Str → Pattern
  | [] => nothing
  | letter :: rest => seq (one (foldsTo letter)) (caseless rest)

/-- A dash or none: `[_-]?` -/
def optionalDash : Pattern := optional (one fun c => c = '_' || c = '-')

section Patterns

variable (unicode : Unicode)

/-- A key of one provider: `\bsk-[A-Za-z0-9]{20,}\b` -/
def openaiKeyRe : Pattern :=
  seq (wordBoundary unicode.isWord) (seq (literal "sk-".toList)
    (seq (atLeast 20 (one isAlphanumeric)) (wordBoundary unicode.isWord)))

/-- A key of another provider: `\bAKIA[0-9A-Z]{16}\b` -/
def awsKeyRe : Pattern :=
  seq (wordBoundary unicode.isWord) (seq (literal "AKIA".toList)
    (seq (times (one fun c => c.isDigit || c.isUpper) 16) (wordBoundary unicode.isWord)))

/-- A path into a home: `(?<![\w.-])/(?:home|Users)/[^\s'\"<>\\]+`, where the grave accent is
among what is refused. -/
def localPathRe : Pattern :=
  seq (notBehind fun c => unicode.isWord c || c = '.' || c = '-') (seq (one (· = '/'))
    (seq (alt (literal "home".toList) (literal "Users".toList)) (seq (one (· = '/'))
      (atLeast 1 (one fun c =>
        !(Text.isSpace c || c = '\x27' || c = '"' || c = '\x60' || c = '<' || c = '>' ||
          c = '\\'))))))

/-- The names that a secret is assigned to:
`api[_-]?key|secret|token|password|passwd|private[_-]?key` in any case. -/
def secretName : Pattern :=
  alt (seq (caseless "api".toList) (seq optionalDash (caseless "key".toList)))
    (alt (caseless "secret".toList) (alt (caseless "token".toList)
      (alt (caseless "password".toList) (alt (caseless "passwd".toList)
        (seq (caseless "private".toList) (seq optionalDash (caseless "key".toList)))))))

/-- A name and what assigns to it: `\b(?:…)\b\s*[:=]\s*` -/
def secretHead : Pattern :=
  seq (wordBoundary unicode.isWord) (seq secretName (seq (wordBoundary unicode.isWord)
    (seq (many none (one Text.isSpace)) (seq (one fun c => c = ':' || c = '=')
      (many none (one Text.isSpace))))))

/-- A quotation mark or none: `['\"]?` -/
def openingQuote : Pattern := optional (one fun c => c = '\x27' || c = '"')

/-- A character of a secret, `[A-Za-z0-9._/\-+=]` in any case. -/
def isSecretChar (c : Char) : Bool :=
  isAlphanumeric c || c = '.' || c = '_' || c = '/' || c = '-' || c = '+' || c = '=' ||
    c.toNat = 0x17F || c.toNat = 0x212A || c.toNat = 0x130 || c.toNat = 0x131

/-- A secret: `[A-Za-z0-9._/\-+=]{8,}` -/
def secretValue : Pattern := atLeast 8 (one isSecretChar)

/-- The quotation mark that was opened, if any, once more or not at all. -/
def closingQuote (opened : Option Char) : Pattern :=
  match opened with
  | none => nothing
  | some quote => optional (one (· = quote))

/-- An assigned secret: the length of the match, and where in it the value begins and ends. -/
def secretAssignment (place : Place) : Option (Nat × (Nat × Nat)) :=
  (((secretHead unicode).ends place).flatMap fun head =>
    (openingQuote.ends head).flatMap fun start =>
      (secretValue.ends start).flatMap fun stop =>
        ((closingQuote (if start.2.length < head.2.length then head.2.head? else none)).ends
          stop).map fun last =>
            (place.2.length - last.2.length,
              (place.2.length - start.2.length, place.2.length - stop.2.length))).head?

/-! ## Addresses and numbers -/

/-- An address: `[A-Za-z0-9._%+-]+@[A-Za-z0-9-]+(?:\.[A-Za-z0-9-]+)*\.[A-Za-z]{2,}` -/
def emailRe : Pattern :=
  seq (atLeast 1 (one fun c => isAlphanumeric c || c = '.' || c = '_' || c = '%' || c = '+' ||
    c = '-')) (seq (one (· = '@')) (seq (atLeast 1 (one fun c => isAlphanumeric c || c = '-'))
      (seq (many none (seq (one (· = '.')) (atLeast 1 (one fun c => isAlphanumeric c || c = '-'))))
        (seq (one (· = '.')) (atLeast 2 (one Char.isAlpha))))))

/-- Whether a character is a decimal digit. -/
def Unicode.isDigit (c : Char) : Bool := (unicode.digit c).isSome

/-- A telephone number: `(?<![\w-])\+?\d(?:[ .()-]?\d){8,14}(?![\w-])` -/
def phoneRe : Pattern :=
  seq (notBehind fun c => unicode.isWord c || c = '-') (seq (optional (one (· = '+')))
    (seq (one unicode.isDigit) (seq (between 8 14 (seq
      (optional (one fun c => c = ' ' || c = '.' || c = '(' || c = ')' || c = '-'))
      (one unicode.isDigit))) (notAhead fun c => unicode.isWord c || c = '-'))))

/-- What may be a card number: `(?<!\d)\d(?:[ -]?\d){12,18}(?!\d)` -/
def cardCandidateRe : Pattern :=
  seq (notBehind unicode.isDigit) (seq (one unicode.isDigit) (seq (between 12 18 (seq
    (optional (one fun c => c = ' ' || c = '-')) (one unicode.isDigit)))
    (notAhead unicode.isDigit)))

/-- What may be an account number: `\b[A-Z]{2}\d{2}(?: ?[A-Z0-9]){11,30}\b` -/
def ibanCandidateRe : Pattern :=
  seq (wordBoundary unicode.isWord) (seq (times (one Char.isUpper) 2)
    (seq (times (one unicode.isDigit) 2) (seq (between 11 30 (seq (optional (one (· = ' ')))
      (one fun c => c.isUpper || c.isDigit))) (wordBoundary unicode.isWord))))

/-! ## Tokens -/

/-- A hexadecimal digit: `[0-9a-f]` -/
def isHexDigit (c : Char) : Bool := c.isDigit || ('a' ≤ c && c ≤ 'f')

/-- An identifier: `[0-9a-f]{8}-[0-9a-f]{4}-[0-9a-f]{4}-[0-9a-f]{4}-[0-9a-f]{12}` -/
def uuidRe : Pattern :=
  seq (times (one isHexDigit) 8) (seq (one (· = '-')) (seq (times (one isHexDigit) 4)
    (seq (one (· = '-')) (seq (times (one isHexDigit) 4) (seq (one (· = '-'))
      (seq (times (one isHexDigit) 4) (seq (one (· = '-')) (times (one isHexDigit) 12))))))))

/-- A synthetic token: `SYNTHETIC-PROHIBITED-[A-Z]{3,12}-[0-9a-f]{8}` -/
def syntheticProhibitedRe : Pattern :=
  seq (literal "SYNTHETIC-PROHIBITED-".toList) (seq (between 3 12 (one Char.isUpper))
    (seq (one (· = '-')) (times (one isHexDigit) 8)))

/-- What may be an encoding: `[A-Za-z0-9+/_-]{16,}={0,2}` -/
def base64CandidateRe : Pattern :=
  seq (atLeast 16 (one fun c => isAlphanumeric c || c = '+' || c = '/' || c = '_' || c = '-'))
    (between 0 2 (one (· = '=')))

/-- A digest: `[0-9a-f]+` -/
def hexTokenRe : Pattern := atLeast 1 (one isHexDigit)

/-- Whether a character is a hexadecimal digit in either case. -/
def isHexDigitAnyCase (c : Char) : Bool :=
  c.isDigit || ('a' ≤ c && c ≤ 'f') || ('A' ≤ c && c ≤ 'F')

/-- A percent escape: `%[0-9A-Fa-f]{2}` -/
def percentRe : Pattern := seq (one (· = '%')) (times (one isHexDigitAnyCase) 2)

/-! ## Checksums -/

/-- The sum of a card number, where `double` tells whether the next digit from the end counts
twice. -/
def luhnSum (double : Bool) : List Nat → Nat
  | [] => 0
  | digit :: rest =>
      (if double then (if digit * 2 > 9 then digit * 2 - 9 else digit * 2) else digit) +
        luhnSum (!double) rest

/-- Whether the sum of a card number is right. -/
def luhnValid (digits : List Nat) : Bool := luhnSum false digits.reverse % 10 = 0

/-- The value of a character as a digit of base 36. -/
def Unicode.base36 (c : Char) : Nat :=
  if c.isUpper then c.toNat - 55 else (unicode.digit c).getD 0

/-- The number that the decimal numerals of some values make up, read after `start`. -/
def appendNumerals (start : Nat) : List Nat → Nat
  | [] => start
  | value :: rest =>
      appendNumerals (if value < 10 then start * 10 + value else start * 100 + value) rest

/-- Whether the check digits of an account number are right. -/
def ibanValid (candidate : Str) : Bool :=
  let compact := candidate.filter (· ≠ ' ')
  let rearranged := compact.drop 4 ++ compact.take 4
  15 ≤ compact.length && compact.length ≤ 34 &&
    appendNumerals 0 (rearranged.map unicode.base36) % 97 = 1

end Patterns

end PayloadScan
end ChatPlatform
