import ChatPlatform.Foundation.Text
import Mathlib.Tactic.Ring

/-!
# Integer literals

Printing an integer in base ten, printing a natural number with a fixed number
of hexadecimal digits, and reading an integer from text the way the built-in
`int(text, base)` does: surrounding white space, one sign, the `0x` prefix for
base sixteen, single underscores between digits, and the decimal digits of every
script.
-/

namespace ChatPlatform
namespace Numeral

/-- Code points of the zero digits of the decimal digit blocks. -/
def decimalZeros : List Nat :=
  [0x660, 0x6F0, 0x7C0, 0x966, 0x9E6, 0xA66, 0xAE6, 0xB66, 0xBE6, 0xC66,
    0xCE6, 0xD66, 0xDE6, 0xE50, 0xED0, 0xF20, 0x1040, 0x1090, 0x17E0, 0x1810,
    0x1946, 0x19D0, 0x1A80, 0x1A90, 0x1B50, 0x1BB0, 0x1C40, 0x1C50, 0xA620,
    0xA8D0, 0xA900, 0xA9D0, 0xA9F0, 0xAA50, 0xABF0, 0xFF10, 0x104A0, 0x10D30,
    0x11066, 0x110F0, 0x11136, 0x111D0, 0x112F0, 0x11450, 0x114D0, 0x11650,
    0x116C0, 0x11730, 0x118E0, 0x11950, 0x11C50, 0x11D50, 0x11DA0, 0x11F50,
    0x16A60, 0x16AC0, 0x16B50, 0x1D7CE, 0x1D7D8, 0x1D7E2, 0x1D7EC, 0x1D7F6,
    0x1E140, 0x1E2F0, 0x1E4F0, 0x1E950, 0x1FBF0]

/-- Value of one digit, letters counting from ten. -/
def digitValue (c : Char) : Option Nat :=
  let n := c.toNat
  if 0x30 ≤ n ∧ n ≤ 0x39 then some (n - 0x30)
  else if 0x61 ≤ n ∧ n ≤ 0x7A then some (n - 0x61 + 10)
  else if 0x41 ≤ n ∧ n ≤ 0x5A then some (n - 0x41 + 10)
  else (decimalZeros.find? fun start => start ≤ n ∧ n ≤ start + 9).map (n - ·)

/-- Value of a run of digits with single underscores between them. `value` is
the value read so far and `closed` tells whether a digit was read last. -/
def digitsValue (base : Nat) (value : Nat) (closed : Bool) : Str → Option Nat
  | [] => if closed then some value else none
  | c :: rest =>
      if c = '_' then
        if closed then digitsValue base value false rest else none
      else
        match digitValue c with
        | none => none
        | some digit =>
            if digit < base then digitsValue base (value * base + digit) true rest
            else none

/-- An unsigned literal, with the optional prefix of base sixteen. -/
def unsignedLiteral (base : Nat) : Str → Option Nat
  | '0' :: 'x' :: '_' :: rest | '0' :: 'X' :: '_' :: rest =>
      if base = 16 then digitsValue base 0 false rest else none
  | '0' :: 'x' :: rest | '0' :: 'X' :: rest =>
      if base = 16 then digitsValue base 0 false rest else none
  | digits => digitsValue base 0 false digits

/-- Read an integer literal. -/
def intLiteral (base : Nat) (s : Str) : Option Int :=
  match Text.strip s with
  | '-' :: rest => (unsignedLiteral base rest).map fun n => -Int.ofNat n
  | '+' :: rest => (unsignedLiteral base rest).map Int.ofNat
  | digits => (unsignedLiteral base digits).map Int.ofNat

/-- Print an integer in base ten. -/
def decimal : Int → Str
  | .ofNat n => Nat.toDigits 10 n
  | .negSucc n => '-' :: Nat.toDigits 10 (n + 1)

/-- There is a first digest of 256 bits. -/
instance neZero_digests : NeZero (2 ^ 256) := ⟨by decide⟩

/-- The lower-case hexadecimal digits. -/
def hexAlphabet : Str := "0123456789abcdef".toList

/-- One lower-case hexadecimal digit. -/
def hexDigit (n : Nat) : Char := hexAlphabet.getD (n % 16) '0'

/-- Print the last `width` hexadecimal digits of a number. -/
def hexText : Nat → Nat → Str
  | 0, _ => []
  | width + 1, n => hexText width (n / 16) ++ [hexDigit n]

@[simp] theorem hexText_length (width n : Nat) :
    (hexText width n).length = width := by
  induction width generalizing n with
  | zero => rfl
  | succ width inductionHypothesis =>
      simp [hexText, inductionHypothesis]

theorem hexDigit_mem (n : Nat) : hexDigit n ∈ hexAlphabet := by
  have bound : n % 16 < hexAlphabet.length := Nat.mod_lt n (by decide)
  rw [hexDigit, List.getD_eq_getElem?_getD, List.getElem?_eq_getElem bound]
  exact List.getElem_mem bound

/-- Every printed character is a hexadecimal digit. -/
theorem mem_hexAlphabet_of_mem_hexText
    {width n : Nat}
    {c : Char}
    (present : c ∈ hexText width n) : c ∈ hexAlphabet := by
  induction width generalizing n with
  | zero => simp [hexText] at present
  | succ width inductionHypothesis =>
      rcases List.mem_append.mp present with early | last
      · exact inductionHypothesis early
      · rw [List.mem_singleton.mp last]
        exact hexDigit_mem n

/-- A hexadecimal digit is not an underscore and has a value below sixteen. -/
theorem digitValue_of_mem_hexAlphabet :
    ∀ c ∈ hexAlphabet, c ≠ '_' ∧ ∃ digit < 16, digitValue c = some digit := by
  have table : hexAlphabet.all (fun c => c ≠ '_' && (digitValue c).any (· < 16)) := by
    decide
  intro c present
  have entry := List.all_eq_true.mp table c present
  rw [Bool.and_eq_true, decide_eq_true_eq, Option.any_eq_true] at entry
  obtain ⟨apart, digit, same, small⟩ := entry
  exact ⟨apart, digit, of_decide_eq_true small, same⟩

/-- The printed digit has the value it was printed for. -/
theorem digitValue_hexDigit (n : Nat) :
    digitValue (hexDigit n) = some (n % 16) := by
  have table : ∀ k < 16, digitValue (hexDigit k) = some k := by decide
  have reduced : hexDigit n = hexDigit (n % 16) := by simp [hexDigit]
  rw [reduced, table _ (Nat.mod_lt n (by decide))]

/-- One step of reading hexadecimal digits from the left. -/
def appendDigit (value : Nat) (c : Char) : Nat :=
  value * 16 + (digitValue c).getD 0

/-- The value of a run of digits is computed from the left. -/
theorem digitsValue_of_digits
    {base : Nat}
    {digits : Str}
    (valued : ∀ c ∈ digits, c ≠ '_' ∧ ∃ digit < base, digitValue c = some digit)
    (value : Nat)
    {closed : Bool}
    (started : closed = true ∨ digits ≠ []) :
    digitsValue base value closed digits =
      some (digits.foldl (fun sofar c => sofar * base + (digitValue c).getD 0) value) := by
  induction digits generalizing value closed with
  | nil =>
      rcases started with rfl | nonempty
      · rfl
      · exact absurd rfl nonempty
  | cons c rest inductionHypothesis =>
      obtain ⟨notUnderscore, digit, small, valuedHere⟩ := valued c List.mem_cons_self
      unfold digitsValue
      rw [if_neg notUnderscore, valuedHere]
      simp only [small, if_true]
      rw [inductionHypothesis
        (fun d present => valued d (List.mem_cons_of_mem _ present)) _
        (Or.inl rfl)]
      simp [valuedHere]

/-- The value of a run of hexadecimal digits is computed from the left. -/
theorem digitsValue_of_hex
    {digits : Str}
    (hex : ∀ c ∈ digits, c ∈ hexAlphabet)
    (value : Nat)
    {closed : Bool}
    (started : closed = true ∨ digits ≠ []) :
    digitsValue 16 value closed digits =
      some (digits.foldl appendDigit value) :=
  digitsValue_of_digits (fun c present => digitValue_of_mem_hexAlphabet c (hex c present))
    value started

/-- Reading the printed digits of a number continues the value read so far. -/
theorem foldl_hexText (width n value : Nat) :
    (hexText width n).foldl appendDigit value =
      value * 16 ^ width + n % 16 ^ width := by
  induction width generalizing n with
  | zero => simp [hexText, Nat.mod_one]
  | succ width inductionHypothesis =>
      have lowDigit : n % 16 ^ (width + 1) =
          n / 16 % 16 ^ width * 16 + n % 16 := by
        rw [pow_succ, Nat.mul_comm (16 ^ width) 16, Nat.mod_mul]
        ring
      rw [hexText, List.foldl_append, inductionHypothesis]
      simp only [List.foldl_cons, List.foldl_nil, appendDigit,
        digitValue_hexDigit, Option.getD_some]
      rw [lowDigit, pow_succ]
      ring

/-- Numbers that fit are determined by their digits. -/
theorem hexText_injective
    {width bound n m : Nat}
    (nFits : n < bound)
    (mFits : m < bound)
    (wide : bound ≤ 16 ^ width)
    (same : hexText width n = hexText width m) : n = m := by
  have values := congrArg (List.foldl appendDigit 0) same
  rw [foldl_hexText, foldl_hexText, Nat.zero_mul, Nat.zero_add, Nat.zero_add,
    Nat.mod_eq_of_lt (nFits.trans_le wide), Nat.mod_eq_of_lt (mFits.trans_le wide)] at values
  exact values

/-- Without an `x` there is no prefix. -/
private theorem unsignedLiteral_of_noX
    {base : Nat}
    {digits : Str}
    (noX : 'x' ∉ digits ∧ 'X' ∉ digits) :
    unsignedLiteral base digits = digitsValue base 0 false digits := by
  unfold unsignedLiteral
  split <;> simp_all

/-- Without a sign, an `x` and white space a literal is a run of digits. -/
private theorem intLiteral_of_plain
    (base : Nat)
    {digits : Str}
    (visible : ∀ c ∈ digits, Text.isSpace c = false)
    (noSign : '-' ∉ digits ∧ '+' ∉ digits)
    (noX : 'x' ∉ digits ∧ 'X' ∉ digits) :
    intLiteral base digits = (digitsValue base 0 false digits).map Int.ofNat := by
  have trimmed : Text.strip digits = digits :=
    (Text.strip_eq_self_iff digits).mpr
      ⟨fun c first => visible c (List.mem_of_head? first),
        fun c last => visible c (List.mem_of_getLast? last)⟩
  unfold intLiteral
  rw [trimmed]
  split
  · simp at noSign
  · simp at noSign
  · rw [unsignedLiteral_of_noX noX]

/-- A non-empty run of hexadecimal digits is a literal of base sixteen. -/
theorem intLiteral_of_hex
    {digits : Str}
    (hex : ∀ c ∈ digits, c ∈ hexAlphabet)
    (nonempty : digits ≠ []) :
    intLiteral 16 digits = some (Int.ofNat (digits.foldl appendDigit 0)) := by
  have absent : ∀ c, c ∉ hexAlphabet → c ∉ digits := fun c foreign present =>
    foreign (hex c present)
  have table : hexAlphabet.all (fun c => !Text.isSpace c) := by decide
  have visible : ∀ c ∈ digits, Text.isSpace c = false := by
    intro c present
    simpa using List.all_eq_true.mp table c (hex c present)
  rw [intLiteral_of_plain 16 visible ⟨absent _ (by decide), absent _ (by decide)⟩
    ⟨absent _ (by decide), absent _ (by decide)⟩,
    digitsValue_of_hex hex 0 (Or.inr nonempty)]
  rfl

/-- The code points of the ten digits. -/
theorem isDigit_bounds
    {c : Char}
    (isDigit : c.isDigit = true) : 48 ≤ c.toNat ∧ c.toNat ≤ 57 := by
  unfold Char.isDigit at isDigit
  simpa [UInt32.le_iff_toNat_le] using isDigit

/-- One of the ten digits has a value below ten. -/
theorem digitValue_of_isDigit
    {c : Char}
    (isDigit : c.isDigit = true) :
    digitValue c = some (c.toNat - '0'.toNat) ∧ c.toNat - '0'.toNat < 10 := by
  obtain ⟨lower, upper⟩ := isDigit_bounds isDigit
  have zero : '0'.toNat = 48 := rfl
  rw [zero]
  refine ⟨?_, by omega⟩
  unfold digitValue
  exact if_pos ⟨lower, upper⟩

/-- A printed natural number is read back. -/
theorem intLiteral_decimal (n : Nat) : intLiteral 10 (decimal n) = some (n : Int) := by
  have isDigit : ∀ c ∈ Nat.toDigits 10 n, c.isDigit = true :=
    fun _ held => Nat.isDigit_of_mem_toDigits (by decide) (by decide) held
  have absent : ∀ c : Char, c.isDigit = false → c ∉ Nat.toDigits 10 n := by
    intro c noDigit held
    rw [isDigit c held] at noDigit
    cases noDigit
  have visible : ∀ c ∈ Nat.toDigits 10 n, Text.isSpace c = false := by
    intro c held
    obtain ⟨lower, upper⟩ := isDigit_bounds (isDigit c held)
    have table : ∀ k ≤ 57, 48 ≤ k → Text.isSpace (Char.ofNat k) = false := by decide
    have entry := table c.toNat upper lower
    rwa [Char.ofNat_toNat] at entry
  have valued : ∀ c ∈ Nat.toDigits 10 n,
      c ≠ '_' ∧ ∃ digit < 10, digitValue c = some digit := by
    intro c held
    obtain ⟨value, small⟩ := digitValue_of_isDigit (isDigit c held)
    refine ⟨?_, _, small, value⟩
    rintro rfl
    exact absurd (isDigit _ held) (by decide)
  have folded : (Nat.toDigits 10 n).foldl
      (fun sofar c => sofar * 10 + (digitValue c).getD 0) 0 = n := by
    refine Eq.trans ?_ (Nat.ofDigitChars_ten_toDigits (n := n))
    rw [Nat.ofDigitChars_eq_foldl]
    refine List.foldl_ext _ _ _ fun sofar c held => ?_
    rw [(digitValue_of_isDigit (isDigit c held)).1, Option.getD_some, Nat.mul_comm]
  have plain := intLiteral_of_plain 10 visible
    ⟨absent _ (by decide), absent _ (by decide)⟩ ⟨absent _ (by decide), absent _ (by decide)⟩
  rw [digitsValue_of_digits valued 0 (Or.inr Nat.toDigits_ne_nil), folded] at plain
  exact plain

/-- A printed natural number has only digits. -/
theorem notMem_decimal
    (n : Nat)
    (c : Char)
    (noDigit : c.isDigit = false) : c ∉ decimal n := by
  intro held
  have isDigit := Nat.isDigit_of_mem_toDigits (b := 10) (by decide) (by decide) held
  rw [noDigit] at isDigit
  cases isDigit

/-- Different natural numbers are printed differently. -/
theorem decimal_inj {n m : Nat} (same : decimal n = decimal m) : n = m := by
  have read := intLiteral_decimal n
  rw [same, intLiteral_decimal, Option.some.injEq] at read
  omega

end Numeral
end ChatPlatform
