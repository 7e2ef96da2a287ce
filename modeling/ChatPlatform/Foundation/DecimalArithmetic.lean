import Mathlib.Algebra.Order.Field.Rat
import Mathlib.Data.Int.Log
import Mathlib.Data.Rat.Floor
import Mathlib.Data.Nat.Cast.Field
import Mathlib.Data.Nat.Digits.Defs
import Mathlib.NumberTheory.Padics.PadicVal.Basic
import Mathlib.Tactic.FieldSimp
import Mathlib.Tactic.Linarith
import Mathlib.Tactic.Positivity
import Mathlib.Tactic.Ring

/-!
# Decimal arithmetic

A finite decimal is a coefficient with a power of ten. A context rounds a rational to a number of
digits, in one of eight ways, within a range of exponents. A rational whose denominator divides a
power of ten is rounded to itself exactly when its digits are few enough and its exponent is in
the range.
-/

namespace ChatPlatform
namespace Decimals

/-! ## Decimals and contexts -/

/-- A finite decimal. -/
structure FiniteDecimal where
  /-- Its sign. -/
  negative : Bool
  /-- Its digits. -/
  coefficient : Nat
  /-- The power of ten. -/
  exponent : Int
  deriving DecidableEq

/-- The value of a finite decimal. -/
def FiniteDecimal.value (decimal : FiniteDecimal) : ℚ :=
  (if decimal.negative then -1 else 1) * (decimal.coefficient * 10 ^ decimal.exponent)

/-- A decimal. -/
inductive Decimal
  /-- A number. -/
  | finite (decimal : FiniteDecimal)
  /-- An infinity. -/
  | infinite (negative : Bool)
  /-- Not a number. -/
  | nan
  deriving DecidableEq

/-- How a number is rounded. -/
inductive Rounding
  /-- Away from zero. -/
  | up
  /-- Towards zero. -/
  | down
  /-- Towards positive infinity. -/
  | ceiling
  /-- Towards negative infinity. -/
  | floor
  /-- To the nearest, ties away from zero. -/
  | halfUp
  /-- To the nearest, ties towards zero. -/
  | halfDown
  /-- To the nearest, ties to even. -/
  | halfEven
  /-- Away from zero if the last digit would be zero or five. -/
  | zeroFiveUp
  deriving DecidableEq

/-- How an operation rounds, and the range of the exponents. -/
structure Context where
  /-- The number of digits. -/
  prec : Nat
  /-- How a number is rounded. -/
  rounding : Rounding
  /-- The least exponent of a first digit. -/
  emin : Int
  /-- The greatest exponent of a first digit. -/
  emax : Int
  /-- There is a digit. -/
  precPositive : 0 < prec
  /-- The least exponent is not positive. -/
  eminNonpos : emin ≤ 0
  /-- The greatest exponent is not negative. -/
  emaxNonneg : 0 ≤ emax

/-- The number of digits of a printed number. -/
def digitCount (number : Nat) : Nat := (Nat.toDigits 10 number).length

/-- Whether a whole number with a fraction is rounded away from zero. -/
def Rounding.increments
    (rounding : Rounding)
    (negative : Bool)
    (whole : Nat)
    (fraction : ℚ) : Bool :=
  match rounding with
  | .up => decide (fraction ≠ 0)
  | .down => false
  | .ceiling => !negative && decide (fraction ≠ 0)
  | .floor => negative && decide (fraction ≠ 0)
  | .halfUp => decide (1 / 2 ≤ fraction)
  | .halfDown => decide (1 / 2 < fraction)
  | .halfEven => decide (1 / 2 < fraction) || (decide (fraction = 1 / 2) && whole % 2 == 1)
  | .zeroFiveUp => decide (fraction ≠ 0) && (whole % 10 == 0 || whole % 10 == 5)

/-- A number that is not negative is rounded to a whole number. -/
def Rounding.whole
    (rounding : Rounding)
    (negative : Bool)
    (scaled : ℚ) : Nat :=
  if rounding.increments negative ⌊scaled⌋₊ (scaled - ⌊scaled⌋₊) then ⌊scaled⌋₊ + 1
  else ⌊scaled⌋₊

/-- The exponent of the last digit of a positive number that is rounded. -/
def Context.quantum
    (context : Context)
    (magnitude : ℚ) : Int :=
  max (Int.log 10 magnitude - context.prec + 1) (context.emin - context.prec + 1)

/-- A rational is rounded in a context; `none` stands for an overflow. The result is given with
the exponent of its last digit, whatever zeros it ends with. -/
def Context.round
    (context : Context)
    (value : ℚ) : Option FiniteDecimal :=
  if value = 0 then some ⟨false, 0, 0⟩
  else
    let quantum := context.quantum |value|
    let coefficient := context.rounding.whole (value < 0) (|value| / 10 ^ quantum)
    if (10 : ℚ) ^ (context.emax + 1) ≤ coefficient * 10 ^ quantum then none
    else some ⟨value < 0, coefficient, quantum⟩

/-! ## Digits -/

/-- A number has at most so many digits when it is below a power of ten. -/
theorem digitCount_le_iff
    (number count : Nat)
    (countPositive : 0 < count) : digitCount number ≤ count ↔ number < 10 ^ count :=
  Nat.length_toDigits_le_iff (by decide) countPositive

/-- A number is below the power of ten that has more digits. -/
theorem lt_pow_digitCount (number : Nat) : number < 10 ^ digitCount number :=
  (digitCount_le_iff number _ Nat.length_toDigits_pos).mp le_rfl

/-! ## Rounding to itself -/

/-- A whole number is rounded to itself. -/
theorem whole_natCast
    (rounding : Rounding)
    (negative : Bool)
    (number : Nat) : rounding.whole negative number = number := by
  have same : rounding.increments negative number 0 = false := by
    cases rounding <;> cases negative <;> simp [Rounding.increments]
  rw [Rounding.whole, Nat.floor_natCast, sub_self, same, if_neg Bool.false_ne_true]

/-- The value of a decimal with the sign of a value. -/
theorem value_eq_iff
    (value : ℚ)
    (coefficient : Nat)
    (exponent : Int) :
    FiniteDecimal.value ⟨decide (value < 0), coefficient, exponent⟩ = value ↔
      |value| = coefficient * 10 ^ exponent := by
  rw [FiniteDecimal.value]
  rcases lt_or_ge value 0 with negative | positive
  · rw [abs_of_neg negative]
    simp only [decide_eq_true negative, if_true, neg_one_mul]
    exact ⟨fun same => by rw [← same, neg_neg], fun same => by rw [← same, neg_neg]⟩
  · rw [abs_of_nonneg positive]
    simp only [decide_eq_false (not_lt.mpr positive), Bool.false_eq_true, if_false, one_mul]
    exact eq_comm

/-- A number is rounded to itself when it is a multiple of its quantum and does not overflow. -/
theorem round_eq_self_iff
    (context : Context)
    (value : ℚ)
    (nonzero : value ≠ 0) :
    (∃ decimal, context.round value = some decimal ∧ decimal.value = value) ↔
      (∃ coefficient : Nat, |value| = coefficient * 10 ^ context.quantum |value|) ∧
        |value| < 10 ^ (context.emax + 1) := by
  have positive : (0 : ℚ) < 10 ^ context.quantum |value| := zpow_pos (by norm_num) _
  rw [Context.round, if_neg nonzero]
  simp only
  constructor
  · rintro ⟨decimal, rounded, same⟩
    split at rounded
    case isTrue => cases rounded
    case isFalse within =>
      obtain rfl := Option.some.inj rounded
      have multiple := (value_eq_iff _ _ _).mp same
      rw [← multiple, not_le] at within
      exact ⟨⟨_, multiple⟩, within⟩
  · rintro ⟨⟨coefficient, multiple⟩, within⟩
    have scaled : |value| / 10 ^ context.quantum |value| = coefficient := by
      rw [div_eq_iff positive.ne']
      exact multiple
    rw [scaled, whole_natCast, ← multiple, if_neg (not_le.mpr within)]
    exact ⟨_, rfl, (value_eq_iff _ _ _).mpr multiple⟩

/-! ## Denominators -/

/-- A value that is a whole number of tenths, hundredths or the like. -/
def Terminating (value : ℚ) : Prop := ∃ places : Nat, value.den ∣ 10 ^ places

/-- The number of decimal places of a value whose denominator divides a power of ten. -/
def scale (denominator : Nat) : Nat :=
  max (padicValNat 2 denominator) (padicValNat 5 denominator)

/-- A value with so many decimal places is a whole number of its last unit. -/
theorem den_dvd_iff
    (value : ℚ)
    (places : Nat) :
    value.den ∣ 10 ^ places ↔ ∃ whole : Int, value * 10 ^ places = whole := by
  have denominator : (value.den : ℚ) ≠ 0 := Nat.cast_ne_zero.mpr value.den_ne_zero
  constructor
  · rintro ⟨factor, isFactor⟩
    refine ⟨value.num * factor, ?_⟩
    have power : (10 : ℚ) ^ places = value.den * factor := by exact_mod_cast isFactor
    rw [power, ← mul_assoc, Rat.mul_den_eq_num, Int.cast_mul, Int.cast_natCast]
  · rintro ⟨whole, isWhole⟩
    have numerators : value.num * 10 ^ places = whole * value.den := by
      have cleared : (value.num : ℚ) * 10 ^ places = whole * value.den := by
        rw [← isWhole, ← Rat.mul_den_eq_num value]
        ring
      exact_mod_cast cleared
    have divides : value.den ∣ value.num.natAbs * 10 ^ places := by
      have sizes := congrArg Int.natAbs numerators
      rw [Int.natAbs_mul, Int.natAbs_mul, Int.natAbs_natCast] at sizes
      exact ⟨whole.natAbs, by rw [mul_comm value.den]; exact_mod_cast sizes⟩
    exact value.reduced.symm.dvd_of_dvd_mul_left divides

/-- A value is terminating when it is a whole number of some unit. -/
theorem terminating_iff (value : ℚ) :
    Terminating value ↔ ∃ (places : Nat) (whole : Int), value * 10 ^ places = whole :=
  exists_congr fun places => den_dvd_iff value places

/-- A whole number is terminating. -/
theorem terminating_intCast (number : Int) : Terminating number :=
  (terminating_iff _).mpr ⟨0, number, by rw [pow_zero, mul_one]⟩

/-- The value of a finite decimal is terminating. -/
theorem terminating_value (decimal : FiniteDecimal) : Terminating decimal.value := by
  rw [terminating_iff]
  obtain ⟨sign, isSign⟩ : ∃ sign : Int, (if decimal.negative then (-1 : ℚ) else 1) = sign := by
    split
    · exact ⟨-1, by norm_num⟩
    · exact ⟨1, by norm_num⟩
  rw [FiniteDecimal.value, isSign]
  rcases le_total 0 decimal.exponent with natural | negative
  · obtain ⟨exponent, isExponent⟩ := Int.eq_ofNat_of_zero_le natural
    refine ⟨0, sign * (decimal.coefficient * 10 ^ exponent), ?_⟩
    rw [isExponent]
    push_cast
    rw [zpow_natCast, pow_zero, mul_one]
  · obtain ⟨places, isPlaces⟩ := Int.eq_ofNat_of_zero_le (neg_nonneg.mpr negative)
    have ten : (10 : ℚ) ^ places ≠ 0 := pow_ne_zero _ (by norm_num)
    refine ⟨places, sign * decimal.coefficient, ?_⟩
    rw [← neg_neg decimal.exponent, isPlaces, zpow_neg, zpow_natCast]
    push_cast
    field_simp

/-- A sum of terminating values is terminating. -/
theorem Terminating.add
    {left right : ℚ}
    (leftTerminating : Terminating left)
    (rightTerminating : Terminating right) : Terminating (left + right) := by
  obtain ⟨places, whole, isWhole⟩ := (terminating_iff _).mp leftTerminating
  obtain ⟨places', whole', isWhole'⟩ := (terminating_iff _).mp rightTerminating
  refine (terminating_iff _).mpr
    ⟨places + places', whole * 10 ^ places' + whole' * 10 ^ places, ?_⟩
  push_cast
  rw [← isWhole, ← isWhole']
  ring

/-- A product of terminating values is terminating. -/
theorem Terminating.mul
    {left right : ℚ}
    (leftTerminating : Terminating left)
    (rightTerminating : Terminating right) : Terminating (left * right) := by
  obtain ⟨places, whole, isWhole⟩ := (terminating_iff _).mp leftTerminating
  obtain ⟨places', whole', isWhole'⟩ := (terminating_iff _).mp rightTerminating
  refine (terminating_iff _).mpr ⟨places + places', whole * whole', ?_⟩
  push_cast
  rw [← isWhole, ← isWhole']
  ring

/-- The scale of a product of powers of two and of five. -/
theorem scale_two_five
    (twos fives : Nat) : scale (2 ^ twos * 5 ^ fives) = max twos fives := by
  have : Fact (Nat.Prime 2) := ⟨Nat.prime_two⟩
  have : Fact (Nat.Prime 5) := ⟨Nat.prime_five⟩
  have two : 2 ^ twos ≠ 0 := (Nat.two_pow_pos twos).ne'
  have five : 5 ^ fives ≠ 0 := (Nat.pow_pos (by decide)).ne'
  rw [scale, padicValNat.mul two five, padicValNat.mul two five, padicValNat.prime_pow,
    padicValNat.prime_pow, padicValNat_prime_prime_pow _ (by decide),
    padicValNat_prime_prime_pow _ (by decide), Nat.add_zero, Nat.zero_add]

/-- A power of a prime that divides a power of a product divides that of its own factor. -/
private theorem le_of_pow_dvd
    (base other count places : Nat)
    (large : 1 < base)
    (coprime : Nat.Coprime base other)
    (divides : base ^ count ∣ base ^ places * other ^ places) : count ≤ places :=
  (Nat.pow_dvd_pow_iff_le_right large).mp
    ((Nat.Coprime.pow count places coprime).dvd_of_dvd_mul_right divides)

/-- The denominator of a terminating value divides a power of ten from its scale on. -/
theorem den_dvd_iff_scale_le
    (value : ℚ)
    (terminating : Terminating value)
    (places : Nat) : value.den ∣ 10 ^ places ↔ scale value.den ≤ places := by
  obtain ⟨enough, divides⟩ := terminating
  rw [show 10 = 2 * 5 from rfl, mul_pow] at divides ⊢
  obtain ⟨two, five, dividesTwo, dividesFive, split⟩ := Nat.dvd_mul.mp divides
  obtain ⟨twos, -, rfl⟩ := (Nat.dvd_prime_pow Nat.prime_two).mp dividesTwo
  obtain ⟨fives, -, rfl⟩ := (Nat.dvd_prime_pow Nat.prime_five).mp dividesFive
  rw [← split, scale_two_five, max_le_iff]
  constructor
  · intro whole
    refine ⟨le_of_pow_dvd 2 5 _ _ (by decide) (by decide) ((dvd_mul_right _ _).trans whole),
      le_of_pow_dvd 5 2 _ _ (by decide) (by decide) ?_⟩
    rw [mul_comm (5 ^ places)]
    exact (dvd_mul_left _ _).trans whole
  · rintro ⟨fewTwos, fewFives⟩
    exact mul_dvd_mul (pow_dvd_pow 2 fewTwos) (pow_dvd_pow 5 fewFives)

/-! ## Values with few digits -/

/-- The digits of a terminating value, without the zeros at the end of its decimal places. -/
def digits (value : ℚ) : Nat := value.num.natAbs * 10 ^ scale value.den / value.den

/-- A terminating value is its digits with its decimal places. -/
theorem cast_digits
    (value : ℚ)
    (terminating : Terminating value) :
    (digits value : ℚ) = |value| * 10 ^ scale value.den := by
  have divides := (den_dvd_iff_scale_le value terminating _).mpr le_rfl
  have denominator : (value.den : ℚ) ≠ 0 := Nat.cast_ne_zero.mpr value.den_ne_zero
  rw [digits, Nat.cast_div (divides.mul_left _) denominator, Nat.cast_mul, Nat.cast_pow,
    Nat.cast_natAbs, Int.cast_abs, div_eq_iff denominator]
  have magnitude : |(value.num : ℚ)| = |value| * value.den := by
    rw [← Rat.mul_den_eq_num value, abs_mul, Nat.abs_cast]
  rw [magnitude]
  push_cast
  ring

/-- The first digit of a value has its exponent below that of a power of ten when the value is
below the power. -/
theorem log_lt_iff
    (magnitude : ℚ)
    (positive : 0 < magnitude)
    (exponent : Int) : Int.log 10 magnitude < exponent ↔ magnitude < 10 ^ exponent := by
  have bound := Int.lt_zpow_iff_log_lt (b := 10) (by decide) (x := exponent) positive
  exact_mod_cast bound.symm

/-- A value below the precision has a quantum that is a number of decimal places. -/
theorem quantum_nonpos
    (context : Context)
    (magnitude : ℚ)
    (positive : 0 < magnitude)
    (small : magnitude < 10 ^ context.prec) : context.quantum magnitude ≤ 0 := by
  have first := (log_lt_iff magnitude positive context.prec).mpr (by exact_mod_cast small)
  have negative := context.eminNonpos
  have some := context.precPositive
  rw [Context.quantum]
  omega

/-- A value is a number of units of its last place. -/
theorem exists_coefficient_iff
    (value : ℚ)
    (terminating : Terminating value)
    (places : Nat) :
    (∃ coefficient : Nat, |value| = coefficient * 10 ^ (-places : Int)) ↔
      scale value.den ≤ places := by
  have positive : (0 : ℚ) < 10 ^ places := pow_pos (by norm_num) places
  rw [← den_dvd_iff_scale_le value terminating, den_dvd_iff, zpow_neg, zpow_natCast]
  constructor
  · rintro ⟨coefficient, multiple⟩
    rw [← div_eq_mul_inv, eq_div_iff positive.ne'] at multiple
    rcases le_total 0 value with natural | negative
    · rw [abs_of_nonneg natural] at multiple
      exact ⟨coefficient, by rw [multiple, Int.cast_natCast]⟩
    · rw [abs_of_nonpos negative, neg_mul, neg_eq_iff_eq_neg] at multiple
      exact ⟨-coefficient, by rw [multiple, Int.cast_neg, Int.cast_natCast]⟩
  · rintro ⟨whole, isWhole⟩
    refine ⟨whole.natAbs, ?_⟩
    rw [← div_eq_mul_inv, eq_div_iff positive.ne', Nat.cast_natAbs, Int.cast_abs, ← isWhole,
      abs_mul, abs_of_pos positive]

/-- A value has so many digits when its first digit is that many places before its last one. -/
theorem digitCount_digits_le_iff
    (value : ℚ)
    (terminating : Terminating value)
    (nonzero : value ≠ 0)
    (count : Nat)
    (countPositive : 0 < count) :
    digitCount (digits value) ≤ count ↔
      Int.log 10 |value| < (count : Int) - scale value.den := by
  have base : (10 : ℚ) ≠ 0 := by norm_num
  rw [digitCount_le_iff _ _ countPositive, log_lt_iff _ (abs_pos.mpr nonzero), zpow_sub₀ base,
    zpow_natCast, zpow_natCast, lt_div_iff₀ (pow_pos (by norm_num) _),
    ← cast_digits value terminating]
  exact_mod_cast Iff.rfl

/-- A terminating value below the precision is rounded to itself exactly when it has no more
digits than the precision and its places are in the range of the exponents. -/
theorem round_eq_self_iff_digits
    (context : Context)
    (value : ℚ)
    (terminating : Terminating value)
    (small : |value| < 10 ^ context.prec) :
    (∃ decimal, context.round value = some decimal ∧ decimal.value = value) ↔
      digitCount (digits value) ≤ context.prec ∧
        (scale value.den : Int) ≤ context.prec - 1 - context.emin ∧
          |value| < 10 ^ (context.emax + 1) := by
  rcases eq_or_ne value 0 with rfl | nonzero
  · have negative := context.eminNonpos
    have some := context.precPositive
    refine iff_of_true ⟨_, if_pos rfl, ?_⟩ ⟨?_, ?_, ?_⟩
    · rw [FiniteDecimal.value, Nat.cast_zero, zero_mul, mul_zero]
    · exact (digitCount_le_iff _ _ some).mpr (by simp [digits])
    · simp only [Rat.den_ofNat, scale, padicValNat_one_right, max_self]
      omega
    · rw [abs_zero]
      exact zpow_pos (by norm_num) _
  · have nonpos := quantum_nonpos context _ (abs_pos.mpr nonzero) small
    obtain ⟨places, isPlaces⟩ : ∃ places : Nat, context.quantum |value| = -places :=
      ⟨(-context.quantum |value|).toNat, by omega⟩
    rw [round_eq_self_iff context value nonzero, isPlaces,
      exists_coefficient_iff value terminating places,
      digitCount_digits_le_iff value terminating nonzero _ context.precPositive, ← and_assoc]
    rw [Context.quantum] at isPlaces
    refine and_congr_left fun _ => ?_
    omega

end Decimals
end ChatPlatform
