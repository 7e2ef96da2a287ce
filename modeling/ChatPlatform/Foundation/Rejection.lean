import Mathlib.Data.Int.Init
import Mathlib.Data.List.Sort
import Mathlib.Logic.Equiv.Basic

/-!
# Drawing without bias

A value is drawn again until one is accepted, at most a number of times. The first accepted
value decides, so that exchanging values that are all accepted or all refused exchanges the
results in the same way. Below a multiple of `n` the residues modulo `n` can be exchanged so.
-/

namespace ChatPlatform
namespace Rejection

variable {V W : Type}

/-- The first accepted draw from a counter on, with some more tries. -/
def firstAccepted (accepts : V → Bool) (draw : Nat → V) (counter : Nat) : Nat → Option V
  | 0 => if accepts (draw counter) then some (draw counter) else none
  | tries + 1 =>
      if accepts (draw counter) then some (draw counter)
      else firstAccepted accepts draw (counter + 1) tries

variable {accepts : V → Bool} {draw : Nat → V} {counter tries : Nat} {value : V}

/-- A draw is the first accepted one when it is accepted and those before it are not. -/
theorem firstAccepted_eq_some_iff :
    firstAccepted accepts draw counter tries = some value ↔
      ∃ rejected ≤ tries, (∀ earlier < rejected, accepts (draw (counter + earlier)) = false) ∧
        accepts (draw (counter + rejected)) = true ∧ draw (counter + rejected) = value := by
  induction tries generalizing counter with
  | zero =>
      unfold firstAccepted
      constructor
      · intro found
        split at found
        · rename_i accepted
          exact ⟨0, le_refl 0, fun _ less => absurd less (Nat.not_lt_zero _), accepted,
            Option.some.inj found⟩
        · cases found
      · rintro ⟨rejected, none, -, accepted, rfl⟩
        obtain rfl := Nat.le_zero.mp none
        exact if_pos accepted
  | succ tries inductionHypothesis =>
      unfold firstAccepted
      constructor
      · intro found
        split at found
        · rename_i accepted
          exact ⟨0, Nat.zero_le _, fun _ less => absurd less (Nat.not_lt_zero _), accepted,
            Option.some.inj found⟩
        · rename_i refused
          obtain ⟨rejected, few, before, accepted, isValue⟩ := inductionHypothesis.mp found
          refine ⟨rejected + 1, Nat.succ_le_succ few, ?_, ?_, ?_⟩
          · intro earlier less
            cases earlier with
            | zero => exact Bool.eq_false_iff.mpr refused
            | succ earlier =>
                rw [← Nat.succ_add_eq_add_succ]
                exact before earlier (Nat.lt_of_succ_lt_succ less)
          · rwa [← Nat.succ_add_eq_add_succ]
          · rwa [← Nat.succ_add_eq_add_succ]
      · rintro ⟨rejected, few, before, accepted, isValue⟩
        cases rejected with
        | zero =>
            rw [Nat.add_zero] at accepted isValue
            rw [if_pos accepted, isValue]
        | succ rejected =>
            have refused : accepts (draw counter) = false := before 0 (Nat.succ_pos _)
            rw [if_neg (Bool.eq_false_iff.mp refused)]
            refine inductionHypothesis.mpr ⟨rejected, Nat.le_of_succ_le_succ few, ?_, ?_, ?_⟩
            · intro earlier less
              rw [Nat.succ_add_eq_add_succ]
              exact before (earlier + 1) (Nat.succ_lt_succ less)
            · rwa [Nat.succ_add_eq_add_succ]
            · rwa [Nat.succ_add_eq_add_succ]

/-- Nothing is found when all draws are refused. -/
theorem firstAccepted_eq_none_iff :
    firstAccepted accepts draw counter tries = none ↔
      ∀ earlier ≤ tries, accepts (draw (counter + earlier)) = false := by
  induction tries generalizing counter with
  | zero => simp [firstAccepted]
  | succ tries inductionHypothesis =>
      unfold firstAccepted
      constructor
      · intro nothing
        split at nothing
        · cases nothing
        · rename_i refused
          intro earlier few
          cases earlier with
          | zero => exact Bool.eq_false_iff.mpr refused
          | succ earlier =>
              rw [← Nat.succ_add_eq_add_succ]
              exact inductionHypothesis.mp nothing earlier (Nat.le_of_succ_le_succ few)
      · intro refused
        have first : accepts (draw counter) = false := refused 0 (Nat.zero_le _)
        rw [if_neg (Bool.eq_false_iff.mp first)]
        refine inductionHypothesis.mpr fun earlier few => ?_
        rw [Nat.succ_add_eq_add_succ]
        exact refused (earlier + 1) (Nat.succ_le_succ few)

/-- Exchanging values without changing what is accepted exchanges the results. -/
theorem firstAccepted_comp
    {accepted : W → Bool}
    {exchange : V → W}
    (kept : ∀ value, accepted (exchange value) = accepts value) :
    firstAccepted accepted (exchange ∘ draw) counter tries =
      (firstAccepted accepts draw counter tries).map exchange := by
  induction tries generalizing counter with
  | zero =>
      unfold firstAccepted
      rw [Function.comp_apply, kept]
      split <;> rfl
  | succ tries inductionHypothesis =>
      unfold firstAccepted
      rw [Function.comp_apply, kept, inductionHypothesis]
      split <;> rfl

/-! ## Residues -/

/-- Below the limit two residues are exchanged, and the quotient stays. -/
def exchangeResidues (n limit first second value : Nat) : Nat :=
  if value < limit then n * (value / n) + Equiv.swap first second (value % n) else value

variable {n limit first second number : Nat}

/-- One of two residues is exchanged for one. -/
theorem swap_lt
    (isFirst : first < n)
    (isSecond : second < n)
    {residue : Nat}
    (isResidue : residue < n) : Equiv.swap first second residue < n := by
  rw [Equiv.swap_apply_def]
  split
  · exact isSecond
  · split
    · exact isFirst
    · exact isResidue

/-- A number below a multiple stays below it. -/
theorem exchangeResidues_lt_iff
    (divides : n ∣ limit)
    (isFirst : first < n)
    (isSecond : second < n) :
    exchangeResidues n limit first second number < limit ↔ number < limit := by
  have positive : 0 < n := Nat.zero_lt_of_lt isFirst
  unfold exchangeResidues
  split
  · rename_i below
    refine iff_of_true ?_ below
    obtain ⟨blocks, rfl⟩ := divides
    have block : number / n < blocks := Nat.div_lt_of_lt_mul below
    have residue := swap_lt isFirst isSecond (Nat.mod_lt number positive)
    calc n * (number / n) + Equiv.swap first second (number % n)
        < n * (number / n) + n := Nat.add_lt_add_left residue _
      _ = n * (number / n + 1) := (Nat.mul_succ _ _).symm
      _ ≤ n * blocks := Nat.mul_le_mul_left n block
  · rfl

/-- Its residue is exchanged. -/
theorem exchangeResidues_mod
    (isFirst : first < n)
    (isSecond : second < n)
    (below : number < limit) :
    exchangeResidues n limit first second number % n = Equiv.swap first second (number % n) := by
  have residue := swap_lt isFirst isSecond
    (Nat.mod_lt number (Nat.zero_lt_of_lt isFirst))
  rw [exchangeResidues, if_pos below, Nat.mul_add_mod, Nat.mod_eq_of_lt residue]

/-- Exchanging twice changes nothing. -/
theorem exchangeResidues_twice
    (divides : n ∣ limit)
    (isFirst : first < n)
    (isSecond : second < n) :
    exchangeResidues n limit first second (exchangeResidues n limit first second number) =
      number := by
  have positive : 0 < n := Nat.zero_lt_of_lt isFirst
  by_cases below : number < limit
  · have still := (exchangeResidues_lt_iff divides isFirst isSecond).mpr below
    have residue := swap_lt isFirst isSecond (Nat.mod_lt number positive)
    rw [exchangeResidues, if_pos still, exchangeResidues_mod isFirst isSecond below,
      Equiv.swap_apply_self, exchangeResidues, if_pos below, Nat.mul_add_div positive,
      Nat.div_eq_of_lt residue, Nat.add_zero, Nat.div_add_mod]
  · have unchanged : exchangeResidues n limit first second number = number := if_neg below
    rw [unchanged, unchanged]

/-- The exchange is a permutation of the numbers below a bound of the limit. -/
def residueSwap
    {space : Nat}
    (divides : n ∣ limit)
    (fits : limit ≤ space)
    (isFirst : first < n)
    (isSecond : second < n) : Equiv.Perm (Fin space) :=
  Function.Involutive.toPerm
    (fun number => ⟨exchangeResidues n limit first second number, by
      by_cases below : number.val < limit
      · exact ((exchangeResidues_lt_iff divides isFirst isSecond).mpr below).trans_le fits
      · rw [exchangeResidues, if_neg below]
        exact number.isLt⟩)
    fun _ => Fin.ext (exchangeResidues_twice divides isFirst isSecond)

end Rejection
end ChatPlatform
