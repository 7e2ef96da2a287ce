import Mathlib.Algebra.Order.Ring.Int
import Mathlib.Data.List.Range
import Mathlib.Tactic.Positivity

/-!
# Retrying an operation

An operation is tried until it succeeds, raises what is not worth another attempt, or has
used up its attempts. Between two attempts the caller sleeps for a delay that doubles up to
a cap, with a random share of a quarter. What is not an exception of the ordinary kind, a
cancellation, passes through whether the operation or the sleep raises it.
-/

namespace ChatPlatform
namespace Retry

/-- What a call may raise. -/
inductive Raised (X C : Type) where
  /-- An ordinary exception. -/
  | exception (exception : X)
  /-- A cancellation, which handlers of ordinary exceptions do not see. -/
  | cancellation (cancellation : C)
  deriving DecidableEq

/-- How often and how far apart to try. -/
structure RetryPolicy where
  /-- Most attempts. -/
  maxAttempts : Int
  /-- Delay after the first attempt, in milliseconds. -/
  baseDelayMs : Int
  /-- Longest delay without its random share, in milliseconds. -/
  maxDelayMs : Int
  deriving DecidableEq

/-- What the operation, the sleep and the random numbers do, attempt by attempt. -/
structure Script (T X C : Type) where
  /-- The operation. -/
  op : Nat → Except (Raised X C) T
  /-- Whether an exception is worth another attempt. -/
  shouldRetry : X → Bool
  /-- The sleep after an attempt. -/
  sleep : Nat → Except (Raised X C) Unit
  /-- A random number from zero to a bound, drawn after an attempt. -/
  randint : Nat → (bound : Nat) → Fin (bound + 1)
  /-- What a failed assertion raises. -/
  assertionError : X

/-- A call that was made. -/
inductive Call where
  /-- The operation, with the number of its attempt. -/
  | op (attempt : Nat)
  /-- A sleep, in milliseconds. -/
  | sleep (delayMs : Int)
  deriving DecidableEq

/-- The delay after an attempt without its random share. -/
def cappedDelayMs (attempt : Nat) (baseDelayMs maxDelayMs : Int) : Int :=
  min (baseDelayMs * 2 ^ (attempt - 1)) maxDelayMs

/-- The delay after an attempt: capped, with a random share of a quarter. -/
def computeBackoffMs
    (randint : (bound : Nat) → Fin (bound + 1))
    (attempt : Nat)
    (baseDelayMs maxDelayMs : Int) : Int :=
  let capped := cappedDelayMs attempt baseDelayMs maxDelayMs
  let jitter := (randint (max 0 (capped / 4)).toNat).val
  capped + jitter

variable {T X C : Type} (script : Script T X C) (policy : RetryPolicy)

/-- The delay after an attempt of a script. -/
def Script.delayMs (attempt : Nat) : Int :=
  computeBackoffMs (script.randint attempt) attempt policy.baseDelayMs policy.maxDelayMs

/-- The attempts from one on, where `remaining` are left and `lastExc` is the exception of
the one before: how they end and the calls that were made. -/
def attemptsFrom : Nat → Nat → Option X → Except (Raised X C) T × List Call
  | 0, _, none => (.error (.exception script.assertionError), [])
  | 0, _, some exception => (.error (.exception exception), [])
  | remaining + 1, attempt, _ =>
      match script.op attempt with
      | .ok value => (.ok value, [.op attempt])
      | .error (.cancellation cancellation) =>
          (.error (.cancellation cancellation), [.op attempt])
      | .error (.exception exception) =>
          if policy.maxAttempts ≤ attempt ∨ script.shouldRetry exception = false then
            (.error (.exception exception), [.op attempt])
          else
            let round := [.op attempt, .sleep (script.delayMs policy attempt)]
            match script.sleep attempt with
            | .error raised => (.error raised, round)
            | .ok () =>
                let rest := attemptsFrom remaining (attempt + 1) (some exception)
                (rest.1, round ++ rest.2)

/-- Try an operation as often as a policy allows. -/
def retryAsync : Except (Raised X C) T × List Call :=
  attemptsFrom script policy policy.maxAttempts.toNat 1 none

/-! ## Delays -/

/-- A delay lies between its cap and a quarter more. -/
theorem computeBackoffMs_bounds
    (randint : (bound : Nat) → Fin (bound + 1))
    (attempt : Nat)
    {baseDelayMs maxDelayMs : Int}
    (baseNonneg : 0 ≤ baseDelayMs)
    (maxNonneg : 0 ≤ maxDelayMs) :
    cappedDelayMs attempt baseDelayMs maxDelayMs ≤
        computeBackoffMs randint attempt baseDelayMs maxDelayMs ∧
      4 * computeBackoffMs randint attempt baseDelayMs maxDelayMs ≤
        5 * cappedDelayMs attempt baseDelayMs maxDelayMs := by
  have cappedNonneg : 0 ≤ cappedDelayMs attempt baseDelayMs maxDelayMs :=
    le_min (by positivity) maxNonneg
  unfold computeBackoffMs
  generalize cappedDelayMs attempt baseDelayMs maxDelayMs = capped at cappedNonneg ⊢
  have share := (randint (max 0 (capped / 4)).toNat).isLt
  dsimp only
  omega

/-! ## Runs -/

/-- An attempt raises an exception that is worth another one. -/
def Script.Retried (attempt : Nat) : Prop :=
  ∃ exception, script.op attempt = .error (.exception exception) ∧
    script.shouldRetry exception = true

/-- The calls of some attempts from one on, each followed by its sleep. -/
def rounds (first count : Nat) : List Call :=
  (List.range' first count).flatMap fun attempt =>
    [.op attempt, .sleep (script.delayMs policy attempt)]

theorem rounds_succ (first count : Nat) :
    rounds script policy first (count + 1) =
      [.op first, .sleep (script.delayMs policy first)] ++
        rounds script policy (first + 1) count := by
  unfold rounds
  rw [List.range'_succ, List.flatMap_cons]

/-- How a run ends at an attempt: with what that attempt did, when it was the last one or is
not to be repeated, or with what the sleep after it raised. -/
def EndsAt
    (first last : Nat)
    (run : Except (Raised X C) T × List Call) : Prop :=
  ((last : Int) = policy.maxAttempts ∨ ¬script.Retried last) ∧
      run = (script.op last, rounds script policy first (last - first) ++ [.op last]) ∨
    (last : Int) < policy.maxAttempts ∧ script.Retried last ∧
      ∃ raised, script.sleep last = .error raised ∧
        run = (.error raised, rounds script policy first (last + 1 - first))

variable {script policy}

/-- An attempt that is repeated puts its calls before those of the next attempts. -/
theorem EndsAt.after_round
    {first last : Nat}
    (later : first < last)
    {run : Except (Raised X C) T × List Call}
    (ends : EndsAt script policy (first + 1) last run) :
    EndsAt script policy first last
      (run.1, [.op first, .sleep (script.delayMs policy first)] ++ run.2) := by
  rcases ends with ⟨isLast, rfl⟩ | ⟨before, retried, raised, interrupted, rfl⟩
  · refine Or.inl ⟨isLast, ?_⟩
    rw [show last - first = last - (first + 1) + 1 by omega, rounds_succ, List.append_assoc]
  · refine Or.inr ⟨before, retried, raised, interrupted, ?_⟩
    rw [show last + 1 - first = last + 1 - (first + 1) + 1 by omega, rounds_succ]

variable (script policy) in
/-- The attempts from one on end at the first that is not to be repeated, that is the last
one, or whose sleep is interrupted. -/
theorem attemptsFrom_endsAt
    {remaining attempt : Nat}
    (allowed : (attempt : Int) + remaining = policy.maxAttempts)
    (lastExc : Option X) :
    ∃ last, attempt ≤ last ∧ (last : Int) ≤ policy.maxAttempts ∧
      (∀ earlier, attempt ≤ earlier → earlier < last →
        script.Retried earlier ∧ script.sleep earlier = .ok ()) ∧
      EndsAt script policy attempt last
        (attemptsFrom script policy (remaining + 1) attempt lastExc) := by
  induction remaining generalizing attempt lastExc with
  | zero =>
      have isLast : (attempt : Int) = policy.maxAttempts := by omega
      refine ⟨attempt, le_rfl, by omega, fun earlier _ _ => by omega, Or.inl ⟨Or.inl isLast, ?_⟩⟩
      rw [attemptsFrom, Nat.sub_self]
      cases tried : script.op attempt with
      | ok value => rfl
      | error raised =>
          cases raised with
          | cancellation cancellation => rfl
          | exception exception =>
              dsimp only
              rw [if_pos (Or.inl isLast.ge)]
              rfl
  | succ remaining inductionHypothesis =>
      have here : (∀ earlier, attempt ≤ earlier → earlier < attempt →
          script.Retried earlier ∧ script.sleep earlier = .ok ()) :=
        fun earlier _ _ => by omega
      rw [attemptsFrom]
      cases tried : script.op attempt with
      | ok value =>
          have notRetried : ¬script.Retried attempt := by
            rintro ⟨exception, raises, _⟩
            rw [tried] at raises
            cases raises
          refine ⟨attempt, le_rfl, by omega, here, Or.inl ⟨Or.inr notRetried, ?_⟩⟩
          rw [Nat.sub_self, tried]
          rfl
      | error raised =>
          cases raised with
          | cancellation cancellation =>
              have notRetried : ¬script.Retried attempt := by
                rintro ⟨exception, raises, _⟩
                rw [tried] at raises
                cases raises
              refine ⟨attempt, le_rfl, by omega, here, Or.inl ⟨Or.inr notRetried, ?_⟩⟩
              rw [Nat.sub_self, tried]
              rfl
          | exception exception =>
              dsimp only
              by_cases worth : script.shouldRetry exception = true
              · have retried : script.Retried attempt := ⟨exception, tried, worth⟩
                have again : ¬(policy.maxAttempts ≤ attempt ∨
                    script.shouldRetry exception = false) := by
                  rintro (late | never)
                  · push_cast at allowed
                    omega
                  · rw [worth] at never
                    cases never
                rw [if_neg again]
                cases slept : script.sleep attempt with
                | error raised =>
                    refine ⟨attempt, le_rfl, by omega, here,
                      Or.inr ⟨by omega, retried, raised, slept, ?_⟩⟩
                    rw [Nat.add_sub_cancel_left, rounds_succ]
                    rfl
                | ok done =>
                    have allowedNext : ((attempt + 1 : Nat) : Int) + remaining =
                        policy.maxAttempts := by
                      push_cast at allowed ⊢
                      omega
                    obtain ⟨last, after, within, before, ends⟩ :=
                      inductionHypothesis allowedNext (some exception)
                    refine ⟨last, by omega, within, ?_, ends.after_round (by omega)⟩
                    intro earlier notBefore inside
                    by_cases isFirst : earlier = attempt
                    · exact isFirst ▸ ⟨retried, slept⟩
                    · exact before earlier (by omega) inside
              · have notRetried : ¬script.Retried attempt := by
                  rintro ⟨other, raises, otherWorth⟩
                  rw [tried] at raises
                  cases raises
                  exact worth otherWorth
                rw [if_pos (Or.inr (Bool.not_eq_true _ ▸ worth))]
                refine ⟨attempt, le_rfl, by omega, here, Or.inl ⟨Or.inr notRetried, ?_⟩⟩
                rw [Nat.sub_self, tried]
                rfl

/-- An operation is called with the attempts from one to the first that succeeds, raises
what is not to be repeated, or is the last one allowed, and ends as that attempt does. It
sleeps once before each attempt but the first, for a delay between its cap and a quarter
more. What a sleep raises ends the run at once. -/
theorem retryAsync_runs
    (script : Script T X C)
    (policy : RetryPolicy)
    (atLeastOne : 1 ≤ policy.maxAttempts)
    (baseNonneg : 0 ≤ policy.baseDelayMs)
    (maxNonneg : 0 ≤ policy.maxDelayMs) :
    ∃ last : Nat, 1 ≤ last ∧ (last : Int) ≤ policy.maxAttempts ∧
      (∀ earlier, 1 ≤ earlier → earlier < last →
        script.Retried earlier ∧ script.sleep earlier = .ok ()) ∧
      EndsAt script policy 1 last (retryAsync script policy) ∧
      ∀ attempt,
        cappedDelayMs attempt policy.baseDelayMs policy.maxDelayMs ≤
            script.delayMs policy attempt ∧
          4 * script.delayMs policy attempt ≤
            5 * cappedDelayMs attempt policy.baseDelayMs policy.maxDelayMs := by
  obtain ⟨remaining, isRemaining⟩ : ∃ remaining : Nat,
      policy.maxAttempts.toNat = remaining + 1 := ⟨policy.maxAttempts.toNat - 1, by omega⟩
  have allowed : ((1 : Nat) : Int) + remaining = policy.maxAttempts := by
    push_cast
    omega
  obtain ⟨last, first, within, before, ends⟩ := attemptsFrom_endsAt script policy allowed none
  refine ⟨last, first, within, before, ?_, fun attempt =>
    computeBackoffMs_bounds _ attempt baseNonneg maxNonneg⟩
  rw [retryAsync, isRemaining]
  exact ends

/-- An operation that succeeds in its third attempt. -/
def thirdTime : Script Nat Unit Unit where
  op attempt := if attempt < 3 then .error (.exception ()) else .ok 7
  shouldRetry _ := true
  sleep _ := .ok ()
  randint _ bound := ⟨0, Nat.succ_pos bound⟩
  assertionError := ()

/-- It is called three times, with growing delays between. -/
theorem retryAsync_runs_thirdTime :
    (∃ last : Nat, 1 ≤ last ∧ (last : Int) ≤ 3 ∧
      EndsAt thirdTime ⟨3, 200, 2000⟩ 1 last (retryAsync thirdTime ⟨3, 200, 2000⟩)) ∧
    retryAsync thirdTime ⟨3, 200, 2000⟩ =
      (.ok 7, [.op 1, .sleep 200, .op 2, .sleep 400, .op 3]) := by
  obtain ⟨last, first, within, _, ends, _⟩ :=
    retryAsync_runs thirdTime ⟨3, 200, 2000⟩ (by decide) (by decide) (by decide)
  exact ⟨⟨last, first, within, ends⟩, rfl⟩

end Retry
end ChatPlatform
