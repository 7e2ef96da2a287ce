import ChatPlatform.Foundation.Growth
import ChatPlatform.Spend.Ceiling

/-!
# Guards that share a ledger

A guard reads the ledger, decides on a reservation, and appends it in a later step; a
settlement is appended at once. The lock on the ledger covers one append, so nothing
keeps two guards from deciding on the same ledger. Where every reservation is appended
to the ledger it was decided on, and every settlement resolves a reservation that is
open, the ledger stays in order.
-/

namespace ChatPlatform
namespace Spend

open Growth CheckThenAppend

variable {F : Type} [FloatOps F] {P : Type} [DecidableEq P]

/-- An entry of the ledger, and the guard that appended it. -/
abbrev Written (F : Type) := SpendGuard × Entry F

/-- The ledger without the guards. -/
def entries (log : List (Written F)) : List (Entry F) := log.map (·.2)

/-- What a guard is asked to settle. -/
structure Settlement (F : Type) where
  /-- The guard. -/
  guard : SpendGuard
  /-- The reservation. -/
  reservation : Reservation
  /-- Whether the call was answered. -/
  status : Str
  /-- The usage the provider reported. -/
  usage : Option (Dict F)

/-- The reservation a guard decides on. -/
def reserves (log : List (Written F)) (call : SpendGuard × Call) : Option (Written F) :=
  match call.1.decision (entries log) call.2 with
  | .error _ => none
  | .ok (_, entry) => some (call.1, entry)

/-- The settlement a guard appends. -/
def settles (_ : List (Written F)) (settlement : Settlement F) : Option (Written F) :=
  match settlement.guard.settlement settlement.reservation settlement.status
      settlement.usage with
  | .error _ => none
  | .ok entry => some (settlement.guard, entry)

/-- What a process does next: read the ledger and decide on a reservation, append it, or
settle a call. -/
abbrev Turn (P F : Type) := P × Move (SpendGuard × Call) (Settlement F)

/-- The ledger after a schedule. -/
def shared (schedule : List (Turn P F)) : State P (Written F) :=
  run reserves settles schedule

/-- The identifiers are distinct, every reservation fitted when it was appended, and the
ledger is readable. -/
structure Orderly (log : List (Written F)) : Prop where
  /-- No identifier occurs twice. -/
  distinct : (callIds (entries log)).Nodup
  /-- Every reservation fits its guard's budget at its position. -/
  fits : ∀ before guard callId stage call usd model after,
    log = before ++ (guard, .reservation callId stage call usd model) :: after →
      ∃ tally, state (entries before) = .ok tally ∧
        tally.committed + unresolved tally.reserved + usd ≤
          min guard.ceilingUsd guard.subCapUsd
  /-- The guards read the ledger. -/
  readable : ∃ tally, state (entries log) = .ok tally
  /-- The check reads the ledger. -/
  validated : ∀ ceilingUsd subCapUsd, ∃ report,
    validateLedger (entries log) ceilingUsd subCapUsd = .ok report

/-- A reservation is appended to the ledger it was decided on, and a settlement resolves
a reservation that is open. -/
def Undisturbed (state : State P (Written F)) (turn : Turn P F) : Prop :=
  Fresh state turn ∧
    ∀ settlement entry, turn.2 = .once settlement →
      settles state.log settlement = some entry →
        ∃ tally reserved, Spend.state (entries state.log) = .ok tally ∧
          tally.reserved.lookup settlement.reservation.callId = some reserved

/-! ## Entries that fit -/

/-- An entry is in order, and a reservation fits the budget of its guard. -/
def FitsItsGuard (before : List (Written F)) (written : Written F) : Prop :=
  InOrder (entries before) written.2 ∧
    ∀ callId stage call usd model, written.2 = .reservation callId stage call usd model →
      ∃ tally, state (entries before) = .ok tally ∧
        tally.committed + unresolved tally.reserved + usd ≤
          min written.1.ceilingUsd written.1.subCapUsd

omit [FloatOps F] in
/-- A reservation that is decided on fits. -/
theorem fitsItsGuard_of_reserves
    (log : List (Written F))
    (call : SpendGuard × Call)
    (written : Written F)
    (decided : reserves log call = some written) : FitsItsGuard log written := by
  unfold reserves at decided
  split at decided
  · cases decided
  · rename_i reservation entry isDecision
    cases decided
    obtain ⟨tally, found⟩ := decided_of_decision isDecision
    refine ⟨?_, ?_⟩
    · rw [found.entry]
      exact ⟨tally, found.state, rfl⟩
    · intro callId stage call' usd model same
      rw [found.entry] at same
      cases same
      exact ⟨tally, found.state, found.fits⟩

/-- A settlement that resolves an open reservation fits. -/
theorem fitsItsGuard_of_settles
    {log : List (Written F)}
    {settlement : Settlement F}
    {written : Written F}
    {tally : Tally}
    {reserved : ℚ}
    (isTally : state (entries log) = .ok tally)
    (isOpen : tally.reserved.lookup settlement.reservation.callId = some reserved)
    (settled : settles log settlement = some written) : FitsItsGuard log written := by
  unfold settles SpendGuard.settlement at settled
  split at settled
  · cases settled
  · rename_i entry isSettlement
    cases settled
    split at isSettlement
    · cases isSettlement
    · split at isSettlement
      · cases isSettlement
        refine ⟨⟨tally, reserved, isTally, isOpen⟩, ?_⟩
        rintro _ _ _ _ _ ⟨⟩
      · cases isSettlement

omit [FloatOps F] in
/-- The entries of a log that grows are in order. -/
theorem inOrder_entries
    {log : List (Written F)}
    (grown : Grown FitsItsGuard log) : Grown InOrder (entries log) := by
  induction log using List.reverseRecOn with
  | nil => exact grown_nil
  | append_singleton log written inductionHypothesis =>
      obtain ⟨earlier, fits⟩ := grown_snoc.mp grown
      have same : entries (log ++ [written]) = entries log ++ [written.2] := by
        simp [entries]
      rw [same]
      exact grown_snoc.mpr ⟨inductionHypothesis earlier, fits.1⟩

omit [FloatOps F] in
/-- A log in which every entry fits is orderly. -/
theorem orderly_of_grown
    {log : List (Written F)}
    (grown : Grown FitsItsGuard log) : Orderly log := by
  obtain ⟨tally, books⟩ := books_of_grown (inOrder_entries grown)
  refine ⟨books.distinct, ?_, ⟨tally, books.state⟩, ?_⟩
  · intro before guard callId stage call usd model after same
    exact (grown before _ after same).2 callId stage call usd model rfl
  · intro ceilingUsd subCapUsd
    obtain ⟨replay, isReplay, -, -⟩ := books.replay (budget ceilingUsd subCapUsd)
    unfold validateLedger
    dsimp only
    rw [isReplay]
    exact ⟨_, rfl⟩

/-- A process that appends what it decided on before anyone else moves disturbs nothing. -/
theorem throughout_reservation
    {schedule : List (Turn P F)}
    (process : P)
    (call : SpendGuard × Call)
    (undisturbed : Throughout reserves settles Undisturbed schedule) :
    Throughout reserves settles Undisturbed
      (schedule ++ [(process, .read call)] ++ [(process, .write)]) := by
  refine Throughout.snoc (undisturbed.snoc ⟨nofun, ?_⟩) ?_
  · exact fun _ _ isOnce => absurd isOnce (by simp)
  · rw [run_append_singleton]
    exact ⟨fresh_after_read _ _ _ _ _, fun _ _ isOnce => absurd isOnce (by simp)⟩

/-- In a schedule in which every reservation is appended to the ledger it was decided on
and every settlement resolves an open reservation, every ledger that is reached is
orderly. -/
theorem orderly_of_undisturbed
    {schedule : List (Turn P F)}
    (undisturbed : Throughout reserves settles Undisturbed schedule) :
    ∀ before after, schedule = before ++ after → Orderly (shared before).log := by
  rintro before after rfl
  refine orderly_of_grown (grown_run fitsItsGuard_of_reserves ?_ ?_ undisturbed.of_append)
  · intro state process seen written met isPending fits
    rw [← met.1 rfl seen written isPending]
    exact fits
  · intro state process settlement written met settled
    obtain ⟨tally, reserved, isTally, isOpen⟩ := met.2 settlement written rfl settled
    exact fitsItsGuard_of_settles isTally isOpen settled

/-- Two guards that reserve one call each, one after the other. -/
theorem orderly_of_undisturbed_two :
    Orderly (shared ([(true, .read (smallGuard, thousandTokens)), (true, .write),
      (false, .read (smallGuard, thousandTokens)), (false, .write)] :
        List (Turn Bool Empty))).log := by
  have first := throughout_reservation true (smallGuard, thousandTokens)
    (throughout_nil : Throughout reserves settles Undisturbed ([] : List (Turn Bool Empty)))
  exact orderly_of_undisturbed
    (throughout_reservation false (smallGuard, thousandTokens) first) _ []
      (List.append_nil _).symm

/-- Two guards that decide on the same ledger append the same identifier. -/
theorem not_orderly :
    ¬ ∀ schedule : List (Turn Bool Empty), Orderly (shared schedule).log := by
  intro orderly
  have distinct := (orderly [(true, .read (smallGuard, thousandTokens)),
    (false, .read (smallGuard, thousandTokens)), (true, .write), (false, .write)]).distinct
  revert distinct
  decide +kernel

end Spend
end ChatPlatform
