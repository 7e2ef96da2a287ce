import ChatPlatform.Spend.Books

/-!
# The ceiling of the spend guard

A reservation is checked against the budget when it is made, so what was spent stays
within the budget as long as every settlement resolves an open reservation and costs
at most what that reservation holds. Nothing checks either when a call is settled.
-/

namespace ChatPlatform
namespace Spend

open Growth

variable {F : Type} [FloatOps F]

/-! ## Runs -/

/-- What is done with a guard. -/
inductive Operation (F : Type)
  /-- A call is reserved. -/
  | reserve (call : Call)
  /-- A call is settled. -/
  | settle (reservation : Reservation) (status : Str) (usage : Option (Dict F))

/-- The ledger after an operation. -/
def Operation.apply (guard : SpendGuard) (ledger : List (Entry F)) :
    Operation F → List (Entry F)
  | .reserve call => (guard.reserve ledger call).2
  | .settle reservation status usage => (guard.settle ledger reservation status usage).2

/-- The ledger after some operations, from an empty one. -/
def SpendGuard.run (guard : SpendGuard) (operations : List (Operation F)) : List (Entry F) :=
  operations.foldl (Operation.apply guard) []

/-- What was spent is within the budget, the check of the ledger passes, and a refused
reservation changes nothing. -/
structure Contained (guard : SpendGuard) (ledger : List (Entry F)) : Prop where
  /-- What was spent is within the budget. -/
  spent : ∃ spent, spentUsd ledger = .ok spent ∧
    spent ≤ min guard.ceilingUsd guard.subCapUsd
  /-- The check of the ledger passes. -/
  validated : ∃ report,
    validateLedger ledger guard.ceilingUsd guard.subCapUsd = .ok report ∧
      report.passed = true
  /-- A refused reservation changes nothing. -/
  refused : ∀ call refusal, (guard.reserve ledger call).1 = .error refusal →
    (guard.reserve ledger call).2 = ledger

/-- A settlement that is recorded resolves an open reservation and costs at most what
that reservation holds. -/
def Covered (guard : SpendGuard) (ledger : List (Entry F)) : Operation F → Prop
  | .reserve _ => True
  | .settle reservation status usage =>
      ∀ entry, guard.settlement reservation status usage = .ok entry →
        ∃ tally reserved, state ledger = .ok tally ∧
          tally.reserved.lookup reservation.callId = some reserved ∧
            ∀ usd, usage.bind guard.reportedCost = some usd → usd ≤ reserved

/-- Every settlement of a run is covered by its reservation. -/
def RunCovered (guard : SpendGuard) (operations : List (Operation F)) : Prop :=
  ∀ before operation after, operations = before ++ operation :: after →
    Covered guard (guard.run before) operation

/-! ## Entries within the budget -/

/-- An entry is in order, a reservation fits the budget and a result costs at most
what was reserved. -/
def WithinBudget (budget : ℚ) (before : List (Entry F)) : Entry F → Prop
  | .reservation callId stage _ usd _ =>
      ∃ tally, state before = .ok tally ∧ callId = nextCallId stage tally.ordinal ∧
        tally.committed + unresolved tally.reserved + usd ≤ budget
  | .callResult callId _ usd _ =>
      ∃ tally reserved, state before = .ok tally ∧
        tally.reserved.lookup callId = some reserved ∧ usd.getD reserved ≤ reserved

omit [FloatOps F] in
/-- Entries within the budget are in order. -/
theorem WithinBudget.inOrder
    {budget : ℚ}
    {before : List (Entry F)}
    {entry : Entry F}
    (within : WithinBudget budget before entry) : InOrder before entry := by
  cases entry with
  | reservation callId stage call usd model =>
      obtain ⟨tally, isTally, isNext, -⟩ := within
      exact ⟨tally, isTally, isNext⟩
  | callResult callId status usd usage =>
      obtain ⟨tally, reserved, isTally, isOpen, -⟩ := within
      exact ⟨tally, reserved, isTally, isOpen⟩

omit [FloatOps F] in
/-- What was spent stays within the budget, and every row of the check fits. -/
theorem spent_le_of_grown
    {budget : ℚ}
    {ledger : List (Entry F)}
    (positive : 0 ≤ budget)
    (grown : Grown (WithinBudget budget) ledger) :
    ∃ tally replay, Books ledger tally ∧ replayFrom budget {} ledger = .ok replay ∧
      replay.committed = tally.committed ∧ replay.reserved = tally.reserved ∧
      tally.committed + unresolved tally.reserved ≤ budget ∧
      replay.rows.all (·.fits) = true := by
  induction ledger using List.reverseRecOn with
  | nil =>
      obtain ⟨tally, books⟩ := books_of_grown (F := F) grown_nil
      cases books.state
      exact ⟨_, _, books, rfl, rfl, rfl, by simpa [unresolved] using positive, rfl⟩
  | append_singleton ledger entry inductionHypothesis =>
      obtain ⟨earlier, within⟩ := grown_snoc.mp grown
      obtain ⟨tally, replay, books, replayed, committed, reserved, spent, fit⟩ :=
        inductionHypothesis earlier
      cases entry with
      | reservation callId stage call usd model =>
          obtain ⟨found, isTally, isNext, fits⟩ := within
          rw [books.state] at isTally
          cases isTally
          have notOpen : callId ∉ tally.reserved.map (·.1) := by
            intro held
            rw [isNext] at held
            exact books.fresh stage (books.opened _ held)
          refine ⟨_, _, books.reservation isNext, replayFrom_snoc _ replayed, committed, ?_,
            ?_, ?_⟩
          · dsimp only
            rw [reserved, Keyed.set_of_not_mem usd notOpen]
          · rw [unresolved_snoc, ← add_assoc]
            exact fits
          · rw [List.all_append, fit, committed, reserved]
            simpa using fits
      | callResult callId status usd usage =>
          obtain ⟨found, held, isTally, isOpen, covered⟩ := within
          rw [books.state] at isTally
          cases isTally
          have isOpenThere : replay.reserved.lookup callId = some held := by
            rw [reserved]
            exact isOpen
          have replayedOn : replayFrom budget {} (ledger ++
              [.callResult callId status usd usage]) = .ok { replay with
                committed := replay.committed + usd.getD held
                reserved := pop replay.reserved callId } := by
            rw [replayFrom_snoc _ replayed, replayStep, isOpenThere]
          refine ⟨_, _, books.callResult isOpen, replayedOn, ?_, ?_, ?_, fit⟩
          · dsimp only
            rw [committed]
          · dsimp only
            rw [reserved]
          · have less := unresolved_pop books.openDistinct isOpen
            dsimp only
            rw [less]
            linarith

/-- The budget of a guard is positive. -/
private theorem budget_pos (guard : SpendGuard) : 0 < min guard.ceilingUsd guard.subCapUsd :=
  lt_min (guard.subCapPositive.trans_le guard.withinCeiling) guard.subCapPositive

omit [FloatOps F] in
/-- A reservation that is decided on fits the budget. -/
theorem withinBudget_of_decision
    {guard : SpendGuard}
    {ledger : List (Entry F)}
    {call : Call}
    {reservation : Reservation}
    {entry : Entry F}
    (decided : guard.decision ledger call = .ok (reservation, entry)) :
    WithinBudget guard.budget ledger entry := by
  obtain ⟨tally, found⟩ := decided_of_decision decided
  rw [found.entry]
  exact ⟨tally, found.state, rfl, found.fits⟩

/-- A covered settlement costs at most what was reserved. -/
theorem withinBudget_of_settlement
    {guard : SpendGuard}
    {ledger : List (Entry F)}
    {reservation : Reservation}
    {status : Str}
    {usage : Option (Dict F)}
    {entry : Entry F}
    (covered : Covered guard ledger (.settle reservation status usage))
    (settles : guard.settlement reservation status usage = .ok entry) :
    WithinBudget guard.budget ledger entry := by
  obtain ⟨tally, reserved, isTally, isOpen, within⟩ := covered entry settles
  unfold SpendGuard.settlement at settles
  split at settles
  · cases settles
  · split at settles
    · cases settles
      refine ⟨tally, reserved, isTally, isOpen, ?_⟩
      cases reported : usage.bind guard.reportedCost with
      | none => exact le_refl _
      | some usd => exact within usd reported
    · cases settles

/-- Every entry of a covered run is within the budget. -/
theorem grown_of_covered
    {guard : SpendGuard}
    {operations : List (Operation F)}
    (covered : RunCovered guard operations) :
    Grown (WithinBudget guard.budget) (guard.run operations) := by
  induction operations using List.reverseRecOn with
  | nil => exact grown_nil
  | append_singleton operations operation inductionHypothesis =>
      have grown := inductionHypothesis fun before earlier after same =>
        covered before earlier (after ++ [operation]) (by rw [same]; simp)
      have last := covered operations operation [] rfl
      unfold SpendGuard.run at grown last ⊢
      rw [List.foldl_append]
      cases operation with
      | reserve call =>
          show Grown _ (guard.reserve _ call).2
          unfold SpendGuard.reserve
          split
          · exact grown
          · rename_i decided
            exact grown_snoc.mpr ⟨grown, withinBudget_of_decision decided⟩
      | settle reservation status usage =>
          show Grown _ (guard.settle _ reservation status usage).2
          unfold SpendGuard.settle
          split
          · exact grown
          · rename_i settles
            exact grown_snoc.mpr ⟨grown, withinBudget_of_settlement last settles⟩

omit [FloatOps F] in
/-- A ledger within the budget is contained. -/
theorem contained_of_grown
    {guard : SpendGuard}
    {ledger : List (Entry F)}
    (grown : Grown (WithinBudget guard.budget) ledger) : Contained guard ledger := by
  obtain ⟨tally, replay, books, replayed, committed, reserved, spent, fit⟩ :=
    spent_le_of_grown (budget_pos guard).le grown
  refine ⟨⟨tally.committed + unresolved tally.reserved, ?_, spent⟩, ?_, ?_⟩
  · unfold spentUsd
    rw [books.state]
    rfl
  · unfold validateLedger
    have isReplay : replayFrom (budget guard.ceilingUsd guard.subCapUsd) {} ledger =
        .ok replay := replayed
    dsimp only
    rw [isReplay]
    refine ⟨_, rfl, ?_⟩
    dsimp only
    rw [fit, committed, reserved, Bool.true_and]
    exact decide_eq_true spent
  · intro call refusal refused
    unfold SpendGuard.reserve at refused ⊢
    split at refused
    · rfl
    · cases refused

/-- In a run whose settlements are covered by their reservations, every ledger that is
reached is contained. -/
theorem contained_of_covered
    {guard : SpendGuard}
    {operations : List (Operation F)}
    (covered : RunCovered guard operations) :
    ∀ before after, operations = before ++ after → Contained guard (guard.run before) := by
  intro before after same
  refine contained_of_grown (grown_of_covered fun earlier operation later split => ?_)
  exact covered earlier operation (later ++ after) (by rw [same, split]; simp)

/-! ## A guard -/

/-- A guard of two cents a thousand tokens and a cap of two thousandths of a cent. -/
def smallGuard : SpendGuard where
  stage := "t3".toList
  ceilingUsd := 10
  subCapUsd := 1 / 20000
  pricing := { model := "m".toList, inputUsdPerMillion := 1 / 50 }
  subCapPositive := by norm_num
  withinCeiling := by norm_num

/-- A call of a thousand tokens. -/
def thousandTokens : Call where
  kind := "generation".toList
  maxInputTokens := 1000
  payloadSha256 := []
  logicalAttempt := []

/-- A call that settles with a hundred tokens. -/
theorem contained_of_covered_hundred :
    Contained smallGuard (smallGuard.run
      [.reserve thousandTokens, .settle (F := Empty) ⟨"t3-000000".toList, 1 / 25000⟩
        "ok".toList (some [("prompt_tokens".toList, .int 100)])]) := by
  refine contained_of_covered (fun before operation after same => ?_) _ []
    (List.append_nil _).symm
  cases before with
  | nil =>
      cases same
      trivial
  | cons first before =>
      obtain ⟨-, rest⟩ := List.cons.inj same
      cases before with
      | nil =>
          cases same
          refine fun _ _ => ⟨⟨0, [("t3-000000".toList, 1 / 25000)], 1⟩, 1 / 25000,
            by decide +kernel, by decide +kernel, fun usd reported => ?_⟩
          have cost : smallGuard.reportedCost (F := Empty)
              [("prompt_tokens".toList, .int 100)] = some (1 / 500000) := by
            decide +kernel
          rw [Option.bind_some, cost] at reported
          cases reported
          norm_num
      | cons second before =>
          exact absurd (List.cons.inj rest).2.symm
            (List.append_ne_nil_of_right_ne_nil _ (List.cons_ne_nil _ _))

/-- The usage that is reported may cost more than what was reserved. -/
theorem not_contained :
    ¬ ∀ (guard : SpendGuard) (operations : List (Operation Empty)),
      Contained guard (guard.run operations) := by
  intro contained
  have small := contained smallGuard
    [.reserve thousandTokens, .settle ⟨"t3-000000".toList, 1 / 25000⟩ "ok".toList
      (some [("prompt_tokens".toList, .int 5000)])]
  obtain ⟨spent, isSpent, within⟩ := small.spent
  have computed : spentUsd (smallGuard.run [.reserve thousandTokens,
      .settle (F := Empty) ⟨"t3-000000".toList, 1 / 25000⟩ "ok".toList
        (some [("prompt_tokens".toList, .int 5000)])]) = .ok (1 / 10000) := by
    decide +kernel
  rw [computed] at isSpent
  cases isSpent
  exact absurd within (by decide +kernel)

end Spend
end ChatPlatform
