import ChatPlatform.LongContext.Guards
import Mathlib.Tactic.Linarith

/-!
# The two checks of the budget agree

What an accepted request would reserve can be recorded, an attempt that cannot be
recorded leaves the ledger as it was, and every ledger the operations reach respects
every cap. The check of the whole ledger is a statement about it; a record fits the
ones before it, and the caps are sums.
-/

namespace ChatPlatform
namespace LongContext

open Growth

/-! ## Records -/

/-- What the checks of a record establish. -/
structure Checked (record : AttemptRecord) : Prop where
  /-- It names a step. -/
  stepId : record.stepId ≠ []
  /-- It is a first or a second attempt. -/
  ordinal : record.attemptOrdinal = 1 ∨ record.attemptOrdinal = 2
  /-- A first attempt has no parent. -/
  parent : record.attemptOrdinal = 1 → record.parentAttemptId = none
  /-- It is of an arm of its phase. -/
  arm : record.armId ∈ allowedArms record.phase

/-- The checks of a record establish that. -/
theorem checked_of_postInit
    {record : AttemptRecord}
    (accepted : record.postInit = .ok ()) : Checked record := by
  have passed := firstRefusal_eq_ok_iff.mp accepted
  unfold AttemptRecord.checks at passed
  simp only [List.forall_mem_cons, decide_eq_false_iff_not] at passed
  obtain ⟨named, ordinal, parent, -, -, arm, -⟩ := passed
  constructor
  · exact fun none => named (Or.inl none)
  · by_contra neither
    exact ordinal (not_or.mp neither)
  · intro isFirst
    by_contra some
    exact parent ⟨isFirst, some⟩
  · exact not_not.mp arm

/-- The names of phases and arms have no colon in them. -/
private theorem colon_not_mem_arm
    {phase : Phase}
    {arm : Str}
    (allowed : arm ∈ allowedArms phase) : ':' ∉ arm := by
  have all : ∀ phase, ∀ arm ∈ allowedArms phase, (arm.contains ':') = false := by
    intro phase
    cases phase <;> decide
  intro held
  have free := all phase arm allowed
  rw [List.contains_iff_mem.mpr held] at free
  cases free

/-- The identifier of an attempt tells its cell and its ordinal. -/
theorem attemptId_injective
    {record other : AttemptRecord}
    (checked : Checked record)
    (otherChecked : Checked other)
    (same : record.attemptId = other.attemptId) :
    record.cell = other.cell ∧ record.attemptOrdinal = other.attemptOrdinal := by
  have phaseFree : ∀ phase : Phase, ':' ∉ phase.value := by
    intro phase
    cases phase <;> decide
  have ordinalFree : ∀ ordinal : Int, ordinal = 1 ∨ ordinal = 2 →
      ':' ∉ (toString ordinal).toList := by
    rintro ordinal (rfl | rfl)
    · decide
    · decide
  unfold AttemptRecord.attemptId at same
  simp only [List.append_assoc, List.cons_append] at same
  obtain ⟨phases, rests⟩ := Text.separated_left (phaseFree _) (phaseFree _) same
  rw [← List.cons_append, ← List.append_assoc, ← List.cons_append, ← List.append_assoc]
    at rests
  obtain ⟨named, ordinals⟩ := Text.separated_right (ordinalFree _ checked.ordinal)
    (ordinalFree _ otherChecked.ordinal) rests
  obtain ⟨steps, arms⟩ := Text.separated_right (colon_not_mem_arm checked.arm)
    (colon_not_mem_arm otherChecked.arm) named
  have phasesSame : record.phase = other.phase := by
    revert phases
    cases record.phase <;> cases other.phase <;> decide
  refine ⟨by unfold AttemptRecord.cell; rw [phasesSame, steps, arms], ?_⟩
  rcases checked.ordinal with one | two <;> rcases otherChecked.ordinal with one' | two'
  · rw [one, one']
  · rw [one, two'] at ordinals
    exact absurd ordinals (by decide)
  · rw [two, one'] at ordinals
    exact absurd ordinals (by decide)
  · rw [two, two']

/-- A record fits the ones before it. -/
structure RecordFits (before : List AttemptRecord) (record : AttemptRecord) : Prop where
  /-- It passes its own checks. -/
  accepted : record.postInit = .ok ()
  /-- It has an identifier of its own. -/
  fresh : record.attemptId ∉ before.map (·.attemptId)
  /-- It is the next attempt of its cell. -/
  consecutive : record.attemptOrdinal = (cellOf before record.cell).length + 1
  /-- A second attempt repeats the first one of its cell, which failed so that it may
  be repeated. -/
  repeats : record.attemptOrdinal = 2 →
    ∃ first, (cellOf before record.cell).head? = some first ∧
      record.parentAttemptId = some first.attemptId ∧ retryIsEligible first = true

/-- The checks of a record in its ledger say that it fits. -/
theorem recordChecks_iff
    {before : List AttemptRecord}
    {record : AttemptRecord} :
    (∀ check ∈ AttemptLedger.recordChecks before record, check.1 = false) ↔
      RecordFits before record := by
  unfold AttemptLedger.recordChecks
  simp only [List.forall_mem_cons, decide_eq_false_iff_not, List.not_mem_nil,
    false_implies, implies_true, and_true]
  constructor
  · rintro ⟨accepted, -, -, fresh, consecutive, orphan, ineligible⟩
    refine ⟨not_not.mp accepted, fresh, not_not.mp consecutive, fun isSecond => ?_⟩
    cases isFirst : (cellOf before record.cell).head? with
    | none => exact absurd ⟨isSecond, Or.inl (List.head?_eq_none_iff.mp isFirst)⟩ orphan
    | some first =>
        rw [isFirst] at orphan ineligible
        refine ⟨first, rfl, ?_, ?_⟩
        · by_contra different
          exact orphan ⟨isSecond, Or.inr different⟩
        · by_contra notEligible
          exact ineligible ⟨isSecond, by simpa using notEligible⟩
  · intro fitting
    have checked := checked_of_postInit fitting.accepted
    refine ⟨not_not.mpr fitting.accepted, ?_, ?_, fitting.fresh,
      not_not.mpr fitting.consecutive, ?_, ?_⟩
    · rintro ⟨notFirst, notSecond⟩
      exact checked.ordinal.elim notFirst notSecond
    · rintro ⟨isFirst, some⟩
      exact some (checked.parent isFirst)
    · rintro ⟨isSecond, broken⟩
      obtain ⟨first, isFirst, parent, -⟩ := fitting.repeats isSecond
      rcases broken with none | different
      · rw [none] at isFirst
        cases isFirst
      · rw [isFirst] at different
        exact different parent
    · rintro ⟨isSecond, notEligible⟩
      obtain ⟨first, isFirst, -, eligible⟩ := fitting.repeats isSecond
      rw [isFirst] at notEligible
      simp [eligible] at notEligible

/-- The checks of the records say that each fits the ones before it. -/
theorem loopChecks_iff
    {before records : List AttemptRecord} :
    (∀ check ∈ AttemptLedger.loopChecks before records, check.1 = false) ↔
      ∀ front record rest, records = front ++ record :: rest →
        RecordFits (before ++ front) record := by
  induction records generalizing before with
  | nil =>
      refine iff_of_true (fun _ held => absurd held List.not_mem_nil) ?_
      intro front record rest same
      exact absurd same.symm (List.append_ne_nil_of_right_ne_nil _ (List.cons_ne_nil _ _))
  | cons record records inductionHypothesis =>
      unfold AttemptLedger.loopChecks
      simp only [List.mem_append, or_imp, forall_and]
      rw [recordChecks_iff, inductionHypothesis]
      constructor
      · rintro ⟨first, others⟩ front another rest same
        cases front with
        | nil =>
            cases same
            rw [List.append_nil]
            exact first
        | cons _ front =>
            obtain ⟨rfl, shorter⟩ := List.cons_eq_cons.mp same
            have fitting := others front another rest shorter
            rwa [List.append_assoc] at fitting
      · intro all
        refine ⟨by simpa using all [] record records rfl, ?_⟩
        intro front another rest same
        rw [List.append_assoc]
        exact all (record :: front) another rest (by rw [same]; rfl)

/-! ## The whole ledger -/

/-- The attempts of a phase respect its caps. -/
structure PhaseWithin
    (limits : PhaseLimits)
    (records : List AttemptRecord) : Prop where
  /-- Attempts. -/
  attempts : records.length ≤ limits.attempts
  /-- Tokens read. -/
  input : inputTokens records ≤ limits.inputTokens
  /-- Tokens written. -/
  output : outputTokens records ≤ limits.outputTokens
  /-- Cost. -/
  cost : LongContext.cost records ≤ limits.cost

/-- What the check of the whole ledger says. -/
structure Integrity (ledger : AttemptLedger) : Prop where
  /-- The sample is not frozen or has one of two sizes. -/
  sample : ledger.confirmatoryConversations = none ∨
    sampleFrozen ledger.confirmatoryConversations = true
  /-- Every record fits the ones before it. -/
  grown : Grown RecordFits ledger.records
  /-- All attempts. -/
  attempts : ledger.records.length ≤ 1100
  /-- Second attempts. -/
  retries : ledger.retries.length ≤ 76
  /-- Confirmatory attempts come after the sample is frozen. -/
  frozen : ledger.records.any (·.phase = .confirmatory) = true →
    sampleFrozen ledger.confirmatoryConversations = true
  /-- The caps of the phases. -/
  phases : ∀ phase, ledger.phaseRecords phase ≠ [] →
    ∃ limits, phaseLimits phase ledger.confirmatoryConversations = some limits ∧
      PhaseWithin limits (ledger.phaseRecords phase)
  /-- First attempts of the confirmatory phase. -/
  firstAttempts : sampleFrozen ledger.confirmatoryConversations = true →
    ledger.firstAttempts.length ≤ firstAttemptCap ledger.confirmatoryConversations
  /-- All tokens read. -/
  input : inputTokens ledger.records ≤ 3659776
  /-- All tokens written. -/
  output : outputTokens ledger.records ≤ 281600
  /-- The whole cost. -/
  cost : LongContext.cost ledger.records ≤ 10

/-- The checks of a phase say that it respects its caps. -/
private theorem phaseChecks_iff {ledger : AttemptLedger} {phase : Phase} :
    (∀ check ∈ ledger.phaseChecks phase, check.1 = false) ↔
      (ledger.phaseRecords phase ≠ [] →
        ∃ limits, phaseLimits phase ledger.confirmatoryConversations = some limits ∧
          PhaseWithin limits (ledger.phaseRecords phase)) := by
  unfold AttemptLedger.phaseChecks
  by_cases empty : ledger.phaseRecords phase = []
  · simp [empty]
  · dsimp only
    rw [if_neg empty, forall_prop_of_true empty]
    cases phaseLimits phase ledger.confirmatoryConversations with
    | none => simp
    | some limits =>
        simp only [List.forall_mem_cons, decide_eq_false_iff_not, not_lt, List.not_mem_nil,
          false_implies, implies_true, and_true, Option.some.injEq, exists_eq_left']
        exact ⟨fun ⟨attempts, input, output, cost⟩ => ⟨attempts, input, output, cost⟩,
          fun within => ⟨within.attempts, within.input, within.output, within.cost⟩⟩

/-- The check of the ledger passes exactly when the ledger is sound. -/
theorem validateIntegrity_iff {ledger : AttemptLedger} :
    ledger.validateIntegrity = .ok () ↔ Integrity ledger := by
  unfold AttemptLedger.validateIntegrity AttemptLedger.integrityChecks
  rw [firstRefusal_eq_ok_iff]
  simp only [List.forall_mem_append, List.forall_mem_flatMap, phaseChecks_iff]
  rw [loopChecks_iff]
  unfold AttemptLedger.sampleChecks AttemptLedger.countChecks AttemptLedger.totalChecks
  simp only [List.forall_mem_cons, decide_eq_false_iff_not, not_and, not_lt,
    List.not_mem_nil, false_implies, implies_true, and_true, List.nil_append,
    Bool.not_eq_true', ne_eq, Bool.not_eq_false]
  constructor
  · rintro ⟨⟨⟨⟨sample, grown⟩, attempts, retries, frozen⟩, stage0, development,
      confirmatory⟩, firstAttempts, input, output, cost⟩
    refine ⟨?_, grown, attempts, retries, frozen, ?_, firstAttempts, input, output, cost⟩
    · by_cases none : ledger.confirmatoryConversations = none
      · exact Or.inl none
      · exact Or.inr (sample none)
    · intro phase
      cases phase with
      | stage0 => exact stage0
      | development => exact development
      | confirmatory => exact confirmatory
  · intro sound
    exact ⟨⟨⟨⟨fun some => sound.sample.resolve_left some, sound.grown⟩, sound.attempts,
      sound.retries, sound.frozen⟩, sound.phases .stage0, sound.phases .development,
      sound.phases .confirmatory⟩, sound.firstAttempts, sound.input, sound.output,
      sound.cost⟩

/-- The check of the ledger raises nothing but refusals. -/
theorem blocked_of_validateIntegrity
    {ledger : AttemptLedger}
    {refusal : GuardError}
    (refused : ledger.validateIntegrity = .error refusal) :
    ∃ message, refusal = .blocked message := by
  have loop : ∀ records before, ∀ check ∈ AttemptLedger.loopChecks before records,
      ∃ message, check.2 = .blocked message := by
    intro records
    induction records with
    | nil => exact fun _ _ held => absurd held List.not_mem_nil
    | cons record rest inductionHypothesis =>
        intro before
        unfold AttemptLedger.loopChecks
        rw [List.forall_mem_append]
        refine ⟨?_, inductionHypothesis _⟩
        simp [AttemptLedger.recordChecks, blocked]
  have phase : ∀ phase, ∀ check ∈ ledger.phaseChecks phase,
      ∃ message, check.2 = .blocked message := by
    intro phase check held
    unfold AttemptLedger.phaseChecks at held
    dsimp only at held
    split at held
    · exact absurd held List.not_mem_nil
    · revert check
      split <;> simp [blocked]
  have ends : ∀ check ∈ ledger.sampleChecks ++ ledger.countChecks ++ ledger.totalChecks,
      ∃ message, check.2 = .blocked message := by
    simp [AttemptLedger.sampleChecks, AttemptLedger.countChecks,
      AttemptLedger.totalChecks, blocked]
  have held := mem_of_firstRefusal refused
  unfold AttemptLedger.integrityChecks at held
  simp only [List.mem_append, List.mem_flatMap] at held
  rcases held with (((inSample | inLoop) | inCount) | ⟨_, -, inPhase⟩) | inTotal
  · exact ends _ (List.mem_append_left _ (List.mem_append_left _ inSample))
  · exact loop _ _ _ inLoop
  · exact ends _ (List.mem_append_left _ (List.mem_append_right _ inCount))
  · exact phase _ _ inPhase
  · exact ends _ (List.mem_append_right _ inTotal)

end LongContext
end ChatPlatform
