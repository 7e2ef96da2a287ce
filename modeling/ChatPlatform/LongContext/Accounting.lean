import ChatPlatform.LongContext.Budget

/-!
# The budget over whole runs

A sound ledger stays sound under every operation, so the caps hold of every ledger a
run reaches. The attempt of an accepted request fits the attempts before it, and the
caps that were checked for it are the ones of the ledger with it.
-/

namespace ChatPlatform
namespace LongContext

open Growth

variable {ledger : AttemptLedger} {record : AttemptRecord}

/-! ## Recording an attempt -/

/-- The ledger with one more attempt. -/
def AttemptLedger.with
    (ledger : AttemptLedger)
    (record : AttemptRecord) : AttemptLedger :=
  { ledger with records := ledger.records ++ [record] }

/-- An attempt is refused and the ledger is as before, or it is recorded and the ledger
is sound. -/
theorem append_cases (ledger : AttemptLedger) (record : AttemptRecord) :
    (∃ refusal, ledger.append record = (.error refusal, ledger)) ∨
      (ledger.append record = (.ok (), ledger.with record) ∧
        Integrity (ledger.with record)) := by
  unfold AttemptLedger.append
  cases ledger.validateIntegrity with
  | error refusal => exact Or.inl ⟨refusal, rfl⟩
  | ok _ =>
      dsimp only
      cases firstRefusal (ledger.appendChecks record) with
      | error refusal => exact Or.inl ⟨refusal, rfl⟩
      | ok _ =>
          dsimp only
          cases checked : (ledger.with record).validateIntegrity with
          | ok _ =>
              unfold AttemptLedger.with at checked
              rw [checked]
              exact Or.inr ⟨rfl, validateIntegrity_iff.mp checked⟩
          | error refusal =>
              obtain ⟨message, rfl⟩ := blocked_of_validateIntegrity checked
              unfold AttemptLedger.with at checked
              rw [checked]
              refine Or.inl ⟨.blocked message, ?_⟩
              rw [List.dropLast_concat]

/-- An attempt is recorded when the checks before it pass and the ledger with it is
sound. -/
theorem append_eq_ok
    (sound : Integrity ledger)
    (passed : ∀ check ∈ ledger.appendChecks record, check.1 = false)
    (soundAfter : Integrity (ledger.with record)) :
    ledger.append record = (.ok (), ledger.with record) := by
  have after := validateIntegrity_iff.mpr soundAfter
  unfold AttemptLedger.with at after ⊢
  unfold AttemptLedger.append
  rw [validateIntegrity_iff.mpr sound]
  dsimp only
  rw [firstRefusal_eq_ok_iff.mpr passed]
  dsimp only
  rw [after]

/-! ## Cells -/

/-- The attempts of a cell with one more attempt. -/
theorem cellOf_snoc
    {records : List AttemptRecord}
    {cell : Phase × Str × Str} :
    cellOf (records ++ [record]) cell =
      if record.cell = cell then cellOf records cell ++ [record] else cellOf records cell := by
  unfold cellOf
  rw [List.filter_append, List.filter_singleton]
  by_cases same : record.cell = cell
  · simp [same]
  · simp [same]

/-- A cell has two attempts at most. -/
theorem length_cellOf_le
    {records : List AttemptRecord}
    (grown : Grown RecordFits records)
    (cell : Phase × Str × Str) : (cellOf records cell).length ≤ 2 := by
  induction records using List.reverseRecOn with
  | nil => exact Nat.zero_le _
  | append_singleton records record inductionHypothesis =>
      obtain ⟨earlier, fitting⟩ := grown_snoc.mp grown
      rw [cellOf_snoc]
      by_cases same : record.cell = cell
      · rw [if_pos same]
        have ordinal := (checked_of_postInit fitting.accepted).ordinal
        have consecutive := fitting.consecutive
        rw [same] at consecutive
        rw [List.length_append, List.length_singleton]
        omega
      · rw [if_neg same]
        exact inductionHypothesis earlier

/-- The first attempt of a cell is of that cell. -/
private theorem mem_of_head_cellOf
    {records : List AttemptRecord}
    {cell : Phase × Str × Str}
    {first : AttemptRecord}
    (isFirst : (cellOf records cell).head? = some first) :
    first ∈ records ∧ first.cell = cell := by
  have held := List.mem_of_head? isFirst
  unfold cellOf at held
  obtain ⟨held, same⟩ := List.mem_filter.mp held
  exact ⟨held, of_decide_eq_true same⟩

/-- What may be repeated is a first attempt of the confirmatory phase. -/
theorem eq_of_retryIsEligible
    (eligible : retryIsEligible record = true) :
    record.phase = .confirmatory ∧ record.attemptOrdinal = 1 := by
  unfold retryIsEligible at eligible
  simp only [Bool.and_eq_true, decide_eq_true_eq] at eligible
  exact ⟨eligible.1.1.1, eligible.1.1.2⟩

/-- Second attempts are confirmatory. -/
theorem confirmatory_of_retry
    {records : List AttemptRecord}
    (grown : Grown RecordFits records)
    (held : record ∈ records)
    (isSecond : record.attemptOrdinal = 2) : record.phase = .confirmatory := by
  obtain ⟨before, after, same⟩ := List.append_of_mem held
  obtain ⟨first, isFirst, -, eligible⟩ := (grown before record after same).repeats isSecond
  have cells := (mem_of_head_cellOf isFirst).2
  unfold AttemptRecord.cell at cells
  rw [← (eq_of_retryIsEligible eligible).1]
  exact (congrArg Prod.fst cells).symm

/-- The second attempts are those of the confirmatory phase. -/
theorem retries_eq
    (grown : Grown RecordFits ledger.records) :
    ledger.retries =
      (ledger.phaseRecords .confirmatory).filter (·.attemptOrdinal = 2) := by
  unfold AttemptLedger.retries AttemptLedger.phaseRecords
  rw [List.filter_filter]
  refine List.filter_congr fun record held => ?_
  by_cases isSecond : record.attemptOrdinal = 2
  · simp [isSecond, confirmatory_of_retry grown held isSecond]
  · simp [isSecond]

/-- The identifier of the next attempt of a cell is new. -/
theorem attemptId_fresh
    (grown : Grown RecordFits ledger.records)
    (checked : Checked record)
    (consecutive :
      record.attemptOrdinal = (cellOf ledger.records record.cell).length + 1) :
    record.attemptId ∉ ledger.records.map (·.attemptId) := by
  intro held
  obtain ⟨earlier, held, same⟩ := List.mem_map.mp held
  obtain ⟨before, after, split⟩ := List.append_of_mem held
  have fitting := grown before earlier after split
  obtain ⟨cells, ordinals⟩ :=
    attemptId_injective (checked_of_postInit fitting.accepted) checked same
  have ordinal := fitting.consecutive
  rw [ordinals, cells, consecutive, split] at ordinal
  unfold cellOf at ordinal
  rw [List.filter_append, List.filter_cons_of_pos (by rw [cells]; exact decide_eq_true rfl),
    List.length_append, List.length_cons] at ordinal
  omega

/-! ## Accepted requests -/

variable
  {request : DispatchRequest}
  {authorization : AuthorizationState}
  {snapshot : BudgetSnapshot}
  {reservation : DispatchReservation}

/-- How an attempt ended. -/
structure Outcome where
  /-- How it failed. -/
  failureClass : Option Str
  /-- Digest of the parameters. -/
  requestParameterHash : Str
  /-- What the provider reported. -/
  reportedUsageOrNull : Option Usage
  /-- Whether anything of an answer arrived. -/
  responseTokenOrCandidateReceived : Bool
  /-- The status of the response. -/
  httpStatus : Option Int

/-- The outcome is one a record of the request may have. -/
structure Outcome.Consistent
    (outcome : Outcome)
    (request : DispatchRequest) : Prop where
  /-- The digest has its length. -/
  length : outcome.requestParameterHash.length = 64
  /-- The digest is hexadecimal. -/
  hex : outcome.requestParameterHash.all
    (fun c => "0123456789abcdef".toList.contains c) = true
  /-- Usage is within the ceilings. -/
  usage : ∀ usage, outcome.reportedUsageOrNull = some usage →
    usage.inputTokens ≤ request.inputTokenCeiling ∧
      usage.outputTokens ≤ request.outputTokenCeiling
  /-- Tokens that were written were received. -/
  emission : ∀ usage, outcome.reportedUsageOrNull = some usage → 0 < usage.outputTokens →
    outcome.responseTokenOrCandidateReceived = true

/-- The step and arm of a request. -/
def DispatchRequest.cell (request : DispatchRequest) : Phase × Str × Str :=
  (request.phase, request.stepId, request.armId)

/-- The record of a request: it reserves what the request would, and a second attempt
names the first one. -/
def DispatchRequest.attempt
    (request : DispatchRequest)
    (outcome : Outcome)
    (ledger : AttemptLedger) : AttemptRecord where
  stepId := request.stepId
  armId := request.armId
  phase := request.phase
  attemptOrdinal := request.attemptOrdinal
  parentAttemptId :=
    if request.attemptOrdinal = 1 then none
    else (cellOf ledger.records request.cell).head?.map (·.attemptId)
  failureClass := outcome.failureClass
  requestParameterHash := outcome.requestParameterHash
  reportedUsageOrNull := outcome.reportedUsageOrNull
  reservedWorstCaseCost :=
    worstCaseGenerationCost request.inputTokenCeiling request.outputTokenCeiling
  reservedInputTokens := request.inputTokenCeiling
  reservedOutputTokens := request.outputTokenCeiling
  responseTokenOrCandidateReceived := outcome.responseTokenOrCandidateReceived
  httpStatus := outcome.httpStatus

/-- What a request that is accepted passed before the caps. -/
structure Requested
    (request : DispatchRequest)
    (ledger : AttemptLedger) : Prop where
  /-- The phase has requests. -/
  phase : request.phase ≠ .stage0
  /-- A confirmatory request comes after the sample is frozen. -/
  frozen : request.phase = .confirmatory →
    sampleFrozen ledger.confirmatoryConversations = true
  /-- It is of an arm of its phase. -/
  arm : request.armId ∈ allowedArms request.phase
  /-- It reserves what its arm may read. -/
  input : armInputCap request.armId = some request.inputTokenCeiling
  /-- It reserves what may be written. -/
  output : request.outputTokenCeiling = 256
  /-- It is a first or a second attempt. -/
  ordinal : request.attemptOrdinal = 1 ∨ request.attemptOrdinal = 2
  /-- It is the next attempt of its cell. -/
  consecutive :
    request.attemptOrdinal = (cellOf ledger.records request.cell).length + 1
  /-- A second attempt repeats one that may be repeated. -/
  repeats : request.attemptOrdinal = 2 →
    ∃ first, (cellOf ledger.records request.cell).head? = some first ∧
      retryIsEligible first = true

/-- The caps with the request added. -/
structure Allowed
    (request : DispatchRequest)
    (ledger : AttemptLedger)
    (limits : PhaseLimits) : Prop where
  /-- Attempts of the phase. -/
  phaseAttempts : (ledger.phaseRecords request.phase).length + 1 ≤ limits.attempts
  /-- All attempts. -/
  attempts : ledger.records.length + 1 ≤ 1100
  /-- Development repeats nothing. -/
  development : request.phase = .development → request.attemptOrdinal = 1
  /-- First attempts of the confirmatory phase. -/
  firstAttempts : request.phase = .confirmatory →
    ((ledger.phaseRecords request.phase).filter (·.attemptOrdinal = 1)).length +
        (if request.attemptOrdinal = 1 then 1 else 0) ≤
      firstAttemptCap ledger.confirmatoryConversations
  /-- Second attempts. -/
  retries : request.phase = .confirmatory →
    ((ledger.phaseRecords request.phase).filter (·.attemptOrdinal = 2)).length +
      (if request.attemptOrdinal = 2 then 1 else 0) ≤ 76
  /-- Tokens read in the phase. -/
  phaseInput : inputTokens (ledger.phaseRecords request.phase) +
    request.inputTokenCeiling ≤ limits.inputTokens
  /-- Tokens written in the phase. -/
  phaseOutput : outputTokens (ledger.phaseRecords request.phase) +
    request.outputTokenCeiling ≤ limits.outputTokens
  /-- All tokens read. -/
  input : inputTokens ledger.records + request.inputTokenCeiling ≤ 3659776
  /-- All tokens written. -/
  output : outputTokens ledger.records + request.outputTokenCeiling ≤ 281600
  /-- Cost of the phase. -/
  phaseCost : cost (ledger.phaseRecords request.phase) +
    worstCaseGenerationCost request.inputTokenCeiling request.outputTokenCeiling ≤
      limits.cost
  /-- The whole cost. -/
  cost : LongContext.cost ledger.records +
    worstCaseGenerationCost request.inputTokenCeiling request.outputTokenCeiling ≤ 10

/-- The checks of a request establish what it passed. -/
private theorem requested_of_checks
    (phase : request.phase ≠ .stage0)
    (passed : ∀ check ∈ requestChecks request authorization ledger, check.1 = false) :
    Requested request ledger := by
  unfold requestChecks at passed
  simp only [List.forall_mem_cons, decide_eq_false_iff_not] at passed
  obtain ⟨-, -, -, -, -, frozen, -, arm, input, output, ordinal, consecutive, repeats, -⟩ :=
    passed
  refine ⟨phase, fun confirmatory => ?_, not_not.mp arm, not_not.mp input,
    not_not.mp output, ?_, not_not.mp consecutive, fun isSecond => ?_⟩
  · by_contra notFrozen
    exact frozen ⟨confirmatory, by simpa using notFrozen⟩
  · by_contra neither
    exact ordinal (not_or.mp neither)
  · unfold DispatchRequest.cell
    cases isFirst : (cellOf ledger.records
        (request.phase, request.stepId, request.armId)).head? with
    | none => exact absurd ⟨isSecond, Or.inl (List.head?_eq_none_iff.mp isFirst)⟩ repeats
    | some first =>
        rw [isFirst] at repeats
        refine ⟨first, rfl, ?_⟩
        by_contra notEligible
        exact repeats ⟨isSecond, Or.inr (by simpa using notEligible)⟩

/-- The checks of the caps say that they allow the request. -/
private theorem allowed_of_checks
    {limits : PhaseLimits}
    (passed : ∀ check ∈ capChecks request snapshot ledger limits, check.1 = false) :
    Allowed request ledger limits := by
  unfold capChecks at passed
  simp only [List.forall_mem_cons, decide_eq_false_iff_not, not_and, not_lt, not_not]
    at passed
  obtain ⟨phaseAttempts, attempts, development, firstAttempts, retries, phaseInput,
    phaseOutput, input, output, -, phaseCost, cost, -⟩ := passed
  exact ⟨phaseAttempts, attempts, development, firstAttempts, retries, phaseInput,
    phaseOutput, input, output, phaseCost, cost⟩

/-- What an accepted request passed. -/
theorem accepted_cases
    (accepted :
      validatePreDispatch request authorization snapshot ledger = .ok reservation) :
    Requested request ledger ∧
      ∃ limits, phaseLimits request.phase ledger.confirmatoryConversations = some limits ∧
        Allowed request ledger limits := by
  unfold validatePreDispatch at accepted
  by_cases stage0 : request.phase = .stage0
  · rw [if_pos stage0] at accepted
    cases accepted
  · rw [if_neg stage0] at accepted
    cases checked : ledger.validateIntegrity with
    | error refusal =>
        rw [checked] at accepted
        cases accepted
    | ok _ =>
        rw [checked] at accepted
        dsimp only at accepted
        cases requested : firstRefusal
            (requestChecks request authorization ledger ++ moneyChecks snapshot) with
        | error refusal =>
            rw [requested] at accepted
            cases accepted
        | ok _ =>
            have passed := firstRefusal_eq_ok_iff.mp requested
            rw [List.forall_mem_append] at passed
            refine ⟨requested_of_checks stage0 passed.1, ?_⟩
            rw [requested] at accepted
            dsimp only at accepted
            cases limited : phaseLimits request.phase
                ledger.confirmatoryConversations with
            | none =>
                rw [limited] at accepted
                cases accepted
            | some limits =>
                rw [limited] at accepted
                dsimp only at accepted
                cases capped : firstRefusal (capChecks request snapshot ledger limits) with
                | error refusal =>
                    rw [capped] at accepted
                    cases accepted
                | ok _ =>
                    exact ⟨limits, rfl,
                      allowed_of_checks (firstRefusal_eq_ok_iff.mp capped)⟩

/-- What an arm may read is not negative. -/
private theorem armInputCap_nonneg
    {arm : Str}
    {ceiling : Int}
    (isCap : armInputCap arm = some ceiling) : 0 ≤ ceiling := by
  unfold armInputCap at isCap
  simp only [List.lookup_cons, List.lookup_nil] at isCap
  split at isCap
  · cases isCap
    decide
  · split at isCap
    · cases isCap
      decide
    · split at isCap
      · cases isCap
        decide
      · split at isCap
        · cases isCap
          decide
        · cases isCap

/-- An arm has a name. -/
private theorem arm_ne_nil
    {phase : Phase}
    {arm : Str}
    (allowed : arm ∈ allowedArms phase) : arm ≠ [] := by
  rintro rfl
  revert allowed
  cases phase <;> decide

/-- The record of an accepted request passes its own checks. -/
theorem postInit_attempt
    {outcome : Outcome}
    (named : request.stepId ≠ [])
    (requested : Requested request ledger)
    (consistent : outcome.Consistent request) :
    (request.attempt outcome ledger).postInit = .ok () := by
  unfold AttemptRecord.postInit AttemptRecord.checks DispatchRequest.attempt
  rw [firstRefusal_eq_ok_iff]
  simp only [List.forall_mem_cons, decide_eq_false_iff_not]
  have nonneg := armInputCap_nonneg requested.input
  have output := requested.output
  refine ⟨?_, ?_, ?_, ?_, requested.phase, not_not.mpr requested.arm,
    not_not.mpr requested.input, not_not.mpr output, ?_, ?_, not_not.mpr rfl, ?_, ?_,
    fun _ held => absurd held List.not_mem_nil⟩
  · rintro (none | none)
    · exact named none
    · exact arm_ne_nil requested.arm none
  · rintro ⟨notFirst, notSecond⟩
    exact requested.ordinal.elim notFirst notSecond
  · rintro ⟨isFirst, parented⟩
    exact parented (if_pos isFirst)
  · rintro ⟨isSecond, parentless⟩
    obtain ⟨first, isFirst, -⟩ := requested.repeats isSecond
    rw [isSecond, if_neg (by decide), isFirst] at parentless
    cases parentless
  · rintro (wrong | wrong)
    · exact wrong consistent.length
    · rw [consistent.hex] at wrong
      cases wrong
  · omega
  · cases reported : outcome.reportedUsageOrNull with
    | none => rfl
    | some usage =>
        have within := consistent.usage usage reported
        simp only [Option.any_some, Bool.or_eq_false_iff, decide_eq_false_iff_not, not_lt]
        exact within
  · cases reported : outcome.reportedUsageOrNull with
    | none => rfl
    | some usage =>
        by_cases emitted : 0 < usage.outputTokens
        · rw [consistent.emission usage reported emitted, Bool.not_true, Bool.and_false]
        · simp [emitted]

/-- The record of an accepted request fits the attempts before it. -/
theorem recordFits_attempt
    {outcome : Outcome}
    (sound : Integrity ledger)
    (named : request.stepId ≠ [])
    (requested : Requested request ledger)
    (consistent : outcome.Consistent request) :
    RecordFits ledger.records (request.attempt outcome ledger) := by
  have accepted := postInit_attempt named requested consistent
  refine ⟨accepted, ?_, requested.consecutive, ?_⟩
  · exact attemptId_fresh sound.grown (checked_of_postInit accepted) requested.consecutive
  · intro isSecond
    obtain ⟨first, isFirst, eligible⟩ := requested.repeats isSecond
    refine ⟨first, isFirst, ?_, eligible⟩
    unfold DispatchRequest.attempt at isSecond ⊢
    dsimp only at isSecond ⊢
    rw [isSecond, if_neg (by decide), isFirst]
    rfl

/-- A second attempt is confirmatory. -/
private theorem confirmatory_of_second
    {limits : PhaseLimits}
    (requested : Requested request ledger)
    (allowed : Allowed request ledger limits)
    (isSecond : request.attemptOrdinal = 2) : request.phase = .confirmatory := by
  cases isPhase : request.phase with
  | stage0 => exact absurd isPhase requested.phase
  | development =>
      have isFirst := allowed.development isPhase
      rw [isSecond] at isFirst
      exact absurd isFirst (by decide)
  | confirmatory => rfl

/-- What is checked before an attempt is recorded holds of the record of an accepted
request. -/
theorem appendChecks_attempt
    {outcome : Outcome}
    {limits : PhaseLimits}
    (fitting : RecordFits ledger.records (request.attempt outcome ledger))
    (requested : Requested request ledger)
    (allowed : Allowed request ledger limits) :
    ∀ check ∈ ledger.appendChecks (request.attempt outcome ledger), check.1 = false := by
  have checked := checked_of_postInit fitting.accepted
  have attempts := allowed.attempts
  unfold AttemptLedger.appendChecks
  simp only [List.forall_mem_cons, decide_eq_false_iff_not]
  refine ⟨by omega, ?_, not_not.mpr fitting.consecutive, ?_, ?_, ?_, ?_, fitting.fresh,
    fun _ held => absurd held List.not_mem_nil⟩
  · rintro ⟨notFirst, notSecond⟩
    exact checked.ordinal.elim notFirst notSecond
  · rintro ⟨isFirst, parented⟩
    exact parented (checked.parent isFirst)
  · rintro ⟨isSecond, broken⟩
    obtain ⟨first, isFirst, parent, -⟩ := fitting.repeats isSecond
    rw [isFirst] at broken
    rcases broken with none | different
    · rw [none] at isFirst
      cases isFirst
    · exact different parent
  · rintro ⟨isSecond, notEligible⟩
    obtain ⟨first, isFirst, -, eligible⟩ := fitting.repeats isSecond
    rw [isFirst] at notEligible
    simp [eligible] at notEligible
  · rintro ⟨isSecond, full⟩
    have isSecond : request.attemptOrdinal = 2 := isSecond
    have confirmatory := confirmatory_of_second requested allowed isSecond
    have retries := allowed.retries confirmatory
    rw [confirmatory, if_pos isSecond] at retries
    omega

/-- The attempts of a phase with one more attempt. -/
theorem phaseRecords_with {phase : Phase} :
    (ledger.with record).phaseRecords phase =
      if record.phase = phase then ledger.phaseRecords phase ++ [record]
      else ledger.phaseRecords phase := by
  unfold AttemptLedger.phaseRecords AttemptLedger.with
  rw [List.filter_append, List.filter_singleton]
  by_cases same : record.phase = phase
  · simp [same]
  · simp [same]

/-- The attempts of one ordinal with one more attempt. -/
private theorem length_filter_snoc
    {records : List AttemptRecord}
    {ordinal : Int} :
    ((records ++ [record]).filter (·.attemptOrdinal = ordinal)).length =
      (records.filter (·.attemptOrdinal = ordinal)).length +
        if record.attemptOrdinal = ordinal then 1 else 0 := by
  rw [List.filter_append, List.length_append, List.filter_singleton]
  by_cases same : record.attemptOrdinal = ordinal
  · simp [same]
  · simp [same]

/-- Tokens read with one more attempt. -/
theorem inputTokens_snoc {records : List AttemptRecord} :
    inputTokens (records ++ [record]) = inputTokens records + record.reservedInputTokens := by
  simp [inputTokens]

/-- Tokens written with one more attempt. -/
theorem outputTokens_snoc {records : List AttemptRecord} :
    outputTokens (records ++ [record]) =
      outputTokens records + record.reservedOutputTokens := by
  simp [outputTokens]

/-- The cost with one more attempt. -/
theorem cost_snoc {records : List AttemptRecord} :
    cost (records ++ [record]) = cost records + record.reservedWorstCaseCost := by
  simp [cost]

/-- The ledger with the record of an accepted request is sound. -/
theorem integrity_attempt
    {outcome : Outcome}
    {limits : PhaseLimits}
    (sound : Integrity ledger)
    (fitting : RecordFits ledger.records (request.attempt outcome ledger))
    (requested : Requested request ledger)
    (limited : phaseLimits request.phase ledger.confirmatoryConversations = some limits)
    (allowed : Allowed request ledger limits) :
    Integrity (ledger.with (request.attempt outcome ledger)) := by
  have ofPhase : (request.attempt outcome ledger).phase = request.phase := rfl
  have ofOrdinal :
      (request.attempt outcome ledger).attemptOrdinal = request.attemptOrdinal := rfl
  have grown : Grown RecordFits (ledger.with (request.attempt outcome ledger)).records :=
    grown_snoc.mpr ⟨sound.grown, fitting⟩
  refine ⟨sound.sample, grown, ?_, ?_, ?_, ?_, ?_, ?_, ?_, ?_⟩
  · unfold AttemptLedger.with
    rw [List.length_append, List.length_singleton]
    exact allowed.attempts
  · rw [retries_eq grown, phaseRecords_with, ofPhase]
    by_cases confirmatory : request.phase = .confirmatory
    · have retries := allowed.retries confirmatory
      rw [confirmatory] at retries
      rw [if_pos confirmatory, length_filter_snoc, ofOrdinal]
      exact retries
    · rw [if_neg confirmatory, ← retries_eq sound.grown]
      exact sound.retries
  · intro someConfirmatory
    unfold AttemptLedger.with at someConfirmatory ⊢
    dsimp only at someConfirmatory ⊢
    rw [List.any_append, Bool.or_eq_true] at someConfirmatory
    rcases someConfirmatory with earlier | this
    · exact sound.frozen earlier
    · exact requested.frozen (by simpa [ofPhase] using this)
  · intro phase nonempty
    rw [phaseRecords_with, ofPhase] at nonempty ⊢
    by_cases same : request.phase = phase
    · subst same
      rw [if_pos rfl]
      refine ⟨limits, limited, ?_, ?_, ?_, ?_⟩
      · rw [List.length_append]
        exact allowed.phaseAttempts
      · rw [inputTokens_snoc]
        exact allowed.phaseInput
      · rw [outputTokens_snoc]
        exact allowed.phaseOutput
      · rw [cost_snoc]
        exact allowed.phaseCost
    · rw [if_neg same] at nonempty ⊢
      exact sound.phases phase nonempty
  · intro frozen
    have before := sound.firstAttempts frozen
    unfold AttemptLedger.firstAttempts at before ⊢
    rw [phaseRecords_with, ofPhase]
    by_cases confirmatory : request.phase = .confirmatory
    · have firstAttempts := allowed.firstAttempts confirmatory
      rw [confirmatory] at firstAttempts
      rw [if_pos confirmatory, length_filter_snoc, ofOrdinal]
      exact firstAttempts
    · rw [if_neg confirmatory]
      exact before
  · unfold AttemptLedger.with
    rw [inputTokens_snoc]
    exact allowed.input
  · unfold AttemptLedger.with
    rw [outputTokens_snoc]
    exact allowed.output
  · unfold AttemptLedger.with
    rw [cost_snoc]
    exact allowed.cost

/-- The attempt of an accepted request can be recorded. -/
theorem append_attempt
    {outcome : Outcome}
    (sound : Integrity ledger)
    (named : request.stepId ≠ [])
    (consistent : outcome.Consistent request)
    (accepted :
      validatePreDispatch request authorization snapshot ledger = .ok reservation) :
    (request.attempt outcome ledger).postInit = .ok () ∧
      ledger.append (request.attempt outcome ledger) =
        (.ok (), ledger.with (request.attempt outcome ledger)) := by
  obtain ⟨requested, limits, limited, allowed⟩ := accepted_cases accepted
  have fitting := recordFits_attempt sound named requested consistent
  refine ⟨fitting.accepted, ?_⟩
  exact append_eq_ok sound (appendChecks_attempt fitting requested allowed)
    (integrity_attempt sound fitting requested limited allowed)

/-! ## Runs -/

/-- What is done with a ledger. -/
inductive Operation
  /-- The sample is frozen. -/
  | freeze (conversations : Int)
  /-- A request is checked. -/
  | validate
      (request : DispatchRequest)
      (authorization : AuthorizationState)
      (snapshot : BudgetSnapshot)
  /-- An attempt is recorded. -/
  | append (record : AttemptRecord)

/-- The ledger after an operation. -/
def Operation.apply (ledger : AttemptLedger) : Operation → AttemptLedger
  | .freeze conversations =>
      match ledger.freezeConfirmatorySample conversations with
      | .ok frozen => frozen
      | .error _ => ledger
  | .validate _ _ _ => ledger
  | .append record => (ledger.append record).2

/-- The ledger after some operations, from an empty one. -/
def run (operations : List Operation) : AttemptLedger :=
  operations.foldl Operation.apply {}

/-- The empty ledger is sound. -/
private theorem integrity_empty : Integrity {} where
  sample := Or.inl rfl
  grown := grown_nil
  attempts := by decide
  retries := by decide
  frozen := fun some => nomatch some
  phases := fun _ nonempty => absurd rfl nonempty
  firstAttempts := fun some => nomatch some
  input := by decide
  output := by decide
  cost := by simp [LongContext.cost]

/-- A ledger whose sample is frozen is as sound as before. -/
theorem integrity_freeze
    {conversations : Int}
    {frozen : AttemptLedger}
    (sound : Integrity ledger)
    (freezes : ledger.freezeConfirmatorySample conversations = .ok frozen) :
    Integrity frozen := by
  unfold AttemptLedger.freezeConfirmatorySample at freezes
  split at freezes
  · cases freezes
  · rename_i passed
    cases freezes
    have passed := firstRefusal_eq_ok_iff.mp passed
    simp only [List.forall_mem_cons, Bool.not_eq_false'] at passed
    obtain ⟨isSample, none, -⟩ := passed
    have empty : ledger.phaseRecords .confirmatory = [] := by
      unfold AttemptLedger.phaseRecords
      refine List.filter_eq_nil_iff.mpr fun record held confirmatory => ?_
      rw [List.any_eq_false] at none
      exact none record held confirmatory
    refine ⟨Or.inr isSample, sound.grown, sound.attempts, sound.retries,
      fun _ => isSample, ?_, ?_, sound.input, sound.output, sound.cost⟩
    · intro phase nonempty
      cases phase with
      | stage0 => exact sound.phases .stage0 nonempty
      | development => exact sound.phases .development nonempty
      | confirmatory => exact absurd empty nonempty
    · intro _
      have no : ledger.firstAttempts = [] := by
        unfold AttemptLedger.firstAttempts
        rw [empty]
        rfl
      exact (congrArg List.length no).trans_le (Nat.zero_le _)

/-- Every operation keeps a ledger sound. -/
theorem integrity_apply
    (sound : Integrity ledger)
    (operation : Operation) : Integrity (operation.apply ledger) := by
  cases operation with
  | freeze conversations =>
      unfold Operation.apply
      dsimp only
      cases freezes : ledger.freezeConfirmatorySample conversations with
      | error refusal => exact sound
      | ok frozen => exact integrity_freeze sound freezes
  | validate => exact sound
  | append record =>
      unfold Operation.apply
      dsimp only
      rcases append_cases ledger record with ⟨refusal, refused⟩ | ⟨recorded, soundAfter⟩
      · rw [refused]
        exact sound
      · rw [recorded]
        exact soundAfter

/-- Every ledger a run reaches is sound. -/
theorem integrity_run (operations : List Operation) : Integrity (run operations) := by
  unfold run
  induction operations using List.reverseRecOn with
  | nil => exact integrity_empty
  | append_singleton operations operation inductionHypothesis =>
      rw [List.foldl_append]
      exact integrity_apply inductionHypothesis operation

/-! ## The budget is kept -/

/-- The caps of a ledger. -/
structure WithinBudget (ledger : AttemptLedger) : Prop where
  /-- The caps of the phases; a phase without caps has no attempts. -/
  phases : ∀ phase,
    match phaseLimits phase ledger.confirmatoryConversations with
    | some limits => PhaseWithin limits (ledger.phaseRecords phase)
    | none => ledger.phaseRecords phase = []
  /-- First attempts of the confirmatory phase. -/
  firstAttempts :
    ledger.firstAttempts.length ≤ firstAttemptCap ledger.confirmatoryConversations
  /-- Second attempts. -/
  retries : ledger.retries.length ≤ 76
  /-- All attempts. -/
  attempts : ledger.records.length ≤ 1100
  /-- All tokens read. -/
  input : inputTokens ledger.records ≤ 3659776
  /-- All tokens written. -/
  output : outputTokens ledger.records ≤ 281600
  /-- The whole cost. -/
  cost : LongContext.cost ledger.records ≤ 10
  /-- Two attempts of a cell. -/
  cells : ∀ cell, (cellOf ledger.records cell).length ≤ 2
  /-- A second attempt comes after a first one of its cell that may be repeated. -/
  repeats : ∀ before record after, ledger.records = before ++ record :: after →
    record.attemptOrdinal ≠ 1 →
      ∃ first ∈ before, first.cell = record.cell ∧ first.attemptOrdinal = 1 ∧
        record.parentAttemptId = some first.attemptId ∧ retryIsEligible first = true

/-- A sound ledger is within its budget. -/
theorem withinBudget_of_integrity (sound : Integrity ledger) : WithinBudget ledger where
  phases := by
    intro phase
    by_cases empty : ledger.phaseRecords phase = []
    · cases limited : phaseLimits phase ledger.confirmatoryConversations with
      | none => exact empty
      | some limits =>
          dsimp only
          rw [empty]
          refine ⟨Nat.zero_le _, ?_, ?_, ?_⟩ <;>
          · unfold phaseLimits at limited
            cases phase with
            | stage0 =>
                cases limited
                simp [inputTokens, outputTokens, LongContext.cost]
            | development =>
                cases limited
                simp [inputTokens, outputTokens, LongContext.cost]
            | confirmatory =>
                dsimp only at limited
                split at limited
                · cases limited
                  simp [inputTokens, outputTokens, LongContext.cost]
                · split at limited
                  · cases limited
                    simp [inputTokens, outputTokens, LongContext.cost]
                  · cases limited
    · obtain ⟨limits, limited, within⟩ := sound.phases phase empty
      rw [limited]
      exact within
  firstAttempts := by
    by_cases frozen : sampleFrozen ledger.confirmatoryConversations = true
    · exact sound.firstAttempts frozen
    · have empty : ledger.firstAttempts = [] := by
        unfold AttemptLedger.firstAttempts AttemptLedger.phaseRecords
        rw [List.filter_filter]
        refine List.filter_eq_nil_iff.mpr fun record held isFirst => frozen ?_
        simp only [Bool.and_eq_true] at isFirst
        exact sound.frozen (List.any_eq_true.mpr ⟨record, held, isFirst.2⟩)
      rw [empty]
      exact Nat.zero_le _
  retries := sound.retries
  attempts := sound.attempts
  input := sound.input
  output := sound.output
  cost := sound.cost
  cells := length_cellOf_le sound.grown
  repeats := by
    intro before record after same notFirst
    have fitting := sound.grown before record after same
    have isSecond :=
      (checked_of_postInit fitting.accepted).ordinal.resolve_left notFirst
    obtain ⟨first, isFirst, parent, eligible⟩ := fitting.repeats isSecond
    obtain ⟨held, cells⟩ := mem_of_head_cellOf isFirst
    exact ⟨first, held, cells, (eq_of_retryIsEligible eligible).2, parent, eligible⟩

/-- The two checks of a ledger agree, and its budget is kept. -/
structure BudgetGuarded (ledger : AttemptLedger) : Prop where
  /-- What was accepted can be recorded. -/
  recorded : ∀ request authorization snapshot reservation outcome,
    request.stepId ≠ [] →
    Outcome.Consistent outcome request →
    validatePreDispatch request authorization snapshot ledger = .ok reservation →
      (request.attempt outcome ledger).postInit = .ok () ∧
        ledger.append (request.attempt outcome ledger) =
          (.ok (), ledger.with (request.attempt outcome ledger))
  /-- What is refused changes nothing. -/
  unchanged : ∀ record refusal, (ledger.append record).1 = .error refusal →
    (ledger.append record).2 = ledger
  /-- The caps hold. -/
  within : WithinBudget ledger

/-- In every run the two checks agree and the budget is kept. -/
theorem budgetGuarded_run (operations : List Operation) :
    BudgetGuarded (run operations) where
  recorded := fun _ _ _ _ _ named consistent accepted =>
    append_attempt (integrity_run operations) named consistent accepted
  unchanged := by
    intro record refusal refused
    rcases append_cases (run operations) record with ⟨_, unchanged⟩ | ⟨recorded, -⟩
    · rw [unchanged]
    · rw [recorded] at refused
      cases refused
  within := withinBudget_of_integrity (integrity_run operations)

/-- An empty ledger accepts a request of the development phase. -/
example :
    (validatePreDispatch
      { phase := .development
        operation := "openai_generation".toList
        armId := "A".toList
        inputTokenCeiling := 512
        outputTokenCeiling := 256 }
      ⟨true, false, true, true⟩
      ⟨some (.finite 5), some (.finite 0), some (.finite 0), some false⟩
      {}).toOption.isSome = true := by
  decide +kernel

end LongContext
end ChatPlatform
