import ChatPlatform.Foundation.Growth
import ChatPlatform.Foundation.Text
import Mathlib.Algebra.Ring.Int.Defs
import Mathlib.Algebra.Ring.Rat

/-!
# The budget of the long-context experiment

A ledger of attempts, the check that runs before a request is dispatched, and the
check of the whole ledger that runs before and after an attempt is recorded. The caps
are written twice, once for what would be and once for what is.
-/

namespace ChatPlatform
namespace LongContext

open Growth

/-- The phases of the experiment. -/
inductive Phase
  | stage0
  | development
  | confirmatory
  deriving DecidableEq, Repr

/-- The name of a phase. -/
def Phase.value : Phase → Str
  | .stage0 => "stage_0".toList
  | .development => "development".toList
  | .confirmatory => "confirmatory".toList

/-- What the guards raise. -/
inductive GuardError
  /-- A dispatch or an accounting operation failed closed. -/
  | blocked (message : Str)
  /-- A value is not one. -/
  | value (message : Str)
  deriving DecidableEq, Repr

/-- A refusal of the guards. -/
def blocked (message : String) : GuardError := .blocked message.toList

/-- Input ceilings by arm. -/
def armInputCap (arm : Str) : Option Int :=
  ([("A".toList, 512), ("B".toList, 4608), ("E-BM25".toList, 4608),
    ("ORACLE-GOLD".toList, 3072)] : List (Str × Int)).lookup arm

/-- The arms of a phase. -/
def allowedArms (phase : Phase) : List Str :=
  ["A".toList, "B".toList, "E-BM25".toList] ++
    if phase = .development then ["ORACLE-GOLD".toList] else []

/-- The failures before the first byte after which a retry is allowed. -/
def eligibleTransportFailures : List Str :=
  ["timeout_before_first_response_byte_or_token".toList,
    "connection_reset_before_first_response_byte_or_token".toList,
    "premature_eof_before_first_response_byte_or_token".toList]

/-- The statuses after which a retry is allowed. -/
def eligibleHttpStatuses : List Int := [408, 429, 500, 502, 503, 504]

/-- Price of the tokens of a request, in dollars. -/
def worstCaseGenerationCost (inputTokens outputTokens : Int) : ℚ :=
  (inputTokens * (15 / 100) + outputTokens * (60 / 100)) / 1000000

/-! ## Records -/

/-- Tokens a provider reported. -/
structure Usage where
  /-- Tokens read. -/
  inputTokens : Nat
  /-- Tokens written. -/
  outputTokens : Nat
  deriving DecidableEq

/-- One attempt. -/
structure AttemptRecord where
  /-- The step. -/
  stepId : Str
  /-- The arm. -/
  armId : Str
  /-- The phase. -/
  phase : Phase
  /-- First or second attempt. -/
  attemptOrdinal : Int
  /-- The attempt this one repeats. -/
  parentAttemptId : Option Str
  /-- How it failed. -/
  failureClass : Option Str
  /-- Digest of the parameters. -/
  requestParameterHash : Str
  /-- What the provider reported. -/
  reportedUsageOrNull : Option Usage
  /-- What was reserved, in dollars. -/
  reservedWorstCaseCost : ℚ
  /-- Tokens reserved for reading. -/
  reservedInputTokens : Int
  /-- Tokens reserved for writing. -/
  reservedOutputTokens : Int
  /-- Whether anything of an answer arrived. -/
  responseTokenOrCandidateReceived : Bool := false
  /-- The status of the response. -/
  httpStatus : Option Int := none
  deriving DecidableEq

namespace AttemptRecord

/-- The checks a record makes when it is built. -/
def checks (record : AttemptRecord) : List (Bool × GuardError) :=
  [(record.stepId = [] ∨ record.armId = [],
      .value "step_id and arm_id must be non-empty".toList),
    (record.attemptOrdinal ≠ 1 ∧ record.attemptOrdinal ≠ 2,
      blocked "a step-arm cell permits at most two attempts"),
    (record.attemptOrdinal = 1 ∧ record.parentAttemptId ≠ none,
      blocked "first attempts cannot have a parent"),
    (record.attemptOrdinal = 2 ∧ record.parentAttemptId = none,
      blocked "retry attempts require their first-attempt parent"),
    (record.phase = .stage0,
      blocked "Stage 0 cannot contain external attempt records"),
    (record.armId ∉ allowedArms record.phase,
      blocked "attempt record uses an arm unavailable in its phase"),
    (armInputCap record.armId ≠ some record.reservedInputTokens,
      blocked "attempt record must reserve the frozen arm input ceiling"),
    (record.reservedOutputTokens ≠ 256,
      blocked "attempt record must reserve the frozen output ceiling"),
    (record.requestParameterHash.length ≠ 64 ∨
        !record.requestParameterHash.all fun c => "0123456789abcdef".toList.contains c,
      .value "request_parameter_hash must be lowercase SHA-256 hex".toList),
    (record.reservedInputTokens < 0 ∨ record.reservedOutputTokens < 0,
      .value "reserved tokens must be non-negative integers".toList),
    (record.reservedWorstCaseCost ≠
        worstCaseGenerationCost record.reservedInputTokens record.reservedOutputTokens,
      .value "reserved cost must equal the frozen worst-case price".toList),
    (record.reportedUsageOrNull.any fun usage =>
        record.reservedInputTokens < usage.inputTokens ||
          record.reservedOutputTokens < usage.outputTokens,
      blocked "reported usage exceeded its reserved token ceilings"),
    (record.reportedUsageOrNull.any (0 < ·.outputTokens) &&
        !record.responseTokenOrCandidateReceived,
      blocked "nonzero output usage proves response emission")]

/-- Check a record. -/
def postInit (record : AttemptRecord) : Except GuardError Unit := firstRefusal record.checks

/-- Identifier of an attempt. -/
def attemptId (record : AttemptRecord) : Str :=
  record.phase.value ++ ':' :: record.stepId ++ ':' :: record.armId ++ ':' ::
    (toString record.attemptOrdinal).toList

/-- The step and arm of a phase. -/
def cell (record : AttemptRecord) : Phase × Str × Str :=
  (record.phase, record.stepId, record.armId)

end AttemptRecord

/-- A failed attempt may be repeated once. -/
def retryIsEligible (record : AttemptRecord) : Bool :=
  record.phase = .confirmatory && record.attemptOrdinal = 1 &&
    !record.responseTokenOrCandidateReceived &&
    (record.failureClass.any (eligibleTransportFailures.contains ·) ||
      (record.failureClass = some "eligible_http_status".toList &&
        record.httpStatus.any (eligibleHttpStatuses.contains ·)))

/-! ## The ledger -/

/-- The attempts, and the frozen number of conversations. -/
structure AttemptLedger where
  /-- The attempts in order. -/
  records : List AttemptRecord := []
  /-- The number of conversations. -/
  confirmatoryConversations : Option Int := none
  deriving DecidableEq

/-- The caps of a phase. -/
structure PhaseLimits where
  /-- Attempts. -/
  attempts : Nat
  /-- Tokens read. -/
  inputTokens : Int
  /-- Tokens written. -/
  outputTokens : Int
  /-- Cost in dollars. -/
  cost : ℚ

/-- The caps of a phase; the confirmatory phase has none before the sample is
frozen. -/
def phaseLimits (phase : Phase) (confirmatoryConversations : Option Int) :
    Option PhaseLimits :=
  match phase with
  | .stage0 => some ⟨0, 0, 0, 0⟩
  | .development => some ⟨256, 819200, 65536, 3⟩
  | .confirmatory =>
      if confirmatoryConversations = some 48 then some ⟨652, 2217984, 166912, 7⟩
      else if confirmatoryConversations = some 64 then some ⟨844, 2840576, 216064, 7⟩
      else none

/-- The frozen sample is one of two sizes. -/
def sampleFrozen (confirmatoryConversations : Option Int) : Bool :=
  confirmatoryConversations = some 48 || confirmatoryConversations = some 64

/-- The first attempts a frozen sample allows. -/
def firstAttemptCap (confirmatoryConversations : Option Int) : Nat :=
  if confirmatoryConversations = some 48 then 576 else 768

/-- Tokens some attempts reserve for reading. -/
def inputTokens (records : List AttemptRecord) : Int :=
  (records.map (·.reservedInputTokens)).sum

/-- Tokens some attempts reserve for writing. -/
def outputTokens (records : List AttemptRecord) : Int :=
  (records.map (·.reservedOutputTokens)).sum

/-- What some attempts reserve, in dollars. -/
def cost (records : List AttemptRecord) : ℚ :=
  (records.map (·.reservedWorstCaseCost)).sum

/-- The attempts of a cell. -/
def cellOf (records : List AttemptRecord) (cell : Phase × Str × Str) :
    List AttemptRecord :=
  records.filter (·.cell = cell)

namespace AttemptLedger

/-- The attempts of a phase. -/
def phaseRecords (ledger : AttemptLedger) (phase : Phase) : List AttemptRecord :=
  ledger.records.filter (·.phase = phase)

/-- The checks of one record against the ones before it. -/
def recordChecks (before : List AttemptRecord) (record : AttemptRecord) :
    List (Bool × GuardError) :=
  let cell := cellOf before record.cell
  [(record.postInit ≠ .ok (), blocked "attempt ledger contains an invalid record"),
    (record.attemptOrdinal ≠ 1 ∧ record.attemptOrdinal ≠ 2,
      blocked "attempt ledger contains an ordinal above two"),
    (record.attemptOrdinal = 1 ∧ record.parentAttemptId ≠ none,
      blocked "attempt ledger contains a parented first attempt"),
    (record.attemptId ∈ before.map (·.attemptId),
      blocked "attempt ledger contains duplicate IDs"),
    (record.attemptOrdinal ≠ cell.length + 1,
      blocked "attempt ledger contains a non-consecutive cell"),
    (record.attemptOrdinal = 2 ∧
        (cell = [] ∨ record.parentAttemptId ≠ cell.head?.map (·.attemptId)),
      blocked "attempt ledger contains an orphan retry"),
    (record.attemptOrdinal = 2 ∧ !cell.head?.any retryIsEligible,
      blocked "attempt ledger contains an ineligible retry")]

/-- The checks of some records after others. -/
def loopChecks (before : List AttemptRecord) :
    List AttemptRecord → List (Bool × GuardError)
  | [] => []
  | record :: rest => recordChecks before record ++ loopChecks (before ++ [record]) rest

/-- The checks of the caps of a phase. -/
def phaseChecks (ledger : AttemptLedger) (phase : Phase) : List (Bool × GuardError) :=
  let phaseRecords := ledger.phaseRecords phase
  if phaseRecords = [] then []
  else
    match phaseLimits phase ledger.confirmatoryConversations with
    | none => [(true, blocked "confirmatory sample must be frozen to 48 or 64")]
    | some limits =>
        [(limits.attempts < phaseRecords.length,
            blocked "attempt ledger exceeds a phase attempt cap"),
          (limits.inputTokens < inputTokens phaseRecords,
            blocked "attempt ledger exceeds a phase input-token cap"),
          (limits.outputTokens < outputTokens phaseRecords,
            blocked "attempt ledger exceeds a phase output-token cap"),
          (limits.cost < cost phaseRecords,
            blocked "attempt ledger exceeds a phase cost cap")]

/-- The first attempts of the confirmatory phase. -/
def firstAttempts (ledger : AttemptLedger) : List AttemptRecord :=
  (ledger.phaseRecords .confirmatory).filter (·.attemptOrdinal = 1)

/-- The second attempts. -/
def retries (ledger : AttemptLedger) : List AttemptRecord :=
  ledger.records.filter (·.attemptOrdinal = 2)

/-- The check of the frozen sample. -/
def sampleChecks (ledger : AttemptLedger) : List (Bool × GuardError) :=
  [(ledger.confirmatoryConversations ≠ none ∧
      !sampleFrozen ledger.confirmatoryConversations,
    blocked "attempt ledger has an invalid frozen sample size")]

/-- The checks of the numbers of attempts. -/
def countChecks (ledger : AttemptLedger) : List (Bool × GuardError) :=
  [(1100 < ledger.records.length, blocked "attempt ledger exceeds the cumulative cap"),
    (76 < ledger.retries.length,
      blocked "attempt ledger exceeds the confirmatory retry cap"),
    (ledger.records.any (·.phase = .confirmatory) ∧
        !sampleFrozen ledger.confirmatoryConversations,
      blocked "confirmatory ledger has no frozen sample size")]

/-- The checks of the totals. -/
def totalChecks (ledger : AttemptLedger) : List (Bool × GuardError) :=
  [(sampleFrozen ledger.confirmatoryConversations ∧
        firstAttemptCap ledger.confirmatoryConversations < ledger.firstAttempts.length,
      blocked "attempt ledger exceeds the confirmatory first-attempt cap"),
    (3659776 < inputTokens ledger.records,
      blocked "attempt ledger exceeds the cumulative input-token cap"),
    (281600 < outputTokens ledger.records,
      blocked "attempt ledger exceeds the cumulative output-token cap"),
    (10 < cost ledger.records,
      blocked "attempt ledger exceeds the cumulative cost cap")]

/-- The checks of the whole ledger. -/
def integrityChecks (ledger : AttemptLedger) : List (Bool × GuardError) :=
  ledger.sampleChecks ++ loopChecks [] ledger.records ++ ledger.countChecks ++
    [Phase.stage0, .development, .confirmatory].flatMap ledger.phaseChecks ++
    ledger.totalChecks

/-- Check the whole ledger. -/
def validateIntegrity (ledger : AttemptLedger) : Except GuardError Unit :=
  firstRefusal ledger.integrityChecks

/-- Freeze the number of conversations. -/
def freezeConfirmatorySample (ledger : AttemptLedger) (conversations : Int) :
    Except GuardError AttemptLedger :=
  match firstRefusal
      [(!sampleFrozen (some conversations),
          blocked "confirmatory sample must be 48 or 64"),
        (ledger.records.any (·.phase = .confirmatory),
          blocked "sample size must be frozen before confirmatory attempts"),
        (ledger.confirmatoryConversations ≠ none ∧
            ledger.confirmatoryConversations ≠ some conversations,
          blocked "confirmatory sample size is immutable once frozen")] with
  | .error refusal => .error refusal
  | .ok () => .ok { ledger with confirmatoryConversations := some conversations }

/-- The checks of an attempt before it is recorded. -/
def appendChecks (ledger : AttemptLedger) (record : AttemptRecord) :
    List (Bool × GuardError) :=
  let cell := cellOf ledger.records record.cell
  [(1100 ≤ ledger.records.length, blocked "ORQ cumulative attempt cap is exceeded"),
    (record.attemptOrdinal ≠ 1 ∧ record.attemptOrdinal ≠ 2,
      blocked "a step-arm cell permits at most two attempts"),
    (record.attemptOrdinal ≠ cell.length + 1,
      blocked "attempt ordinals must be consecutive and one-based"),
    (record.attemptOrdinal = 1 ∧ record.parentAttemptId ≠ none,
      blocked "first attempts cannot have a parent"),
    (record.attemptOrdinal = 2 ∧
        (cell = [] ∨ record.parentAttemptId ≠ cell.head?.map (·.attemptId)),
      blocked "retry must reference the first attempt in its cell"),
    (record.attemptOrdinal = 2 ∧ !cell.head?.any retryIsEligible,
      blocked "previous attempt is not eligible for retry"),
    (record.attemptOrdinal = 2 ∧
        76 ≤ ((ledger.phaseRecords .confirmatory).filter (·.attemptOrdinal = 2)).length,
      blocked "confirmatory retry cap is exceeded"),
    (record.attemptId ∈ ledger.records.map (·.attemptId),
      blocked "duplicate attempt ledger entry")]

/-- Record an attempt: what is raised, and the ledger afterwards. The record is taken
back when the ledger with it fails closed. -/
def append (ledger : AttemptLedger) (record : AttemptRecord) :
    Except GuardError Unit × AttemptLedger :=
  match ledger.validateIntegrity with
  | .error refusal => (.error refusal, ledger)
  | .ok () =>
      match firstRefusal (ledger.appendChecks record) with
      | .error refusal => (.error refusal, ledger)
      | .ok () =>
          let appended : AttemptLedger :=
            { ledger with records := ledger.records ++ [record] }
          match appended.validateIntegrity with
          | .ok () => (.ok (), appended)
          | .error (.blocked message) =>
              (.error (.blocked message),
                { appended with records := appended.records.dropLast })
          | .error (.value message) => (.error (.value message), appended)

end AttemptLedger

/-! ## Before a dispatch -/

/-- What is authorised. -/
structure AuthorizationState where
  /-- The development phase. -/
  developmentEnabled : Bool
  /-- The confirmatory phase. -/
  confirmatoryEnabled : Bool
  /-- Calls to other sides. -/
  externalCallsEnabled : Bool
  /-- Calls to OpenAI. -/
  openaiCallsEnabled : Bool

/-- An amount of money as it is reported. -/
inductive Amount
  /-- A number. -/
  | finite (value : ℚ)
  /-- Infinite or not a number. -/
  | notFinite

/-- The number of an amount. -/
def Amount.known : Amount → Option ℚ
  | .finite value => some value
  | .notFinite => none

/-- Balance and consumption. -/
structure BudgetSnapshot where
  /-- What is left of the prepaid credit. -/
  availablePrepaidCreditUsd : Option Amount
  /-- What was spent. -/
  cumulativeSpendUsd : Option Amount
  /-- What was spent in the phase. -/
  phaseSpendUsd : Option Amount
  /-- Whether the credit is refilled. -/
  autoRechargeEnabled : Option Bool

/-- The three amounts of a snapshot. -/
def BudgetSnapshot.amounts (snapshot : BudgetSnapshot) : List (Option Amount) :=
  [snapshot.availablePrepaidCreditUsd, snapshot.cumulativeSpendUsd,
    snapshot.phaseSpendUsd]

/-- A request that is to be dispatched. -/
structure DispatchRequest where
  /-- The phase. -/
  phase : Phase
  /-- The operation. -/
  operation : Str
  /-- The arm. -/
  armId : Str
  /-- Ceiling of the tokens read. -/
  inputTokenCeiling : Int
  /-- Ceiling of the tokens written. -/
  outputTokenCeiling : Int
  /-- First or second attempt. -/
  attemptOrdinal : Int := 1
  /-- The step. -/
  stepId : Str := "UNSPECIFIED_STEP".toList
  /-- The number of conversations. -/
  confirmatoryConversations : Option Int := none

/-- What an accepted request reserves. -/
structure DispatchReservation where
  /-- The cost in dollars. -/
  worstCaseCostUsd : ℚ
  /-- Number of the attempt. -/
  cumulativeAttemptNumber : Nat
  /-- Number of the attempt in its phase. -/
  phaseAttemptNumber : Nat

/-- The checks of a request up to the attempts of its cell. -/
def requestChecks
    (request : DispatchRequest)
    (authorization : AuthorizationState)
    (ledger : AttemptLedger) : List (Bool × GuardError) :=
  let cell := cellOf ledger.records (request.phase, request.stepId, request.armId)
  [(!authorization.externalCallsEnabled, blocked "external calls are not authorized"),
    (request.operation ≠ "openai_generation".toList,
      blocked "embeddings, Bedrock, and other operations have zero cap"),
    (!authorization.openaiCallsEnabled, blocked "OpenAI calls are not authorized"),
    (request.phase = .development ∧ !authorization.developmentEnabled,
      blocked "development is not authorized"),
    (request.phase = .confirmatory ∧ !authorization.confirmatoryEnabled,
      blocked "confirmatory execution is not authorized"),
    (request.phase = .confirmatory ∧ !sampleFrozen ledger.confirmatoryConversations,
      blocked "confirmatory sample size is not frozen"),
    (request.phase = .confirmatory ∧
        request.confirmatoryConversations ≠ ledger.confirmatoryConversations,
      blocked "request conflicts with the frozen sample size"),
    (request.armId ∉ allowedArms request.phase,
      blocked "arm is unavailable in the requested phase"),
    (armInputCap request.armId ≠ some request.inputTokenCeiling,
      blocked "request must reserve the frozen arm input ceiling"),
    (request.outputTokenCeiling ≠ 256,
      blocked "request must reserve the frozen output ceiling"),
    (request.attemptOrdinal ≠ 1 ∧ request.attemptOrdinal ≠ 2,
      blocked "attempt ordinal must be one or two"),
    (request.attemptOrdinal ≠ cell.length + 1,
      blocked "pre-dispatch attempt ordinal is not consecutive"),
    (request.attemptOrdinal = 2 ∧ (cell = [] ∨ !cell.head?.any retryIsEligible),
      blocked "retry is not eligible before dispatch")]

/-- The checks of the snapshot by itself. -/
def moneyChecks (snapshot : BudgetSnapshot) : List (Bool × GuardError) :=
  [(snapshot.amounts.any Option.isNone,
      blocked "unknown balance or consumption blocks dispatch"),
    (snapshot.autoRechargeEnabled ≠ some false,
      blocked "Auto Recharge must be explicitly disabled"),
    (snapshot.amounts.any fun amount =>
        (amount.bind Amount.known).all (· < 0),
      blocked "budget values must be finite and non-negative")]

/-- The checks of the caps, for what would be. -/
def capChecks
    (request : DispatchRequest)
    (snapshot : BudgetSnapshot)
    (ledger : AttemptLedger)
    (limits : PhaseLimits) : List (Bool × GuardError) :=
  let amount (reported : Option Amount) : ℚ := (reported.bind Amount.known).getD 0
  let worstCase :=
    worstCaseGenerationCost request.inputTokenCeiling request.outputTokenCeiling
  let phaseRecords := ledger.phaseRecords request.phase
  [(limits.attempts < phaseRecords.length + 1,
      blocked "phase attempt cap would be exceeded"),
    (1100 < ledger.records.length + 1,
      blocked "ORQ cumulative attempt cap would be exceeded"),
    (request.phase = .development ∧ request.attemptOrdinal ≠ 1,
      blocked "development permits zero retries"),
    (request.phase = .confirmatory ∧
        firstAttemptCap ledger.confirmatoryConversations <
          (phaseRecords.filter (·.attemptOrdinal = 1)).length +
            (if request.attemptOrdinal = 1 then 1 else 0),
      blocked "confirmatory first-attempt cap is exceeded"),
    (request.phase = .confirmatory ∧
        76 < (phaseRecords.filter (·.attemptOrdinal = 2)).length +
          (if request.attemptOrdinal = 2 then 1 else 0),
      blocked "confirmatory retry cap is exceeded"),
    (limits.inputTokens < inputTokens phaseRecords + request.inputTokenCeiling,
      blocked "phase input-token ceiling would be exceeded"),
    (limits.outputTokens < outputTokens phaseRecords + request.outputTokenCeiling,
      blocked "phase output-token ceiling would be exceeded"),
    (3659776 < inputTokens ledger.records + request.inputTokenCeiling,
      blocked "ORQ cumulative input-token ceiling would be exceeded"),
    (281600 < outputTokens ledger.records + request.outputTokenCeiling,
      blocked "ORQ cumulative output-token ceiling would be exceeded"),
    (amount snapshot.availablePrepaidCreditUsd < worstCase,
      blocked "prepaid balance cannot cover the worst-case reservation"),
    (limits.cost < cost phaseRecords + worstCase,
      blocked "phase reserved-cost hard cap would be exceeded"),
    (10 < cost ledger.records + worstCase,
      blocked "ORQ reserved-cost hard cap would be exceeded"),
    (limits.cost < amount snapshot.phaseSpendUsd + worstCase,
      blocked "phase monetary hard cap would be exceeded"),
    (10 < amount snapshot.cumulativeSpendUsd + worstCase,
      blocked "ORQ cumulative monetary hard cap would be exceeded")]

/-- Check a request before it is dispatched. -/
def validatePreDispatch
    (request : DispatchRequest)
    (authorization : AuthorizationState)
    (snapshot : BudgetSnapshot)
    (ledger : AttemptLedger) : Except GuardError DispatchReservation :=
  if request.phase = .stage0 then
    .error (blocked "Stage 0 permits zero external dispatches")
  else
    match ledger.validateIntegrity with
    | .error refusal => .error refusal
    | .ok () =>
        match firstRefusal
            (requestChecks request authorization ledger ++ moneyChecks snapshot) with
        | .error refusal => .error refusal
        | .ok () =>
            match phaseLimits request.phase ledger.confirmatoryConversations with
            | none => .error (blocked "confirmatory sample must be frozen to 48 or 64")
            | some limits =>
                match firstRefusal (capChecks request snapshot ledger limits) with
                | .error refusal => .error refusal
                | .ok () =>
                    .ok ⟨worstCaseGenerationCost request.inputTokenCeiling
                        request.outputTokenCeiling,
                      ledger.records.length + 1,
                      (ledger.phaseRecords request.phase).length + 1⟩

end LongContext
end ChatPlatform
