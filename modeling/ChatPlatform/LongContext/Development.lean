import ChatPlatform.Foundation.Lines
import ChatPlatform.Foundation.Program
import ChatPlatform.LongContext.Accounting
import ChatPlatform.LongContext.Scoring

/-!
# The development run

The prepared requests of the development split are sent one after the other. An attempt is
reserved in the ledger, and the ledger is written, before the request is handed to the transport;
afterwards the reservation is replaced by the outcome. The run stops at the first failure. It may
also stop at every file and at every request, by an exception or because the process ends. A
directory that holds anything is never used again.
-/

namespace ChatPlatform
namespace LongContext

open Json Program

/-! ## Requests -/

/-- A step of the development split. -/
structure EvaluationStep where
  /-- Name of the step. -/
  stepId : Str
  /-- Its place in the design. -/
  stepType : Str
  /-- The codes that are expected. -/
  goldAtoms : Finset Str
  /-- It has a name. -/
  named : stepId ≠ []
  /-- The codes are codes. -/
  nonces : ∀ atom ∈ goldAtoms, isNonce atom = true

/-- A request that is prepared before anything is sent. -/
structure PreparedDevelopmentRequest where
  /-- The conversation. -/
  conversationIndex : Nat
  /-- The step. -/
  step : EvaluationStep
  /-- The arm. -/
  armId : Str
  /-- The text of the prompt. -/
  promptText : Str
  /-- Digest of the body. -/
  requestParameterHash : Str

/-- The body of a request without credentials. -/
def apiRequestBody (prompt : Str) : Str :=
  dumps (F := Empty) ⟨true, false⟩ (.dict
    [("model".toList, .str "gpt-4o-mini-2024-07-18".toList),
      ("messages".toList, .list
        [.dict [("role".toList, .str "user".toList), ("content".toList, .str prompt)]]),
      ("temperature".toList, .int 0), ("top_p".toList, .int 1), ("max_tokens".toList, .int 256),
      ("n".toList, .int 1), ("stream".toList, .bool false), ("store".toList, .bool false),
      ("response_format".toList, .dict [("type".toList, .str "json_object".toList)])])

/-- The input ceiling of an arm. -/
def inputCap (armId : Str) : Int :=
  if armId = "A".toList then 512 else if armId = "ORACLE-GOLD".toList then 3072 else 4608

/-! ## The key -/

/-- What reading the file of settings gives. -/
inductive EnvFile
  /-- It cannot be read. -/
  | unreadable
  /-- It is not UTF-8. -/
  | notText
  /-- A text. -/
  | text (held : Str)

/-- The value without the quotation marks around it. -/
def unquoted (value : Str) : Str :=
  if 2 ≤ value.length ∧ value.head? = value.getLast? ∧
      (value.head? = some '\'' ∨ value.head? = some '"') then
    value.tail.dropLast
  else value

/-- What follows the equals sign of a line that sets the key. -/
def keyOfLine (line : Str) : Option Str :=
  if line = [] ∨ (line.dropWhile Text.isSpace).head? = some '#' ∨ '=' ∉ line then none
  else if Text.strip (line.takeWhile (· ≠ '=')) ≠ "OPENAI_API_KEY".toList then none
  else some (unquoted (Text.strip (line.dropWhile (· ≠ '=')).tail))

/-- The key that is configured; nothing where the file is not a text. -/
def configuredApiKey (environment : Option Str) (envFile : EnvFile) : Option (Option Str) :=
  match environment.filter (· ≠ []) with
  | some value => some (some value)
  | none =>
      match envFile with
      | .unreadable => some none
      | .notText => none
      | .text held => some (((Text.splitlines held).findSome? keyOfLine).filter (· ≠ []))

/-! ## Answers -/

section Answers

variable {F : Type}

/-- The content of the first choice. -/
def contentOf (payload : Dict F) : Option Str :=
  match Dict.get payload "choices".toList with
  | some (.list (.dict choice :: _)) =>
      (Dict.getDict choice "message".toList).bind (Dict.getStr · "content".toList)
  | _ => none

/-- Whether a value is an integer to the program. -/
def isInteger : Value F → Bool
  | .int _ | .bool _ => true
  | _ => false

/-- The usage of two counts; negative numbers and truth values are refused. -/
def usageOf : Value F → Value F → Except Str Usage
  | .int input, .int output =>
      if input < 0 ∨ output < 0 then
        .error "usage tokens must be non-negative integers".toList
      else .ok ⟨input.toNat, output.toNat⟩
  | _, _ => .error "usage tokens must be non-negative integers".toList

/-- The content and the usage of an answer. -/
def extractResponse (payload : Dict F) : Except Str (Option Str × Option Usage) :=
  match Dict.getDict payload "usage".toList with
  | none => .ok (contentOf payload, none)
  | some usage =>
      match Dict.get usage "prompt_tokens".toList,
          Dict.get usage "completion_tokens".toList with
      | some prompt, some completion =>
          if isInteger prompt && isInteger completion then
            (usageOf prompt completion).map fun usage => (contentOf payload, some usage)
          else .ok (contentOf payload, none)
      | _, _ => .ok (contentOf payload, none)

end Answers

/-! ## Files and fates -/

/-- A row of the ledger file. -/
structure LedgerRow where
  /-- Identifier of the attempt. -/
  attemptId : Str
  /-- The other columns. -/
  record : AttemptRecord
  deriving DecidableEq

/-- The row of an attempt. -/
def ledgerRow (record : AttemptRecord) : LedgerRow := ⟨record.attemptId, record⟩

/-- A row of the results. -/
structure ResultRow where
  /-- The conversation. -/
  conversationIndex : Nat
  /-- The step. -/
  stepId : Str
  /-- Its place in the design. -/
  stepType : Str
  /-- The arm. -/
  armId : Str
  /-- Digest of the body. -/
  requestParameterHash : Str
  /-- The content of the answer. -/
  candidateOrNull : Option Str
  /-- How it was scored. -/
  score : ScoreResult
  deriving DecidableEq

/-- The kinds of a run. -/
inductive RunKind
  | original
  | amended
  | replacement
  deriving DecidableEq

/-- The summary of a run. -/
inductive RunSummary
  /-- It stopped at a failure. -/
  | incomplete (failureClass : Str) (attemptsRecorded : Nat) (datasetSha256 : Str)
  /-- It came to its end. -/
  | complete (runKind : RunKind) (attemptsRecorded : Nat) (datasetSha256 : Str)
      (correctAnswers scoredAnswers : Nat) (reservedCostUsd : ℚ)
  deriving DecidableEq

/-- What a run registers before it sends anything. -/
structure Registration where
  /-- Its kind. -/
  phase : RunKind
  /-- The number of requests. -/
  attemptsPlanned : Nat
  /-- Digest of the dataset. -/
  datasetSha256 : Str
  /-- What earlier runs reserved. -/
  priorReservedCost : ℚ
  deriving DecidableEq

/-- The output directory. -/
structure Files where
  /-- Whether it is there. -/
  present : Bool := false
  /-- The dataset. -/
  dataset : Option Str := none
  /-- The registration. -/
  registration : Option Registration := none
  /-- The ledger. -/
  attemptLedger : Option (List LedgerRow) := none
  /-- The results. -/
  results : Option (List ResultRow) := none
  /-- The summary. -/
  summary : Option RunSummary := none
  /-- Whether a temporary file was left. -/
  partialLeft : Bool := false
  deriving DecidableEq

/-- Whether the directory holds anything. -/
def Files.nonempty (files : Files) : Bool :=
  files.dataset.isSome || files.registration.isSome || files.attemptLedger.isSome ||
    files.results.isSome || files.summary.isSome || files.partialLeft

/-- What happens to a file. -/
inductive FileFate
  /-- It is replaced. -/
  | completes
  /-- An exception; a temporary file may be left. -/
  | fails (partialLeft : Bool)
  /-- The process ends before or after the file is replaced. -/
  | ends (replaced partialLeft : Bool)

/-- What the transport does. -/
inductive Reply (F : Type)
  /-- A response whose body is JSON. -/
  | answered (status : Int) (payload : Value F)
  /-- Something that is not UTF-8 or not JSON, with the status if there is one. -/
  | invalid (status : Option Int)
  /-- An error status. -/
  | httpError (code : Int)
  /-- No connection. -/
  | urlError
  /-- Any other exception. -/
  | raises (name : Str)
  /-- The process ends. -/
  | ends

/-- What is met at a file or at a request. -/
structure Fate (F : Type) where
  /-- What happens to a file. -/
  file : FileFate
  /-- The key in the environment. -/
  environment : Option Str
  /-- The file of settings. -/
  envFile : EnvFile
  /-- What the transport does. -/
  reply : Reply F

/-- Nothing works. -/
def Fate.default {F : Type} : Fate F := ⟨.fails false, none, .unreadable, .ends⟩

/-- What a run raises. -/
inductive RunFailure
  /-- The run refuses to go on. -/
  | blocked (message : Str)
  /-- The guards refuse. -/
  | guard (error : GuardError)
  /-- A value is not one. -/
  | value (message : Str)
  /-- A file cannot be written. -/
  | file
  /-- Any other exception. -/
  | other (name : Str)
  /-- The process ended. -/
  | ended
  deriving DecidableEq

/-- A request that was handed to the transport, with the ledger file of that time. -/
structure Sent where
  /-- The request. -/
  request : PreparedDevelopmentRequest
  /-- The body. -/
  body : Str
  /-- The key. -/
  apiKey : Str
  /-- The rows that were in the ledger file. -/
  persisted : List LedgerRow

/-- The output directory, what was handed to the transport, and the variables of the run. -/
structure RunWorld where
  /-- The output directory. -/
  files : Files := {}
  /-- What was handed to the transport. -/
  sent : List Sent := []
  /-- The ledger. -/
  ledger : AttemptLedger := {}
  /-- The rows of the ledger file. -/
  ledgerRows : List LedgerRow := []
  /-- The rows of the results. -/
  results : List ResultRow := []

/-! ## The run -/

section Run

variable {F : Type} [FloatOps F] {α : Type}

/-- A part of a run. -/
abbrev RunProgram (F α : Type) : Type := Program (Fate F) RunWorld Empty RunFailure α

/-- Write a file by way of a temporary one. -/
def writeFile (change : RunWorld → Files) : RunProgram F Unit :=
  await .default fun fate world =>
    match fate.file with
    | .completes => (.next (), { world with files := change world })
    | .fails partialLeft =>
        (.raised .file, { world with
          files := { world.files with partialLeft := world.files.partialLeft || partialLeft } })
    | .ends replaced partialLeft =>
        let files := if replaced then change world else world.files
        (.raised .ended, { world with
          files := { files with partialLeft := files.partialLeft || partialLeft } })

/-- Write the ledger file. -/
def writeLedger : RunProgram F Unit :=
  writeFile fun world => { world.files with attemptLedger := some world.ledgerRows }

/-- Balance and consumption as the ledger has them. -/
def budgetSnapshot (ledger : AttemptLedger) (priorReservedCost : ℚ) : BudgetSnapshot where
  availablePrepaidCreditUsd :=
    some (.finite (385 / 100 - priorReservedCost - cost ledger.records))
  cumulativeSpendUsd := some (.finite (priorReservedCost + cost ledger.records))
  phaseSpendUsd :=
    some (.finite (priorReservedCost + cost (ledger.phaseRecords .development)))
  autoRechargeEnabled := some false

/-- What the run is authorised to do. -/
def authorization : AuthorizationState where
  developmentEnabled := true
  confirmatoryEnabled := false
  externalCallsEnabled := true
  openaiCallsEnabled := true

/-- The request as the guards see it. -/
def dispatchRequest (prepared : PreparedDevelopmentRequest) : DispatchRequest where
  phase := .development
  operation := "openai_generation".toList
  armId := prepared.armId
  inputTokenCeiling := inputCap prepared.armId
  outputTokenCeiling := 256
  attemptOrdinal := 1
  stepId := prepared.step.stepId

/-- The record of an attempt that is reserved. -/
def attemptRecord
    (ledger : AttemptLedger)
    (prepared : PreparedDevelopmentRequest)
    (priorReservedCost : ℚ) : Except GuardError AttemptRecord :=
  match validatePreDispatch (dispatchRequest prepared) authorization
      (budgetSnapshot ledger priorReservedCost) ledger with
  | .error refusal => .error refusal
  | .ok reservation =>
      let record : AttemptRecord :=
        { stepId := prepared.step.stepId
          armId := prepared.armId
          phase := .development
          attemptOrdinal := 1
          parentAttemptId := none
          failureClass := none
          requestParameterHash := prepared.requestParameterHash
          reportedUsageOrNull := none
          reservedWorstCaseCost := reservation.worstCaseCostUsd
          reservedInputTokens := inputCap prepared.armId
          reservedOutputTokens := 256
          responseTokenOrCandidateReceived := false
          httpStatus := none }
      record.postInit.map fun _ => record

/-- Reserve an attempt and write the ledger. -/
def reserveBeforeDispatch
    (prepared : PreparedDevelopmentRequest)
    (priorReservedCost : ℚ) : RunProgram F AttemptRecord := do
  let ledger ← inspect (·.ledger)
  match attemptRecord ledger prepared priorReservedCost with
  | .error refusal => raise (.guard refusal)
  | .ok record =>
      match ledger.append record with
      | (.error refusal, left) =>
          modify fun world => { world with ledger := left }
          raise (.guard refusal)
      | (.ok (), left) =>
          modify fun world =>
            { world with ledger := left, ledgerRows := world.ledgerRows ++ [ledgerRow record] }
          writeLedger
          return record

/-- What came of a request. -/
structure Exchange where
  /-- The content of the answer. -/
  content : Option Str := none
  /-- The usage. -/
  usage : Option Usage := none
  /-- The status. -/
  status : Option Int := none
  /-- How it failed. -/
  failureClass : Option Str := none

/-- What comes of what the transport does. -/
def exchangeOf : Reply F → Except RunFailure Exchange
  | .answered status (.dict payload) =>
      match extractResponse payload with
      | .error message => .error (.value message)
      | .ok (content, usage) =>
          .ok ⟨content, usage, some status,
            if content = none then some "provider_content_missing".toList else none⟩
  | .answered status _ => .ok ⟨none, none, some status, some "provider_payload_invalid".toList⟩
  | .invalid status => .ok ⟨none, none, status, some "provider_payload_invalid".toList⟩
  | .httpError code => .ok ⟨none, none, some code, some "http_error".toList⟩
  | .urlError => .ok ⟨none, none, none, some "transport_error".toList⟩
  | .raises name => .error (.other name)
  | .ends => .error .ended

/-- Hand a request to the transport, if there is a key. -/
def dispatch (prepared : PreparedDevelopmentRequest) : RunProgram F Exchange :=
  await .default fun fate world =>
    match configuredApiKey fate.environment fate.envFile with
    | none => (.next ⟨none, none, none, some "provider_payload_invalid".toList⟩, world)
    | some none =>
        (.raised (.blocked
          "OPENAI_API_KEY is unavailable through the configured settings".toList), world)
    | some (some apiKey) =>
        let handed : RunWorld :=
          { world with
            sent := world.sent ++ [⟨prepared, apiRequestBody prepared.promptText, apiKey,
              world.files.attemptLedger.getD []⟩] }
        match exchangeOf fate.reply with
        | .error failure => (.raised failure, handed)
        | .ok exchange => (.next exchange, handed)

/-- The record of an attempt with its outcome. -/
def finalized (record : AttemptRecord) (exchange : Exchange) : AttemptRecord :=
  { record with
    reportedUsageOrNull := exchange.usage
    responseTokenOrCandidateReceived := exchange.content.isSome
    failureClass := exchange.failureClass
    httpStatus := exchange.status }

/-- Replace the reservation by the outcome and write the ledger. -/
def finalizeAttempt (record : AttemptRecord) (exchange : Exchange) : RunProgram F Unit := do
  let ledger ← inspect (·.ledger)
  if (ledger.records.getLast?).map (·.attemptId) ≠ some record.attemptId then
    raise (.blocked "attempt outcome does not match the pre-dispatch reservation".toList)
  else
    match (finalized record exchange).postInit with
    | .error refusal => raise (.guard refusal)
    | .ok () =>
        let replaced : AttemptLedger :=
          { ledger with records := ledger.records.dropLast ++ [finalized record exchange] }
        match replaced.validateIntegrity with
        | .error refusal => raise (.guard refusal)
        | .ok () =>
            modify fun world =>
              { world with
                ledger := replaced
                ledgerRows := world.ledgerRows.dropLast ++
                  [ledgerRow (finalized record exchange)] }
            writeLedger

variable (F) in
/-- The row of a result. -/
def resultRow (prepared : PreparedDevelopmentRequest) (content : Option Str) :
    Except Str ResultRow :=
  (scoreResponse F (content.elim (.bytes []) .text) prepared.step.goldAtoms).map fun score =>
    { conversationIndex := prepared.conversationIndex
      stepId := prepared.step.stepId
      stepType := prepared.step.stepType
      armId := prepared.armId
      requestParameterHash := prepared.requestParameterHash
      candidateOrNull := content
      score }

/-- Send one request. -/
def attempt
    (priorReservedCost : ℚ)
    (datasetSha256 : Str)
    (prepared : PreparedDevelopmentRequest) : RunProgram F Unit := do
  let record ← reserveBeforeDispatch prepared priorReservedCost
  let exchange ← dispatch prepared
  finalizeAttempt record exchange
  match resultRow F prepared exchange.content with
  | .error message => raise (.value message)
  | .ok row =>
      modify fun world => { world with results := world.results ++ [row] }
      writeLedger
      writeFile fun world => { world.files with results := some world.results }
      match exchange.failureClass with
      | none => return ()
      | some failureClass => do
          writeFile fun world =>
            { world.files with
              summary := some (.incomplete failureClass world.ledger.records.length
                datasetSha256) }
          raise (.blocked "development attempt failed; continuation is prohibited".toList)

/-- What one call of the runner is given. -/
structure Invocation where
  /-- The second pass, over two arms. -/
  amended : Bool
  /-- The third pass, over two arms. -/
  replacement : Bool
  /-- The text of the dataset, unless building it raises. -/
  dataset : Except Str Str
  /-- The requests of the four arms, unless preparing them raises. -/
  requests : Except Str (List PreparedDevelopmentRequest)
  /-- The requests of the two arms, unless preparing them raises. -/
  amendedRequests : Except Str (List PreparedDevelopmentRequest)
  /-- Whether the ledger of the first pass is the frozen one. -/
  historicalFrozen : Bool

namespace Invocation

variable (invocation : Invocation)

/-- Whether it is one of the later passes. -/
def isLater : Bool := invocation.amended || invocation.replacement

/-- The kind of the run. -/
def kind : RunKind :=
  if invocation.replacement then .replacement
  else if invocation.amended then .amended else .original

/-- The requests of the run. -/
def prepared : Except Str (List PreparedDevelopmentRequest) :=
  if invocation.isLater then invocation.amendedRequests else invocation.requests

/-- The number of requests that is registered. -/
def expectedAttempts : Nat := if invocation.isLater then 128 else 256

/-- What earlier runs reserved. -/
def priorReservedCost : ℚ :=
  if invocation.replacement then 2703360 / 10000000
  else if invocation.amended then 1622016 / 10000000 else 0

end Invocation

/-- Refuse to go on. -/
def refuse (message : String) : RunProgram F α := raise (.blocked message.toList)

/-- Make the directory. -/
def makeDirectory : RunProgram F Unit :=
  await .default fun fate world =>
    let made : RunWorld := { world with files := { world.files with present := true } }
    match fate.file with
    | .completes => (.next (), made)
    | .fails _ => (.raised .file, world)
    | .ends replaced _ => (.raised .ended, if replaced then made else world)

/-- Use the directory if it holds nothing. -/
def openDirectory : RunProgram F Unit := do
  let files ← inspect (·.files)
  if files.present then
    if files.nonempty then
      refuse "development output directory is non-empty; reruns are prohibited"
    else return ()
  else makeDirectory

/-- What is built before anything is written, or the exception it raises. -/
def built (result : Except Str α) : RunProgram F α :=
  match result with
  | .error message => raise (.value message)
  | .ok value => Program.value value

/-- The summary of a run that came to its end. -/
def completeSummary
    (kind : RunKind)
    (datasetSha256 : Str)
    (world : RunWorld) : RunSummary :=
  .complete kind world.ledger.records.length datasetSha256
    (world.results.countP (·.score.correct)) world.results.length (cost world.ledger.records)

/-- Run the development split once. -/
def execute (sha256Hex : Str → Str) (invocation : Invocation) : RunProgram F RunSummary := do
  openDirectory
  let dataset ← built invocation.dataset
  if invocation.amended && invocation.replacement then
    refuse "amended and replacement modes are mutually exclusive"
  else
    let prepared ← built invocation.prepared
    if prepared.length ≠ invocation.expectedAttempts then
      refuse "prepared development request count does not match the registered stage"
    else if invocation.isLater && !invocation.historicalFrozen then
      refuse "frozen prior development ledger is unavailable or mismatched"
    else
      let digest := sha256Hex dataset
      writeFile fun world => { world.files with dataset := some dataset }
      writeFile fun world =>
        { world.files with
          registration := some ⟨invocation.kind, invocation.expectedAttempts, digest,
            invocation.priorReservedCost⟩ }
      forEach prepared (attempt invocation.priorReservedCost digest)
      let summary ← inspect (completeSummary invocation.kind digest)
      writeFile fun world => { world.files with summary := some summary }
      return summary

/-- One call after the other with one directory; each has variables of its own. -/
def callsFrom
    (sha256Hex : Str → Str)
    (world : RunWorld) : List (Invocation × List (Fate F)) → RunWorld
  | [] => world
  | (invocation, fates) :: rest =>
      let fresh : RunWorld := { files := world.files, sent := world.sent }
      callsFrom sha256Hex (execute sha256Hex invocation fresh fates).2.1 rest

end Run
end LongContext
end ChatPlatform
