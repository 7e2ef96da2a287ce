import ChatPlatform.EventLog.Events
import ChatPlatform.Foundation.Dynamic
import ChatPlatform.Foundation.JsonSpaced
import ChatPlatform.Foundation.Uuid

/-!
# The ledger of external calls

Every external call is announced by a row before it is made and closed by a row after it.
The rows stand in a file, one JSON object on each line, and every operation reads the whole
file anew: what a ledger knows is what the file says.
-/

namespace ChatPlatform
namespace DualMemory

open Json

/-! ## Kinds, manifests and errors -/

/-- The kinds of external calls, in the order of their names. -/
inductive ExternalKind
  | embeddingBatch
  | generation
  | semanticExtraction
  deriving DecidableEq

/-- The name of a kind. -/
def ExternalKind.text : ExternalKind → Str
  | .embeddingBatch => "embedding_batch".toList
  | .generation => "generation".toList
  | .semanticExtraction => "semantic_extraction".toList

/-- The kind with a name. -/
def ExternalKind.ofText (kind : Str) : Option ExternalKind :=
  [embeddingBatch, generation, semanticExtraction].find? fun external => external.text = kind

/-- What a ledger reads of the manifest. -/
structure FrozenManifest where
  /-- The digest of the manifest. -/
  sha256 : Str
  /-- The commit it was approved for. -/
  expectedCommit : Str
  /-- Most calls of a kind. -/
  callLimit : ExternalKind → Nat
  /-- Most calls. -/
  totalLimit : Nat

/-- An operation of a ledger failed. -/
inductive LedgerError
  /-- `TraceabilityError`. -/
  | traceability (message : Str)
  /-- `TraceabilityError` that names an unknown kind. -/
  | unknownKind (kind : Str)
  /-- `BudgetExceeded`. -/
  | budgetExceeded (message : Str)
  /-- `KeyError`. -/
  | missingKey (key : Str)
  /-- An exception of an operation on a value. -/
  | fault (fault : ValueFault)
  deriving DecidableEq

/-- A call that may be made. -/
structure CallReservation where
  /-- Identifier of the call. -/
  callId : Str
  /-- Its kind. -/
  kind : Str
  /-- Its model. -/
  model : Str
  /-- The step it belongs to. -/
  stepId : Option Str
  /-- The arm it belongs to. -/
  arm : Option Str
  deriving DecidableEq

/-- A ledger on the file. -/
structure Ledger where
  /-- The run it belongs to. -/
  runId : Str
  /-- The commit that was attested. -/
  attestedCommit : Option Str

/-- What an operation draws: identifiers and the time. -/
structure Draw where
  /-- Identifier of the row. -/
  eventId : Uuid
  /-- Identifier of the call. -/
  callId : Uuid
  /-- The time. -/
  recordedAt : Str

variable {F : Type} [FloatOps F]

/-- A text or nothing. -/
def optional (text : Option Str) : Value F :=
  match text with
  | none => .none
  | some text => .str text

/-- A whole number or nothing. -/
def optionalInt (number : Option Int) : Value F :=
  match number with
  | none => .none
  | some number => .int number

/-- A floating-point number or nothing. -/
def optionalFloat (number : Option F) : Value F :=
  match number with
  | none => .none
  | some number => .float number

/-! ## Rows -/

/-- The version of the schema. -/
def ledgerSchema : Str := "orq29-external-call-ledger-v1".toList

/-- The fields of every row. -/
def baseFields (manifest : FrozenManifest) (ledger : Ledger) (draw : Draw) : Dict F :=
  [("schema_version".toList, .str ledgerSchema), ("event_id".toList, .str draw.eventId.text),
    ("recorded_at".toList, .str draw.recordedAt), ("run_id".toList, .str ledger.runId),
    ("manifest_sha256".toList, .str manifest.sha256),
    ("origin_commit".toList, .str manifest.expectedCommit)]

/-- The fields of a row that announces a call or refuses it. -/
def reservationFields (event kind model : Str) (stepId arm callId reason : Option Str) :
    Dict F :=
  [("event".toList, .str event), ("kind".toList, .str kind), ("model".toList, .str model),
    ("step_id".toList, optional stepId), ("arm".toList, optional arm),
    ("call_id".toList, optional callId), ("reason".toList, optional reason)]

/-- How a call ended. -/
structure Ending (F : Type) where
  /-- `succeeded` or `failed`. -/
  succeeded : Bool
  /-- Tokens of the input. -/
  inputTokens : Option Int
  /-- Tokens of the output. -/
  outputTokens : Option Int
  /-- An estimate of the tokens. -/
  estimatedTokens : Option Int
  /-- How long it took. -/
  durationMs : Option F
  /-- The kind of the error. -/
  errorKind : Option Str

/-- The event of an ending. -/
def Ending.event (ending : Ending F) : Str :=
  if ending.succeeded then "succeeded".toList else "failed".toList

/-- The fields of a row that closes a call. -/
def terminalFields (call : CallReservation) (ending : Ending F) : Dict F :=
  [("kind".toList, .str call.kind), ("model".toList, .str call.model),
    ("step_id".toList, optional call.stepId), ("arm".toList, optional call.arm),
    ("call_id".toList, .str call.callId), ("reason".toList, .none),
    ("event".toList, .str ending.event), ("input_tokens".toList, optionalInt ending.inputTokens),
    ("output_tokens".toList, optionalInt ending.outputTokens),
    ("estimated_tokens".toList, optionalInt ending.estimatedTokens),
    ("duration_ms".toList, optionalFloat ending.durationMs),
    ("error_kind".toList, optional ending.errorKind)]

/-- Append a row to the file. -/
def appendRow (file : Str) (row : Dict F) : Str := file ++ (spaced false row ++ ['\n'])

/-! ## Reading the file -/

/-- Check what was read of a line. -/
def checkRow (manifest : FrozenManifest) (row : Value F) : Except LedgerError (Dict F) :=
  match row with
  | .dict row =>
      if Dict.getStr row "schema_version".toList ≠ some ledgerSchema then
        .error (.traceability "external-call ledger schema is invalid".toList)
      else if Dict.getStr row "manifest_sha256".toList ≠ some manifest.sha256 then
        .error (.traceability "external-call ledger manifest hash mismatch".toList)
      else if Dict.getStr row "origin_commit".toList ≠ some manifest.expectedCommit then
        .error (.traceability "external-call ledger origin commit mismatch".toList)
      else .ok row
  | _ => .error (.traceability "external-call ledger schema is invalid".toList)

/-- The lines of the file that are not blank. -/
def ledgerLines (file : Str) : List Str :=
  (Text.splitlines (EventLog.universalNewlines file)).filter fun line => Text.strip line ≠ []

/-- The value of a line. -/
def parseLine (line : Str) : Except LedgerError (Value F) :=
  match loads ⟨true, true⟩ line with
  | none => .error (.traceability "external-call ledger cannot be parsed".toList)
  | some value => .ok value

/-- The rows of the file. -/
def events (F : Type) [FloatOps F] (manifest : FrozenManifest) (file : Str) :
    Except LedgerError (List (Dict F)) := do
  let rows ← (ledgerLines file).mapM (parseLine (F := F))
  rows.mapM (checkRow manifest)

/-- Whether a value is a text. -/
def isText (text : Str) : Value F → Bool
  | .str other => other = text
  | _ => false

/-- What stands under a key that has to be there. -/
def field (key : Str) (event : Dict F) : Except LedgerError (Value F) :=
  match Dict.get event key with
  | none => .error (.missingKey key)
  | some value => .ok value

/-- Whether a text stands under a key that has to be there. -/
def fieldIs (key text : Str) (event : Dict F) : Except LedgerError Bool := do
  let value ← field key event
  .ok (isText text value)

/-- A value that sets and keys can be made of. -/
def hashed (value : Value F) : Except LedgerError (Value F) :=
  match value with
  | .list _ | .dict _ => .error (.fault .typeError)
  | _ => .ok value

/-- Whether a row closes a call. -/
def isTerminal (event : Dict F) : Except LedgerError Bool := do
  let value ← field "event".toList event
  let value ← hashed value
  .ok (isText "succeeded".toList value || isText "failed".toList value)

/-- The rows that pass a test. -/
def select (test : Dict F → Except LedgerError Bool) :
    List (Dict F) → Except LedgerError (List (Dict F))
  | [] => .ok []
  | event :: rest => do
      let passes ← test event
      let others ← select test rest
      .ok (if passes then event :: others else others)

/-- How many rows pass a test. -/
def tally (test : Dict F → Except LedgerError Bool) (rows : List (Dict F)) :
    Except LedgerError Nat := do
  let passing ← select test rows
  .ok passing.length

/-! ## Operations -/

/-- How many calls were announced. -/
structure Counts where
  /-- Of each kind. -/
  ofKind : ExternalKind → Nat
  /-- Of all kinds. -/
  total : Nat

/-- Count the calls that were announced. -/
def counts (F : Type) [FloatOps F] (manifest : FrozenManifest) (file : Str) :
    Except LedgerError Counts := do
  let rows ← events F manifest file
  let started ← select (fieldIs "event".toList "started".toList) rows
  let embedding ← tally (fieldIs "kind".toList ExternalKind.embeddingBatch.text) started
  let generation ← tally (fieldIs "kind".toList ExternalKind.generation.text) started
  let extraction ← tally (fieldIs "kind".toList ExternalKind.semanticExtraction.text) started
  .ok {
    ofKind := fun
      | .embeddingBatch => embedding
      | .generation => generation
      | .semanticExtraction => extraction
    total := started.length }

/-- The text of a refusal. -/
def refusal (manifest : FrozenManifest) (counts : Counts) (kind : ExternalKind) : Str :=
  "external-call limit reached for ".toList ++ kind.text ++ ": ".toList ++
    Numeral.decimal (counts.ofKind kind) ++ ['/'] ++ Numeral.decimal (manifest.callLimit kind) ++
    ", total ".toList ++ Numeral.decimal counts.total ++ ['/'] ++
    Numeral.decimal manifest.totalLimit

/-- Announce a call, if the limits allow one more: the reservation, and the file
afterwards. -/
def reserve (F : Type) [FloatOps F] (manifest : FrozenManifest) (ledger : Ledger) (draw : Draw)
    (kind model : Str) (stepId arm : Option Str) (file : Str) :
    Except LedgerError CallReservation × Str :=
  match ExternalKind.ofText kind with
  | none => (.error (.unknownKind kind), file)
  | some external =>
      if ledger.attestedCommit ≠ some manifest.expectedCommit then
        (.error (.traceability "origin attestation does not match manifest".toList), file)
      else
        match counts F manifest file with
        | .error problem => (.error problem, file)
        | .ok counted =>
            if manifest.callLimit external ≤ counted.ofKind external ∨
                manifest.totalLimit ≤ counted.total then
              (.error (.budgetExceeded (refusal manifest counted external)),
                appendRow file (baseFields (F := F) manifest ledger draw ++
                  reservationFields "budget_blocked".toList kind model stepId arm none
                    (some "approved_external_call_limit_reached".toList)))
            else
              (.ok ⟨draw.callId.text, kind, model, stepId, arm⟩,
                appendRow file (baseFields (F := F) manifest ledger draw ++
                  reservationFields "started".toList kind model stepId arm
                    (some draw.callId.text) none))

/-- Whether a row is one of a call and passes a test. -/
def ofCall (call : CallReservation) (test : Dict F → Except LedgerError Bool)
    (event : Dict F) : Except LedgerError Bool :=
  if (Dict.get event "call_id".toList).any (isText call.callId) then test event else .ok false

/-- Close a call: what is raised, and the file afterwards. -/
def terminal (manifest : FrozenManifest) (ledger : Ledger) (draw : Draw)
    (call : CallReservation) (ending : Ending F) (file : Str) : Except LedgerError Unit × Str :=
  let found : Except LedgerError (List (Dict F) × List (Dict F)) := do
    let rows ← events F manifest file
    let starts ← select (ofCall call (fieldIs "event".toList "started".toList)) rows
    let terminals ← select (ofCall call isTerminal) rows
    .ok (starts, terminals)
  match found with
  | .error problem => (.error problem, file)
  | .ok (starts, terminals) =>
      if starts.length ≠ 1 ∨ terminals ≠ [] then
        (.error (.traceability "external-call terminal state is inconsistent".toList), file)
      else
        (.ok (), appendRow file (baseFields manifest ledger draw ++ terminalFields call ending))

/-- Close a call that succeeded. -/
def succeeded (manifest : FrozenManifest) (ledger : Ledger) (draw : Draw)
    (call : CallReservation) (inputTokens outputTokens estimatedTokens : Option Int)
    (durationMs : Option F) (file : Str) : Except LedgerError Unit × Str :=
  terminal manifest ledger draw call
    ⟨true, inputTokens, outputTokens, estimatedTokens, durationMs, none⟩ file

/-- Close a call that failed. -/
def failed (manifest : FrozenManifest) (ledger : Ledger) (draw : Draw)
    (call : CallReservation) (errorKind : Str) (durationMs : Option F) (file : Str) :
    Except LedgerError Unit × Str :=
  terminal manifest ledger draw call ⟨false, none, none, none, durationMs, some errorKind⟩ file

/-! ## The trace and the summary -/

/-- Whether a value is one of some. -/
def isOneOf (ids : List (Value F)) (id : Value F) : Bool := ids.any fun other => other.equal id

/-- What a row has as identifier of a call. -/
def callIdOf (event : Dict F) : Value F := (Dict.get event "call_id".toList).getD .none

/-- Go through the rows with the calls that were announced and closed so far. -/
def traceFrom (starts terminals : List (Value F)) :
    List (Dict F) → Except LedgerError (List (Value F) × List (Value F))
  | [] => .ok (starts, terminals)
  | event :: rest => do
      let id := callIdOf event
      if ← fieldIs "event".toList "started".toList event then
        if !id.truthy then
          .error (.traceability "duplicate or missing call reservation".toList)
        else
          let id ← hashed id
          if isOneOf starts id then
            .error (.traceability "duplicate or missing call reservation".toList)
          else traceFrom (starts ++ [id]) terminals rest
      else if ← isTerminal event then
        let id ← hashed id
        if !isOneOf starts id || isOneOf terminals id then
          .error (.traceability "orphan or duplicate call terminal".toList)
        else traceFrom starts (terminals ++ [id]) rest
      else traceFrom starts terminals rest

/-- Open a ledger on the file: its trace has to be one of calls that were closed. -/
def validateTrace (F : Type) [FloatOps F] (manifest : FrozenManifest) (file : Str) :
    Except LedgerError Unit := do
  let rows ← events F manifest file
  let (starts, terminals) ← traceFrom [] [] rows
  if starts.any fun id => !isOneOf terminals id then
    .error (.traceability "an earlier external call has unknown outcome".toList)
  else .ok ()

/-- Store a row under a call. -/
def storeRow (rows : List (Value F × Dict F)) (id : Value F) (event : Dict F) :
    List (Value F × Dict F) :=
  if rows.any fun row => row.1.equal id then
    rows.map fun row => if row.1.equal id then (row.1, event) else row
  else rows ++ [(id, event)]

/-- The rows that pass a test under their calls. -/
def byCall (test : Dict F → Except LedgerError Bool) (rows : List (Value F × Dict F)) :
    List (Dict F) → Except LedgerError (List (Value F × Dict F))
  | [] => .ok rows
  | event :: rest => do
      if ← test event then
        let id ← field "call_id".toList event
        let id ← hashed id
        byCall test (storeRow rows id event) rest
      else byCall test rows rest

/-- A result of an operation on a value. -/
def lifted {α : Type} : Except ValueFault α → Except LedgerError α
  | .ok value => .ok value
  | .error problem => .error (.fault problem)

/-- The whole number under a key, zero where there is none. -/
def numberOf (key : Str) (event : Dict F) : Except LedgerError Int :=
  match Dict.get event key with
  | none => .ok 0
  | some value => if value.truthy then lifted value.asInt else .ok 0

/-- The sum of the whole numbers under a key. -/
def sumOf (key : Str) (rows : List (Dict F)) : Except LedgerError Int := do
  let numbers ← rows.mapM (numberOf key)
  .ok numbers.sum

/-- Whether a row is one of a kind and has a duration. -/
def hasDuration (kind : ExternalKind) (event : Dict F) : Except LedgerError Bool := do
  let isOfKind ← fieldIs "kind".toList kind.text event
  .ok (isOfKind && match Dict.get event "duration_ms".toList with
    | none | some .none => false
    | some _ => true)

/-- The duration of a row. -/
def durationOf (event : Dict F) : Except LedgerError F := do
  let value ← field "duration_ms".toList event
  lifted value.asFloat

/-- The durations of a kind. -/
def durations (kind : ExternalKind) (rows : List (Dict F)) : Except LedgerError (List F) := do
  let timed ← select (hasDuration kind) rows
  timed.mapM durationOf

/-- What a ledger reports. -/
structure Summary (F : Type) where
  /-- The calls that were announced. -/
  counts : Counts
  /-- How many succeeded. -/
  succeeded : Nat
  /-- How many failed. -/
  failed : Nat
  /-- How many were not closed. -/
  unknownOutcome : Nat
  /-- Tokens of the inputs. -/
  inputTokens : Int
  /-- Tokens of the outputs. -/
  outputTokens : Int
  /-- Estimated tokens of the embeddings. -/
  estimatedEmbeddingTokens : Int
  /-- The durations of each kind. -/
  durationMsByKind : ExternalKind → List F

/-- Report what the file says. -/
def summary (F : Type) [FloatOps F] (manifest : FrozenManifest) (file : Str) :
    Except LedgerError (Summary F) := do
  let rows ← events F manifest file
  let started ← byCall (fieldIs "event".toList "started".toList) [] rows
  let terminals ← byCall isTerminal [] rows
  let closing := terminals.map (·.2)
  let counted ← counts F manifest file
  let succeeded ← tally (fieldIs "event".toList "succeeded".toList) rows
  let failed ← tally (fieldIs "event".toList "failed".toList) rows
  let inputTokens ← sumOf "input_tokens".toList closing
  let outputTokens ← sumOf "output_tokens".toList closing
  let embeddings ← select (fieldIs "kind".toList ExternalKind.embeddingBatch.text) closing
  let estimatedEmbeddingTokens ← sumOf "estimated_tokens".toList embeddings
  let embedding ← durations .embeddingBatch closing
  let generation ← durations .generation closing
  let extraction ← durations .semanticExtraction closing
  .ok {
    counts := counted, succeeded, failed
    unknownOutcome :=
      (started.filter fun call => !terminals.any fun row => row.1.equal call.1).length
    inputTokens, outputTokens, estimatedEmbeddingTokens
    durationMsByKind := fun
      | .embeddingBatch => embedding
      | .generation => generation
      | .semanticExtraction => extraction }

end DualMemory
end ChatPlatform
