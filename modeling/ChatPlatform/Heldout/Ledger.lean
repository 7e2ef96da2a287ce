import ChatPlatform.Foundation.Interleaving
import ChatPlatform.Foundation.Value

/-!
# The attempts on the held-out run

An append-only ledger of attempts under the policy of one valid run. Starting an
attempt reads the ledger, decides, creates a reservation file exclusively and appends;
ending one reads the ledger, decides and appends. Between these steps other processes
may take theirs, and a process may stop anywhere.
-/

namespace ChatPlatform
namespace Heldout

/-- What a ledger event says about its attempt. -/
inductive AttemptStatus
  | started
  | invalid
  | completed
  deriving DecidableEq, Repr

/-- One line of the ledger. -/
structure AttemptEvent where
  /-- Version of the schema. -/
  schemaVersion : Str
  /-- Fresh identifier of the event. -/
  eventId : Str
  /-- When it was recorded. -/
  recordedAt : Str
  /-- The run of the attempt. -/
  runId : Str
  /-- Number of the attempt. -/
  attemptNumber : Int
  /-- What it says. -/
  status : AttemptStatus
  /-- Digest of the registration. -/
  registrationSha256 : Str
  /-- Digest of the dataset. -/
  datasetSha256 : Str
  /-- The commit. -/
  gitHead : Str
  /-- Why an attempt is invalid. -/
  reasonCode : Option Str
  /-- Whether another attempt may follow. -/
  retryEligible : Option Bool
  /-- What a completed attempt found. -/
  verdict : Option Str
  deriving DecidableEq

/-- The schema version the ledger writes. -/
def schemaVersion : Str := "conversation-memory-heldout-attempt-v1".toList

/-- An attempt that was started. -/
structure HeldoutAttempt where
  /-- Its run. -/
  runId : Str
  /-- Its number. -/
  attemptNumber : Int
  deriving DecidableEq

/-- The characters `splitlines` ends a line at and the serialisation leaves as they
are. -/
def lineBoundaries : List Char := ['\x85', '\u2028', '\u2029']

/-- The event is read back as the one line it was written as. -/
def AttemptEvent.isOneLine (event : AttemptEvent) : Bool :=
  ([event.schemaVersion, event.eventId, event.recordedAt, event.runId,
    event.registrationSha256, event.datasetSha256, event.gitHead,
    event.reasonCode.getD [], event.verdict.getD []]).all fun text =>
      text.all fun c => !lineBoundaries.contains c

/-- The events that start an attempt. -/
def starts (events : List AttemptEvent) : List AttemptEvent :=
  events.filter (·.status = .started)

/-- The events that end the attempt of a run. -/
def terminalsOf (events : List AttemptEvent) (runId : Str) : List AttemptEvent :=
  events.filter fun event => event.runId = runId ∧ event.status ≠ .started

/-- Read the ledger. -/
def readEvents (events : List AttemptEvent) : Except Str (List AttemptEvent) :=
  if !events.all (·.isOneLine) then
    .error "held-out attempt ledger is invalid".toList
  else if !events.all (·.schemaVersion = schemaVersion) then
    .error "held-out attempt schema version is invalid".toList
  else if (starts events).map (·.attemptNumber) ≠
      (List.range' 1 (starts events).length).map (fun number : Nat => (number : Int)) then
    .error "held-out attempt numbering is invalid".toList
  else .ok events

/-! ## Starting an attempt -/

/-- The value of a policy that must be a positive integer. -/
def positiveInt (policy : Dict Empty) (key : Str) : Except Str Int :=
  match Dict.get policy key with
  | some (.int value) =>
      if 0 < value then .ok value
      else .error (key ++ " must be a positive integer".toList)
  | _ => .error (key ++ " must be a positive integer".toList)

/-- The value of a policy that must be an integer that is not negative. -/
def nonNegativeInt (policy : Dict Empty) (key : Str) : Except Str Int :=
  match Dict.get policy key with
  | some (.int value) =>
      if 0 ≤ value then .ok value
      else .error (key ++ " must be a non-negative integer".toList)
  | _ => .error (key ++ " must be a non-negative integer".toList)

/-- Why the last attempt does not authorise another one. -/
def previousRefusal (events : List AttemptEvent) : Option Str :=
  match (starts events).getLast? with
  | none => none
  | some last =>
      match (terminalsOf events last.runId).getLast? with
      | none =>
          some "the previous held-out attempt has no terminal classification".toList
      | some terminal =>
          if terminal.status ≠ .invalid ∨ terminal.retryEligible ≠ some true then
            some "the previous held-out attempt does not authorize replacement".toList
          else none

/-- The number of the next attempt, from the events that were read. -/
def nextAttempt
    (maxTotalAttempts : Int)
    (events : List AttemptEvent)
    (runId : Str) : Except Str Int :=
  if events.any (·.status = .completed) then
    .error "a valid held-out run already completed".toList
  else
    match previousRefusal events with
    | some refusal => .error refusal
    | none =>
        let attemptNumber : Int := (starts events).length + 1
        if maxTotalAttempts < attemptNumber then
          .error "the held-out attempt limit is exhausted".toList
        else if events.any (·.runId = runId) then
          .error "held-out run_id already exists".toList
        else .ok attemptNumber

/-- What starting an attempt decides before it reserves a number. -/
def admission (policy : Dict Empty) (events : List AttemptEvent) (runId : Str) :
    Except Str Int :=
  match positiveInt policy "maximum_total_attempts".toList,
      nonNegativeInt policy "maximum_replacement_attempts".toList with
  | .error refusal, _ => .error refusal
  | .ok _, .error refusal => .error refusal
  | .ok maxTotalAttempts, .ok maximumReplacements =>
      if maxTotalAttempts ≠ maximumReplacements + 1 then
        .error "held-out attempt limits are inconsistent".toList
      else
        match readEvents events with
        | .error refusal => .error refusal
        | .ok events => nextAttempt maxTotalAttempts events runId

/-- What a caller starts an attempt with. -/
structure StartCall where
  /-- The run. -/
  runId : Str
  /-- Digest of the registration. -/
  registrationSha256 : Str
  /-- Digest of the dataset. -/
  datasetSha256 : Str
  /-- The commit. -/
  gitHead : Str

/-- The event that starts an attempt. -/
def StartCall.event
    (call : StartCall)
    (attemptNumber : Int)
    (eventId recordedAt : Str) : AttemptEvent where
  schemaVersion := schemaVersion
  eventId
  recordedAt
  runId := call.runId
  attemptNumber
  status := .started
  registrationSha256 := call.registrationSha256
  datasetSha256 := call.datasetSha256
  gitHead := call.gitHead
  reasonCode := none
  retryEligible := none
  verdict := none

/-! ## Ending an attempt -/

/-- How an owner ends its attempt. -/
inductive Ending
  /-- It is not valid. -/
  | invalid (reasonCode : Str) (retryEligible : Bool)
  /-- It is complete. -/
  | completed (verdict : Str)

/-- The event that ends an attempt, from the events that were read. -/
def terminal
    (events : List AttemptEvent)
    (attempt : HeldoutAttempt)
    (ending : Ending)
    (eventId recordedAt : Str) : Except Str AttemptEvent :=
  match readEvents events with
  | .error refusal => .error refusal
  | .ok events =>
      match (starts events).filter (·.runId = attempt.runId),
          terminalsOf events attempt.runId with
      | [started], [] =>
          .ok { started with
            eventId
            recordedAt
            status :=
              match ending with
              | .invalid _ _ => .invalid
              | .completed _ => .completed
            reasonCode :=
              match ending with
              | .invalid reasonCode _ => some reasonCode
              | .completed _ => none
            retryEligible :=
              match ending with
              | .invalid _ retryEligible => some retryEligible
              | .completed _ => some false
            verdict :=
              match ending with
              | .invalid _ _ => none
              | .completed verdict => some verdict }
      | _, _ => .error "held-out attempt terminal state is invalid".toList

/-- End an attempt; only two verdicts are known. -/
def classify
    (events : List AttemptEvent)
    (attempt : HeldoutAttempt)
    (ending : Ending)
    (eventId recordedAt : Str) : Except Str AttemptEvent :=
  match ending with
  | .invalid _ _ => terminal events attempt ending eventId recordedAt
  | .completed verdict =>
      if verdict = "GO".toList ∨ verdict = "NO_GO".toList then
        terminal events attempt ending eventId recordedAt
      else .error "held-out verdict is invalid".toList

/-! ## The atomic steps -/

/-- The files: the lines of the ledger, and the reservations by number with the run
they name. -/
structure Files where
  /-- The ledger. -/
  events : List AttemptEvent := []
  /-- The reservation files. -/
  reservations : List (Int × Str) := []

/-- Where a process is. -/
inductive Phase
  /-- It has nothing to do with the ledger. -/
  | idle
  /-- It decided to start an attempt of a number. -/
  | decided (call : StartCall) (attemptNumber : Int)
  /-- It created the reservation of a number. -/
  | reserved (call : StartCall) (attemptNumber : Int)
  /-- It owns a started attempt. -/
  | owner (attempt : HeldoutAttempt)
  /-- It decided how its attempt ended. -/
  | classified (event : AttemptEvent)

/-- One step of a process. -/
inductive Move
  /-- Call `start`: read and decide. -/
  | start (call : StartCall)
  /-- Create the reservation file. -/
  | reserve
  /-- Append the event that starts the attempt. -/
  | appendStart (eventId recordedAt : Str)
  /-- Call `invalid` or `completed`: read and decide. -/
  | finish (ending : Ending) (eventId recordedAt : Str)
  /-- Append the event that ends the attempt. -/
  | appendTerminal
  /-- Stop, and forget everything. -/
  | crash

/-- What a step does to the files and to the process. A call that raises leaves the
files as they are; an owner still owns its attempt then. -/
def act (policy : Dict Empty) (files : Files) : Phase → Move → Files × Phase
  | .idle, .start call =>
      match admission policy files.events call.runId with
      | .ok attemptNumber => (files, .decided call attemptNumber)
      | .error _ => (files, .idle)
  | .decided call attemptNumber, .reserve =>
      if attemptNumber ∈ files.reservations.map (·.1) then (files, .idle)
      else
        ({ files with
            reservations := files.reservations ++ [(attemptNumber, call.runId)] },
          .reserved call attemptNumber)
  | .reserved call attemptNumber, .appendStart eventId recordedAt =>
      ({ files with
          events := files.events ++ [call.event attemptNumber eventId recordedAt] },
        .owner ⟨call.runId, attemptNumber⟩)
  | .owner attempt, .finish ending eventId recordedAt =>
      match classify files.events attempt ending eventId recordedAt with
      | .ok event => (files, .classified event)
      | .error _ => (files, .owner attempt)
  | .classified event, .appendTerminal =>
      ({ files with events := files.events ++ [event] }, .idle)
  | _, .crash => (files, .idle)
  | phase, _ => (files, phase)

end Heldout
end ChatPlatform
