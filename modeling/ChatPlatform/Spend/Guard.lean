import ChatPlatform.EventLog.Events
import ChatPlatform.Foundation.Keyed
import Mathlib.Data.NNRat.Defs

/-!
# The spend guard

The worst case of a call is reserved in a ledger before the call is made, and settled
afterwards with the usage the provider reports. The ledger is what is read back from
the event log, with its amounts as numbers. The guard and the check of the ledger
compute what was spent with two loops.
-/

namespace ChatPlatform
namespace Spend

/-- Per-million-token prices. -/
structure Pricing where
  /-- The model they are for. -/
  model : Str
  /-- A million tokens read. -/
  inputUsdPerMillion : ℚ≥0
  /-- A million tokens written. -/
  outputUsdPerMillion : ℚ≥0 := 0

/-- The cost of some tokens. -/
def Pricing.cost (pricing : Pricing) (inputTokens outputTokens : Int) : ℚ :=
  (inputTokens * pricing.inputUsdPerMillion + outputTokens * pricing.outputUsdPerMillion) /
    1000000

/-- What is reserved for a call. -/
structure Reservation where
  /-- Identifier of the call. -/
  callId : Str
  /-- The worst case in dollars. -/
  usd : ℚ
  deriving DecidableEq

/-- What the guard raises. -/
inductive SpendError
  /-- Fail-closed: the call is not dispatched. -/
  | guard (message : Str)
  /-- The call does not fit the budget. -/
  | refused (kind : Str) (committed unresolved proposed budget : ℚ)
  /-- No reservation is under an identifier. -/
  | key (callId : Str)
  /-- The event log refused. -/
  | log (refusal : EventLog.EventLogError)
  deriving DecidableEq

/-- What the caller says of a call. -/
structure Call where
  /-- Its kind. -/
  kind : Str
  /-- Bound of the tokens read. -/
  maxInputTokens : Int
  /-- Bound of the tokens written. -/
  maxOutputTokens : Int := 0
  /-- How often it may be tried. -/
  attempts : Int := 2
  /-- Digest of its payload. -/
  payloadSha256 : Str
  /-- The logical attempt. -/
  logicalAttempt : Str
  deriving DecidableEq

/-- An entry of the ledger. -/
inductive Entry (F : Type)
  /-- A reservation. -/
  | reservation (callId stage : Str) (call : Call) (usd : ℚ) (model : Str)
  /-- The result of a call. -/
  | callResult (callId status : Str) (usd : Option ℚ) (usage : Option (Dict F))

variable {F : Type} [FloatOps F]

/-! ## Reading the ledger -/

/-- What was spent so far. -/
structure Tally where
  /-- What was committed. -/
  committed : ℚ := 0
  /-- The reservations that are open. -/
  reserved : List (Str × ℚ) := []
  /-- The number of reservations. -/
  ordinal : Nat := 0
  deriving DecidableEq

/-- What the open reservations amount to. -/
def unresolved (reserved : List (Str × ℚ)) : ℚ := (reserved.map (·.2)).sum

/-- The open reservations without one of them. -/
def pop (reserved : List (Str × ℚ)) (callId : Str) : List (Str × ℚ) :=
  reserved.filter (·.1 ≠ callId)

/-- Read one entry. -/
def stateStep (tally : Tally) : Entry F → Except SpendError Tally
  | .reservation callId _ _ usd _ =>
      if callId ∈ tally.reserved.map (·.1) then
        .error (.guard "ledger inconsistent: duplicate reservation".toList)
      else
        .ok { tally with
          reserved := tally.reserved ++ [(callId, usd)]
          ordinal := tally.ordinal + 1 }
  | .callResult callId _ usd _ =>
      match tally.reserved.lookup callId with
      | none => .error (.guard "ledger inconsistent: result without reservation".toList)
      | some reservation =>
          .ok { tally with
            committed := tally.committed + usd.getD reservation
            reserved := pop tally.reserved callId }

/-- Read some entries after others. -/
def stateFrom (tally : Tally) : List (Entry F) → Except SpendError Tally
  | [] => .ok tally
  | entry :: rest =>
      match stateStep tally entry with
      | .error refusal => .error refusal
      | .ok tally => stateFrom tally rest

/-- What the whole ledger says. -/
def state (ledger : List (Entry F)) : Except SpendError Tally := stateFrom {} ledger

/-- What was spent, with what is still open. -/
def spentUsd (ledger : List (Entry F)) : Except SpendError ℚ :=
  (state ledger).map fun tally => tally.committed + unresolved tally.reserved

/-! ## The guard -/

/-- The guard of one stage. -/
structure SpendGuard where
  /-- The stage. -/
  stage : Str
  /-- The ceiling over all stages. -/
  ceilingUsd : ℚ
  /-- The cap of the stage. -/
  subCapUsd : ℚ
  /-- The prices. -/
  pricing : Pricing
  /-- The cap is positive. -/
  subCapPositive : 0 < subCapUsd
  /-- The cap is within the ceiling. -/
  withinCeiling : subCapUsd ≤ ceilingUsd

/-- What may be spent. -/
def budget (ceilingUsd subCapUsd : ℚ) : ℚ := min ceilingUsd subCapUsd

/-- A number with leading zeros. -/
def padded (width n : Nat) : Str :=
  List.replicate (width - (Nat.toDigits 10 n).length) '0' ++ Nat.toDigits 10 n

/-- The identifier of the next call of a stage. -/
def nextCallId (stage : Str) (ordinal : Nat) : Str := stage ++ '-' :: padded 6 ordinal

namespace SpendGuard

/-- What the guard may spend. -/
def budget (guard : SpendGuard) : ℚ := Spend.budget guard.ceilingUsd guard.subCapUsd

/-- The worst case of a call. -/
def proposed (guard : SpendGuard) (call : Call) : ℚ :=
  guard.pricing.cost call.maxInputTokens call.maxOutputTokens * call.attempts

/-- Read the ledger and decide on a reservation, or refuse. -/
def decision (guard : SpendGuard) (ledger : List (Entry F)) (call : Call) :
    Except SpendError (Reservation × Entry F) :=
  if call.maxInputTokens < 0 ∨ call.maxOutputTokens < 0 ∨ call.attempts < 1 then
    .error (.guard "cost_bound_unavailable: invalid call bounds".toList)
  else
    match state ledger with
    | .error refusal => .error refusal
    | .ok tally =>
        if guard.budget < tally.committed + unresolved tally.reserved + guard.proposed call then
          .error (.refused call.kind tally.committed (unresolved tally.reserved)
            (guard.proposed call) guard.budget)
        else
          let callId := nextCallId guard.stage tally.ordinal
          .ok (⟨callId, guard.proposed call⟩,
            .reservation callId guard.stage call (guard.proposed call) guard.pricing.model)

/-- Record the worst case, or refuse: what is returned or raised, and the ledger
afterwards. -/
def reserve (guard : SpendGuard) (ledger : List (Entry F)) (call : Call) :
    Except SpendError Reservation × List (Entry F) :=
  match guard.decision ledger call with
  | .error refusal => (.error refusal, ledger)
  | .ok (reservation, entry) => (.ok reservation, ledger ++ [entry])

/-- The number of a value that is an integer. -/
def asInt : Value F → Option Int
  | .int n => some n
  | .bool held => some (if held then 1 else 0)
  | _ => none

/-- What the reported usage costs, if it reports integers. -/
def reportedCost (guard : SpendGuard) (usage : Dict F) : Option ℚ :=
  let inputTokens := Dict.get usage "prompt_tokens".toList <|>
    Dict.get usage "input_tokens".toList
  let outputTokens := (Dict.get usage "completion_tokens".toList <|>
    Dict.get usage "output_tokens".toList).getD (.int 0)
  match inputTokens.bind asInt, asInt outputTokens with
  | some inputTokens, some outputTokens => some (guard.pricing.cost inputTokens outputTokens)
  | _, _ => none

/-- The entry that settles a reservation, or what is raised. -/
def settlement
    (guard : SpendGuard)
    (reservation : Reservation)
    (status : Str)
    (usage : Option (Dict F)) : Except SpendError (Entry F) :=
  if status ∉ ["ok".toList, "failed".toList] then
    .error (.guard "invalid call status".toList)
  else if usage.all (fun usage => Json.finite (.dict usage)) then
    .ok (.callResult reservation.callId status (usage.bind guard.reportedCost) usage)
  else .error (.log .value)

/-- Resolve a reservation with reported usage, or leave it charged in full: what is
charged or raised, and the ledger afterwards. -/
def settle
    (guard : SpendGuard)
    (ledger : List (Entry F))
    (reservation : Reservation)
    (status : Str)
    (usage : Option (Dict F)) : Except SpendError ℚ × List (Entry F) :=
  match guard.settlement reservation status usage with
  | .error refusal => (.error refusal, ledger)
  | .ok entry =>
      (.ok ((usage.bind guard.reportedCost).getD reservation.usd), ledger ++ [entry])

end SpendGuard

/-! ## The check of the ledger -/

/-- What is said of a reservation. -/
structure Row where
  /-- Identifier of the call. -/
  callId : Str
  /-- What was committed before it. -/
  committedBefore : ℚ
  /-- What was open before it. -/
  unresolvedBefore : ℚ
  /-- What it reserved. -/
  proposed : ℚ
  /-- Whether it fitted. -/
  fits : Bool
  deriving DecidableEq

/-- What was replayed so far. -/
structure Replay where
  /-- What was committed. -/
  committed : ℚ := 0
  /-- The reservations that are open. -/
  reserved : List (Str × ℚ) := []
  /-- What is said of the reservations. -/
  rows : List Row := []
  deriving DecidableEq

/-- Replay one entry. -/
def replayStep (budget : ℚ) (replay : Replay) : Entry F → Except SpendError Replay
  | .reservation callId _ _ usd _ =>
      let openTotal := unresolved replay.reserved
      .ok { replay with
        rows := replay.rows ++
          [⟨callId, replay.committed, openTotal, usd,
            replay.committed + openTotal + usd ≤ budget⟩]
        reserved := Keyed.set replay.reserved callId usd }
  | .callResult callId _ usd _ =>
      match replay.reserved.lookup callId with
      | none => .error (.key callId)
      | some reservation =>
          .ok { replay with
            committed := replay.committed + usd.getD reservation
            reserved := pop replay.reserved callId }

/-- Replay some entries after others. -/
def replayFrom (budget : ℚ) (replay : Replay) : List (Entry F) → Except SpendError Replay
  | [] => .ok replay
  | entry :: rest =>
      match replayStep budget replay entry with
      | .error refusal => .error refusal
      | .ok replay => replayFrom budget replay rest

/-- What the check of a ledger reports. -/
structure LedgerReport where
  /-- Whether every call fitted and the total does. -/
  passed : Bool
  /-- The number of calls. -/
  calls : Nat
  /-- The total in dollars. -/
  totalUsd : ℚ
  /-- The budget in dollars. -/
  budgetUsd : ℚ
  /-- What is said of the calls. -/
  rows : List Row
  deriving DecidableEq

/-- Recompute the invariant for every dispatch in order. -/
def validateLedger (ledger : List (Entry F)) (ceilingUsd subCapUsd : ℚ) :
    Except SpendError LedgerReport :=
  let budget := budget ceilingUsd subCapUsd
  (replayFrom budget {} ledger).map fun replay =>
    let total := replay.committed + unresolved replay.reserved
    { passed := replay.rows.all (·.fits) && total ≤ budget
      calls := replay.rows.length
      totalUsd := total
      budgetUsd := budget
      rows := replay.rows }

end Spend
end ChatPlatform
