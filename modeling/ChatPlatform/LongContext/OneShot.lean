import ChatPlatform.LongContext.Development

/-!
# A request is sent once

Whatever happens to the files, to the requests and to the process, and however often the runner is
called with a directory: every request that was handed to the transport had its reservation in the
ledger file, it was handed over once and in its turn, the requests before it were answered, and
the reservations stay below the cap of the phase.
-/

namespace ChatPlatform
namespace LongContext

open Growth Json Program

/-! ## What is promised -/

/-- What names an attempt in the ledger. -/
def AttemptRecord.label (record : AttemptRecord) : Str × Str × Str :=
  (record.stepId, record.armId, record.requestParameterHash)

/-- The same of a request. -/
def PreparedDevelopmentRequest.label (prepared : PreparedDevelopmentRequest) : Str × Str × Str :=
  (prepared.step.stepId, prepared.armId, prepared.requestParameterHash)

/-- An attempt was answered. -/
structure AttemptRecord.Answered (record : AttemptRecord) : Prop where
  /-- It did not fail. -/
  failureClass : record.failureClass = none
  /-- An answer arrived. -/
  received : record.responseTokenOrCandidateReceived = true

/-- An attempt was reserved, and nothing came of it yet. -/
structure AttemptRecord.Open (record : AttemptRecord) : Prop where
  /-- It did not fail. -/
  failureClass : record.failureClass = none
  /-- No usage was reported. -/
  usage : record.reportedUsageOrNull = none
  /-- No answer arrived. -/
  received : record.responseTokenOrCandidateReceived = false

/-- The rows of a ledger file when a request is handed over. -/
structure Backs
    (priorReservedCost : ℚ)
    (before : List Sent)
    (request : PreparedDevelopmentRequest)
    (records : List AttemptRecord)
    (record : AttemptRecord) : Prop where
  /-- There is one for each request before. -/
  earlier : records.map (·.label) = before.map (·.request.label)
  /-- These were answered. -/
  answered : ∀ earlier ∈ records, earlier.Answered
  /-- The last one is the reservation of the request. -/
  named : record.label = request.label
  /-- Nothing came of it yet. -/
  reserved : record.Open
  /-- They are of one phase. -/
  phases : ∀ held ∈ records ++ [record], held.phase = .development
  /-- The ledger passes its check. -/
  sound : Integrity ⟨records ++ [record], none⟩
  /-- With what earlier runs reserved it stays below the cap. -/
  affordable : priorReservedCost + cost (records ++ [record]) ≤ 3

/-- A request was handed over after its reservation was in the ledger file. -/
structure Persisted
    (priorReservedCost : ℚ)
    (before : List Sent)
    (sent : Sent) : Prop where
  /-- It was its body that was handed over. -/
  body : sent.body = apiRequestBody sent.request.promptText
  /-- The ledger file had a row for it. -/
  rows : ∃ records record, sent.persisted = (records ++ [record]).map ledgerRow ∧
    Backs priorReservedCost before sent.request records record

/-- The rows are answered attempts, one for each request, in their order. -/
structure AllAnswered
    (prepared : List PreparedDevelopmentRequest)
    (rows : List LedgerRow) : Prop where
  /-- The attempts are those of the requests. -/
  labels : rows.map (·.record.label) = prepared.map (·.label)
  /-- Every one was answered. -/
  answered : ∀ row ∈ rows, row.record.Answered

/-- Where a run over some requests may be. -/
structure Stopped
    (priorReservedCost : ℚ)
    (prepared : List PreparedDevelopmentRequest)
    (world : RunWorld) : Prop where
  /-- The requests were handed over in their order, and none twice. -/
  order : world.sent.map (·.request) <+: prepared
  /-- Each was reserved before. -/
  recorded : Grown (Persisted priorReservedCost) world.sent
  /-- The ledger file has all of them. -/
  kept : world.sent.map (·.request.label) <+:
    (world.files.attemptLedger.getD []).map (·.record.label)
  /-- The directory is not used again. -/
  used : world.files.present = true ∧ world.files.registration.isSome = true
  /-- A run that is complete has handed over all requests, all were answered, and it counts its
  results. -/
  complete : ∀ kind attempts digest correct scored reserved,
    world.files.summary = some (.complete kind attempts digest correct scored reserved) →
      world.sent.map (·.request) = prepared ∧
        AllAnswered prepared (world.files.attemptLedger.getD []) ∧
          attempts = prepared.length ∧ scored = prepared.length ∧
            (world.files.results.getD []).length = scored ∧
              correct = (world.files.results.getD []).countP (·.score.correct)

/-- A run that is neither stopped nor finished. -/
structure Going
    (priorReservedCost : ℚ)
    (done : List PreparedDevelopmentRequest)
    (world : RunWorld) : Prop where
  /-- These requests were handed over. -/
  requests : world.sent.map (·.request) = done
  /-- Each was reserved before. -/
  recorded : Grown (Persisted priorReservedCost) world.sent
  /-- No sample is frozen. -/
  unfrozen : world.ledger.confirmatoryConversations = none
  /-- The ledger has them. -/
  labels : world.ledger.records.map (·.label) = done.map (·.label)
  /-- They were answered. -/
  answered : ∀ record ∈ world.ledger.records, record.Answered
  /-- They are of one phase. -/
  phases : ∀ record ∈ world.ledger.records, record.phase = .development
  /-- The rows are those of the ledger. -/
  rows : world.ledgerRows = world.ledger.records.map ledgerRow
  /-- The ledger file has them. -/
  file : world.files.attemptLedger.getD [] = world.ledgerRows
  /-- The directory is not used again. -/
  used : world.files.present = true ∧ world.files.registration.isSome = true
  /-- There is no summary. -/
  unfinished : world.files.summary = none
  /-- Each has a result. -/
  results : world.files.results.getD [] = world.results ∧ world.results.length = done.length

/-- An attempt is being made. -/
structure Attempting
    (priorReservedCost : ℚ)
    (prepared done : List PreparedDevelopmentRequest)
    (item : PreparedDevelopmentRequest)
    (record : AttemptRecord)
    (world : RunWorld) : Prop where
  /-- The run may stop here. -/
  stopped : Stopped priorReservedCost prepared world
  /-- No sample is frozen. -/
  unfrozen : world.ledger.confirmatoryConversations = none
  /-- The ledger has the attempts before and this one. -/
  ledger : ∃ records, world.ledger.records = records ++ [record] ∧
    records.map (·.label) = done.map (·.label) ∧ ∀ earlier ∈ records, earlier.Answered
  /-- The attempt is the one of the request. -/
  named : record.label = item.label
  /-- They are of one phase. -/
  phases : ∀ held ∈ world.ledger.records, held.phase = .development
  /-- The rows are those of the ledger. -/
  rows : world.ledgerRows = world.ledger.records.map ledgerRow
  /-- The ledger file has them. -/
  file : world.files.attemptLedger = some world.ledgerRows
  /-- There is no summary. -/
  unfinished : world.files.summary = none
  /-- Each request before has a result. -/
  results : world.files.results.getD [] = world.results ∧ world.results.length = done.length

variable
  {F : Type}
  [FloatOps F]
  {priorReservedCost : ℚ}
  {prepared done rest : List PreparedDevelopmentRequest}
  {item : PreparedDevelopmentRequest}
  {record : AttemptRecord}
  {ledger : AttemptLedger}
  {world : RunWorld}

/-- A run that has no summary may stop. -/
theorem Going.stopped
    (going : Going priorReservedCost done world)
    (begins : done <+: prepared) : Stopped priorReservedCost prepared world where
  order := going.requests.symm ▸ begins
  recorded := going.recorded
  kept := by
    have labels : world.sent.map (·.request.label) = done.map (·.label) := by
      rw [← going.requests, List.map_map]
      rfl
    rw [labels, ← going.labels, going.file, going.rows, List.map_map]
    exact List.prefix_refl _
  used := going.used
  complete := by
    intro _ _ _ _ _ _ isSummary
    rw [going.unfinished] at isSummary
    cases isSummary

/-- A temporary file changes nothing. -/
theorem Stopped.partialLeft
    (stopped : Stopped priorReservedCost prepared world)
    (left : Bool) :
    Stopped priorReservedCost prepared
      { world with files := { world.files with partialLeft := left } } :=
  ⟨stopped.order, stopped.recorded, stopped.kept, stopped.used, stopped.complete⟩

/-- What is written besides the ledger changes nothing, unless it is a summary of a whole run. -/
theorem Stopped.rewritten
    {other : RunWorld}
    (stopped : Stopped priorReservedCost prepared world)
    (sent : other.sent = world.sent)
    (ledger : other.files.attemptLedger = world.files.attemptLedger)
    (present : other.files.present = world.files.present)
    (registration : other.files.registration = world.files.registration)
    (incomplete : ∀ kind attempts digest correct scored reserved,
      other.files.summary ≠ some (.complete kind attempts digest correct scored reserved)) :
    Stopped priorReservedCost prepared other where
  order := sent ▸ stopped.order
  recorded := sent ▸ stopped.recorded
  kept := by
    rw [sent, ledger]
    exact stopped.kept
  used := by
    rw [present, registration]
    exact stopped.used
  complete := fun _ _ _ _ _ _ isSummary => absurd isSummary (incomplete _ _ _ _ _ _)

omit [FloatOps F] in
/-- Writing a file goes on with the file, or stops with it or without it. -/
theorem triple_writeFile
    {pre next stops : RunWorld → Prop}
    {change : RunWorld → Files}
    (left : ∀ world partialLeft, stops world →
      stops { world with files := { world.files with partialLeft } })
    (written : ∀ world, pre world → next { world with files := change world })
    (before : ∀ world, pre world → stops world)
    (after : ∀ world, pre world → stops { world with files := change world }) :
    Triple pre (writeFile (F := F) change)
      ⟨fun _ => next, fun nothing _ => nothing.elim, fun _ => stops⟩ := by
  refine Triple.await fun fate world given => ?_
  cases fate.file with
  | completes => exact written world given
  | fails partialLeft => exact left _ _ (before world given)
  | ends replaced partialLeft =>
      cases replaced with
      | true => exact left _ _ (after world given)
      | false => exact left _ _ (before world given)

/-! ## Reserving -/

/-- A request that is accepted reserves its worst case, and no cap is exceeded. -/
theorem caps_of_accepted
    {request : DispatchRequest}
    {authorization : AuthorizationState}
    {snapshot : BudgetSnapshot}
    {reservation : DispatchReservation}
    (accepted :
      validatePreDispatch request authorization snapshot ledger = .ok reservation) :
    reservation.worstCaseCostUsd =
        worstCaseGenerationCost request.inputTokenCeiling request.outputTokenCeiling ∧
      ∃ limits, phaseLimits request.phase ledger.confirmatoryConversations = some limits ∧
        ∀ check ∈ capChecks request snapshot ledger limits, check.1 = false := by
  unfold validatePreDispatch at accepted
  split at accepted
  · cases accepted
  · split at accepted
    · cases accepted
    · split at accepted
      · cases accepted
      · split at accepted
        · cases accepted
        · rename_i limits isLimits
          split at accepted
          · cases accepted
          · rename_i passed
            cases accepted
            exact ⟨rfl, limits, isLimits, firstRefusal_eq_ok_iff.mp passed⟩

/-- What comes of a reservation before anything is sent. -/
def reservedOutcome (prepared : PreparedDevelopmentRequest) : Outcome :=
  ⟨none, prepared.requestParameterHash, none, false, none⟩

/-- The record of a reservation is the one of its request, and it can be paid for. -/
theorem attemptRecord_ok
    (reserved : attemptRecord ledger item priorReservedCost = .ok record) :
    record = (dispatchRequest item).attempt (reservedOutcome item) ledger ∧
      priorReservedCost + cost (ledger.phaseRecords .development) +
        record.reservedWorstCaseCost ≤ 3 := by
  unfold attemptRecord at reserved
  split at reserved
  · cases reserved
  · rename_i reservation accepted
    obtain ⟨worst, limits, isLimits, caps⟩ := caps_of_accepted accepted
    cases isLimits
    dsimp only at reserved
    rw [worst] at reserved
    cases passed : AttemptRecord.postInit
        { stepId := item.step.stepId
          armId := item.armId
          phase := .development
          attemptOrdinal := 1
          parentAttemptId := none
          failureClass := none
          requestParameterHash := item.requestParameterHash
          reportedUsageOrNull := none
          reservedWorstCaseCost := worstCaseGenerationCost
            (dispatchRequest item).inputTokenCeiling (dispatchRequest item).outputTokenCeiling
          reservedInputTokens := inputCap item.armId
          reservedOutputTokens := 256
          responseTokenOrCandidateReceived := false
          httpStatus := none } with
    | error refusal =>
        rw [passed] at reserved
        cases reserved
    | ok _ =>
        rw [passed] at reserved
        cases reserved
        refine ⟨rfl, ?_⟩
        unfold capChecks at caps
        simp only [List.forall_mem_cons, decide_eq_false_iff_not, not_lt] at caps
        exact caps.2.2.2.2.2.2.2.2.2.2.2.2.1

/-- A reservation that is in the ledger file backs its request. -/
structure Reserved
    (priorReservedCost : ℚ)
    (prepared done : List PreparedDevelopmentRequest)
    (item : PreparedDevelopmentRequest)
    (record : AttemptRecord)
    (world : RunWorld) : Prop where
  /-- The attempt is being made. -/
  attempting : Attempting priorReservedCost prepared done item record world
  /-- It is not handed over. -/
  requests : world.sent.map (·.request) = done
  /-- The reservation backs it. -/
  backs : ∃ records, world.ledger.records = records ++ [record] ∧
    Backs priorReservedCost world.sent item records record

/-- The world after a reservation. -/
def RunWorld.withReservation (world : RunWorld) (record : AttemptRecord) : RunWorld :=
  { world with
    ledger := world.ledger.with record
    ledgerRows := world.ledgerRows ++ [ledgerRow record] }

/-- The world after the ledger file is written. -/
def RunWorld.withLedgerFile (world : RunWorld) : RunWorld :=
  { world with files := { world.files with attemptLedger := some world.ledgerRows } }

/-- An appended reservation backs its request. -/
theorem Going.reserved
    (going : Going priorReservedCost done world)
    (isPrefix : done ++ [item] <+: prepared)
    (isAttempt : record = (dispatchRequest item).attempt (reservedOutcome item) world.ledger)
    (affordable : priorReservedCost + cost (world.ledger.phaseRecords .development) +
      record.reservedWorstCaseCost ≤ 3)
    (sound : Integrity (world.ledger.with record)) :
    Reserved priorReservedCost prepared done item record
      (world.withReservation record).withLedgerFile := by
  have begins : done <+: prepared := (List.prefix_append done [item]).trans isPrefix
  have stopped := going.stopped begins
  have named : record.label = item.label := by
    rw [isAttempt]
    rfl
  have labels : world.sent.map (·.request.label) = done.map (·.label) := by
    rw [← going.requests, List.map_map]
    rfl
  have phases : ∀ held ∈ world.ledger.records ++ [record], held.phase = .development := by
    intro held isHeld
    rcases List.mem_append.mp isHeld with earlier | last
    · exact going.phases held earlier
    · rw [List.mem_singleton.mp last, isAttempt]
      rfl
  have rows : world.ledgerRows ++ [ledgerRow record] =
      (world.ledger.records ++ [record]).map ledgerRow := by
    rw [going.rows, List.map_append]
    rfl
  have ofPhase : world.ledger.phaseRecords .development = world.ledger.records :=
    List.filter_eq_self.mpr fun held isHeld => decide_eq_true (going.phases held isHeld)
  rw [ofPhase, add_assoc, ← cost_snoc] at affordable
  have whole : world.ledger.with record = ⟨world.ledger.records ++ [record], none⟩ := by
    unfold AttemptLedger.with
    rw [going.unfrozen]
  constructor
  · constructor
    · refine ⟨stopped.order, stopped.recorded, ?_, stopped.used, ?_⟩
      · show world.sent.map (·.request.label) <+:
          (world.ledgerRows ++ [ledgerRow record]).map (·.record.label)
        rw [labels, rows, List.map_map, ← going.labels]
        show world.ledger.records.map (·.label) <+:
          (world.ledger.records ++ [record]).map (·.label)
        rw [List.map_append]
        exact List.prefix_append _ _
      · intro _ _ _ _ _ _ isSummary
        have none : world.files.summary = none := going.unfinished
        have some : world.files.summary = some _ := isSummary
        rw [none] at some
        cases some
    · exact going.unfrozen
    · exact ⟨world.ledger.records, rfl, going.labels, going.answered⟩
    · exact named
    · exact phases
    · exact rows
    · rfl
    · exact going.unfinished
    · exact going.results
  · exact going.requests
  · refine ⟨world.ledger.records, rfl, ?_, going.answered, named, ?_, phases, whole ▸ sound,
      affordable⟩
    · exact going.labels.trans labels.symm
    · rw [isAttempt]
      exact ⟨rfl, rfl, rfl⟩

omit [FloatOps F] in
/-- Reserving an attempt writes the reservation to the ledger file. -/
theorem triple_reserveBeforeDispatch (isPrefix : done ++ [item] <+: prepared) :
    Triple (Going priorReservedCost done)
      (reserveBeforeDispatch (F := F) item priorReservedCost)
      ⟨Reserved priorReservedCost prepared done item, fun nothing _ => nothing.elim,
        fun _ => Stopped priorReservedCost prepared⟩ := by
  have begins : done <+: prepared := (List.prefix_append done [item]).trans isPrefix
  refine Triple.fromState fun start going => ?_
  refine Triple.andThen (fun ledger world => ledger = start.ledger ∧ world = start)
    (Triple.inspect fun world same => ⟨congrArg RunWorld.ledger same, same⟩) fun ledger => ?_
  refine Triple.given fun isLedger => ?_
  subst isLedger
  cases reserved : attemptRecord start.ledger item priorReservedCost with
  | error refusal =>
      refine Triple.raise ?_
      rintro world rfl
      exact going.stopped begins
  | ok record =>
      obtain ⟨isAttempt, affordable⟩ := attemptRecord_ok reserved
      obtain ⟨refusal, refused⟩ | ⟨appended, sound⟩ := append_cases start.ledger record
      · simp only [refused]
        refine Triple.andThen (fun _ => Stopped priorReservedCost prepared)
          (Triple.modify ?_) fun _ => Triple.raise fun _ stopped => stopped
        rintro world rfl
        exact going.stopped begins
      · simp only [appended]
        have isReserved := going.reserved isPrefix isAttempt affordable sound
        refine Triple.andThen (fun _ world => world = start.withReservation record)
          (Triple.modify fun world same => by rw [same]; rfl) fun _ => ?_
        refine Triple.andThen
          (fun _ => Reserved priorReservedCost prepared done item record)
          (triple_writeFile (fun _ left stopped => stopped.partialLeft left) ?_ ?_ ?_)
          fun _ => Triple.value fun _ holds => holds
        · rintro world rfl
          exact isReserved
        · rintro world rfl
          have stopped := going.stopped begins
          exact ⟨stopped.order, stopped.recorded, stopped.kept, stopped.used, stopped.complete⟩
        · rintro world rfl
          exact isReserved.attempting.stopped

/-! ## Handing over -/

/-- Something came of a request. -/
structure Handed
    (priorReservedCost : ℚ)
    (prepared done : List PreparedDevelopmentRequest)
    (item : PreparedDevelopmentRequest)
    (exchange : Exchange)
    (record : AttemptRecord)
    (world : RunWorld) : Prop where
  /-- The attempt is being made. -/
  attempting : Attempting priorReservedCost prepared done item record world
  /-- If it did not fail, the request was handed over and answered. -/
  handed : exchange.failureClass = none →
    exchange.content.isSome = true ∧ world.sent.map (·.request) = done ++ [item]

omit [FloatOps F] in
/-- What did not fail was answered. -/
theorem isSome_of_exchangeOf
    {reply : Reply F}
    {exchange : Exchange}
    (came : exchangeOf reply = .ok exchange)
    (noFailure : exchange.failureClass = none) : exchange.content.isSome = true := by
  unfold exchangeOf at came
  split at came
  · split at came
    · cases came
    · rename_i content usage _
      cases came
      cases content with
      | none => cases noFailure
      | some _ => rfl
  all_goals
    cases came
    try cases noFailure

/-- The world after a request is handed over. -/
def RunWorld.withSent
    (world : RunWorld)
    (item : PreparedDevelopmentRequest)
    (apiKey : Str) : RunWorld :=
  { world with
    sent := world.sent ++ [⟨item, apiRequestBody item.promptText, apiKey,
      world.files.attemptLedger.getD []⟩] }

/-- A reserved attempt may be handed over. -/
theorem Reserved.withSent
    (reserved : Reserved priorReservedCost prepared done item record world)
    (isPrefix : done ++ [item] <+: prepared)
    (apiKey : Str) :
    Attempting priorReservedCost prepared done item record (world.withSent item apiKey) ∧
      (world.withSent item apiKey).sent.map (·.request) = done ++ [item] := by
  have attempting := reserved.attempting
  obtain ⟨records, isLedger, backs⟩ := reserved.backs
  have requests : (world.withSent item apiKey).sent.map (·.request) = done ++ [item] := by
    unfold RunWorld.withSent
    rw [List.map_append, reserved.requests]
    rfl
  have persisted : world.files.attemptLedger.getD [] = (records ++ [record]).map ledgerRow := by
    rw [attempting.file, Option.getD_some, attempting.rows, isLedger]
  refine ⟨⟨⟨?_, ?_, ?_, attempting.stopped.used, ?_⟩, attempting.unfrozen, attempting.ledger,
    attempting.named, attempting.phases, attempting.rows, attempting.file, attempting.unfinished,
    attempting.results⟩, requests⟩
  · rw [requests]
    exact isPrefix
  · exact grown_snoc.mpr ⟨attempting.stopped.recorded, rfl, records, record, persisted, backs⟩
  · have labels : (world.withSent item apiKey).sent.map (·.request.label) =
        world.sent.map (·.request.label) ++ [item.label] := List.map_append
    have file : ((world.withSent item apiKey).files.attemptLedger.getD []).map
        (·.record.label) = (records ++ [record]).map (·.label) := by
      show (world.files.attemptLedger.getD []).map (·.record.label) = _
      rw [persisted, List.map_map]
      rfl
    rw [labels, file, List.map_append, backs.earlier, List.map_singleton, backs.named]
  · intro _ _ _ _ _ _ isSummary
    have some : world.files.summary = some _ := isSummary
    rw [attempting.unfinished] at some
    cases some

omit [FloatOps F] in
/-- A request is handed over once it is reserved. -/
theorem triple_dispatch (isPrefix : done ++ [item] <+: prepared) :
    Triple (Reserved priorReservedCost prepared done item record) (dispatch (F := F) item)
      ⟨fun exchange => Handed priorReservedCost prepared done item exchange record,
        fun nothing _ => nothing.elim, fun _ => Stopped priorReservedCost prepared⟩ := by
  refine Triple.await fun fate world reserved => ?_
  dsimp only
  split
  · refine ⟨reserved.attempting, fun noFailure => ?_⟩
    cases noFailure
  · exact reserved.attempting.stopped
  · rename_i apiKey _
    obtain ⟨attempting, requests⟩ := reserved.withSent isPrefix apiKey
    split
    · exact attempting.stopped
    · rename_i exchange came
      exact ⟨attempting, fun noFailure => ⟨isSome_of_exchangeOf came noFailure, requests⟩⟩

/-! ## Settling -/

/-- The world after an outcome replaces its reservation. -/
def RunWorld.withOutcome
    (world : RunWorld)
    (record : AttemptRecord)
    (exchange : Exchange) : RunWorld :=
  { world with
    ledger :=
      { world.ledger with
        records := world.ledger.records.dropLast ++ [finalized record exchange] }
    ledgerRows := world.ledgerRows.dropLast ++ [ledgerRow (finalized record exchange)] }

/-- An attempt with its outcome is the attempt of its request. -/
theorem Attempting.withOutcome
    (attempting : Attempting priorReservedCost prepared done item record world)
    (exchange : Exchange) :
    Attempting priorReservedCost prepared done item (finalized record exchange)
      (world.withOutcome record exchange).withLedgerFile := by
  obtain ⟨records, isLedger, labels, answered⟩ := attempting.ledger
  have front : world.ledger.records.dropLast = records := by
    rw [isLedger, List.dropLast_concat]
  have frontRows : world.ledgerRows.dropLast = records.map ledgerRow := by
    rw [attempting.rows, isLedger, List.map_append, List.map_singleton, List.dropLast_concat]
  have kept := attempting.stopped.kept
  constructor
  · refine ⟨attempting.stopped.order, attempting.stopped.recorded, ?_, attempting.stopped.used,
      ?_⟩
    · unfold RunWorld.withLedgerFile RunWorld.withOutcome
      dsimp only
      rw [attempting.file, Option.getD_some, attempting.rows, isLedger, List.map_append,
        List.map_append] at kept
      rw [Option.getD_some, frontRows, List.map_append]
      exact kept
    · intro _ _ _ _ _ _ isSummary
      have some : world.files.summary = some _ := isSummary
      rw [attempting.unfinished] at some
      cases some
  · exact attempting.unfrozen
  · exact ⟨records, congrArg (· ++ [finalized record exchange]) front, labels, answered⟩
  · exact attempting.named
  · intro held isHeld
    unfold RunWorld.withLedgerFile RunWorld.withOutcome at isHeld
    dsimp only at isHeld
    rw [front] at isHeld
    rcases List.mem_append.mp isHeld with earlier | last
    · refine attempting.phases held ?_
      rw [isLedger]
      exact List.mem_append_left _ earlier
    · rw [List.mem_singleton.mp last]
      refine attempting.phases record ?_
      rw [isLedger]
      exact List.mem_append_right _ (List.mem_singleton_self _)
  · unfold RunWorld.withLedgerFile RunWorld.withOutcome
    dsimp only
    rw [front, frontRows, List.map_append]
    rfl
  · rfl
  · exact attempting.unfinished
  · exact attempting.results

omit [FloatOps F] in
/-- The outcome replaces the reservation. -/
theorem triple_finalizeAttempt {exchange : Exchange} :
    Triple (Handed priorReservedCost prepared done item exchange record)
      (finalizeAttempt (F := F) record exchange)
      ⟨fun _ => Handed priorReservedCost prepared done item exchange (finalized record exchange),
        fun nothing _ => nothing.elim, fun _ => Stopped priorReservedCost prepared⟩ := by
  refine Triple.fromState fun start handed => ?_
  have attempting := handed.attempting
  have stops : ∀ world, world = start → Stopped priorReservedCost prepared world := by
    rintro world rfl
    exact attempting.stopped
  refine Triple.andThen (fun ledger world => ledger = start.ledger ∧ world = start)
    (Triple.inspect fun world same => ⟨congrArg RunWorld.ledger same, same⟩) fun ledger => ?_
  refine Triple.given fun isLedger => ?_
  subst isLedger
  split
  · exact Triple.raise stops
  · split
    · exact Triple.raise stops
    · dsimp only
      split
      · exact Triple.raise stops
      · refine Triple.andThen (fun _ world => world = start.withOutcome record exchange)
          (Triple.modify fun world same => by rw [same]; rfl) fun _ => ?_
        have settled := attempting.withOutcome exchange
        refine triple_writeFile (fun _ left stopped => stopped.partialLeft left) ?_ ?_ ?_
        · rintro world rfl
          exact ⟨settled, handed.handed⟩
        · rintro world rfl
          exact ⟨attempting.stopped.order, attempting.stopped.recorded, attempting.stopped.kept,
            attempting.stopped.used, attempting.stopped.complete⟩
        · rintro world rfl
          exact settled.stopped

/-! ## An attempt -/

/-- An answered attempt with its result goes on. -/
theorem Handed.going
    {exchange : Exchange}
    (handed : Handed priorReservedCost prepared done item exchange (finalized record exchange)
      world)
    (noFailure : exchange.failureClass = none)
    (row : ResultRow)
    {files : Files}
    (isFiles : files = { world.files with
      attemptLedger := some world.ledgerRows
      results := some (world.results ++ [row]) }) :
    Going priorReservedCost (done ++ [item])
      { world with results := world.results ++ [row], files } := by
  subst isFiles
  have attempting := handed.attempting
  obtain ⟨answered, requests⟩ := handed.handed noFailure
  obtain ⟨records, isLedger, labels, earlier⟩ := attempting.ledger
  constructor
  · exact requests
  · exact attempting.stopped.recorded
  · exact attempting.unfrozen
  · show world.ledger.records.map (·.label) = _
    rw [isLedger, List.map_append, labels, List.map_append, List.map_singleton, attempting.named]
    rfl
  · show ∀ held ∈ world.ledger.records, held.Answered
    rw [isLedger, List.forall_mem_append]
    refine ⟨earlier, fun held last => ?_⟩
    rw [List.mem_singleton.mp last]
    exact ⟨noFailure, answered⟩
  · exact attempting.phases
  · exact attempting.rows
  · rfl
  · exact attempting.stopped.used
  · exact attempting.unfinished
  · refine ⟨rfl, ?_⟩
    show (world.results ++ [row]).length = _
    rw [List.length_append, List.length_append, attempting.results.2]
    rfl

/-- An attempt is answered and goes on, or the run stops. -/
theorem triple_attempt (digest : Str) (isPrefix : done ++ [item] <+: prepared) :
    Triple (Going priorReservedCost done) (attempt (F := F) priorReservedCost digest item)
      ⟨fun _ => Going priorReservedCost (done ++ [item]), fun nothing _ => nothing.elim,
        fun _ => Stopped priorReservedCost prepared⟩ := by
  refine Triple.andThen _ (triple_reserveBeforeDispatch isPrefix) fun record => ?_
  refine Triple.andThen _ (triple_dispatch isPrefix) fun exchange => ?_
  refine Triple.andThen _ triple_finalizeAttempt fun _ => ?_
  refine Triple.fromState fun start handed => ?_
  have stopped := handed.attempting.stopped
  split
  · refine Triple.raise ?_
    rintro world rfl
    exact stopped
  · rename_i row _
    have noSummary : ∀ kind attempts digest correct scored reserved, start.files.summary ≠
        some (.complete kind attempts digest correct scored reserved) := by
      intro _ _ _ _ _ _ isSummary
      rw [handed.attempting.unfinished] at isSummary
      cases isSummary
    let counted : RunWorld := { start with results := start.results ++ [row] }
    let written : RunWorld :=
      { counted with files := { start.files with
          attemptLedger := some start.ledgerRows
          results := some counted.results } }
    refine Triple.andThen (fun _ world => world = counted)
      (Triple.modify fun world same => by rw [same]) fun _ => ?_
    refine Triple.andThen (fun _ world => world = counted.withLedgerFile)
      (triple_writeFile (fun _ left stopped => stopped.partialLeft left)
        (fun world same => by rw [same]; rfl) ?_ ?_) fun _ => ?_
    · rintro world rfl
      exact stopped.rewritten rfl rfl rfl rfl noSummary
    · rintro world rfl
      exact stopped.rewritten rfl handed.attempting.file.symm rfl rfl noSummary
    refine Triple.andThen (fun _ world => world = written)
      (triple_writeFile (fun _ left stopped => stopped.partialLeft left)
        (fun world same => by rw [same]; rfl) ?_ ?_) fun _ => ?_
    · rintro world rfl
      exact stopped.rewritten rfl handed.attempting.file.symm rfl rfl noSummary
    · rintro world rfl
      exact stopped.rewritten rfl handed.attempting.file.symm rfl rfl noSummary
    split
    · rename_i noFailure
      refine Triple.value ?_
      rintro world rfl
      exact handed.going noFailure row rfl
    · rename_i failureClass _
      have unfinished : ∀ count kind attempts digest' correct scored reserved,
          some (RunSummary.incomplete failureClass count digest) ≠
            some (.complete kind attempts digest' correct scored reserved) := by
        intro _ _ _ _ _ _ _ same
        cases same
      refine Triple.andThen (fun _ => Stopped priorReservedCost prepared)
        (triple_writeFile (fun _ left stopped => stopped.partialLeft left) ?_ ?_ ?_)
        fun _ => Triple.raise fun _ holds => holds
      · rintro world rfl
        exact stopped.rewritten rfl handed.attempting.file.symm rfl rfl (unfinished _)
      · rintro world rfl
        exact stopped.rewritten rfl handed.attempting.file.symm rfl rfl noSummary
      · rintro world rfl
        exact stopped.rewritten rfl handed.attempting.file.symm rfl rfl (unfinished _)

/-! ## Calls -/

/-- Nothing was handed over in a directory. -/
structure Idle (world : RunWorld) : Prop where
  /-- No request was. -/
  sent : world.sent = []
  /-- There is no ledger file. -/
  ledger : world.files.attemptLedger = none
  /-- There are no results. -/
  results : world.files.results = none
  /-- There is no summary. -/
  summary : world.files.summary = none
  /-- A directory that is not there holds nothing. -/
  absent : world.files.present = false → world.files.nonempty = false

/-- What a call did with a directory in which nothing was handed over: nothing, or it handed
requests over. -/
def Used (invocation : Invocation) (world : RunWorld) : Prop :=
  Idle world ∨ ∃ prepared, invocation.prepared = .ok prepared ∧
    prepared.length = invocation.expectedAttempts ∧
      Stopped invocation.priorReservedCost prepared world

/-- The ledger file of a run that is not stopped has its requests, and all were answered. -/
theorem Going.allAnswered (going : Going priorReservedCost done world) :
    AllAnswered done (world.files.attemptLedger.getD []) := by
  have file : world.files.attemptLedger.getD [] = world.ledger.records.map ledgerRow :=
    going.file.trans going.rows
  constructor
  · rw [file, List.map_map]
    exact going.labels
  · intro row isRow
    rw [file] at isRow
    obtain ⟨record, held, rfl⟩ := List.mem_map.mp isRow
    exact going.answered record held

/-- All requests of a run that is not stopped are handed over, and its summary counts them. -/
theorem Going.complete
    (going : Going priorReservedCost prepared world)
    (kind : RunKind)
    (digest : Str) :
    Stopped priorReservedCost prepared { world with
      files := { world.files with summary := some (completeSummary kind digest world) } } := by
  have stopped := going.stopped (List.prefix_refl prepared)
  refine ⟨stopped.order, stopped.recorded, stopped.kept, stopped.used, ?_⟩
  intro _ _ _ _ _ _ isSummary
  have attempts : world.ledger.records.length = prepared.length := by
    rw [← List.length_map (·.label), going.labels, List.length_map]
  obtain ⟨file, length⟩ := going.results
  have some : some (completeSummary kind digest world) = some _ := isSummary
  cases some
  refine ⟨going.requests, going.allAnswered, attempts, length, ?_, ?_⟩
  · show (world.files.results.getD []).length = _
    rw [file]
  · show _ = (world.files.results.getD []).countP _
    rw [file]

/-- A directory in which nothing was handed over is there, and the variables are fresh. -/
structure Ready (world : RunWorld) : Prop where
  /-- Nothing was handed over. -/
  idle : Idle world
  /-- The directory is there. -/
  present : world.files.present = true
  /-- The ledger is empty. -/
  ledger : world.ledger = {}
  /-- It has no rows. -/
  ledgerRows : world.ledgerRows = []
  /-- There are no results. -/
  results : world.results = []

/-- A run goes on from a directory with a registration. -/
theorem Ready.going
    (ready : Ready world)
    {registration : Registration}
    {files : Files}
    (isFiles : files = { world.files with registration := some registration }) :
    Going priorReservedCost [] { world with files } := by
  subst isFiles
  have sent : world.sent = [] := ready.idle.sent
  have results : world.files.results = none := ready.idle.results
  constructor
  · show world.sent.map (·.request) = []
    rw [sent]
    rfl
  · show Grown (Persisted priorReservedCost) world.sent
    rw [sent]
    exact grown_nil
  · show world.ledger.confirmatoryConversations = none
    rw [ready.ledger]
  · show world.ledger.records.map (·.label) = []
    rw [ready.ledger]
    rfl
  · show ∀ record ∈ world.ledger.records, record.Answered
    rw [ready.ledger]
    exact fun _ held => absurd held List.not_mem_nil
  · show ∀ record ∈ world.ledger.records, record.phase = .development
    rw [ready.ledger]
    exact fun _ held => absurd held List.not_mem_nil
  · show world.ledgerRows = world.ledger.records.map ledgerRow
    rw [ready.ledger, ready.ledgerRows]
    rfl
  · show world.files.attemptLedger.getD [] = world.ledgerRows
    rw [ready.idle.ledger, ready.ledgerRows]
    rfl
  · exact ⟨ready.present, rfl⟩
  · exact ready.idle.summary
  · show world.files.results.getD [] = world.results ∧ world.results.length = 0
    rw [results, ready.results]
    exact ⟨rfl, rfl⟩

/-- Nothing is handed over by a registration. -/
theorem Ready.registered (ready : Ready world) (registration : Registration) :
    Idle { world with
      files := { world.files with registration := some registration } } :=
  ⟨ready.idle.sent, ready.idle.ledger, ready.idle.results, ready.idle.summary, fun absent => by
    have : world.files.present = false := absent
    rw [ready.present] at this
    cases this⟩

/-- A directory that holds a registration holds something. -/
theorem nonempty_of_registration
    {files : Files}
    (registered : files.registration.isSome = true) : files.nonempty = true := by
  unfold Files.nonempty
  rw [registered, Bool.or_true]
  rfl

/-- A directory without the files of a run has no ledger, no results and no summary. -/
theorem Idle.made (idle : Idle world) :
    Idle { world with files := { world.files with present := true } } :=
  ⟨idle.sent, idle.ledger, idle.results, idle.summary, fun absent => by cases absent⟩

omit [FloatOps F] in
/-- A directory that holds nothing is used. -/
theorem triple_openDirectory
    {start : RunWorld}
    (fresh : start.ledger = {} ∧ start.ledgerRows = [] ∧ start.results = [])
    (idle : Idle start)
    (free : ¬(start.files.present = true ∧ start.files.nonempty = true)) :
    Triple (· = start) (openDirectory (F := F))
      ⟨fun _ => Ready, fun nothing _ => nothing.elim, fun _ => Idle⟩ := by
  obtain ⟨ledger, ledgerRows, results⟩ := fresh
  refine Triple.andThen (fun files world => files = start.files ∧ world = start)
    (Triple.inspect fun world same => ⟨congrArg RunWorld.files same, same⟩) fun files => ?_
  refine Triple.given fun isFiles => ?_
  subst isFiles
  split
  · rename_i present
    split
    · rename_i nonempty
      exact absurd ⟨present, nonempty⟩ free
    · refine Triple.value ?_
      rintro world rfl
      exact ⟨idle, present, ledger, ledgerRows, results⟩
  · refine Triple.await ?_
    rintro fate world rfl
    dsimp only
    cases fate.file with
    | completes => exact ⟨idle.made, rfl, ledger, ledgerRows, results⟩
    | fails _ => exact idle
    | ends replaced _ =>
        cases replaced with
        | true => exact idle.made
        | false => exact idle

omit [FloatOps F] in
/-- A directory that is used already is refused. -/
theorem triple_openDirectory_refused
    {start : RunWorld}
    (present : start.files.present = true)
    (nonempty : start.files.nonempty = true) :
    Triple (· = start) (openDirectory (F := F))
      ⟨fun _ _ => False, fun nothing _ => nothing.elim, fun _ => (· = start)⟩ := by
  refine Triple.andThen (fun files world => files = start.files ∧ world = start)
    (Triple.inspect fun world same => ⟨congrArg RunWorld.files same, same⟩) fun files => ?_
  refine Triple.given fun isFiles => ?_
  subst isFiles
  rw [if_pos present, if_pos nonempty]
  exact Triple.raise fun _ same => same

/-- A run over prepared requests hands them over in turn. -/
theorem triple_run
    (kind : RunKind)
    (digest : Str) :
    Triple (Going priorReservedCost [])
      (andThen (forEach prepared (attempt (F := F) priorReservedCost digest)) fun _ =>
        andThen (inspect (completeSummary kind digest)) fun summary =>
          andThen (writeFile fun world => { world.files with summary := some summary }) fun _ =>
            Program.value summary)
      ⟨fun _ => Stopped priorReservedCost prepared, fun nothing _ => nothing.elim,
        fun _ => Stopped priorReservedCost prepared⟩ := by
  refine Triple.andThen (fun _ => Going priorReservedCost prepared)
    (Triple.forEachDone (Going priorReservedCost) ?_) fun _ => ?_
  · intro done item rest split
    refine triple_attempt digest ⟨rest, ?_⟩
    rw [split, List.append_assoc]
    rfl
  · refine Triple.andThen
      (fun summary world => summary = completeSummary kind digest world ∧
        Going priorReservedCost prepared world)
      (Triple.inspect fun world going => ⟨rfl, going⟩) fun summary => ?_
    refine Triple.andThen (fun _ => Stopped priorReservedCost prepared)
      (triple_writeFile (fun _ left stopped => stopped.partialLeft left) ?_ ?_ ?_)
      fun _ => Triple.value fun _ stopped => stopped
    · rintro world ⟨rfl, going⟩
      exact going.complete kind digest
    · rintro world ⟨-, going⟩
      exact going.stopped (List.prefix_refl _)
    · rintro world ⟨rfl, going⟩
      exact going.complete kind digest

/-- A temporary file does not matter to a directory that is there. -/
theorem Idle.partialLeft
    (idle : Idle world)
    (present : world.files.present = true)
    (left : Bool) :
    Idle { world with files := { world.files with partialLeft := left } } :=
  ⟨idle.sent, idle.ledger, idle.results, idle.summary, fun absent => by
    have : world.files.present = false := absent
    rw [present] at this
    cases this⟩

omit [FloatOps F] in
/-- What is built is there, or an exception is raised. -/
theorem triple_built
    {α : Type}
    {pre : RunWorld → Prop}
    {raised : RunFailure → RunWorld → Prop}
    (result : Except Str α)
    (stops : ∀ failure world, pre world → raised failure world) :
    Triple pre (built (F := F) result)
      ⟨fun value world => result = .ok value ∧ pre world, fun nothing _ => nothing.elim,
        raised⟩ := by
  cases result with
  | error message => exact Triple.raise (stops _)
  | ok value => exact Triple.value fun _ holds => ⟨rfl, holds⟩

/-- A call of the runner with a directory that is used already changes nothing. -/
theorem triple_execute_refused
    (sha256Hex : Str → Str)
    (invocation : Invocation)
    {start : RunWorld}
    (present : start.files.present = true)
    (nonempty : start.files.nonempty = true) :
    Triple (· = start) (execute (F := F) sha256Hex invocation)
      ⟨fun _ => (· = start), fun nothing _ => nothing.elim, fun _ => (· = start)⟩ :=
  Triple.andThen (fun _ _ => False)
    ((triple_openDirectory_refused present nonempty).conclude (fun _ _ never => never)
      (fun nothing => nothing.elim) fun _ _ same => same)
    fun _ => Triple.unreachable fun _ => id

/-- A call of the runner with a directory in which nothing was handed over. -/
theorem triple_execute
    (sha256Hex : Str → Str)
    (invocation : Invocation)
    {start : RunWorld}
    (fresh : start.ledger = {} ∧ start.ledgerRows = [] ∧ start.results = [])
    (idle : Idle start) :
    Triple (· = start) (execute (F := F) sha256Hex invocation)
      ⟨fun _ => Used invocation, fun nothing _ => nothing.elim, fun _ => Used invocation⟩ := by
  by_cases free : start.files.present = true ∧ start.files.nonempty = true
  · exact (triple_execute_refused sha256Hex invocation free.1 free.2).conclude
      (fun _ _ same => Or.inl (same ▸ idle)) (fun nothing => nothing.elim)
      fun _ _ same => Or.inl (same ▸ idle)
  · refine Triple.andThen (fun _ => Ready)
      ((triple_openDirectory fresh idle free).conclude (fun _ _ ready => ready)
        (fun nothing => nothing.elim) fun _ _ idle => Or.inl idle) fun _ => ?_
    have stops : ∀ (failure : RunFailure) (world : RunWorld), Ready world →
        Used invocation world :=
      fun _ _ ready => Or.inl ready.idle
    refine Triple.andThen _ (triple_built invocation.dataset stops) fun dataset => ?_
    refine Triple.given fun _ => ?_
    split
    · exact Triple.raise fun _ ready => Or.inl ready.idle
    · refine Triple.andThen _ (triple_built invocation.prepared stops) fun prepared => ?_
      refine Triple.given fun isPrepared => ?_
      split
      · exact Triple.raise fun _ ready => Or.inl ready.idle
      · rename_i length
        split
        · exact Triple.raise fun _ ready => Or.inl ready.idle
        · have written : ∀ world, Ready world →
              Ready { world with files := { world.files with dataset := some dataset } } :=
            fun world ready =>
              ⟨⟨ready.idle.sent, ready.idle.ledger, ready.idle.results, ready.idle.summary,
                fun absent => by
                  have : world.files.present = false := absent
                  rw [ready.present] at this
                  cases this⟩, ready.present, ready.ledger, ready.ledgerRows, ready.results⟩
          have left : ∀ (world : RunWorld) (partialLeft : Bool),
              Idle world ∧ world.files.present = true →
                Idle { world with files := { world.files with partialLeft } } ∧
                  world.files.present = true :=
            fun _ _ idle => ⟨idle.1.partialLeft idle.2 _, idle.2⟩
          have ends : ∀ world, Idle world ∧ world.files.present = true →
              Used invocation world := fun _ idle => Or.inl idle.1
          refine Triple.andThen (fun _ => Ready)
            ((triple_writeFile left written (fun _ ready => ⟨ready.idle, ready.present⟩)
              fun world ready => ⟨(written world ready).idle, ready.present⟩).conclude
              (fun _ _ ready => ready) (fun nothing => nothing.elim) fun _ => ends) fun _ => ?_
          refine Triple.andThen (fun _ => Going invocation.priorReservedCost [])
            ((triple_writeFile left ?_ (fun _ ready => ⟨ready.idle, ready.present⟩) ?_).conclude
              (fun _ _ going => going) (fun nothing => nothing.elim) fun _ => ends) fun _ => ?_
          · exact fun world ready => ready.going rfl
          · exact fun world ready => ⟨ready.registered _, ready.present⟩
          · refine (triple_run invocation.kind _).conclude (fun _ _ stopped => ?_)
              (fun nothing => nothing.elim) fun _ _ stopped => ?_
            all_goals
              exact Or.inr ⟨prepared, isPrepared, not_not.mp length, stopped⟩

/-- One call after another. -/
def RunWorld.called
    (sha256Hex : Str → Str)
    (world : RunWorld)
    (call : Invocation × List (Fate F)) : RunWorld :=
  (execute sha256Hex call.1 { files := world.files, sent := world.sent } call.2).2.1

/-- Calls go on where the calls before them end. -/
theorem callsFrom_append
    (sha256Hex : Str → Str)
    (start : RunWorld)
    (front back : List (Invocation × List (Fate F))) :
    callsFrom sha256Hex start (front ++ back) =
      callsFrom sha256Hex (callsFrom sha256Hex start front) back := by
  induction front generalizing start with
  | nil => rfl
  | cons first rest inductionHypothesis => exact inductionHypothesis _

/-- A call after some others begins where they end. -/
theorem callsFrom_snoc
    (sha256Hex : Str → Str)
    (start : RunWorld)
    (calls : List (Invocation × List (Fate F)))
    (call : Invocation × List (Fate F)) :
    callsFrom sha256Hex start (calls ++ [call]) =
      (callsFrom sha256Hex start calls).called sha256Hex call :=
  callsFrom_append sha256Hex start calls [call]

/-- A call in a directory in which nothing was handed over. -/
theorem Idle.called
    {start : RunWorld}
    (idle : Idle start)
    (sha256Hex : Str → Str)
    (call : Invocation × List (Fate F)) :
    Used call.1 (start.called sha256Hex call) := by
  have fresh : Idle { files := start.files, sent := start.sent } :=
    ⟨idle.sent, idle.ledger, idle.results, idle.summary, idle.absent⟩
  have ending := triple_execute sha256Hex call.1 ⟨rfl, rfl, rfl⟩ fresh _ call.2 rfl
  unfold RunWorld.called
  generalize (execute sha256Hex call.1 _ call.2).1 = outcome at ending
  cases outcome with
  | next _ => exact ending
  | exit nothing => exact nothing.elim
  | raised _ => exact ending

/-- A call in a directory that is used already hands nothing over and touches no file. -/
theorem called_of_used
    {start : RunWorld}
    (used : start.files.present = true ∧ start.files.registration.isSome = true)
    (sha256Hex : Str → Str)
    (call : Invocation × List (Fate F)) :
    (start.called sha256Hex call).sent = start.sent ∧
      (start.called sha256Hex call).files = start.files := by
  let entered : RunWorld := { files := start.files, sent := start.sent }
  have present : entered.files.present = true := used.1
  have ending := triple_execute_refused sha256Hex call.1 present
    (nonempty_of_registration used.2) entered call.2 rfl
  have same : start.called sha256Hex call = entered := by
    unfold RunWorld.called
    generalize (execute sha256Hex call.1 _ call.2).1 = outcome at ending
    cases outcome with
    | next _ => exact ending
    | exit nothing => exact nothing.elim
    | raised _ => exact ending
  rw [same]
  exact ⟨rfl, rfl⟩

/-- Calls in a directory that is used already hand nothing over and touch no file. -/
theorem callsFrom_of_used
    {start : RunWorld}
    (used : start.files.present = true ∧ start.files.registration.isSome = true)
    (sha256Hex : Str → Str)
    (calls : List (Invocation × List (Fate F))) :
    (callsFrom sha256Hex start calls).sent = start.sent ∧
      (callsFrom sha256Hex start calls).files = start.files := by
  induction calls using List.reverseRecOn with
  | nil => exact ⟨rfl, rfl⟩
  | append_singleton calls call inductionHypothesis =>
      rw [callsFrom_snoc]
      have still := called_of_used (inductionHypothesis.2.symm ▸ used) sha256Hex call
      exact ⟨still.1.trans inductionHypothesis.1, still.2.trans inductionHypothesis.2⟩

/-- Some calls with a directory: nothing is handed over, or one of them hands requests over and
nothing was handed over before it. -/
theorem used_callsFrom
    (sha256Hex : Str → Str)
    {start : RunWorld}
    (idle : Idle start)
    (calls : List (Invocation × List (Fate F))) :
    Idle (callsFrom sha256Hex start calls) ∨
      ∃ front call back prepared, calls = front ++ call :: back ∧
        Idle (callsFrom sha256Hex start front) ∧ call.1.prepared = .ok prepared ∧
          prepared.length = call.1.expectedAttempts ∧
            Stopped call.1.priorReservedCost prepared
              (callsFrom sha256Hex start (front ++ [call])) := by
  induction calls using List.reverseRecOn with
  | nil => exact Or.inl idle
  | append_singleton calls call inductionHypothesis =>
      rcases inductionHypothesis with
        still | ⟨front, earlier, back, prepared, rfl, before, stopped⟩
      · rw [callsFrom_snoc]
        rcases still.called sha256Hex call with still | ⟨prepared, isPrepared, length, stopped⟩
        · exact Or.inl still
        · refine Or.inr ⟨calls, call, [], prepared, rfl, still, isPrepared, length, ?_⟩
          rw [callsFrom_snoc]
          exact stopped
      · refine Or.inr ⟨front, earlier, back ++ [call], prepared, ?_, before, stopped⟩
        rw [List.append_assoc, List.cons_append]

/-! ## The promise -/

/-- What some calls of the runner handed over. -/
structure SentOnce
    (invocation : Invocation)
    (prepared : List PreparedDevelopmentRequest)
    (world : RunWorld) : Prop where
  /-- They are the prepared requests of one call. -/
  isPrepared : invocation.prepared = .ok prepared
  /-- They were handed over in their order. -/
  order : world.sent.map (·.request) <+: prepared
  /-- No step was handed over twice for an arm. -/
  distinct : (world.sent.map fun sent => (sent.request.step.stepId, sent.request.armId)).Nodup
  /-- There are no more than are registered. -/
  few : world.sent.length ≤ 256
  /-- Each was reserved in the ledger file before, when all before it were answered. -/
  recorded : Grown (Persisted invocation.priorReservedCost) world.sent
  /-- The ledger file has all of them. -/
  kept : world.sent.map (·.request.label) <+:
    (world.files.attemptLedger.getD []).map (·.record.label)
  /-- A summary of a whole run is there only when all requests were handed over and answered, and
  it counts them and the correct ones among their results. -/
  complete : ∀ kind attempts digest correct scored reserved,
    world.files.summary = some (.complete kind attempts digest correct scored reserved) →
      world.sent.map (·.request) = prepared ∧
        AllAnswered prepared (world.files.attemptLedger.getD []) ∧
          attempts = prepared.length ∧ scored = prepared.length ∧
            (world.files.results.getD []).length = scored ∧
              correct = (world.files.results.getD []).countP (·.score.correct)

/-- What was reserved before is of other steps or arms. -/
theorem nodup_of_recorded
    {sent : List Sent}
    (recorded : Grown (Persisted priorReservedCost) sent) :
    (sent.map fun sent => (sent.request.step.stepId, sent.request.armId)).Nodup := by
  induction sent using List.reverseRecOn with
  | nil => exact List.nodup_nil
  | append_singleton before last inductionHypothesis =>
      obtain ⟨earlier, -, records, record, -, backs⟩ := grown_snoc.mp recorded
      rw [List.map_append, List.map_singleton, List.nodup_append]
      refine ⟨inductionHypothesis earlier, List.nodup_singleton _, ?_⟩
      rintro cell isCell other isLast rfl
      rw [List.mem_singleton] at isLast
      subst isLast
      obtain ⟨sent, held, same⟩ := List.mem_map.mp isCell
      have isLabel : sent.request.label ∈ records.map (·.label) := by
        rw [backs.earlier]
        exact List.mem_map_of_mem held
      obtain ⟨other, isOther, labels⟩ := List.mem_map.mp isLabel
      obtain ⟨-, fitting⟩ := grown_snoc.mp backs.sound.grown
      have isLast := List.mem_append_right records (List.mem_singleton_self record)
      have sameCell : other.cell = record.cell := by
        have ofOther := backs.phases other (List.mem_append_left _ isOther)
        have ofRecord := backs.phases record isLast
        obtain ⟨step, arm, -⟩ := Prod.mk.inj labels |>.imp_right Prod.mk.inj
        obtain ⟨lastStep, lastArm, -⟩ := Prod.mk.inj backs.named |>.imp_right Prod.mk.inj
        obtain ⟨cellStep, cellArm⟩ := Prod.mk.inj same
        unfold AttemptRecord.cell
        rw [ofOther, ofRecord, step, arm, lastStep, lastArm, cellStep, cellArm]
      have inCell : other ∈ cellOf records record.cell :=
        List.mem_filter.mpr ⟨isOther, decide_eq_true sameCell⟩
      have positive := List.length_pos_of_mem inCell
      have consecutive := fitting.consecutive
      have isSecond : record.attemptOrdinal = 2 := by
        rcases (checked_of_postInit fitting.accepted).ordinal with one | two
        · omega
        · exact two
      have confirmatory := confirmatory_of_retry backs.sound.grown isLast isSecond
      rw [backs.phases record isLast] at confirmatory
      cases confirmatory

/-- Whatever happens, nothing is handed over, or one single call hands all of it over, each
request once and after its reservation: the calls before it hand nothing over, and whatever
calls come later hand nothing over and touch no file. -/
theorem oneShot (sha256Hex : Str → Str) (calls : List (Invocation × List (Fate F))) :
    (callsFrom sha256Hex {} calls).sent = [] ∨
      ∃ front call back, calls = front ++ call :: back ∧
        (callsFrom sha256Hex {} front).sent = [] ∧
        (∃ prepared, SentOnce call.1 prepared (callsFrom sha256Hex {} (front ++ [call]))) ∧
        ∀ later,
          (callsFrom sha256Hex {} (front ++ call :: later)).sent =
              (callsFrom sha256Hex {} (front ++ [call])).sent ∧
            (callsFrom sha256Hex {} (front ++ call :: later)).files =
              (callsFrom sha256Hex {} (front ++ [call])).files := by
  have start : Idle {} := ⟨rfl, rfl, rfl, rfl, fun _ => rfl⟩
  rcases used_callsFrom sha256Hex start calls with
    idle | ⟨front, call, back, prepared, split, before, isPrepared, length, stopped⟩
  · exact Or.inl idle.sent
  · refine Or.inr ⟨front, call, back, split, before.sent, ⟨prepared, isPrepared, stopped.order,
      nodup_of_recorded stopped.recorded, ?_, stopped.recorded, stopped.kept,
      stopped.complete⟩, ?_⟩
    · have most : call.1.expectedAttempts ≤ 256 := by
        unfold Invocation.expectedAttempts
        split
        · decide
        · exact le_refl _
      rw [← List.length_map (·.request)]
      exact stopped.order.length_le.trans (length.trans_le most)
    · intro later
      rw [List.append_cons, callsFrom_append]
      exact callsFrom_of_used stopped.used sha256Hex later

end LongContext
end ChatPlatform
