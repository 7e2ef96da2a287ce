import ChatPlatform.Foundation.Invariant
import ChatPlatform.LongContext.OneShot
import Mathlib.Algebra.Order.BigOperators.Group.List

/-!
# A registered run comes to its end

The registered passes fit the caps of the phase to the last token: where the files are written and
every request is answered within its ceilings, no guard refuses, all requests are handed over, and
the summary counts the correct answers.
-/

namespace ChatPlatform
namespace LongContext

open Growth Json Program

variable
  {F : Type}
  [FloatOps F]
  {priorReservedCost : ℚ}
  {prepared done : List PreparedDevelopmentRequest}
  {item : PreparedDevelopmentRequest}
  {ledger : AttemptLedger}
  {world : RunWorld}

/-! ## What requests reserve -/

/-- Tokens some requests may read. -/
def plannedInput (items : List PreparedDevelopmentRequest) : Int :=
  (items.map fun item => inputCap item.armId).sum

/-- What some requests cost at most, in dollars. -/
def plannedCost (items : List PreparedDevelopmentRequest) : ℚ :=
  (items.map fun item => worstCaseGenerationCost (inputCap item.armId) 256).sum

/-- Requests that fit the caps of the phase. -/
structure Fits (priorReservedCost : ℚ) (prepared : List PreparedDevelopmentRequest) : Prop where
  /-- They are of arms of the phase. -/
  arms : ∀ item ∈ prepared, item.armId ∈ allowedArms .development
  /-- Their digests are hexadecimal. -/
  hashes : ∀ item ∈ prepared, item.requestParameterHash.length = 64 ∧
    item.requestParameterHash.all (fun c => "0123456789abcdef".toList.contains c) = true
  /-- A step is prepared once for an arm. -/
  distinct : (prepared.map fun item => (item.step.stepId, item.armId)).Nodup
  /-- There are few enough. -/
  few : prepared.length ≤ 256
  /-- They read few enough tokens. -/
  input : plannedInput prepared ≤ 819200
  /-- They can be paid for. -/
  affordable : 0 ≤ priorReservedCost ∧ priorReservedCost + plannedCost prepared ≤ 3

/-- The ceiling of an arm is positive. -/
theorem inputCap_pos (armId : Str) : 0 < inputCap armId := by
  unfold inputCap
  split
  · decide
  · split <;> decide

/-- The cost is a number of tokens at two prices. -/
theorem plannedCost_eq (items : List PreparedDevelopmentRequest) :
    plannedCost items =
      (plannedInput items * (15 / 100) + 256 * items.length * (60 / 100)) / 1000000 := by
  unfold plannedCost plannedInput
  induction items with
  | nil => simp
  | cons item items inductionHypothesis =>
      rw [List.map_cons, List.map_cons, List.sum_cons, List.sum_cons, inductionHypothesis,
        List.length_cons]
      unfold worstCaseGenerationCost
      push_cast
      ring

/-- More requests read more. -/
theorem plannedInput_mono
    {items others : List PreparedDevelopmentRequest}
    (isPrefix : items <+: others) : plannedInput items ≤ plannedInput others := by
  obtain ⟨rest, rfl⟩ := isPrefix
  unfold plannedInput
  rw [List.map_append, List.sum_append]
  refine le_add_of_nonneg_right (List.sum_nonneg ?_)
  intro tokens held
  obtain ⟨item, -, rfl⟩ := List.mem_map.mp held
  exact (inputCap_pos item.armId).le

/-- More requests cost more. -/
theorem plannedCost_mono
    {items others : List PreparedDevelopmentRequest}
    (isPrefix : items <+: others) : plannedCost items ≤ plannedCost others := by
  have input : (plannedInput items : ℚ) ≤ plannedInput others :=
    Int.cast_le.mpr (plannedInput_mono isPrefix)
  have length : (items.length : ℚ) ≤ others.length := Nat.cast_le.mpr isPrefix.length_le
  rw [plannedCost_eq, plannedCost_eq]
  linarith

/-- What some requests cost is not negative. -/
theorem plannedCost_nonneg (items : List PreparedDevelopmentRequest) : 0 ≤ plannedCost items :=
  plannedCost_mono (List.nil_prefix)

/-! ## The ledger of a run -/

/-- A record is an attempt of a request. -/
def IsAttempt (item : PreparedDevelopmentRequest) (record : AttemptRecord) : Prop :=
  ∃ (outcome : Outcome) (before : AttemptLedger),
    record = (dispatchRequest item).attempt outcome before

/-- The ledger has an attempt of each request that is done. -/
structure Logged (done : List PreparedDevelopmentRequest) (ledger : AttemptLedger) : Prop where
  /-- It passes its check. -/
  sound : Integrity ledger
  /-- No sample is frozen. -/
  unfrozen : ledger.confirmatoryConversations = none
  /-- It has the attempts in order. -/
  attempts : List.Forall₂ IsAttempt done ledger.records

/-- The attempts of a ledger are of the phase, in the cells of their requests, and reserve what
these do. -/
theorem Logged.totals (logged : Logged done ledger) :
    (∀ record ∈ ledger.records, record.phase = .development) ∧
      ledger.records.map (·.cell) =
        done.map (fun item => (Phase.development, item.step.stepId, item.armId)) ∧
        inputTokens ledger.records = plannedInput done ∧
          outputTokens ledger.records = 256 * done.length ∧
            cost ledger.records = plannedCost done := by
  have attempts := logged.attempts
  clear logged
  generalize ledger.records = records at attempts
  unfold inputTokens outputTokens cost plannedInput plannedCost
  induction attempts with
  | nil => exact ⟨fun _ held => absurd held List.not_mem_nil, rfl, rfl, rfl, rfl⟩
  | @cons item record items records isAttempt _ inductionHypothesis =>
      obtain ⟨outcome, before, rfl⟩ := isAttempt
      obtain ⟨phases, cells, input, output, price⟩ := inductionHypothesis
      refine ⟨List.forall_mem_cons.mpr ⟨rfl, phases⟩, ?_, ?_, ?_, ?_⟩
      · rw [List.map_cons, List.map_cons, cells]
        rfl
      · rw [List.map_cons, List.map_cons, List.sum_cons, List.sum_cons, input]
        rfl
      · rw [List.map_cons, List.sum_cons, output, List.length_cons]
        show (256 : Int) + 256 * (items.length : Int) = 256 * ((items.length + 1 : Nat) : Int)
        push_cast
        ring
      · rw [List.map_cons, List.map_cons, List.sum_cons, List.sum_cons, price]
        rfl

/-- The attempts of the phase are all attempts. -/
theorem Logged.phaseRecords (logged : Logged done ledger) :
    ledger.phaseRecords .development = ledger.records :=
  List.filter_eq_self.mpr fun record held => decide_eq_true (logged.totals.1 record held)

/-- The ceiling of an arm of the phase is the one of the guards. -/
theorem armInputCap_eq
    {armId : Str}
    (allowed : armId ∈ allowedArms .development) : armInputCap armId = some (inputCap armId) := by
  revert armId
  decide

/-- A request that fits has no attempt yet. -/
theorem Logged.cell_eq_nil
    (logged : Logged done ledger)
    (fits : Fits priorReservedCost prepared)
    (isPrefix : done ++ [item] <+: prepared) :
    cellOf ledger.records (dispatchRequest item).cell = [] := by
  obtain ⟨rest, isWhole⟩ := isPrefix
  have distinct := fits.distinct
  rw [← isWhole, List.map_append, List.map_append] at distinct
  have apart := (List.nodup_append.mp (List.nodup_append.mp distinct).1).2.2
  unfold cellOf
  rw [List.filter_eq_nil_iff]
  intro record held same
  have isCell : record.cell ∈ ledger.records.map (·.cell) := List.mem_map_of_mem held
  rw [logged.totals.2.1, of_decide_eq_true same] at isCell
  obtain ⟨other, isOther, same⟩ := List.mem_map.mp isCell
  refine apart (other.step.stepId, other.armId) (List.mem_map_of_mem isOther) _
    (List.mem_map_of_mem (List.mem_singleton_self item)) ?_
  exact (Prod.mk.inj same).2

/-- The next request that fits is accepted. -/
theorem exists_accepted
    (fits : Fits priorReservedCost prepared)
    (isPrefix : done ++ [item] <+: prepared)
    (logged : Logged done ledger) :
    ∃ reservation, validatePreDispatch (dispatchRequest item) authorization
      (budgetSnapshot ledger priorReservedCost) ledger = .ok reservation := by
  have arm : item.armId ∈ allowedArms .development :=
    fits.arms item (isPrefix.subset (List.mem_append_right _ (List.mem_singleton_self item)))
  obtain ⟨phases, -, input, output, price⟩ := logged.totals
  have length : ledger.records.length = done.length := logged.attempts.length_eq.symm
  have few : done.length + 1 ≤ 256 := by
    have := isPrefix.length_le.trans fits.few
    rwa [List.length_append] at this
  have nextInput : plannedInput done + inputCap item.armId ≤ 819200 := by
    have := (plannedInput_mono isPrefix).trans fits.input
    unfold plannedInput at this ⊢
    rwa [List.map_append, List.sum_append, List.map_singleton, List.sum_singleton] at this
  have nextCost : priorReservedCost +
      (plannedCost done + worstCaseGenerationCost (inputCap item.armId) 256) ≤ 3 := by
    have := plannedCost_mono isPrefix
    have whole : plannedCost (done ++ [item]) =
        plannedCost done + worstCaseGenerationCost (inputCap item.armId) 256 := by
      unfold plannedCost
      rw [List.map_append, List.sum_append, List.map_singleton, List.sum_singleton]
    have affordable := fits.affordable.2
    linarith
  have notNegative := plannedCost_nonneg done
  have prior := fits.affordable.1
  have worst : 0 ≤ worstCaseGenerationCost (inputCap item.armId) 256 := by
    have := plannedCost_nonneg [item]
    unfold plannedCost at this
    rwa [List.map_singleton, List.sum_singleton] at this
  have requested : firstRefusal (requestChecks (dispatchRequest item) authorization ledger ++
      moneyChecks (budgetSnapshot ledger priorReservedCost)) = .ok () := by
    have noAttempt : cellOf ledger.records
        (.development, item.step.stepId, item.armId) = [] := logged.cell_eq_nil fits isPrefix
    rw [firstRefusal_eq_ok_iff, List.forall_mem_append]
    constructor
    · simp [requestChecks, authorization, dispatchRequest, arm, armInputCap_eq arm, noAttempt]
    · have reserved : ledger.phaseRecords .development = ledger.records := logged.phaseRecords
      simp only [moneyChecks, budgetSnapshot, BudgetSnapshot.amounts, Amount.known, reserved,
        price, List.forall_mem_cons, List.any_cons, List.any_nil, Option.isNone_some,
        Option.bind_some, Option.all_some, Bool.or_false, decide_eq_false_iff_not, not_lt,
        List.not_mem_nil, false_implies, implies_true, and_true, ne_eq, not_true,
        not_false_eq_true, true_and, Bool.or_eq_false_iff]
      refine ⟨?_, ?_, ?_⟩ <;> linarith
  have capped : firstRefusal (capChecks (dispatchRequest item)
      (budgetSnapshot ledger priorReservedCost) ledger ⟨256, 819200, 65536, 3⟩) = .ok () := by
    rw [firstRefusal_eq_ok_iff]
    have reserved : ledger.phaseRecords .development = ledger.records := logged.phaseRecords
    simp only [capChecks, dispatchRequest, budgetSnapshot, Amount.known, reserved, input, output,
      price, length, List.forall_mem_cons, decide_eq_false_iff_not, not_lt, not_and, not_not,
      Option.bind_some, Option.getD_some, List.not_mem_nil, false_implies, implies_true, and_true]
    refine ⟨few, by omega, trivial, ?_, ?_, nextInput, by omega, by omega, by omega, by linarith,
      by linarith, by linarith, by linarith, by linarith⟩
    · intro confirmatory
      cases confirmatory
    · intro confirmatory
      cases confirmatory
  refine ⟨⟨worstCaseGenerationCost (inputCap item.armId) 256, ledger.records.length + 1,
    (ledger.phaseRecords .development).length + 1⟩, ?_⟩
  unfold validatePreDispatch
  have external : (dispatchRequest item).phase ≠ .stage0 := by
    intro same
    cases same
  have limits : phaseLimits (dispatchRequest item).phase ledger.confirmatoryConversations =
      some ⟨256, 819200, 65536, 3⟩ := rfl
  rw [if_neg external, validateIntegrity_iff.mpr logged.sound]
  dsimp only
  rw [requested]
  dsimp only
  rw [limits]
  dsimp only
  rw [capped]
  rfl

/-! ## An attempt that is answered -/

/-- A fate with which the files are written and a request is answered within its ceilings. -/
structure Answers
    (item : PreparedDevelopmentRequest)
    (fate : Fate F)
    (content : Str) : Prop where
  /-- Files are written. -/
  file : fate.file = .completes
  /-- There is a key. -/
  key : ∃ apiKey, configuredApiKey fate.environment fate.envFile = some (some apiKey)
  /-- The answer has the content, and its usage is within the ceilings. -/
  reply : ∃ status payload usage, fate.reply = .answered status (.dict payload) ∧
    extractResponse payload = .ok (some content, usage) ∧
      ∀ reported, usage = some reported →
        (reported.inputTokens : Int) ≤ inputCap item.armId ∧
          (reported.outputTokens : Int) ≤ 256

omit [FloatOps F] in
/-- A program goes on with what it looks at. -/
theorem inspect_andThen
    {α β : Type}
    {fates : List (Fate F)}
    (view : RunWorld → α)
    (rest : α → RunProgram F β) :
    andThen (inspect view) rest world fates = rest (view world) world fates :=
  rfl

omit [FloatOps F] in
/-- A program goes on in the changed world. -/
theorem modify_andThen
    {β : Type}
    {fates : List (Fate F)}
    (change : RunWorld → RunWorld)
    (rest : Unit → RunProgram F β) :
    andThen (Program.modify change) rest world fates = rest () (change world) fates :=
  rfl

omit [FloatOps F] in
/-- A file is written. -/
theorem writeFile_ran
    {fate : Fate F}
    (file : fate.file = .completes)
    (change : RunWorld → Files)
    (left : List (Fate F)) :
    writeFile change world (fate :: left) =
      (.next (), { world with files := change world }, left) := by
  unfold writeFile await
  dsimp only [List.headD_cons, List.tail_cons]
  rw [file]

/-- A request that fits is the next attempt of its ledger, with any outcome within its ceilings. -/
theorem attempt_fits
    (fits : Fits priorReservedCost prepared)
    (isPrefix : done ++ [item] <+: prepared)
    (logged : Logged done ledger)
    {outcome : Outcome}
    (consistent : outcome.Consistent (dispatchRequest item)) :
    ((dispatchRequest item).attempt outcome ledger).postInit = .ok () ∧
      ledger.append ((dispatchRequest item).attempt outcome ledger) =
        (.ok (), ledger.with ((dispatchRequest item).attempt outcome ledger)) ∧
          Logged (done ++ [item])
            (ledger.with ((dispatchRequest item).attempt outcome ledger)) := by
  obtain ⟨reservation, accepted⟩ := exists_accepted fits isPrefix logged
  obtain ⟨passed, appended⟩ := append_attempt logged.sound item.step.named consistent accepted
  obtain ⟨requested, limits, limited, allowed⟩ := accepted_cases accepted
  refine ⟨passed, appended, ?_, logged.unfrozen, ?_⟩
  · exact integrity_attempt logged.sound
      (recordFits_attempt logged.sound item.step.named requested consistent) requested limited
      allowed
  · exact List.rel_append logged.attempts (.cons ⟨outcome, ledger, rfl⟩ .nil)

/-- An outcome with the digest of the request and usage within the ceilings may be recorded. -/
theorem consistent_of_fits
    (fits : Fits priorReservedCost prepared)
    (isPrefix : done ++ [item] <+: prepared)
    {usage : Option Usage}
    (within : ∀ reported, usage = some reported →
      (reported.inputTokens : Int) ≤ inputCap item.armId ∧
        (reported.outputTokens : Int) ≤ 256)
    {received : Bool}
    (emitted : usage ≠ none → received = true)
    (failureClass : Option Str)
    (status : Option Int) :
    Outcome.Consistent ⟨failureClass, item.requestParameterHash, usage, received, status⟩
      (dispatchRequest item) := by
  obtain ⟨length, hex⟩ := fits.hashes item
    (isPrefix.subset (List.mem_append_right _ (List.mem_singleton_self item)))
  refine ⟨length, hex, within, fun reported isReported _ => emitted ?_⟩
  have isUsage : usage = some reported := isReported
  rw [isUsage]
  exact Option.some_ne_none _

omit [FloatOps F] in
/-- A request that fits is reserved. -/
theorem reserveBeforeDispatch_ran
    (fits : Fits priorReservedCost prepared)
    (isPrefix : done ++ [item] <+: prepared)
    (logged : Logged done world.ledger)
    {fate : Fate F}
    (file : fate.file = .completes)
    (left : List (Fate F)) :
    reserveBeforeDispatch item priorReservedCost world (fate :: left) =
      (.next ((dispatchRequest item).attempt (reservedOutcome item) world.ledger),
        (world.withReservation ((dispatchRequest item).attempt (reservedOutcome item)
          world.ledger)).withLedgerFile, left) := by
  have consistent : (reservedOutcome item).Consistent (dispatchRequest item) :=
    consistent_of_fits fits isPrefix (fun _ none => by cases none)
      (fun some => absurd rfl some) none none
  obtain ⟨passed, appended, -⟩ := attempt_fits fits isPrefix logged consistent
  obtain ⟨reservation, accepted⟩ := exists_accepted fits isPrefix logged
  have reserved : attemptRecord world.ledger item priorReservedCost =
      .ok ((dispatchRequest item).attempt (reservedOutcome item) world.ledger) := by
    unfold attemptRecord
    rw [accepted]
    dsimp only
    rw [(caps_of_accepted accepted).1]
    exact congrArg (Except.map fun _ =>
      (dispatchRequest item).attempt (reservedOutcome item) world.ledger) passed
  unfold reserveBeforeDispatch
  refine (inspect_andThen _ _).trans ?_
  rw [reserved]
  dsimp only
  rw [appended]
  refine (modify_andThen _ _).trans ?_
  exact andThen_of_next (writeFile_ran file _ left)

omit [FloatOps F] in
/-- A request that is answered is handed over. -/
theorem dispatch_ran
    {fate : Fate F}
    {apiKey content : Str}
    {status : Int}
    {payload : Dict F}
    {usage : Option Usage}
    (key : configuredApiKey fate.environment fate.envFile = some (some apiKey))
    (replied : fate.reply = .answered status (.dict payload))
    (extracted : extractResponse payload = .ok (some content, usage))
    (left : List (Fate F)) :
    dispatch item world (fate :: left) =
      (.next ⟨some content, usage, some status, none⟩, world.withSent item apiKey, left) := by
  unfold dispatch await
  dsimp only [List.headD_cons, List.tail_cons]
  rw [key, replied]
  unfold exchangeOf
  dsimp only
  rw [extracted]
  rfl

omit [FloatOps F] in
/-- An outcome that may be recorded replaces its reservation. -/
theorem finalizeAttempt_ran
    {record : AttemptRecord}
    {records : List AttemptRecord}
    {exchange : Exchange}
    (isLedger : world.ledger.records = records ++ [record])
    (passed : (finalized record exchange).postInit = .ok ())
    (sound : Integrity
      { world.ledger with records := records ++ [finalized record exchange] })
    {fate : Fate F}
    (file : fate.file = .completes)
    (left : List (Fate F)) :
    finalizeAttempt record exchange world (fate :: left) =
      (.next (), (world.withOutcome record exchange).withLedgerFile, left) := by
  unfold finalizeAttempt
  refine (inspect_andThen _ _).trans ?_
  have isLast : ¬(world.ledger.records.getLast?).map (·.attemptId) ≠ some record.attemptId := by
    rw [isLedger, List.getLast?_concat]
    exact not_not.mpr rfl
  have checked : ({ world.ledger with
      records := world.ledger.records.dropLast ++ [finalized record exchange] } :
        AttemptLedger).validateIntegrity = .ok () := by
    rw [isLedger, List.dropLast_concat]
    exact validateIntegrity_iff.mpr sound
  rw [if_neg isLast, passed]
  dsimp only
  rw [checked]
  refine (modify_andThen _ _).trans ?_
  exact writeFile_ran file _ left

/-- An answer of a step has a score. -/
theorem exists_resultRow (item : PreparedDevelopmentRequest) (content : Option Str) :
    ∃ row, resultRow F item content = .ok row := by
  obtain ⟨score, isScore⟩ :=
    exists_score (F := F) item.step.nonces (content.elim (.bytes []) .text)
  unfold resultRow
  rw [isScore]
  exact ⟨_, rfl⟩

/-- A request that fits and is answered is done. -/
theorem attempt_ran
    (fits : Fits priorReservedCost prepared)
    (isPrefix : done ++ [item] <+: prepared)
    (logged : Logged done world.ledger)
    (requests : world.sent.map (·.request) = done)
    {fate : Fate F}
    {content : Str}
    (answers : Answers item fate content)
    (digest : Str)
    (left : List (Fate F)) :
    ∃ after row, attempt priorReservedCost digest item world (List.replicate 5 fate ++ left) =
        (.next (), after, left) ∧
      Logged (done ++ [item]) after.ledger ∧ after.sent.map (·.request) = done ++ [item] ∧
        resultRow F item (some content) = .ok row ∧ after.results = world.results ++ [row] ∧
          after.files.results = some after.results := by
  obtain ⟨apiKey, key⟩ := answers.key
  obtain ⟨status, payload, usage, replied, extracted, within⟩ := answers.reply
  obtain ⟨row, isRow⟩ := exists_resultRow (F := F) item (some content)
  let exchange : Exchange := ⟨some content, usage, some status, none⟩
  let record := (dispatchRequest item).attempt (reservedOutcome item) world.ledger
  let reserved := (world.withReservation record).withLedgerFile
  let handed := reserved.withSent item apiKey
  let settled := (handed.withOutcome record exchange).withLedgerFile
  have consistent := consistent_of_fits fits isPrefix within (fun _ => rfl) none (some status)
  obtain ⟨passed, -, loggedAfter⟩ := attempt_fits fits isPrefix logged consistent
  have isPassed : (finalized record exchange).postInit = .ok () := passed
  have isLedger : handed.ledger.records = world.ledger.records ++ [record] := rfl
  have finalizes : finalizeAttempt record exchange handed (fate :: fate :: fate :: left) =
      (.next (), settled, fate :: fate :: left) :=
    finalizeAttempt_ran isLedger isPassed loggedAfter.sound answers.file _
  have front : settled.ledger = world.ledger.with
      ((dispatchRequest item).attempt
        ⟨none, item.requestParameterHash, usage, true, some status⟩ world.ledger) := by
    show ({ world.ledger with
      records := (world.ledger.records ++ [record]).dropLast ++ [finalized record exchange] } :
        AttemptLedger) = _
    rw [List.dropLast_concat]
    rfl
  let counted : RunWorld := { settled with results := world.results ++ [row] }
  let after : RunWorld :=
    { counted.withLedgerFile with
      files := { counted.withLedgerFile.files with results := some counted.results } }
  refine ⟨after, row, ?_, front ▸ loggedAfter, ?_, isRow, rfl, rfl⟩
  · unfold attempt
    refine (andThen_of_next (reserveBeforeDispatch_ran fits isPrefix logged answers.file _)).trans
      ?_
    refine (andThen_of_next (dispatch_ran key replied extracted _)).trans ?_
    refine (andThen_of_next finalizes).trans ?_
    dsimp only
    rw [isRow]
    dsimp only
    refine (modify_andThen _ _).trans ?_
    refine (andThen_of_next (writeFile_ran answers.file _ _)).trans ?_
    exact andThen_of_next (writeFile_ran answers.file _ _)
  · show (world.sent ++ [_]).map _ = _
    rw [List.map_append, requests]
    rfl

/-! ## A run -/

/-- The fates with which every request is answered. -/
def workingFates
    (opening closing : Fate F)
    (answered : List (Fate F × Str)) : List (Fate F) :=
  List.replicate 3 opening ++ answered.flatMap (fun answer => List.replicate 5 answer.1) ++
    [closing]

/-- Requests that fit and are answered are done one after the other. -/
theorem forEach_ran
    (fits : Fits priorReservedCost prepared)
    {later : List PreparedDevelopmentRequest}
    (isWhole : done ++ later = prepared)
    (logged : Logged done world.ledger)
    (requests : world.sent.map (·.request) = done)
    {answered : List (Fate F × Str)}
    (answers : List.Forall₂ (fun item answer => Answers item answer.1 answer.2) later answered)
    (digest : Str)
    (left : List (Fate F)) :
    ∃ after rows, forEach later (attempt priorReservedCost digest) world
        (answered.flatMap (fun answer => List.replicate 5 answer.1) ++ left) =
          (.next (), after, left) ∧
      Logged prepared after.ledger ∧ after.sent.map (·.request) = prepared ∧
        List.Forall₂ (fun request row => resultRow F request.1 (some request.2.2) = .ok row)
          (later.zip answered) rows ∧ after.results = world.results ++ rows ∧
            ((later = [] → world.files.results = some world.results) →
              after.files.results = some after.results) := by
  induction answers generalizing done world with
  | nil =>
      rw [List.append_nil] at isWhole
      subst isWhole
      exact ⟨world, [], rfl, logged, requests, .nil, (List.append_nil _).symm,
        fun written => written rfl⟩
  | @cons item answer later answered isAnswer _ inductionHypothesis =>
      have isPrefix : done ++ [item] <+: prepared := ⟨later, by rw [← isWhole]; simp⟩
      obtain ⟨middle, row, ran, loggedMiddle, requestsMiddle, isRow, results, file⟩ :=
        attempt_ran fits isPrefix logged requests isAnswer digest
          (answered.flatMap (fun answer => List.replicate 5 answer.1) ++ left)
      obtain ⟨after, rows, ranLater, loggedAfter, requestsAfter, areRows, resultsAfter,
        fileAfter⟩ := inductionHypothesis (by rw [← isWhole]; simp) loggedMiddle requestsMiddle
      refine ⟨after, row :: rows, ?_, loggedAfter, requestsAfter, .cons isRow areRows, ?_, ?_⟩
      · rw [List.flatMap_cons, List.append_assoc]
        exact (andThen_of_next ran).trans ranLater
      · rw [resultsAfter, results, List.append_assoc]
        rfl
      · exact fun _ => fileAfter fun _ => file

/-- The arms of a run. -/
def Invocation.arms (invocation : Invocation) : List Str :=
  if invocation.isLater then ["B".toList, "E-BM25".toList]
  else ["A".toList, "B".toList, "E-BM25".toList, "ORACLE-GOLD".toList]

/-- The requests of a call are the registered ones: 64 steps for each arm. -/
structure Registered
    (invocation : Invocation)
    (prepared : List PreparedDevelopmentRequest) : Prop where
  /-- They were prepared. -/
  isPrepared : invocation.prepared = .ok prepared
  /-- It is one pass. -/
  onePass : (invocation.amended && invocation.replacement) = false
  /-- A later pass comes after the first. -/
  frozen : invocation.isLater = true → invocation.historicalFrozen = true
  /-- There are as many as are registered. -/
  count : prepared.length = invocation.expectedAttempts
  /-- They are of the arms of the run. -/
  arms : ∀ item ∈ prepared, item.armId ∈ invocation.arms
  /-- Each arm has 64 of them. -/
  steps : ∀ arm ∈ invocation.arms, prepared.countP (·.armId = arm) = 64
  /-- A step is prepared once for an arm. -/
  distinct : (prepared.map fun item => (item.step.stepId, item.armId)).Nodup
  /-- Their digests are hexadecimal. -/
  hashes : ∀ item ∈ prepared, item.requestParameterHash.length = 64 ∧
    item.requestParameterHash.all (fun c => "0123456789abcdef".toList.contains c) = true

/-- The tokens of the phase are those of its arms. -/
theorem plannedInput_eq
    {items : List PreparedDevelopmentRequest}
    (arms : ∀ item ∈ items, item.armId ∈ allowedArms .development) :
    plannedInput items =
      512 * items.countP (·.armId = "A".toList) + 4608 * items.countP (·.armId = "B".toList) +
        4608 * items.countP (·.armId = "E-BM25".toList) +
          3072 * items.countP (·.armId = "ORACLE-GOLD".toList) := by
  unfold plannedInput
  induction items with
  | nil => rfl
  | cons item items inductionHypothesis =>
      obtain ⟨arm, arms⟩ := List.forall_mem_cons.mp arms
      rw [List.map_cons, List.sum_cons, inductionHypothesis arms]
      simp only [List.countP_cons]
      have cases : item.armId = "A".toList ∨ item.armId = "B".toList ∨
          item.armId = "E-BM25".toList ∨ item.armId = "ORACLE-GOLD".toList := by
        simpa [allowedArms] using arm
      rcases cases with isArm | isArm | isArm | isArm
      all_goals
        rw [isArm]
        simp [inputCap]
        ring

/-- The arms of a run are of the phase. -/
theorem Invocation.arms_subset (invocation : Invocation) :
    ∀ arm ∈ invocation.arms, arm ∈ allowedArms .development := by
  unfold Invocation.arms
  split <;> decide

/-- What earlier runs reserved is at most the last registered amount. -/
theorem Invocation.priorReservedCost_bounds (invocation : Invocation) :
    0 ≤ invocation.priorReservedCost ∧
      invocation.priorReservedCost ≤ 2703360 / 10000000 := by
  unfold Invocation.priorReservedCost
  split
  · norm_num
  · split <;> norm_num

/-- The registered requests read few enough tokens. -/
theorem Registered.plannedInput_le
    {invocation : Invocation}
    (registered : Registered invocation prepared) : plannedInput prepared ≤ 819200 := by
  have steps := registered.steps
  rw [plannedInput_eq fun item held =>
    invocation.arms_subset item.armId (registered.arms item held)]
  cases isLater : invocation.isLater with
  | true =>
      have isArms : invocation.arms = ["B".toList, "E-BM25".toList] := if_pos isLater
      have absent :
          ∀ arm ∉ invocation.arms, prepared.countP (·.armId = arm) = 0 := by
        intro arm absent
        rw [List.countP_eq_zero]
        intro item held same
        exact absent (of_decide_eq_true same ▸ registered.arms item held)
      rw [isArms] at steps absent
      rw [steps "B".toList (by decide), steps "E-BM25".toList (by decide),
        absent "A".toList (by decide), absent "ORACLE-GOLD".toList (by decide)]
      norm_num
  | false =>
      have isArms : invocation.arms =
          ["A".toList, "B".toList, "E-BM25".toList, "ORACLE-GOLD".toList] :=
        if_neg (ne_true_of_eq_false isLater)
      rw [isArms] at steps
      rw [steps "A".toList (by decide), steps "B".toList (by decide),
        steps "E-BM25".toList (by decide), steps "ORACLE-GOLD".toList (by decide)]
      norm_num

/-- The registered requests fit the caps. -/
theorem Registered.fits
    {invocation : Invocation}
    (registered : Registered invocation prepared) :
    Fits invocation.priorReservedCost prepared := by
  obtain ⟨notNegative, atMost⟩ := invocation.priorReservedCost_bounds
  have input := registered.plannedInput_le
  have few : prepared.length ≤ 256 := by
    rw [registered.count]
    unfold Invocation.expectedAttempts
    split <;> decide
  refine ⟨?_, registered.hashes, registered.distinct, few, input, notNegative, ?_⟩
  · exact fun item held => invocation.arms_subset item.armId (registered.arms item held)
  · have tokens : (plannedInput prepared : ℚ) ≤ 819200 := mod_cast input
    have length : (prepared.length : ℚ) ≤ 256 := mod_cast few
    rw [plannedCost_eq]
    linarith

/-- What a run leaves that came to its end. -/
structure Completed
    (F : Type)
    [FloatOps F]
    (invocation : Invocation)
    (prepared : List PreparedDevelopmentRequest)
    (digest : Str)
    (answered : List (Fate F × Str))
    (summary : RunSummary)
    (world : RunWorld) : Prop where
  /-- All requests were handed over. -/
  sent : world.sent.map (·.request) = prepared
  /-- The summary is written, and it counts the results and the correct ones among them; each
  result is the score of the answer to its request. -/
  results : ∃ rows, world.files.results = some rows ∧
    List.Forall₂ (fun request row => resultRow F request.1 (some request.2.2) = .ok row)
      (prepared.zip answered) rows ∧
    summary = .complete invocation.kind prepared.length digest
      (rows.countP (·.score.correct)) prepared.length (plannedCost prepared) ∧
    world.files.summary = some summary

/-- An empty ledger has the attempts of no request. -/
theorem logged_nil : Logged [] {} where
  sound := integrity_run []
  unfrozen := rfl
  attempts := .nil

/-- The world in which the files of a run are begun. -/
def begun (invocation : Invocation) (dataset digest : Str) : RunWorld :=
  { files :=
      { present := true
        dataset := some dataset
        registration := some ⟨invocation.kind, invocation.expectedAttempts, digest,
          invocation.priorReservedCost⟩ } }

omit [FloatOps F] in
/-- The directory is made. -/
theorem openDirectory_ran
    {fate : Fate F}
    (file : fate.file = .completes)
    (left : List (Fate F)) :
    openDirectory {} (fate :: left) = (.next (), { files := { present := true } }, left) := by
  unfold openDirectory
  refine (inspect_andThen _ _).trans ?_
  show makeDirectory {} (fate :: left) = _
  unfold makeDirectory await
  dsimp only [List.headD_cons, List.tail_cons]
  rw [file]

/-- Registered requests there are some of. -/
theorem Registered.ne_nil
    {invocation : Invocation}
    (registered : Registered invocation prepared) : prepared ≠ [] := by
  rintro rfl
  have none := registered.count
  unfold Invocation.expectedAttempts at none
  split at none <;> cases none

/-- A registered run whose files are begun goes on with its requests. -/
theorem execute_ran
    (sha256Hex : Str → Str)
    {invocation : Invocation}
    (registered : Registered invocation prepared)
    {dataset : Str}
    (isDataset : invocation.dataset = .ok dataset)
    {opening : Fate F}
    (opens : opening.file = .completes)
    {left last : List (Fate F)}
    {after : RunWorld}
    (ran : forEach prepared (attempt invocation.priorReservedCost (sha256Hex dataset))
      (begun invocation dataset (sha256Hex dataset)) left = (.next (), after, last)) :
    execute sha256Hex invocation {} (opening :: opening :: opening :: left) =
      andThen
        (writeFile fun world =>
          { world.files with
            summary := some (completeSummary invocation.kind (sha256Hex dataset) after) })
        (fun _ => Program.value (completeSummary invocation.kind (sha256Hex dataset) after))
        after last := by
  unfold execute
  refine (andThen_of_next (openDirectory_ran opens _)).trans ?_
  rw [isDataset]
  show (if invocation.amended && invocation.replacement then _ else _ : RunProgram F _) _ _ = _
  rw [if_neg (ne_true_of_eq_false registered.onePass), registered.isPrepared]
  show (if prepared.length ≠ invocation.expectedAttempts then _ else _ : RunProgram F _) _ _ = _
  have frozen : ¬(invocation.isLater && !invocation.historicalFrozen) = true := by
    have frozen := registered.frozen
    cases isLater : invocation.isLater with
    | false => exact Bool.false_ne_true
    | true =>
        rw [frozen isLater]
        exact Bool.false_ne_true
  rw [if_neg (not_not.mpr registered.count), if_neg frozen]
  refine (andThen_of_next (writeFile_ran opens _ _)).trans ?_
  refine (andThen_of_next (writeFile_ran opens _ _)).trans ?_
  refine (andThen_of_next ran).trans ?_
  exact inspect_andThen _ _

/-- A registered run whose requests are answered comes to its end. -/
theorem registeredRun
    (sha256Hex : Str → Str)
    {invocation : Invocation}
    (registered : Registered invocation prepared)
    {dataset : Str}
    (isDataset : invocation.dataset = .ok dataset)
    {opening closing : Fate F}
    (opens : opening.file = .completes)
    (closes : closing.file = .completes)
    {answered : List (Fate F × Str)}
    (answers : List.Forall₂ (fun item answer => Answers item answer.1 answer.2) prepared
      answered) :
    ∃ summary world,
      execute sha256Hex invocation {} (workingFates opening closing answered) =
        (.next summary, world, []) ∧
      Completed F invocation prepared (sha256Hex dataset) answered summary world := by
  let digest := sha256Hex dataset
  obtain ⟨after, rows, ran, logged, sent, areRows, results, file⟩ :
      ∃ after rows, forEach prepared (attempt invocation.priorReservedCost digest)
          (begun invocation dataset digest)
          (answered.flatMap (fun answer => List.replicate 5 answer.1) ++ [closing]) =
            (.next (), after, [closing]) ∧
        Logged prepared after.ledger ∧ after.sent.map (·.request) = prepared ∧
          List.Forall₂ (fun request row => resultRow F request.1 (some request.2.2) = .ok row)
            (prepared.zip answered) rows ∧
            after.results = (begun invocation dataset digest).results ++ rows ∧
              ((prepared = [] → (begun invocation dataset digest).files.results =
                some (begun invocation dataset digest).results) →
                  after.files.results = some after.results) :=
    forEach_ran registered.fits (List.nil_append prepared) logged_nil rfl answers digest [closing]
  have isResults : after.results = rows := results
  have written : after.files.results = some rows :=
    isResults ▸ file fun none => absurd none registered.ne_nil
  refine ⟨completeSummary invocation.kind digest after, _,
    (execute_ran sha256Hex registered isDataset opens ran).trans
      (andThen_of_next (writeFile_ran closes _ [])), sent, rows, written, areRows, ?_, rfl⟩
  have length : after.ledger.records.length = prepared.length :=
    logged.attempts.length_eq.symm
  have lengthRows : rows.length = prepared.length := by
    rw [← areRows.length_eq, List.length_zip, ← answers.length_eq, Nat.min_self]
  unfold completeSummary
  rw [isResults, length, lengthRows, logged.totals.2.2.2.2]

/-- A request of a later pass. -/
def laterRequest (armId : Str) (place : Nat) : PreparedDevelopmentRequest where
  conversationIndex := place / 4
  step :=
    { stepId := [Char.ofNat (48 + place)]
      stepType := "current".toList
      goldAtoms := ∅
      named := List.cons_ne_nil _ _
      nonces := fun atom absent => absurd absent (Finset.notMem_empty atom) }
  armId
  promptText := "Which code is current?".toList
  requestParameterHash := List.replicate 64 '0'

/-- The requests of a later pass. -/
def laterRequests : List PreparedDevelopmentRequest :=
  ["B".toList, "E-BM25".toList].flatMap fun armId => (List.range 64).map (laterRequest armId)

/-- A later pass. -/
def laterPass : Invocation where
  amended := true
  replacement := false
  dataset := .ok "{}".toList
  requests := .ok []
  amendedRequests := .ok laterRequests
  historicalFrozen := true

/-- A request is answered. -/
def abstaining : Fate Empty where
  file := .completes
  environment := some "key".toList
  envFile := .unreadable
  reply := .answered 200 (.dict
    [("choices".toList, .list
      [.dict [("message".toList, .dict [("content".toList, .str "{}".toList)])]]),
      ("usage".toList, .dict
        [("prompt_tokens".toList, .int 400), ("completion_tokens".toList, .int 20)])])

/-- The requests of a later pass are registered. -/
theorem registered_laterRequests : Registered laterPass laterRequests where
  isPrepared := rfl
  onePass := rfl
  frozen := fun _ => rfl
  count := by decide +kernel
  arms := by decide +kernel
  steps := by decide +kernel
  distinct := by decide +kernel
  hashes := by
    intro item held
    obtain ⟨armId, -, held⟩ := List.mem_flatMap.mp held
    obtain ⟨place, -, rfl⟩ := List.mem_map.mp held
    show (List.replicate 64 '0').length = 64 ∧ (List.replicate 64 '0').all
      (fun c => "0123456789abcdef".toList.contains c) = true
    decide

/-- A request is answered within its ceilings. -/
theorem answers_abstaining (item : PreparedDevelopmentRequest) :
    Answers item abstaining "{}".toList where
  file := rfl
  key := ⟨"key".toList, rfl⟩
  reply := by
    refine ⟨200, _, some ⟨400, 20⟩, rfl, rfl, ?_⟩
    intro reported isReported
    cases isReported
    refine ⟨?_, by decide⟩
    unfold inputCap
    split
    · decide
    · split <;> decide

/-- A later pass comes to its end. -/
theorem registeredRun_laterPass :
    ∃ summary world,
      execute id laterPass {}
        (workingFates abstaining abstaining
          (laterRequests.map fun _ => (abstaining, "{}".toList))) = (.next summary, world, []) ∧
      Completed Empty laterPass laterRequests "{}".toList
        (laterRequests.map fun _ => (abstaining, "{}".toList)) summary world :=
  registeredRun id registered_laterRequests rfl rfl rfl
    (List.forall₂_map_right_iff.mpr
      (List.forall₂_same.mpr fun item _ => answers_abstaining item))

end LongContext
end ChatPlatform
