import ChatPlatform.Heldout.OneRun

/-!
# Racing for the held-out run

The processes of one policy keep the ledger well formed, whatever their steps are and
in whatever order. A process that decided on a number knows what the ledger said when
it read it; a process that reserved a number knows that no attempt was started since;
the owner of an attempt knows that the attempt has not ended.
-/

namespace ChatPlatform
namespace Heldout

open Interleaving

/-- The attempts a policy allows; none when it is not a policy. -/
def maximumTotalAttempts (policy : Dict Empty) : Int :=
  match positiveInt policy "maximum_total_attempts".toList with
  | .ok maximum => maximum
  | .error _ => 0

theorem maximumTotalAttempts_nonneg (policy : Dict Empty) :
    0 ≤ maximumTotalAttempts policy := by
  unfold maximumTotalAttempts
  split
  · rename_i maximum positive
    unfold positiveInt at positive
    split at positive
    · split at positive
      · cases positive
        omega
      · cases positive
    · cases positive
  · exact Int.le_refl 0

/-! ## What the reads establish -/

/-- Reading gives the lines of the ledger. -/
theorem readEvents_eq
    {events read : List AttemptEvent}
    (isRead : readEvents events = .ok read) : read = events := by
  unfold readEvents at isRead
  split at isRead
  · cases isRead
  · split at isRead
    · cases isRead
    · split at isRead
      · cases isRead
      · cases isRead
        rfl

/-- What a start that was decided on found in the ledger. -/
structure Admitted
    (maximum : Int)
    (seen : List AttemptEvent)
    (runId : Str)
    (attemptNumber : Int) : Prop where
  /-- The number is the next one. -/
  numbered : attemptNumber = (starts seen).length + 1
  /-- It is within the limit. -/
  limited : attemptNumber ≤ maximum
  /-- The run is new. -/
  fresh : ∀ event ∈ seen, event.runId ≠ runId
  /-- The last attempt ended invalid and may be retried. -/
  authorized : ∀ last, (starts seen).getLast? = some last →
    ∃ ended ∈ seen, ended.runId = last.runId ∧ ended.status = .invalid ∧
      ended.retryEligible = some true
  /-- No attempt is completed. -/
  undecided : ∀ event ∈ seen, event.status ≠ .completed

/-- A last attempt that authorises another one. -/
private theorem authorized_of_previousRefusal
    {events : List AttemptEvent}
    (accepted : previousRefusal events = none)
    {last : AttemptEvent}
    (isLast : (starts events).getLast? = some last) :
    ∃ ended ∈ events, ended.runId = last.runId ∧ ended.status = .invalid ∧
      ended.retryEligible = some true := by
  unfold previousRefusal at accepted
  rw [isLast] at accepted
  dsimp only at accepted
  split at accepted
  · cases accepted
  · rename_i ended isEnded
    split at accepted
    · cases accepted
    · rename_i fine
      obtain ⟨held, sameRun, -⟩ := mem_terminalsOf.mp (List.mem_of_getLast? isEnded)
      rw [not_or, not_not, not_not] at fine
      exact ⟨ended, held, sameRun, fine.1, fine.2⟩

/-- A start is decided on only for these reasons. -/
theorem admitted_of_admission
    {policy : Dict Empty}
    {events : List AttemptEvent}
    {runId : Str}
    {attemptNumber : Int}
    (accepted : admission policy events runId = .ok attemptNumber) :
    Admitted (maximumTotalAttempts policy) events runId attemptNumber := by
  unfold admission at accepted
  split at accepted
  · cases accepted
  · cases accepted
  · rename_i maximum replacements isMaximum isReplacements
    split at accepted
    · cases accepted
    · split at accepted
      · cases accepted
      · rename_i read isRead
        rw [readEvents_eq isRead] at accepted
        unfold nextAttempt at accepted
        split at accepted
        · cases accepted
        · rename_i undecided
          split at accepted
          · cases accepted
          · rename_i authorizes
            dsimp only at accepted
            split at accepted
            · cases accepted
            · rename_i limited
              split at accepted
              · cases accepted
              · rename_i fresh
                cases accepted
                constructor
                · rfl
                · unfold maximumTotalAttempts
                  rw [isMaximum]
                  exact Int.not_lt.mp limited
                · intro event held same
                  exact fresh (List.any_eq_true.mpr ⟨event, held, decide_eq_true same⟩)
                · exact fun last => authorized_of_previousRefusal authorizes
                · intro event held completed
                  exact undecided
                    (List.any_eq_true.mpr ⟨event, held, decide_eq_true completed⟩)

/-- The attempt of a run is started and has not ended. -/
structure Running (events : List AttemptEvent) (runId : Str) (attemptNumber : Int) :
    Prop where
  /-- It is started. -/
  started : ∃ start ∈ starts events, start.runId = runId ∧
    start.attemptNumber = attemptNumber
  /-- It has not ended. -/
  unended : terminalsOf events runId = []

/-- A terminal event is made for a running attempt only. -/
theorem running_of_terminal
    {events : List AttemptEvent}
    {attempt : HeldoutAttempt}
    {ending : Ending}
    {eventId recordedAt : Str}
    {event : AttemptEvent}
    (made : terminal events attempt ending eventId recordedAt = .ok event) :
    event.status ≠ .started ∧ event.runId = attempt.runId ∧
      Running events event.runId event.attemptNumber := by
  unfold terminal at made
  split at made
  · cases made
  · rename_i read isRead
    rw [readEvents_eq isRead] at made
    split at made
    · rename_i start isStart none
      have mine : start ∈ (starts events).filter (·.runId = attempt.runId) := by
        rw [isStart]
        exact List.mem_singleton_self _
      obtain ⟨held, sameRun⟩ := List.mem_filter.mp mine
      have sameRun := of_decide_eq_true sameRun
      cases made
      refine ⟨?_, sameRun, ⟨start, held, rfl, rfl⟩, ?_⟩
      · cases ending <;> nofun
      · dsimp only
        rw [sameRun]
        exact none
    · cases made

/-- So is the event of either call. -/
theorem running_of_classify
    {events : List AttemptEvent}
    {attempt : HeldoutAttempt}
    {ending : Ending}
    {eventId recordedAt : Str}
    {event : AttemptEvent}
    (made : classify events attempt ending eventId recordedAt = .ok event) :
    event.status ≠ .started ∧ event.runId = attempt.runId ∧
      Running events event.runId event.attemptNumber := by
  unfold classify at made
  split at made
  · exact running_of_terminal made
  · split at made
    · exact running_of_terminal made
    · cases made

/-! ## What a step can do -/

/-- The effects of a step. -/
inductive Effect (policy : Dict Empty) (files : Files) : Phase → Files × Phase → Prop
  /-- Nothing happens. -/
  | stays (phase : Phase) : Effect policy files phase (files, phase)
  /-- A call raises, or the process stops. -/
  | stops (phase : Phase) : Effect policy files phase (files, .idle)
  /-- A start is decided on. -/
  | decides
      {call : StartCall}
      {attemptNumber : Int}
      (accepted : admission policy files.events call.runId = .ok attemptNumber) :
      Effect policy files .idle (files, .decided call attemptNumber)
  /-- A number that is free is reserved. -/
  | reserves
      {call : StartCall}
      {attemptNumber : Int}
      (free : attemptNumber ∉ files.reservations.map (·.1)) :
      Effect policy files (.decided call attemptNumber)
        ({ files with
            reservations := files.reservations ++ [(attemptNumber, call.runId)] },
          .reserved call attemptNumber)
  /-- The attempt is started. -/
  | appendsStart
      (call : StartCall)
      (attemptNumber : Int)
      (eventId recordedAt : Str) :
      Effect policy files (.reserved call attemptNumber)
        ({ files with
            events := files.events ++ [call.event attemptNumber eventId recordedAt] },
          .owner ⟨call.runId, attemptNumber⟩)
  /-- An ending is decided on. -/
  | classifies
      {attempt : HeldoutAttempt}
      {ending : Ending}
      {eventId recordedAt : Str}
      {event : AttemptEvent}
      (made : classify files.events attempt ending eventId recordedAt = .ok event) :
      Effect policy files (.owner attempt) (files, .classified event)
  /-- The attempt is ended. -/
  | appendsTerminal (event : AttemptEvent) :
      Effect policy files (.classified event)
        ({ files with events := files.events ++ [event] }, .idle)

/-- A step has one of these effects. -/
theorem act_effect
    (policy : Dict Empty)
    (files : Files)
    (phase : Phase)
    (move : Move) : Effect policy files phase (act policy files phase move) := by
  unfold act
  split
  · split
    · rename_i accepted
      exact .decides accepted
    · exact .stops _
  · split
    · exact .stops _
    · rename_i free
      exact .reserves free
  · exact .appendsStart _ _ _ _
  · split
    · rename_i made
      exact .classifies made
    · exact .stays _
  · exact .appendsTerminal _
  · exact .stops _
  · exact .stays _

/-! ## The invariant -/

/-- The ledger is well formed and every attempt is reserved. -/
structure Sound (policy : Dict Empty) (files : Files) : Prop where
  /-- The ledger is well formed. -/
  wellFormed : WellFormed (maximumTotalAttempts policy) files.events
  /-- The number of a started attempt is reserved. -/
  reserved : ∀ start ∈ starts files.events,
    start.attemptNumber ∈ files.reservations.map (·.1)

/-- A process read the ledger and decided. -/
def Decided
    (policy : Dict Empty)
    (files : Files)
    (call : StartCall)
    (attemptNumber : Int) : Prop :=
  ∃ seen, seen <+: files.events ∧
    Admitted (maximumTotalAttempts policy) seen call.runId attemptNumber

/-- What a process knows. -/
def Knows (policy : Dict Empty) (files : Files) : Phase → Prop
  | .idle => True
  | .decided call attemptNumber => Decided policy files call attemptNumber
  | .reserved call attemptNumber =>
      Decided policy files call attemptNumber ∧
        attemptNumber ∈ files.reservations.map (·.1) ∧
        attemptNumber = (starts files.events).length + 1
  | .owner attempt => Running files.events attempt.runId attempt.attemptNumber
  | .classified event =>
      event.status ≠ .started ∧ Running files.events event.runId event.attemptNumber

/-- The number a process reserved and has not used. -/
def Phase.reservation : Phase → Option Int
  | .reserved _ attemptNumber => some attemptNumber
  | _ => none

/-- The run whose attempt a process owns. -/
def Phase.run : Phase → Option Str
  | .owner attempt => some attempt.runId
  | .classified event => some event.runId
  | _ => none

/-- Two processes hold different reservations and different attempts. -/
structure Apart (left right : Phase) : Prop where
  /-- Different reservations. -/
  reservations : ∀ number, left.reservation = some number →
    right.reservation ≠ some number
  /-- Different attempts. -/
  runs : ∀ runId, left.run = some runId → right.run ≠ some runId

theorem Apart.symm {left right : Phase} (apart : Apart left right) : Apart right left :=
  ⟨fun number mine other => apart.reservations number other mine,
    fun runId mine other => apart.runs runId other mine⟩

variable {policy : Dict Empty} {files : Files}

/-- A decision that was read earlier was read earlier. -/
theorem Decided.later
    {call : StartCall}
    {attemptNumber : Int}
    (decided : Decided policy files call attemptNumber)
    {events : List AttemptEvent}
    {reservations : List (Int × Str)}
    (grown : files.events <+: events) :
    Decided policy ⟨events, reservations⟩ call attemptNumber := by
  obtain ⟨seen, part, admitted⟩ := decided
  exact ⟨seen, part.trans grown, admitted⟩

/-- A reserved start may be appended: no attempt was started since its process read the
ledger, and what was appended since ends attempts that had been started then. -/
theorem extends_of_reserved
    (sound : Sound policy files)
    {call : StartCall}
    {attemptNumber : Int}
    (decided : Decided policy files call attemptNumber)
    (isNext : attemptNumber = (starts files.events).length + 1)
    (eventId recordedAt : Str) :
    Extends (maximumTotalAttempts policy) files.events
      (call.event attemptNumber eventId recordedAt) := by
  obtain ⟨seen, ⟨later, grown⟩, admitted⟩ := decided
  have wellFormed := sound.wellFormed
  have noneLater : starts later = [] := by
    have counted := admitted.numbered
    rw [isNext, ← grown] at counted
    unfold starts at counted ⊢
    rw [List.filter_append, List.length_append] at counted
    exact List.length_eq_zero_iff.mp (by omega)
  have sameStarts : starts files.events = starts seen := by
    rw [← grown]
    unfold starts at noneLater ⊢
    rw [List.filter_append, noneLater, List.append_nil]
  have endedInvalid : ∀ last, (starts files.events).getLast? = some last →
      ∃ ended ∈ files.events, ended.runId = last.runId ∧
        ended.attemptNumber = last.attemptNumber ∧ ended.status = .invalid ∧
        ended.retryEligible = some true := by
    intro last isLast
    obtain ⟨ended, held, sameRun, invalid, eligible⟩ :=
      admitted.authorized last (sameStarts ▸ isLast)
    have heldNow : ended ∈ files.events := by
      rw [← grown]
      exact List.mem_append_left _ held
    obtain ⟨start, started, itsRun, itsNumber⟩ :=
      wellFormed.ofStarted heldNow (by rw [invalid]; nofun)
    have same := wellFormed.start_unique started (List.mem_of_getLast? isLast)
      (itsRun.trans sameRun)
    exact ⟨ended, heldNow, sameRun, by rw [← itsNumber, same], invalid, eligible⟩
  refine .started rfl isNext admitted.limited ?_ endedInvalid ?_
  · intro earlier held
    rw [← grown] at held
    rcases List.mem_append.mp held with before | since
    · exact admitted.fresh earlier before
    · have isTerminal : earlier.status ≠ .started := by
        intro isStart
        have started := mem_starts.mpr ⟨since, isStart⟩
        rw [noneLater] at started
        exact List.not_mem_nil started
      obtain ⟨start, started, itsRun, -⟩ := wellFormed.ofStarted (grown ▸ held) isTerminal
      rw [sameStarts] at started
      rw [← itsRun]
      exact admitted.fresh start (mem_starts.mp started).1
  · intro earlier held completed
    obtain ⟨start, isLast, itsRun⟩ := wellFormed.completed_last held completed
    obtain ⟨ended, endedHeld, endedRun, -, invalid, -⟩ := endedInvalid start isLast
    have same := wellFormed.terminal_unique endedHeld held (by rw [invalid]; nofun)
      (by rw [completed]; nofun) (endedRun.trans itsRun)
    rw [same, completed] at invalid
    cases invalid

/-- An attempt goes on running while nothing ends it. -/
theorem Running.append
    {events : List AttemptEvent}
    {runId : Str}
    {attemptNumber : Int}
    (running : Running events runId attemptNumber)
    {event : AttemptEvent}
    (another : event.status = .started ∨ event.runId ≠ runId) :
    Running (events ++ [event]) runId attemptNumber := by
  obtain ⟨start, started, same⟩ := running.started
  obtain ⟨held, isStart⟩ := mem_starts.mp started
  refine ⟨⟨start, mem_starts.mpr ⟨List.mem_append_left _ held, isStart⟩, same⟩, ?_⟩
  have none : terminalsOf [event] runId = [] := by
    unfold terminalsOf
    rw [List.filter_eq_nil_iff]
    intro only isOnly its
    obtain ⟨sameRun, isTerminal⟩ := of_decide_eq_true its
    rw [List.mem_singleton.mp isOnly] at sameRun isTerminal
    rcases another with isStart | different
    · exact isTerminal isStart
    · exact different sameRun
  rw [terminalsOf_append, running.unended, none, List.append_nil]

/-- An attempt runs from its start on. -/
theorem running_of_start
    {call : StartCall}
    {attemptNumber : Int}
    {eventId recordedAt : Str}
    (extended : Extends (maximumTotalAttempts policy) files.events
      (call.event attemptNumber eventId recordedAt)) :
    Running (files.events ++ [call.event attemptNumber eventId recordedAt]) call.runId
      attemptNumber := by
  cases extended with
  | ended isTerminal ofStarted first => exact absurd rfl isTerminal
  | started isStart numbered limited fresh authorized undecided =>
      refine ⟨⟨_, mem_starts.mpr ⟨List.mem_append_right _ (List.mem_singleton_self _), rfl⟩,
        rfl, rfl⟩, ?_⟩
      unfold terminalsOf
      rw [List.filter_eq_nil_iff]
      intro event held its
      obtain ⟨sameRun, isTerminal⟩ := of_decide_eq_true its
      rcases List.mem_append.mp held with earlier | new
      · exact fresh event earlier sameRun
      · exact isTerminal (by rw [List.mem_singleton.mp new]; rfl)

/-- The last number is not reserved before its attempt is started by anyone else. -/
private theorem isNext_of_reserves
    (sound : Sound policy files)
    {call : StartCall}
    {attemptNumber : Int}
    (decided : Decided policy files call attemptNumber)
    (free : attemptNumber ∉ files.reservations.map (·.1)) :
    attemptNumber = (starts files.events).length + 1 := by
  obtain ⟨seen, ⟨later, grown⟩, admitted⟩ := decided
  have counted := admitted.numbered
  have more : (starts seen).length ≤ (starts files.events).length := by
    rw [← grown]
    unfold starts
    rw [List.filter_append, List.length_append]
    exact Nat.le_add_right _ _
  by_contra different
  have among : attemptNumber ∈ (starts files.events).map (·.attemptNumber) := by
    rw [sound.wellFormed.numbered]
    refine List.mem_map.mpr ⟨(starts seen).length + 1, ?_, by omega⟩
    rw [List.mem_range'_1]
    omega
  obtain ⟨start, started, its⟩ := List.mem_map.mp among
  exact free (its ▸ sound.reserved start started)

section Act

variable {mine other : Phase} {move : Move}

/-- A step keeps the files sound. -/
private theorem sound_act
    (sound : Sound policy files)
    (knows : Knows policy files mine) : Sound policy (act policy files mine move).1 := by
  have effect := act_effect policy files mine move
  generalize act policy files mine move = result at effect
  cases effect with
  | stays => exact sound
  | stops => exact sound
  | decides accepted => exact sound
  | classifies made => exact sound
  | reserves free =>
      refine ⟨sound.wellFormed, fun start started => ?_⟩
      rw [List.map_append]
      exact List.mem_append_left _ (sound.reserved start started)
  | appendsStart call attemptNumber eventId recordedAt =>
      obtain ⟨decided, isReserved, isNext⟩ := knows
      refine ⟨sound.wellFormed.snoc (extends_of_reserved sound decided isNext _ _), ?_⟩
      intro start started
      rw [starts_append_start rfl] at started
      rcases List.mem_append.mp started with earlier | new
      · exact sound.reserved start earlier
      · rw [List.mem_singleton.mp new]
        exact isReserved
  | appendsTerminal event =>
      obtain ⟨isTerminal, running⟩ := knows
      refine ⟨sound.wellFormed.snoc (.ended isTerminal running.started running.unended),
        ?_⟩
      intro start started
      rw [starts_append_terminal isTerminal] at started
      exact sound.reserved start started

/-- What a process knows after its step is right. -/
private theorem knows_act
    (sound : Sound policy files)
    (knows : Knows policy files mine) :
    Knows policy (act policy files mine move).1 (act policy files mine move).2 := by
  have effect := act_effect policy files mine move
  generalize act policy files mine move = result at effect
  cases effect with
  | stays => exact knows
  | stops => trivial
  | decides accepted => exact ⟨files.events, List.prefix_rfl, admitted_of_admission accepted⟩
  | classifies made =>
      obtain ⟨isTerminal, -, running⟩ := running_of_classify made
      exact ⟨isTerminal, running⟩
  | reserves free =>
      refine ⟨Decided.later knows List.prefix_rfl, ?_, isNext_of_reserves sound knows free⟩
      rw [List.map_append]
      exact List.mem_append_right _ (List.mem_singleton_self _)
  | appendsStart call attemptNumber eventId recordedAt =>
      exact running_of_start (extends_of_reserved sound knows.1 knows.2.2 _ _)
  | appendsTerminal event => trivial

/-- What another process knows stays right. -/
private theorem othersKnow_act
    (knows : Knows policy files mine)
    (othersKnow : Knows policy files other)
    (apart : Apart mine other) : Knows policy (act policy files mine move).1 other := by
  have effect := act_effect policy files mine move
  generalize act policy files mine move = result at effect
  cases effect with
  | stays => exact othersKnow
  | stops => exact othersKnow
  | decides accepted => exact othersKnow
  | classifies made => exact othersKnow
  | reserves free =>
      cases other with
      | idle => trivial
      | decided call attemptNumber => exact Decided.later othersKnow List.prefix_rfl
      | reserved call attemptNumber =>
          refine ⟨Decided.later othersKnow.1 List.prefix_rfl, ?_, othersKnow.2.2⟩
          rw [List.map_append]
          exact List.mem_append_left _ othersKnow.2.1
      | owner attempt => exact othersKnow
      | classified event => exact othersKnow
  | appendsStart call attemptNumber eventId recordedAt =>
      cases other with
      | idle => trivial
      | decided call attemptNumber =>
          exact Decided.later othersKnow (List.prefix_append _ _)
      | reserved another otherNumber =>
          have same : attemptNumber = otherNumber := knows.2.2.trans othersKnow.2.2.symm
          exact absurd (congrArg some same.symm) (apart.reservations attemptNumber rfl)
      | owner attempt => exact othersKnow.append (Or.inl rfl)
      | classified event => exact ⟨othersKnow.1, othersKnow.2.append (Or.inl rfl)⟩
  | appendsTerminal event =>
      cases other with
      | idle => trivial
      | decided call attemptNumber =>
          exact Decided.later othersKnow (List.prefix_append _ _)
      | reserved call attemptNumber =>
          refine ⟨Decided.later othersKnow.1 (List.prefix_append _ _), othersKnow.2.1, ?_⟩
          rw [starts_append_terminal knows.1]
          exact othersKnow.2.2
      | owner attempt =>
          exact othersKnow.append (Or.inr fun same =>
            apart.runs event.runId rfl (congrArg some same.symm))
      | classified another =>
          exact ⟨othersKnow.1, othersKnow.2.append (Or.inr fun same =>
            apart.runs event.runId rfl (congrArg some same.symm))⟩

/-- A process stays apart from another one. -/
private theorem apart_act
    (sound : Sound policy files)
    (knows : Knows policy files mine)
    (othersKnow : Knows policy files other)
    (apart : Apart mine other) : Apart (act policy files mine move).2 other := by
  have effect := act_effect policy files mine move
  generalize act policy files mine move = result at effect
  cases effect with
  | stays => exact apart
  | stops => exact ⟨nofun, nofun⟩
  | decides accepted => exact ⟨nofun, nofun⟩
  | classifies made =>
      obtain ⟨-, sameRun, -⟩ := running_of_classify made
      refine ⟨nofun, fun runId isRun => apart.runs runId ?_⟩
      rw [← isRun]
      exact congrArg some sameRun.symm
  | reserves free =>
      refine ⟨fun number isNumber otherNumber => ?_, nofun⟩
      cases other with
      | reserved another reservedNumber =>
          apply free
          rw [Option.some.inj isNumber, ← Option.some.inj otherNumber]
          exact othersKnow.2.1
      | idle => cases otherNumber
      | decided call attemptNumber => cases otherNumber
      | owner attempt => cases otherNumber
      | classified event => cases otherNumber
  | appendsStart call attemptNumber eventId recordedAt =>
      refine ⟨nofun, fun runId isRun otherRun => ?_⟩
      have mine : runId = call.runId := (Option.some.inj isRun).symm
      have runs : ∃ number, Running files.events runId number := by
        cases other with
        | idle => cases otherRun
        | decided call attemptNumber => cases otherRun
        | reserved call attemptNumber => cases otherRun
        | owner attempt =>
            cases otherRun
            exact ⟨_, othersKnow⟩
        | classified event =>
            cases otherRun
            exact ⟨_, othersKnow.2⟩
      obtain ⟨number, running⟩ := runs
      obtain ⟨start, started, sameRun, -⟩ := running.started
      cases extends_of_reserved sound knows.1 knows.2.2 eventId recordedAt with
      | ended isTerminal ofStarted first => exact isTerminal rfl
      | started isStart numbered limited fresh authorized undecided =>
          exact fresh start (mem_starts.mp started).1 (sameRun.trans mine)
  | appendsTerminal event => exact ⟨nofun, nofun⟩

end Act

/-- Every step keeps the invariant. -/
theorem preserved (policy : Dict Empty) :
    Preserved (act policy) (Sound policy) (Knows policy) Apart where
  symmetric := Apart.symm
  keepsShared := sound_act
  keepsOwn := knows_act
  keepsOthers := fun _ knows othersKnow apart => othersKnow_act knows othersKnow apart
  keepsApart := apart_act

/-! ## Every run of the processes -/

/-- No file exists and no process has called anything. -/
def initial (P : Type) : World P Files Phase := ⟨{}, fun _ => .idle⟩

/-- Whatever the processes do and in whatever order, the ledger is one of one valid
run. -/
theorem oneValidRun_of_run
    {P : Type}
    [DecidableEq P]
    (policy : Dict Empty)
    (schedule : List (P × Move)) :
    OneValidRun (maximumTotalAttempts policy)
      (run (act policy) (initial P) schedule).shared.events := by
  have start : Holds (Sound policy) (Knows policy) Apart (initial P) :=
    ⟨⟨.nil, fun _ started => absurd started List.not_mem_nil⟩, fun _ => trivial,
      fun _ _ _ => ⟨nofun, nofun⟩⟩
  exact ((preserved policy).run start schedule).sharedHolds.wellFormed.oneValidRun
    (maximumTotalAttempts_nonneg policy)

/-- A policy of two attempts. -/
def twoAttempts : Dict Empty :=
  [("maximum_total_attempts".toList, .int 2),
    ("maximum_replacement_attempts".toList, .int 1)]

example :
    ((run (act twoAttempts) (initial Bool)
      [(true, .start ⟨"r".toList, [], [], []⟩), (false, .start ⟨"q".toList, [], [], []⟩),
        (true, .reserve), (false, .reserve), (true, .appendStart [] []),
        (true, .finish (.completed "GO".toList) [] []),
        (true, .appendTerminal)]).shared.events.map fun event =>
          (event.attemptNumber, event.status)) =
      [(1, .started), (1, .completed)] := by
  decide +kernel

end Heldout
end ChatPlatform
