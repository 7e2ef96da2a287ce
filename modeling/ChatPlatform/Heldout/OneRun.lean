import ChatPlatform.Foundation.Growth
import ChatPlatform.Heldout.Ledger
import Mathlib.Data.List.Nodup
import Mathlib.Tactic.Linarith

/-!
# One valid held-out run

Every ledger the processes can reach, whatever the interleaving, grows one well-formed
line at a time: a started attempt continues the numbering after attempts that all ended
invalid and may be retried, and a terminal event ends a started attempt that has not
ended. What keeps a stale decision from harm is the reservation file: it is keyed by
the number, and every number of a started attempt is reserved.
-/

namespace ChatPlatform
namespace Heldout

/-! ## Well-formed ledgers -/

/-- An event may be appended to a ledger. -/
inductive Extends (maximum : Int) (events : List AttemptEvent) (event : AttemptEvent) :
    Prop
  /-- It starts the next attempt: within the limit, of a new run, after the last one
  ended invalid and may be retried, and before any is completed. -/
  | started
      (isStart : event.status = .started)
      (numbered : event.attemptNumber = (starts events).length + 1)
      (limited : event.attemptNumber ≤ maximum)
      (fresh : ∀ earlier ∈ events, earlier.runId ≠ event.runId)
      (authorized : ∀ last, (starts events).getLast? = some last →
        ∃ ended ∈ events, ended.runId = last.runId ∧
          ended.attemptNumber = last.attemptNumber ∧ ended.status = .invalid ∧
          ended.retryEligible = some true)
      (undecided : ∀ earlier ∈ events, earlier.status ≠ .completed)
  /-- It ends a started attempt that has not ended. -/
  | ended
      (isTerminal : event.status ≠ .started)
      (ofStarted : ∃ start ∈ starts events, start.runId = event.runId ∧
        start.attemptNumber = event.attemptNumber)
      (first : terminalsOf events event.runId = [])

/-- Every event of a ledger could be appended to the ones before it. -/
inductive WellFormed (maximum : Int) : List AttemptEvent → Prop
  | nil : WellFormed maximum []
  | snoc
      {events : List AttemptEvent}
      {event : AttemptEvent}
      (earlier : WellFormed maximum events)
      (extended : Extends maximum events event) : WellFormed maximum (events ++ [event])

variable {maximum : Int} {events before after : List AttemptEvent} {event : AttemptEvent}

/-- What comes before an event of a well-formed ledger is well formed, and the event
could be appended to it. -/
theorem WellFormed.split (wellFormed : WellFormed maximum events) :
    ∀ {before after event}, events = before ++ event :: after →
      WellFormed maximum before ∧ Extends maximum before event := by
  induction wellFormed with
  | nil =>
      intro before after event same
      exact absurd same (List.append_ne_nil_of_right_ne_nil _ (List.cons_ne_nil _ _)).symm
  | @snoc events last earlier extended inductionHypothesis =>
      intro before after event same
      rcases Growth.split_snoc same with ⟨rfl, rfl, -⟩ | ⟨front, -, same⟩
      · exact ⟨earlier, extended⟩
      · exact inductionHypothesis same

theorem starts_append_start (isStart : event.status = .started) :
    starts (events ++ [event]) = starts events ++ [event] := by
  unfold starts
  rw [List.filter_append, List.filter_cons_of_pos (by simp [isStart]), List.filter_nil]

theorem starts_append_terminal (isTerminal : event.status ≠ .started) :
    starts (events ++ [event]) = starts events := by
  unfold starts
  rw [List.filter_append, List.filter_cons_of_neg (by simp [isTerminal]), List.filter_nil,
    List.append_nil]

theorem mem_starts : event ∈ starts events ↔ event ∈ events ∧ event.status = .started := by
  unfold starts
  rw [List.mem_filter, decide_eq_true_eq]

theorem mem_terminalsOf {runId : Str} :
    event ∈ terminalsOf events runId ↔
      event ∈ events ∧ event.runId = runId ∧ event.status ≠ .started := by
  unfold terminalsOf
  rw [List.mem_filter, decide_eq_true_eq]

theorem terminalsOf_append {runId : Str} (later : List AttemptEvent) :
    terminalsOf (events ++ later) runId =
      terminalsOf events runId ++ terminalsOf later runId :=
  List.filter_append _ _

/-- The attempts are numbered from one without gaps. -/
theorem WellFormed.numbered (wellFormed : WellFormed maximum events) :
    (starts events).map (·.attemptNumber) =
      (List.range' 1 (starts events).length).map (fun number : Nat => (number : Int)) := by
  induction wellFormed with
  | nil => rfl
  | snoc earlier extended inductionHypothesis =>
      cases extended with
      | started isStart numbered limited fresh authorized undecided =>
          rw [starts_append_start isStart, List.map_append, inductionHypothesis,
            List.length_append, List.length_singleton, List.range'_1_concat,
            List.map_append, List.map_singleton, List.map_singleton, numbered]
          congr 2
          omega
      | ended isTerminal ofStarted first =>
          rw [starts_append_terminal isTerminal]
          exact inductionHypothesis

/-- There are no more attempts than the policy allows. -/
theorem WellFormed.limited
    (wellFormed : WellFormed maximum events)
    (notNegative : 0 ≤ maximum) : ((starts events).length : Int) ≤ maximum := by
  induction wellFormed with
  | nil => exact notNegative
  | snoc earlier extended inductionHypothesis =>
      cases extended with
      | started isStart numbered limited fresh authorized undecided =>
          rw [starts_append_start isStart, List.length_append, List.length_singleton]
          omega
      | ended isTerminal ofStarted first =>
          rw [starts_append_terminal isTerminal]
          exact inductionHypothesis

/-- No two attempts are of one run. -/
theorem WellFormed.distinct (wellFormed : WellFormed maximum events) :
    ((starts events).map (·.runId)).Nodup := by
  induction wellFormed with
  | nil => exact List.nodup_nil
  | snoc earlier extended inductionHypothesis =>
      cases extended with
      | started isStart numbered limited fresh authorized undecided =>
          rw [starts_append_start isStart, List.map_append, List.map_singleton,
            ← List.concat_eq_append, List.nodup_concat]
          refine ⟨?_, inductionHypothesis⟩
          intro again
          obtain ⟨start, held, same⟩ := List.mem_map.mp again
          exact fresh start (mem_starts.mp held).1 same
      | ended isTerminal ofStarted first =>
          rw [starts_append_terminal isTerminal]
          exact inductionHypothesis

/-- A terminal event belongs to an attempt started before. -/
theorem WellFormed.ofStarted
    (wellFormed : WellFormed maximum events)
    (held : event ∈ events)
    (isTerminal : event.status ≠ .started) :
    ∃ start ∈ starts events, start.runId = event.runId ∧
      start.attemptNumber = event.attemptNumber := by
  obtain ⟨before, after, rfl⟩ := List.append_of_mem held
  obtain ⟨-, extended⟩ := wellFormed.split rfl
  cases extended with
  | started isStart numbered limited fresh authorized undecided =>
      exact absurd isStart isTerminal
  | ended isTerminal ofStarted first =>
      obtain ⟨start, started, same⟩ := ofStarted
      obtain ⟨held, isStart⟩ := mem_starts.mp started
      exact ⟨start, mem_starts.mpr ⟨List.mem_append_left _ held, isStart⟩, same⟩

/-- An attempt ends at most once. -/
theorem WellFormed.endsOnce (wellFormed : WellFormed maximum events) (runId : Str) :
    (terminalsOf events runId).length ≤ 1 := by
  induction wellFormed with
  | nil => exact Nat.zero_le 1
  | @snoc events event earlier extended inductionHypothesis =>
      rw [terminalsOf_append]
      by_cases its : event.runId = runId ∧ event.status ≠ .started
      · cases extended with
        | started isStart numbered limited fresh authorized undecided =>
            exact absurd isStart its.2
        | ended isTerminal ofStarted first =>
            rw [← its.1, first, List.nil_append]
            exact List.length_filter_le _ _
      · have none : terminalsOf [event] runId = [] := by
          unfold terminalsOf
          rw [List.filter_cons_of_neg (by simpa using its), List.filter_nil]
        rw [none, List.append_nil]
        exact inductionHypothesis

/-- Two terminal events of one run are the same one. -/
theorem WellFormed.terminal_unique
    (wellFormed : WellFormed maximum events)
    {first second : AttemptEvent}
    (firstHeld : first ∈ events)
    (secondHeld : second ∈ events)
    (firstTerminal : first.status ≠ .started)
    (secondTerminal : second.status ≠ .started)
    (sameRun : first.runId = second.runId) : first = second := by
  have few := wellFormed.endsOnce second.runId
  have firstIn := mem_terminalsOf.mpr ⟨firstHeld, sameRun, firstTerminal⟩
  have secondIn := mem_terminalsOf.mpr ⟨secondHeld, rfl, secondTerminal⟩
  generalize terminalsOf events second.runId = terminals at few firstIn secondIn
  match terminals, few with
  | [], _ => exact absurd firstIn List.not_mem_nil
  | [only], _ =>
      rw [List.mem_singleton.mp firstIn, List.mem_singleton.mp secondIn]

/-- Two attempts of one run are the same one. -/
theorem WellFormed.start_unique
    (wellFormed : WellFormed maximum events)
    {first second : AttemptEvent}
    (firstHeld : first ∈ starts events)
    (secondHeld : second ∈ starts events)
    (sameRun : first.runId = second.runId) : first = second :=
  List.inj_on_of_nodup_map wellFormed.distinct firstHeld secondHeld sameRun

/-- An attempt after which another one started ended invalid and could be retried. -/
theorem WellFormed.endedInvalid
    (wellFormed : WellFormed maximum events)
    {start : AttemptEvent}
    (held : start ∈ starts events)
    (followed : (starts events).getLast? ≠ some start) :
    ∃ ended ∈ events, ended.runId = start.runId ∧
      ended.attemptNumber = start.attemptNumber ∧ ended.status = .invalid ∧
      ended.retryEligible = some true := by
  induction wellFormed with
  | nil => exact absurd held List.not_mem_nil
  | @snoc events event earlier extended inductionHypothesis =>
      have later : (∃ ended ∈ events, ended.runId = start.runId ∧
          ended.attemptNumber = start.attemptNumber ∧ ended.status = .invalid ∧
          ended.retryEligible = some true) →
          ∃ ended ∈ events ++ [event], ended.runId = start.runId ∧
            ended.attemptNumber = start.attemptNumber ∧ ended.status = .invalid ∧
            ended.retryEligible = some true := by
        rintro ⟨ended, endedHeld, its⟩
        exact ⟨ended, List.mem_append_left _ endedHeld, its⟩
      apply later
      cases extended with
      | started isStart numbered limited fresh authorized undecided =>
          rw [starts_append_start isStart] at held followed
          rw [List.getLast?_concat] at followed
          have before : start ∈ starts events := by
            rcases List.mem_append.mp held with before | new
            · exact before
            · exact absurd (congrArg some (List.mem_singleton.mp new).symm) followed
          by_cases isLast : (starts events).getLast? = some start
          · exact authorized start isLast
          · exact inductionHypothesis before isLast
      | ended isTerminal ofStarted first =>
          rw [starts_append_terminal isTerminal] at held followed
          exact inductionHypothesis held followed

/-- The attempt that is completed is the last one. -/
theorem WellFormed.completed_last
    (wellFormed : WellFormed maximum events)
    (held : event ∈ events)
    (completed : event.status = .completed) :
    ∃ start, (starts events).getLast? = some start ∧ start.runId = event.runId := by
  have isTerminal : event.status ≠ .started := by
    rw [completed]
    nofun
  obtain ⟨start, started, sameRun, -⟩ := wellFormed.ofStarted held isTerminal
  refine ⟨start, ?_, sameRun⟩
  by_contra followed
  obtain ⟨ended, endedHeld, endedRun, -, invalid, -⟩ :=
    wellFormed.endedInvalid started followed
  have same := wellFormed.terminal_unique endedHeld held (by rw [invalid]; nofun) isTerminal
    (endedRun.trans sameRun)
  rw [same, completed] at invalid
  cases invalid

/-- Two completed events are the same one. -/
theorem WellFormed.completed_unique
    (wellFormed : WellFormed maximum events)
    {first second : AttemptEvent}
    (firstHeld : first ∈ events)
    (secondHeld : second ∈ events)
    (firstCompleted : first.status = .completed)
    (secondCompleted : second.status = .completed) : first = second := by
  obtain ⟨start, isLast, firstRun⟩ := wellFormed.completed_last firstHeld firstCompleted
  obtain ⟨other, alsoLast, secondRun⟩ := wellFormed.completed_last secondHeld secondCompleted
  have same : start = other := Option.some.inj (isLast.symm.trans alsoLast)
  apply wellFormed.terminal_unique firstHeld secondHeld (by rw [firstCompleted]; nofun)
    (by rw [secondCompleted]; nofun)
  rw [← firstRun, ← secondRun, same]

/-! ## One valid run -/

/-- What the policy of one valid run promises of a ledger. -/
structure OneValidRun (maximum : Int) (events : List AttemptEvent) : Prop where
  /-- The attempts are numbered from one without gaps. -/
  numbered : (starts events).map (·.attemptNumber) =
    (List.range' 1 (starts events).length).map (fun number : Nat => (number : Int))
  /-- There are no more of them than allowed. -/
  limited : ((starts events).length : Int) ≤ maximum
  /-- They are of different runs. -/
  distinct : ((starts events).map (·.runId)).Nodup
  /-- A terminal event belongs to an attempt that was started before it. -/
  ofStarted : ∀ before event after, events = before ++ event :: after →
    event.status ≠ .started → ∃ start ∈ starts before, start.runId = event.runId ∧
      start.attemptNumber = event.attemptNumber
  /-- An attempt has one terminal event at most. -/
  endsOnce : ∀ start ∈ starts events,
    (events.filter fun event => event.attemptNumber = start.attemptNumber ∧
      event.status ≠ .started).length ≤ 1
  /-- An attempt after the first is started after the one before it ended invalid and
  may be retried. -/
  replaces : ∀ before start after, events = before ++ start :: after →
    start.status = .started → 1 < start.attemptNumber →
      ∃ ended ∈ before, ended.attemptNumber + 1 = start.attemptNumber ∧
        ended.status = .invalid ∧ ended.retryEligible = some true
  /-- No attempt is started after one is completed. -/
  final : ∀ before completed after, events = before ++ completed :: after →
    completed.status = .completed → ∀ event ∈ after, event.status ≠ .started
  /-- At most one attempt is completed. -/
  once : (events.filter (·.status = .completed)).length ≤ 1

/-- The number of an attempt tells its run. -/
private theorem WellFormed.sameRun_of_sameNumber
    (wellFormed : WellFormed maximum events)
    {first second : AttemptEvent}
    (firstHeld : first ∈ starts events)
    (secondHeld : second ∈ starts events)
    (sameNumber : first.attemptNumber = second.attemptNumber) : first = second := by
  have numbers : ((starts events).map (·.attemptNumber)).Nodup := by
    rw [wellFormed.numbered]
    exact List.Nodup.map (fun _ _ same => Int.ofNat.inj same) List.nodup_range'
  exact List.inj_on_of_nodup_map numbers firstHeld secondHeld sameNumber

/-- The last attempt has the number of all attempts. -/
private theorem WellFormed.last_number
    (wellFormed : WellFormed maximum events)
    {last : AttemptEvent}
    (isLast : (starts events).getLast? = some last) :
    last.attemptNumber = (starts events).length := by
  obtain ⟨front, same⟩ := List.getLast?_eq_some_iff.mp isLast
  have numbered := wellFormed.numbered
  rw [same, List.map_append, List.length_append, List.length_singleton,
    List.range'_1_concat, List.map_append] at numbered
  have ending := (List.append_inj' numbered rfl).2
  rw [List.map_singleton, List.map_singleton] at ending
  rw [same, List.length_append, List.length_singleton, List.head_eq_of_cons_eq ending]
  omega

/-- A well-formed ledger is one of one valid run. -/
theorem WellFormed.oneValidRun
    (wellFormed : WellFormed maximum events)
    (notNegative : 0 ≤ maximum) : OneValidRun maximum events where
  numbered := wellFormed.numbered
  limited := wellFormed.limited notNegative
  distinct := wellFormed.distinct
  ofStarted := by
    intro before event after same isTerminal
    obtain ⟨-, extended⟩ := wellFormed.split same
    cases extended with
    | started isStart => exact absurd isStart isTerminal
    | ended isTerminal ofStarted first => exact ofStarted
  endsOnce := by
    intro start started
    apply Growth.length_filter_le_one
    intro before event after same its earlier earlierHeld
    obtain ⟨sameNumber, isTerminal⟩ := of_decide_eq_true its
    obtain ⟨wellFormedBefore, extended⟩ := wellFormed.split same
    cases extended with
    | started isStart => exact absurd isStart isTerminal
    | ended isTerminal ofStarted first =>
        apply decide_eq_false
        rintro ⟨alsoNumber, alsoTerminal⟩
        obtain ⟨mine, mineStarted, mineRun, mineNumber⟩ := ofStarted
        obtain ⟨its, itsStarted, itsRun, itsNumber⟩ :=
          wellFormedBefore.ofStarted earlierHeld alsoTerminal
        have same := wellFormedBefore.sameRun_of_sameNumber mineStarted itsStarted
          (by rw [mineNumber, itsNumber, sameNumber, alsoNumber])
        have among : earlier ∈ terminalsOf before event.runId :=
          mem_terminalsOf.mpr ⟨earlierHeld, by rw [← itsRun, ← same, mineRun], alsoTerminal⟩
        rw [first] at among
        exact List.not_mem_nil among
  replaces := by
    intro before start after same isStart later
    obtain ⟨wellFormedBefore, extended⟩ := wellFormed.split same
    cases extended with
    | ended isTerminal => exact absurd isStart isTerminal
    | started isStart numbered limited fresh authorized undecided =>
        cases isLast : (starts before).getLast? with
        | none =>
            rw [List.getLast?_eq_none_iff.mp isLast, List.length_nil] at numbered
            omega
        | some last =>
            obtain ⟨ended, held, -, itsNumber, invalid, eligible⟩ := authorized last isLast
            refine ⟨ended, held, ?_, invalid, eligible⟩
            rw [itsNumber, wellFormedBefore.last_number isLast, numbered]
  final := by
    intro before completed after same isCompleted event held isStart
    obtain ⟨middle, rest, rfl⟩ := List.append_of_mem held
    rw [← List.cons_append, ← List.append_assoc] at same
    obtain ⟨-, extended⟩ := wellFormed.split same
    cases extended with
    | ended isTerminal => exact absurd isStart isTerminal
    | started isStart numbered limited fresh authorized undecided =>
        exact undecided completed (List.mem_append_right _ List.mem_cons_self) isCompleted
  once := by
    apply Growth.length_filter_le_one
    intro before event after same completed earlier earlierHeld
    have isCompleted := of_decide_eq_true completed
    obtain ⟨wellFormedBefore, extended⟩ := wellFormed.split same
    have wellFormedUntil := wellFormedBefore.snoc extended
    apply decide_eq_false
    intro alsoCompleted
    have unique := wellFormedUntil.completed_unique (List.mem_append_left _ earlierHeld)
      (List.mem_append_right _ (List.mem_singleton_self _)) alsoCompleted isCompleted
    cases extended with
    | started isStart =>
        rw [isCompleted] at isStart
        cases isStart
    | ended isTerminal ofStarted first =>
        have among : earlier ∈ terminalsOf before event.runId :=
          mem_terminalsOf.mpr ⟨earlierHeld, by rw [unique], by rw [unique]; exact isTerminal⟩
        rw [first] at among
        exact List.not_mem_nil among

end Heldout
end ChatPlatform
