import Mathlib.Data.List.Forall2

/-!
# Noninterference by unwinding

A system takes actions one after the other and each action lets something be
observed. Some of the actions belong to one observer. Two runs that agree on the
actions of the observer agree on what it observes, when a relation between their
states is kept by the actions of the others on either side and by the actions of the
observer on both sides together.
-/

namespace ChatPlatform
namespace Unwinding

variable {σ α ο : Type}

/-- The run of a list of actions: the last state and what every action let be
observed. No run takes an action that is not enabled. -/
def run (step : σ → α → Option (σ × ο)) (state : σ) :
    List α → Option (σ × List (α × ο))
  | [] => some (state, [])
  | action :: rest =>
      match step state action with
      | none => none
      | some (after, observation) =>
          (run step after rest).map fun ending =>
            (ending.1, (action, observation) :: ending.2)

/-- The part of a trace that belongs to the observer. -/
def observed (mine : α → Bool) (trace : List (α × ο)) : List (α × ο) :=
  trace.filter fun event => mine event.1

/-- An action that is run was enabled. -/
theorem run_cons
    {step : σ → α → Option (σ × ο)}
    {state ending : σ}
    {action : α}
    {rest : List α}
    {trace : List (α × ο)}
    (ran : run step state (action :: rest) = some (ending, trace)) :
    ∃ after observation later, step state action = some (after, observation) ∧
      run step after rest = some (ending, later) ∧
      trace = (action, observation) :: later := by
  unfold run at ran
  split at ran
  · cases ran
  · rename_i after observation moves
    obtain ⟨⟨final, later⟩, rest, same⟩ := Option.map_eq_some_iff.mp ran
    cases same
    exact ⟨after, observation, later, moves, rest, rfl⟩

/-- An invariant that every action keeps holds at the end of a run. -/
theorem run_invariant
    {step : σ → α → Option (σ × ο)}
    {invariant : σ → Prop}
    (keeps : ∀ {state action after observation}, invariant state →
      step state action = some (after, observation) → invariant after)
    {state ending : σ}
    {actions : List α}
    {trace : List (α × ο)}
    (holds : invariant state)
    (ran : run step state actions = some (ending, trace)) : invariant ending := by
  induction actions generalizing state trace with
  | nil =>
      cases ran
      exact holds
  | cons action rest inductionHypothesis =>
      obtain ⟨after, observation, later, moves, onward, -⟩ := run_cons ran
      exact inductionHypothesis (keeps holds moves) onward

/-- A relation between what was observed so far and the state that every action keeps
holds before each action of a run. -/
theorem run_recorded
    {step : σ → α → Option (σ × ο)}
    {recorded : List (α × ο) → σ → Prop}
    (keeps : ∀ {history state action after observation}, recorded history state →
      step state action = some (after, observation) →
        recorded (history ++ [(action, observation)]) after)
    {history : List (α × ο)}
    {state ending : σ}
    {actions : List α}
    {before after : List (α × ο)}
    {action : α}
    {observation : ο}
    (holds : recorded history state)
    (ran : run step state actions =
      some (ending, before ++ (action, observation) :: after)) :
    ∃ middle later, recorded (history ++ before) middle ∧
      step middle action = some (later, observation) := by
  induction before generalizing history state actions with
  | nil =>
      cases actions with
      | nil => cases ran
      | cons first rest =>
          obtain ⟨next, observed, later, moves, -, same⟩ := run_cons ran
          rw [List.nil_append, List.cons.injEq] at same
          cases same.1
          rw [List.append_nil]
          exact ⟨state, next, holds, moves⟩
  | cons event earlier inductionHypothesis =>
      cases actions with
      | nil => cases ran
      | cons first rest =>
          obtain ⟨next, observed, later, moves, onward, same⟩ := run_cons ran
          rw [List.cons_append, List.cons.injEq] at same
          obtain ⟨rfl, rfl⟩ := same
          obtain ⟨middle, last, kept, stepped⟩ :=
            inductionHypothesis (keeps holds moves) onward
          rw [List.append_assoc] at kept
          exact ⟨middle, last, kept, stepped⟩

/-- How the states of two runs and the observations in them are related. -/
structure Unwinds
    (step : σ → α → Option (σ × ο))
    (mine : α → Bool)
    (invariant : σ → Prop)
    (alike : σ → σ → Prop)
    (agree same : ο → ο → Prop) : Prop where
  /-- Every action keeps the invariant. -/
  keeps : ∀ {state action after observation}, invariant state →
    step state action = some (after, observation) → invariant after
  /-- An action of another in the first run keeps the relation. -/
  left : ∀ {state other action after observation}, invariant state →
    invariant other → alike state other → mine action = false →
    step state action = some (after, observation) → alike after other
  /-- An action of another in the second run keeps the relation. -/
  right : ∀ {state other action after observation}, invariant state →
    invariant other → alike state other → mine action = false →
    step other action = some (after, observation) → alike state after
  /-- An action of the observer in both runs keeps the relation and is observed in the
  same way, provided the observations agree. -/
  both : ∀ {state other action after observation after' observation'},
    invariant state → invariant other → alike state other → mine action = true →
    step state action = some (after, observation) →
    step other action = some (after', observation') →
    agree observation observation' →
    alike after after' ∧ same observation observation'

variable {step : σ → α → Option (σ × ο)} {mine : α → Bool} {invariant : σ → Prop}
  {alike : σ → σ → Prop} {agree same : ο → ο → Prop}

/-- A run of actions of others in the first run keeps the relation. -/
private theorem Unwinds.left_run
    (unwinds : Unwinds step mine invariant alike agree same)
    {state other ending : σ}
    {actions : List α}
    {trace : List (α × ο)}
    (holds : invariant state)
    (holds' : invariant other)
    (related : alike state other)
    (foreign : ∀ action ∈ actions, mine action = false)
    (ran : run step state actions = some (ending, trace)) :
    alike ending other ∧ observed mine trace = [] := by
  induction actions generalizing state trace with
  | nil =>
      cases ran
      exact ⟨related, rfl⟩
  | cons action rest inductionHypothesis =>
      obtain ⟨after, observation, later, moves, onward, rfl⟩ := run_cons ran
      have first := foreign action List.mem_cons_self
      obtain ⟨kept, nothing⟩ := inductionHypothesis (unwinds.keeps holds moves)
        (unwinds.left holds holds' related first moves)
        (fun other present => foreign other (List.mem_cons_of_mem _ present)) onward
      refine ⟨kept, ?_⟩
      rw [observed, List.filter_cons_of_neg (by simp [first])]
      exact nothing

/-- A run of actions of others in the second run keeps the relation. -/
private theorem Unwinds.right_run
    (unwinds : Unwinds step mine invariant alike agree same)
    {state other ending : σ}
    {actions : List α}
    {trace : List (α × ο)}
    (holds : invariant state)
    (holds' : invariant other)
    (related : alike state other)
    (foreign : ∀ action ∈ actions, mine action = false)
    (ran : run step other actions = some (ending, trace)) :
    alike state ending ∧ observed mine trace = [] := by
  induction actions generalizing other trace with
  | nil =>
      cases ran
      exact ⟨related, rfl⟩
  | cons action rest inductionHypothesis =>
      obtain ⟨after, observation, later, moves, onward, rfl⟩ := run_cons ran
      have first := foreign action List.mem_cons_self
      obtain ⟨kept, nothing⟩ := inductionHypothesis (unwinds.keeps holds' moves)
        (unwinds.right holds holds' related first moves)
        (fun other present => foreign other (List.mem_cons_of_mem _ present)) onward
      refine ⟨kept, ?_⟩
      rw [observed, List.filter_cons_of_neg (by simp [first])]
      exact nothing

/-- A run of two lists of actions is a run of each. -/
theorem run_append
    {state ending : σ}
    {front back : List α}
    {trace : List (α × ο)}
    (ran : run step state (front ++ back) = some (ending, trace)) :
    ∃ middle early late, run step state front = some (middle, early) ∧
      run step middle back = some (ending, late) ∧ trace = early ++ late := by
  induction front generalizing state trace with
  | nil => exact ⟨state, [], trace, rfl, ran, rfl⟩
  | cons action rest inductionHypothesis =>
      obtain ⟨after, observation, later, moves, onward, rfl⟩ := run_cons ran
      obtain ⟨middle, early, late, first, second, rfl⟩ := inductionHypothesis onward
      exact ⟨middle, (action, observation) :: early, late,
        by simp [run, moves, first], second, rfl⟩

/-- The first observation after actions of others. -/
private theorem observed_first
    {early later : List (α × ο)}
    {action : α}
    {observation : ο}
    (nothing : observed mine early = [])
    (isOwn : mine action = true) :
    observed mine (early ++ (action, observation) :: later) =
      (action, observation) :: observed mine later := by
  unfold observed at nothing ⊢
  rw [List.filter_append, nothing, List.nil_append,
    List.filter_cons_of_pos (by simpa using isOwn)]

/-- Two runs with the same actions of the observer, in the same order, let it observe
the same, as far as their observations agree. -/
theorem Unwinds.observed_same
    (unwinds : Unwinds step mine invariant alike agree same)
    {state other ending ending' : σ}
    {actions actions' : List α}
    {trace trace' : List (α × ο)}
    (holds : invariant state)
    (holds' : invariant other)
    (related : alike state other)
    (ran : run step state actions = some (ending, trace))
    (ran' : run step other actions' = some (ending', trace'))
    (projection : actions.filter mine = actions'.filter mine)
    (agreed : ∀ event ∈ (observed mine trace).zip (observed mine trace'),
      agree event.1.2 event.2.2) :
    List.Forall₂ (fun event event' => event.1 = event'.1 ∧ same event.2 event'.2)
      (observed mine trace) (observed mine trace') := by
  generalize own : actions.filter mine = owned at projection
  induction owned generalizing state other actions actions' trace trace' with
  | nil =>
      have foreign := List.filter_eq_nil_iff.mp own
      have foreign' := List.filter_eq_nil_iff.mp projection.symm
      obtain ⟨kept, nothing⟩ := unwinds.left_run holds holds' related
        (fun action present => by simpa using foreign action present) ran
      obtain ⟨-, nothing'⟩ := unwinds.right_run (run_invariant unwinds.keeps holds ran)
        holds' kept (fun action present => by simpa using foreign' action present) ran'
      rw [nothing, nothing']
      exact .nil
  | cons action rest inductionHypothesis =>
      obtain ⟨front, back, rfl, foreign, isOwn, own⟩ := List.filter_eq_cons_iff.mp own
      obtain ⟨front', back', rfl, foreign', -, own'⟩ :=
        List.filter_eq_cons_iff.mp projection.symm
      obtain ⟨middle, early, late, before, onward, rfl⟩ := run_append ran
      obtain ⟨middle', early', late', before', onward', rfl⟩ := run_append ran'
      have reached := run_invariant unwinds.keeps holds before
      have reached' := run_invariant unwinds.keeps holds' before'
      obtain ⟨keptLeft, nothing⟩ := unwinds.left_run holds holds' related
        (fun event present => by simpa using foreign event present) before
      obtain ⟨kept, nothing'⟩ := unwinds.right_run reached holds' keptLeft
        (fun event present => by simpa using foreign' event present) before'
      obtain ⟨after, observation, later, moves, rest, rfl⟩ := run_cons onward
      obtain ⟨after', observation', later', moves', rest', rfl⟩ := run_cons onward'
      rw [observed_first nothing isOwn, observed_first nothing' isOwn] at agreed ⊢
      rw [List.zip_cons_cons] at agreed
      obtain ⟨keptBoth, equal⟩ := unwinds.both reached reached' kept isOwn moves moves'
        (agreed _ List.mem_cons_self)
      exact .cons ⟨rfl, equal⟩ (inductionHypothesis (unwinds.keeps reached moves)
        (unwinds.keeps reached' moves') keptBoth rest rest'
        (fun event present => agreed event (List.mem_cons_of_mem _ present)) own
        own'.symm)

end Unwinding
end ChatPlatform
