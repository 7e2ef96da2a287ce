import Mathlib.Data.List.Basic
import Mathlib.Logic.Function.Basic

/-!
# Answers that are remembered

A call looks its key up in a table. What is found is the answer; an answer that is paid for is
remembered under its key, which had none; a call that fails leaves the table alone. So every call
of a run is answered as the one that was paid for it was, no key is paid for twice, and the table
that is left answers all of them again.
-/

namespace ChatPlatform
namespace Memo

variable {K V : Type} [DecidableEq K]

/-- What a call does with the table. -/
inductive Event (K V : Type)
  /-- It finds its answer. -/
  | found (key : K) (value : V)
  /-- It pays for its answer. -/
  | paid (key : K) (value : V)
  /-- It has no answer. -/
  | failed

/-- The key of a call that is answered, and the answer. -/
def Event.answer : Event K V → Option (K × V)
  | .found key value => some (key, value)
  | .paid key value => some (key, value)
  | .failed => none

/-- What is paid for, and under which key. -/
def Event.payment : Event K V → Option (K × V)
  | .paid key value => some (key, value)
  | _ => none

/-- A call does this to a table. -/
def Takes (table : K → Option V) : Event K V → (K → Option V) → Prop
  | .found key value, after => table key = some value ∧ after = table
  | .paid key value, after =>
      table key = none ∧ after = Function.update table key (some value)
  | .failed, after => after = table

/-- Calls do this to a table, one after another. -/
def Runs (table : K → Option V) : List (Event K V) → (K → Option V) → Prop
  | [], after => after = table
  | event :: rest, after => ∃ middle, Takes table event middle ∧ Runs middle rest after

variable {table after : K → Option V} {events rest : List (Event K V)} {event : Event K V}
  {key : K} {value : V}

/-- A call keeps what is remembered. -/
theorem Takes.keeps
    (takes : Takes table event after)
    (held : table key = some value) : after key = some value := by
  cases event with
  | found | failed => simp_all [Takes]
  | paid paidKey paidValue =>
      obtain ⟨missing, rfl⟩ := takes
      rw [Function.update_of_ne, held]
      rintro rfl
      rw [missing] at held
      cases held

/-- The answer of a call is remembered. -/
theorem Takes.remembers
    (takes : Takes table event after)
    (answered : event.answer = some (key, value)) : after key = some value := by
  cases event with
  | found foundKey foundValue =>
      cases answered
      obtain ⟨held, rfl⟩ := takes
      exact held
  | paid paidKey paidValue =>
      cases answered
      obtain ⟨-, rfl⟩ := takes
      exact Function.update_self ..
  | failed => cases answered

/-- What is remembered after a call was remembered before it or is paid for. -/
theorem Takes.origin
    (takes : Takes table event after)
    (held : after key = some value) :
    table key = some value ∨ event.payment = some (key, value) := by
  cases event with
  | found foundKey foundValue => exact Or.inl (takes.2 ▸ held)
  | failed => exact Or.inl (takes ▸ held)
  | paid paidKey paidValue =>
      obtain ⟨missing, rfl⟩ := takes
      by_cases isKey : key = paidKey
      · subst isKey
        rw [Function.update_self] at held
        cases held
        exact Or.inr rfl
      · rw [Function.update_of_ne isKey] at held
        exact Or.inl held

/-- Calls keep what is remembered. -/
theorem Runs.keeps
    (runs : Runs table events after)
    (held : table key = some value) : after key = some value := by
  induction events generalizing table with
  | nil => exact runs ▸ held
  | cons event rest inductionHypothesis =>
      obtain ⟨middle, takes, runs⟩ := runs
      exact inductionHypothesis runs (takes.keeps held)

/-- Calls that follow others start from what those leave. -/
theorem runs_append :
    Runs table (events ++ rest) after ↔
      ∃ middle, Runs table events middle ∧ Runs middle rest after := by
  induction events generalizing table with
  | nil => simp [Runs]
  | cons event events inductionHypothesis =>
      simp only [List.cons_append, Runs, inductionHypothesis]
      constructor
      · rintro ⟨next, takes, middle, runs, after⟩
        exact ⟨middle, ⟨next, takes, runs⟩, after⟩
      · rintro ⟨middle, ⟨next, takes, runs⟩, after⟩
        exact ⟨next, takes, middle, runs, after⟩

/-- Every answer of a run is remembered at its end. -/
theorem Runs.remembers
    (runs : Runs table events after)
    (held : event ∈ events)
    (answered : event.answer = some (key, value)) : after key = some value := by
  obtain ⟨before, rest, rfl⟩ := List.append_of_mem held
  obtain ⟨middle, -, next, takes, runs⟩ := runs_append.mp runs
  exact runs.keeps (takes.remembers answered)

/-- What is remembered after a run was remembered before it or is paid for in it. -/
theorem Runs.origin
    (runs : Runs table events after)
    (held : after key = some value) :
    table key = some value ∨ ∃ event ∈ events, event.payment = some (key, value) := by
  induction events generalizing table with
  | nil => exact Or.inl (runs ▸ held)
  | cons event rest inductionHypothesis =>
      obtain ⟨middle, takes, runs⟩ := runs
      rcases inductionHypothesis runs with earlier | ⟨later, isLater, paid⟩
      · exact (takes.origin earlier).imp_right fun paid => ⟨event, List.mem_cons_self, paid⟩
      · exact Or.inr ⟨later, List.mem_cons_of_mem _ isLater, paid⟩

/-- A run that starts from nothing leaves what it paid for. -/
theorem Runs.held_iff
    (runs : Runs (fun _ => none) events after) :
    after key = some value ↔ ∃ event ∈ events, event.payment = some (key, value) := by
  constructor
  · intro held
    exact (runs.origin held).resolve_left nofun
  · rintro ⟨event, held, paid⟩
    refine runs.remembers held ?_
    cases event with
    | paid => exact paid
    | found | failed => cases paid

end Memo
end ChatPlatform
