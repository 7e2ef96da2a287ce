import Mathlib.Logic.Function.Basic

/-!
# Interleavings of processes

Any number of processes act on a shared state, one atomic step at a time and in any
order; each keeps a state of its own in between, so that what it read may be stale
when it acts on it. An invariant has three parts: what holds of the shared state, what
a process knows about the shared state in its own state, and what keeps two processes
apart.
-/

namespace ChatPlatform
namespace Interleaving

variable {P S L A : Type}

/-- The shared state and the own state of every process. -/
structure World (P S L : Type) where
  /-- The shared state. -/
  shared : S
  /-- The own states. -/
  own : P → L

variable [DecidableEq P]

/-- One process takes one step. -/
def step (act : S → L → A → S × L) (world : World P S L) (turn : P × A) : World P S L where
  shared := (act world.shared (world.own turn.1) turn.2).1
  own := Function.update world.own turn.1 (act world.shared (world.own turn.1) turn.2).2

/-- The processes take the steps of a schedule. -/
def run (act : S → L → A → S × L) (world : World P S L) (schedule : List (P × A)) :
    World P S L :=
  schedule.foldl (step act) world

omit [DecidableEq P] in
/-- An invariant of a world, by its parts. -/
structure Holds
    (shared : S → Prop)
    (own : S → L → Prop)
    (apart : L → L → Prop)
    (world : World P S L) : Prop where
  /-- The shared state is right. -/
  sharedHolds : shared world.shared
  /-- What every process knows is right. -/
  ownHolds : ∀ process, own world.shared (world.own process)
  /-- Two processes are apart. -/
  keptApart : ∀ process other, process ≠ other →
    apart (world.own process) (world.own other)

/-- What a step of one process has to keep. -/
structure Preserved
    (act : S → L → A → S × L)
    (shared : S → Prop)
    (own : S → L → Prop)
    (apart : L → L → Prop) : Prop where
  /-- The shared state stays right. -/
  keepsShared : ∀ {state mine move}, shared state → own state mine →
    shared (act state mine move).1
  /-- What the process knows is right afterwards. -/
  keepsOwn : ∀ {state mine move}, shared state → own state mine →
    own (act state mine move).1 (act state mine move).2
  /-- What another process knows stays right. -/
  keepsOthers : ∀ {state mine move other}, shared state → own state mine → own state other →
    apart mine other → own (act state mine move).1 other
  /-- The process stays apart from another one. -/
  keepsApart : ∀ {state mine move other}, shared state → own state mine → own state other →
    apart mine other → apart (act state mine move).2 other
  /-- Being apart is mutual. -/
  symmetric : ∀ {left right}, apart left right → apart right left

variable
  {act : S → L → A → S × L}
  {shared : S → Prop}
  {own : S → L → Prop}
  {apart : L → L → Prop}

/-- A step keeps the invariant. -/
theorem Preserved.step
    (preserved : Preserved act shared own apart)
    {world : World P S L}
    (holds : Holds shared own apart world)
    (turn : P × A) : Holds shared own apart (step act world turn) := by
  have mine := holds.ownHolds turn.1
  constructor
  · exact preserved.keepsShared holds.sharedHolds mine
  · intro process
    by_cases same : process = turn.1
    · subst same
      simp only [Interleaving.step, Function.update_self]
      exact preserved.keepsOwn holds.sharedHolds mine
    · simp only [Interleaving.step, Function.update_of_ne same]
      exact preserved.keepsOthers holds.sharedHolds mine (holds.ownHolds process)
        (holds.keptApart turn.1 process (Ne.symm same))
  · intro process other different
    have kept : ∀ another, another ≠ turn.1 →
        apart (act world.shared (world.own turn.1) turn.2).2 (world.own another) :=
      fun another distinct => preserved.keepsApart holds.sharedHolds mine (holds.ownHolds another)
        (holds.keptApart turn.1 another (Ne.symm distinct))
    simp only [Interleaving.step]
    by_cases same : process = turn.1
    · subst same
      rw [Function.update_self, Function.update_of_ne (Ne.symm different)]
      exact kept other (Ne.symm different)
    · by_cases otherSame : other = turn.1
      · subst otherSame
        rw [Function.update_self, Function.update_of_ne same]
        exact preserved.symmetric (kept process same)
      · rw [Function.update_of_ne same, Function.update_of_ne otherSame]
        exact holds.keptApart process other different

/-- Every schedule keeps the invariant. -/
theorem Preserved.run
    (preserved : Preserved act shared own apart)
    {world : World P S L}
    (holds : Holds shared own apart world)
    (schedule : List (P × A)) : Holds shared own apart (run act world schedule) := by
  unfold Interleaving.run
  induction schedule generalizing world with
  | nil => exact holds
  | cons turn rest inductionHypothesis =>
      exact inductionHypothesis (preserved.step holds turn)

end Interleaving
end ChatPlatform
