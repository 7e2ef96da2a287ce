import Mathlib.Data.List.Basic
import Mathlib.Data.List.Induction
import Mathlib.Logic.Function.Basic

/-!
# Lists that grow one element at a time

A list in which every element fits the ones before it, and a chain of checks of which
the first that refuses decides.

Processes may share such a list. A process reads it, decides from what it read which entry
it will append, and appends it in a later step; other entries are appended at once. As long
as what fitted the list that was read fits the list it is appended to, every entry fits the
ones before it; it does when nothing was appended in between.
-/

namespace ChatPlatform
namespace Growth

variable {α ε : Type}

/-- Every element fits the ones before it. -/
def Grown (fits : List α → α → Prop) (items : List α) : Prop :=
  ∀ before item after, items = before ++ item :: after → fits before item

variable {fits : List α → α → Prop} {items : List α} {item : α}

theorem grown_nil : Grown fits [] :=
  fun _ _ _ same => absurd same.symm (List.append_ne_nil_of_right_ne_nil _ (List.cons_ne_nil _ _))

/-- An element of a list with one more at the end is that one or was there before. -/
theorem split_snoc
    {before after : List α}
    {last : α}
    (same : items ++ [last] = before ++ item :: after) :
    (before = items ∧ item = last ∧ after = []) ∨
      ∃ front, after = front ++ [last] ∧ items = before ++ item :: front := by
  rcases List.eq_nil_or_concat after with rfl | ⟨front, final, rfl⟩
  · obtain ⟨rfl, isLast⟩ := List.append_inj' same rfl
    cases isLast
    exact Or.inl ⟨rfl, rfl, rfl⟩
  · rw [List.concat_eq_append] at same ⊢
    rw [← List.cons_append, ← List.append_assoc] at same
    obtain ⟨shorter, isLast⟩ := List.append_inj' same rfl
    cases isLast
    exact Or.inr ⟨front, rfl, shorter⟩

/-- A list grows by an element that fits it. -/
theorem grown_snoc : Grown fits (items ++ [item]) ↔ Grown fits items ∧ fits items item := by
  constructor
  · intro grown
    refine ⟨fun before earlier after same => ?_, grown items item [] rfl⟩
    exact grown before earlier (after ++ [item]) (by rw [same]; simp)
  · rintro ⟨grown, fitting⟩ before earlier after same
    rcases split_snoc same with ⟨rfl, rfl, -⟩ | ⟨front, -, same⟩
    · exact fitting
    · exact grown before earlier front same

/-- What comes before an element of such a list is one too. -/
theorem Grown.before
    (grown : Grown fits items)
    {before after : List α}
    (same : items = before ++ after) : Grown fits before :=
  fun front earlier rest isSplit =>
    grown front earlier (rest ++ after) (by rw [same, isSplit]; simp)

/-- At most one element satisfies a predicate that nothing before such an element
satisfies. -/
theorem length_filter_le_one
    {holds : α → Bool}
    (unique : Grown (fun before item => holds item = true → ∀ earlier ∈ before,
      holds earlier = false) items) :
    (items.filter holds).length ≤ 1 := by
  induction items using List.reverseRecOn with
  | nil => exact Nat.zero_le 1
  | append_singleton items item inductionHypothesis =>
      obtain ⟨others, last⟩ := grown_snoc.mp unique
      rw [List.filter_append]
      by_cases holdsLast : holds item = true
      · have none : items.filter holds = [] := by
          rw [List.filter_eq_nil_iff]
          intro earlier held
          rw [last holdsLast earlier held]
          exact Bool.false_ne_true
        rw [none, List.nil_append]
        exact List.length_filter_le _ _
      · rw [List.filter_cons_of_neg holdsLast, List.filter_nil, List.append_nil]
        exact inductionHypothesis others

/-! ## Checks -/

/-- The first check that refuses decides. -/
def firstRefusal : List (Bool × ε) → Except ε Unit
  | [] => .ok ()
  | (true, refusal) :: _ => .error refusal
  | (false, _) :: rest => firstRefusal rest

/-- Nothing is refused exactly when no check refuses. -/
theorem firstRefusal_eq_ok_iff {checks : List (Bool × ε)} :
    firstRefusal checks = .ok () ↔ ∀ check ∈ checks, check.1 = false := by
  induction checks with
  | nil => simp [firstRefusal]
  | cons check rest inductionHypothesis =>
      obtain ⟨refuses, refusal⟩ := check
      cases refuses with
      | true => simp [firstRefusal]
      | false => simp [firstRefusal, inductionHypothesis]

/-- What is refused is refused by one of the checks. -/
theorem mem_of_firstRefusal
    {checks : List (Bool × ε)}
    {refusal : ε}
    (refused : firstRefusal checks = .error refusal) : (true, refusal) ∈ checks := by
  induction checks with
  | nil => cases refused
  | cons check rest inductionHypothesis =>
      obtain ⟨refuses, text⟩ := check
      cases refuses with
      | true =>
          cases refused
          exact List.mem_cons_self
      | false => exact List.mem_cons_of_mem _ (inductionHypothesis refused)

end Growth

/-! ## Check, then append -/

namespace CheckThenAppend

open Growth

variable {P E R O : Type}

/-- The log, and what every process read and is about to append. -/
structure State (P E : Type) where
  /-- The log. -/
  log : List E
  /-- What a process read, and the entry it decided on. -/
  pending : P → Option (List E × E)

/-- A step of a process. -/
inductive Move (R O : Type)
  /-- It reads the log and decides. -/
  | read (operation : R)
  /-- It appends what it decided on. -/
  | write
  /-- It appends at once. -/
  | once (operation : O)

variable [DecidableEq P]

section Steps

variable (decided : List E → R → Option E) (immediate : List E → O → Option E)

/-- One process takes one step. -/
def step (state : State P E) (turn : P × Move R O) : State P E :=
  match turn.2 with
  | .read operation =>
      { state with
        pending := Function.update state.pending turn.1
          ((decided state.log operation).map fun entry => (state.log, entry)) }
  | .write =>
      match state.pending turn.1 with
      | none => state
      | some (_, entry) =>
          { log := state.log ++ [entry],
            pending := Function.update state.pending turn.1 none }
  | .once operation =>
      match immediate state.log operation with
      | none => state
      | some entry => { state with log := state.log ++ [entry] }

/-- The processes take the steps of a schedule, from an empty log. -/
def run (schedule : List (P × Move R O)) : State P E :=
  schedule.foldl (step decided immediate) { log := [], pending := fun _ => none }

/-- Every step of a schedule meets a condition on the state before it. -/
def Throughout
    (condition : State P E → P × Move R O → Prop)
    (schedule : List (P × Move R O)) : Prop :=
  ∀ before turn after, schedule = before ++ turn :: after →
    condition (run decided immediate before) turn

end Steps

/-- A process that appends what it decided on finds the log as it read it. -/
def Fresh (state : State P E) (turn : P × Move R O) : Prop :=
  turn.2 = .write → ∀ seen entry, state.pending turn.1 = some (seen, entry) → seen = state.log

/-- A process that just read the log finds it as it read it. -/
theorem fresh_after_read
    (decided : List E → R → Option E)
    (immediate : List E → O → Option E)
    (state : State P E)
    (process : P)
    (operation : R) :
    Fresh (step decided immediate state (process, .read operation))
      ((process, .write) : P × Move R O) := by
  intro _ seen entry isPending
  unfold step at isPending ⊢
  dsimp only at isPending ⊢
  rw [Function.update_self] at isPending
  obtain ⟨found, -, pair⟩ := Option.map_eq_some_iff.mp isPending
  cases pair
  rfl

variable {decided : List E → R → Option E} {immediate : List E → O → Option E}

@[simp] theorem run_append_singleton
    (schedule : List (P × Move R O))
    (turn : P × Move R O) :
    run decided immediate (schedule ++ [turn]) =
      step decided immediate (run decided immediate schedule) turn := by
  unfold run
  rw [List.foldl_append]
  rfl

/-- A condition that is met throughout is met throughout what comes first. -/
theorem Throughout.of_append
    {condition : State P E → P × Move R O → Prop}
    {schedule others : List (P × Move R O)}
    (met : Throughout decided immediate condition (schedule ++ others)) :
    Throughout decided immediate condition schedule :=
  fun before turn after same => met before turn (after ++ others) (by rw [same]; simp)

/-- A condition that is met throughout is met by the last step. -/
theorem Throughout.last
    {condition : State P E → P × Move R O → Prop}
    {schedule : List (P × Move R O)}
    {turn : P × Move R O}
    (met : Throughout decided immediate condition (schedule ++ [turn])) :
    condition (run decided immediate schedule) turn :=
  met schedule turn [] rfl

theorem throughout_nil {condition : State P E → P × Move R O → Prop} :
    Throughout decided immediate condition [] :=
  fun _ _ _ same => absurd same.symm (List.append_ne_nil_of_right_ne_nil _ (List.cons_ne_nil _ _))

/-- A condition is met throughout one more step when that step meets it. -/
theorem Throughout.snoc
    {condition : State P E → P × Move R O → Prop}
    {schedule : List (P × Move R O)}
    {turn : P × Move R O}
    (met : Throughout decided immediate condition schedule)
    (last : condition (run decided immediate schedule) turn) :
    Throughout decided immediate condition (schedule ++ [turn]) := by
  intro before earlier after same
  rcases split_snoc same with ⟨rfl, rfl, -⟩ | ⟨front, -, same⟩
  · exact last
  · exact met before earlier front same

/-- What a process is about to append fits what it read. -/
theorem pending_fits
    {fits : List E → E → Prop}
    (decides : ∀ log operation entry, decided log operation = some entry → fits log entry)
    (schedule : List (P × Move R O))
    (process : P)
    {seen : List E}
    {entry : E}
    (isPending : (run decided immediate schedule).pending process = some (seen, entry)) :
    fits seen entry := by
  induction schedule using List.reverseRecOn with
  | nil => cases isPending
  | append_singleton schedule turn inductionHypothesis =>
      rw [run_append_singleton] at isPending
      obtain ⟨mover, move⟩ := turn
      cases move with
      | read operation =>
          unfold step at isPending
          dsimp only at isPending
          by_cases same : process = mover
          · subst same
            rw [Function.update_self] at isPending
            obtain ⟨found, isDecided, pair⟩ := Option.map_eq_some_iff.mp isPending
            cases pair
            exact decides _ operation _ isDecided
          · rw [Function.update_of_ne same] at isPending
            exact inductionHypothesis isPending
      | write =>
          unfold step at isPending
          dsimp only at isPending
          split at isPending
          · exact inductionHypothesis isPending
          · dsimp only at isPending
            by_cases same : process = mover
            · subst same
              rw [Function.update_self] at isPending
              cases isPending
            · rw [Function.update_of_ne same] at isPending
              exact inductionHypothesis isPending
      | once operation =>
          unfold step at isPending
          dsimp only at isPending
          split at isPending <;> exact inductionHypothesis isPending

/-- What a process read is the beginning of the log. -/
theorem pending_prefix
    (schedule : List (P × Move R O))
    (process : P)
    {seen : List E}
    {entry : E}
    (isPending : (run decided immediate schedule).pending process = some (seen, entry)) :
    seen <+: (run decided immediate schedule).log := by
  induction schedule using List.reverseRecOn with
  | nil => cases isPending
  | append_singleton schedule turn inductionHypothesis =>
      rw [run_append_singleton] at isPending ⊢
      obtain ⟨mover, move⟩ := turn
      cases move with
      | read operation =>
          unfold step at isPending ⊢
          dsimp only at isPending ⊢
          by_cases same : process = mover
          · subst same
            rw [Function.update_self] at isPending
            obtain ⟨found, -, pair⟩ := Option.map_eq_some_iff.mp isPending
            cases pair
            exact List.prefix_rfl
          · rw [Function.update_of_ne same] at isPending
            exact inductionHypothesis isPending
      | write =>
          unfold step at isPending ⊢
          dsimp only at isPending ⊢
          split at isPending
          · exact inductionHypothesis isPending
          · dsimp only at isPending ⊢
            by_cases same : process = mover
            · subst same
              rw [Function.update_self] at isPending
              cases isPending
            · rw [Function.update_of_ne same] at isPending
              exact (inductionHypothesis isPending).trans (List.prefix_append _ _)
      | once operation =>
          unfold step at isPending ⊢
          dsimp only at isPending ⊢
          split at isPending
          · exact inductionHypothesis isPending
          · exact (inductionHypothesis isPending).trans (List.prefix_append _ _)

/-- Where what fitted when it was read fits when it is appended, and what is appended at
once fits, every entry fits the ones before it. -/
theorem grown_run
    {fits : List E → E → Prop}
    {condition : State P E → P × Move R O → Prop}
    {schedule : List (P × Move R O)}
    (decides : ∀ log operation entry, decided log operation = some entry → fits log entry)
    (carried : ∀ state process seen entry, condition state (process, .write) →
      state.pending process = some (seen, entry) → fits seen entry → fits state.log entry)
    (immediately : ∀ state process operation entry,
      condition state (process, .once operation) →
        immediate state.log operation = some entry → fits state.log entry)
    (met : Throughout decided immediate condition schedule) :
    Grown fits (run decided immediate schedule).log := by
  induction schedule using List.reverseRecOn with
  | nil => exact grown_nil
  | append_singleton schedule turn inductionHypothesis =>
      have grown := inductionHypothesis met.of_append
      have last := met.last
      rw [run_append_singleton]
      obtain ⟨process, move⟩ := turn
      cases move with
      | read operation => exact grown
      | write =>
          unfold step
          dsimp only
          cases isPending : (run decided immediate schedule).pending process with
          | none => exact grown
          | some decision =>
              obtain ⟨seen, entry⟩ := decision
              have fitting := pending_fits decides schedule process isPending
              exact grown_snoc.mpr ⟨grown, carried _ process seen entry last isPending fitting⟩
      | once operation =>
          unfold step
          dsimp only
          cases isEntry : immediate (run decided immediate schedule).log operation with
          | none => exact grown
          | some entry =>
              exact grown_snoc.mpr ⟨grown, immediately _ process operation entry last isEntry⟩

end CheckThenAppend
end ChatPlatform
