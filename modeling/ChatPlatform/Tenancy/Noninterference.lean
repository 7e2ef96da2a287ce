import ChatPlatform.Foundation.Unwinding
import ChatPlatform.Tenancy.Alike
import Mathlib.Algebra.Order.Field.Rat

/-!
# Tenants do not interfere

Over whole runs of a deployment, whatever the order of the steps, other tenants reach a
tenant through nothing but the counter of the message rows.
-/

namespace ChatPlatform
namespace Tenancy

variable {F K : Type}

/-! ## Two lists of observations -/

/-- Equal numbers agree position by position. -/
private theorem number_eq_of_mem_zip
    {left right : List (Action × Observation F)}
    (same : left.map (·.2.number) = right.map (·.2.number))
    {pair : (Action × Observation F) × (Action × Observation F)}
    (present : pair ∈ left.zip right) : pair.1.2.number = pair.2.2.number := by
  induction left generalizing right with
  | nil => simp at present
  | cons first rest inductionHypothesis =>
      cases right with
      | nil => simp at present
      | cons firstOther restOther =>
          rw [List.map_cons, List.map_cons, List.cons.injEq] at same
          rw [List.zip_cons_cons] at present
          rcases List.mem_cons.mp present with rfl | later
          · exact same.1
          · exact inductionHypothesis same.2 later

/-- Lists that agree position by position are equal. -/
private theorem eq_of_forall₂
    {left right : List (Action × Observation F)}
    (same : List.Forall₂ (fun event event' => event.1 = event'.1 ∧ event.2 = event'.2)
      left right) : left = right := by
  apply List.forall₂_eq_eq_eq ▸ (same.imp ?_ : List.Forall₂ Eq left right)
  intro event event' both
  exact Prod.ext both.1 both.2

/-! ## Runs -/

section Runs

variable [FloatOps F] [Field K] [LinearOrder K] (deployment : Deployment K)
  (tenantId : Str) {state : State}

variable (F)

/-- Two runs differ for a tenant in numbers only. -/
private theorem unwinds_sameButNumbers :
    Unwinding.Unwinds (step F deployment) (·.ofTenant tenantId) State.Consistent
      (fun state other => ∃ change numbers, Alike deployment tenantId change numbers
        state.nextSequence other.nextSequence state other)
      (fun _ _ => True) Observation.SameButNumbers where
  keeps := step_consistent
  left := fun consistent _ ⟨change, numbers, alike⟩ foreign moves => by
    obtain ⟨unseen, grows⟩ := sameView_of_step consistent foreign moves
    exact ⟨change, numbers, alike.left unseen grows⟩
  right := fun _ consistent ⟨change, numbers, alike⟩ foreign moves => by
    obtain ⟨unseen, grows⟩ := sameView_of_step consistent foreign moves
    exact ⟨change, numbers, alike.right unseen grows⟩
  both := fun consistent consistentOther ⟨_, _, alike⟩ own moves movesOther _ => by
    obtain ⟨changed, known, later, observed, -⟩ :=
      alike.step consistent consistentOther own moves movesOther
    exact ⟨⟨changed, known, later⟩, observed.sameButNumbers⟩

/-- Two runs do not differ for a tenant whose rows get the same numbers. -/
private theorem unwinds_equal :
    Unwinding.Unwinds (step F deployment) (·.ofTenant tenantId) State.Consistent
      (fun state other => ∃ change numbers, (∀ number, change number = number) ∧
        Alike deployment tenantId change numbers state.nextSequence other.nextSequence
          state other)
      (fun observation other => observation.number = other.number) Eq where
  keeps := step_consistent
  left := fun consistent _ ⟨change, numbers, unchanged, alike⟩ foreign moves => by
    obtain ⟨unseen, grows⟩ := sameView_of_step consistent foreign moves
    exact ⟨change, numbers, unchanged, alike.left unseen grows⟩
  right := fun _ consistent ⟨change, numbers, unchanged, alike⟩ foreign moves => by
    obtain ⟨unseen, grows⟩ := sameView_of_step consistent foreign moves
    exact ⟨change, numbers, unchanged, alike.right unseen grows⟩
  both := fun consistent consistentOther ⟨_, _, unchanged, alike⟩ own moves movesOther
      sameNumber => by
    obtain ⟨changed, known, later, observed, stays⟩ :=
      alike.step consistent consistentOther own moves movesOther
    have still := stays unchanged sameNumber
    exact ⟨⟨changed, known, still, later⟩, observed.equal still⟩

/-- A state that the requests of the deployment lead to. -/
def Reachable (state : State) : Prop :=
  ∃ actions trace, Unwinding.run (step F deployment) {} actions = some (state, trace)

variable {F deployment tenantId}

/-- Reachable states are consistent. -/
theorem Reachable.consistent (reachable : Reachable F deployment state) :
    state.Consistent := by
  obtain ⟨actions, trace, ran⟩ := reachable
  exact Unwinding.run_invariant step_consistent consistent_empty ran

/-- Whatever other tenants have stored and do: the provider requests and the cached
answers of a tenant differ between two runs in the numbers of its rows only, and not
at all when its rows get the same numbers. In every state reached each message has the
tenant of its conversation. -/
theorem noninterference
    {start start' state' : State}
    (reachable : Reachable F deployment start)
    (reachable' : Reachable F deployment start')
    (sameView : SameView deployment tenantId start start')
    {actions actions' : List Action}
    {trace trace' : List (Action × Observation F)}
    (ran : Unwinding.run (step F deployment) start actions = some (state, trace))
    (ran' : Unwinding.run (step F deployment) start' actions' = some (state', trace'))
    (sameActions : actions.filter (·.ofTenant tenantId) =
      actions'.filter (·.ofTenant tenantId)) :
    let mine := Unwinding.observed (·.ofTenant tenantId) trace
    let mine' := Unwinding.observed (·.ofTenant tenantId) trace'
    List.Forall₂ (fun event event' => event.1 = event'.1 ∧
        event.2.SameButNumbers event'.2) mine mine' ∧
      (mine.map (·.2.number) = mine'.map (·.2.number) → mine = mine') ∧
      TenantsMatch state.database := by
  intro mine mine'
  have consistent := reachable.consistent
  have consistent' := reachable'.consistent
  have alike := alike_of_sameView consistent consistent' sameView
  refine ⟨?_, ?_, ?_⟩
  · exact (unwinds_sameButNumbers F deployment tenantId).observed_same consistent
      consistent' ⟨_, _, alike⟩ ran ran' sameActions fun _ _ => trivial
  · intro sameNumbers
    apply eq_of_forall₂
    exact (unwinds_equal F deployment tenantId).observed_same consistent consistent'
      ⟨_, _, fun _ => rfl, alike⟩ ran ran' sameActions
      fun _ present => number_eq_of_mem_zip sameNumbers present
  · exact (Unwinding.run_invariant step_consistent consistent ran).tenantsMatch

end Runs

/-! ## Two small runs -/

/-- A deployment whose window holds a single turn. -/
def smallDeployment : Deployment ℚ where
  settings :=
    { ChatSettings.unset with
      conversationHistoryEnabled := true
      ebm25Enabled := true
      conversationHistoryMaxMessages := 2
      maxMessagesPositive := by decide }
  cacheSettings := {}
  lexicon := ⟨id, Char.isAlphanum, id⟩
  sha256 := fun _ => 0

/-- A whole streamed turn, with fresh identifiers from a number on. -/
def streamedTurn
    (id : FlightId)
    (conversationId : Option Uuid)
    (fresh : Fin (2 ^ 128))
    (message answer : Str) : List Action :=
  [.arrive ⟨fresh⟩ ⟨conversationId, message, true⟩ ⟨fresh⟩,
    .read none {},
    .generate ⟨⟨.assistant, answer⟩,
      ⟨answer, "stub".toList, "stub".toList, "v1".toList, none, none, none, none⟩⟩,
    .openConversation,
    .addUser ⟨fresh + 1⟩,
    .addAssistant ⟨fresh + 2⟩,
    .commit].map fun event => ⟨id, event⟩

/-- A first turn of the tenant `t`. -/
def firstTurn : List Action :=
  streamedTurn ⟨"t".toList, 0⟩ none 10 "a".toList "b".toList

/-- A second turn of the conversation, and the history read of a third. -/
def ownActions : List Action :=
  firstTurn ++
    streamedTurn ⟨"t".toList, 1⟩ (some ⟨10⟩) 20 "c".toList "d".toList ++
    [⟨⟨"t".toList, 2⟩, .arrive ⟨30⟩ ⟨some ⟨10⟩, "e".toList, true⟩ ⟨30⟩⟩,
      ⟨⟨"t".toList, 2⟩, .read none {}⟩]

/-- A turn of another tenant. -/
def foreignActions : List Action :=
  streamedTurn ⟨"u".toList, 0⟩ none 40 "x".toList "y".toList

/-- The tenant `t` with and without the other tenant before it. -/
theorem noninterference_small :
    ∃ state state' trace trace',
      Unwinding.run (step Empty smallDeployment) {} firstTurn = some (state, trace) ∧
      Unwinding.run (step Empty smallDeployment) {} (foreignActions ++ firstTurn) =
        some (state', trace') ∧
      let mine := Unwinding.observed (·.ofTenant "t".toList) trace
      let mine' := Unwinding.observed (·.ofTenant "t".toList) trace'
      List.Forall₂ (fun event event' => event.1 = event'.1 ∧
          event.2.SameButNumbers event'.2) mine mine' ∧
        (mine.map (·.2.number) = mine'.map (·.2.number) → mine = mine') ∧
        TenantsMatch state.database := by
  have ends : (Unwinding.run (step Empty smallDeployment) {} firstTurn).isSome := by
    decide +kernel
  have ends' : (Unwinding.run (step Empty smallDeployment) {}
      (foreignActions ++ firstTurn)).isSome := by
    decide +kernel
  obtain ⟨⟨state, trace⟩, ran⟩ := Option.isSome_iff_exists.mp ends
  obtain ⟨⟨state', trace'⟩, ran'⟩ := Option.isSome_iff_exists.mp ends'
  have reachable : Reachable Empty smallDeployment {} := ⟨[], [], rfl⟩
  have sameView : SameView smallDeployment "t".toList {} {} :=
    ⟨fun _ => rfl, fun _ => rfl, fun _ => rfl, fun _ _ => rfl⟩
  exact ⟨state, state', trace, trace', ran, ran',
    noninterference reachable reachable sameView ran ran' rfl⟩

/-- The memory channel of a provider request that is observed. -/
def Observation.memory : Observation F → Option (Value F)
  | .prepared input => input.metadata.bind (Dict.get · "memory".toList)
  | _ => none

/-- The identifier of an event. -/
def eventId : Value F → Option Int
  | .dict event =>
      match Dict.get event "event_id".toList with
      | some (.int eventId) => some eventId
      | _ => none
  | _ => none

/-- The identifiers of the events in a memory channel. -/
def eventIds : Option (Value F) → List Int
  | some (.dict fields) =>
      match Dict.get fields "events".toList with
      | some (.list events) => events.filterMap eventId
      | _ => []
  | _ => []

/-- The memory channel of a tenant changes with what another tenant does. -/
theorem memory_depends_on_other_tenant :
    ¬∀ (actions actions' : List Action) (state state' : State)
      (trace trace' : List (Action × Observation Empty)),
      Unwinding.run (step Empty smallDeployment) {} actions = some (state, trace) →
      Unwinding.run (step Empty smallDeployment) {} actions' = some (state', trace') →
      actions.filter (·.ofTenant "t".toList) = actions'.filter (·.ofTenant "t".toList) →
      (Unwinding.observed (·.ofTenant "t".toList) trace).map (·.2.memory) =
        (Unwinding.observed (·.ofTenant "t".toList) trace').map (·.2.memory) := by
  intro claimed
  have first : (Unwinding.run (step Empty smallDeployment) {} ownActions).map
      (fun ending => ((Unwinding.observed (·.ofTenant "t".toList) ending.2).map
        (·.2.memory)).flatMap eventIds) = some [1] := by
    decide +kernel
  have second : (Unwinding.run (step Empty smallDeployment) {}
      (foreignActions ++ ownActions)).map
      (fun ending => ((Unwinding.observed (·.ofTenant "t".toList) ending.2).map
        (·.2.memory)).flatMap eventIds) = some [3] := by
    decide +kernel
  obtain ⟨⟨state, trace⟩, ran, ids⟩ := Option.map_eq_some_iff.mp first
  obtain ⟨⟨state', trace'⟩, ran', ids'⟩ := Option.map_eq_some_iff.mp second
  have same := claimed _ _ state state' trace trace' ran ran' rfl
  dsimp only at ids ids'
  rw [same, ids'] at ids
  simp at ids

end Tenancy
end ChatPlatform
