import ChatPlatform.Foundation.Program

/-!
# Programs that keep an invariant

A program keeps an invariant when it holds afterwards whenever it held before, however
the program ends. Every way to compose programs keeps what its parts keep. A single run of a
composed program continues as is known once it is known how its first part ended from one
state under one list of fates.
-/

namespace ChatPlatform
namespace Program

variable {φ σ ρ ε α β : Type}

/-- The program keeps the invariant, however it ends. -/
def Keeps (invariant : σ → Prop) (program : Program φ σ ρ ε α) : Prop :=
  Triple invariant program ⟨fun _ => invariant, fun _ => invariant, fun _ => invariant⟩

namespace Keeps

variable {invariant : σ → Prop}

/-- What a program keeps holds after it. -/
theorem after
    {program : Program φ σ ρ ε α}
    (keeps : Keeps invariant program)
    {state : σ}
    (holds : invariant state)
    (fates : List φ) : invariant (program state fates).2.1 := by
  have ending := keeps state fates holds
  generalize (program state fates).1 = outcome at ending
  cases outcome with
  | next result => exact ending
  | exit result => exact ending
  | raised exception => exact ending

theorem value (result : α) :
    Keeps invariant (Program.value result : Program φ σ ρ ε α) :=
  Triple.value fun _ holds => holds

theorem exit (result : ρ) :
    Keeps invariant (Program.exit result : Program φ σ ρ ε α) :=
  Triple.exit fun _ holds => holds

theorem raise (exception : ε) :
    Keeps invariant (Program.raise exception : Program φ σ ρ ε α) :=
  Triple.raise fun _ holds => holds

theorem modify
    {change : σ → σ}
    (kept : ∀ state, invariant state → invariant (change state)) :
    Keeps invariant (Program.modify change : Program φ σ ρ ε Unit) :=
  Triple.modify kept

theorem inspect (view : σ → α) :
    Keeps invariant (Program.inspect view : Program φ σ ρ ε α) :=
  Triple.inspect fun _ holds => holds

/-- An await keeps what every reaction keeps. -/
theorem await
    {default : φ}
    {react : φ → σ → Outcome ρ ε α × σ}
    (kept : ∀ fate state, invariant state → invariant (react fate state).2) :
    Keeps invariant (Program.await default react) := by
  apply Triple.await
  intro fate state holds
  have reacted := kept fate state holds
  generalize (react fate state).1 = outcome
  cases outcome with
  | next result => exact reacted
  | exit result => exact reacted
  | raised exception => exact reacted

theorem andThen
    {first : Program φ σ ρ ε α}
    {rest : α → Program φ σ ρ ε β}
    (keepsFirst : Keeps invariant first)
    (keepsRest : ∀ result, Keeps invariant (rest result)) :
    Keeps invariant (Program.andThen first rest) :=
  Triple.andThen (fun _ => invariant) keepsFirst keepsRest

theorem catching
    {body : Program φ σ ρ ε α}
    {handler : ε → Option (Program φ σ ρ ε α)}
    (keepsBody : Keeps invariant body)
    (keepsHandler : ∀ exception continuation, handler exception = some continuation →
      Keeps invariant continuation) :
    Keeps invariant (Program.catching body handler) :=
  Triple.catching (fun _ => invariant) keepsBody keepsHandler
    fun _ _ _ holds => holds

theorem ensuring
    {body : Program φ σ ρ ε α}
    {cleanup : Program φ σ ρ ε Unit}
    (keepsBody : Keeps invariant body)
    (keepsCleanup : Keeps invariant cleanup) :
    Keeps invariant (Program.ensuring body cleanup) := by
  apply Triple.ensuring _ keepsBody
  intro ending
  cases ending with
  | next result => exact keepsCleanup
  | exit result => exact keepsCleanup
  | raised exception => exact keepsCleanup

theorem within
    {enter leave leaveRaised : Program φ σ ρ ε Unit}
    {body : Program φ σ ρ ε α}
    (keepsEnter : Keeps invariant enter)
    (keepsBody : Keeps invariant body)
    (keepsLeave : Keeps invariant leave)
    (keepsLeaveRaised : Keeps invariant leaveRaised) :
    Keeps invariant (Program.within enter leave leaveRaised body) :=
  Triple.within invariant _ keepsEnter keepsBody (fun _ => keepsLeave)
    (fun _ => keepsLeave) fun _ => keepsLeaveRaised

theorem forEach
    {items : List β}
    {body : β → Program φ σ ρ ε Unit}
    (keepsRound : ∀ item, Keeps invariant (body item)) :
    Keeps invariant (Program.forEach items body) :=
  Triple.forEach invariant (fun _ holds => holds) keepsRound fun _ holds => holds

end Keeps

/-! ## Single runs -/

section Runs

variable {γ : Type} {state middle : σ} {fates left : List φ}

theorem andThen_of_next
    {first : Program φ σ ρ ε α}
    {rest : α → Program φ σ ρ ε β}
    {result : α}
    (ran : first state fates = (.next result, middle, left)) :
    andThen first rest state fates = rest result middle left := by
  unfold andThen
  rw [ran]

theorem andThen_of_exit
    {first : Program φ σ ρ ε α}
    {rest : α → Program φ σ ρ ε β}
    {result : ρ}
    (ran : first state fates = (.exit result, middle, left)) :
    andThen first rest state fates = (.exit result, middle, left) := by
  unfold andThen
  rw [ran]

theorem andThen_of_raised
    {first : Program φ σ ρ ε α}
    {rest : α → Program φ σ ρ ε β}
    {exception : ε}
    (ran : first state fates = (.raised exception, middle, left)) :
    andThen first rest state fates = (.raised exception, middle, left) := by
  unfold andThen
  rw [ran]

/-- A sequence goes on only where both of its parts do. -/
theorem andThen_eq_next
    {first : Program φ σ ρ ε α}
    {rest : α → Program φ σ ρ ε β}
    {result : β}
    {final : σ}
    {unused : List φ}
    (ran : andThen first rest state fates = (.next result, final, unused)) :
    ∃ value middle left, first state fates = (.next value, middle, left) ∧
      rest value middle left = (.next result, final, unused) := by
  unfold andThen at ran
  split at ran
  · rename_i value middle left first
    exact ⟨value, middle, left, first, ran⟩
  · cases ran
  · cases ran

/-- Sequencing is associative. -/
theorem andThen_assoc
    (first : Program φ σ ρ ε α)
    (second : α → Program φ σ ρ ε β)
    (third : β → Program φ σ ρ ε γ) :
    andThen (andThen first second) third =
      andThen first fun value => andThen (second value) third := by
  funext state fates
  unfold andThen
  rcases first state fates with ⟨ending | ending | ending, after, left⟩
  · rfl
  · rfl
  · rfl

/-- Going on with the value that was given is going on. -/
theorem andThen_value (body : Program φ σ ρ ε α) : andThen body value = body := by
  funext state fates
  unfold andThen
  rcases body state fates with ⟨ending | ending | ending, after, left⟩
  · rfl
  · rfl
  · rfl

/-- A loop over one list after another is a loop over both. -/
theorem forEach_append
    (items others : List β)
    (body : β → Program φ σ ρ ε Unit) :
    forEach (items ++ others) body = andThen (forEach items body) fun _ => forEach others body := by
  induction items with
  | nil => rfl
  | cons item rest inductionHypothesis =>
      rw [List.cons_append, forEach, forEach, inductionHypothesis, andThen_assoc]

/-- A loop over what is made of the items is a loop over the items. -/
theorem forEach_map
    (make : γ → β)
    (items : List γ)
    (body : β → Program φ σ ρ ε Unit) :
    forEach (items.map make) body = forEach items fun item => body (make item) := by
  induction items with
  | nil => rfl
  | cons item rest inductionHypothesis =>
      rw [List.map_cons, forEach, forEach, inductionHypothesis]

/-- A loop over the lists that are made of the items is a loop in a loop. -/
theorem forEach_flatMap
    (make : γ → List β)
    (items : List γ)
    (body : β → Program φ σ ρ ε Unit) :
    forEach (items.flatMap make) body = forEach items fun item => forEach (make item) body := by
  induction items with
  | nil => rfl
  | cons item rest inductionHypothesis =>
      rw [List.flatMap_cons, forEach_append, inductionHypothesis]
      rfl

/-- A handler that raises what it caught does nothing. -/
theorem catching_raise (body : Program φ σ ρ ε α) :
    catching body (fun exception => some (raise exception)) = body := by
  funext state fates
  unfold catching
  rcases body state fates with ⟨ending | ending | ending, after, left⟩
  · rfl
  · rfl
  · rfl

theorem catching_of_next
    {body : Program φ σ ρ ε α}
    {handler : ε → Option (Program φ σ ρ ε α)}
    {result : α}
    (ran : body state fates = (.next result, middle, left)) :
    catching body handler state fates = (.next result, middle, left) := by
  unfold catching
  rw [ran]

theorem catching_of_exit
    {body : Program φ σ ρ ε α}
    {handler : ε → Option (Program φ σ ρ ε α)}
    {result : ρ}
    (ran : body state fates = (.exit result, middle, left)) :
    catching body handler state fates = (.exit result, middle, left) := by
  unfold catching
  rw [ran]

theorem catching_of_caught
    {body continuation : Program φ σ ρ ε α}
    {handler : ε → Option (Program φ σ ρ ε α)}
    {exception : ε}
    (ran : body state fates = (.raised exception, middle, left))
    (caught : handler exception = some continuation) :
    catching body handler state fates = continuation middle left := by
  unfold catching
  rw [ran]
  dsimp only
  rw [caught]

theorem catching_of_uncaught
    {body : Program φ σ ρ ε α}
    {handler : ε → Option (Program φ σ ρ ε α)}
    {exception : ε}
    (ran : body state fates = (.raised exception, middle, left))
    (uncaught : handler exception = none) :
    catching body handler state fates = (.raised exception, middle, left) := by
  unfold catching
  rw [ran]
  dsimp only
  rw [uncaught]

/-- Only the run of the body matters to a handler. -/
theorem catching_congr
    {body other : Program φ σ ρ ε α}
    {handler : ε → Option (Program φ σ ρ ε α)}
    {otherState : σ}
    {otherFates : List φ}
    (same : body state fates = other otherState otherFates) :
    catching body handler state fates =
      catching other handler otherState otherFates := by
  unfold catching
  rw [same]

/-- A final block that completes keeps how the body ended. -/
theorem ensuring_of_next
    {body : Program φ σ ρ ε α}
    {cleanup : Program φ σ ρ ε Unit}
    {ending : Outcome ρ ε α}
    {final : σ}
    {unused : List φ}
    (ran : body state fates = (ending, middle, left))
    (cleaned : cleanup middle left = (.next (), final, unused)) :
    ensuring body cleanup state fates = (ending, final, unused) := by
  unfold ensuring
  rw [ran]
  dsimp only
  rw [cleaned]

/-- The final block is run where the body ended. -/
theorem ensuring_state
    {body : Program φ σ ρ ε α}
    {cleanup : Program φ σ ρ ε Unit}
    {ending : Outcome ρ ε α}
    (ran : body state fates = (ending, middle, left)) :
    (ensuring body cleanup state fates).2.1 = (cleanup middle left).2.1 := by
  unfold ensuring
  rw [ran]
  dsimp only
  split <;> rename_i cleaned <;> rw [cleaned]

/-- A final block does not make a program go on. -/
theorem ensuring_ne_next
    {body : Program φ σ ρ ε α}
    {cleanup : Program φ σ ρ ε Unit}
    {ending : Outcome ρ ε α}
    (ran : body state fates = (ending, middle, left))
    (stopped : ∀ result, ending ≠ .next result)
    (result : α) : (ensuring body cleanup state fates).1 ≠ .next result := by
  unfold ensuring
  rw [ran]
  dsimp only
  split
  · exact stopped result
  · exact nofun
  · exact nofun

/-- A context manager that was entered runs its body and is left. -/
theorem within_of_entered
    {enter leave leaveRaised : Program φ σ ρ ε Unit}
    {body : Program φ σ ρ ε α}
    (entered : enter state fates = (.next (), middle, left)) :
    within enter leave leaveRaised body state fates =
      match body middle left with
      | (.raised exception, after, unused) =>
          ensuring (raise exception) leaveRaised after unused
      | (ending, after, unused) =>
          ensuring (fun state fates => (ending, state, fates)) leave after unused :=
  andThen_of_next entered

/-- A context manager whose body went on is left, and then its result is given. -/
theorem within_of_next
    {enter leave leaveRaised : Program φ σ ρ ε Unit}
    {body : Program φ σ ρ ε α}
    {result : α}
    (ran : andThen enter (fun _ => body) state fates = (.next result, middle, left)) :
    within enter leave leaveRaised body state fates =
      andThen leave (fun _ => value result) middle left := by
  obtain ⟨_, inside, unused, entered, ran⟩ := andThen_eq_next ran
  rw [within_of_entered entered, ran]
  dsimp only
  unfold ensuring andThen
  dsimp only
  cases leave middle left with
  | mk ending others => cases ending <;> rfl

/-- Where the body of a context manager does not go on, the context manager keeps
what entering and leaving it and such runs of its body keep. -/
theorem within_of_not_next
    {enter leave leaveRaised : Program φ σ ρ ε Unit}
    {body : Program φ σ ρ ε α}
    {invariant : σ → Prop}
    (keepsEnter : Keeps invariant enter)
    (stops : Triple invariant body
      ⟨fun _ _ => True, fun _ => invariant, fun _ => invariant⟩)
    (keepsLeave : Keeps invariant leave)
    (keepsLeaveRaised : Keeps invariant leaveRaised)
    (holds : invariant state)
    (stopped : ∀ result final unused,
      andThen enter (fun _ => body) state fates ≠ (.next result, final, unused)) :
    (∀ result, (within enter leave leaveRaised body state fates).1 ≠ .next result) ∧
      invariant (within enter leave leaveRaised body state fates).2.1 := by
  have inside := keepsEnter.after holds fates
  cases entered : enter state fates with
  | mk ending others =>
      obtain ⟨middle, left⟩ := others
      rw [entered] at inside
      cases ending with
      | exit result =>
          have ran : within enter leave leaveRaised body state fates =
              (.exit result, middle, left) := andThen_of_exit entered
          rw [ran]
          exact ⟨nofun, inside⟩
      | raised exception =>
          have ran : within enter leave leaveRaised body state fates =
              (.raised exception, middle, left) := andThen_of_raised entered
          rw [ran]
          exact ⟨nofun, inside⟩
      | next =>
          have ended := stops middle left inside
          rw [within_of_entered entered]
          cases ran : body middle left with
          | mk ending others =>
              obtain ⟨after, unused⟩ := others
              rw [ran] at ended
              cases ending with
              | next result =>
                  exact absurd ((andThen_of_next entered).trans ran)
                    (stopped result after unused)
              | exit result =>
                  exact ⟨ensuring_ne_next rfl nofun,
                    (Keeps.ensuring (Keeps.exit result) keepsLeave).after ended unused⟩
              | raised exception =>
                  exact ⟨ensuring_ne_next rfl nofun,
                    (Keeps.ensuring (Keeps.raise exception) keepsLeaveRaised).after
                      ended unused⟩

end Runs

end Program
end ChatPlatform
