import ChatPlatform.Foundation.Program

/-!
# Programs with a silent part of the state

A program works on a state with a second, silent part. It erases to a program on the
first part alone when the silent part decides nothing: neither how it ends, nor what it
leaves in the first part, nor which fates it meets. A silent program goes on and
changes the silent part only. Every way to compose programs keeps erasure.
-/

namespace ChatPlatform
namespace Program

variable {φ σ γ ρ ε α β : Type}

/-- Whatever the silent part is, the program does what the plain one does. -/
def Erases
    (program : Program φ (σ × γ) ρ ε α)
    (plain : Program φ σ ρ ε α) : Prop :=
  ∀ state silent fates, ∃ after,
    program (state, silent) fates =
      ((plain state fates).1, ((plain state fates).2.1, after), (plain state fates).2.2)

/-- The program goes on, and changes the silent part only. -/
def Silent (program : Program φ (σ × γ) ρ ε α) : Prop :=
  ∀ state silent fates, ∃ result after,
    program (state, silent) fates = (.next result, (state, after), fates)

/-- A plain program, beside a silent part. -/
def beside (γ : Type) (plain : Program φ σ ρ ε α) : Program φ (σ × γ) ρ ε α :=
  fun both fates =>
    ((plain both.1 fates).1, ((plain both.1 fates).2.1, both.2), (plain both.1 fates).2.2)

/-- Runs that start in the same state end alike, whatever the silent parts are. -/
def IgnoresSilent (program : Program φ (σ × γ) ρ ε α) : Prop :=
  ∀ state silent other fates,
    (program (state, silent) fates).1 = (program (state, other) fates).1 ∧
    (program (state, silent) fates).2.1.1 = (program (state, other) fates).2.1.1 ∧
    (program (state, silent) fates).2.2 = (program (state, other) fates).2.2

namespace Silent

theorem value (result : α) :
    Silent (Program.value result : Program φ (σ × γ) ρ ε α) :=
  fun _ silent _ => ⟨result, silent, rfl⟩

theorem andThen
    {first : Program φ (σ × γ) ρ ε α}
    {rest : α → Program φ (σ × γ) ρ ε β}
    (silentFirst : Silent first)
    (silentRest : ∀ result, Silent (rest result)) :
    Silent (Program.andThen first rest) := by
  intro state silent fates
  obtain ⟨result, middle, ran⟩ := silentFirst state silent fates
  unfold Program.andThen
  rw [ran]
  exact silentRest result state middle fates

theorem forEach
    {items : List β}
    {body : β → Program φ (σ × γ) ρ ε Unit}
    (silentRound : ∀ item, Silent (body item)) :
    Silent (Program.forEach items body) := by
  induction items with
  | nil => exact value ()
  | cons item rest inductionHypothesis =>
      exact andThen (silentRound item) fun _ => inductionHypothesis

/-- A handler is not met after a silent program. -/
theorem catching
    {body : Program φ (σ × γ) ρ ε α}
    {handler : ε → Option (Program φ (σ × γ) ρ ε α)}
    (silent : Silent body) : Silent (Program.catching body handler) := by
  intro state before fates
  obtain ⟨result, after, ran⟩ := silent state before fates
  refine ⟨result, after, ?_⟩
  unfold Program.catching
  rw [ran]

/-- A silent final block keeps how the program ended. -/
theorem ensuring
    {cleanup : Program φ (σ × γ) ρ ε Unit}
    (silent : Silent cleanup)
    (body : Program φ (σ × γ) ρ ε α)
    (both : σ × γ)
    (fates : List φ) :
    ∃ after, Program.ensuring body cleanup both fates =
      ((body both fates).1, ((body both fates).2.1.1, after), (body both fates).2.2) := by
  unfold Program.ensuring
  rcases body both fates with ⟨outcome, ⟨state, reached⟩, left⟩
  obtain ⟨_, after, cleaned⟩ := silent state reached left
  refine ⟨after, ?_⟩
  dsimp only
  rw [cleaned]

end Silent

namespace Erases

theorem beside (plain : Program φ σ ρ ε α) : Erases (beside γ plain) plain :=
  fun _ silent _ => ⟨silent, rfl⟩

theorem value (result : α) :
    Erases (Program.value result : Program φ (σ × γ) ρ ε α) (Program.value result) :=
  fun _ silent _ => ⟨silent, rfl⟩

theorem raise (exception : ε) :
    Erases (Program.raise exception : Program φ (σ × γ) ρ ε α)
      (Program.raise exception) :=
  fun _ silent _ => ⟨silent, rfl⟩

theorem andThen
    {first : Program φ (σ × γ) ρ ε α}
    {plainFirst : Program φ σ ρ ε α}
    {rest : α → Program φ (σ × γ) ρ ε β}
    {plainRest : α → Program φ σ ρ ε β}
    (erasesFirst : Erases first plainFirst)
    (erasesRest : ∀ result, Erases (rest result) (plainRest result)) :
    Erases (Program.andThen first rest) (Program.andThen plainFirst plainRest) := by
  intro state silent fates
  obtain ⟨middle, ran⟩ := erasesFirst state silent fates
  unfold Program.andThen
  rw [ran]
  rcases plainFirst state fates with ⟨outcome, after, left⟩
  cases outcome with
  | next result => exact erasesRest result after middle left
  | exit result => exact ⟨middle, rfl⟩
  | raised exception => exact ⟨middle, rfl⟩

/-- A silent program without a result erases to nothing. -/
theorem silent
    {program : Program φ (σ × γ) ρ ε Unit}
    (silentProgram : Silent program) : Erases program (Program.value ()) := by
  intro state before fates
  obtain ⟨_, after, ran⟩ := silentProgram state before fates
  exact ⟨after, ran⟩

/-- A silent program in front is erased. -/
theorem silentThen
    {first : Program φ (σ × γ) ρ ε β}
    {rest : β → Program φ (σ × γ) ρ ε α}
    {plain : Program φ σ ρ ε α}
    (silentFirst : Silent first)
    (erasesRest : ∀ result, Erases (rest result) plain) :
    Erases (Program.andThen first rest) plain := by
  intro state silent fates
  obtain ⟨result, middle, ran⟩ := silentFirst state silent fates
  unfold Program.andThen
  rw [ran]
  exact erasesRest result state middle fates

/-- Handlers erase handler by handler. -/
theorem catching
    {body : Program φ (σ × γ) ρ ε α}
    {plainBody : Program φ σ ρ ε α}
    {handler : ε → Option (Program φ (σ × γ) ρ ε α)}
    {plainHandler : ε → Option (Program φ σ ρ ε α)}
    (erasesBody : Erases body plainBody)
    (erasesHandler : ∀ exception, Option.Rel Erases (handler exception)
      (plainHandler exception)) :
    Erases (Program.catching body handler) (Program.catching plainBody plainHandler) := by
  intro state silent fates
  obtain ⟨middle, ran⟩ := erasesBody state silent fates
  unfold Program.catching
  rw [ran]
  rcases plainBody state fates with ⟨outcome, after, left⟩
  cases outcome with
  | next result => exact ⟨middle, rfl⟩
  | exit result => exact ⟨middle, rfl⟩
  | raised exception =>
      dsimp only
      have handlers := erasesHandler exception
      generalize handler exception = chosen at handlers ⊢
      generalize plainHandler exception = plainChosen at handlers ⊢
      cases handlers with
      | some related => exact related after middle left
      | none => exact ⟨middle, rfl⟩

/-- What erases ignores the silent part. -/
theorem ignoresSilent
    {program : Program φ (σ × γ) ρ ε α}
    {plain : Program φ σ ρ ε α}
    (erases : Erases program plain) : IgnoresSilent program := by
  intro state silent other fates
  obtain ⟨_, ran⟩ := erases state silent fates
  obtain ⟨_, otherRan⟩ := erases state other fates
  rw [ran, otherRan]
  exact ⟨rfl, rfl, rfl⟩

end Erases

end Program
end ChatPlatform
