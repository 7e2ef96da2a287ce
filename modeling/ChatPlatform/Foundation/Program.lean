/-!
# Programs with exceptions, driven by the fates of their awaits

A program works on a state and may go on with a value, return early, or raise. Each
await takes the next fate off a list and reacts to it; when the list is used up a
default fate is met. Programs are composed in sequence, with handlers, with final
blocks and inside context managers. A triple says what holds after a program,
whatever the fates are, for each of the three ways to end.
-/

namespace ChatPlatform

/-- How a program ends: with a value, by returning, or by raising. -/
inductive Outcome (ρ ε α : Type)
  | next (value : α)
  | exit (result : ρ)
  | raised (exception : ε)
  deriving DecidableEq

/-- A program over states `σ` and fates `φ` that returns `ρ`, raises `ε` and goes on
with `α`. -/
def Program (φ σ ρ ε α : Type) : Type :=
  σ → List φ → Outcome ρ ε α × σ × List φ

namespace Program

variable {φ σ ρ ε α β : Type}

/-- Go on with a value. -/
def value (result : α) : Program φ σ ρ ε α :=
  fun state fates => (.next result, state, fates)

/-- One program after the other. -/
def andThen
    (first : Program φ σ ρ ε α)
    (rest : α → Program φ σ ρ ε β) : Program φ σ ρ ε β :=
  fun state fates =>
    match first state fates with
    | (.next result, after, left) => rest result after left
    | (.exit result, after, left) => (.exit result, after, left)
    | (.raised exception, after, left) => (.raised exception, after, left)

instance : Monad (Program φ σ ρ ε) where
  pure := value
  bind := andThen

/-- Return from the program. -/
def exit (result : ρ) : Program φ σ ρ ε α :=
  fun state fates => (.exit result, state, fates)

/-- Raise an exception. -/
def raise (exception : ε) : Program φ σ ρ ε α :=
  fun state fates => (.raised exception, state, fates)

/-- Change the state. -/
def modify (change : σ → σ) : Program φ σ ρ ε Unit :=
  fun state fates => (.next (), change state, fates)

/-- Look at the state. -/
def inspect (view : σ → α) : Program φ σ ρ ε α :=
  fun state fates => (.next (view state), state, fates)

/-- Await: meet the next fate and react to it. -/
def await (default : φ) (react : φ → σ → Outcome ρ ε α × σ) :
    Program φ σ ρ ε α :=
  fun state fates =>
    let reaction := react (fates.headD default) state
    (reaction.1, reaction.2, fates.tail)

/-- Run a program; `handler` gives the continuation for the exceptions it
catches. -/
def catching
    (body : Program φ σ ρ ε α)
    (handler : ε → Option (Program φ σ ρ ε α)) : Program φ σ ρ ε α :=
  fun state fates =>
    match body state fates with
    | (.raised exception, after, left) =>
        match handler exception with
        | some continuation => continuation after left
        | none => (.raised exception, after, left)
    | ending => ending

/-- Run a program, then a final block. An exception or a return of the final block
replaces the ending of the program. -/
def ensuring
    (body : Program φ σ ρ ε α)
    (cleanup : Program φ σ ρ ε Unit) : Program φ σ ρ ε α :=
  fun state fates =>
    match body state fates with
    | (ending, after, left) =>
        match cleanup after left with
        | (.next _, final, rest) => (ending, final, rest)
        | (.exit result, final, rest) => (.exit result, final, rest)
        | (.raised exception, final, rest) => (.raised exception, final, rest)

/-- A context manager around a program: entered before it, and left after it in one
way when it raised and in the other when it did not. -/
def within
    (enter : Program φ σ ρ ε Unit)
    (leave leaveRaised : Program φ σ ρ ε Unit)
    (body : Program φ σ ρ ε α) : Program φ σ ρ ε α :=
  andThen enter fun _ => fun state fates =>
    match body state fates with
    | (.raised exception, after, left) =>
        ensuring (raise exception) leaveRaised after left
    | (ending, after, left) =>
        ensuring (fun state fates => (ending, state, fates)) leave after left

/-- Run a program for each item in turn. -/
def forEach (items : List β) (body : β → Program φ σ ρ ε Unit) :
    Program φ σ ρ ε Unit :=
  match items with
  | [] => value ()
  | item :: rest => andThen (body item) fun _ => forEach rest body

/-! ## Triples -/

/-- What holds after a program, for each way to end. -/
structure Post (σ ρ ε α : Type) where
  /-- When it goes on. -/
  next : α → σ → Prop
  /-- When it returned. -/
  exit : ρ → σ → Prop
  /-- When it raised. -/
  raised : ε → σ → Prop

/-- The condition for one ending. -/
def Post.holds (post : Post σ ρ ε α) : Outcome ρ ε α → σ → Prop
  | .next result => post.next result
  | .exit result => post.exit result
  | .raised exception => post.raised exception

/-- From every state that satisfies `pre`, whatever the fates are, the program ends
as `post` says. -/
def Triple
    (pre : σ → Prop)
    (program : Program φ σ ρ ε α)
    (post : Post σ ρ ε α) : Prop :=
  ∀ state fates, pre state →
    post.holds (program state fates).1 (program state fates).2.1

variable {pre : σ → Prop} {post : Post σ ρ ε α}

theorem Triple.weaken
    {stronger : σ → Prop}
    {program : Program φ σ ρ ε α}
    (triple : Triple pre program post)
    (implies : ∀ state, stronger state → pre state) :
    Triple stronger program post :=
  fun state fates holds => triple state fates (implies state holds)

/-- Nothing is asked of a program that is never started. -/
theorem Triple.unreachable
    {program : Program φ σ ρ ε α}
    (never : ∀ state, ¬ pre state) : Triple pre program post :=
  fun state _ holds => absurd holds (never state)

/-- A fact that is not about the state may be taken out of the condition. -/
theorem Triple.given
    {fact : Prop}
    {program : Program φ σ ρ ε α}
    (triple : fact → Triple pre program post) :
    Triple (fun state => fact ∧ pre state) program post :=
  fun state fates holds => triple holds.1 state fates holds.2

/-- A triple may be shown for one state at a time. -/
theorem Triple.fromState
    {program : Program φ σ ρ ε α}
    (triple : ∀ state, pre state → Triple (· = state) program post) :
    Triple pre program post :=
  fun state fates holds => triple state holds state fates rfl

/-- Different endings of a program may be weakened separately. -/
theorem Triple.conclude
    {program : Program φ σ ρ ε α}
    {stronger : Post σ ρ ε α}
    (triple : Triple pre program stronger)
    (next : ∀ result state, stronger.next result state → post.next result state)
    (exit : ∀ result state, stronger.exit result state → post.exit result state)
    (raised : ∀ exception state, stronger.raised exception state →
      post.raised exception state) :
    Triple pre program post := by
  intro state fates holds
  have ending := triple state fates holds
  generalize (program state fates).1 = outcome at ending ⊢
  cases outcome with
  | next result => exact next _ _ ending
  | exit result => exact exit _ _ ending
  | raised exception => exact raised _ _ ending

theorem Triple.value
    {result : α}
    (holds : ∀ state, pre state → post.next result state) :
    Triple pre (Program.value result : Program φ σ ρ ε α) post :=
  fun state _ given => holds state given

theorem Triple.exit
    {result : ρ}
    (holds : ∀ state, pre state → post.exit result state) :
    Triple pre (Program.exit result : Program φ σ ρ ε α) post :=
  fun state _ given => holds state given

theorem Triple.raise
    {exception : ε}
    (holds : ∀ state, pre state → post.raised exception state) :
    Triple pre (Program.raise exception : Program φ σ ρ ε α) post :=
  fun state _ given => holds state given

theorem Triple.modify
    {post : Post σ ρ ε Unit}
    {change : σ → σ}
    (holds : ∀ state, pre state → post.next () (change state)) :
    Triple pre (Program.modify change : Program φ σ ρ ε Unit) post :=
  fun state _ given => holds state given

theorem Triple.inspect
    {view : σ → α}
    (holds : ∀ state, pre state → post.next (view state) state) :
    Triple pre (Program.inspect view : Program φ σ ρ ε α) post :=
  fun state _ given => holds state given

/-- An await is right when every reaction is. -/
theorem Triple.await
    {default : φ}
    {react : φ → σ → Outcome ρ ε α × σ}
    (holds : ∀ fate state, pre state →
      post.holds (react fate state).1 (react fate state).2) :
    Triple pre (Program.await default react) post :=
  fun state fates given => holds (fates.headD default) state given

/-- Sequencing: the first program establishes what the second one needs. -/
theorem Triple.andThen
    {post : Post σ ρ ε β}
    {first : Program φ σ ρ ε α}
    {rest : α → Program φ σ ρ ε β}
    (middle : α → σ → Prop)
    (firstTriple : Triple pre first ⟨middle, post.exit, post.raised⟩)
    (restTriple : ∀ result, Triple (middle result) (rest result) post) :
    Triple pre (Program.andThen first rest) post := by
  intro state fates given
  have ending := firstTriple state fates given
  unfold Program.andThen
  cases run : first state fates with
  | mk outcome others =>
      rw [run] at ending
      cases outcome with
      | next result => exact restTriple result _ _ ending
      | exit result => exact ending
      | raised exception => exact ending

/-- A handler must be right for what the body leaves behind when it raises. -/
theorem Triple.catching
    {body : Program φ σ ρ ε α}
    {handler : ε → Option (Program φ σ ρ ε α)}
    (raised : ε → σ → Prop)
    (bodyTriple : Triple pre body ⟨post.next, post.exit, raised⟩)
    (caught : ∀ exception continuation, handler exception = some continuation →
      Triple (raised exception) continuation post)
    (uncaught : ∀ exception, handler exception = none →
      ∀ state, raised exception state → post.raised exception state) :
    Triple pre (Program.catching body handler) post := by
  intro state fates given
  have ending := bodyTriple state fates given
  unfold Program.catching
  cases run : body state fates with
  | mk outcome others =>
      rw [run] at ending
      cases outcome with
      | next result => exact ending
      | exit result => exact ending
      | raised exception =>
          cases choice : handler exception with
          | none =>
              simp only [choice]
              exact uncaught exception choice _ ending
          | some continuation =>
              simp only [choice]
              exact caught exception continuation choice _ _ ending

/-- A final block must keep what holds for the ending, and be right itself when it
does not complete. -/
theorem Triple.ensuring
    {body : Program φ σ ρ ε α}
    {cleanup : Program φ σ ρ ε Unit}
    (reached : Post σ ρ ε α)
    (bodyTriple : Triple pre body reached)
    (cleanupTriple : ∀ ending, Triple (reached.holds ending) cleanup
      ⟨fun _ => post.holds ending, post.exit, post.raised⟩) :
    Triple pre (Program.ensuring body cleanup) post := by
  intro state fates given
  have ending := bodyTriple state fates given
  unfold Program.ensuring
  cases run : body state fates with
  | mk outcome others =>
      obtain ⟨after, left⟩ := others
      rw [run] at ending
      have final := cleanupTriple outcome after left ending
      dsimp only
      cases clean : cleanup after left with
      | mk finish rest =>
          rw [clean] at final
          cases finish with
          | next result => exact final
          | exit result => exact final
          | raised exception => exact final

/-- A context manager: entering establishes what the body needs, and leaving is
right for each ending of the body. -/
theorem Triple.within
    {enter leave leaveRaised : Program φ σ ρ ε Unit}
    {body : Program φ σ ρ ε α}
    (entered : σ → Prop)
    (reached : Post σ ρ ε α)
    (enterTriple : Triple pre enter ⟨fun _ => entered, post.exit, post.raised⟩)
    (bodyTriple : Triple entered body reached)
    (leaveNext : ∀ result, Triple (reached.next result) leave
      ⟨fun _ => post.next result, post.exit, post.raised⟩)
    (leaveExit : ∀ result, Triple (reached.exit result) leave
      ⟨fun _ => post.exit result, post.exit, post.raised⟩)
    (leaveRaise : ∀ exception, Triple (reached.raised exception) leaveRaised
      ⟨fun _ => post.raised exception, post.exit, post.raised⟩) :
    Triple pre (Program.within enter leave leaveRaised body) post := by
  refine Triple.andThen (fun _ => entered) enterTriple fun _ => ?_
  intro state fates given
  have ending := bodyTriple state fates given
  dsimp only
  cases run : body state fates with
  | mk outcome others =>
      obtain ⟨after, left⟩ := others
      rw [run] at ending
      have keep : ∀ {cleanup : Program φ σ ρ ε Unit} {kept : Outcome ρ ε α},
          Triple (fun state => state = after) cleanup
            ⟨fun _ => post.holds kept, post.exit, post.raised⟩ →
          post.holds
            (Program.ensuring (fun state fates => (kept, state, fates)) cleanup
              after left).1
            (Program.ensuring (fun state fates => (kept, state, fates)) cleanup
              after left).2.1 := by
        intro cleanup kept triple
        have final := triple after left rfl
        unfold Program.ensuring
        dsimp only
        cases clean : cleanup after left with
        | mk finish rest =>
            rw [clean] at final
            cases finish with
            | next result => exact final
            | exit result => exact final
            | raised exception => exact final
      cases outcome with
      | next result =>
          exact keep ((leaveNext result).weaken fun _ same => same ▸ ending)
      | exit result =>
          exact keep ((leaveExit result).weaken fun _ same => same ▸ ending)
      | raised exception =>
          exact keep ((leaveRaise exception).weaken fun _ same => same ▸ ending)

/-- A loop keeps an invariant when each round does. -/
theorem Triple.forEach
    {post : Post σ ρ ε Unit}
    {items : List β}
    {body : β → Program φ σ ρ ε Unit}
    (invariant : σ → Prop)
    (starts : ∀ state, pre state → invariant state)
    (round : ∀ item, Triple invariant (body item)
      ⟨fun _ => invariant, post.exit, post.raised⟩)
    (finished : ∀ state, invariant state → post.next () state) :
    Triple pre (Program.forEach items body) post := by
  refine Triple.weaken ?_ starts
  induction items with
  | nil => exact Triple.value finished
  | cons item rest inductionHypothesis =>
      exact Triple.andThen (fun _ => invariant) (round item)
        fun _ => inductionHypothesis

/-- A loop over a list ends with what each round adds to what the rounds before it
left. -/
theorem Triple.forEachDone
    {exit : ρ → σ → Prop}
    {raised : ε → σ → Prop}
    {items : List β}
    {body : β → Program φ σ ρ ε Unit}
    (invariant : List β → σ → Prop)
    (round : ∀ done item rest, items = done ++ item :: rest →
      Triple (invariant done) (body item)
        ⟨fun _ => invariant (done ++ [item]), exit, raised⟩) :
    Triple (invariant []) (Program.forEach items body)
      ⟨fun _ => invariant items, exit, raised⟩ := by
  have fromHere : ∀ rest done, items = done ++ rest →
      Triple (invariant done) (Program.forEach rest body)
        ⟨fun _ => invariant items, exit, raised⟩ := by
    intro rest
    induction rest with
    | nil =>
        intro done split
        rw [split, List.append_nil]
        exact Triple.value fun _ holds => holds
    | cons item rest inductionHypothesis =>
        intro done split
        refine Triple.andThen (fun _ => invariant (done ++ [item]))
          (round done item rest split) fun _ => ?_
        exact inductionHypothesis (done ++ [item]) (by rw [split, List.append_assoc]; rfl)
  exact fromHere items [] rfl

end Program
end ChatPlatform
