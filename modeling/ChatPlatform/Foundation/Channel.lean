import Mathlib.Data.List.Infix

/-!
# One producer and one consumer over an unbounded queue

A producer puts items into a first-in first-out queue; a consumer takes them out
until it meets the stop marker. The two run in any interleaving. When the producer
on its own puts some items, then one marker, and halts, every run ends, the
consumer receives exactly these items, and at any moment it has received a prefix
of them.
-/

namespace ChatPlatform
namespace Channel

/-- What a queue holds. -/
inductive Item (α : Type)
  | chunk (value : α)
  | stop
  deriving DecidableEq

variable {σ α : Type}

/-- What a run of the producer alone puts into the queue, where it halts, and in
how many steps. -/
inductive Emits (next : σ → Option (List (Item α) × σ)) :
    σ → List (Item α) → σ → Nat → Prop
  /-- A halted producer puts nothing. -/
  | halted {state : σ} (finished : next state = none) : Emits next state [] state 0
  /-- A step puts its items in front of the later ones. -/
  | step {state after final : σ} {items later : List (Item α)} {steps : Nat}
      (moves : next state = some (items, after))
      (rest : Emits next after later final steps) :
      Emits next state (items ++ later) final (steps + 1)

/-- The producer, the queue, and what the consumer has taken out of it. -/
structure Pipe (σ α : Type) where
  /-- State of the producer. -/
  producer : σ
  /-- Items put and not yet taken. -/
  queue : List (Item α)
  /-- Values the consumer received. -/
  received : List α
  /-- Whether the consumer met the stop marker. -/
  closed : Bool

/-- The pipe before anything happens. -/
def Pipe.start (producer : σ) : Pipe σ α := ⟨producer, [], [], false⟩

/-- Everything the consumer took, in order. -/
def Pipe.taken (pipe : Pipe σ α) : List (Item α) :=
  pipe.received.map .chunk ++ if pipe.closed then [.stop] else []

/-- One step of either side. -/
inductive Step (next : σ → Option (List (Item α) × σ)) :
    Pipe σ α → Pipe σ α → Prop
  /-- The producer moves. -/
  | produce {pipe : Pipe σ α} {items : List (Item α)} {after : σ}
      (moves : next pipe.producer = some (items, after)) :
      Step next pipe { pipe with producer := after, queue := pipe.queue ++ items }
  /-- The consumer receives a value. -/
  | receive {pipe : Pipe σ α} {value : α} {rest : List (Item α)}
      (isOpen : pipe.closed = false)
      (front : pipe.queue = .chunk value :: rest) :
      Step next pipe
        { pipe with queue := rest, received := pipe.received ++ [value] }
  /-- The consumer meets the stop marker. -/
  | close {pipe : Pipe σ α} {rest : List (Item α)}
      (isOpen : pipe.closed = false)
      (front : pipe.queue = .stop :: rest) :
      Step next pipe { pipe with queue := rest, closed := true }

/-- A run of a number of steps. -/
inductive Run (next : σ → Option (List (Item α) × σ)) :
    Nat → Pipe σ α → Pipe σ α → Prop
  /-- The run without steps. -/
  | refl (pipe : Pipe σ α) : Run next 0 pipe pipe
  /-- One step more. -/
  | tail {steps : Nat} {first middle last : Pipe σ α}
      (earlier : Run next steps first middle)
      (step : Step next middle last) : Run next (steps + 1) first last

/-- Neither side can move. -/
def Stuck (next : σ → Option (List (Item α) × σ)) (pipe : Pipe σ α) : Prop :=
  ∀ after, ¬ Step next pipe after

variable {next : σ → Option (List (Item α) × σ)}

/-- What holds throughout a run of `done` steps when the producer was to put
`items` in `total` steps: taken, queued and still to be put make up `items`, and
what is left of both bounds the steps to come. -/
private def Accounts
    (next : σ → Option (List (Item α) × σ))
    (items : List (Item α))
    (final : σ)
    (total done : Nat)
    (pipe : Pipe σ α) : Prop :=
  ∃ later left, Emits next pipe.producer later final left ∧
    pipe.taken ++ pipe.queue ++ later = items ∧
      done + left + (pipe.queue ++ later).length = total + items.length

private theorem accounts_step
    {items : List (Item α)}
    {final : σ}
    {total done : Nat}
    {pipe after : Pipe σ α}
    (accounts : Accounts next items final total done pipe)
    (step : Step next pipe after) :
    Accounts next items final total (done + 1) after := by
  obtain ⟨later, left, emits, sum, count⟩ := accounts
  cases step with
  | produce moves =>
      cases emits with
      | halted finished => rw [finished] at moves; cases moves
      | step moved rest =>
          rw [moves] at moved
          cases moved
          refine ⟨_, _, rest, ?_, ?_⟩
          · simpa [Pipe.taken] using sum
          · simp only [List.length_append] at count ⊢
            omega
  | receive isOpen front =>
      refine ⟨later, left, emits, ?_, ?_⟩
      · simpa [Pipe.taken, isOpen, front] using sum
      · simp only [front, List.cons_append, List.length_cons] at count
        dsimp only
        omega
  | close isOpen front =>
      refine ⟨later, left, emits, ?_, ?_⟩
      · simpa [Pipe.taken, isOpen, front] using sum
      · simp only [front, List.cons_append, List.length_cons] at count
        dsimp only
        omega

private theorem accounts_of_run
    {items : List (Item α)}
    {start final : σ}
    {total done : Nat}
    {pipe : Pipe σ α}
    (emits : Emits next start items final total)
    (run : Run next done (Pipe.start start) pipe) :
    Accounts next items final total done pipe := by
  generalize begins : Pipe.start start = first at run
  induction run with
  | refl pipe =>
      subst begins
      exact ⟨items, total, emits, rfl, by simp [Pipe.start]⟩
  | tail _ step inductionHypothesis =>
      exact accounts_step (inductionHypothesis begins) step

/-- What a consumer takes is at any moment a prefix of what the producer puts. -/
theorem taken_prefix
    {items : List (Item α)}
    {start final : σ}
    {total done : Nat}
    {pipe : Pipe σ α}
    (emits : Emits next start items final total)
    (run : Run next done (Pipe.start start) pipe) :
    pipe.taken ++ pipe.queue <+: items := by
  obtain ⟨later, left, -, sum, -⟩ := accounts_of_run emits run
  exact ⟨later, sum⟩

/-- The producer of a running pipe still ends where it would have ended alone. -/
theorem producer_emits
    {items : List (Item α)}
    {start final : σ}
    {total done : Nat}
    {pipe : Pipe σ α}
    (emits : Emits next start items final total)
    (run : Run next done (Pipe.start start) pipe) :
    ∃ later left, Emits next pipe.producer later final left := by
  obtain ⟨later, left, rest, -, -⟩ := accounts_of_run emits run
  exact ⟨later, left, rest⟩

/-- Every run is at most as long as the producer's own run and the items it puts. -/
theorem run_bounded
    {items : List (Item α)}
    {start final : σ}
    {total done : Nat}
    {pipe : Pipe σ α}
    (emits : Emits next start items final total)
    (run : Run next done (Pipe.start start) pipe) :
    done ≤ total + items.length := by
  obtain ⟨later, left, -, -, count⟩ := accounts_of_run emits run
  omega

private theorem map_chunk_prefix
    {received values : List α}
    {rest : List (Item α)}
    (equal : received.map Item.chunk ++ rest =
      values.map Item.chunk ++ [Item.stop]) :
    received <+: values := by
  induction received generalizing values with
  | nil => exact List.nil_prefix
  | cons value others inductionHypothesis =>
      cases values with
      | nil => simp at equal
      | cons first more =>
          simp only [List.map_cons, List.cons_append, List.cons.injEq,
            Item.chunk.injEq] at equal
          rw [equal.1]
          exact List.cons_prefix_cons.mpr
            ⟨rfl, inductionHypothesis equal.2⟩

/-- The values received are at any moment a prefix of the values put. -/
theorem received_prefix
    {values : List α}
    {start final : σ}
    {total done : Nat}
    {pipe : Pipe σ α}
    (emits : Emits next start (values.map .chunk ++ [.stop]) final total)
    (run : Run next done (Pipe.start start) pipe) :
    pipe.received <+: values := by
  obtain ⟨rest, sum⟩ := taken_prefix emits run
  unfold Pipe.taken at sum
  rw [List.append_assoc, List.append_assoc] at sum
  exact map_chunk_prefix sum

private theorem eq_of_map_chunk_stop
    {received values : List α}
    {queue : List (Item α)}
    (equal : received.map Item.chunk ++ Item.stop :: queue =
      values.map Item.chunk ++ [Item.stop]) :
    received = values ∧ queue = [] := by
  induction received generalizing values with
  | nil =>
      cases values with
      | nil => simpa using equal
      | cons first more => simp at equal
  | cons value others inductionHypothesis =>
      cases values with
      | nil => simp at equal
      | cons first more =>
          simp only [List.map_cons, List.cons_append, List.cons.injEq,
            Item.chunk.injEq] at equal
          obtain ⟨same, empty⟩ := inductionHypothesis equal.2
          exact ⟨by rw [equal.1, same], empty⟩

/-- A pipe that cannot move has a halted producer and a consumer that is closed or
faces an empty queue. -/
private theorem halted_of_stuck
    {pipe : Pipe σ α}
    (stuck : Stuck next pipe) :
    next pipe.producer = none ∧ (pipe.closed = true ∨ pipe.queue = []) := by
  constructor
  · cases moves : next pipe.producer with
    | none => rfl
    | some result => exact absurd (.produce moves) (stuck _)
  · cases closed : pipe.closed with
    | true => exact Or.inl rfl
    | false =>
        cases front : pipe.queue with
        | nil => exact Or.inr rfl
        | cons item rest =>
            cases item with
            | chunk value => exact absurd (.receive closed front) (stuck _)
            | stop => exact absurd (.close closed front) (stuck _)

/-- A pipe that cannot move has delivered all values, has met the marker, has an
empty queue, and its producer has halted. -/
theorem delivered_of_stuck
    {values : List α}
    {start final : σ}
    {total done : Nat}
    {pipe : Pipe σ α}
    (emits : Emits next start (values.map .chunk ++ [.stop]) final total)
    (run : Run next done (Pipe.start start) pipe)
    (stuck : Stuck next pipe) :
    pipe.received = values ∧ pipe.closed = true ∧ pipe.queue = [] ∧
      pipe.producer = final := by
  obtain ⟨later, left, rest, sum, -⟩ := accounts_of_run emits run
  obtain ⟨halted, settled⟩ := halted_of_stuck stuck
  cases rest with
  | step moves _ => rw [halted] at moves; cases moves
  | halted =>
      cases closed : pipe.closed with
      | true =>
          rw [List.append_nil, Pipe.taken, closed, if_pos rfl,
            List.append_assoc, List.singleton_append] at sum
          obtain ⟨same, empty⟩ := eq_of_map_chunk_stop sum
          exact ⟨same, rfl, empty, rfl⟩
      | false =>
          have empty : pipe.queue = [] := by
            rcases settled with isClosed | empty
            · rw [closed] at isClosed; cases isClosed
            · exact empty
          have marker : Item.stop ∈ pipe.received.map Item.chunk := by
            have := sum
            simp only [Pipe.taken, closed, empty, List.append_nil,
              Bool.false_eq_true, if_false] at this
            rw [this]
            simp
          simp at marker

end Channel
end ChatPlatform
