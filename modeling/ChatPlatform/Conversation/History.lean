import ChatPlatform.Foundation.Text
import ChatPlatform.Foundation.Trim
import Mathlib.Data.List.Nodup

/-!
# Stored conversation history

The messages of one conversation as the history port delivers them, and the
assembler that validates their order and bounds their number and size. The
sequence number is the only ordering key.
-/

namespace ChatPlatform

/-- Author of a message. -/
inductive Role
  | system
  | user
  | assistant
  deriving DecidableEq, Repr

/-- One message as a provider receives it. -/
structure ChatMessage where
  /-- Author of the message. -/
  role : Role
  /-- Text of the message. -/
  content : Str
  deriving DecidableEq, Repr

/-- One persisted message of a conversation. -/
structure HistoryMessage where
  /-- The ordering key. -/
  sequence : Int
  /-- Author of the message. -/
  role : Role
  /-- Text of the message. -/
  content : Str
  deriving DecidableEq, Repr

/-- Bounded, ordered history; `truncated` means that messages were dropped. -/
structure AssembledHistory where
  /-- The messages kept. -/
  messages : List HistoryMessage
  /-- How many messages the port delivered. -/
  totalAvailable : Nat
  /-- Whether some of them were dropped. -/
  truncated : Bool
  deriving DecidableEq, Repr

/-- A port delivered messages out of contract. -/
structure HistoryIntegrityError where
  /-- Sequence number of the earlier message. -/
  previous : Int
  /-- The sequence number after it, which is not larger. -/
  current : Int
  deriving DecidableEq, Repr

/-- Total number of characters. -/
def charCount (messages : List HistoryMessage) : Nat :=
  (messages.map fun message => message.content.length).sum

/-- `items[start:]` for a start counted from the end when it is negative. -/
def sliceFrom {α : Type} (items : List α) (start : Int) : List α :=
  if 0 ≤ start then items.drop start.toNat
  else items.drop (items.length - (-start).toNat)

/-- Strictly increasing sequence numbers. -/
def StrictlyIncreasing (messages : List HistoryMessage) : Prop :=
  messages.Pairwise fun earlier later => earlier.sequence < later.sequence

namespace ConversationHistoryAssembler

/-- Raise when a sequence number does not exceed the one before it. -/
def requireStrictlyIncreasing :
    List HistoryMessage → Except HistoryIntegrityError Unit
  | [] => .ok ()
  | [_] => .ok ()
  | previous :: current :: rest =>
      if current.sequence ≤ previous.sequence then
        .error ⟨previous.sequence, current.sequence⟩
      else requireStrictlyIncreasing (current :: rest)

/-- Drop the oldest message while more than one is left and the characters
exceed the cap. -/
def dropOldest (maxChars : Int) : List HistoryMessage → List HistoryMessage :=
  Trim.trimFront fun kept => maxChars < charCount kept

/-- The message cap, then the character cap; both drop from the oldest end. -/
def applyBounds
    (maxMessages maxChars : Int)
    (messages : List HistoryMessage) : List HistoryMessage :=
  dropOldest maxChars
    (if messages = [] then messages else sliceFrom messages (-maxMessages))

/-- Validate the delivered messages, then bound them. -/
def assemble
    (maxMessages maxChars : Int)
    (messages : List HistoryMessage) :
    Except HistoryIntegrityError AssembledHistory := do
  requireStrictlyIncreasing messages
  let kept := applyBounds maxMessages maxChars messages
  return ⟨kept, messages.length, decide (kept.length < messages.length)⟩

/-- The order check passes exactly on strictly increasing messages. -/
theorem requireStrictlyIncreasing_ok_iff (messages : List HistoryMessage) :
    requireStrictlyIncreasing messages = .ok () ↔
      StrictlyIncreasing messages := by
  unfold StrictlyIncreasing
  rw [← List.isChain_iff_pairwise]
  induction messages with
  | nil => simp [requireStrictlyIncreasing]
  | cons previous rest inductionHypothesis =>
      cases rest with
      | nil => simp [requireStrictlyIncreasing]
      | cons current others =>
          unfold requireStrictlyIncreasing
          rw [List.isChain_cons_cons, ← inductionHypothesis]
          split
          · rename_i notLarger
            simp only [reduceCtorEq, false_iff, not_and]
            omega
          · rename_i larger
            have less : previous.sequence < current.sequence := by omega
            simp [less]

/-- The bounds keep a suffix. -/
theorem applyBounds_suffix
    (maxMessages maxChars : Int)
    (messages : List HistoryMessage) :
    applyBounds maxMessages maxChars messages <:+ messages := by
  refine (Trim.trimFront_suffix _ _).trans ?_
  split
  · exact List.suffix_rfl
  · unfold sliceFrom
    split <;> exact List.drop_suffix _ _

/-- The bounds never drop everything. -/
theorem applyBounds_ne_nil
    {messages : List HistoryMessage}
    (nonempty : messages ≠ [])
    {maxMessages : Int}
    (positive : 0 < maxMessages)
    (maxChars : Int) : applyBounds maxMessages maxChars messages ≠ [] := by
  apply Trim.trimFront_ne_nil
  have length := List.length_pos_iff.mpr nonempty
  rw [if_neg nonempty, sliceFrom, if_neg (by omega)]
  intro dropped
  have := List.drop_eq_nil_iff.mp dropped
  omega

/-- On messages in order the assembler returns the bounded suffix. -/
theorem assemble_of_strictlyIncreasing
    {messages : List HistoryMessage}
    (increasing : StrictlyIncreasing messages)
    (maxMessages maxChars : Int) :
    assemble maxMessages maxChars messages =
      .ok ⟨applyBounds maxMessages maxChars messages, messages.length,
        decide ((applyBounds maxMessages maxChars messages).length <
          messages.length)⟩ := by
  have valid := (requireStrictlyIncreasing_ok_iff messages).mpr increasing
  simp [assemble, valid, bind, Except.bind, pure, Except.pure]

/-- On messages out of order the assembler raises. -/
theorem assemble_of_not_strictlyIncreasing
    {messages : List HistoryMessage}
    (outOfOrder : ¬StrictlyIncreasing messages)
    (maxMessages maxChars : Int) :
    ∃ failure, assemble maxMessages maxChars messages = .error failure := by
  cases check : requireStrictlyIncreasing messages with
  | ok _ => exact absurd ((requireStrictlyIncreasing_ok_iff messages).mp check) outOfOrder
  | error failure => exact ⟨failure, by simp [assemble, check, bind, Except.bind]⟩

end ConversationHistoryAssembler

/-- Strictly increasing messages are pairwise distinct. -/
theorem StrictlyIncreasing.nodup
    {messages : List HistoryMessage}
    (increasing : StrictlyIncreasing messages) : messages.Nodup :=
  increasing.imp fun less equal => by
    rw [equal] at less
    exact Int.lt_irrefl _ less

/-- A sequence number determines its message. -/
theorem StrictlyIncreasing.eq_of_sequence
    {messages : List HistoryMessage}
    (increasing : StrictlyIncreasing messages)
    {left right : HistoryMessage}
    (leftPresent : left ∈ messages)
    (rightPresent : right ∈ messages)
    (same : left.sequence = right.sequence) : left = right := by
  have distinct : (messages.map (·.sequence)).Nodup :=
    List.pairwise_map.mpr (increasing.imp fun less equal => by omega)
  exact List.inj_on_of_nodup_map distinct leftPresent rightPresent same

end ChatPlatform
