import ChatPlatform.Conversation.History
import Mathlib.Data.List.Nodup
import Mathlib.Data.List.Pairwise

/-!
# Turn grouping and the materialized window

Messages are grouped into turn units: a user message opens a turn and the
assistant message right after it closes it; any other transition gives a unit of
one message. The assembler's bound is moved back to the start of the unit it falls
into, and the well-formed units from there on are the materialized window. All
other units are returned as the complement; each of them, identified by the sequence
number of its opening message, is an event of the retrieval corpus.
-/

namespace ChatPlatform

/-- One grouped unit. -/
structure TurnUnit where
  /-- The messages of the unit in order. -/
  messages : List HistoryMessage
  /-- A unit holds at least one message. -/
  nonempty : messages ≠ []
  deriving DecidableEq

namespace TurnUnit

/-- A unit of one message. -/
def single (message : HistoryMessage) : TurnUnit := ⟨[message], by simp⟩

/-- A unit of two messages. -/
def pair (opening closing : HistoryMessage) : TurnUnit :=
  ⟨[opening, closing], by simp⟩

@[simp] theorem messages_single (message : HistoryMessage) :
    (single message).messages = [message] := rfl

@[simp] theorem messages_pair (opening closing : HistoryMessage) :
    (pair opening closing).messages = [opening, closing] := rfl

/-- Sequence number of the opening message. -/
def firstSequence (turn : TurnUnit) : Int :=
  (turn.messages.head turn.nonempty).sequence

/-- Exactly a user message followed by an assistant message. -/
def isWellFormed (turn : TurnUnit) : Bool :=
  match turn.messages with
  | [opening, closing] => opening.role = .user && closing.role = .assistant
  | _ => false

/-- The contents joined by line feeds. -/
def documentText (turn : TurnUnit) : Str :=
  Text.join ['\n'] (turn.messages.map (·.content))

/-- A well-formed unit is a user message and an assistant message. -/
theorem isWellFormed_iff (turn : TurnUnit) :
    turn.isWellFormed = true ↔
      ∃ opening closing, turn.messages = [opening, closing] ∧
        opening.role = .user ∧ closing.role = .assistant := by
  unfold isWellFormed
  constructor
  · intro wellFormed
    split at wellFormed
    · rename_i opening closing shape
      exact ⟨opening, closing, shape, by simpa using wellFormed⟩
    · exact absurd wellFormed (by simp)
  · rintro ⟨opening, closing, shape, user, assistant⟩
    simp [shape, user, assistant]

end TurnUnit

/-- The units of the bounded history, split into window and complement. -/
structure WindowPartition where
  /-- The messages of the window. -/
  window : List HistoryMessage
  /-- The units of the window. -/
  windowUnits : List TurnUnit
  /-- The units outside the window. -/
  excludedUnits : List TurnUnit
  /-- All units. -/
  grouped : List TurnUnit
  /-- How many units the snap brought back in. -/
  snappedInTurns : Nat

/-- Group messages into units; total on every input. -/
def groupTurns : List HistoryMessage → List TurnUnit
  | [] => []
  | [current] => [.single current]
  | current :: next :: rest =>
      if current.role = .user ∧ next.role = .assistant then
        .pair current next :: groupTurns rest
      else .single current :: groupTurns (next :: rest)

/-- Index of the unit that contains the sequence number, or of the first one
after it. -/
def indexOfUnitCovering (grouped : List TurnUnit) (sequence : Int) : Nat :=
  match grouped.findIdx? fun turn =>
      turn.messages.any fun message => message.sequence = sequence with
  | some index => index
  | none =>
      match grouped.findIdx? fun turn => sequence ≤ turn.firstSequence with
      | some index => index
      | none => grouped.length

/-- Group once, snap the bound back to the start of a unit, then keep the
well-formed units. `none` stands for the `IndexError` of an empty span. -/
def buildMaterializedWindow
    (allMessages boundedMessages : List HistoryMessage) :
    Option WindowPartition :=
  let grouped := groupTurns allMessages
  match grouped, boundedMessages with
  | [], _ | _, [] => some ⟨[], [], grouped, grouped, 0⟩
  | _ :: _, bound :: _ =>
      let snapIndex := indexOfUnitCovering grouped bound.sequence
      let snappedSpan := grouped.drop snapIndex
      match snappedSpan with
      | [] => none
      | first :: _ =>
          let windowUnits := snappedSpan.filter (·.isWellFormed)
          some
            { window := windowUnits.flatMap (·.messages)
              windowUnits
              excludedUnits := grouped.take snapIndex ++
                snappedSpan.filter (!·.isWellFormed)
              grouped
              snappedInTurns :=
                if first.firstSequence < bound.sequence then 1 else 0 }

/-- Concatenating the units gives the messages back, in order. -/
theorem flatMap_groupTurns (messages : List HistoryMessage) :
    (groupTurns messages).flatMap (·.messages) = messages := by
  induction messages using groupTurns.induct with
  | case1 => rfl
  | case2 current => rfl
  | case3 current next rest closes inductionHypothesis =>
      simp [groupTurns, closes, inductionHypothesis]
  | case4 current next rest apart inductionHypothesis =>
      simp [groupTurns, apart, inductionHypothesis]

/-- A unit has at most two messages. -/
theorem length_le_two_of_mem_groupTurns
    {messages : List HistoryMessage}
    {turn : TurnUnit}
    (present : turn ∈ groupTurns messages) : turn.messages.length ≤ 2 := by
  induction messages using groupTurns.induct with
  | case1 => simp [groupTurns] at present
  | case2 current =>
      rw [groupTurns, List.mem_singleton] at present
      simp [present]
  | case3 current next rest closes inductionHypothesis =>
      rw [groupTurns, if_pos closes, List.mem_cons] at present
      rcases present with rfl | inRest
      · simp
      · exact inductionHypothesis inRest
  | case4 current next rest apart inductionHypothesis =>
      rw [groupTurns, if_neg apart, List.mem_cons] at present
      rcases present with rfl | inRest
      · simp
      · exact inductionHypothesis inRest

/-- Every message of one unit precedes every message of the other. -/
def TurnUnit.Before (earlier later : TurnUnit) : Prop :=
  ∀ left ∈ earlier.messages, ∀ right ∈ later.messages,
    left.sequence < right.sequence

/-- The units of an ordered history are ordered. -/
theorem groupTurns_pairwise
    {messages : List HistoryMessage}
    (increasing : StrictlyIncreasing messages) :
    (groupTurns messages).Pairwise TurnUnit.Before := by
  have flat := increasing
  rw [← flatMap_groupTurns messages] at flat
  exact (List.pairwise_flatMap.mp flat).2

/-- A unit does not precede itself, so ordered units are distinct. -/
theorem nodup_of_pairwise_before
    {units : List TurnUnit}
    (ordered : units.Pairwise TurnUnit.Before) : units.Nodup :=
  ordered.imp fun {turn other} before equal => by
    subst equal
    have opening := List.head_mem turn.nonempty
    exact Int.lt_irrefl _ (before _ opening _ opening)

/-! ## The snap -/

private theorem findIdx?_append_of_first
    {α : Type}
    {p : α → Bool}
    {before after : List α}
    {found : α}
    (skipped : ∀ item ∈ before, p item = false)
    (hit : p found = true) :
    (before ++ found :: after).findIdx? p = some before.length := by
  induction before with
  | nil => simp [List.findIdx?_cons, hit]
  | cons head rest inductionHypothesis =>
      have tail := inductionHypothesis fun item present =>
        skipped item (List.mem_cons_of_mem _ present)
      simp [List.findIdx?_cons, skipped head (by simp), tail]

/-- A list with an element that satisfies a test splits at the first one. -/
private theorem exists_first
    {α : Type}
    {p : α → Bool}
    {items : List α}
    (hit : ∃ item ∈ items, p item = true) :
    ∃ before found after, items = before ++ found :: after ∧
      p found = true ∧ ∀ item ∈ before, p item = false := by
  induction items with
  | nil => simp at hit
  | cons head rest inductionHypothesis =>
      cases headHit : p head with
      | true => exact ⟨[], head, rest, rfl, headHit, by simp⟩
      | false =>
          obtain ⟨item, present, itemHit⟩ := hit
          have inRest : item ∈ rest := by
            rcases List.mem_cons.mp present with rfl | inRest
            · rw [headHit] at itemHit
              cases itemHit
            · exact inRest
          obtain ⟨before, found, after, rfl, foundHit, skipped⟩ :=
            inductionHypothesis ⟨item, inRest, itemHit⟩
          refine ⟨head :: before, found, after, rfl, foundHit, ?_⟩
          intro other inBefore
          rcases List.mem_cons.mp inBefore with rfl | inTail
          · exact headHit
          · exact skipped other inTail

/-- The snap lands on the first unit that holds the bound's sequence number. -/
theorem snap_spec
    {grouped : List TurnUnit}
    {sequence : Int}
    (covered : ∃ turn ∈ grouped, ∃ message ∈ turn.messages,
      message.sequence = sequence) :
    ∃ before turn after, grouped = before ++ turn :: after ∧
      indexOfUnitCovering grouped sequence = before.length ∧
      ∃ message ∈ turn.messages, message.sequence = sequence := by
  have hit : ∃ turn ∈ grouped, turn.messages.any
      (fun message => message.sequence = sequence) = true := by
    obtain ⟨turn, present, message, inside, equal⟩ := covered
    exact ⟨turn, present, List.any_eq_true.mpr ⟨message, inside, by simpa⟩⟩
  obtain ⟨before, turn, after, rfl, foundHit, skipped⟩ := exists_first hit
  refine ⟨before, turn, after, rfl, ?_, by simpa using foundHit⟩
  unfold indexOfUnitCovering
  rw [findIdx?_append_of_first skipped foundHit]

/-! ## The retrieval corpus -/

/-- One selectable unit of the corpus. -/
structure CorpusEvent where
  /-- Sequence number of the opening message. -/
  eventId : Int
  /-- The unit itself. -/
  turn : TurnUnit
  deriving DecidableEq

namespace CorpusEvent

/-- The text of the unit. -/
def documentText (event : CorpusEvent) : Str := event.turn.documentText

/-- The event of one unit. -/
def ofTurn (turn : TurnUnit) : CorpusEvent := ⟨turn.firstSequence, turn⟩

end CorpusEvent

/-- The corpus ranked for retrieval. -/
structure RetrievalCorpus where
  /-- The selectable units in history order. -/
  events : List CorpusEvent

namespace RetrievalCorpus

/-- Whether there is nothing to select from. -/
def isEmpty (corpus : RetrievalCorpus) : Bool := corpus.events.isEmpty

/-- The corpus of a partition: one event for each excluded unit. -/
def fromPartition (partition : WindowPartition) : RetrievalCorpus :=
  ⟨partition.excludedUnits.map CorpusEvent.ofTurn⟩

/-- The messages held by the events. -/
def messages (corpus : RetrievalCorpus) : List HistoryMessage :=
  corpus.events.flatMap fun event => event.turn.messages

@[simp] theorem messages_fromPartition (partition : WindowPartition) :
    (fromPartition partition).messages =
      partition.excludedUnits.flatMap (·.messages) := by
  simp [messages, fromPartition, CorpusEvent.ofTurn, List.flatMap_map]

end RetrievalCorpus
end ChatPlatform
