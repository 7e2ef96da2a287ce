import ChatPlatform.Foundation.Placement
import ChatPlatform.Foundation.Traversal
import ChatPlatform.Prompt.Cap
import ChatPlatform.Prompt.Envelopes
import ChatPlatform.SemanticMemory.Retrieval
import Mathlib.Data.List.Flatten

/-!
# What is delivered

Where the turns in scope are the units of one conversation, as the store is built, the items
that a retrieval reports are those it delivered: the turns of the window that stand whole in
their places, and the evidence that is sent. A turn is recognised by its place, so that a
text that occurs twice does not stand in for another one.
-/

namespace ChatPlatform
namespace SemanticMemory

/-! ## What delivery means -/

/-- The turns are the units of one conversation: they are numbered by their first messages,
name their messages as their sources, and no message occurs twice. -/
structure UnitTurns (turns : List Item) : Prop where
  /-- Grouping the messages gives the turns back. -/
  grouped : (groupTurns (turns.flatMap fun item => item.messages.map Message.toHistory)).map
    (·.messages) = turns.map fun item => item.messages.map Message.toHistory
  /-- A turn is numbered by its first message. -/
  numbered : ∀ item ∈ turns, ∀ first rest, item.messages = first :: rest →
    Numeral.intLiteral 10 item.itemId = some first.sequence
  /-- The sources of a turn are its messages. -/
  sources : ∀ item ∈ turns, item.sourceMessageIds = item.messages.map (·.messageId)
  /-- Messages have identifiers of their own. -/
  distinct : ((turns.flatMap (·.messages)).map (·.messageId)).Nodup

/-- The messages of a turn stand verbatim in the window, in their places counted from the
end. -/
def StandsComplete (windowTurns : List Item) (window : List ChatMessage) (item : Item) : Prop :=
  ∃ before after, windowTurns = before ++ item :: after ∧
    ∃ early late, window = early ++ item.messages.map Message.toChat ++ late ∧
      late.length = (after.flatMap (·.messages)).length

/-- Messages are those at the end of a whole, each with its role and perhaps with its content
cut. -/
def CutFromEnd (whole part : List ChatMessage) : Prop :=
  ∃ front back, whole = front ++ back ∧
    List.Forall₂ (fun message cut => cut.role = message.role ∧ cut.content <+: message.content)
      back part

section Shown

variable (F : Type) [FloatOps F]

/-- What is sent shows exactly these events: nothing where there are none, and otherwise one
line between the delimiters that is read as the events. -/
def Shows (rendered : Str) (events : List RetrievedMemoryEvent) : Prop :=
  if events = [] then rendered = []
  else ∃ line, Text.enclosed memoryOpeningLine memoryClosingLine
      (Text.splitAt '\n' rendered) = [line] ∧
    ReadsAs (F := F) line (events.map (·.providerDict))

/-- What a delivery reports was delivered, and nothing else. -/
structure Delivered
    (store : PooledStore)
    (case : Case)
    (step : Step)
    (windowTurns : List Item)
    (arm : Arm)
    (delivery : Delivery)
    (complete retained dropped : List Item) : Prop where
  /-- The delivery is the one of the arm. -/
  named : delivery.arm = arm.name
  /-- Turns of the window come first, then the evidence. -/
  items : delivery.items = complete ++ retained
  /-- The turns of the window are in their order. -/
  ordered : complete.Sublist windowTurns
  /-- A turn of the window is reported exactly when it stands complete in its place. -/
  credited : ∀ item ∈ windowTurns,
    item ∈ complete ↔ StandsComplete windowTurns delivery.window item
  /-- The window is cut from the turns of the window. -/
  placed : CutFromEnd ((windowTurns.flatMap (·.messages)).map Message.toChat) delivery.window
  /-- Facts and turns that were selected are retained or dropped, the last ones first. -/
  selected : arm.semantic ++ arm.evidence = retained ++ dropped
  /-- The evidence shows the full content of what is retained and nothing else. -/
  shown : ∃ events, retained.zipIdx.mapM (eventOf F arm.evidence) = .ok events ∧
    Shows F delivery.renderedEvidence events
  /-- The facts that were dropped are counted. -/
  factsDropped : delivery.factsDropped = (dropped.countP Item.isFact : Nat)
  /-- Everything is of the conversation and before the question. -/
  inScope : ∀ item ∈ delivery.items, item ∈ store.items ∧ item.tenantId = case.tenantId ∧
    item.conversationId = case.conversationId ∧ item.sourceSequence < step.afterSequence + 1

end Shown

/-! ## Cuts -/

namespace CutFromEnd

/-- What is cut from a cut is cut from the whole. -/
theorem trans
    {whole middle part : List ChatMessage}
    (early : CutFromEnd whole middle)
    (late : CutFromEnd middle part) : CutFromEnd whole part := by
  obtain ⟨front, back, rfl, cut⟩ := early
  obtain ⟨otherFront, otherBack, rfl, otherCut⟩ := late
  refine ⟨front ++ back.take otherFront.length, back.drop otherFront.length, ?_, ?_⟩
  · rw [List.append_assoc, List.take_append_drop]
  · refine Traversal.forall₂_comp ?_ (List.forall₂_drop_append _ _ _ cut) otherCut
    rintro message one other ⟨sameRole, shorter⟩ ⟨otherRole, otherShorter⟩
    exact ⟨otherRole.trans sameRole, otherShorter.trans shorter⟩

theorem length_le
    {whole part : List ChatMessage}
    (cut : CutFromEnd whole part) : part.length ≤ whole.length := by
  obtain ⟨front, back, rfl, paired⟩ := cut
  rw [← paired.length_eq, List.length_append]
  exact Nat.le_add_left _ _

/-- A packing is cut from the end of the exchanges. -/
theorem of_packing
    {pairs : List (Str × Str)}
    {messages : List ChatMessage}
    (packing : IsPackingOf pairs messages) : CutFromEnd (exchanges pairs) messages := by
  have split : ∀ front back : List (Str × Str),
      exchanges (front ++ back) = exchanges front ++ exchanges back := by
    intro front back
    exact List.flatMap_append
  cases packing with
  | suffix kept recent =>
      obtain ⟨front, rfl⟩ := recent
      exact ⟨_, _, split front kept, List.forall₂_same.mpr fun _ _ => ⟨rfl, List.prefix_rfl⟩⟩
  | cut last recent cutPair user assistant =>
      obtain ⟨front, rfl⟩ := recent
      refine ⟨_, _, split front [last], ?_⟩
      exact .cons ⟨rfl, user⟩ (.cons ⟨rfl, assistant⟩ .nil)

end CutFromEnd

/-- Exchanges are even in number. -/
theorem length_exchanges (pairs : List (Str × Str)) :
    (exchanges pairs).length = 2 * pairs.length := by
  induction pairs with
  | nil => rfl
  | cons pair rest inductionHypothesis =>
      rw [exchanges_cons, List.length_append, inductionHypothesis, List.length_cons]
      change 2 + _ = _
      omega

/-- A packing of exchanges is exchanges. -/
theorem length_packing
    {pairs : List (Str × Str)}
    {messages : List ChatMessage}
    (packing : IsPackingOf pairs messages) :
    ∃ kept, messages = exchanges kept ∧ kept.length ≤ pairs.length := by
  obtain ⟨kept, same, -⟩ := packing.exists_exchanges
  refine ⟨kept, same, ?_⟩
  have shorter := (CutFromEnd.of_packing packing).length_le
  rw [same, length_exchanges, length_exchanges] at shorter
  omega

/-! ## The evidence -/

section Evidence

variable {F : Type} [FloatOps F]

/-- The text of some events shows them. -/
theorem shows_renderedEvents
    [Json.ReadableFloats F]
    {events : List RetrievedMemoryEvent}
    (nonempty : events ≠ []) : Shows F (renderedEvents F events) events := by
  have flat : ∀ event ∈ events.map (RetrievedMemoryEvent.providerDict (F := F)),
      Json.FlatRecord event := by
    intro record held
    obtain ⟨event, -, rfl⟩ := List.mem_map.mp held
    constructor
    · simp [RetrievedMemoryEvent.providerDict]
    · intro entry inRecord
      simp only [RetrievedMemoryEvent.providerDict, List.mem_cons, List.not_mem_nil,
        or_false] at inRecord
      rcases inRecord with rfl | rfl
      · rfl
      · rfl
  unfold Shows
  rw [if_neg nonempty]
  refine ⟨_, enclosed_renderMemoryEventsBlock flat, fun reading => ?_⟩
  have blank : ∀ c ∈ ([] : Str), Json.isBlank c = true := by simp
  exact Json.loads_records reading false flat blank

/-- What a packing returns. -/
theorem packDelivery_eq_ok
    {arm : Str}
    {window : List ChatMessage}
    {windowItems episodic facts : List Item}
    {question : Str}
    {maxChars : Int}
    {delivery : Delivery}
    (done : packDelivery F arm window windowItems episodic facts question maxChars =
      .ok delivery) :
    ∃ events, (facts ++ episodic).zipIdx.mapM (eventOf F episodic) = .ok events ∧
      ∃ packed, packed = (enforceAddedContextCap F
          { messages := window, retrievedEvents := events } {} question maxChars).1 ∧
        delivery.arm = arm ∧
        delivery.window = packed.messages ∧
        delivery.items = completeWindow windowItems packed.messages ++
          (facts ++ episodic).take packed.retrievedEvents.length ∧
        delivery.renderedEvidence =
          (if ((facts ++ episodic).take packed.retrievedEvents.length).isEmpty then []
            else renderedEvents F packed.retrievedEvents) ∧
        delivery.factsDropped = (facts.length : Int) -
          ((facts ++ episodic).take packed.retrievedEvents.length).countP Item.isFact := by
  unfold packDelivery at done
  obtain ⟨events, isEvents, done⟩ := Traversal.exists_of_bind_eq_ok done
  cases done
  exact ⟨events, isEvents, _, rfl, rfl, rfl, rfl, rfl, rfl⟩

theorem zipIdx_take {α : Type} (items : List α) (count : Nat) :
    (items.take count).zipIdx = items.zipIdx.take count := by
  apply List.ext_getElem?
  intro place
  rw [List.getElem?_zipIdx, List.getElem?_take, List.getElem?_take, List.getElem?_zipIdx]
  split
  · rfl
  · rfl

/-- What is retained of a selection is shown, and the facts that are dropped are counted. -/
theorem evidence_of_packDelivery
    [Json.ReadableFloats F]
    {episodic facts : List Item}
    {events kept : List RetrievedMemoryEvent}
    (isEvents : (facts ++ episodic).zipIdx.mapM (eventOf F episodic) = .ok events)
    (isKept : kept <+: events) :
    ((facts ++ episodic).take kept.length).zipIdx.mapM (eventOf F episodic) = .ok kept ∧
      Shows F (if ((facts ++ episodic).take kept.length).isEmpty then []
        else renderedEvents F kept) kept := by
  have sameLength : (facts ++ episodic).length = events.length := by
    rw [← (Traversal.forall₂_of_mapM isEvents).length_eq, List.length_zipIdx]
  have firstEvents : events.take kept.length = kept := (List.prefix_iff_eq_take.mp isKept).symm
  constructor
  · rw [zipIdx_take, Traversal.mapM_take isEvents, firstEvents]
  · have length : ((facts ++ episodic).take kept.length).length = kept.length := by
      rw [List.length_take, sameLength]
      exact Nat.min_eq_left isKept.length_le
    cases kept with
    | nil => rfl
    | cons event rest =>
        have nonempty : ((facts ++ episodic).take (event :: rest).length).isEmpty = false := by
          rw [List.isEmpty_eq_false_iff, ← List.length_pos_iff, length]
          exact Nat.succ_pos _
        rw [nonempty]
        exact shows_renderedEvents (List.cons_ne_nil _ _)

end Evidence

/-! ## The turns of the window -/

/-- Whether a message is delivered as it is. -/
def sameText (message : Message) (delivered : ChatMessage) : Bool :=
  message.role = delivered.role && message.content = delivered.content

theorem completeIds_eq (messages : List Message) (delivered : List ChatMessage) :
    completeIds messages delivered =
      Placement.inPlace (·.messageId) sameText messages delivered := rfl

theorem forall₂_sameText_iff {messages : List Message} {delivered : List ChatMessage} :
    List.Forall₂ (fun message text => sameText message text = true) messages delivered ↔
      delivered = messages.map Message.toChat := by
  have same : ∀ (message : Message) (text : ChatMessage),
      sameText message text = true ↔ text = message.toChat := by
    intro message text
    obtain ⟨role, content⟩ := text
    simp only [sameText, Message.toChat, Bool.and_eq_true, decide_eq_true_eq, ChatMessage.mk.injEq]
    exact and_congr eq_comm eq_comm
  constructor
  · intro paired
    induction paired with
    | nil => rfl
    | cons first _ inductionHypothesis =>
        rw [List.map_cons, inductionHypothesis, (same _ _).mp first]
  · rintro rfl
    rw [List.forall₂_map_right_iff, List.forall₂_same]
    exact fun message _ => (same _ _).mpr rfl

/-- A turn stands complete exactly when its messages are delivered whole in their place. -/
theorem standsComplete_iff
    {windowTurns : List Item}
    {window : List ChatMessage}
    {item : Item} :
    StandsComplete windowTurns window item ↔
      ∃ before after, windowTurns = before ++ item :: after ∧
        Placement.DeliveredWhole sameText item.messages (after.flatMap (·.messages)) window := by
  unfold StandsComplete Placement.DeliveredWhole
  refine exists_congr fun before => exists_congr fun after => and_congr_right fun _ => ?_
  constructor
  · rintro ⟨early, late, split, length⟩
    exact ⟨early, _, late, split, forall₂_sameText_iff.mpr rfl, length⟩
  · rintro ⟨early, own, late, split, matched, length⟩
    rw [forall₂_sameText_iff.mp matched] at split
    exact ⟨early, late, split, length⟩

/-- The last turns of a window that is delivered up to some messages. -/
structure LastTurns (windowTurns windowItems : List Item) (delivered : List ChatMessage) :
    Prop where
  /-- They are last. -/
  last : windowItems <:+ windowTurns
  /-- A turn has two messages. -/
  pairs : ∀ item ∈ windowTurns, item.messages.length = 2
  /-- Nothing before them is delivered. -/
  covers : delivered.length ≤ 2 * windowItems.length
  /-- The sources of a turn are its messages. -/
  sources : ∀ item ∈ windowTurns, item.sourceMessageIds = item.messages.map (·.messageId)
  /-- Messages have identifiers of their own. -/
  distinct : ((windowTurns.flatMap (·.messages)).map (·.messageId)).Nodup

namespace LastTurns

variable {windowTurns windowItems : List Item} {delivered : List ChatMessage}

theorem length_messages
    (pairs : ∀ item ∈ windowTurns, item.messages.length = 2) :
    (windowTurns.flatMap (·.messages)).length = 2 * windowTurns.length := by
  induction windowTurns with
  | nil => rfl
  | cons item rest inductionHypothesis =>
      have others := inductionHypothesis fun other held => pairs other (List.mem_cons_of_mem _ held)
      rw [List.flatMap_cons, List.length_append, pairs item List.mem_cons_self, others,
        List.length_cons]
      omega

/-- The end of the messages of the last turns is the end of all messages. -/
theorem suffix_eq (lastTurns : LastTurns windowTurns windowItems delivered) :
    suffixOf (windowItems.flatMap (·.messages)) delivered =
      (windowTurns.flatMap (·.messages)).drop
        ((windowTurns.flatMap (·.messages)).length - delivered.length) := by
  obtain ⟨front, rfl⟩ := lastTurns.last
  have pairs := lastTurns.pairs
  rw [List.forall_mem_append] at pairs
  have length := length_messages pairs.2
  have covers := lastTurns.covers
  have isDrop : ((front ++ windowItems).flatMap (·.messages)).drop
      (((front ++ windowItems).flatMap (·.messages)).length - delivered.length) =
        (windowItems.flatMap (·.messages)).drop
          ((windowItems.flatMap (·.messages)).length - delivered.length) := by
    rw [List.flatMap_append, List.length_append, Nat.add_sub_assoc (by omega), List.drop_append]
    rw [List.drop_eq_nil_of_le (Nat.le_add_right _ _), Nat.add_sub_cancel_left]
    rfl
  rw [isDrop]
  cases delivered with
  | nil =>
      rw [List.length_nil, Nat.sub_zero, List.drop_length]
      rfl
  | cons text rest =>
      have start : (0 : Int) ≤ ((windowItems.flatMap (·.messages)).length : Int) -
          (text :: rest).length := by omega
      change sliceFrom _ _ = _
      rw [sliceFrom, if_pos start]
      congr 1
      omega

/-- A turn of the window that stands complete is one of the last ones. -/
theorem mem_of_standsComplete
    (lastTurns : LastTurns windowTurns windowItems delivered)
    {item : Item}
    (complete : StandsComplete windowTurns delivered item) : item ∈ windowItems := by
  obtain ⟨before, after, split, early, late, isDelivered, length⟩ := complete
  have pairs := lastTurns.pairs
  rw [split, List.forall_mem_append, List.forall_mem_cons] at pairs
  have afterLength := length_messages pairs.2.2
  have covers := lastTurns.covers
  have shorter : (item :: after).length ≤ windowItems.length := by
    rw [isDelivered, List.length_append, List.length_append, List.length_map, pairs.2.1,
      length, afterLength] at covers
    rw [List.length_cons]
    omega
  have isLast : item :: after <:+ windowTurns := ⟨before, split.symm⟩
  exact (List.suffix_of_suffix_length_le isLast lastTurns.last shorter).mem List.mem_cons_self

/-- Exactly the turns of the window that stand complete have all their sources among the
messages that are left in place. -/
theorem mem_completeWindow_iff
    (lastTurns : LastTurns windowTurns windowItems delivered)
    {item : Item}
    (held : item ∈ windowTurns) :
    item ∈ completeWindow windowItems delivered ↔
      StandsComplete windowTurns delivered item := by
  have shorter : delivered.length ≤ (windowTurns.flatMap (·.messages)).length := by
    rw [length_messages lastTurns.pairs]
    have fewer := lastTurns.last.length_le
    have covers := lastTurns.covers
    omega
  have nonempty : item.messages ≠ [] := by
    intro none
    have two := lastTurns.pairs item held
    rw [none] at two
    cases two
  have inPart : ∀ before after, windowTurns = before ++ item :: after →
      ((∀ message ∈ item.messages, message.messageId ∈
          completeIds ((windowTurns.flatMap (·.messages)).drop
            ((windowTurns.flatMap (·.messages)).length - delivered.length)) delivered) ↔
        Placement.DeliveredWhole sameText item.messages (after.flatMap (·.messages))
          delivered) := by
    intro before after split
    have messages : windowTurns.flatMap (·.messages) =
        before.flatMap (·.messages) ++ item.messages ++ after.flatMap (·.messages) := by
      rw [split, List.flatMap_append, List.flatMap_cons, List.append_assoc]
    have distinct := lastTurns.distinct
    rw [messages] at distinct shorter
    rw [messages, completeIds_eq]
    exact Placement.deliveredWhole_iff distinct nonempty shorter
  have sources : (item.sourceMessageIds.all fun id =>
      decide (id ∈ completeIds ((windowTurns.flatMap (·.messages)).drop
        ((windowTurns.flatMap (·.messages)).length - delivered.length)) delivered)) = true ↔
      ∀ message ∈ item.messages, message.messageId ∈
        completeIds ((windowTurns.flatMap (·.messages)).drop
          ((windowTurns.flatMap (·.messages)).length - delivered.length)) delivered := by
    rw [lastTurns.sources item held, List.all_map, List.all_eq_true]
    exact forall₂_congr fun message _ => decide_eq_true_iff
  rw [completeWindow, lastTurns.suffix_eq, List.mem_filter, sources]
  constructor
  · rintro ⟨-, all⟩
    obtain ⟨before, after, split⟩ := List.append_of_mem held
    exact standsComplete_iff.mpr ⟨before, after, split, (inPart before after split).mp all⟩
  · intro complete
    obtain ⟨before, after, split, whole⟩ := standsComplete_iff.mp complete
    exact ⟨lastTurns.mem_of_standsComplete complete, (inPart before after split).mpr whole⟩

end LastTurns

/-! ## The selection -/

/-- Lists of elements that are told apart by a view are equal when their views are. -/
theorem eq_of_map_eq
    {α β : Type}
    {view : α → β}
    {whole items others : List α}
    (distinct : (whole.map view).Nodup)
    (held : ∀ item ∈ items, item ∈ whole)
    (othersHeld : ∀ item ∈ others, item ∈ whole)
    (same : items.map view = others.map view) : items = others := by
  induction items generalizing others with
  | nil => exact (List.map_eq_nil_iff.mp same.symm).symm
  | cons item rest inductionHypothesis =>
      cases others with
      | nil => cases same
      | cons other later =>
          obtain ⟨head, tail⟩ := List.cons.inj same
          rw [List.forall_mem_cons] at held othersHeld
          rw [List.inj_on_of_nodup_map distinct held.1 othersHeld.1 head,
            inductionHypothesis held.2 othersHeld.2 tail]

/-- What is found under a number is a turn with that number. -/
theorem mem_of_lookUp
    {turns : List Item}
    {byId : List (Int × Item)}
    (built : itemsById turns = .ok byId)
    {key : Int}
    {item : Item}
    (found : lookUp byId key = .ok item) : item ∈ turns ∧ parseInt item.itemId = .ok key := by
  unfold itemsById at built
  obtain ⟨ids, isIds, built⟩ := Traversal.exists_of_bind_eq_ok built
  cases built
  have paired := (Traversal.forall₂_of_mapM isIds).flip
  unfold lookUp at found
  cases isFound : Keyed.find (Keyed.ofList (ids.zip turns)) key with
  | none =>
      rw [isFound] at found
      cases found
  | some entry =>
      rw [isFound] at found
      cases found
      have inPairs := Keyed.mem_of_mem_ofList (Keyed.mem_of_find isFound)
      exact ⟨(List.of_mem_zip inPairs).2, (List.forall₂_iff_zip.mp paired).2 inPairs⟩

/-- The units of a window are well-formed units of the history, in its order, and the window
is their messages. -/
theorem windowUnits_of_build
    {allMessages boundedMessages : List HistoryMessage}
    {partition : WindowPartition}
    (built : buildMaterializedWindow allMessages boundedMessages = some partition) :
    partition.windowUnits.Sublist (groupTurns allMessages) ∧
      (∀ turn ∈ partition.windowUnits, turn.isWellFormed = true) ∧
      partition.window = partition.windowUnits.flatMap (·.messages) := by
  unfold buildMaterializedWindow at built
  dsimp only at built
  split at built
  · cases built
    exact ⟨List.nil_sublist _, nofun, rfl⟩
  · cases built
    exact ⟨List.nil_sublist _, nofun, rfl⟩
  · split at built
    · cases built
    · cases built
      exact ⟨List.filter_sublist.trans (List.drop_sublist _ _),
        fun turn held => (List.mem_filter.mp held).2, rfl⟩

/-- A partition of turns is one of messages in order. -/
theorem partitionOf_eq_ok
    {items : List Item}
    {case : Case}
    {limits : Limits}
    {partition : WindowPartition}
    (done : partitionOf items case limits = .ok partition) :
    StrictlyIncreasing (items.flatMap fun item => item.messages.map Message.toHistory) ∧
      ∃ bounded, buildMaterializedWindow
        (items.flatMap fun item => item.messages.map Message.toHistory) bounded =
          some partition := by
  unfold partitionOf at done
  dsimp only at done
  split at done
  · cases done
  · split at done
    · cases done
    · split at done
      · cases done
      · rename_i bounded isBounded
        split at done
        · cases done
        · rename_i built isBuilt
          cases done
          refine ⟨?_, bounded.messages, isBuilt⟩
          by_contra outOfOrder
          obtain ⟨problem, failed⟩ :=
            ConversationHistoryAssembler.assemble_of_not_strictlyIncreasing outOfOrder
              limits.conversationHistoryMaxMessages limits.conversationHistoryMaxChars
          rw [isBounded] at failed
          cases failed

/-- Units of an ordered history with the same first message are the same. -/
theorem eq_of_firstSequence
    {messages : List HistoryMessage}
    (increasing : StrictlyIncreasing messages)
    {turn other : TurnUnit}
    (held : turn ∈ groupTurns messages)
    (otherHeld : other ∈ groupTurns messages)
    (same : turn.firstSequence = other.firstSequence) : turn = other := by
  have distinct : ((groupTurns messages).map TurnUnit.firstSequence).Nodup := by
    refine List.pairwise_map.mpr ((groupTurns_pairwise increasing).imp ?_)
    intro earlier later before equal
    have less := before _ (List.head_mem earlier.nonempty) _ (List.head_mem later.nonempty)
    exact absurd equal (Int.ne_of_lt less)
  exact List.inj_on_of_nodup_map distinct held otherHeld same

/-- The turn found under the number of a unit has its messages. -/
theorem messages_of_lookUp
    {turns : List Item}
    (unitTurns : UnitTurns turns)
    (increasing : StrictlyIncreasing
      (turns.flatMap fun item => item.messages.map Message.toHistory))
    {byId : List (Int × Item)}
    (built : itemsById turns = .ok byId)
    {turn : TurnUnit}
    (isUnit : turn ∈ groupTurns (turns.flatMap fun item => item.messages.map Message.toHistory))
    {item : Item}
    (found : lookUp byId turn.firstSequence = .ok item) :
    item.messages.map Message.toHistory = turn.messages := by
  obtain ⟨held, isNumber⟩ := mem_of_lookUp built found
  have viewed : item.messages.map Message.toHistory ∈
      (groupTurns (turns.flatMap fun item => item.messages.map Message.toHistory)).map
        (·.messages) := by
    rw [unitTurns.grouped]
    exact List.mem_map_of_mem held
  obtain ⟨other, isOther, same⟩ := List.mem_map.mp viewed
  obtain ⟨first, rest, isMessages⟩ : ∃ first rest, item.messages = first :: rest := by
    refine List.exists_cons_of_ne_nil fun none => other.nonempty ?_
    rw [same, none]
    rfl
  have isFirst : other.firstSequence = first.sequence := by
    unfold TurnUnit.firstSequence
    simp only [same, isMessages, List.map_cons, List.head_cons, Message.toHistory]
  have numbered := unitTurns.numbered item held first rest isMessages
  unfold parseInt at isNumber
  rw [numbered] at isNumber
  have number : turn.firstSequence = first.sequence := (Except.ok.inj isNumber).symm
  rw [← same, eq_of_firstSequence increasing isUnit isOther (number.trans isFirst.symm)]

/-- The turns of a window are turns in scope, in their order, with the messages of its
units. -/
theorem windowTurns_of_lookUp
    {turns windowTurns : List Item}
    (unitTurns : UnitTurns turns)
    (increasing : StrictlyIncreasing
      (turns.flatMap fun item => item.messages.map Message.toHistory))
    {byId : List (Int × Item)}
    (built : itemsById turns = .ok byId)
    {units : List TurnUnit}
    (ordered : units.Sublist
      (groupTurns (turns.flatMap fun item => item.messages.map Message.toHistory)))
    (found : units.mapM (fun turn => lookUp byId turn.firstSequence) = .ok windowTurns) :
    windowTurns.Sublist turns ∧
      windowTurns.map (fun item => item.messages.map Message.toHistory) =
        units.map (·.messages) := by
  have paired := Traversal.forall₂_of_mapM found
  have held : ∀ item ∈ windowTurns, item ∈ turns := by
    intro item inWindow
    obtain ⟨turn, -, isFound⟩ := Traversal.exists_left_of_mem paired inWindow
    exact (mem_of_lookUp built isFound).1
  have views : windowTurns.map (fun item => item.messages.map Message.toHistory) =
      units.map (·.messages) := by
    have viewed : ∀ turn ∈ units, ∀ item, lookUp byId turn.firstSequence = .ok item →
        item.messages.map Message.toHistory = turn.messages := fun turn isUnit item isFound =>
      messages_of_lookUp unitTurns increasing built (ordered.subset isUnit) isFound
    clear ordered found held
    induction paired with
    | nil => rfl
    | cons first _ inductionHypothesis =>
        rw [List.forall_mem_cons] at viewed
        rw [List.map_cons, List.map_cons, viewed.1 _ first, inductionHypothesis viewed.2]
  refine ⟨?_, views⟩
  have distinct : (turns.map fun item => item.messages.map Message.toHistory).Nodup := by
    rw [← unitTurns.grouped]
    refine (nodup_of_pairwise_before (groupTurns_pairwise increasing)).map ?_
    intro turn other same
    obtain ⟨messages, _⟩ := turn
    cases same
    rfl
  have inTurns := ordered.map (·.messages)
  rw [← views, unitTurns.grouped] at inTurns
  obtain ⟨others, inOrder, same⟩ := List.sublist_map_iff.mp inTurns
  rw [eq_of_map_eq distinct held (fun other isOther => inOrder.subset isOther) same]
  exact inOrder

section Select

variable {K : Type} [Field K] [LinearOrder K] {lexicon : Bm25.Lexicon K} {sqrt : K → K}
  {embed : EmbeddingRequest → Except Str (List K)} {config : RetrievalConfig K}
  {case : Case} {step : Step}

/-- Only items that were given are ranked. -/
theorem mem_of_mem_rankDense
    {items ranked : List Item}
    (done : rankDense sqrt embed config case step items = .ok ranked)
    {item : Item}
    (held : item ∈ ranked) : item ∈ items := by
  unfold rankDense at done
  dsimp only at done
  split_ifs at done
  · cases done
    cases held
  · obtain ⟨query, -, done⟩ := Traversal.exists_of_bind_eq_ok done
    obtain ⟨scored, isScored, done⟩ := Traversal.exists_of_bind_eq_ok done
    cases done
    obtain ⟨pair, inCandidates, rfl⟩ := List.mem_map.mp (List.mem_of_mem_take held)
    have inRanked := List.mem_of_mem_take (List.mem_of_mem_filter inCandidates)
    have inScored := (Queries.sortBy_perm _ _).mem_iff.mp inRanked
    obtain ⟨source, inScope, isPair⟩ :=
      Traversal.exists_left_of_mem (Traversal.forall₂_of_mapM isScored) inScored
    unfold scoreItem at isPair
    obtain ⟨vector, -, isPair⟩ := Traversal.exists_of_bind_eq_ok isPair
    obtain ⟨score, -, isPair⟩ := Traversal.exists_of_bind_eq_ok isPair
    cases isPair
    exact List.mem_of_mem_filter inScope

/-- What is selected from the turns of a store. -/
structure SelectedFrom
    (store : PooledStore)
    (case : Case)
    (step : Step)
    (limits : Limits)
    (selection : Selection) : Prop where
  /-- The turns of the window are turns in scope, in their order. -/
  ordered : selection.windowTurns.Sublist (store.turns case step)
  /-- They are exchanges, and the window is packed from them. -/
  window : ∃ pairs, (selection.windowTurns.flatMap (·.messages)).map Message.toChat =
      exchanges pairs ∧
    selection.window = (packRecentWindow (exchanges pairs)
      limits.chatPromptMaxAddedContextChars 0).messages
  /-- A turn of the window has two messages. -/
  pairs : ∀ item ∈ selection.windowTurns, item.messages.length = 2
  /-- The last turns are packed. -/
  windowItems : selection.windowItems = if selection.window.isEmpty then []
    else sliceFrom selection.windowTurns
      ((selection.windowTurns.length : Int) - (selection.window.length / 2 : Nat))
  /-- The evidence consists of turns in scope. -/
  evidence : ∀ item ∈ selection.episodic ++ selection.denseEvidence,
    item ∈ store.turns case step
  /-- The facts are facts in scope. -/
  facts : ∀ item ∈ selection.facts, item ∈ store.scoped case step ∧ item.isFact = true

/-- A selection is made from the turns of the store. -/
theorem selectedFrom_of_select
    {limits : Limits}
    {store : PooledStore}
    {selection : Selection}
    (unitTurns : UnitTurns (store.turns case step))
    (done : select lexicon sqrt embed config limits store case step = .ok selection) :
    SelectedFrom store case step limits selection := by
  unfold select at done
  dsimp only at done
  obtain ⟨partition, isPartition, done⟩ := Traversal.exists_of_bind_eq_ok done
  obtain ⟨byId, built, done⟩ := Traversal.exists_of_bind_eq_ok done
  obtain ⟨windowTurns, isWindow, done⟩ := Traversal.exists_of_bind_eq_ok done
  obtain ⟨increasing, bounded, isBuilt⟩ := partitionOf_eq_ok isPartition
  obtain ⟨ordered, wellFormed, flat⟩ := windowUnits_of_build isBuilt
  obtain ⟨inOrder, views⟩ := windowTurns_of_lookUp unitTurns increasing built ordered isWindow
  split at done
  · cases done
  · obtain ⟨episodic, isEpisodic, done⟩ := Traversal.exists_of_bind_eq_ok done
    obtain ⟨candidates, -, done⟩ := Traversal.exists_of_bind_eq_ok done
    obtain ⟨dense, -, done⟩ := Traversal.exists_of_bind_eq_ok done
    obtain ⟨facts, isFacts, done⟩ := Traversal.exists_of_bind_eq_ok done
    obtain ⟨denseRanked, -, done⟩ := Traversal.exists_of_bind_eq_ok done
    obtain ⟨denseEvidence, isDense, done⟩ := Traversal.exists_of_bind_eq_ok done
    cases done
    obtain ⟨pairs, areExchanges, -⟩ := exchanges_of_units wellFormed
    have texts : (windowTurns.flatMap (·.messages)).map Message.toChat = exchanges pairs := by
      have histories : (windowTurns.flatMap (·.messages)).map Message.toHistory =
          partition.windowUnits.flatMap (·.messages) := by
        rw [List.map_flatMap, List.flatMap_def, views, ← List.flatMap_def]
      rw [← areExchanges, ← histories, List.map_map]
      rfl
    have fromTurns : ∀ {events : List CorpusEvent} {found : List Item},
        events.mapM (fun event => lookUp byId event.eventId) = .ok found →
          ∀ item ∈ found, item ∈ store.turns case step := by
      intro events found isFound item held
      obtain ⟨event, -, isItem⟩ :=
        Traversal.exists_left_of_mem (Traversal.forall₂_of_mapM isFound) held
      exact (mem_of_lookUp built isItem).1
    exact {
      ordered := inOrder
      window := ⟨pairs, texts, by rw [flat, areExchanges]⟩
      pairs := fun item held => by
        have viewed : item.messages.map Message.toHistory ∈
            partition.windowUnits.map (·.messages) := by
          rw [← views]
          exact List.mem_map_of_mem held
        obtain ⟨turn, isUnit, same⟩ := List.mem_map.mp viewed
        obtain ⟨opening, closing, shape, -⟩ := turn.isWellFormed_iff.mp (wellFormed turn isUnit)
        rw [← List.length_map, ← same, shape]
        rfl
      windowItems := rfl
      evidence := List.forall_mem_append.mpr ⟨fromTurns isEpisodic, fromTurns isDense⟩
      facts := fun item held => List.mem_filter.mp (mem_of_mem_rankDense isFacts held) }

/-- The turns that are packed are the last ones of the window, and nothing before them is
delivered. -/
theorem SelectedFrom.lastTurns
    {limits : Limits}
    {store : PooledStore}
    {selection : Selection}
    (selected : SelectedFrom store case step limits selection)
    (unitTurns : UnitTurns (store.turns case step))
    {delivered : List ChatMessage}
    (cut : CutFromEnd selection.window delivered) :
    LastTurns selection.windowTurns selection.windowItems delivered := by
  obtain ⟨pairs, texts, isWindow⟩ := selected.window
  obtain ⟨kept, isKept, fewer⟩ := length_packing
    (packRecentWindow_exchanges pairs limits.chatPromptMaxAddedContextChars 0).1
  rw [← isWindow] at isKept
  have windowLength : selection.window.length = 2 * kept.length := by
    rw [isKept, length_exchanges]
  have turnsLength : 2 * selection.windowTurns.length = 2 * pairs.length := by
    rw [← LastTurns.length_messages selected.pairs, ← length_exchanges, ← texts,
      List.length_map]
  have isDrop : selection.windowItems =
      selection.windowTurns.drop (selection.windowTurns.length - kept.length) := by
    rw [selected.windowItems]
    split
    · rename_i empty
      rw [List.isEmpty_iff] at empty
      rw [empty, List.length_nil] at windowLength
      rw [List.drop_eq_nil_of_le (by omega)]
    · unfold sliceFrom
      rw [if_pos (by omega)]
      congr 1
      omega
  exact {
    last := by
      rw [isDrop]
      exact List.drop_suffix _ _
    pairs := selected.pairs
    covers := by
      have shorter := cut.length_le
      rw [isDrop, List.length_drop]
      omega
    sources := fun item held => unitTurns.sources item (selected.ordered.subset held)
    distinct := unitTurns.distinct.sublist ((selected.ordered.flatMap _).map _) }

variable {F : Type} [FloatOps F] [Json.ReadableFloats F]

/-- A packing of one arm delivers what it reports. -/
theorem delivered_of_packDelivery
    {limits : Limits}
    {store : PooledStore}
    {selection : Selection}
    (selected : SelectedFrom store case step limits selection)
    (unitTurns : UnitTurns (store.turns case step))
    {arm : Arm}
    (evidence : ∀ item ∈ arm.evidence, item ∈ store.turns case step)
    (facts : ∀ item ∈ arm.semantic, item ∈ store.scoped case step ∧ item.isFact = true)
    {delivery : Delivery}
    (done : packDelivery F arm.name selection.window selection.windowItems arm.evidence
      arm.semantic step.question limits.chatPromptMaxAddedContextChars = .ok delivery) :
    ∃ complete retained dropped, Delivered F store case step selection.windowTurns arm delivery
      complete retained dropped := by
  obtain ⟨events, isEvents, packed, isPacked, named, isWindow, items, rendered, dropped⟩ :=
    packDelivery_eq_ok done
  have turnsScoped : ∀ item ∈ store.turns case step,
      item ∈ store.scoped case step ∧ item.isTurn = true := fun item held =>
    List.mem_filter.mp ((Queries.sortBy_perm _ _).mem_iff.mp held)
  obtain ⟨pairs, texts, isSelected⟩ := selected.window
  have packing := (packRecentWindow_exchanges pairs limits.chatPromptMaxAddedContextChars 0).1
  rw [← isSelected] at packing
  obtain ⟨windowPairs, isExchanges, -⟩ := length_packing packing
  have cut : CutFromEnd selection.window delivery.window := by
    rw [isWindow, isPacked, isExchanges]
    exact CutFromEnd.of_packing (enforceAddedContextCap_window rfl {} step.question _)
  have lastTurns := selected.lastTurns unitTurns cut
  have isKept : packed.retrievedEvents <+: events := by
    rw [isPacked]
    exact enforceAddedContextCap_evidence _ _ _ _
  obtain ⟨isRead, isShown⟩ := evidence_of_packDelivery isEvents isKept
  rw [← isWindow] at items
  refine ⟨completeWindow selection.windowItems delivery.window,
    (arm.semantic ++ arm.evidence).take packed.retrievedEvents.length,
    (arm.semantic ++ arm.evidence).drop packed.retrievedEvents.length, ?_⟩
  exact {
    named
    items
    ordered := List.filter_sublist.trans lastTurns.last.sublist
    credited := fun item held => lastTurns.mem_completeWindow_iff held
    placed := by
      rw [texts]
      exact (CutFromEnd.of_packing packing).trans cut
    selected := (List.take_append_drop _ _).symm
    shown := by
      refine ⟨packed.retrievedEvents, isRead, ?_⟩
      rw [rendered]
      exact isShown
    factsDropped := by
      have allFacts : (arm.semantic ++ arm.evidence).countP Item.isFact = arm.semantic.length := by
        rw [List.countP_append, List.countP_eq_length.mpr fun item held => (facts item held).2,
          List.countP_eq_zero.mpr, Nat.add_zero]
        intro item held isFact
        have isTurn := (turnsScoped item (evidence item held)).2
        rw [Item.isFact, decide_eq_true_eq] at isFact
        rw [Item.isTurn, decide_eq_true_eq, isFact] at isTurn
        exact absurd isTurn (by decide)
      have split := congrArg (List.countP Item.isFact)
        (List.take_append_drop packed.retrievedEvents.length (arm.semantic ++ arm.evidence))
      rw [List.countP_append, allFacts] at split
      rw [dropped]
      omega
    inScope := by
      have allScoped : ∀ item ∈ delivery.items, item ∈ store.scoped case step := by
        rw [items, List.forall_mem_append]
        constructor
        · intro item held
          exact (turnsScoped item (selected.ordered.subset
            (lastTurns.last.subset (List.mem_of_mem_filter held)))).1
        · intro item held
          rcases List.mem_append.mp (List.mem_of_mem_take held) with isFact | isEvidence
          · exact (facts item isFact).1
          · exact (turnsScoped item (evidence item isEvidence)).1
      intro item held
      obtain ⟨inStore, inScope⟩ := List.mem_filter.mp (allScoped item held)
      simp only [Item.inScope, Bool.and_eq_true, decide_eq_true_eq] at inScope
      exact ⟨inStore, inScope.1.1.1.1.1, inScope.1.1.1.1.2, inScope.1.1.1.2⟩ }

/-- Every delivery of a retrieval reports exactly what it delivers. -/
theorem retrieve_delivered
    (lexicon : Bm25.Lexicon K)
    (sqrt : K → K)
    (embed : EmbeddingRequest → Except Str (List K))
    (config : RetrievalConfig K)
    (limits : Limits)
    (store : PooledStore)
    (case : Case)
    (step : Step)
    (deliveries : List Delivery)
    (unitTurns : UnitTurns (store.turns case step))
    (done : retrieve F lexicon sqrt embed config limits store case step = .ok deliveries) :
    ∃ selection, select lexicon sqrt embed config limits store case step = .ok selection ∧
      List.Forall₂ (fun arm delivery => ∃ complete retained dropped,
        Delivered F store case step selection.windowTurns arm delivery complete retained
          dropped) selection.arms deliveries := by
  unfold retrieve at done
  obtain ⟨selection, isSelection, packs⟩ := Traversal.exists_of_bind_eq_ok done
  have selected := selectedFrom_of_select unitTurns isSelection
  have evidence := List.forall_mem_append.mp selected.evidence
  have arms : ∀ arm ∈ selection.arms, (∀ item ∈ arm.evidence, item ∈ store.turns case step) ∧
      ∀ item ∈ arm.semantic, item ∈ store.scoped case step ∧ item.isFact = true := by
    simp only [Selection.arms, List.forall_mem_cons, List.not_mem_nil, false_implies,
      implies_true, and_true]
    exact ⟨evidence.1, evidence.2, evidence.1, selected.facts⟩
  refine ⟨selection, isSelection, ?_⟩
  have paired := Traversal.forall₂_of_mapM packs
  clear packs done
  generalize selection.arms = all at arms paired
  induction paired with
  | nil => exact .nil
  | cons first _ inductionHypothesis =>
      rw [List.forall_mem_cons] at arms
      exact .cons (delivered_of_packDelivery selected unitTurns arms.1.1 arms.1.2 first)
        (inductionHypothesis arms.2)

end Select

/-! ## One turn -/

/-- The conversation of the examples. -/
def oneConversation : Case := ⟨['t'], "00000000-0000-0000-0000-000000000001".toList⟩

/-- A turn of two messages with some identifiers. -/
def oneTurn (userId assistantId : Str) : Item where
  tenantId := oneConversation.tenantId
  conversationId := oneConversation.conversationId
  itemId := ['1']
  sourceSequence := 2
  content := ['a', '\n', 'b', 'b', 'b']
  sourceMessageIds := [userId, assistantId]
  messages := [⟨userId, 1, .user, ['a']⟩, ⟨assistantId, 2, .assistant, ['b', 'b', 'b']⟩]

/-- A question after the turn. -/
def oneQuestion : Step := ⟨2, ['q']⟩

/-- Words are the characters as they are. -/
def plainLexicon : Bm25.Lexicon ℚ := ⟨id, fun _ => true, id⟩

/-- Five of ten candidates. -/
def fiveOfTen : RetrievalConfig ℚ where
  candidateTopK := 10
  similarityThreshold := 0
  finalTopN := 5
  candidates := by decide
  wanted := by decide
  narrower := by decide
  threshold := by decide +kernel

/-- Retrieve from one turn, with a cap. -/
def retrieveOne (userId assistantId : Str) (cap : Int) :
    Except RetrievalError (List Delivery) :=
  retrieve Empty plainLexicon id (fun _ => .ok [1]) fiveOfTen ⟨20, 12000, cap⟩
    ⟨[oneTurn userId assistantId]⟩ oneConversation oneQuestion

/-- What is left of a result without its errors is the result. -/
theorem eq_ok_of_toOption
    {ε α : Type}
    {result : Except ε α}
    {value : α}
    (isValue : result.toOption = some value) : result = .ok value := by
  cases result with
  | error problem => cases isValue
  | ok other =>
      cases isValue
      rfl

/-- Its two messages tell the turn apart from others. -/
theorem unitTurns_oneTurn :
    UnitTurns ((PooledStore.mk [oneTurn ['u'] ['v']]).turns oneConversation oneQuestion) := by
  have turns : (PooledStore.mk [oneTurn ['u'] ['v']]).turns oneConversation oneQuestion =
      [oneTurn ['u'] ['v']] := by decide +kernel
  rw [turns]
  refine ⟨by decide +kernel, ?_, by decide +kernel, by decide +kernel⟩
  intro item held first rest isMessages
  rw [List.mem_singleton.mp held] at isMessages ⊢
  cases isMessages
  decide +kernel

/-- The answer of the turn is cut, and the turn is not reported. -/
theorem retrieve_delivered_oneTurn :
    ∃ deliveries selection, retrieveOne ['u'] ['v'] 3 = .ok deliveries ∧
      List.Forall₂ (fun arm delivery => ∃ complete retained dropped,
        Delivered Empty ⟨[oneTurn ['u'] ['v']]⟩ oneConversation oneQuestion
          selection.windowTurns arm delivery complete retained dropped)
        (Selection.arms selection) deliveries := by
  have succeeds : (retrieveOne ['u'] ['v'] 3).toOption.isSome = true := by decide +kernel
  cases isDone : retrieveOne ['u'] ['v'] 3 with
  | error problem =>
      rw [isDone] at succeeds
      cases succeeds
  | ok deliveries =>
      obtain ⟨selection, -, delivered⟩ := retrieve_delivered plainLexicon id (fun _ => .ok [1])
        fiveOfTen ⟨20, 12000, 3⟩ ⟨[oneTurn ['u'] ['v']]⟩ oneConversation oneQuestion deliveries
        unitTurns_oneTurn isDone
      exact ⟨deliveries, selection, rfl, delivered⟩

/-- Where both messages of a turn have one identifier, the turn is reported although its
answer is cut. -/
theorem not_retrieve_delivered :
    ∃ selection deliveries,
      select plainLexicon id (fun _ => .ok [1]) fiveOfTen ⟨20, 12000, 3⟩
        ⟨[oneTurn ['u'] ['u']]⟩ oneConversation oneQuestion = .ok selection ∧
      retrieveOne ['u'] ['u'] 3 = .ok deliveries ∧
      oneTurn ['u'] ['u'] ∈ selection.windowTurns ∧
      ∃ delivery ∈ deliveries, oneTurn ['u'] ['u'] ∈ delivery.items ∧
        ¬StandsComplete selection.windowTurns delivery.window (oneTurn ['u'] ['u']) := by
  have selected : ((select plainLexicon id (fun _ => .ok [1]) fiveOfTen ⟨20, 12000, 3⟩
      ⟨[oneTurn ['u'] ['u']]⟩ oneConversation oneQuestion).toOption.map (·.windowTurns)) =
        some [oneTurn ['u'] ['u']] := by
    decide +kernel
  have found : ((retrieveOne ['u'] ['u'] 3).toOption.map fun deliveries =>
      deliveries.map fun delivery => (delivery.items, delivery.window)) =
        some (List.replicate 3 ([oneTurn ['u'] ['u']],
          [⟨.user, ['a']⟩, ⟨.assistant, ['b', 'b']⟩])) := by
    decide +kernel
  obtain ⟨selection, isSelection, turns⟩ := Option.map_eq_some_iff.mp selected
  obtain ⟨deliveries, isDone, views⟩ := Option.map_eq_some_iff.mp found
  cases deliveries with
  | nil => cases views
  | cons delivery rest =>
      obtain ⟨items, window⟩ := Prod.mk.inj (List.cons.inj views).1
      refine ⟨selection, delivery :: rest, eq_ok_of_toOption isSelection,
        eq_ok_of_toOption isDone, ?_, delivery, List.mem_cons_self, ?_, ?_⟩
      · rw [turns]
        exact List.mem_cons_self
      · rw [items]
        exact List.mem_cons_self
      · rintro ⟨before, after, -, early, late, isWindow, -⟩
        have whole : (⟨.assistant, ['b', 'b', 'b']⟩ : ChatMessage) ∈ delivery.window := by
          rw [isWindow]
          exact List.mem_append_left _ (List.mem_append_right _
            (List.mem_cons_of_mem _ List.mem_cons_self))
        rw [window] at whole
        exact absurd whole (by decide)

end SemanticMemory
end ChatPlatform
