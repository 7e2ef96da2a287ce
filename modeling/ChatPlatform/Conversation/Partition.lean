import ChatPlatform.Conversation.Turns
import Mathlib.Data.List.Flatten

/-!
# Window and corpus partition the history

For every ordered history and every positive bound, the materialized window and
the retrieval corpus split the grouped units between them. The window covers what
the assembler kept, except for messages in malformed units, and at most one
message more.
-/

namespace ChatPlatform

/-- Whether the message is older than each of the others. -/
def olderThanAll (kept : List HistoryMessage) (message : HistoryMessage) : Bool :=
  kept.all fun other => message.sequence < other.sequence

/-- How a partition relates to the history it was built from and to the messages
the assembler kept. -/
structure Partitions
    (messages kept : List HistoryMessage)
    (partition : WindowPartition) : Prop where
  /-- No unit is on both sides. -/
  disjoint : partition.windowUnits.Disjoint partition.excludedUnits
  /-- The two sides are exactly the grouped units. -/
  total : (partition.windowUnits ++ partition.excludedUnits).Perm
    (groupTurns messages)
  /-- The window units are in history order. -/
  windowOrdered : partition.windowUnits.Sublist (groupTurns messages)
  /-- The excluded units are in history order. -/
  excludedOrdered : partition.excludedUnits.Sublist (groupTurns messages)
  /-- The window is the concatenation of its units. -/
  windowUnitsFlat : partition.window =
    partition.windowUnits.flatMap (·.messages)
  /-- Every window unit is a user message followed by an assistant message. -/
  windowPairs : ∀ turn ∈ partition.windowUnits, ∃ opening closing,
    turn.messages = [opening, closing] ∧
      opening.role = .user ∧ closing.role = .assistant
  /-- The window is in ascending sequence. -/
  windowIncreasing : StrictlyIncreasing partition.window
  /-- A kept message of a well-formed unit is in the window. -/
  keptInWindow : ∀ message ∈ kept, ∀ turn ∈ groupTurns messages,
    message ∈ turn.messages → turn.isWellFormed = true →
      message ∈ partition.window
  /-- At most one message of the window is older than the assembler's bound. -/
  atMostOneOlder :
    (partition.window.filter (olderThanAll kept)).length ≤ 1
  /-- The corpus events have distinct identifiers. -/
  distinctIds :
    ((RetrievalCorpus.fromPartition partition).events.map (·.eventId)).Nodup
  /-- Every stored message is on exactly one side. -/
  exclusive : ∀ message ∈ messages, (message ∈ partition.window ↔
    message ∉ (RetrievalCorpus.fromPartition partition).messages)

private theorem perm_filter_append
    {α : Type}
    (test : α → Bool)
    (before span : List α) :
    (span.filter test ++ (before ++ span.filter (!test ·))).Perm
      (before ++ span) := by
  have inner : (span.filter test ++ span.filter (!test ·)).Perm span :=
    List.filter_append_perm test span
  calc
    span.filter test ++ (before ++ span.filter (!test ·))
    _ = (span.filter test ++ before) ++ span.filter (!test ·) := by simp
    List.Perm _ ((before ++ span.filter test) ++ span.filter (!test ·)) :=
        List.Perm.append_right _ List.perm_append_comm
    _ = before ++ (span.filter test ++ span.filter (!test ·)) := by simp
    List.Perm _ (before ++ span) := List.Perm.append_left _ inner

/-- Facts that hold whatever the split between the two sides is. -/
private theorem sides_of_perm
    {messages window : List HistoryMessage}
    {windowUnits excludedUnits : List TurnUnit}
    (increasing : StrictlyIncreasing messages)
    (total : (windowUnits ++ excludedUnits).Perm (groupTurns messages))
    (flat : window = windowUnits.flatMap (·.messages)) :
    windowUnits.Disjoint excludedUnits ∧
      ∀ message ∈ messages, (message ∈ window ↔
        message ∉ excludedUnits.flatMap (·.messages)) := by
  have unitsNodup : (windowUnits ++ excludedUnits).Nodup :=
    total.nodup_iff.mpr
      (nodup_of_pairwise_before (groupTurns_pairwise increasing))
  have messagePerm :
      (window ++ excludedUnits.flatMap (·.messages)).Perm messages := by
    have mapped := total.flatMap_right (·.messages)
    rwa [List.flatMap_append, ← flat, flatMap_groupTurns] at mapped
  have messageNodup := messagePerm.nodup_iff.mpr increasing.nodup
  refine ⟨List.disjoint_of_nodup_append unitsNodup, ?_⟩
  intro message present
  have somewhere := messagePerm.mem_iff.mpr present
  have apart := List.disjoint_of_nodup_append messageNodup
  constructor
  · intro inWindow inCorpus
    exact apart inWindow inCorpus
  · intro outside
    rcases List.mem_append.mp somewhere with inWindow | inCorpus
    · exact inWindow
    · exact absurd inCorpus outside

/-- Ordered units have distinct first sequence numbers. -/
private theorem distinctIds_of_sublist
    {messages : List HistoryMessage}
    {units : List TurnUnit}
    (increasing : StrictlyIncreasing messages)
    (ordered : units.Sublist (groupTurns messages)) :
    ((units.map CorpusEvent.ofTurn).map (·.eventId)).Nodup := by
  have before := (groupTurns_pairwise increasing).sublist ordered
  rw [List.map_map]
  refine List.pairwise_map.mpr (before.imp ?_)
  intro earlier later precedes equal
  have less := precedes _ (List.head_mem earlier.nonempty)
    _ (List.head_mem later.nonempty)
  simp only [Function.comp_apply, CorpusEvent.ofTurn,
    TurnUnit.firstSequence] at equal
  omega

/-- The pairs of well-formed units are in ascending sequence. -/
private theorem window_increasing
    {messages : List HistoryMessage}
    {units : List TurnUnit}
    (increasing : StrictlyIncreasing messages)
    (ordered : units.Sublist (groupTurns messages)) :
    StrictlyIncreasing (units.flatMap (·.messages)) := by
  have flat : (units.flatMap (·.messages)).Sublist messages := by
    have mapped := ordered.flatMap (·.messages)
    rwa [flatMap_groupTurns] at mapped
  exact increasing.sublist flat

/-- Two messages of which one is not old hold at most one old one. -/
private theorem filter_length_le_one
    {old : HistoryMessage → Bool}
    {messages : List HistoryMessage}
    {recent : HistoryMessage}
    (short : messages.length ≤ 2)
    (present : recent ∈ messages)
    (notOld : old recent = false) : (messages.filter old).length ≤ 1 := by
  have fewer : (messages.filter old).length < messages.length :=
    List.length_filter_lt_length_iff_exists.mpr
      ⟨recent, present, by simp [notOld]⟩
  omega

/-- The partition that snapping gives, described by the unit it snapped to. -/
private theorem buildMaterializedWindow_of_snap
    {messages : List HistoryMessage}
    (rest : List HistoryMessage)
    {bound : HistoryMessage}
    {before after : List TurnUnit}
    {turn : TurnUnit}
    (grouping : groupTurns messages = before ++ turn :: after)
    (snapped : indexOfUnitCovering (groupTurns messages) bound.sequence =
      before.length) :
    ∃ partition,
      buildMaterializedWindow messages (bound :: rest) = some partition ∧
        partition.windowUnits = (turn :: after).filter (·.isWellFormed) ∧
        partition.excludedUnits =
          before ++ (turn :: after).filter (!·.isWellFormed) ∧
        partition.window = partition.windowUnits.flatMap (·.messages) := by
  have dropped : (groupTurns messages).drop before.length = turn :: after := by
    rw [grouping, List.drop_left]
  have taken : (groupTurns messages).take before.length = before := by
    rw [grouping, List.take_left]
  unfold buildMaterializedWindow
  cases shape : groupTurns messages with
  | nil => simp [shape] at grouping
  | cons head tail =>
      rw [shape] at snapped dropped taken
      simp only [snapped, dropped, taken]
      exact ⟨_, rfl, rfl, rfl, rfl⟩

/-- A unit that starts the kept messages: what precedes it holds none of them,
what follows holds nothing older. -/
private theorem span_spec
    {messages kept : List HistoryMessage}
    {bound : HistoryMessage}
    {before after : List TurnUnit}
    {turn : TurnUnit}
    (increasing : StrictlyIncreasing messages)
    (suffix : (bound :: kept) <:+ messages)
    (grouping : groupTurns messages = before ++ turn :: after)
    (inside : bound ∈ turn.messages) :
    (∀ other ∈ before, ∀ message ∈ other.messages,
        message ∉ bound :: kept) ∧
      ∀ other ∈ after, ∀ message ∈ other.messages,
        bound.sequence < message.sequence := by
  have ordered := groupTurns_pairwise increasing
  rw [grouping, List.pairwise_append] at ordered
  obtain ⟨-, later, apart⟩ := ordered
  have smallest : ∀ message ∈ kept, bound.sequence < message.sequence :=
    (List.pairwise_cons.mp (increasing.sublist suffix.sublist)).1
  constructor
  · intro other present message held isKept
    have precedes := apart other present turn (by simp) _ held _ inside
    rcases List.mem_cons.mp isKept with rfl | inKept
    · exact Int.lt_irrefl _ precedes
    · have := smallest message inKept
      omega
  · intro other present message held
    exact (List.pairwise_cons.mp later).1 other present _ inside _ held

/-- What is older than the kept messages lies in the unit snapped to, which has
at most two messages, one of them kept. -/
private theorem atMostOneOlder_of_span
    {messages kept : List HistoryMessage}
    {bound : HistoryMessage}
    {after : List TurnUnit}
    {turn : TurnUnit}
    (present : turn ∈ groupTurns messages)
    (inside : bound ∈ turn.messages)
    (later : ∀ other ∈ after, ∀ message ∈ other.messages,
      bound.sequence < message.sequence) :
    ((((turn :: after).filter (·.isWellFormed)).flatMap (·.messages)).filter
      (olderThanAll (bound :: kept))).length ≤ 1 := by
  have recent : ∀ message : HistoryMessage,
      bound.sequence ≤ message.sequence →
        olderThanAll (bound :: kept) message = false := by
    intro message notLess
    have : ¬ message.sequence < bound.sequence := by omega
    simp [olderThanAll, this]
  have noneAfter : ((after.filter (·.isWellFormed)).flatMap
      (·.messages)).filter (olderThanAll (bound :: kept)) = [] := by
    rw [List.filter_eq_nil_iff]
    intro message inAfter
    obtain ⟨other, inFilter, held⟩ := List.mem_flatMap.mp inAfter
    have less := later other (List.mem_of_mem_filter inFilter) message held
    simp [recent message (by omega)]
  have inTurn : (turn.messages.filter
      (olderThanAll (bound :: kept))).length ≤ 1 :=
    filter_length_le_one (length_le_two_of_mem_groupTurns present) inside
      (recent bound (by omega))
  cases wellFormed : turn.isWellFormed with
  | false => simp [wellFormed, noneAfter]
  | true => simpa [wellFormed, noneAfter] using inTurn

/-- Everything `Partitions` says follows once the two sides are the units of the
history split at the unit the bound lies in. -/
private theorem partitions_of_snap
    {messages kept : List HistoryMessage}
    {bound : HistoryMessage}
    {before after : List TurnUnit}
    {turn : TurnUnit}
    {partition : WindowPartition}
    (increasing : StrictlyIncreasing messages)
    (suffix : (bound :: kept) <:+ messages)
    (grouping : groupTurns messages = before ++ turn :: after)
    (inside : bound ∈ turn.messages)
    (windowUnits : partition.windowUnits =
      (turn :: after).filter (·.isWellFormed))
    (excludedUnits : partition.excludedUnits =
      before ++ (turn :: after).filter (!·.isWellFormed))
    (flat : partition.window = partition.windowUnits.flatMap (·.messages)) :
    Partitions messages (bound :: kept) partition := by
  obtain ⟨earlier, later⟩ := span_spec increasing suffix grouping inside
  have total : (partition.windowUnits ++ partition.excludedUnits).Perm
      (groupTurns messages) := by
    rw [windowUnits, excludedUnits, grouping]
    exact perm_filter_append _ before (turn :: after)
  have windowOrdered : partition.windowUnits.Sublist (groupTurns messages) := by
    rw [windowUnits, grouping]
    exact List.filter_sublist.trans (List.sublist_append_right _ _)
  have excludedOrdered :
      partition.excludedUnits.Sublist (groupTurns messages) := by
    rw [excludedUnits, grouping]
    exact List.filter_sublist.append_left before
  obtain ⟨disjoint, exclusive⟩ := sides_of_perm increasing total flat
  refine
    { disjoint
      total
      windowOrdered
      excludedOrdered
      windowUnitsFlat := flat
      windowPairs := ?_
      windowIncreasing := by
        rw [flat]
        exact window_increasing increasing windowOrdered
      keptInWindow := ?_
      atMostOneOlder := ?_
      distinctIds := distinctIds_of_sublist increasing excludedOrdered
      exclusive := by simpa using exclusive }
  · intro unit present
    rw [windowUnits] at present
    exact unit.isWellFormed_iff.mp (List.mem_filter.mp present).2
  · intro message isKept unit present held wellFormed
    rw [flat, windowUnits]
    refine List.mem_flatMap.mpr ⟨unit, List.mem_filter.mpr ⟨?_, wellFormed⟩, held⟩
    rw [grouping] at present
    rcases List.mem_append.mp present with inBefore | inSpan
    · exact absurd isKept (earlier unit inBefore message held)
    · exact inSpan
  · rw [flat, windowUnits]
    exact atMostOneOlder_of_span (by rw [grouping]; simp) inside later

/-- Every nonempty suffix of an ordered history gives a partition. -/
private theorem exists_partition_of_suffix
    {messages kept : List HistoryMessage}
    {bound : HistoryMessage}
    (increasing : StrictlyIncreasing messages)
    (suffix : (bound :: kept) <:+ messages) :
    ∃ partition,
      buildMaterializedWindow messages (bound :: kept) = some partition ∧
        Partitions messages (bound :: kept) partition := by
  have stored : bound ∈ messages := suffix.mem (by simp)
  have covered : ∃ turn ∈ groupTurns messages, ∃ message ∈ turn.messages,
      message.sequence = bound.sequence := by
    rw [← flatMap_groupTurns messages] at stored
    obtain ⟨turn, present, held⟩ := List.mem_flatMap.mp stored
    exact ⟨turn, present, bound, held, rfl⟩
  obtain ⟨before, turn, after, grouping, snapped, message, held, same⟩ :=
    snap_spec covered
  obtain ⟨partition, built, windowUnits, excludedUnits, flat⟩ :=
    buildMaterializedWindow_of_snap kept grouping snapped
  have inside : bound ∈ turn.messages := by
    have messageStored : message ∈ messages := by
      rw [← flatMap_groupTurns messages, grouping]
      exact List.mem_flatMap.mpr ⟨turn, by simp, held⟩
    rwa [← increasing.eq_of_sequence messageStored stored same]
  exact ⟨partition, built, partitions_of_snap increasing suffix grouping inside
    windowUnits excludedUnits flat⟩

/-- Without messages both sides are empty. -/
private theorem partitions_nil : Partitions [] [] ⟨[], [], [], [], 0⟩ := by
  refine ⟨?_, ?_, ?_, ?_, ?_, ?_, ?_, ?_, ?_, ?_, ?_⟩ <;>
    simp [groupTurns, StrictlyIncreasing, RetrievalCorpus.fromPartition]

/-- The bounded messages of an ordered history give a partition. -/
theorem exists_partition_of_assemble
    {messages : List HistoryMessage}
    (increasing : StrictlyIncreasing messages)
    {maxMessages : Int}
    (positive : 0 < maxMessages)
    (maxChars : Int) :
    ∃ assembled partition,
      ConversationHistoryAssembler.assemble maxMessages maxChars messages =
        .ok assembled ∧
      buildMaterializedWindow messages assembled.messages = some partition ∧
      Partitions messages assembled.messages partition := by
  have assembled := ConversationHistoryAssembler.assemble_of_strictlyIncreasing
    increasing maxMessages maxChars
  have suffix := ConversationHistoryAssembler.applyBounds_suffix
    maxMessages maxChars messages
  cases kept : ConversationHistoryAssembler.applyBounds maxMessages maxChars
      messages with
  | nil =>
      have empty : messages = [] := by
        by_contra nonempty
        exact ConversationHistoryAssembler.applyBounds_ne_nil nonempty positive
          maxChars kept
      subst empty
      exact ⟨_, _, assembled, by rw [kept]; rfl, by rw [kept]; exact partitions_nil⟩
  | cons bound rest =>
      rw [kept] at suffix
      obtain ⟨partition, built, parts⟩ :=
        exists_partition_of_suffix increasing suffix
      exact ⟨_, partition, assembled, by rwa [kept], by rwa [kept]⟩

/-- For every ordered history and all positive bounds the assembler succeeds, the
units concatenate to the history, and window and corpus partition them. -/
theorem window_and_corpus_partition_history
    {messages : List HistoryMessage}
    (increasing : StrictlyIncreasing messages)
    {maxMessages : Int}
    (positive : 0 < maxMessages)
    (maxChars : Int) :
    (groupTurns messages).flatMap (·.messages) = messages ∧
      ∃ assembled partition,
        ConversationHistoryAssembler.assemble maxMessages maxChars messages =
          .ok assembled ∧
        buildMaterializedWindow messages assembled.messages = some partition ∧
        Partitions messages assembled.messages partition :=
  ⟨flatMap_groupTurns messages,
    exists_partition_of_assemble increasing positive maxChars⟩

/-- A system message, a bare user message and a turn cut at its second half. -/
theorem window_and_corpus_partition_cut_turn :
    let history : List HistoryMessage :=
      [⟨1, .system, ['s']⟩, ⟨2, .user, ['u']⟩, ⟨4, .user, ['v']⟩,
        ⟨7, .assistant, ['a']⟩]
    (groupTurns history).flatMap (·.messages) = history ∧
      ∃ assembled partition,
        ConversationHistoryAssembler.assemble 1 6 history = .ok assembled ∧
        buildMaterializedWindow history assembled.messages = some partition ∧
        Partitions history assembled.messages partition :=
  window_and_corpus_partition_history
    (by unfold StrictlyIncreasing; decide) (by decide) 6

end ChatPlatform
