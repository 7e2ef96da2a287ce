import ChatPlatform.Memory.Assembly
import Mathlib.Data.Int.ConditionallyCompleteOrder
import Mathlib.Order.ConditionallyCompleteLattice.Basic

/-!
# Memory under other sequence numbers

The sequence numbers of a history come from one counter for all conversations, so
what others store moves them. Memory uses them for order alone: numbers changed in
an order-preserving way give the same memory, but for the identifiers of the
evidence.
-/

namespace ChatPlatform

/-! ## The changed values -/

/-- The row under another number. -/
def MessageRow.renumber (change : Int → Int) (row : MessageRow) : MessageRow :=
  { row with sequence := change row.sequence }

/-- The message under another number. -/
def HistoryMessage.renumber
    (change : Int → Int)
    (message : HistoryMessage) : HistoryMessage :=
  { message with sequence := change message.sequence }

/-- The unit under other numbers. -/
def TurnUnit.renumber (change : Int → Int) (turn : TurnUnit) : TurnUnit :=
  ⟨turn.messages.map (·.renumber change), by simp [turn.nonempty]⟩

/-- The partition under other numbers. -/
def WindowPartition.renumber
    (change : Int → Int)
    (partition : WindowPartition) : WindowPartition where
  window := partition.window.map (·.renumber change)
  windowUnits := partition.windowUnits.map (·.renumber change)
  excludedUnits := partition.excludedUnits.map (·.renumber change)
  grouped := partition.grouped.map (·.renumber change)
  snappedInTurns := partition.snappedInTurns

/-- The materialized history under other numbers. -/
def Materialized.renumber
    (change : Int → Int)
    (materialized : Materialized) : Materialized :=
  { materialized with partition := materialized.partition.renumber change }

/-- The unit of the corpus under other numbers. -/
def CorpusEvent.renumber (change : Int → Int) (event : CorpusEvent) : CorpusEvent :=
  ⟨change event.eventId, event.turn.renumber change⟩

/-- The ranked unit under other numbers. -/
def Bm25.RankedEvent.renumber
    {K : Type}
    (change : Int → Int)
    (ranked : Bm25.RankedEvent K) : Bm25.RankedEvent K :=
  { ranked with event := ranked.event.renumber change }

/-- The selected unit under another number. -/
def RetrievedMemoryEvent.renumber
    (change : Int → Int)
    (event : RetrievedMemoryEvent) : RetrievedMemoryEvent :=
  { event with eventId := change event.eventId }

/-- The memory context under other numbers. -/
def ChatMemoryContext.renumber
    (change : Int → Int)
    (context : ChatMemoryContext) : ChatMemoryContext :=
  { context with
    retrievedEvents := context.retrievedEvents.map (·.renumber change) }

/-- The report under other numbers. -/
def MemoryReport.renumber
    (change : Int → Int)
    (report : MemoryReport) : MemoryReport :=
  { report with context := report.context.renumber change }

@[simp] theorem MessageRow.toHistory_renumber (change : Int → Int) (row : MessageRow) :
    (row.renumber change).toHistory = row.toHistory.renumber change := rfl

@[simp] theorem HistoryMessage.role_renumber
    (change : Int → Int)
    (message : HistoryMessage) : (message.renumber change).role = message.role := rfl

@[simp] theorem HistoryMessage.content_renumber
    (change : Int → Int)
    (message : HistoryMessage) :
    (message.renumber change).content = message.content := rfl

@[simp] theorem HistoryMessage.sequence_renumber
    (change : Int → Int)
    (message : HistoryMessage) :
    (message.renumber change).sequence = change message.sequence := rfl

@[simp] theorem TurnUnit.messages_renumber (change : Int → Int) (turn : TurnUnit) :
    (turn.renumber change).messages = turn.messages.map (·.renumber change) := rfl

@[simp] theorem TurnUnit.firstSequence_renumber
    (change : Int → Int)
    (turn : TurnUnit) :
    (turn.renumber change).firstSequence = change turn.firstSequence := by
  simp [firstSequence]

@[simp] theorem TurnUnit.documentText_renumber
    (change : Int → Int)
    (turn : TurnUnit) :
    (turn.renumber change).documentText = turn.documentText := by
  simp [documentText, Function.comp_def]

@[simp] theorem TurnUnit.isWellFormed_renumber
    (change : Int → Int)
    (turn : TurnUnit) :
    (turn.renumber change).isWellFormed = turn.isWellFormed := by
  unfold isWellFormed
  rw [messages_renumber]
  match turn.messages with
  | [] => rfl
  | [_] => rfl
  | [_, _] => rfl
  | _ :: _ :: _ :: _ => rfl

@[simp] theorem CorpusEvent.documentText_renumber
    (change : Int → Int)
    (event : CorpusEvent) :
    (event.renumber change).documentText = event.documentText :=
  event.turn.documentText_renumber change

@[simp] theorem CorpusEvent.eventId_renumber
    (change : Int → Int)
    (event : CorpusEvent) :
    (event.renumber change).eventId = change event.eventId := rfl

@[simp] theorem CorpusEvent.ofTurn_renumber
    (change : Int → Int)
    (turn : TurnUnit) :
    CorpusEvent.ofTurn (turn.renumber change) =
      (CorpusEvent.ofTurn turn).renumber change := by
  simp [CorpusEvent.ofTurn, CorpusEvent.renumber]

/-! ## Steps that ignore the numbers -/

theorem charCount_renumber (change : Int → Int) (messages : List HistoryMessage) :
    charCount (messages.map (·.renumber change)) = charCount messages := by
  simp [charCount, Function.comp_def]

theorem sliceFrom_map
    {α β : Type}
    (change : α → β)
    (items : List α)
    (start : Int) :
    sliceFrom (items.map change) start = (sliceFrom items start).map change := by
  unfold sliceFrom
  split <;> simp

/-- The bounds count messages and characters. -/
theorem applyBounds_renumber
    (change : Int → Int)
    (maxMessages maxChars : Int)
    (messages : List HistoryMessage) :
    ConversationHistoryAssembler.applyBounds maxMessages maxChars
        (messages.map (·.renumber change)) =
      (ConversationHistoryAssembler.applyBounds maxMessages maxChars messages).map
        (·.renumber change) := by
  unfold ConversationHistoryAssembler.applyBounds
    ConversationHistoryAssembler.dropOldest
  have slice : (if messages.map (·.renumber change) = [] then
        messages.map (·.renumber change)
      else sliceFrom (messages.map (·.renumber change)) (-maxMessages)) =
      (if messages = [] then messages
      else sliceFrom messages (-maxMessages)).map (·.renumber change) := by
    cases messages with
    | nil => rfl
    | cons first rest =>
        rw [if_neg (by simp), if_neg (by simp), sliceFrom_map]
  rw [slice, Trim.trimFront_map]
  simp only [charCount_renumber]

/-- The grouping looks at the roles. -/
theorem groupTurns_renumber (change : Int → Int) (messages : List HistoryMessage) :
    groupTurns (messages.map (·.renumber change)) =
      (groupTurns messages).map (·.renumber change) := by
  induction messages using groupTurns.induct with
  | case1 => rfl
  | case2 current => rfl
  | case3 current next rest closes inductionHypothesis =>
      rw [List.map_cons, List.map_cons, groupTurns, groupTurns, if_pos closes,
        if_pos (by simpa using closes), inductionHypothesis]
      rfl
  | case4 current next rest apart inductionHypothesis =>
      rw [List.map_cons] at inductionHypothesis
      rw [List.map_cons, List.map_cons, groupTurns, groupTurns, if_neg apart,
        if_neg (by simpa using apart), inductionHypothesis]
      rfl

/-! ## Steps that compare the numbers -/

section Ordered

variable {change : Int → Int} {numbers : Set Int}

/-- The order of a history is kept. -/
theorem strictlyIncreasing_renumber
    (ordered : StrictMonoOn change numbers)
    {messages : List HistoryMessage}
    (numbered : ∀ message ∈ messages, message.sequence ∈ numbers) :
    StrictlyIncreasing (messages.map (·.renumber change)) ↔
      StrictlyIncreasing messages := by
  unfold StrictlyIncreasing
  rw [List.pairwise_map]
  apply List.Pairwise.iff_of_mem
  intro earlier later earlierPresent laterPresent
  exact ordered.lt_iff_lt (numbered earlier earlierPresent)
    (numbered later laterPresent)

/-- The search looks at the elements only. -/
private theorem findIdx?_congr
    {α : Type}
    {left right : α → Bool}
    {items : List α}
    (same : ∀ item ∈ items, left item = right item) :
    items.findIdx? left = items.findIdx? right := by
  induction items with
  | nil => rfl
  | cons item rest inductionHypothesis =>
      rw [List.findIdx?_cons, List.findIdx?_cons, same item List.mem_cons_self,
        inductionHypothesis fun other present =>
          same other (List.mem_cons_of_mem item present)]

/-- The snap lands on the same unit. -/
theorem indexOfUnitCovering_renumber
    (ordered : StrictMonoOn change numbers)
    {grouped : List TurnUnit}
    (numbered : ∀ turn ∈ grouped, ∀ message ∈ turn.messages,
      message.sequence ∈ numbers)
    {sequence : Int}
    (known : sequence ∈ numbers) :
    indexOfUnitCovering (grouped.map (·.renumber change)) (change sequence) =
      indexOfUnitCovering grouped sequence := by
  have covering : ∀ turn ∈ grouped,
      (turn.renumber change).messages.any
          (fun message => message.sequence = change sequence) =
        turn.messages.any (fun message => message.sequence = sequence) := by
    intro turn present
    rw [TurnUnit.messages_renumber, List.any_map, Bool.eq_iff_iff, List.any_eq_true,
      List.any_eq_true]
    apply exists_congr
    intro message
    apply and_congr_right
    intro inside
    have equal := ordered.injOn.eq_iff (numbered turn present message inside) known
    simp [equal]
  have after : ∀ turn ∈ grouped,
      decide (change sequence ≤ (turn.renumber change).firstSequence) =
        decide (sequence ≤ turn.firstSequence) := by
    intro turn present
    rw [TurnUnit.firstSequence_renumber, decide_eq_decide]
    exact ordered.le_iff_le known
      (numbered turn present _ (List.head_mem turn.nonempty))
  unfold indexOfUnitCovering
  rw [List.findIdx?_map, List.findIdx?_map, List.length_map]
  simp only [Function.comp_def]
  rw [findIdx?_congr covering, findIdx?_congr after]

/-- The numbers of the units are those of the history. -/
private theorem numbered_groupTurns
    {messages : List HistoryMessage}
    (numbered : ∀ message ∈ messages, message.sequence ∈ numbers) :
    ∀ turn ∈ groupTurns messages, ∀ message ∈ turn.messages,
      message.sequence ∈ numbers := by
  intro turn present message inside
  apply numbered
  rw [← flatMap_groupTurns messages]
  exact List.mem_flatMap.mpr ⟨turn, present, inside⟩

private theorem filter_renumber
    {test : TurnUnit → Bool}
    (blind : ∀ turn, test (turn.renumber change) = test turn)
    (units : List TurnUnit) :
    (units.map (·.renumber change)).filter test =
      (units.filter test).map (·.renumber change) := by
  rw [List.filter_map]
  simp only [Function.comp_def, blind]

/-- The window and its complement are the same. -/
theorem buildMaterializedWindow_renumber
    (ordered : StrictMonoOn change numbers)
    {messages kept : List HistoryMessage}
    (numbered : ∀ message ∈ messages, message.sequence ∈ numbers)
    (recent : kept <:+ messages) :
    buildMaterializedWindow (messages.map (·.renumber change))
        (kept.map (·.renumber change)) =
      (buildMaterializedWindow messages kept).map (·.renumber change) := by
  unfold buildMaterializedWindow
  rw [groupTurns_renumber]
  have units := numbered_groupTurns numbered
  cases groups : groupTurns messages with
  | nil => rfl
  | cons turn rest =>
      cases kept with
      | nil => rfl
      | cons bound others =>
          rw [groups] at units
          have snap := indexOfUnitCovering_renumber ordered units
            (numbered bound (recent.mem List.mem_cons_self))
          simp only [List.map_cons] at snap
          simp only [List.map_cons, HistoryMessage.sequence_renumber, snap]
          rw [← List.map_cons, ← List.map_drop]
          cases span : (turn :: rest).drop
              (indexOfUnitCovering (turn :: rest) bound.sequence) with
          | nil => rfl
          | cons first later =>
              have inGroups : first ∈ turn :: rest := by
                apply List.mem_of_mem_drop
                rw [span]
                exact List.mem_cons_self
              have older := ordered.lt_iff_lt
                (units first inGroups _ (List.head_mem first.nonempty))
                (numbered bound (recent.mem List.mem_cons_self))
              simp only [List.map_cons, Option.map_some, Option.some.injEq]
              rw [← List.map_cons, filter_renumber (TurnUnit.isWellFormed_renumber change),
                filter_renumber (fun turn =>
                  congrArg (!·) (TurnUnit.isWellFormed_renumber change turn))]
              simp only [WindowPartition.renumber, List.flatMap_map, List.map_flatMap,
                List.map_append, List.map_take, List.map_cons,
                TurnUnit.firstSequence_renumber, TurnUnit.messages_renumber,
                WindowPartition.mk.injEq, true_and]
              exact if_congr older rfl rfl

/-! ## The history read -/

/-- The read of the rows is in order of the numbers. -/
theorem listRecentMessages_renumber
    (ordered : StrictMonoOn change numbers)
    {database other : Database}
    {conversationId : Uuid}
    {tenantId : Str}
    (rows : other.messagesOf conversationId tenantId =
      (database.messagesOf conversationId tenantId).map (·.renumber change))
    (numbered : ∀ row ∈ database.messagesOf conversationId tenantId,
      row.sequence ∈ numbers)
    (maxRows : Int) :
    other.listRecentMessages conversationId tenantId maxRows =
      (database.listRecentMessages conversationId tenantId maxRows).map
        (·.renumber change) := by
  unfold Database.listRecentMessages
  have sorted := List.map_insertionSort (fun left right => left.sequence ≥ right.sequence)
    (fun left right => left.sequence ≥ right.sequence) (MessageRow.renumber change)
    (database.messagesOf conversationId tenantId)
    (fun left leftPresent right rightPresent =>
      (ordered.le_iff_le (numbered right rightPresent)
        (numbered left leftPresent)).symm)
  rw [rows]
  simp only [List.map_reverse, List.map_take, sorted]

/-- What is materialized is the same. -/
theorem materializeWindow_renumber
    (ordered : StrictMonoOn change numbers)
    (settings : ChatSettings)
    {database other : Database}
    {conversationId : Uuid}
    {tenantId : Str}
    (owner : other.getConversation conversationId tenantId =
      database.getConversation conversationId tenantId)
    (rows : other.messagesOf conversationId tenantId =
      (database.messagesOf conversationId tenantId).map (·.renumber change))
    (numbered : ∀ row ∈ database.messagesOf conversationId tenantId,
      row.sequence ∈ numbers) :
    materializeWindow settings other conversationId tenantId =
      (materializeWindow settings database conversationId tenantId).map
        (·.renumber change) := by
  unfold materializeWindow Database.fetchOrdered
  rw [owner]
  cases database.getConversation conversationId tenantId with
  | none => rfl
  | some conversation =>
      dsimp only
      rw [listRecentMessages_renumber ordered rows numbered, List.map_map]
      have history : (database.listRecentMessages conversationId tenantId
            settings.conversationHistoryMaxRows).map
            (MessageRow.toHistory ∘ MessageRow.renumber change) =
          ((database.listRecentMessages conversationId tenantId
            settings.conversationHistoryMaxRows).map MessageRow.toHistory).map
            (·.renumber change) := by
        rw [List.map_map]
        rfl
      rw [history]
      have known : ∀ message ∈ (database.listRecentMessages conversationId tenantId
          settings.conversationHistoryMaxRows).map MessageRow.toHistory,
          message.sequence ∈ numbers := by
        intro message present
        obtain ⟨row, read, rfl⟩ := List.mem_map.mp present
        obtain ⟨stored, ofConversation, ofTenant⟩ :=
          Database.mem_of_mem_listRecentMessages read
        apply numbered row
        simp [Database.messagesOf, stored, ofConversation, ofTenant]
      generalize (database.listRecentMessages conversationId tenantId
        settings.conversationHistoryMaxRows).map MessageRow.toHistory = messages at known
      have length : (messages.map (·.renumber change)).length = messages.length := by
        simp
      by_cases increasing : StrictlyIncreasing messages
      · have increasingToo := (strictlyIncreasing_renumber ordered known).mpr increasing
        simp only [ConversationHistoryAssembler.assemble_of_strictlyIncreasing increasing,
          ConversationHistoryAssembler.assemble_of_strictlyIncreasing increasingToo,
          applyBounds_renumber, length]
        rw [buildMaterializedWindow_renumber ordered known
          (ConversationHistoryAssembler.applyBounds_suffix _ _ messages)]
        cases buildMaterializedWindow messages _ with
        | none => rfl
        | some partition =>
            simp [Except.map, Materialized.renumber, WindowPartition.renumber]
      · have notIncreasing := fun increasingToo => increasing
          ((strictlyIncreasing_renumber ordered known).mp increasingToo)
        obtain ⟨first, failed⟩ :=
          ConversationHistoryAssembler.assemble_of_not_strictlyIncreasing increasing
            settings.conversationHistoryMaxMessages settings.conversationHistoryMaxChars
        obtain ⟨second, failedToo⟩ :=
          ConversationHistoryAssembler.assemble_of_not_strictlyIncreasing notIncreasing
            settings.conversationHistoryMaxMessages settings.conversationHistoryMaxChars
        simp only [failed, failedToo]
        rfl

end Ordered

end ChatPlatform
