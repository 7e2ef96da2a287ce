import ChatPlatform.SemanticMemory.Delivered

/-!
# The store of a dataset

The store holds the turn units of every conversation of the dataset, the facts that its steps
assert, and the facts of the canaries. Since the loader refuses conversations and messages that
occur twice and messages that are not numbered in their order, the turns in the scope of a
question are always the units of one conversation.
-/

namespace ChatPlatform
namespace SemanticMemory

/-! ## The dataset -/

/-- A conversation and its messages. -/
structure Transcript where
  /-- The tenant. -/
  tenantId : Str
  /-- The conversation. -/
  conversationId : Str
  /-- Its messages. -/
  turns : List Message

/-- A conversation outside the scope of the case, with a value of its own. -/
structure Canary extends Transcript where
  /-- The value. -/
  valueId : Str

/-- What a step asserts. -/
structure GoldStep extends Step where
  /-- Its identifier. -/
  stepId : Str
  /-- The values that hold. -/
  goldValues : List Str
  /-- The messages they come from. -/
  goldSourceMessageIds : List Str
  /-- Whether its values are facts. -/
  semantic : Bool

/-- A case as it is loaded. -/
structure LoadedCase extends Case where
  /-- The language. -/
  language : Str
  /-- What the case is about. -/
  slot : Str
  /-- The messages of its conversation. -/
  turns : List Message
  /-- Its questions. -/
  steps : List GoldStep
  /-- Conversations that must not be read. -/
  canaries : List Canary

/-- The conversations of a case. -/
def LoadedCase.conversations (case : LoadedCase) : List Transcript :=
  ⟨case.tenantId, case.conversationId, case.turns⟩ :: case.canaries.map (·.toTranscript)

/-- The cases that the loader accepts. -/
structure Dataset where
  /-- The cases. -/
  cases : List LoadedCase
  /-- Messages are numbered in their order. -/
  numbered : ∀ conversation ∈ cases.flatMap LoadedCase.conversations,
    conversation.turns.map (·.sequence) =
      (List.range conversation.turns.length).map fun place : Nat => (place : Int) + 1
  /-- No conversation is used twice. -/
  conversations : ((cases.flatMap LoadedCase.conversations).map (·.conversationId)).Nodup
  /-- No message identifier is used twice. -/
  messageIds : (((cases.flatMap LoadedCase.conversations).flatMap (·.turns)).map
    (·.messageId)).Nodup

/-- A value of the pool. -/
structure PoolValue where
  /-- Its identifier. -/
  id : Str
  /-- How it is written, by language. -/
  aliases : List (Str × List Str)

/-- A slot of the pool. -/
structure PoolSlot where
  /-- Its identifier. -/
  id : Str
  /-- What it is called, by language. -/
  labels : List (Str × Str)

/-- What is read of the pool. -/
structure Pool where
  /-- The values. -/
  values : List PoolValue
  /-- The slots. -/
  slots : List PoolSlot

/-- A store was not built. -/
inductive StoreError
  /-- `KeyError` of a name. -/
  | missing (key : Str)
  /-- `KeyError` of a place. -/
  | missingSequence (sequence : Int)
  /-- `IndexError`. -/
  | index
  /-- `ValueError` of the largest of nothing. -/
  | largestOfNothing

/-! ## Building -/

/-- What is under a name. -/
def entryOf {Entry : Type} (entries : List (Str × Entry)) (key : Str) :
    Except StoreError Entry :=
  match Keyed.find entries key with
  | none => .error (.missing key)
  | some entry => .ok entry

/-- The message at a place. -/
def messageAt (bySequence : List (Int × Message)) (sequence : Int) : Except StoreError Message :=
  match Keyed.find bySequence sequence with
  | none => .error (.missingSequence sequence)
  | some message => .ok message

/-- The first of some things. -/
def firstOf {α : Type} : List α → Except StoreError α
  | [] => .error .index
  | first :: _ => .ok first

/-- The largest of some numbers. -/
def largestOf : List Int → Except StoreError Int
  | [] => .error .largestOfNothing
  | first :: rest => .ok (rest.foldl max first)

/-- The item of a turn unit. -/
def turnItem
    (conversation : Transcript)
    (bySequence : List (Int × Message))
    (turn : TurnUnit) : Except StoreError Item := do
  let sources ← turn.messages.mapM fun message => messageAt bySequence message.sequence
  let last ← largestOf (sources.map (·.sequence))
  .ok {
    tenantId := conversation.tenantId
    conversationId := conversation.conversationId
    itemId := Numeral.decimal turn.firstSequence
    sourceSequence := last
    content := turn.documentText
    sourceMessageIds := sources.map (·.messageId)
    messages := sources }

/-- The items of the turns of a conversation. -/
def turnItems (conversation : Transcript) : Except StoreError (List Item) :=
  (groupTurns (conversation.turns.map Message.toHistory)).mapM
    (turnItem conversation
      (Keyed.ofList (conversation.turns.map fun message => (message.sequence, message))))

section Facts

variable (aliases : List (Str × List (Str × List Str))) (labels : List (Str × List (Str × Str)))

/-- How a value is written in the language of the case. -/
def surface (case : LoadedCase) (value : Str) : Except StoreError Str := do
  let written ← entryOf aliases value
  let inLanguage ← entryOf written case.language
  firstOf inLanguage

/-- What the slot of a case is called in its language. -/
def labelOf (case : LoadedCase) : Except StoreError Str := do
  let called ← entryOf labels case.slot
  entryOf called case.language

/-- The item of a value that a step asserts. -/
def factItem
    (case : LoadedCase)
    (step : GoldStep)
    (last : Option Int)
    (value : Str) : Except StoreError Item := do
  let byId := Keyed.ofList (case.turns.map fun message => (message.messageId, message))
  let sources ← step.goldSourceMessageIds.mapM (entryOf byId)
  let source ← largestOf (sources.map (·.sequence))
  let label ← labelOf labels case
  let written ← surface aliases case value
  .ok {
    tenantId := case.tenantId
    conversationId := case.conversationId
    itemId := step.stepId ++ [':'] ++ value
    sourceSequence := source
    content := label ++ ": ".toList ++ written
    sourceMessageIds := step.goldSourceMessageIds
    kind := "fact".toList
    value := some written
    effectiveFrom := step.afterSequence
    effectiveUntil := last }

/-- The items of what the steps of a case assert, each until the next snapshot. -/
def factItems (case : LoadedCase) : Except StoreError (List Item) := do
  let snapshots := Queries.sortBy (·.afterSequence) (case.steps.filter (·.semantic))
  let facts ← snapshots.zipIdx.mapM fun pair =>
    pair.1.goldValues.mapM (factItem aliases labels case pair.1
      (snapshots[pair.2 + 1]?.map (·.afterSequence)))
  .ok facts.flatten

/-- The item of the value of a canary. -/
def canaryItem (case : LoadedCase) (canary : Canary) : Except StoreError Item := do
  let value ← surface aliases case canary.valueId
  let label ← labelOf labels case
  let opening ← firstOf canary.turns
  .ok {
    tenantId := canary.tenantId
    conversationId := canary.conversationId
    itemId := canary.conversationId ++ ":fact".toList
    sourceSequence := 1
    content := label ++ ": ".toList ++ value
    sourceMessageIds := [opening.messageId]
    kind := "fact".toList
    value := some value }

/-- The items of a case. -/
def itemsOfCase (case : LoadedCase) : Except StoreError (List Item) := do
  let turns ← case.conversations.mapM turnItems
  let facts ← factItems aliases labels case
  let canaries ← case.canaries.mapM (canaryItem aliases labels case)
  .ok (turns.flatten ++ facts ++ canaries)

end Facts

/-- The store of a dataset. -/
def PooledStore.fromDataset (dataset : Dataset) (pool : Pool) :
    Except StoreError PooledStore := do
  let aliases := Keyed.ofList (pool.values.map fun value => (value.id, value.aliases))
  let labels := Keyed.ofList (pool.slots.map fun slot => (slot.id, slot.labels))
  let items ← dataset.cases.mapM (itemsOfCase aliases labels)
  .ok ⟨items.flatten⟩

/-! ## Parts of lists -/

/-- Where lists of images put together are the images of a list, they are the images of its
parts. -/
theorem exists_parts
    {α β γ : Type}
    {f : α → List γ}
    {g : β → γ}
    {blocks : List α}
    {whole : List β}
    (same : blocks.flatMap f = whole.map g) :
    ∃ parts : List (List β), parts.flatten = whole ∧
      List.Forall₂ (fun block part => f block = part.map g) blocks parts := by
  induction blocks generalizing whole with
  | nil =>
      rw [List.flatMap_nil] at same
      exact ⟨[], (List.map_eq_nil_iff.mp same.symm).symm, .nil⟩
  | cons block rest inductionHypothesis =>
      rw [List.flatMap_cons] at same
      obtain ⟨part, others, rfl, isPart, areOthers⟩ := List.map_eq_append_iff.mp same.symm
      obtain ⟨parts, rfl, paired⟩ := inductionHypothesis areOthers.symm
      exact ⟨part :: parts, List.flatten_cons, .cons isPart.symm paired⟩

/-- Below a bound are the first elements of an increasing list. -/
theorem filter_lt_prefix
    {α : Type}
    {key : α → Int}
    {items : List α}
    (increasing : items.Pairwise fun left right => key left < key right)
    (bound : Int) : items.filter (fun item => decide (key item < bound)) <+: items := by
  induction increasing with
  | nil => exact List.prefix_rfl
  | @cons item rest after _ inductionHypothesis =>
      by_cases below : key item < bound
      · rw [List.filter_cons_of_pos (by simpa using below)]
        exact (List.prefix_cons_inj item).mpr inductionHypothesis
      · have none : (item :: rest).filter (fun item => decide (key item < bound)) = [] := by
          rw [List.filter_eq_nil_iff]
          intro other held
          rw [decide_eq_true_eq]
          rcases List.mem_cons.mp held with rfl | later
          · exact below
          · have above := after other later
            omega
        rw [none]
        exact List.nil_prefix

/-- Where all blocks but those of one key are empty and keys occur once, one block is the
whole. -/
theorem flatten_eq_of_one_key
    {α β Key : Type}
    {key : α → Key}
    {wanted : Key}
    {owners : List α}
    {blocks : List (List β)}
    (paired : List.Forall₂ (fun owner block => key owner ≠ wanted → block = []) owners blocks)
    (distinct : (owners.map key).Nodup) : blocks.flatten = [] ∨ blocks.flatten ∈ blocks := by
  induction paired with
  | nil => exact Or.inl rfl
  | @cons owner block owners blocks first rest inductionHypothesis =>
      rw [List.map_cons, List.nodup_cons] at distinct
      by_cases isWanted : key owner = wanted
      · have others : blocks.flatten = [] := by
          rw [List.flatten_eq_nil_iff]
          intro other held
          obtain ⟨one, inOwners, isEmpty⟩ := Traversal.exists_left_of_mem rest held
          refine isEmpty fun same => distinct.1 ?_
          rw [isWanted, ← same]
          exact List.mem_map_of_mem inOwners
        rw [List.flatten_cons, others, List.append_nil]
        exact Or.inr List.mem_cons_self
      · rw [List.flatten_cons, first isWanted, List.nil_append]
        rcases inductionHypothesis distinct.2 with none | isOne
        · exact Or.inl none
        · exact Or.inr (List.mem_cons_of_mem _ isOne)

/-! ## Turn units -/

/-- The units of the messages of the first units are these units. -/
theorem groupTurns_of_prefix
    {messages : List HistoryMessage}
    {early late : List TurnUnit}
    (split : groupTurns messages = early ++ late) :
    groupTurns (early.flatMap (·.messages)) = early := by
  induction messages using groupTurns.induct generalizing early with
  | case1 =>
      rw [(List.append_eq_nil_iff.mp split.symm).1]
      rfl
  | case2 current =>
      rcases List.append_eq_singleton_iff.mp split.symm with ⟨rfl, -⟩ | ⟨rfl, -⟩
      · rfl
      · rfl
  | case3 current next rest closes inductionHypothesis =>
      rw [groupTurns, if_pos closes] at split
      rcases List.cons_eq_append_iff.mp split with ⟨rfl, -⟩ | ⟨others, rfl, isRest⟩
      · rfl
      · rw [List.flatMap_cons, TurnUnit.messages_pair, List.cons_append, List.cons_append,
          List.nil_append, groupTurns, if_pos closes, inductionHypothesis isRest]
  | case4 current next rest apart inductionHypothesis =>
      rw [groupTurns, if_neg apart] at split
      rcases List.cons_eq_append_iff.mp split with ⟨rfl, -⟩ | ⟨others, rfl, isRest⟩
      · rfl
      · cases others with
        | nil => rfl
        | cons turn others =>
            have whole := flatMap_groupTurns (next :: rest)
            have grouped := inductionHypothesis isRest
            rw [isRest, List.cons_append, List.flatMap_cons] at whole
            rw [List.flatMap_cons, TurnUnit.messages_single, List.singleton_append]
            rw [List.flatMap_cons] at grouped ⊢
            obtain ⟨opening, tail, shape⟩ := List.exists_cons_of_ne_nil turn.nonempty
            rw [shape, List.cons_append] at whole grouped ⊢
            rw [(List.cons.inj whole).1] at grouped ⊢
            rw [groupTurns, if_neg apart, grouped]

/-- A turn of a conversation. -/
structure UnitItem (conversation : Transcript) (item : Item) : Prop where
  /-- It is of the conversation. -/
  scope : item.tenantId = conversation.tenantId ∧ item.conversationId = conversation.conversationId
  /-- It is a turn. -/
  kind : item.isTurn = true
  /-- It holds throughout. -/
  status : item.status = "active".toList ∧ item.effectiveFrom = 0 ∧ item.effectiveUntil = none
  /-- It is numbered by its first message. -/
  numbered : ∀ first rest, item.messages = first :: rest →
    item.itemId = Numeral.decimal first.sequence
  /-- Its sources are its messages. -/
  sources : item.sourceMessageIds = item.messages.map (·.messageId)
  /-- Its place is the one of its last message. -/
  last : ∃ message ∈ item.messages, item.sourceSequence = message.sequence

theorem largestOf_mem
    {numbers : List Int}
    {largest : Int}
    (isLargest : largestOf numbers = .ok largest) : largest ∈ numbers := by
  cases numbers with
  | nil => cases isLargest
  | cons first rest =>
      cases isLargest
      induction rest generalizing first with
      | nil => exact List.mem_cons_self
      | cons second rest inductionHypothesis =>
          rw [List.foldl_cons]
          rcases List.mem_cons.mp (inductionHypothesis (max first second)) with same | held
          · rw [same]
            rcases max_choice first second with isFirst | isSecond
            · rw [isFirst]
              exact List.mem_cons_self
            · rw [isSecond]
              exact List.mem_cons_of_mem _ List.mem_cons_self
          · exact List.mem_cons_of_mem _ (List.mem_cons_of_mem _ held)

section Conversation

variable {conversation : Transcript}

/-- The message at the place of a message is that message. -/
theorem messageAt_of_mem
    (distinct : (conversation.turns.map (·.sequence)).Nodup)
    {message : Message}
    (held : message ∈ conversation.turns) :
    messageAt (Keyed.ofList (conversation.turns.map fun other => (other.sequence, other)))
      message.sequence = .ok message := by
  have keys : ((conversation.turns.map fun other => (other.sequence, other)).map (·.1)).Nodup := by
    rw [List.map_map]
    exact distinct
  unfold messageAt
  rw [Keyed.ofList_of_nodup keys,
    Keyed.find_of_mem keys (List.mem_map_of_mem (f := fun other => (other.sequence, other)) held)]

/-- The item of a unit has the messages of the unit. -/
theorem turnItem_eq_ok
    (distinct : (conversation.turns.map (·.sequence)).Nodup)
    {turn : TurnUnit}
    {part : List Message}
    (isPart : turn.messages = part.map Message.toHistory)
    (inConversation : ∀ message ∈ part, message ∈ conversation.turns)
    {item : Item}
    (done : turnItem conversation
      (Keyed.ofList (conversation.turns.map fun message => (message.sequence, message)))
      turn = .ok item) : item.messages = part ∧ UnitItem conversation item := by
  have found : turn.messages.mapM (fun message => messageAt
      (Keyed.ofList (conversation.turns.map fun message => (message.sequence, message)))
        message.sequence) = .ok part := by
    have each : (part.map Message.toHistory).mapM (fun message => messageAt
        (Keyed.ofList (conversation.turns.map fun message => (message.sequence, message)))
          message.sequence) = .ok (part.map id) :=
      Traversal.mapM_map_eq_ok fun message held =>
        messageAt_of_mem distinct (inConversation message held)
    rw [isPart, each, List.map_id]
  unfold turnItem at done
  rw [found, Traversal.ok_bind] at done
  obtain ⟨last, isLast, done⟩ := Traversal.exists_of_bind_eq_ok done
  cases done
  refine ⟨rfl, ⟨rfl, rfl⟩, rfl, ⟨rfl, rfl, rfl⟩, ?_, rfl, ?_⟩
  · rintro first rest rfl
    have opening : turn.firstSequence = first.sequence := by
      unfold TurnUnit.firstSequence
      simp only [isPart, List.map_cons, List.head_cons]
      rfl
    rw [opening]
  · obtain ⟨message, held, same⟩ := List.mem_map.mp (largestOf_mem isLast)
    exact ⟨message, held, same.symm⟩

/-- The items of a conversation are its units in their order. -/
theorem turnItems_eq_ok
    (distinct : (conversation.turns.map (·.sequence)).Nodup)
    {items : List Item}
    (done : turnItems conversation = .ok items) :
    items.flatMap (·.messages) = conversation.turns ∧
      (groupTurns (conversation.turns.map Message.toHistory)).map (·.messages) =
        items.map (fun item => item.messages.map Message.toHistory) ∧
      ∀ item ∈ items, UnitItem conversation item := by
  obtain ⟨parts, isFlat, paired⟩ := exists_parts
    (flatMap_groupTurns (conversation.turns.map Message.toHistory))
  have inConversation : ∀ part ∈ parts, ∀ message ∈ part, message ∈ conversation.turns := by
    intro part held message inPart
    rw [← isFlat]
    exact List.mem_flatten_of_mem held inPart
  have built := Traversal.forall₂_of_mapM done
  clear done
  generalize groupTurns (conversation.turns.map Message.toHistory) = turns at built paired ⊢
  rw [← isFlat]
  clear isFlat
  induction paired generalizing items with
  | nil =>
      cases built
      exact ⟨rfl, rfl, fun _ held => absurd held List.not_mem_nil⟩
  | @cons turn part turns parts isPart _ inductionHypothesis =>
      cases built with
      | @cons _ item _ items first rest =>
          rw [List.forall_mem_cons] at inConversation
          obtain ⟨flat, views, units⟩ := inductionHypothesis inConversation.2 rest
          obtain ⟨isMessages, isUnit⟩ := turnItem_eq_ok distinct isPart inConversation.1 first
          refine ⟨?_, ?_, List.forall_mem_cons.mpr ⟨isUnit, units⟩⟩
          · rw [List.flatMap_cons, isMessages, flat, List.flatten_cons]
          · rw [List.map_cons, List.map_cons, isPart, views, isMessages]

/-- Places grow with the items. -/
theorem pairwise_sourceSequence
    (increasing : conversation.turns.Pairwise fun left right => left.sequence < right.sequence)
    {items : List Item}
    (flat : items.flatMap (·.messages) = conversation.turns)
    (units : ∀ item ∈ items, UnitItem conversation item) :
    items.Pairwise fun left right => left.sourceSequence < right.sourceSequence := by
  rw [← flat] at increasing
  have across := (List.pairwise_flatMap.mp increasing).2
  refine across.imp_of_mem ?_
  intro left right isLeft isRight before
  obtain ⟨early, inLeft, isEarly⟩ := (units left isLeft).last
  obtain ⟨late, inRight, isLate⟩ := (units right isRight).last
  rw [isEarly, isLate]
  exact before early inLeft late inRight

/-- The first items of a conversation are the units of their messages. -/
theorem unitTurns_of_prefix
    (positive : ∀ message ∈ conversation.turns, 0 ≤ message.sequence)
    (distinct : (conversation.turns.map (·.messageId)).Nodup)
    {items early : List Item}
    (flat : items.flatMap (·.messages) = conversation.turns)
    (views : (groupTurns (conversation.turns.map Message.toHistory)).map (·.messages) =
      items.map fun item => item.messages.map Message.toHistory)
    (units : ∀ item ∈ items, UnitItem conversation item)
    (isPrefix : early <+: items) : UnitTurns early := by
  obtain ⟨late, rfl⟩ := isPrefix
  rw [List.forall_mem_append] at units
  rw [List.flatMap_append] at flat
  rw [List.map_append] at views
  obtain ⟨first, second, split, isFirst, -⟩ := List.map_eq_append_iff.mp views
  have inConversation : ∀ item ∈ early, ∀ message ∈ item.messages,
      message ∈ conversation.turns := by
    intro item held message inItem
    rw [← flat]
    exact List.mem_append_left _ (List.mem_flatMap.mpr ⟨item, held, inItem⟩)
  refine ⟨?_, ?_, fun item held => (units.1 item held).sources, ?_⟩
  · rw [List.flatMap_def, ← isFirst, ← List.flatMap_def, groupTurns_of_prefix split]
  · intro item held opening rest isMessages
    have inItem : opening ∈ item.messages := by
      rw [isMessages]
      exact List.mem_cons_self
    obtain ⟨place, isPlace⟩ := Int.eq_ofNat_of_zero_le
      (positive opening (inConversation item held opening inItem))
    rw [(units.1 item held).numbered opening rest isMessages, isPlace]
    exact Numeral.intLiteral_decimal place
  · rw [← flat, List.map_append] at distinct
    exact distinct.sublist (List.sublist_append_left _ _)

/-- The items of a conversation in the scope of a question are its first ones, and none where
the question is about another conversation. -/
theorem scoped_of_conversation
    (case : Case)
    (step : Step)
    {items : List Item}
    (increasing : items.Pairwise fun left right => left.sourceSequence < right.sourceSequence)
    (units : ∀ item ∈ items, UnitItem conversation item) :
    (items.filter (Item.inScope case step)).filter Item.isTurn <+: items ∧
      (conversation.conversationId ≠ case.conversationId →
        (items.filter (Item.inScope case step)).filter Item.isTurn = []) := by
  have turns : (items.filter (Item.inScope case step)).filter Item.isTurn =
      items.filter (Item.inScope case step) :=
    List.filter_eq_self.mpr fun item held => (units item (List.mem_of_mem_filter held)).kind
  have inScope_iff : ∀ item ∈ items, Item.inScope case step item = true ↔
      (conversation.tenantId = case.tenantId ∧
        conversation.conversationId = case.conversationId ∧ 0 < step.afterSequence + 1) ∧
        item.sourceSequence < step.afterSequence + 1 := by
    intro item held
    obtain ⟨tenant, sameConversation⟩ := (units item held).scope
    obtain ⟨status, start, stop⟩ := (units item held).status
    simp only [Item.inScope, tenant, sameConversation, status, start, stop, Bool.and_eq_true,
      decide_eq_true_eq, Option.all_none, and_true]
    tauto
  rw [turns]
  by_cases here : conversation.tenantId = case.tenantId ∧
      conversation.conversationId = case.conversationId ∧ 0 < step.afterSequence + 1
  · constructor
    · have same : items.filter (Item.inScope case step) = items.filter fun item =>
          decide (item.sourceSequence < step.afterSequence + 1) := by
        refine List.filter_congr fun item held => ?_
        rw [Bool.eq_iff_iff, inScope_iff item held, decide_eq_true_eq]
        exact and_iff_right here
      rw [same]
      exact filter_lt_prefix increasing _
    · exact fun elsewhere => absurd here.2.1 elsewhere
  · have none : items.filter (Item.inScope case step) = [] := by
      rw [List.filter_eq_nil_iff]
      intro item held isScoped
      exact here ((inScope_iff item held).mp isScoped).1
    rw [none]
    exact ⟨List.nil_prefix, fun _ => rfl⟩

end Conversation

/-! ## The whole store -/

section Whole

variable
  {aliases : List (Str × List (Str × List Str))}
  {labels : List (Str × List (Str × Str))}

theorem isTurn_of_factItem
    {case : LoadedCase}
    {step : GoldStep}
    {last : Option Int}
    {value : Str}
    {item : Item}
    (done : factItem aliases labels case step last value = .ok item) : item.isTurn = false := by
  unfold factItem at done
  obtain ⟨sources, -, done⟩ := Traversal.exists_of_bind_eq_ok done
  obtain ⟨source, -, done⟩ := Traversal.exists_of_bind_eq_ok done
  obtain ⟨label, -, done⟩ := Traversal.exists_of_bind_eq_ok done
  obtain ⟨written, -, done⟩ := Traversal.exists_of_bind_eq_ok done
  cases done
  rfl

theorem isTurn_of_factItems
    {case : LoadedCase}
    {items : List Item}
    (done : factItems aliases labels case = .ok items) : ∀ item ∈ items, item.isTurn = false := by
  unfold factItems at done
  obtain ⟨facts, areFacts, done⟩ := Traversal.exists_of_bind_eq_ok done
  cases done
  intro item held
  obtain ⟨ofStep, isOne, inStep⟩ := List.mem_flatten.mp held
  obtain ⟨pair, -, values⟩ :=
    Traversal.exists_left_of_mem (Traversal.forall₂_of_mapM areFacts) isOne
  obtain ⟨value, -, isFact⟩ :=
    Traversal.exists_left_of_mem (Traversal.forall₂_of_mapM values) inStep
  exact isTurn_of_factItem isFact

theorem isTurn_of_canaryItem
    {case : LoadedCase}
    {canary : Canary}
    {item : Item}
    (done : canaryItem aliases labels case canary = .ok item) : item.isTurn = false := by
  unfold canaryItem at done
  obtain ⟨value, -, done⟩ := Traversal.exists_of_bind_eq_ok done
  obtain ⟨label, -, done⟩ := Traversal.exists_of_bind_eq_ok done
  obtain ⟨opening, -, done⟩ := Traversal.exists_of_bind_eq_ok done
  cases done
  rfl

/-- The turns of a case are those of its conversations. -/
theorem itemsOfCase_eq_ok
    {case : LoadedCase}
    {items : List Item}
    (done : itemsOfCase aliases labels case = .ok items) :
    ∃ turns others, case.conversations.mapM turnItems = .ok turns ∧
      items = turns.flatten ++ others ∧ ∀ item ∈ others, item.isTurn = false := by
  unfold itemsOfCase at done
  obtain ⟨turns, areTurns, done⟩ := Traversal.exists_of_bind_eq_ok done
  obtain ⟨facts, areFacts, done⟩ := Traversal.exists_of_bind_eq_ok done
  obtain ⟨canaries, areCanaries, done⟩ := Traversal.exists_of_bind_eq_ok done
  cases done
  refine ⟨turns, facts ++ canaries, areTurns, List.append_assoc _ _ _, ?_⟩
  refine List.forall_mem_append.mpr ⟨isTurn_of_factItems areFacts, fun item held => ?_⟩
  obtain ⟨canary, -, isItem⟩ :=
    Traversal.exists_left_of_mem (Traversal.forall₂_of_mapM areCanaries) held
  exact isTurn_of_canaryItem isItem

/-- The turns in scope are those of the conversations of all cases. -/
theorem turns_of_cases
    (inScope : Item → Bool)
    {cases : List LoadedCase}
    {blocks : List (List Item)}
    (built : List.Forall₂ (fun case block => itemsOfCase aliases labels case = .ok block)
      cases blocks) :
    ∃ turns, List.Forall₂ (fun conversation block => turnItems conversation = .ok block)
        (cases.flatMap LoadedCase.conversations) turns ∧
      (blocks.flatten.filter inScope).filter Item.isTurn =
        (turns.map fun block => (block.filter inScope).filter Item.isTurn).flatten := by
  induction built with
  | nil => exact ⟨[], .nil, rfl⟩
  | @cons case block cases blocks first _ inductionHypothesis =>
      obtain ⟨turns, areTurns, same⟩ := inductionHypothesis
      obtain ⟨own, others, isOwn, rfl, noTurns⟩ := itemsOfCase_eq_ok first
      refine ⟨own ++ turns, ?_, ?_⟩
      · rw [List.flatMap_cons]
        exact List.rel_append (Traversal.forall₂_of_mapM isOwn) areTurns
      · have none : (others.filter inScope).filter Item.isTurn = [] := by
          rw [List.filter_eq_nil_iff]
          intro item held isTurn
          rw [noTurns item (List.mem_of_mem_filter held)] at isTurn
          cases isTurn
        have ownTurns : ∀ lists : List (List Item),
            (lists.flatten.filter inScope).filter Item.isTurn =
              (lists.map fun block => (block.filter inScope).filter Item.isTurn).flatten := by
          intro lists
          rw [List.filter_flatten, List.filter_flatten, List.map_map]
          rfl
        rw [List.flatten_cons, List.filter_append, List.filter_append, List.filter_append,
          List.filter_append, none, List.append_nil, ownTurns own, same, List.map_append,
          List.flatten_append]

end Whole

/-- Nothing is the units of nothing. -/
theorem unitTurns_nil : UnitTurns [] where
  grouped := rfl
  numbered := fun _ held => absurd held List.not_mem_nil
  sources := fun _ held => absurd held List.not_mem_nil
  distinct := List.nodup_nil

section Accepted

variable {dataset : Dataset} {conversation : Transcript}

/-- The places of the messages of a conversation grow from one. -/
theorem Dataset.places
    (held : conversation ∈ dataset.cases.flatMap LoadedCase.conversations) :
    (conversation.turns.Pairwise fun left right => left.sequence < right.sequence) ∧
      ∀ message ∈ conversation.turns, 0 ≤ message.sequence := by
  have numbered := dataset.numbered conversation held
  constructor
  · have increasing : (conversation.turns.map (·.sequence)).Pairwise (· < ·) := by
      rw [numbered, List.pairwise_map]
      exact List.pairwise_lt_range.imp fun before => by omega
    exact List.pairwise_map.mp increasing
  · intro message inTurns
    have isPlace := List.mem_map_of_mem (f := (·.sequence)) inTurns
    rw [numbered] at isPlace
    obtain ⟨place, -, same⟩ := List.mem_map.mp isPlace
    omega

/-- The messages of a conversation have identifiers of their own. -/
theorem Dataset.distinctMessages
    (held : conversation ∈ dataset.cases.flatMap LoadedCase.conversations) :
    (conversation.turns.map (·.messageId)).Nodup :=
  dataset.messageIds.sublist
    ((List.sublist_flatten_of_mem (List.mem_map_of_mem (f := (·.turns)) held)).map _)

/-- What is in scope of one conversation is the units of some of its messages, in their
order. -/
theorem Dataset.scopedTurns
    (held : conversation ∈ dataset.cases.flatMap LoadedCase.conversations)
    (case : Case)
    (step : Step)
    {items : List Item}
    (done : turnItems conversation = .ok items) :
    (conversation.conversationId ≠ case.conversationId →
        (items.filter (Item.inScope case step)).filter Item.isTurn = []) ∧
      UnitTurns (Queries.sortBy (·.sourceSequence)
        ((items.filter (Item.inScope case step)).filter Item.isTurn)) := by
  obtain ⟨increasing, positive⟩ := dataset.places held
  have distinct : (conversation.turns.map (·.sequence)).Nodup :=
    List.pairwise_map.mpr (increasing.imp fun before => Int.ne_of_lt before)
  obtain ⟨flat, views, units⟩ := turnItems_eq_ok distinct done
  have inOrder := pairwise_sourceSequence increasing flat units
  obtain ⟨isPrefix, elsewhere⟩ := scoped_of_conversation case step inOrder units
  refine ⟨elsewhere, ?_⟩
  have sorted := (inOrder.sublist isPrefix.sublist).imp fun before => Int.le_of_lt before
  rw [Queries.sortBy, List.Pairwise.insertionSort_eq sorted]
  exact unitTurns_of_prefix positive (dataset.distinctMessages held) flat views units isPrefix

end Accepted

/-- In the store of a dataset, the turns in the scope of any question are the units of one
conversation. -/
theorem unitTurns_fromDataset
    {dataset : Dataset}
    {pool : Pool}
    {store : PooledStore}
    (built : PooledStore.fromDataset dataset pool = .ok store)
    (case : Case)
    (step : Step) : UnitTurns (store.turns case step) := by
  unfold PooledStore.fromDataset at built
  obtain ⟨blocks, areBlocks, built⟩ := Traversal.exists_of_bind_eq_ok built
  cases built
  obtain ⟨turns, areTurns, same⟩ :=
    turns_of_cases (Item.inScope case step) (Traversal.forall₂_of_mapM areBlocks)
  unfold PooledStore.turns PooledStore.scoped
  rw [same]
  obtain ⟨sameLength, pairs⟩ := List.forall₂_iff_zip.mp areTurns
  have paired : List.Forall₂ (fun conversation block =>
      conversation.conversationId ≠ case.conversationId →
        (block.filter (Item.inScope case step)).filter Item.isTurn = [])
      (dataset.cases.flatMap LoadedCase.conversations) turns :=
    List.forall₂_iff_zip.mpr ⟨sameLength, fun held =>
      (dataset.scopedTurns (List.of_mem_zip held).1 case step (pairs held)).1⟩
  rcases flatten_eq_of_one_key (List.forall₂_map_right_iff.mpr paired) dataset.conversations
    with none | isOne
  · rw [none]
    exact unitTurns_nil
  · obtain ⟨block, held, isBlock⟩ := List.mem_map.mp isOne
    obtain ⟨conversation, inDataset, isItems⟩ := Traversal.exists_left_of_mem areTurns held
    rw [← isBlock]
    exact (dataset.scopedTurns inDataset case step isItems).2

end SemanticMemory
end ChatPlatform
