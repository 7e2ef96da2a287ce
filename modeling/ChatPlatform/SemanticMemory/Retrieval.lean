import ChatPlatform.Foundation.Keyed
import ChatPlatform.Foundation.Queries
import ChatPlatform.Memory.Ranking
import ChatPlatform.Prompt.Budget
import Mathlib.Data.Char
import Mathlib.Data.List.Lex
import Mathlib.Data.Prod.Lex

/-!
# Retrieval from one pooled store

All conversations share one store. A retrieval filters it by its scope before anything is
scored, materializes the recent window of the turns in scope, selects evidence outside it in
three ways, and packs each selection with the window into the cap. What is reported as
delivered are the items whose messages stand in the packed window and the evidence that was
kept.
-/

namespace ChatPlatform
namespace SemanticMemory

/-! ## The store -/

/-- A message of a case. -/
structure Message where
  /-- Its identifier. -/
  messageId : Str
  /-- Its place in the conversation. -/
  sequence : Int
  /-- Its author. -/
  role : Role
  /-- Its text. -/
  content : Str
  deriving DecidableEq

/-- A message as the history port delivers it. -/
def Message.toHistory (message : Message) : HistoryMessage :=
  ⟨message.sequence, message.role, message.content⟩

/-- A message as a provider receives it. -/
def Message.toChat (message : Message) : ChatMessage := ⟨message.role, message.content⟩

/-- What is read of a case. -/
structure Case where
  /-- The tenant. -/
  tenantId : Str
  /-- The conversation. -/
  conversationId : Str

/-- What is read of a step. -/
structure Step where
  /-- The place of the last message before the question. -/
  afterSequence : Int
  /-- The question. -/
  question : Str

/-- An item of the store: a turn or a fact. -/
structure Item where
  /-- The tenant. -/
  tenantId : Str
  /-- The conversation. -/
  conversationId : Str
  /-- Its identifier. -/
  itemId : Str
  /-- The place of its last source. -/
  sourceSequence : Int
  /-- Its text. -/
  content : Str
  /-- The messages it comes from. -/
  sourceMessageIds : List Str
  /-- `turn` or `fact`. -/
  kind : Str := "turn".toList
  /-- `active`, or something else. -/
  status : Str := "active".toList
  /-- The value of a fact. -/
  value : Option Str := none
  /-- The place after which it holds. -/
  effectiveFrom : Int := 0
  /-- The place up to which it holds. -/
  effectiveUntil : Option Int := none
  /-- The messages of a turn. -/
  messages : List Message := []
  deriving DecidableEq

/-- Whether an item is a turn. -/
def Item.isTurn (item : Item) : Bool := item.kind = "turn".toList

/-- Whether an item is a fact. -/
def Item.isFact (item : Item) : Bool := item.kind = "fact".toList

/-- The items of all conversations. -/
structure PooledStore where
  /-- The items. -/
  items : List Item

/-- Whether an item is in the scope of a question. -/
def Item.inScope (case : Case) (step : Step) (item : Item) : Bool :=
  item.tenantId = case.tenantId && item.conversationId = case.conversationId &&
    decide (item.sourceSequence < step.afterSequence + 1) && item.status = "active".toList &&
    decide (item.effectiveFrom < step.afterSequence + 1) &&
    item.effectiveUntil.all fun last => step.afterSequence + 1 ≤ last

/-- The items in the scope of a question. -/
def PooledStore.scoped (store : PooledStore) (case : Case) (step : Step) : List Item :=
  store.items.filter (Item.inScope case step)

/-- A retrieval failed. -/
inductive RetrievalError
  /-- `ValueError`. -/
  | value (message : Str)
  /-- `ValueError` of a text that is no whole number. -/
  | notANumber (text : Str)
  /-- `ValueError` of a text that is no UUID. -/
  | notAUuid (text : Str)
  /-- `KeyError`. -/
  | missing (key : Int)
  /-- `IndexError`. -/
  | index
  /-- The messages are out of order. -/
  | integrity (problem : HistoryIntegrityError)
  /-- What the embedding function raised. -/
  | embedding (problem : Str)

/-- The limits of a retrieval. -/
structure Limits where
  /-- Most messages of the window. -/
  conversationHistoryMaxMessages : Int
  /-- Most characters of the window. -/
  conversationHistoryMaxChars : Int
  /-- Most characters added to a request. -/
  chatPromptMaxAddedContextChars : Int

/-- `int(...)` of a text. -/
def parseInt (text : Str) : Except RetrievalError Int :=
  match Numeral.intLiteral 10 text with
  | none => .error (.notANumber text)
  | some number => .ok number

/-! ## Dense ranking -/

section Dense

/-- What is embedded, and where it comes from. -/
structure EmbeddingRequest where
  /-- The text. -/
  text : Str
  /-- The tenant. -/
  tenantId : Str
  /-- The conversation. -/
  conversationId : Str
  /-- `turn`, `fact` or `query`. -/
  role : Str

variable {K : Type} [Field K] [LinearOrder K]

/-- How facts and turns are ranked by their embeddings. -/
structure RetrievalConfig (K : Type) [Field K] [LinearOrder K] where
  /-- Most candidates. -/
  candidateTopK : Int
  /-- The least score. -/
  similarityThreshold : K
  /-- Most items selected. -/
  finalTopN : Int
  /-- Candidates are wanted. -/
  candidates : 1 ≤ candidateTopK
  /-- Items are wanted. -/
  wanted : 1 ≤ finalTopN
  /-- No more items than candidates are wanted. -/
  narrower : finalTopN ≤ candidateTopK
  /-- The threshold is a cosine. -/
  threshold : -1 ≤ similarityThreshold ∧ similarityThreshold ≤ 1

/-- The cosine of two vectors. -/
def cosine (sqrt : K → K) (left right : List K) : Except RetrievalError K :=
  let dot := (List.zipWith (· * ·) left right).sum
  let leftNorm := sqrt (left.map fun a => a * a).sum
  let rightNorm := sqrt (right.map fun b => b * b).sum
  if leftNorm = 0 ∨ rightNorm = 0 then
    .error (.value "cosine is undefined for a zero vector".toList)
  else .ok (dot / (leftNorm * rightNorm))

/-- The key by which scored items are ordered. -/
def denseKey (pair : K × Item) : K ×ₗ Int ×ₗ Str :=
  toLex (-pair.1, toLex (pair.2.sourceSequence, pair.2.itemId))

/-- The score of an item. -/
def scoreItem
    (sqrt : K → K)
    (embed : EmbeddingRequest → Except Str (List K))
    (query : List K)
    (item : Item) : Except RetrievalError (K × Item) := do
  let vector ← (embed ⟨item.content, item.tenantId, item.conversationId, item.kind⟩).mapError
    .embedding
  let score ← cosine sqrt query vector
  .ok (score, item)

/-- The items in scope that are most similar to the question. -/
def rankDense
    (sqrt : K → K)
    (embed : EmbeddingRequest → Except Str (List K))
    (config : RetrievalConfig K)
    (case : Case)
    (step : Step)
    (items : List Item) : Except RetrievalError (List Item) := do
  let inScope := PooledStore.scoped ⟨items⟩ case step
  if inScope.isEmpty then .ok []
  else if config.candidateTopK < inScope.length then
    .error (.value "candidate_top_k would bind; increase the engineering bound".toList)
  else
    let query ← (embed ⟨step.question, case.tenantId, case.conversationId,
      "query".toList⟩).mapError .embedding
    let scored ← inScope.mapM (scoreItem sqrt embed query)
    let ranked := Queries.sortBy denseKey scored
    let candidates := (ranked.take config.candidateTopK.toNat).filter fun pair =>
      config.similarityThreshold ≤ pair.1
    .ok ((candidates.map (·.2)).take config.finalTopN.toNat)

end Dense

/-! ## Packing -/

/-- What a retrieval delivers. -/
structure Delivery where
  /-- How the evidence was selected. -/
  arm : Str
  /-- What is reported as delivered. -/
  items : List Item
  /-- The recent window. -/
  window : List ChatMessage
  /-- The evidence as it is sent. -/
  renderedEvidence : Str
  /-- Whether the selection exceeds the cap. -/
  budgetBinding : Bool
  /-- How many facts were not delivered. -/
  factsDropped : Int

section Packing

variable (F : Type) [FloatOps F]

/-- What a fact says. -/
def factText (item : Item) : Str :=
  Json.dumps (F := F) promptStyle (.dict
    [("statement".toList, .str item.content),
      ("value".toList, match item.value with
        | none => .none
        | some value => .str value),
      ("source_message_ids".toList, .list (item.sourceMessageIds.map .str)),
      ("status".toList, .str item.status)])

/-- The largest number of some items, zero where there are none. -/
def largestId (episodic : List Item) : Except RetrievalError Int := do
  let ids ← episodic.mapM fun item => parseInt item.itemId
  .ok (match ids with
    | [] => 0
    | first :: rest => rest.foldl max first)

/-- The event of the item at a place of the selection. -/
def eventOf (episodic : List Item) (pair : Item × Nat) :
    Except RetrievalError RetrievedMemoryEvent := do
  if pair.1.isTurn then
    let id ← parseInt pair.1.itemId
    .ok ⟨id, pair.1.content⟩
  else
    let largest ← largestId episodic
    .ok ⟨largest + pair.2 + 1, factText F pair.1⟩

/-- The evidence as it is sent. -/
def renderedEvents (events : List RetrievedMemoryEvent) : Str :=
  renderMemoryEventsBlock (F := F) (events.map (·.providerDict))

/-- The messages at the end that are as many as were delivered. -/
def suffixOf (messages : List Message) (delivered : List ChatMessage) : List Message :=
  if delivered.isEmpty then []
  else sliceFrom messages ((messages.length : Int) - delivered.length)

/-- The identifiers of the messages that are delivered as they are. -/
def completeIds (messages : List Message) (delivered : List ChatMessage) : List Str :=
  ((messages.zip delivered).filter fun pair =>
    pair.1.role = pair.2.role && pair.1.content = pair.2.content).map fun pair => pair.1.messageId

/-- The turns of the window all of whose sources are delivered as they are. -/
def completeWindow (windowItems : List Item) (delivered : List ChatMessage) : List Item :=
  windowItems.filter fun item => item.sourceMessageIds.all fun id =>
    decide (id ∈ completeIds (suffixOf (windowItems.flatMap (·.messages)) delivered) delivered)

/-- Pack a selection with the window, and say what was delivered. -/
def packDelivery
    (arm : Str)
    (window : List ChatMessage)
    (windowItems episodic facts : List Item)
    (question : Str)
    (maxChars : Int) : Except RetrievalError Delivery := do
  let selected := facts ++ episodic
  let events ← selected.zipIdx.mapM (eventOf F episodic)
  let memory : ChatMemoryContext := { messages := window, retrievedEvents := events }
  let before := windowChars window +
    if selected.isEmpty then 0 else (renderedEvents F events).length
  let packed := (enforceAddedContextCap F memory {} question maxChars).1
  let retained := selected.take packed.retrievedEvents.length
  let rendered := if retained.isEmpty then [] else renderedEvents F packed.retrievedEvents
  .ok {
    arm
    items := completeWindow windowItems packed.messages ++ retained
    window := packed.messages
    renderedEvidence := rendered
    budgetBinding := maxChars < before
    factsDropped := (facts.length : Int) - retained.countP Item.isFact }

end Packing

/-! ## Retrieval -/

/-- Both sides of the history of the turns in scope. -/
def partitionOf (items : List Item) (case : Case) (limits : Limits) :
    Except RetrievalError WindowPartition :=
  let messages := items.flatMap fun item => item.messages.map Message.toHistory
  match Uuid.ofText case.conversationId with
  | none => .error (.notAUuid case.conversationId)
  | some conversationId =>
      if conversationId.text ≠ case.conversationId then
        .error (.value "scope mismatch".toList)
      else
        match ConversationHistoryAssembler.assemble limits.conversationHistoryMaxMessages
            limits.conversationHistoryMaxChars messages with
        | .error problem => .error (.integrity problem)
        | .ok bounded =>
            match buildMaterializedWindow messages bounded.messages with
            | none => .error .index
            | some partition => .ok partition

/-- The items under their numbers. -/
def itemsById (turns : List Item) : Except RetrievalError (List (Int × Item)) := do
  let ids ← turns.mapM fun item => parseInt item.itemId
  .ok (Keyed.ofList (ids.zip turns))

/-- What is under a number. -/
def lookUp {Entry : Type} (entries : List (Int × Entry)) (key : Int) :
    Except RetrievalError Entry :=
  match Keyed.find entries key with
  | none => .error (.missing key)
  | some entry => .ok entry

/-- What was selected for a question. -/
structure Selection where
  /-- The turns of the recent window. -/
  windowTurns : List Item
  /-- The window, packed on its own. -/
  window : List ChatMessage
  /-- The turns of the packed window. -/
  windowItems : List Item
  /-- Evidence ranked by its words. -/
  episodic : List Item
  /-- Evidence ranked by its embedding. -/
  denseEvidence : List Item
  /-- Facts ranked by their embedding. -/
  facts : List Item

/-- The turns in the scope of a question, in their order. -/
def PooledStore.turns (store : PooledStore) (case : Case) (step : Step) : List Item :=
  Queries.sortBy (·.sourceSequence) ((store.scoped case step).filter Item.isTurn)

section Retrieve

variable (F : Type) [FloatOps F] {K : Type} [Field K] [LinearOrder K]

/-- Select what is to be packed. -/
def select
    (lexicon : Bm25.Lexicon K)
    (sqrt : K → K)
    (embed : EmbeddingRequest → Except Str (List K))
    (config : RetrievalConfig K)
    (limits : Limits)
    (store : PooledStore)
    (case : Case)
    (step : Step) : Except RetrievalError Selection := do
  let cap := limits.chatPromptMaxAddedContextChars
  let inScope := store.scoped case step
  let turns := store.turns case step
  let partition ← partitionOf turns case limits
  let window := (packRecentWindow
    (partition.window.map fun message => ⟨message.role, message.content⟩) cap 0).messages
  let byId ← itemsById turns
  let windowTurns ← partition.windowUnits.mapM fun turn => lookUp byId turn.firstSequence
  let windowItems :=
    if window.isEmpty then []
    else sliceFrom windowTurns ((windowTurns.length : Int) - (window.length / 2 : Nat))
  let corpus := RetrievalCorpus.fromPartition partition
  let room := max 0 (cap - windowChars window)
  match Bm25.rankEvents lexicon corpus.events (Bm25.queryTokens lexicon step.question) with
  | none => .error (.value "BM25 average document length is zero".toList)
  | some ranked =>
      let selected := (Bm25.packSelectedEvents ranked room []).1
      let episodic ← selected.mapM fun event => lookUp byId event.eventId
      let candidates ← corpus.events.mapM fun event => lookUp byId event.eventId
      let dense ← rankDense sqrt embed config case step candidates
      let facts ← rankDense sqrt embed config case step (inScope.filter Item.isFact)
      let corpusById := Keyed.ofList (corpus.events.map fun event => (event.eventId, event))
      let denseRanked ← dense.mapM fun item => do
        let id ← parseInt item.itemId
        let event ← lookUp corpusById id
        .ok (⟨event, 0⟩ : Bm25.RankedEvent K)
      let denseSelected := (Bm25.packSelectedEvents denseRanked room []).1
      let denseEvidence ← denseSelected.mapM fun event => lookUp byId event.eventId
      .ok { windowTurns, window, windowItems, episodic, denseEvidence, facts }

/-- A way to select: its name, the evidence and the facts. -/
structure Arm where
  /-- Its name. -/
  name : Str
  /-- The evidence. -/
  evidence : List Item
  /-- The facts. -/
  semantic : List Item

/-- The ways to select, in their order. -/
def Selection.arms (selection : Selection) : List Arm :=
  [⟨"A".toList, selection.episodic, []⟩, ⟨"B".toList, selection.denseEvidence, []⟩,
    ⟨"C-ORACLE".toList, selection.episodic, selection.facts⟩]

/-- Select and pack in each way. -/
def retrieve
    (lexicon : Bm25.Lexicon K)
    (sqrt : K → K)
    (embed : EmbeddingRequest → Except Str (List K))
    (config : RetrievalConfig K)
    (limits : Limits)
    (store : PooledStore)
    (case : Case)
    (step : Step) : Except RetrievalError (List Delivery) := do
  let selection ← select lexicon sqrt embed config limits store case step
  selection.arms.mapM fun arm =>
    packDelivery F arm.name selection.window selection.windowItems arm.evidence arm.semantic
      step.question limits.chatPromptMaxAddedContextChars

end Retrieve

end SemanticMemory
end ChatPlatform
