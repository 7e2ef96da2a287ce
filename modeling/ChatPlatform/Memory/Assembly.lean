import ChatPlatform.Conversation.Partition
import ChatPlatform.Memory.Ranking
import ChatPlatform.Prompt.Packer
import ChatPlatform.Settings
import ChatPlatform.Store.Database

/-!
# Assembling conversation memory

The memory of a request is read before the write transaction. It is empty for the
first turn of a conversation, for a conversation of another tenant and after any
failure. Otherwise it is the materialized window, packed to the cap, and, when
evidence retrieval is on, the best units outside the window that still fit.
-/

namespace ChatPlatform

/-- The body of a chat request. -/
structure ChatRequest where
  /-- The conversation to continue; absent for a new one. -/
  conversationId : Option Uuid
  /-- The message of the user. -/
  message : Str
  /-- Whether the answer is streamed. -/
  stream : Bool := false
  deriving DecidableEq

/-- Why a history read failed other than by a missing conversation. -/
inductive HistoryFault
  | timeout
  | error
  deriving DecidableEq, Repr

/-- Why no memory was assembled. -/
inductive MemoryFault
  | notFound
  | timeout
  | error
  deriving DecidableEq, Repr

/-- The outcome recorded for a fault. -/
def MemoryFault.outcome : MemoryFault → MemoryOutcome
  | .notFound => .conversationNotFound
  | .timeout => .timeout
  | .error => .error

/-- What was materialized from the stored history. -/
structure Materialized where
  /-- The two sides of the history. -/
  partition : WindowPartition
  /-- Whether the window is shorter than what was read. -/
  truncated : Bool
  /-- Whether the read returned as many rows as it may. -/
  capReached : Bool

/-- Read once, bound, snap and filter. -/
def materializeWindow
    (settings : ChatSettings)
    (database : Database)
    (conversationId : Uuid)
    (tenantId : Str) : Except MemoryFault Materialized :=
  match database.fetchOrdered conversationId tenantId
      (some settings.conversationHistoryMaxRows) with
  | none => .error .notFound
  | some allMessages =>
      match ConversationHistoryAssembler.assemble
          settings.conversationHistoryMaxMessages
          settings.conversationHistoryMaxChars allMessages with
      | .error _ => .error .error
      | .ok assembled =>
          match buildMaterializedWindow allMessages assembled.messages with
          | none => .error .error
          | some partition =>
              .ok
                { partition
                  truncated := partition.window.length < allMessages.length
                  capReached :=
                    allMessages.length = settings.conversationHistoryMaxRows }

/-- What the memory dependency delivers and records. -/
structure MemoryReport where
  /-- The context of the request. -/
  context : ChatMemoryContext
  /-- The outcome recorded, if any. -/
  outcome : Option MemoryOutcome
  /-- The number of selected units recorded, if any. -/
  selectedCount : Option Nat := none

/-- The empty memory with an outcome. -/
def MemoryReport.degraded (outcome : Option MemoryOutcome) : MemoryReport :=
  ⟨{}, outcome, none⟩

/-- What evidence retrieval adds to a window. -/
structure Evidence where
  /-- The selected units. -/
  events : List RetrievedMemoryEvent
  /-- The outcome that replaces the one of the window, if any. -/
  outcome : Option MemoryOutcome

section Retrieval

variable {K : Type} [Field K] [LinearOrder K]

/-- Rank the units outside the window and select what fits next to it. -/
def selectEvidence
    (settings : ChatSettings)
    (lexicon : Bm25.Lexicon K)
    (partition : WindowPartition)
    (window : List ChatMessage)
    (message : Str) : Evidence :=
  let corpus := RetrievalCorpus.fromPartition partition
  if corpus.isEmpty then ⟨[], some .noOutOfWindowCorpus⟩
  else
    let remainingBudget :=
      settings.chatPromptMaxAddedContextChars - windowChars window
    match Bm25.rankEvents lexicon corpus.events
        (Bm25.queryTokens lexicon message) with
    | none => ⟨[], some .error⟩
    | some ranked =>
        match (Bm25.packSelectedEvents ranked (max remainingBudget 0) []).1 with
        | [] => ⟨[], some .budgetStarved⟩
        | event :: rest =>
            ⟨(event :: rest).map fun event => ⟨event.eventId, event.documentText⟩,
              none⟩

/-- The memory of a window: packed, and with evidence when retrieval is on. -/
def memoryOfPartition
    (settings : ChatSettings)
    (lexicon : Bm25.Lexicon K)
    (materialized : Materialized)
    (message : Str) : MemoryReport :=
  let whole := ChatMemoryContext.fromPartition materialized.partition
    materialized.truncated materialized.capReached
  let packed := packRecentWindow whole.messages
    settings.chatPromptMaxAddedContextChars 0
  let windowed := { whole with
    messages := packed.messages
    truncated := whole.truncated || packed.truncated }
  let evidence : Option Evidence :=
    if settings.ebm25Enabled then
      some (selectEvidence settings lexicon materialized.partition
        windowed.messages message)
    else none
  let context :=
    match evidence with
    | none => windowed
    | some evidence => { windowed with retrievedEvents := evidence.events }
  { context
    outcome :=
      if packed.truncated then some .budgetStarved
      else
        match evidence.bind (·.outcome) with
        | some outcome => some outcome
        | none => some (if context.messages = [] then .empty else .ok)
    selectedCount := evidence.map (·.events.length) }

/-- The memory dependency. It never fails: every failure gives empty memory. -/
def getChatMemoryContext
    (settings : ChatSettings)
    (lexicon : Bm25.Lexicon K)
    (request : ChatRequest)
    (tenantId : Str)
    (read : Except HistoryFault Database) : MemoryReport :=
  if !settings.conversationHistoryEnabled then .degraded none
  else
    match request.conversationId with
    | none => .degraded (some .skippedFirstTurn)
    | some conversationId =>
        match read with
        | .error .timeout => .degraded (some .timeout)
        | .error .error => .degraded (some .error)
        | .ok database =>
            match materializeWindow settings database conversationId tenantId with
            | .error fault => .degraded (some fault.outcome)
            | .ok materialized =>
                memoryOfPartition settings lexicon materialized request.message

/-- Without evidence retrieval no evidence is delivered. -/
theorem getChatMemoryContext_noEvidence
    {settings : ChatSettings}
    (off : settings.ebm25Enabled = false)
    (lexicon : Bm25.Lexicon K)
    (request : ChatRequest)
    (tenantId : Str)
    (read : Except HistoryFault Database) :
    (getChatMemoryContext settings lexicon request tenantId
      read).context.retrievedEvents = [] := by
  unfold getChatMemoryContext
  split
  · rfl
  · split
    · rfl
    · split
      · rfl
      · rfl
      · split
        · rfl
        · simp [memoryOfPartition, off, ChatMemoryContext.fromPartition]

end Retrieval

end ChatPlatform
