import ChatPlatform.Conversation.History
import ChatPlatform.Foundation.Uuid
import Mathlib.Data.List.Sort

/-!
# The conversation tables

Conversations, their messages and the usage events, with the reads the chat path
makes. Every message row has a sequence number of its own, given by the database
across all conversations.
-/

namespace ChatPlatform

/-- A row of the conversations table. -/
structure ConversationRow where
  /-- Primary key. -/
  id : Uuid
  /-- The tenant that owns the conversation. -/
  tenantId : Str
  deriving DecidableEq

/-- A row of the messages table. -/
structure MessageRow where
  /-- Primary key. -/
  id : Uuid
  /-- Number given by the database. -/
  sequence : Int
  /-- The conversation of the message. -/
  conversationId : Uuid
  /-- The tenant the message was stored for. -/
  tenantId : Str
  /-- Author of the message. -/
  role : Role
  /-- Text of the message. -/
  content : Str
  deriving DecidableEq

/-- Outcome of a chat request. -/
inductive ChatStatus
  | success
  | error
  deriving DecidableEq, Repr

/-- A row of the usage-events table. -/
structure UsageEventRow where
  /-- Primary key. -/
  id : Uuid
  /-- The provider that answered. -/
  provider : Str
  /-- The model that answered. -/
  modelVersion : Str
  /-- The prompt version. -/
  promptVersion : Str
  /-- Whether the request succeeded. -/
  status : ChatStatus
  /-- Identifier of the request. -/
  requestId : Uuid
  /-- Duration of the request. -/
  latencyMs : Int
  /-- What went wrong. -/
  errorMessage : Option Str
  /-- Foreign key to the conversation. -/
  conversationId : Option Uuid
  /-- Foreign key to the answer. -/
  messageId : Option Uuid
  /-- Tokens read. -/
  inputTokens : Option Int := none
  /-- Tokens written. -/
  outputTokens : Option Int := none
  /-- Their sum. -/
  totalTokens : Option Int := none
  deriving DecidableEq

/-- The committed rows. -/
structure Database where
  /-- The conversations. -/
  conversations : List ConversationRow := []
  /-- The messages. -/
  messages : List MessageRow := []
  deriving DecidableEq

/-- No two message rows have the same sequence number. -/
def DistinctSequences (messages : List MessageRow) : Prop :=
  (messages.map (·.sequence)).Nodup

/-- The history message of a row. -/
def MessageRow.toHistory (row : MessageRow) : HistoryMessage :=
  ⟨row.sequence, row.role, row.content⟩

namespace Database

/-- The conversation with an identifier, when the tenant owns it. -/
def getConversation (database : Database) (conversationId : Uuid) (tenantId : Str) :
    Option ConversationRow :=
  match database.conversations.find? (·.id = conversationId) with
  | none => none
  | some conversation =>
      if conversation.tenantId ≠ tenantId then none else some conversation

/-- The rows of a conversation and a tenant. -/
def messagesOf (database : Database) (conversationId : Uuid) (tenantId : Str) :
    List MessageRow :=
  database.messages.filter fun row =>
    row.conversationId = conversationId && row.tenantId = tenantId

/-- The newest rows of a conversation, oldest first: descending order, limit,
reversal. -/
def listRecentMessages
    (database : Database)
    (conversationId : Uuid)
    (tenantId : Str)
    (maxRows : Int) : List MessageRow :=
  let descending := (database.messagesOf conversationId tenantId).insertionSort
    fun left right => left.sequence ≥ right.sequence
  (descending.take maxRows.toNat).reverse

/-- All rows of a conversation, oldest first. -/
def listMessages
    (database : Database)
    (conversationId : Uuid)
    (tenantId : Str) : List MessageRow :=
  (database.messagesOf conversationId tenantId).insertionSort
    fun left right => left.sequence ≤ right.sequence

/-- The history port: the rows of a conversation the tenant owns, `none` when it
does not own it. -/
def fetchOrdered
    (database : Database)
    (conversationId : Uuid)
    (tenantId : Str)
    (maxRows : Option Int) : Option (List HistoryMessage) :=
  match database.getConversation conversationId tenantId with
  | none => none
  | some _ =>
      some ((match maxRows with
        | none => database.listMessages conversationId tenantId
        | some maxRows =>
            database.listRecentMessages conversationId tenantId maxRows).map
        MessageRow.toHistory)

/-- A conversation that is found is stored and the tenant's. -/
theorem getConversation_spec
    {database : Database}
    {conversationId : Uuid}
    {tenantId : Str}
    {conversation : ConversationRow}
    (found : database.getConversation conversationId tenantId = some conversation) :
    conversation ∈ database.conversations ∧ conversation.id = conversationId ∧
      conversation.tenantId = tenantId := by
  unfold getConversation at found
  split at found
  · cases found
  · rename_i row first
    split at found
    · cases found
    · rename_i owned
      cases found
      have same := List.find?_some first
      exact ⟨List.mem_of_find?_eq_some first, by simpa using same, not_not.mp owned⟩

/-- New conversations of others are not found. -/
theorem getConversation_append_foreign
    {database : Database}
    {rows : List ConversationRow}
    {messages : List MessageRow}
    {tenantId : Str}
    (foreign : ∀ row ∈ rows, row.tenantId ≠ tenantId)
    (conversationId : Uuid) :
    getConversation ⟨database.conversations ++ rows, messages⟩ conversationId tenantId =
      database.getConversation conversationId tenantId := by
  unfold getConversation
  rw [List.find?_append]
  cases found : database.conversations.find? (·.id = conversationId) with
  | some conversation => rfl
  | none =>
      rw [Option.none_or]
      cases later : rows.find? (·.id = conversationId) with
      | none => rfl
      | some row =>
          have isForeign := foreign row (List.mem_of_find?_eq_some later)
          simp [isForeign]

/-- New conversations are found next to the old ones. -/
theorem getConversation_append
    {database : Database}
    {rows : List ConversationRow}
    (fresh : ∀ row ∈ rows, ∀ other ∈ database.conversations, other.id ≠ row.id)
    (messages : List MessageRow)
    (conversationId : Uuid)
    (tenantId : Str) :
    getConversation ⟨database.conversations ++ rows, messages⟩ conversationId tenantId =
      (database.getConversation conversationId tenantId).or
        (getConversation ⟨rows, []⟩ conversationId tenantId) := by
  unfold getConversation
  rw [List.find?_append]
  cases found : database.conversations.find? (·.id = conversationId) with
  | none => rfl
  | some conversation =>
      have isGiven : conversation.id = conversationId := by
        simpa using List.find?_some found
      have nothing : rows.find? (·.id = conversationId) = none := by
        apply List.find?_eq_none.mpr
        intro row present
        have apart := fresh row present conversation (List.mem_of_find?_eq_some found)
        rw [isGiven] at apart
        simpa using apart.symm
      simp [nothing]

/-- What the history read returns is stored for that conversation and tenant. -/
theorem mem_of_mem_listRecentMessages
    {database : Database}
    {conversationId : Uuid}
    {tenantId : Str}
    {maxRows : Int}
    {row : MessageRow}
    (present : row ∈ database.listRecentMessages conversationId tenantId maxRows) :
    row ∈ database.messages ∧ row.conversationId = conversationId ∧
      row.tenantId = tenantId := by
  have sorted := List.mem_of_mem_take (List.mem_reverse.mp present)
  have held := (List.perm_insertionSort _ _).mem_iff.mp sorted
  simpa [messagesOf] using List.mem_filter.mp held

/-- Descending order of sequence numbers is total. -/
instance : Std.Total fun left right : MessageRow =>
    left.sequence ≥ right.sequence :=
  ⟨fun left right => Int.le_total right.sequence left.sequence⟩

/-- Descending order of sequence numbers is transitive. -/
instance : IsTrans MessageRow fun left right =>
    left.sequence ≥ right.sequence :=
  ⟨fun _ _ _ first second => Int.le_trans second first⟩

/-- The history read is in ascending sequence when sequence numbers are distinct. -/
theorem strictlyIncreasing_listRecentMessages
    {database : Database}
    (distinct : DistinctSequences database.messages)
    (conversationId : Uuid)
    (tenantId : Str)
    (maxRows : Int) :
    StrictlyIncreasing ((database.listRecentMessages conversationId tenantId
      maxRows).map MessageRow.toHistory) := by
  have apart : (database.messagesOf conversationId tenantId).Pairwise
      fun left right => left.sequence ≠ right.sequence :=
    (List.pairwise_map.mp distinct).sublist List.filter_sublist
  have sorted := List.pairwise_insertionSort
    (fun left right : MessageRow => left.sequence ≥ right.sequence)
    (database.messagesOf conversationId tenantId)
  have sortedApart := (List.Perm.pairwise_iff (fun different => different.symm)
    (List.perm_insertionSort
      (fun left right : MessageRow => left.sequence ≥ right.sequence)
      (database.messagesOf conversationId tenantId))).mpr apart
  have descending := (sorted.and sortedApart).sublist
    (List.take_sublist maxRows.toNat _)
  unfold listRecentMessages StrictlyIncreasing
  rw [List.pairwise_map, List.pairwise_reverse]
  refine descending.imp ?_
  intro later earlier both
  have notLess := both.1
  have different := both.2
  simp only [MessageRow.toHistory]
  omega

end Database

/-! ## What the columns of a usage event accept

The database refuses a text with a null character, a text longer than its column
unless only blanks stand beyond the limit, and an integer that does not fit into four
octets. -/

namespace Column

/-- Whether a text can be stored at all. -/
def acceptsText (text : Str) : Bool := !(text.contains (Char.ofNat 0))

/-- Whether a column of limited length accepts a text. -/
def acceptsString (limit : Nat) (text : Str) : Bool :=
  acceptsText text && (text.drop limit).all (· == ' ')

/-- Whether an integer column accepts a number. -/
def acceptsInteger (number : Int) : Bool :=
  -2147483648 ≤ number && number ≤ 2147483647

end Column

namespace UsageEventRow

/-- Whether every column accepts its value. -/
def fits (row : UsageEventRow) : Bool :=
  Column.acceptsString 64 row.provider &&
    Column.acceptsString 128 row.modelVersion &&
    Column.acceptsString 64 row.promptVersion &&
    Column.acceptsInteger row.latencyMs &&
    row.errorMessage.all Column.acceptsText &&
    row.inputTokens.all Column.acceptsInteger &&
    row.outputTokens.all Column.acceptsInteger &&
    row.totalTokens.all Column.acceptsInteger

end UsageEventRow
end ChatPlatform
