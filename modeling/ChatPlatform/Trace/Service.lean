import ChatPlatform.Route.ResponseCache
import ChatPlatform.Store.Database

/-!
# Reconstructing a request

The trace service looks for the usage events of a request, picks the primary one, checks
its foreign keys, and follows them to the conversation and to the pair of messages. It
only reads, and what it finds odd it puts into the report.
-/

namespace ChatPlatform
namespace Trace

/-! ## The tables -/

/-- A row of the usage-events table with the time the database gave it. -/
structure StampedEvent where
  /-- The time. -/
  timestamp : Int
  /-- The other columns. -/
  row : UsageEventRow
  deriving DecidableEq

/-- The tables the service reads. -/
structure Tables extends Database where
  /-- The usage events. -/
  usageEvents : List StampedEvent := []

/-! ## The report -/

/-- One check of the report. -/
structure CheckResult where
  /-- What is checked. -/
  name : Str
  /-- Whether it is as expected. -/
  ok : Bool
  /-- More about it. -/
  detail : Option Str := none
  deriving DecidableEq

/-- What the service found odd. -/
structure Coherence where
  /-- The checks in order. -/
  checks : List CheckResult := []
  /-- The warnings. -/
  warnings : List Str := []
  /-- The errors. -/
  errors : List Str := []
  deriving DecidableEq

namespace Coherence

/-- Add a check. -/
def check
    (coherence : Coherence)
    (name : Str)
    (ok : Bool)
    (detail : Option Str := none) : Coherence :=
  { coherence with checks := coherence.checks ++ [⟨name, ok, detail⟩] }

/-- Add a warning. -/
def warn (coherence : Coherence) (warning : Str) : Coherence :=
  { coherence with warnings := coherence.warnings ++ [warning] }

/-- Add an error. -/
def err (coherence : Coherence) (error : Str) : Coherence :=
  { coherence with errors := coherence.errors ++ [error] }

@[simp] theorem check_errors
    (coherence : Coherence)
    (name : Str)
    (ok : Bool)
    (detail : Option Str) :
    (coherence.check name ok detail).errors = coherence.errors := rfl

@[simp] theorem warn_errors (coherence : Coherence) (warning : Str) :
    (coherence.warn warning).errors = coherence.errors := rfl

@[simp] theorem err_errors (coherence : Coherence) (error : Str) :
    (coherence.err error).errors = coherence.errors ++ [error] := rfl

end Coherence

/-- A message as it is reported. -/
structure MessageOut where
  /-- Primary key. -/
  id : Uuid
  /-- The conversation. -/
  conversationId : Uuid
  /-- Author. -/
  role : Role
  /-- Text. -/
  content : Str
  deriving DecidableEq

/-- The report of a row. -/
def messageOut (row : MessageRow) : MessageOut :=
  ⟨row.id, row.conversationId, row.role, row.content⟩

/-- A conversation as it is reported. -/
structure ConversationSummary where
  /-- Primary key. -/
  id : Uuid
  deriving DecidableEq

/-- The pair of messages of a request. -/
structure Reconstruction where
  /-- What the user wrote. -/
  inputMessage : Option MessageOut := none
  /-- What was answered. -/
  outputMessage : Option MessageOut := none
  deriving DecidableEq

/-- The report of a request. -/
structure TraceReport where
  /-- The request. -/
  requestId : Uuid
  /-- Its usage events, the newest first. -/
  events : List StampedEvent
  /-- The one the report is about. -/
  primaryEvent : StampedEvent
  /-- Its conversation. -/
  conversation : Option ConversationSummary
  /-- The messages of the conversation. -/
  messages : Option (List MessageOut)
  /-- The pair of messages. -/
  reconstruction : Option Reconstruction
  /-- What was found odd. -/
  coherence : Coherence

/-- Why there is no report. -/
inductive TraceFault
  /-- `ValueError`: the request has no usage event. -/
  | noUsageEvent
  /-- `UnboundLocalError`: the answer is not among the messages. -/
  | unboundLocal
  deriving DecidableEq

/-! ## The service -/

/-- The warning about several events. -/
def severalEvents : Str :=
  ("Multiple UsageEvents found for same request_id " ++
    "(using primary_event selection rule).").toList

/-- The error about a conversation that is not there. -/
def conversationMissing : Str :=
  ("conversation_id is present in UsageEvent but Conversation not found " ++
    "(FK inconsistency).").toList

/-- The warning about an incomplete pair. -/
def pairIncomplete : Str :=
  "Unable to reconstruct complete input/output pair (best-effort).".toList

/-- The text of a status. -/
def statusText : ChatStatus → Str
  | .success => "success".toList
  | .error => "error".toList

/-- The text of a member of the enumeration of roles. -/
def roleMemberText (role : Role) : Str :=
  "MessageRole.".toList ++ ResponseCache.roleText role

/-- A normalized name: trimmed, in lower case, and after the last dot. -/
def normStrEnum (text : Str) : Str :=
  let s := Text.lower (Text.strip text)
  if '.' ∈ s then ((Text.splitAt '.' s).getLast?).getD s else s

/-- The usage events of a request, the newest first. -/
def eventsOf (tables : Tables) (requestId : Uuid) : List StampedEvent :=
  (tables.usageEvents.filter fun event => event.row.requestId = requestId).insertionSort
    fun left right => right.timestamp < left.timestamp ∨
      (left.timestamp = right.timestamp ∧ right.row.id.value ≤ left.row.id.value)

/-- The first success, or else the newest event. -/
def selectPrimaryEvent (newest : StampedEvent) (others : List StampedEvent) :
    StampedEvent :=
  ((newest :: others).find? fun event =>
    Text.lower (statusText event.row.status) = "success".toList).getD newest

/-- The messages of a conversation in the order of their numbers, of any tenant. -/
def conversationMessages (tables : Tables) (conversationId : Uuid) : List MessageRow :=
  (tables.messages.filter fun row => row.conversationId = conversationId).insertionSort
    fun left right => left.sequence ≤ right.sequence

/-- The pair of messages: the given answer, or else the last one, and the user message
before it. -/
def reconstructPair
    (messages : List MessageRow)
    (outputMessageId : Option Uuid) : Except TraceFault Reconstruction :=
  match outputMessageId with
  | some outputMessageId =>
      match messages.find? (·.id = outputMessageId) with
      | none => .error .unboundLocal
      | some output =>
          let earlier := messages.takeWhile (·.id ≠ outputMessageId)
          let input := earlier.reverse.find? fun row =>
            normStrEnum (ResponseCache.roleText row.role) = "user".toList
          .ok ⟨input.map messageOut, some (messageOut output)⟩
  | none =>
      match messages.reverse.dropWhile fun row =>
          normStrEnum (ResponseCache.roleText row.role) ≠ "assistant".toList with
      | [] => .ok {}
      | output :: earlier =>
          let input := earlier.find? fun row =>
            Text.lower (roleMemberText row.role) = "user".toList
          .ok ⟨input.map messageOut, some (messageOut output)⟩

/-- The foreign keys a success lacks. -/
def missingKeys (event : UsageEventRow) : List Str :=
  (if event.conversationId = none then ["conversation_id".toList] else []) ++
    if event.messageId = none then ["message_id".toList] else []

/-- The check of the foreign keys of the primary event. -/
def checkKeys (coherence : Coherence) (event : UsageEventRow) : Coherence :=
  if normStrEnum (statusText event.status) = "success".toList then
    if missingKeys event = [] then coherence.check "success_has_fks".toList true
    else
      (coherence.err ("Success UsageEvent is missing FKs: ".toList ++
          Text.join ", ".toList (missingKeys event))).check "success_has_fks".toList
        false (some ("missing=".toList ++ Text.join [','] (missingKeys event)))
  else
    coherence.check "success_has_fks".toList true
      (some "status!=success (best-effort allowed)".toList)

/-- What was found by following the foreign keys. -/
structure Resolved where
  /-- The conversation. -/
  conversation : Option ConversationSummary := none
  /-- Its messages. -/
  messages : Option (List MessageOut) := none
  /-- The pair of messages. -/
  reconstruction : Option Reconstruction := none
  /-- What was found odd so far. -/
  coherence : Coherence

/-- Follow the foreign keys of the primary event. -/
def resolve
    (tables : Tables)
    (event : UsageEventRow)
    (coherence : Coherence) : Except TraceFault Resolved :=
  match event.conversationId with
  | none =>
      .ok
        { coherence := coherence.check "conversation_found".toList true
            (some "conversation_id is null (allowed for error/best-effort)".toList) }
  | some conversationId =>
      match tables.conversations.find? (·.id = conversationId) with
      | none =>
          let reported := coherence.err conversationMissing
          .ok { coherence := reported.check "conversation_found".toList false }
      | some conversation =>
          let found := coherence.check "conversation_found".toList true
          match conversationMessages tables conversationId with
          | [] =>
              let warned := found.warn "Conversation found but has no messages.".toList
              .ok
                { conversation := some ⟨conversation.id⟩
                  messages := some []
                  coherence := warned.check "messages_loaded".toList false
                    (some "count=0".toList) }
          | first :: rest =>
              let messages := first :: rest
              let loaded := found.check "messages_loaded".toList true
                (some ("count=".toList ++ Numeral.decimal messages.length))
              match reconstructPair messages event.messageId with
              | .error fault => .error fault
              | .ok pair =>
                  .ok
                    { conversation := some ⟨conversation.id⟩
                      messages := some (messages.map messageOut)
                      reconstruction := some pair
                      coherence :=
                        if pair.inputMessage = none ∨ pair.outputMessage = none then
                          (loaded.warn pairIncomplete).check
                            "input_output_resolved".toList false
                        else loaded.check "input_output_resolved".toList true }

/-- The report of a request. -/
def reconstructByRequestId (tables : Tables) (requestId : Uuid) :
    Except TraceFault TraceReport :=
  match eventsOf tables requestId with
  | [] => .error .noUsageEvent
  | newest :: others =>
      let found := Coherence.check {} "usage_event_found".toList true
      let counted :=
        if others = [] then found.check "single_usage_event".toList true
        else
          (found.warn severalEvents).check "single_usage_event".toList false
            (some ("count=".toList ++ Numeral.decimal (newest :: others).length))
      let primary := selectPrimaryEvent newest others
      match resolve tables primary.row (checkKeys counted primary.row) with
      | .error fault => .error fault
      | .ok resolved =>
          .ok
            { requestId
              events := newest :: others
              primaryEvent := primary
              conversation := resolved.conversation
              messages := resolved.messages
              reconstruction := resolved.reconstruction
              coherence := resolved.coherence }

end Trace
end ChatPlatform
