import ChatPlatform.EventLog.Events
import ChatPlatform.Foundation.Keyed

/-!
# The fact store

Facts extracted from a conversation, updated forward only. One extraction is a list of
operations: each asserts a value of a slot or retracts the slot's value, and sees what
the ones before it did. The identity of a fact is a digest of where it was asserted.
-/

namespace ChatPlatform
namespace Facts

/-- What is taken from the Unicode tables. -/
structure Unicode where
  /-- Normalization form C. -/
  nfc : Str → Str
  /-- Normalization form KC with case folded. -/
  nfkcFolded : Str → Str

/-- What building operations and applying them raise. -/
inductive FactError
  /-- A value is not accepted. -/
  | value (message : Str)
  /-- A value cannot be looked up in a set. -/
  | type
  deriving DecidableEq

/-- Whether a text says something. -/
def isText (value : Str) : Bool := Text.strip value ≠ []

section Tables

variable (unicode : Unicode)

/-- The normal form of a text that says something. -/
def text (value : Str) : Except FactError Str :=
  if isText value then .ok (unicode.nfc value)
  else .error (.value "expected non-empty text".toList)

/-- Runs of white space become one blank, and there is none at the ends. -/
def normalizeValue (value : Str) : Str :=
  Text.join " ".toList (Text.words (unicode.nfkcFolded value))

end Tables

/-! ## Identities -/

/-- The version of the encoding of identities. -/
def factIdEncoding : Str := "orq39-fact-id-v1".toList

/-- What the identity of a fact is a digest of. -/
structure Identity where
  /-- The tenant. -/
  tenantId : Str
  /-- The conversation. -/
  conversationId : Str
  /-- The slot. -/
  slotKey : Str
  /-- The sequence number of the message. -/
  sourceSequence : Int
  /-- The place of the operation in its extraction. -/
  opIndexWithinExtraction : Nat
  deriving DecidableEq

/-- An identity as a dictionary. -/
def Identity.fields (identity : Identity) : Dict Empty :=
  [("encoding_version".toList, .str factIdEncoding),
    ("tenant_id".toList, .str identity.tenantId),
    ("conversation_id".toList, .str identity.conversationId),
    ("slot_key".toList, .str identity.slotKey),
    ("source_sequence".toList, .int identity.sourceSequence),
    ("op_index_within_extraction".toList, .int identity.opIndexWithinExtraction)]

/-- The canonical text of an identity, which holds no floating-point number. -/
def Identity.text (identity : Identity) : Str :=
  Json.dumps ⟨true, false⟩ (.dict identity.fields)

/-- Check that an integer is not negative. -/
def integer (value : Int) : Except FactError Unit :=
  if value < 0 then .error (.value "expected a non-negative integer".toList) else .ok ()

/-- The identity of what an operation asserts, with its texts in normal form. -/
def identityOf
    (unicode : Unicode)
    (tenantId conversationId slotKey : Str)
    (sourceSequence : Int)
    (opIndexWithinExtraction : Nat) : Except FactError Identity := do
  integer sourceSequence
  integer opIndexWithinExtraction
  let tenantId ← text unicode tenantId
  let conversationId ← text unicode conversationId
  let slotKey ← text unicode slotKey
  return { tenantId, conversationId, slotKey, sourceSequence, opIndexWithinExtraction }

/-- The digest of an identity. -/
def factId (sha256 : Str → Fin (2 ^ 256)) (identity : Identity) : Str :=
  EventLog.sha256Hex sha256 identity.text

/-! ## Operations -/

/-- What a fact is. -/
inductive Kind
  | fact
  | preference
  | constraint
  | decision
  | goal
  deriving DecidableEq, Repr

/-- What an operation does, with the value it asserts. -/
inductive Change
  | assert (value : Str)
  | retract
  deriving DecidableEq

/-- Lower-case words with digits, joined by single underscores, the first of which starts
with a letter. -/
def isSnakeCase (slotKey : Str) : Bool :=
  (slotKey.head?.any fun c => c.isLower) &&
    (Text.splitAt '_' slotKey).all fun word =>
      word ≠ [] && word.all fun c => c.isLower || c.isDigit

/-- An operation that passed its checks. -/
structure Operation where
  /-- What it does. -/
  change : Change
  /-- The slot. -/
  slotKey : Str
  /-- What the value is. -/
  kind : Kind
  /-- The messages it comes from. -/
  sourceMessageIds : List Str
  /-- The slot is in snake case. -/
  snakeCase : isSnakeCase slotKey = true
  /-- A value that is asserted says something. -/
  valued : ∀ value, change = .assert value → isText value = true
  /-- It comes from somewhere. -/
  sourced : sourceMessageIds ≠ []
  /-- The messages are named. -/
  named : sourceMessageIds.all isText = true

variable {F : Type}

/-- Whether an operation asserts something. -/
def assertsOf : Value F → Except FactError Bool
  | .str op =>
      if op = "assert".toList then .ok true
      else if op = "retract".toList then .ok false
      else .error (.value "unknown operation".toList)
  | .list _ => .error .type
  | .dict _ => .error .type
  | _ => .error (.value "unknown operation".toList)

/-- The slot of an operation. -/
def slotKeyOf : Value F → Except FactError { slotKey : Str // isSnakeCase slotKey = true }
  | .str slotKey =>
      if snakeCase : isSnakeCase slotKey = true then .ok ⟨slotKey, snakeCase⟩
      else .error (.value "slot_key must be snake_case".toList)
  | _ => .error (.value "slot_key must be snake_case".toList)

/-- The kinds by name. -/
def kinds : List (Str × Kind) :=
  [("fact".toList, .fact), ("preference".toList, .preference),
    ("constraint".toList, .constraint), ("decision".toList, .decision),
    ("goal".toList, .goal)]

/-- The kind of an operation. -/
def kindOf : Value F → Except FactError Kind
  | .str name =>
      match kinds.lookup name with
      | some kind => .ok kind
      | none => .error (.value "unknown kind".toList)
  | .list _ => .error .type
  | .dict _ => .error .type
  | _ => .error (.value "unknown kind".toList)

/-- The value of an operation. -/
def changeOf (asserts : Bool) (value : Value F) :
    Except FactError { change : Change // ∀ value, change = .assert value → isText value = true } :=
  match asserts, value with
  | true, .str value =>
      if isSaid : isText value = true then
        .ok ⟨.assert value, fun _ same => by cases same; exact isSaid⟩
      else .error (.value "expected non-empty text".toList)
  | true, _ => .error (.value "expected non-empty text".toList)
  | false, .none => .ok ⟨.retract, nofun⟩
  | false, _ => .error (.value "retract requires null value".toList)

/-- The texts of some values that all say something. -/
def textsOf : List (Value F) → Except FactError { texts : List Str // texts.all isText = true }
  | [] => .ok ⟨[], rfl⟩
  | .str text :: rest =>
      if isSaid : isText text = true then
        (textsOf rest).map fun texts =>
          ⟨text :: texts.1, by rw [List.all_cons, isSaid, texts.2]; rfl⟩
      else .error (.value "expected non-empty text".toList)
  | _ :: _ => .error (.value "expected non-empty text".toList)

/-- The messages an operation comes from. -/
def sourcesOf (sources : List (Value F)) :
    Except FactError { ids : List Str // ids ≠ [] ∧ ids.all isText = true } :=
  match textsOf sources with
  | .error refusal =>
      .error refusal
  | .ok ⟨[], _⟩ => .error (.value "non-empty provenance tuple required".toList)
  | .ok ⟨id :: rest, named⟩ => .ok ⟨id :: rest, List.cons_ne_nil _ _, named⟩

/-- The keys of a payload. -/
def operationKeys : List Str :=
  ["op".toList, "slot_key".toList, "value".toList, "kind".toList,
    "source_message_ids".toList]

/-- The operation of a payload. -/
def Operation.fromPayload (payload : Dict F) : Except FactError Operation :=
  let field (name : String) := (Dict.get payload name.toList).getD .none
  if !Dict.hasKeySet payload operationKeys then
    .error (.value "unexpected operation fields".toList)
  else
    match field "source_message_ids" with
    | .list sources => do
        let asserts ← assertsOf (field "op")
        let ⟨slotKey, snakeCase⟩ ← slotKeyOf (field "slot_key")
        let kind ← kindOf (field "kind")
        let ⟨change, valued⟩ ← changeOf asserts (field "value")
        let ⟨sourceMessageIds, sourced, named⟩ ← sourcesOf sources
        return { change, slotKey, kind, sourceMessageIds, snakeCase, valued, sourced, named }
    | _ => .error (.value "source_message_ids must be a JSON array".toList)

/-! ## Facts -/

/-- Whether a fact is in force. -/
inductive FactStatus
  | active
  | superseded
  | retracted
  deriving DecidableEq, Repr

/-- A fact. -/
structure Fact where
  /-- Its identity. -/
  factId : Str
  /-- The tenant. -/
  tenantId : Str
  /-- The conversation. -/
  conversationId : Str
  /-- The slot. -/
  slotKey : Str
  /-- The value. -/
  value : Str
  /-- What the value is. -/
  kind : Kind
  /-- The text it was asserted in. -/
  statement : Str
  /-- The messages it comes from. -/
  sourceMessageIds : List Str
  /-- The sequence number of the message it was asserted in. -/
  sourceSequence : Int
  /-- Whether it is in force. -/
  status : FactStatus
  /-- The fact it took the place of. -/
  supersedes : Option Str
  /-- The fact that took its place. -/
  supersededBy : Option Str
  /-- The extractor. -/
  extractorVersion : Str
  deriving DecidableEq

/-- Why an operation is audited. -/
inductive AuditReason
  | retractWithoutActiveFact
  | validationRejection
  deriving DecidableEq, Repr

/-- An operation that had no effect. -/
structure AuditOperation where
  /-- Why. -/
  reason : AuditReason
  /-- The operation, if there is one. -/
  operation : Option Operation
  /-- The sequence number of the message. -/
  sourceSequence : Int
  /-- The place of the operation in its extraction. -/
  opIndexWithinExtraction : Nat
  /-- What was wrong. -/
  detail : Option Str

/-- The store of a conversation. -/
structure FactStore where
  /-- The tenant. -/
  tenantId : Str
  /-- The conversation. -/
  conversationId : Str
  /-- The extractor. -/
  extractorVersion : Str
  /-- The facts, in the order in which they were asserted. -/
  facts : List Fact := []
  /-- The operations that had no effect. -/
  audit : List AuditOperation := []
  /-- The sequence number of the last message. -/
  lastSequence : Int := -1

/-! ## Applying an extraction -/

/-- What is given as an operation. -/
inductive Given (F : Type)
  /-- An operation. -/
  | operation (operation : Operation)
  /-- A payload. -/
  | mapping (payload : Dict F)
  /-- Something else. -/
  | other

/-- The operation that is given. -/
def Given.validated : Given F → Except FactError Operation
  | .operation held => .ok held
  | .mapping payload => Operation.fromPayload payload
  | .other => .error (.value "expected validated Operation".toList)

/-- What an extraction did so far. -/
structure Progress where
  /-- The facts. -/
  facts : List Fact
  /-- The operations that had no effect. -/
  audit : List AuditOperation

/-- The first fact of a slot that is in force, with its place. -/
def findActive (facts : List Fact) (slotKey : Str) : Option (Nat × Fact) :=
  match facts.findIdx? fun fact => fact.slotKey = slotKey && fact.status = .active with
  | none => none
  | some place => facts[place]?.map fun fact => (place, fact)

/-- The message an extraction comes from. -/
structure Source where
  /-- Its sequence number. -/
  sourceSequence : Int
  /-- What it says. -/
  statement : Str

section Apply

variable (unicode : Unicode) (sha256 : Str → Fin (2 ^ 256))

/-- The identity of what an operation of an extraction asserts. -/
def FactStore.identity
    (store : FactStore)
    (sourceSequence : Int)
    (index : Nat)
    (operation : Operation) : Except FactError Identity :=
  identityOf unicode store.tenantId store.conversationId operation.slotKey sourceSequence index

/-- The fact an operation asserts. -/
def FactStore.newFact
    (store : FactStore)
    (source : Source)
    (operation : Operation)
    (value identifier : Str)
    (prior : Option Fact) : Fact where
  factId := identifier
  tenantId := store.tenantId
  conversationId := store.conversationId
  slotKey := operation.slotKey
  value := value
  kind := operation.kind
  statement := source.statement
  sourceMessageIds := operation.sourceMessageIds
  sourceSequence := source.sourceSequence
  status := .active
  supersedes := prior.map (·.factId)
  supersededBy := none
  extractorVersion := store.extractorVersion

/-- Apply one operation. -/
def FactStore.applyOperation
    (store : FactStore)
    (source : Source)
    (index : Nat)
    (progress : Progress)
    (operation : Operation) : Except FactError Progress :=
  match operation.change, findActive progress.facts operation.slotKey with
  | .retract, none =>
      .ok { progress with
        audit := progress.audit ++ [⟨.retractWithoutActiveFact, some operation,
          source.sourceSequence, index, none⟩] }
  | .retract, some (place, prior) =>
      .ok { progress with
        facts := progress.facts.set place
          { prior with status := .retracted, supersededBy := none } }
  | .assert value, none => do
      let identity ← store.identity unicode source.sourceSequence index operation
      return { progress with
        facts := progress.facts ++
          [store.newFact source operation value (factId sha256 identity) none] }
  | .assert value, some (place, prior) =>
      if normalizeValue unicode prior.value = normalizeValue unicode value then
        .ok { progress with
          facts := progress.facts.set place { prior with
            sourceMessageIds :=
              Keyed.fromKeys (prior.sourceMessageIds ++ operation.sourceMessageIds) } }
      else do
        let identity ← store.identity unicode source.sourceSequence index operation
        return { progress with
          facts := progress.facts.set place { prior with
              status := .superseded, supersededBy := some (factId sha256 identity) } ++
            [store.newFact source operation value (factId sha256 identity) (some prior)] }

/-- Apply the operations from some place on. -/
def FactStore.applyFrom (store : FactStore) (source : Source) :
    Nat → Progress → List (Given F) → Except FactError Progress
  | _, progress, [] => .ok progress
  | index, progress, given :: rest => do
      let operation ← given.validated
      let progress ← store.applyOperation unicode sha256 source index progress operation
      store.applyFrom source (index + 1) progress rest

/-- A store with its texts in normal form, as it is whenever one is built. -/
def FactStore.postInit (store : FactStore) : Except FactError FactStore := do
  let tenantId ← text unicode store.tenantId
  let conversationId ← text unicode store.conversationId
  let extractorVersion ← text unicode store.extractorVersion
  return { store with tenantId, conversationId, extractorVersion }

/-- A store without facts. -/
def FactStore.empty (tenantId conversationId extractorVersion : Str) :
    Except FactError FactStore :=
  FactStore.postInit unicode { tenantId, conversationId, extractorVersion }

/-- Apply one complete extraction: the store afterwards, or what is raised. -/
def FactStore.apply
    (store : FactStore)
    (operations : List (Given F))
    (sourceSequence : Int)
    (statement : Str) : Except FactError FactStore := do
  integer sourceSequence
  if sourceSequence ≤ store.lastSequence then
    throw (.value "extractions must advance the message sequence".toList)
  let statement ← text unicode statement
  let progress ← store.applyFrom unicode sha256 ⟨sourceSequence, statement⟩ 0
    ⟨store.facts, store.audit⟩ operations
  FactStore.postInit unicode
    { store with facts := progress.facts, audit := progress.audit, lastSequence := sourceSequence }

end Apply

end Facts
end ChatPlatform
