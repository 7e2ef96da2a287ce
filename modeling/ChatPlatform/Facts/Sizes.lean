import ChatPlatform.Facts.Causal
import ChatPlatform.Facts.Extraction
import ChatPlatform.Foundation.JsonWeight
import ChatPlatform.Foundation.Text

/-!
# The bounds hold

A slot and its value come from one operation of one answer, and the text of the operation
is at least as long as the pair in the dictionary of a request. So the slots of a request
have no more bytes than the answers before it together, and the request has no more than
its shell, its turn and its slots. An answer that is accepted has a bounded number of bytes;
from that follow bounds of the operations of an answer and of the bytes of the slots, of what
is extracted from and of the whole request after a number of answers.
-/

namespace ChatPlatform
namespace Facts

open Json Spend Text Traversal

/-! ## The bounds -/

section Bounds

variable {F : Type} [FloatOps F]

/-- What a bound raises. -/
inductive BoundError
  /-- There is no bound. -/
  | unavailable (message : Str)
  /-- A number is not finite. -/
  | log (refusal : EventLog.EventLogError)
  deriving DecidableEq

/-- Check a count. -/
def countOf (value : Int) (name : String) : Except BoundError Int :=
  if value < 0 then .error (.unavailable ("missing or invalid ".toList ++ name.toList))
  else .ok value

/-- Bounds of what one answer holds. -/
structure ResponseBounds where
  /-- The number of operations. -/
  operations : Int
  /-- The bytes of a slot. -/
  keyBytes : Int
  /-- The bytes of a value. -/
  valueBytes : Int

/-- Bounds of what one answer holds when every message identifier has some bytes. -/
def responseBounds (provenanceBytesMin : Int) : Except BoundError ResponseBounds := do
  let p ← countOf provenanceBytesMin "provenance_bytes_min"
  if p = 0 then
    throw (.unavailable "provenance must be nonempty".toList)
  let r : Int := t6ExtractionResponseBytes
  return ⟨max 0 ((r - 11) / (83 + p)), max 0 (r - 93 - p), max 0 (r - 93 - p)⟩

/-- Bound of the bytes of the active slots after some answers. -/
def activeSlotsJsonBytes (priorResponses : Int) : Except BoundError Int := do
  let prior ← countOf priorResponses "prior_responses"
  return 2 + prior * t6ExtractionResponseBytes

/-- Bound of the bytes of what is extracted from. -/
def extractionPayloadBytes (priorResponses userTurnBytes : Int) (messageId : Str) :
    Except BoundError Int := do
  let shell : Int := utf8Length (extractionPayload messageId [] ([] : Dict Empty))
  let userTurn ← countOf userTurnBytes "user_turn_bytes"
  let activeSlots ← activeSlotsJsonBytes priorResponses
  return shell + 6 * userTurn + activeSlots - 2

/-- Empty the content of some messages, and add up their bounds. -/
def emptyContents : List (Int × Int) → List (List (Str × Str)) → Int →
    Except BoundError (List (List (Str × Str)) × Int)
  | [], messages, total => .ok (messages, total)
  | (index, bound) :: rest, messages, total =>
      if 0 ≤ index ∧ index < messages.length then do
        let bound ← countOf bound "content_bytes"
        emptyContents rest
          (messages.modify index.toNat fun message => Keyed.set message "content".toList [])
          (total + bound)
      else .error (.unavailable "invalid dynamic message index".toList)

/-- The body of a request to a model. -/
def bodyOf (model : Str) (request : GenerationRequest F) : Dict F :=
  [("model".toList, .str model),
    ("messages".toList, .list (request.messages.map fun message =>
      .dict (message.map fun field => (field.1, .str field.2)))),
    ("temperature".toList, request.temperature),
    ("max_tokens".toList, .int request.maxOutputTokens)] ++
    match request.responseFormat with
    | none => []
    | some format => [("response_format".toList, .dict format)]

/-- Bound of the bytes of a request some of whose contents are bounded, where `wire` are the
bytes of a body as it is sent. -/
def fullRequestBytes
    (wire : Dict F → Nat)
    (request : GenerationRequest F)
    (model : Str)
    (dynamicContentBytes : List (Int × Int)) : Except BoundError Int := do
  let (messages, total) ← emptyContents dynamicContentBytes request.messages 0
  let body := bodyOf model { request with messages }
  let canonical ← (EventLog.canonicalBytes (.dict body)).mapError .log
  return max (utf8Length canonical : Int) (wire body) + 6 * total

end Bounds

/-! ## The bytes of an operation -/

/-- What a slot takes in the dictionary of a request, with a comma. -/
def pairBytes (slotKey value : Str) : Nat := literalBytes slotKey + literalBytes value + 2

/-- What an operation can add to the dictionary of a request. -/
def Operation.bytes (operation : Operation) : Nat :=
  match operation.change with
  | .assert value => pairBytes operation.slotKey value
  | .retract => 0

/-- What a fact takes in the dictionary of a request. -/
def Fact.bytes (fact : Fact) : Nat :=
  if fact.status = .active then pairBytes fact.slotKey fact.value else 0

/-- What facts take in the dictionary of a request. -/
def bytesOf (facts : List Fact) : Nat := (facts.map Fact.bytes).sum

/-- A fact in one place takes the place of another one. -/
private theorem bytesOf_set
    {facts : List Fact}
    {place : Nat}
    {prior : Fact}
    (found : facts[place]? = some prior)
    (changed : Fact) :
    bytesOf (facts.set place changed) + prior.bytes = bytesOf facts + changed.bytes := by
  induction facts generalizing place with
  | nil => cases found
  | cons fact rest inductionHypothesis =>
      unfold bytesOf at inductionHypothesis ⊢
      cases place with
      | zero =>
          cases found
          simp only [List.set_cons_zero, List.map_cons, List.sum_cons]
          omega
      | succ place =>
          have later := inductionHypothesis found
          simp only [List.set_cons_succ, List.map_cons, List.sum_cons]
          omega

private theorem bytesOf_snoc (facts : List Fact) (fact : Fact) :
    bytesOf (facts ++ [fact]) = bytesOf facts + fact.bytes := by
  unfold bytesOf
  rw [List.map_append, List.sum_append]
  rfl

/-- An operation adds no more than its own bytes. -/
theorem Applied.bytesOf_le
    {store : FactStore}
    {source : Source}
    {operation : Operation}
    {facts next : List Fact}
    (applied : Applied store source operation facts next) :
    bytesOf next ≤ bytesOf facts + operation.bytes := by
  cases applied with
  | ignored isRetract missing => exact Nat.le_add_right _ _
  | @retracted place prior isRetract found =>
      have same := bytesOf_set (findActive_eq_some found).1
        { prior with status := .retracted, supersededBy := none }
      have none : Fact.bytes { prior with status := .retracted, supersededBy := none } = 0 := rfl
      omega
  | @sourced value place prior isAssert found =>
      have same := bytesOf_set (findActive_eq_some found).1 { prior with
        sourceMessageIds :=
          Keyed.fromKeys (prior.sourceMessageIds ++ operation.sourceMessageIds) }
      have kept : Fact.bytes { prior with
        sourceMessageIds :=
          Keyed.fromKeys (prior.sourceMessageIds ++ operation.sourceMessageIds) } =
            prior.bytes := rfl
      omega
  | @asserted value identifier isAssert missing =>
      have new : (store.newFact source operation value identifier none).bytes =
          operation.bytes := by
        unfold Operation.bytes
        rw [isAssert]
        rfl
      rw [bytesOf_snoc, new]
  | @superseded value identifier place prior isAssert found =>
      have new : (store.newFact source operation value identifier (some prior)).bytes =
          operation.bytes := by
        unfold Operation.bytes
        rw [isAssert]
        rfl
      have same := bytesOf_set (findActive_eq_some found).1
        { prior with status := .superseded, supersededBy := some identifier }
      have none : Fact.bytes
        { prior with status := .superseded, supersededBy := some identifier } = 0 := rfl
      rw [bytesOf_snoc, new]
      omega

/-- Operations add no more than their own bytes. -/
theorem AppliedAll.bytesOf_le
    {store : FactStore}
    {source : Source}
    {operations : List Operation}
    {facts next : List Fact}
    (applied : AppliedAll store source operations facts next) :
    bytesOf next ≤ bytesOf facts + (operations.map Operation.bytes).sum := by
  induction applied with
  | nil facts => exact Nat.le_add_right _ _
  | cons applied later inductionHypothesis =>
      have first := applied.bytesOf_le
      rw [List.map_cons, List.sum_cons]
      omega

/-! ## The text of an operation -/

variable {F : Type} [FloatOps F]

/-- What a payload holds that an operation was built from: its name, its kind and its value. -/
structure Fields
    (payload : Dict F)
    (operation : Operation)
    (op kind : Str)
    (value : Value F) : Prop where
  /-- The name is under its key. -/
  opHeld : Dict.get payload "op".toList = some (.str op)
  /-- The slot is under its key. -/
  slotKeyHeld : Dict.get payload "slot_key".toList = some (.str operation.slotKey)
  /-- The value is under its key. -/
  valueHeld : Dict.get payload "value".toList = some value
  /-- The kind is under its key. -/
  kindHeld : Dict.get payload "kind".toList = some (.str kind)
  /-- The messages are under their key. -/
  sourcesHeld : Dict.get payload "source_message_ids".toList =
    some (.list (operation.sourceMessageIds.map Value.str))
  /-- The kind is one of the kinds. -/
  isKind : kind ∈ kinds.map (·.1)
  /-- The operation asserts a text that is not empty, or it retracts. -/
  changes :
    (op = "assert".toList ∧ ∃ said, said ≠ [] ∧ value = .str said ∧
      operation.change = .assert said) ∨
    (op = "retract".toList ∧ value = .none ∧ operation.change = .retract)

omit [FloatOps F] in
/-- The texts of some values are their texts. -/
private theorem map_str_of_textsOf
    {sources : List (Value F)}
    {texts : { texts : List Str // texts.all isText = true }}
    (isTexts : textsOf sources = .ok texts) : sources = texts.1.map Value.str := by
  induction sources generalizing texts with
  | nil =>
      cases isTexts
      rfl
  | cons source rest inductionHypothesis =>
      cases source with
      | str id =>
          rw [textsOf] at isTexts
          split at isTexts
          · cases read : textsOf rest with
            | error refusal =>
                rw [read] at isTexts
                cases isTexts
            | ok others =>
                rw [read] at isTexts
                cases isTexts
                rw [inductionHypothesis read]
                rfl
          · cases isTexts
      | none => cases isTexts
      | bool value => cases isTexts
      | int value => cases isTexts
      | float value => cases isTexts
      | list items => cases isTexts
      | dict entries => cases isTexts

omit [FloatOps F] in
/-- The messages of an operation are the values under their key. -/
private theorem map_str_of_sourcesOf
    {sources : List (Value F)}
    {ids : { ids : List Str // ids ≠ [] ∧ ids.all isText = true }}
    (isSources : sourcesOf sources = .ok ids) : sources = ids.1.map Value.str := by
  unfold sourcesOf at isSources
  split at isSources
  · cases isSources
  · cases isSources
  · rename_i id rest named read
    cases isSources
    exact map_str_of_textsOf read

omit [FloatOps F] in
/-- What asserts or retracts is called so. -/
private theorem eq_of_assertsOf
    {value : Value F}
    {asserts : Bool}
    (isNamed : assertsOf value = .ok asserts) :
    value = .str (if asserts then "assert".toList else "retract".toList) := by
  unfold assertsOf at isNamed
  split at isNamed
  · split at isNamed
    · rename_i isAssert
      cases isNamed
      rw [isAssert]
      rfl
    · split at isNamed
      · rename_i isRetract
        cases isNamed
        rw [isRetract]
        rfl
      · cases isNamed
  · cases isNamed
  · cases isNamed
  · cases isNamed

omit [FloatOps F] in
/-- A slot is a text. -/
private theorem eq_of_slotKeyOf
    {value : Value F}
    {slotKey : { slotKey : Str // isSnakeCase slotKey = true }}
    (isSlot : slotKeyOf value = .ok slotKey) : value = .str slotKey.1 := by
  unfold slotKeyOf at isSlot
  split at isSlot
  · split at isSlot
    · cases isSlot
      rfl
    · cases isSlot
  · cases isSlot

omit [FloatOps F] in
/-- A kind is one of the kinds. -/
private theorem exists_of_kindOf
    {value : Value F}
    {kind : Kind}
    (isKind : kindOf value = .ok kind) :
    ∃ name, value = .str name ∧ name ∈ kinds.map (·.1) := by
  unfold kindOf at isKind
  split at isKind
  · rename_i name
    split at isKind
    · rename_i found isFound
      obtain ⟨before, after, same, -⟩ := List.lookup_eq_some_iff.mp isFound
      refine ⟨name, rfl, List.mem_map.mpr ⟨(name, found), ?_, rfl⟩⟩
      rw [same]
      exact List.mem_append_right _ List.mem_cons_self
    · cases isKind
  · cases isKind
  · cases isKind
  · cases isKind

omit [FloatOps F] in
/-- What is asserted is a text that is not empty, and what retracts has no value. -/
private theorem eq_of_changeOf
    {asserts : Bool}
    {value : Value F}
    {change : { change : Change //
      ∀ value, change = .assert value → isText value = true }}
    (isChange : changeOf asserts value = .ok change) :
    (asserts = true ∧ ∃ said, said ≠ [] ∧ value = .str said ∧ change.1 = .assert said) ∨
      (asserts = false ∧ value = .none ∧ change.1 = .retract) := by
  unfold changeOf at isChange
  split at isChange
  · split at isChange
    · rename_i said isSaid
      cases isChange
      refine Or.inl ⟨rfl, said, ?_, rfl, rfl⟩
      rintro rfl
      exact absurd isSaid (by decide)
    · cases isChange
  · cases isChange
  · cases isChange
    exact Or.inr ⟨rfl, rfl, rfl⟩
  · cases isChange

omit [FloatOps F] in
/-- An operation is built from the fields of its payload. -/
theorem fields_of_fromPayload
    {payload : Dict F}
    {operation : Operation}
    (built : Operation.fromPayload payload = .ok operation) :
    ∃ op kind value, Fields payload operation op kind value := by
  unfold Operation.fromPayload at built
  dsimp only at built
  split at built
  · cases built
  · rename_i keyed
    have held : ∀ key ∈ operationKeys, ∃ value, Dict.get payload key = some value := by
      intro key isKey
      rw [Bool.not_eq_true', Bool.not_eq_false] at keyed
      have all := (Bool.and_eq_true_iff.mp keyed).2
      exact exists_get_of_mem_keys (of_decide_eq_true (List.all_eq_true.mp all key isKey))
    obtain ⟨opValue, isOp⟩ := held "op".toList (by decide)
    obtain ⟨slotValue, isSlot⟩ := held "slot_key".toList (by decide)
    obtain ⟨value, isValue⟩ := held "value".toList (by decide)
    obtain ⟨kindValue, isKind⟩ := held "kind".toList (by decide)
    obtain ⟨sourcesValue, isSources⟩ := held "source_message_ids".toList (by decide)
    rw [isOp, isSlot, isValue, isKind, isSources] at built
    simp only [Option.getD_some] at built
    split at built
    · rename_i sources
      obtain ⟨asserts, isAsserts, afterOp⟩ := exists_of_bind_eq_ok built
      obtain ⟨slotKey, isSlotKey, afterSlot⟩ := exists_of_bind_eq_ok afterOp
      obtain ⟨kind, isKindOf, afterKind⟩ := exists_of_bind_eq_ok afterSlot
      obtain ⟨change, isChange, afterChange⟩ := exists_of_bind_eq_ok afterKind
      obtain ⟨⟨ids, sourced, named⟩, isIds, isOperation⟩ := exists_of_bind_eq_ok afterChange
      cases isOperation
      obtain ⟨name, rfl, isName⟩ := exists_of_kindOf isKindOf
      refine ⟨if asserts then "assert".toList else "retract".toList, name, value, ?_, ?_,
        isValue, isKind, ?_, isName, ?_⟩
      · rw [isOp, eq_of_assertsOf isAsserts]
      · rw [isSlot, eq_of_slotKeyOf isSlotKey]
      · rw [isSources, map_str_of_sourcesOf isIds]
      · rcases eq_of_changeOf isChange with ⟨rfl, said, isSaid, isText, isAssert⟩ |
          ⟨rfl, isNone, isRetract⟩
        · exact Or.inl ⟨rfl, said, isSaid, isText, isAssert⟩
        · exact Or.inr ⟨rfl, isNone, isRetract⟩
    · cases built

/-- A text that is not empty has three bytes at least as a literal. -/
private theorem literalBytes_of_ne_nil {s : Str} (held : s ≠ []) : 3 ≤ literalBytes s := by
  have bytes := utf8Length_le_literalBytes s
  have longer := length_le_utf8Length s
  have positive := List.length_pos_iff.mpr held
  omega

/-- A slot is not empty. -/
private theorem slotKey_ne_nil (operation : Operation) : operation.slotKey ≠ [] := by
  intro empty
  have isSaid := isText_of_isSnakeCase operation.snakeCase
  rw [empty] at isSaid
  exact absurd isSaid (by decide)

omit [FloatOps F] in
/-- The text an operation is read from has more bytes than the operation can add to the
dictionary of a request, and some more than the message it cites. -/
theorem weight_of_operationOf
    {turn : Message}
    {payload : Value F}
    {operation : Operation}
    (isValid : operationOf turn payload = .ok operation) :
    operation.bytes ≤ weight payload ∧ 82 + utf8Length turn.messageId ≤ weight payload := by
  have cites := sourceMessageIds_of_operationOf isValid
  cases payload with
  | dict payload =>
      obtain ⟨built, isBuilt, checked⟩ := exists_of_bind_eq_ok isValid
      have same : built = operation := by
        by_cases unmatched : built.sourceMessageIds ≠ [turn.messageId]
        · rw [if_pos unmatched] at checked
          cases checked
        · rw [if_neg unmatched] at checked
          cases checked
          rfl
      subst same
      obtain ⟨op, kind, value, fields⟩ := fields_of_fromPayload isBuilt
      let required : Dict F :=
        [("op".toList, .str op), ("slot_key".toList, .str built.slotKey),
          ("value".toList, value), ("kind".toList, .str kind),
          ("source_message_ids".toList, .list (built.sourceMessageIds.map Value.str))]
      have found : ∀ entry ∈ required, Dict.get payload entry.1 = some entry.2 := by
        intro entry held
        simp only [required, List.mem_cons, List.not_mem_nil, or_false] at held
        rcases held with rfl | rfl | rfl | rfl | rfl
        · exact fields.opHeld
        · exact fields.slotKeyHeld
        · exact fields.valueHeld
        · exact fields.kindHeld
        · exact fields.sourcesHeld
      have enough := weight_found_le (by simp only [required, List.map]; decide) found
        (List.cons_ne_nil _ _)
      generalize weight (.dict payload) = total at enough ⊢
      have keys : literalBytes "op".toList = 4 ∧ literalBytes "slot_key".toList = 10 ∧
          literalBytes "value".toList = 7 ∧ literalBytes "kind".toList = 6 ∧
            literalBytes "source_message_ids".toList = 20 := by decide
      obtain ⟨opKey, slotKey, valueKey, kindKey, sourcesKey⟩ := keys
      have kindBytes : 6 ≤ literalBytes kind := by
        have table : (kinds.map (·.1)).all (fun name => 6 ≤ literalBytes name) = true := by
          decide
        exact of_decide_eq_true (List.all_eq_true.mp table kind fields.isKind)
      have slotBytes := literalBytes_of_ne_nil (slotKey_ne_nil built)
      have idBytes := utf8Length_le_literalBytes turn.messageId
      simp only [required, cites, weight, weightEntries, weightItems, bracketed, List.map_cons,
        List.map_nil, List.sum_cons, List.sum_nil, List.length_cons, List.length_nil, opKey,
        slotKey, valueKey, kindKey, sourcesKey] at enough
      rcases fields.changes with ⟨isAssert, said, nonempty, isSaid, change⟩ |
        ⟨isRetract, isNone, change⟩
      · have saidBytes := literalBytes_of_ne_nil nonempty
        have opBytes : literalBytes op = 8 := by
          rw [isAssert]
          decide
        have bytes : built.bytes = pairBytes built.slotKey said := by
          unfold Operation.bytes
          rw [change]
        rw [isSaid, weight, opBytes] at enough
        rw [bytes]
        unfold pairBytes
        constructor <;> omega
      · have opBytes : literalBytes op = 9 := by
          rw [isRetract]
          decide
        have bytes : built.bytes = 0 := by
          unfold Operation.bytes
          rw [change]
        rw [isNone, weight, opBytes] at enough
        rw [bytes]
        constructor <;> omega
  | none => cases isValid
  | bool value => cases isValid
  | int value => cases isValid
  | float value => cases isValid
  | str value => cases isValid
  | list items => cases isValid

/-! ## The text of an answer -/

omit [FloatOps F] in
/-- The accepted operations cost no more than the payloads. -/
private theorem sum_accepted_le
    {turn : Message}
    (cost : Operation → Nat)
    (paid : ∀ payload operation, operationOf (F := F) turn payload = .ok operation →
      cost operation ≤ weight payload + 1)
    (payloads : List (Value F)) :
    ((payloads.filterMap fun payload => (operationOf turn payload).toOption).map cost).sum ≤
      ((weightItems payloads).map (· + 1)).sum := by
  induction payloads with
  | nil => exact Nat.le_refl 0
  | cons payload rest inductionHypothesis =>
      rw [weightItems, List.map_cons, List.sum_cons, List.filterMap_cons]
      cases read : operationOf turn payload with
      | error refusal =>
          exact inductionHypothesis.trans (Nat.le_add_left _ _)
      | ok operation =>
          have first := paid payload operation read
          exact Nat.add_le_add first inductionHypothesis

/-- The text of an answer has the bytes of its payloads and eleven more. -/
private theorem weight_payloadsOf
    {wording : Wording F}
    {answer : Str}
    {payloads : List (Value F)}
    (isRead : payloadsOf wording (.str answer) = .ok payloads)
    (held : payloads ≠ []) :
    11 + ((weightItems payloads).map (· + 1)).sum ≤ utf8Length answer := by
  unfold payloadsOf at isRead
  dsimp only at isRead
  cases decoded : decodeJson (F := F) answer with
  | none =>
      rw [decoded] at isRead
      cases isRead
  | some value =>
      have bytes := weight_loads decoded
      rw [decoded] at isRead
      cases value with
      | dict raw =>
          dsimp only at isRead
          split at isRead
          · split at isRead
            · rename_i found isFound
              cases isRead
              have found : ∀ entry ∈ [("facts".toList, Value.list payloads)],
                  Dict.get raw entry.1 = some entry.2 := by
                intro entry isEntry
                rw [List.mem_singleton.mp isEntry]
                exact isFound
              have enough := weight_found_le (by simp) found (List.cons_ne_nil _ _)
              have key : literalBytes "facts".toList = 7 := by decide
              have inside : bracketed (weightItems payloads) =
                  1 + ((weightItems payloads).map (· + 1)).sum := by
                refine bracketed_eq fun none => held ?_
                rw [weightItems_eq_map] at none
                exact List.map_eq_nil_iff.mp none
              generalize weight (.dict raw) = total at enough bytes
              unfold bracketed at inside
              simp only [weight, weightEntries, key, bracketed, List.sum_cons, List.sum_nil,
                List.length_cons, List.length_nil] at enough
              omega
            · cases isRead
          · cases isRead
      | none => cases isRead
      | bool value => cases isRead
      | int value => cases isRead
      | float value => cases isRead
      | str value => cases isRead
      | list items => cases isRead

/-- The operations of an answer cost no more than its text, which has eleven bytes more if there
are any. -/
private theorem sum_accepted_answer
    {wording : Wording F}
    {turn : Message}
    {answer : Str}
    (cost : Operation → Nat)
    (paid : ∀ payload operation, operationOf (F := F) turn payload = .ok operation →
      cost operation ≤ weight payload + 1)
    (held : (readAnswerOf wording turn (.str answer)).accepted ≠ []) :
    11 + ((readAnswerOf wording turn (.str answer)).accepted.map cost).sum ≤
      utf8Length answer := by
  unfold readAnswerOf at held ⊢
  cases read : payloadsOf wording (.str answer) with
  | error reason =>
      rw [read] at held
      exact absurd rfl held
  | ok payloads =>
      rw [read] at held
      dsimp only at held ⊢
      rw [accepted_readPayloads] at held ⊢
      have nonempty : payloads ≠ [] := by
        rintro rfl
        exact held rfl
      have bytes := weight_payloadsOf read nonempty
      have costs := sum_accepted_le cost paid payloads
      omega

/-- The operations of an answer add no more than its text has bytes. -/
theorem bytes_accepted_le
    (wording : Wording F)
    (turn : Message)
    (answer : Str) :
    ((readAnswerOf wording turn (.str answer)).accepted.map Operation.bytes).sum ≤
      utf8Length answer := by
  by_cases none : (readAnswerOf wording turn (.str answer)).accepted = []
  · rw [none]
    exact Nat.zero_le _
  · have bytes := sum_accepted_answer Operation.bytes (fun payload operation isValid =>
      (weight_of_operationOf isValid).1.trans (Nat.le_succ _)) none
    omega

/-- An answer that is accepted holds no more operations than its bound allows. -/
theorem length_accepted_le
    (wording : Wording F)
    {turn : Message}
    {p : Int}
    {bounds : ResponseBounds}
    (bounded : responseBounds p = .ok bounds)
    (identified : p ≤ utf8Length turn.messageId)
    {answer : Str}
    (fits : utf8Length answer ≤ t6ExtractionResponseBytes) :
    ((readAnswerOf wording turn (.str answer)).accepted.length : Int) ≤ bounds.operations := by
  unfold responseBounds countOf at bounded
  by_cases negative : p < 0
  · rw [if_pos negative] at bounded
    cases bounded
  · rw [if_neg negative] at bounded
    by_cases zero : p = 0
    · simp only [bind, Except.bind, if_pos zero] at bounded
      cases bounded
    · simp only [bind, Except.bind, if_neg zero] at bounded
      cases bounded
      dsimp only
      by_cases none : (readAnswerOf wording turn (.str answer)).accepted = []
      · rw [none]
        exact le_max_left _ _
      · have bytes := sum_accepted_answer (fun _ => 83 + utf8Length turn.messageId)
          (fun payload operation isValid => by
            have enough := (weight_of_operationOf isValid).2
            omega) none
        rw [List.map_const', List.sum_replicate_nat] at bytes
        refine le_max_of_le_right ((Int.le_ediv_iff_mul_le (by omega)).mpr ?_)
        have longer : ((readAnswerOf wording turn (.str answer)).accepted.length : Int) *
            (83 + p) ≤ (readAnswerOf wording turn (.str answer)).accepted.length *
              (83 + utf8Length turn.messageId) :=
          Int.mul_le_mul_of_nonneg_left (by omega) (Int.natCast_nonneg _)
        have whole : (11 + (readAnswerOf wording turn (.str answer)).accepted.length *
            (83 + utf8Length turn.messageId) : Int) ≤ t6ExtractionResponseBytes := by
          exact_mod_cast bytes.trans fits
        omega

/-! ## The text of a request -/

omit [FloatOps F] in
/-- The facts in force take what is counted for all facts. -/
private theorem bytesOf_eq (facts : List Fact) :
    bytesOf facts =
      ((facts.filter (·.status = .active)).map fun fact =>
        pairBytes fact.slotKey fact.value).sum := by
  unfold bytesOf
  induction facts with
  | nil => rfl
  | cons fact rest inductionHypothesis =>
      rw [List.map_cons, List.sum_cons, inductionHypothesis]
      by_cases active : fact.status = .active
      · rw [List.filter_cons, if_pos (decide_eq_true active), List.map_cons, List.sum_cons]
        unfold Fact.bytes
        rw [if_pos active]
      · rw [List.filter_cons, if_neg (by simp [active])]
        unfold Fact.bytes
        rw [if_neg active, Nat.zero_add]

/-- The slots of a request take no more than its facts. -/
theorem size_activeSlots_le
    {store : FactStore}
    (one : OneActive store.facts) :
    size (.dict (store.activeSlots : Dict F)) ≤ 2 + bytesOf store.facts := by
  have distinct : ((store.slots.map fun slot =>
      (slot.1, (.str slot.2 : Value F))).map (·.1)).Nodup := by
    rw [List.map_map]
    exact nodup_slots one
  unfold FactStore.activeSlots
  rw [Keyed.ofList_of_nodup distinct, size_dict]
  refine (bracketed_le _).trans (Nat.add_le_add_left (Nat.le_of_eq ?_) 2)
  rw [bytesOf_eq, List.map_map, List.map_map, ((slots_perm store).map _).sum_nat, List.map_map]
  refine congrArg List.sum (List.map_congr_left fun fact _ => ?_)
  show literalBytes fact.slotKey + 1 + literalBytes fact.value + 1 = _
  unfold pairBytes
  omega

/-- What is extracted from has the bytes of its shell, its turn and its slots. -/
theorem utf8Length_extractionPayload (messageId content : Str) (activeSlots : Dict F) :
    utf8Length (extractionPayload messageId content activeSlots) + 4 =
      utf8Length (extractionPayload messageId [] ([] : Dict Empty)) + literalBytes content +
        size (.dict activeSlots) := by
  have empty : literalBytes [] = 2 := by decide
  show size (.dict _) + 4 = size (.dict _) + _ + _
  simp only [size_dict, List.map_cons, List.map_nil, bracketed, List.sum_cons, List.sum_nil,
    List.length_cons, List.length_nil, size_str, empty]
  omega

/-- The request for a turn. -/
def requestOf (case : Case) (turn : Message) (payload : Str) :
    GenerationRequest F where
  messages :=
    [[("role".toList, "system".toList), ("content".toList, extractionPrompt)],
      [("role".toList, "user".toList), ("content".toList, payload)]]
  tenantId := case.tenantId
  conversationId := case.conversationId
  kind := "extraction".toList
  label := turn.messageId
  maxOutputTokens := extractionMaxOutputTokens
  temperature := .int 0
  responseFormat := some [("type".toList, .str "json_object".toList)]

/-- A request that is not refused is the request for the turn. -/
theorem eq_requestOf
    {store : FactStore}
    {case : Case}
    {turn : Message}
    {request : GenerationRequest F}
    (isRequest : extractionRequest store case turn = .ok request) :
    request = requestOf case turn
      (extractionPayload turn.messageId turn.content (store.activeSlots : Dict F)) := by
  unfold extractionRequest at isRequest
  split at isRequest
  · cases isRequest
  · split at isRequest
    · cases isRequest
    · split at isRequest
      · cases isRequest
      · split at isRequest
        · cases isRequest
        · split at isRequest
          · cases isRequest
          · split at isRequest
            · cases isRequest
            · split at isRequest
              · cases isRequest
              · cases isRequest
                rfl

/-- The body of a request grows by what its payload takes as a literal. -/
theorem size_bodyOf
    (model : Str)
    (case : Case)
    (turn : Message)
    (payload : Str) :
    size (.dict (bodyOf model (requestOf case turn payload : GenerationRequest F))) + 2 =
      size (.dict (bodyOf model (requestOf case turn [] : GenerationRequest F))) +
        literalBytes payload := by
  let message (content : Str) : Dict F :=
    [("role".toList, .str "user".toList), ("content".toList, .str content)]
  let instructions : Dict F :=
    [("role".toList, .str "system".toList), ("content".toList, .str extractionPrompt)]
  have empty : literalBytes [] = 2 := by decide
  have content := size_dict_entry [("role".toList, (.str "user".toList : Value F))] []
    "content".toList (.str payload) (.str [])
  have messages := size_list_item [.dict instructions] [] (.dict (message payload))
    (.dict (message []))
  have body := size_dict_entry [("model".toList, (.str model : Value F))]
    [("temperature".toList, .int 0), ("max_tokens".toList, .int extractionMaxOutputTokens),
      ("response_format".toList, .dict [("type".toList, .str "json_object".toList)])]
    "messages".toList (.list ([.dict instructions] ++ [.dict (message payload)]))
    (.list ([.dict instructions] ++ [.dict (message [])]))
  change size (.dict (message payload)) + _ = size (.dict (message [])) + _ at content
  change size (.dict (bodyOf model (requestOf case turn payload : GenerationRequest F))) + _ =
    size (.dict (bodyOf model (requestOf case turn [] : GenerationRequest F))) + _ at body
  rw [size_str, size_str, empty] at content
  omega

/-- The body of a request holds no number that is not finite. -/
private theorem canonicalBytes_bodyOf
    (model : Str)
    (case : Case)
    (turn : Message)
    (payload : Str) :
    EventLog.canonicalBytes
        (.dict (bodyOf model (requestOf case turn payload : GenerationRequest F))) =
      .ok (dumps compact
        (.dict (bodyOf model (requestOf case turn payload : GenerationRequest F)))) := by
  unfold EventLog.canonicalBytes
  exact if_pos rfl

/-- The bound of a request whose payload is bounded. -/
theorem fullRequestBytes_requestOf
    (wire : Dict F → Nat)
    (model : Str)
    (case : Case)
    (turn : Message)
    {payload : Str}
    {inner : Int}
    (bounded : utf8Length payload ≤ inner) :
    ∃ bound, fullRequestBytes wire (requestOf case turn payload) model [(1, inner)] =
        .ok bound ∧
      (size (.dict (bodyOf model (requestOf case turn payload : GenerationRequest F))) :
        Int) ≤ bound := by
  have counted : ¬inner < 0 := by omega
  have inside : (0 : Int) ≤ 1 ∧
      (1 : Int) < (requestOf case turn payload : GenerationRequest F).messages.length := by
    simp [requestOf]
  have emptied : emptyContents [(1, inner)]
      (requestOf case turn payload : GenerationRequest F).messages 0 =
        .ok ((requestOf case turn [] : GenerationRequest F).messages, 0 + inner) := by
    unfold emptyContents countOf
    rw [if_pos inside, if_neg counted]
    rfl
  have grows := size_bodyOf (F := F) model case turn payload
  have literal := literalBytes_le payload
  refine ⟨max (size (.dict (bodyOf model (requestOf case turn [] : GenerationRequest F))) : Int)
    (wire (bodyOf model (requestOf case turn []))) + 6 * (0 + inner), ?_, ?_⟩
  · unfold fullRequestBytes
    rw [emptied]
    simp only [bind, Except.bind]
    rw [show ({ (requestOf case turn payload : GenerationRequest F) with
      messages := (requestOf case turn [] : GenerationRequest F).messages } :
        GenerationRequest F) = requestOf case turn [] from rfl, canonicalBytes_bodyOf]
    rfl
  · have shell := le_max_left
      (size (.dict (bodyOf model (requestOf case turn [] : GenerationRequest F))) : Int)
      (wire (bodyOf model (requestOf case turn [])))
    omega

/-! ## Sessions -/

section Sessions

variable {unicode : Unicode}

/-- A session whose answers are all short enough is ready for the next turn, and its facts take
no more than the answers may have. -/
theorem ready_after
    (sha256 : Str → Fin (2 ^ 256))
    (wording : Wording F)
    (keeps : unicode.KeepsAscii)
    {case : Case}
    (increasing : (case.turns.map (·.sequence)).Pairwise (· < ·))
    {steps : List (Message × Str)}
    (fits : ∀ step ∈ steps, utf8Length step.2 ≤ t6ExtractionResponseBytes) :
    ∀ (processed : List Message) (extractor : T6Extractor), extractor.case = case →
      extractor.stopped = false → Ready case processed extractor.store →
        processed ++ steps.map (·.1) <+: case.userTurns →
          (extractor.after unicode sha256 wording steps).case = case ∧
            (extractor.after unicode sha256 wording steps).stopped = false ∧
            Ready case (processed ++ steps.map (·.1))
              (extractor.after unicode sha256 wording steps).store ∧
            bytesOf (extractor.after unicode sha256 wording steps).store.facts ≤
              bytesOf extractor.store.facts + steps.length * t6ExtractionResponseBytes := by
  induction steps with
  | nil =>
      intro processed extractor isCase running ready inOrder
      rw [List.map_nil, List.append_nil, List.length_nil, Nat.zero_mul]
      exact ⟨isCase, running, ready, Nat.le_refl _⟩
  | cons step rest inductionHypothesis =>
      obtain ⟨turn, answer⟩ := step
      rintro processed extractor rfl running ready inOrder
      rw [List.map_cons, List.append_cons] at inOrder ⊢
      have next : processed ++ [turn] <+: extractor.case.userTurns :=
        (List.prefix_append _ _).trans inOrder
      have short := fits (turn, answer) List.mem_cons_self
      obtain ⟨facts, audit, -, applied, -, -, isNext⟩ :=
        extract_of_ready sha256 wording keeps running increasing ready next short
      obtain ⟨sameCase, runs, readyLater, bytes⟩ := inductionHypothesis
        (fun step held => fits step (List.mem_cons_of_mem _ held)) (processed ++ [turn])
        (extractor.extract unicode sha256 wording turn (completing answer)).2
        (by rw [isNext]) (by rw [isNext]; exact running)
        (by
          rw [isNext]
          exact ready_of_applied ready
            (fun operation held => sourceMessageIds_of_accepted held) applied _) inOrder
      refine ⟨sameCase, runs, readyLater, bytes.trans ?_⟩
      rw [isNext, List.length_cons, Nat.add_mul, Nat.one_mul]
      have added := applied.bytesOf_le
      have answered := bytes_accepted_le wording turn answer
      dsimp only at added short ⊢
      omega

end Sessions

/-- The request for a turn after some answers is within its bounds. -/
structure RequestBounded
    (sha256 : Str → Fin (2 ^ 256))
    (wire : Dict F → Nat)
    (store : FactStore)
    (priorResponses : Nat)
    (turn : Message)
    (request : GenerationRequest F) : Prop where
  /-- What is extracted from is within its bound, and what a client reserves for the request is
  within the bound of the request that follows from it. -/
  bounded : ∃ payload inner,
    request.messages[1]? = some [("role".toList, "user".toList), ("content".toList, payload)] ∧
    payload = extractionPayload turn.messageId turn.content (store.activeSlots : Dict F) ∧
    extractionPayloadBytes priorResponses (utf8Length turn.content) turn.messageId = .ok inner ∧
    (utf8Length payload : Int) ≤ inner ∧
    ∀ (client : GenerationClient) (key rendered : Str),
      EventLog.canonicalBytes (.dict (client.body request)) = .ok rendered →
        ∃ bound, fullRequestBytes wire request client.model [(1, inner)] = .ok bound ∧
          (callOf sha256 request key rendered).maxInputTokens ≤ bound

/-- A request for a store whose slots are bounded is within its bounds. -/
theorem requestBounded_of_size
    (sha256 : Str → Fin (2 ^ 256))
    (wire : Dict F → Nat)
    {store : FactStore}
    {case : Case}
    {priorResponses : Nat}
    {turn : Message}
    {request : GenerationRequest F}
    (isRequest : extractionRequest store case turn = .ok request)
    (slots : size (.dict (store.activeSlots : Dict F)) ≤
      2 + priorResponses * t6ExtractionResponseBytes) :
    RequestBounded sha256 wire store priorResponses turn request := by
  obtain rfl := eq_requestOf isRequest
  let payload := extractionPayload turn.messageId turn.content (store.activeSlots : Dict F)
  let inner : Int := utf8Length (extractionPayload turn.messageId [] ([] : Dict Empty)) +
    6 * utf8Length turn.content + (2 + priorResponses * t6ExtractionResponseBytes) - 2
  have isInner : extractionPayloadBytes priorResponses (utf8Length turn.content)
      turn.messageId = .ok inner := by
    unfold extractionPayloadBytes activeSlotsJsonBytes countOf
    rw [if_neg (by omega), if_neg (by omega)]
    rfl
  have isBounded : (utf8Length payload : Int) ≤ inner := by
    have parts := utf8Length_extractionPayload turn.messageId turn.content
      (store.activeSlots : Dict F)
    have literal := literalBytes_le turn.content
    simp only [payload, inner]
    omega
  refine ⟨payload, inner, rfl, rfl, isInner, isBounded, ?_⟩
  intro client key rendered isRendered
  obtain ⟨bound, isBound, covers⟩ :=
    fullRequestBytes_requestOf wire client.model case turn isBounded
  refine ⟨bound, isBound, ?_⟩
  have body := canonicalBytes_bodyOf (F := F) client.model case turn payload
  have same : client.body (requestOf case turn payload : GenerationRequest F) =
      bodyOf client.model (requestOf case turn payload) := rfl
  rw [same, body] at isRendered
  cases isRendered
  exact covers

/-- The bounds of a session are sound: after some accepted answers the active slots are within
their bound, the request for the next turn is within its bounds, and an answer that is accepted
holds no more operations than its bound allows. -/
theorem t6_bounds_sound
    {unicode : Unicode}
    (keeps : unicode.KeepsAscii)
    (sha256 : Str → Fin (2 ^ 256))
    (wording : Wording F)
    (wire : Dict F → Nat)
    (case : Case)
    (increasing : (case.turns.map (·.sequence)).Pairwise (· < ·)) :
    ∃ start, T6Extractor.init unicode case = .ok start ∧
      ∀ steps : List (Message × Str), steps.map (·.1) <+: case.userTurns →
        (∀ step ∈ steps, utf8Length step.2 ≤ t6ExtractionResponseBytes) →
          (∃ bound, activeSlotsJsonBytes steps.length = .ok bound ∧
            (size (.dict ((start.after unicode sha256 wording steps).store.activeSlots : Dict F)) :
              Int) ≤ bound) ∧
          ∀ turn, steps.map (·.1) ++ [turn] <+: case.userTurns →
            (∀ request,
              extractionRequest (start.after unicode sha256 wording steps).store case turn =
                .ok request →
                  RequestBounded sha256 wire (start.after unicode sha256 wording steps).store
                    steps.length turn request) ∧
            ∀ (p : Int) (bounds : ResponseBounds) (answer : Str) (result : ExtractionResult F),
              responseBounds p = .ok bounds →
                (∀ m ∈ case.turns, p ≤ utf8Length m.messageId) →
                  utf8Length answer ≤ t6ExtractionResponseBytes →
                    ((start.after unicode sha256 wording steps).extract unicode sha256 wording
                      turn (completing answer)).1 = .ok result →
                        (result.operations.length : Int) ≤ bounds.operations := by
  obtain ⟨start, isStart, isCase, running, ready⟩ := init_ready keeps case
  refine ⟨start, isStart, fun steps inOrder fits => ?_⟩
  have noFacts : bytesOf start.store.facts = 0 := by
    have none : start.store.facts = [] := by
      refine List.eq_nil_iff_forall_not_mem.mpr fun fact held => ?_
      obtain ⟨turn, isProcessed, -⟩ := (ready.cited fact held).asserted
      exact absurd isProcessed List.not_mem_nil
    rw [none]
    rfl
  obtain ⟨sameCase, runs, readyLater, bytes⟩ :=
    ready_after sha256 wording keeps increasing fits [] start isCase running ready inOrder
  rw [noFacts, Nat.zero_add] at bytes
  have slots := size_activeSlots_le (F := F) readyLater.oneActive
  refine ⟨⟨2 + steps.length * t6ExtractionResponseBytes, ?_, ?_⟩, fun turn next => ⟨?_, ?_⟩⟩
  · unfold activeSlotsJsonBytes countOf
    rw [if_neg (by omega)]
    rfl
  · omega
  · intro request isRequest
    exact requestBounded_of_size sha256 wire isRequest (by omega)
  · intro p bounds answer result bounded identified short returned
    obtain ⟨later, split⟩ := split_userTurns next
    have isTurn : turn ∈ case.userTurns :=
      split ▸ List.mem_append_right _ List.mem_cons_self
    generalize start.after unicode sha256 wording steps = extractor at *
    subst sameCase
    obtain ⟨-, -, -, -, -, ⟨result', returned', same⟩, -⟩ :=
      extract_of_ready sha256 wording keeps runs increasing readyLater next short
    rw [returned'] at returned
    cases returned
    rw [same]
    exact length_accepted_le wording bounded (identified turn (mem_userTurns.mp isTurn).1) short

/-- The first user turn of a case with an answer that asserts what it says. -/
def quitoSteps : List (Message × Str) :=
  (movingCase.userTurns.take 1).map fun turn =>
    (turn, ("\x7b\"facts\":[\x7b\"op\":\"assert\",\"slot_key\":\"home_city\"," ++
      "\"value\":\"Quito\",\"kind\":\"fact\",\"source_message_ids\":[\"m1\"]\x7d]\x7d").toList)

/-- The store after the first user turn of a case. -/
def quitoStore : Option FactStore :=
  match T6Extractor.init plainTables movingCase with
  | .error _ => none
  | .ok start => some (start.after plainTables shortDigest plainWording quitoSteps).store

/-- The slot after the first user turn of a case takes twenty-one of the bytes of its bound, and the
request for the second user turn is within its bounds. -/
theorem t6_bounds_sound_moving :
    ∃ store, quitoStore = some store ∧ store.slots = [("home_city".toList, "Quito".toList)] ∧
      activeSlotsJsonBytes 1 = .ok 131074 ∧
      size (.dict (store.activeSlots : Dict Empty)) = 21 ∧
      (size (.dict (store.activeSlots : Dict Empty)) : Int) ≤ 131074 ∧
      ∃ request, extractionRequest store movingCase limaTurn = .ok request ∧
        RequestBounded shortDigest (fun _ : Dict Empty => 0) store 1 limaTurn request := by
  have keeps : plainTables.KeepsAscii := fun _ _ => rfl
  have increasing : (movingCase.turns.map (·.sequence)).Pairwise (· < ·) := by decide
  obtain ⟨start, isStart, sound⟩ :=
    t6_bounds_sound keeps shortDigest plainWording (fun _ => 0) movingCase increasing
  obtain ⟨⟨bound, isBound, within⟩, later⟩ := sound quitoSteps (by decide) (by decide)
  have isStore : quitoStore =
      some (start.after plainTables shortDigest plainWording quitoSteps).store := by
    unfold quitoStore
    rw [isStart]
  have slots : quitoStore.map (·.slots) = some [("home_city".toList, "Quito".toList)] := by
    decide +kernel
  have bytes : quitoStore.map (fun store => size (.dict (store.activeSlots : Dict Empty))) =
      some 21 := by
    decide +kernel
  have asks : quitoStore.map (fun store =>
      (extractionRequest (F := Empty) store movingCase limaTurn).toOption.isSome) =
        some true := by
    decide +kernel
  rw [isStore] at slots bytes asks
  have allowed : activeSlotsJsonBytes 1 = .ok 131074 := rfl
  cases allowed.symm.trans isBound
  refine ⟨_, isStore, Option.some.inj slots, allowed, Option.some.inj bytes, within, ?_⟩
  cases isRequest : extractionRequest (F := Empty)
      (start.after plainTables shortDigest plainWording quitoSteps).store movingCase limaTurn with
  | error refusal =>
      rw [Option.map_some, isRequest] at asks
      cases asks
  | ok request => exact ⟨request, rfl, (later limaTurn (by decide)).1 request isRequest⟩

end Facts
end ChatPlatform
