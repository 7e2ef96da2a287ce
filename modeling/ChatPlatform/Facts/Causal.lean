import ChatPlatform.Facts.Applied
import ChatPlatform.Facts.Extraction
import ChatPlatform.Facts.Lifecycle

/-!
# Extraction is causal

A session extracts the user turns of a case in their order. Its store is ready for the
next turn whatever was answered before: every fact was asserted in a turn before it and
cites such turns only, and one fact of a slot is in force at most. So no request is ever
refused.
-/

namespace ChatPlatform
namespace Facts

open Spend Traversal

variable {F : Type} [FloatOps F]

/-! ## Identifiers -/

/-- Normalization form C leaves ASCII text alone. -/
def Unicode.KeepsAscii (unicode : Unicode) : Prop :=
  ∀ value : Str, (value.all fun c => c.toNat < 128) = true → unicode.nfc value = value

/-- A text that says something in ASCII is in normal form. -/
theorem text_of_ascii
    {unicode : Unicode}
    (keeps : unicode.KeepsAscii)
    {value : Str}
    (isSaid : isText value = true)
    (ascii : (value.all fun c => c.toNat < 128) = true) : text unicode value = .ok value := by
  rw [text_of_isText unicode isSaid, keeps value ascii]

/-- The text of a UUID says something. -/
private theorem isText_uuid (id : Uuid) : isText id.text = true := by
  refine decide_eq_true fun blank => ?_
  have hyphen : '-' ∈ id.text := by
    unfold Uuid.text Uuid.hyphenate
    simp
  have invisible := (Text.strip_eq_nil_iff _).mp blank '-' hyphen
  revert invisible
  decide

/-- The text of a UUID is ASCII. -/
private theorem ascii_uuid (id : Uuid) : (id.text.all fun c => c.toNat < 128) = true := by
  have table : Numeral.hexAlphabet.all (fun c => c.toNat < 128) = true := by decide
  refine List.all_eq_true.mpr fun c present => ?_
  rcases Uuid.mem_hyphenate present with digit | hyphen
  · exact List.all_eq_true.mp table c (Uuid.mem_hexAlphabet_of_mem_digits digit)
  · rw [hyphen]
    decide

/-- The text of a UUID is an identifier. -/
theorem isIdentifier_text (id : Uuid) : isIdentifier id.text = true := by
  unfold isIdentifier
  rw [Uuid.ofText_text]
  exact decide_eq_true rfl

/-- Identifiers are in normal form. -/
theorem text_of_isIdentifier
    {unicode : Unicode}
    (keeps : unicode.KeepsAscii)
    {value : Str}
    (identified : isIdentifier value = true) : text unicode value = .ok value := by
  unfold isIdentifier at identified
  split at identified
  · cases identified
  · rename_i id isId
    have same : id.text = value := of_decide_eq_true identified
    rw [← same]
    exact text_of_ascii keeps (isText_uuid id) (ascii_uuid id)

/-! ## Stores that are ready for a turn -/

/-- A fact of a case that was asserted in one of some turns and cites such turns only. -/
structure Cited (case : Case) (processed : List Message) (fact : Fact) : Prop where
  /-- It belongs to the tenant of the case. -/
  tenant : fact.tenantId = case.tenantId
  /-- It belongs to the conversation of the case. -/
  conversation : fact.conversationId = case.conversationId
  /-- It was asserted in one of the turns. -/
  asserted : ∃ turn ∈ processed, fact.sourceSequence = turn.sequence
  /-- It cites a turn. -/
  sourced : fact.sourceMessageIds ≠ []
  /-- It cites some of the turns only. -/
  cites : ∀ id ∈ fact.sourceMessageIds, ∃ turn ∈ processed, id = turn.messageId

/-- The sequence number of the last of some turns. -/
def lastSequenceOf (processed : List Message) : Int :=
  (processed.getLast?.map (·.sequence)).getD (-1)

/-- A store after some user turns of a case. -/
structure Ready (case : Case) (processed : List Message) (store : FactStore) : Prop where
  /-- The tenant is that of the case. -/
  tenant : store.tenantId = case.tenantId
  /-- The conversation is that of the case. -/
  conversation : store.conversationId = case.conversationId
  /-- The extractor is this one. -/
  version : store.extractorVersion = extractorVersion
  /-- The last turn was the last of them. -/
  last : store.lastSequence = lastSequenceOf processed
  /-- Every fact comes from them. -/
  cited : ∀ fact ∈ store.facts, Cited case processed fact
  /-- One fact of a slot is in force at most. -/
  oneActive : OneActive store.facts

/-- More turns may be cited. -/
theorem Cited.mono
    {case : Case}
    {processed more : List Message}
    {fact : Fact}
    (cited : Cited case processed fact)
    (included : processed ⊆ more) : Cited case more fact := by
  obtain ⟨turn, held, same⟩ := cited.asserted
  refine ⟨cited.tenant, cited.conversation, ⟨turn, included held, same⟩, cited.sourced, ?_⟩
  intro id isCited
  obtain ⟨turn, held, same⟩ := cited.cites id isCited
  exact ⟨turn, included held, same⟩

/-- The texts of a ready store are in normal form. -/
theorem Ready.normal
    {unicode : Unicode}
    (keeps : unicode.KeepsAscii)
    {case : Case}
    {processed : List Message}
    {store : FactStore}
    (ready : Ready case processed store) : store.Normal unicode := by
  constructor
  · rw [ready.tenant]
    exact text_of_isIdentifier keeps case.tenantIdentified
  · rw [ready.conversation]
    exact text_of_isIdentifier keeps case.conversationIdentified
  · rw [ready.version]
    exact text_of_ascii keeps (by decide) (by decide)

/-- A session starts with a store that is ready for the first turn. -/
theorem init_ready
    {unicode : Unicode}
    (keeps : unicode.KeepsAscii)
    (case : Case) :
    ∃ extractor, T6Extractor.init unicode case = .ok extractor ∧ extractor.case = case ∧
      extractor.stopped = false ∧ Ready case [] extractor.store := by
  have tenant := text_of_isIdentifier keeps case.tenantIdentified
  have conversation := text_of_isIdentifier keeps case.conversationIdentified
  have version : text unicode extractorVersion = .ok extractorVersion :=
    text_of_ascii keeps (by decide) (by decide)
  unfold T6Extractor.init FactStore.empty FactStore.postInit
  simp only [tenant, conversation, version]
  exact ⟨_, rfl, rfl, rfl, rfl, rfl, rfl, rfl, fun _ held => absurd held List.not_mem_nil,
    oneActive_nil⟩

/-! ## The slots of a request -/

omit [FloatOps F] in
/-- The slots in force are those of the facts in force. -/
theorem slots_perm (store : FactStore) :
    List.Perm store.slots
      ((store.facts.filter (·.status = .active)).map fun fact => (fact.slotKey, fact.value)) :=
  List.perm_insertionSort _ _

omit [FloatOps F] in
/-- The slots in force are distinct when one fact of a slot is in force at most. -/
theorem nodup_slots
    {store : FactStore}
    (one : OneActive store.facts) : (store.slots.map (·.1)).Nodup := by
  rw [((slots_perm store).map _).nodup_iff, List.map_map, List.Nodup, List.pairwise_map,
    List.pairwise_filter, List.pairwise_iff_getElem]
  intro first second firstInside secondInside less active secondActive same
  have place := one first second _ _ (List.getElem?_eq_getElem firstInside)
    (List.getElem?_eq_getElem secondInside) same (of_decide_eq_true active)
    (of_decide_eq_true secondActive)
  omega

/-! ## Answers -/

omit [FloatOps F] in
/-- An operation that is accepted cites the turn and nothing else. -/
theorem sourceMessageIds_of_operationOf
    {turn : Message}
    {payload : Value F}
    {operation : Operation}
    (isValid : operationOf turn payload = .ok operation) :
    operation.sourceMessageIds = [turn.messageId] := by
  cases payload with
  | dict payload =>
      obtain ⟨built, -, checked⟩ := exists_of_bind_eq_ok isValid
      by_cases cites : built.sourceMessageIds = [turn.messageId]
      · rw [if_neg (not_not.mpr cites)] at checked
        cases checked
        exact cites
      · rw [if_pos cites] at checked
        cases checked
  | none => cases isValid
  | bool value => cases isValid
  | int value => cases isValid
  | float value => cases isValid
  | str value => cases isValid
  | list items => cases isValid

omit [FloatOps F] in
/-- The operations that are accepted are those of payloads. -/
theorem accepted_readPayloads
    (wording : Wording F)
    (turn : Message)
    (payloads : List (Value F)) :
    ∀ index, (readPayloads wording turn index payloads).accepted =
      payloads.filterMap fun payload => (operationOf turn payload).toOption := by
  induction payloads with
  | nil => exact fun _ => rfl
  | cons payload rest inductionHypothesis =>
      intro index
      rw [readPayloads, List.filterMap_cons]
      cases operationOf turn payload with
      | error refusal => exact inductionHypothesis (index + 1)
      | ok operation => exact congrArg (operation :: ·) (inductionHypothesis (index + 1))

/-- Every operation that is read of an answer is that of a payload. -/
theorem exists_payload_of_accepted
    {wording : Wording F}
    {turn : Message}
    {text : Value F}
    {operation : Operation}
    (isAccepted : operation ∈ (readAnswerOf wording turn text).accepted) :
    ∃ payloads payload, payloadsOf wording text = .ok payloads ∧ payload ∈ payloads ∧
      operationOf turn payload = .ok operation := by
  unfold readAnswerOf at isAccepted
  cases read : payloadsOf wording text with
  | error reason =>
      rw [read] at isAccepted
      exact absurd isAccepted List.not_mem_nil
  | ok payloads =>
      rw [read] at isAccepted
      dsimp only at isAccepted
      rw [accepted_readPayloads] at isAccepted
      obtain ⟨payload, held, isOperation⟩ := List.mem_filterMap.mp isAccepted
      cases built : operationOf turn payload with
      | error refusal =>
          rw [built] at isOperation
          cases isOperation
      | ok valid =>
          rw [built] at isOperation
          cases isOperation
          exact ⟨payloads, payload, rfl, held, built⟩

/-- Every operation that is read of an answer cites the turn and nothing else. -/
theorem sourceMessageIds_of_accepted
    {wording : Wording F}
    {turn : Message}
    {text : Value F}
    {operation : Operation}
    (isAccepted : operation ∈ (readAnswerOf wording turn text).accepted) :
    operation.sourceMessageIds = [turn.messageId] := by
  obtain ⟨-, payload, -, -, isValid⟩ := exists_payload_of_accepted isAccepted
  exact sourceMessageIds_of_operationOf isValid

/-! ## The next turn -/

section Turns

variable {case : Case}

/-- The user turns of a case after some of them. -/
theorem split_userTurns
    {processed : List Message}
    {turn : Message}
    (inOrder : processed ++ [turn] <+: case.userTurns) :
    ∃ later, case.userTurns = processed ++ turn :: later := by
  obtain ⟨later, whole⟩ := inOrder
  exact ⟨later, by rw [← whole, List.append_assoc]; rfl⟩

/-- A user turn of a case is one of its turns. -/
theorem mem_userTurns {m : Message} :
    m ∈ case.userTurns ↔ m ∈ case.turns ∧ m.role = .user := by
  unfold Case.userTurns
  rw [List.mem_filter, decide_eq_true_eq]

variable (increasing : (case.turns.map (·.sequence)).Pairwise (· < ·))

include increasing

/-- The turns before the next one have smaller sequence numbers, and those after it larger
ones. -/
theorem sequence_userTurns
    {processed later : List Message}
    {turn : Message}
    (split : case.userTurns = processed ++ turn :: later) :
    (∀ m ∈ processed, m.sequence < turn.sequence) ∧ ∀ m ∈ later, turn.sequence < m.sequence := by
  have ordered : case.userTurns.Pairwise fun m m' => m.sequence < m'.sequence :=
    (List.pairwise_map.mp increasing).filter _
  rw [split, List.pairwise_append, List.pairwise_cons] at ordered
  obtain ⟨-, ⟨after, -⟩, between⟩ := ordered
  exact ⟨fun m held => between m held turn List.mem_cons_self, after⟩

/-- The last of the turns before the next one comes before it and after the others. -/
theorem lastSequenceOf_userTurns
    {processed later : List Message}
    {turn : Message}
    (split : case.userTurns = processed ++ turn :: later) :
    lastSequenceOf processed < turn.sequence ∧
      ∀ m ∈ processed, m.sequence ≤ lastSequenceOf processed := by
  obtain ⟨before, -⟩ := sequence_userTurns increasing split
  cases processed using List.reverseRecOn with
  | nil =>
      refine ⟨?_, fun m held => absurd held List.not_mem_nil⟩
      have counted := turn.counted
      show -1 < turn.sequence
      omega
  | append_singleton earlier last =>
      have isLast : lastSequenceOf (earlier ++ [last]) = last.sequence := by
        simp [lastSequenceOf]
      rw [isLast]
      refine ⟨before last (List.mem_append_right _ List.mem_cons_self), ?_⟩
      intro m held
      have split' : case.userTurns = earlier ++ last :: turn :: later := by
        rw [split]
        simp
      rcases List.mem_append.mp held with inEarlier | same
      · exact Int.le_of_lt ((sequence_userTurns increasing split').1 m inEarlier)
      · rw [List.mem_singleton.mp same]

/-- A store that is ready for a turn is not refused. -/
theorem extractionRequest_of_ready
    {processed : List Message}
    {turn : Message}
    {store : FactStore}
    (ready : Ready case processed store)
    (inOrder : processed ++ [turn] <+: case.userTurns) :
    ∃ request : GenerationRequest F, extractionRequest store case turn = .ok request := by
  obtain ⟨later, split⟩ := split_userTurns inOrder
  obtain ⟨before, after⟩ := sequence_userTurns increasing split
  obtain ⟨lastBefore, lastMost⟩ := lastSequenceOf_userTurns increasing split
  obtain ⟨inCase, isUser⟩ := mem_userTurns.mp
    (split ▸ List.mem_append_right _ List.mem_cons_self : turn ∈ case.userTurns)
  have isNext : ¬(turn ∉ case.turns ∨ turn.role ≠ .user ∨ turn.sequence ≤ store.lastSequence) := by
    rw [ready.last]
    rintro (missing | notUser | backward)
    · exact missing inCase
    · exact notUser isUser
    · omega
  have noneSkipped : ¬(case.turns.any fun m =>
      m.role = .user && store.lastSequence < m.sequence && m.sequence < turn.sequence) = true := by
    intro skipped
    obtain ⟨m, held, between⟩ := List.any_eq_true.mp skipped
    simp only [Bool.and_eq_true, decide_eq_true_eq, ready.last] at between
    obtain ⟨⟨userTurn, afterLast⟩, beforeTurn⟩ := between
    have isTurn : m ∈ processed ++ turn :: later := split ▸ mem_userTurns.mpr ⟨held, userTurn⟩
    rcases List.mem_append.mp isTurn with isProcessed | isLater
    · have := lastMost m isProcessed
      omega
    · rcases List.mem_cons.mp isLater with rfl | isAfter
      · omega
      · have := after m isAfter
        omega
  have noneForeign : ¬(store.facts.any fun fact =>
      fact.tenantId ≠ store.tenantId || fact.conversationId ≠ store.conversationId ||
        turn.sequence ≤ fact.sourceSequence) = true := by
    intro foreign
    obtain ⟨fact, held, isForeign⟩ := List.any_eq_true.mp foreign
    have cited := ready.cited fact held
    obtain ⟨source, isProcessed, same⟩ := cited.asserted
    have earlier := before source isProcessed
    simp only [Bool.or_eq_true, decide_eq_true_eq, cited.tenant, cited.conversation,
      ready.tenant, ready.conversation, ne_eq, not_true_eq_false, false_or] at isForeign
    omega
  have allCausal : ¬(store.facts.any fun fact =>
      fact.sourceMessageIds = [] ||
        !fact.sourceMessageIds.all (· ∈ case.priorUsers turn)) = true := by
    intro uncaused
    obtain ⟨fact, held, isUncaused⟩ := List.any_eq_true.mp uncaused
    have cited := ready.cited fact held
    have prior : fact.sourceMessageIds.all (· ∈ case.priorUsers turn) = true := by
      refine List.all_eq_true.mpr fun id isCited => decide_eq_true ?_
      obtain ⟨source, isProcessed, same⟩ := cited.cites id isCited
      have isTurn : source ∈ case.userTurns := by
        rw [split]
        exact List.mem_append_left _ isProcessed
      obtain ⟨inTurns, userTurn⟩ := mem_userTurns.mp isTurn
      rw [same]
      refine List.mem_map_of_mem (List.mem_filter.mpr ⟨inTurns, ?_⟩)
      rw [Bool.and_eq_true]
      exact ⟨decide_eq_true userTurn, decide_eq_true (before source isProcessed)⟩
    rw [prior] at isUncaused
    simp [cited.sourced] at isUncaused
  unfold extractionRequest
  rw [if_neg (by rw [ready.tenant, ready.conversation]; simp), if_neg (by simp [ready.version]),
    if_neg isNext, if_neg noneSkipped, if_neg noneForeign, if_neg allCausal,
    if_neg (not_not.mpr (nodup_slots ready.oneActive))]
  exact ⟨_, rfl⟩

omit increasing in
/-- What the operations of a turn leave is ready for the next turn. -/
theorem ready_of_applied
    {unicode : Unicode}
    {processed : List Message}
    {turn : Message}
    {store : FactStore}
    {operations : List Operation}
    {facts : List Fact}
    (ready : Ready case processed store)
    (citesTurn : ∀ operation ∈ operations, operation.sourceMessageIds = [turn.messageId])
    (applied : AppliedAll store ⟨turn.sequence, unicode.nfc turn.content⟩ operations store.facts
      facts)
    (audit : List AuditOperation) :
    Ready case (processed ++ [turn])
      { store with facts, audit, lastSequence := turn.sequence } := by
  have isProcessed : turn ∈ processed ++ [turn] := List.mem_append_right _ List.mem_cons_self
  refine ⟨ready.tenant, ready.conversation, ready.version, ?_, ?_,
    applied.oneActive ready.oneActive⟩
  · simp [lastSequenceOf]
  · refine applied.forall_mem ?_ ?_ ?_ ?_
    · intro fact status supersededBy cited
      exact ⟨cited.tenant, cited.conversation, cited.asserted, cited.sourced, cited.cites⟩
    · intro operation held fact cited
      refine ⟨cited.tenant, cited.conversation, cited.asserted, ?_, ?_⟩
      · intro unsourced
        have empty : Keyed.fromKeys (fact.sourceMessageIds ++ operation.sourceMessageIds) = [] :=
          unsourced
        have kept := Keyed.mem_fromKeys.mpr (List.mem_append_left operation.sourceMessageIds
          (List.head_mem cited.sourced))
        rw [empty] at kept
        exact absurd kept List.not_mem_nil
      · intro id isCited
        rcases List.mem_append.mp (Keyed.mem_fromKeys.mp isCited) with before | new
        · exact cited.cites id before
        · have isTurn : id ∈ [turn.messageId] := citesTurn operation held ▸ new
          exact ⟨turn, isProcessed, List.mem_singleton.mp isTurn⟩
    · intro operation held value identifier prior
      refine ⟨ready.tenant, ready.conversation, ⟨turn, isProcessed, rfl⟩, ?_, ?_⟩
      · exact operation.sourced
      · intro id isCited
        have isSource : id ∈ operation.sourceMessageIds := isCited
        rw [citesTurn operation held] at isSource
        exact ⟨turn, isProcessed, List.mem_singleton.mp isSource⟩
    · intro fact held
      exact (ready.cited fact held).mono (List.subset_append_left _ _)

end Turns

/-! ## Sessions -/

/-- A completion that answers with a text. -/
def completing (text : Str) (_ : GenerationRequest F) : Except Empty (GenerationResult F) :=
  .ok ⟨.str text, none, false, []⟩

section Sessions

variable (unicode : Unicode) (sha256 : Str → Fin (2 ^ 256)) (wording : Wording F)

/-- A session after some turns were answered with some texts. -/
def T6Extractor.after (extractor : T6Extractor) : List (Message × Str) → T6Extractor
  | [] => extractor
  | (turn, answer) :: rest =>
      T6Extractor.after (extractor.extract unicode sha256 wording turn (completing answer)).2 rest

/-- What holds when a session extracts a turn after others. -/
structure CausalStep
    (extractor : T6Extractor)
    (processed : List Message)
    (turn : Message)
    (answer : Str) : Prop where
  /-- The request is not refused. -/
  requested : ∀ problem,
    (extractor.extract unicode sha256 wording turn (completing answer)).1 ≠
      .error (.request problem)
  /-- Every fact was asserted in one of the turns and cites such turns only. -/
  cited : ∀ fact ∈
    (extractor.extract unicode sha256 wording turn (completing answer)).2.store.facts,
      Cited extractor.case (processed ++ [turn]) fact
  /-- An answer without an operation that passes its checks adds to the audit and consumes the
  turn. -/
  idle : extractor.stopped = false → Text.utf8Length answer ≤ t6ExtractionResponseBytes →
    (readAnswerOf wording turn (.str answer)).accepted = [] →
      ∃ audited, (extractor.extract unicode sha256 wording turn (completing answer)).2.store =
        { extractor.store with
          audit := extractor.store.audit ++ audited, lastSequence := turn.sequence }
  /-- Operations that do not pass their checks change nothing but the audit. -/
  neutral : ∀ other, Text.utf8Length answer ≤ t6ExtractionResponseBytes →
    Text.utf8Length other ≤ t6ExtractionResponseBytes →
      (readAnswerOf wording turn (.str other)).accepted =
        (readAnswerOf wording turn (.str answer)).accepted →
          ∃ audit,
            (extractor.extract unicode sha256 wording turn (completing other)).2.store =
              { (extractor.extract unicode sha256 wording turn (completing answer)).2.store with
                audit }

variable {unicode sha256 wording}

/-- What a session does with an answer that is short enough. -/
theorem extract_of_ready
    (sha256 : Str → Fin (2 ^ 256))
    (wording : Wording F)
    (keeps : unicode.KeepsAscii)
    {extractor : T6Extractor}
    (running : extractor.stopped = false)
    (increasing : (extractor.case.turns.map (·.sequence)).Pairwise (· < ·))
    {processed : List Message}
    (ready : Ready extractor.case processed extractor.store)
    {turn : Message}
    (inOrder : processed ++ [turn] <+: extractor.case.userTurns)
    {answer : Str}
    (fits : Text.utf8Length answer ≤ t6ExtractionResponseBytes) :
    ∃ facts audit,
      extractor.store.apply unicode sha256
          ((readAnswerOf wording turn (.str answer)).accepted.map (Given.operation (F := F)))
            turn.sequence turn.content =
        .ok { extractor.store with facts, audit, lastSequence := turn.sequence } ∧
      AppliedAll extractor.store ⟨turn.sequence, unicode.nfc turn.content⟩
        (readAnswerOf wording turn (.str answer)).accepted extractor.store.facts facts ∧
      extractor.store.audit <+: audit ∧
      (∃ result,
        (extractor.extract unicode sha256 wording turn (completing answer)).1 = .ok result ∧
          result.operations = (readAnswerOf wording turn (.str answer)).accepted) ∧
      (extractor.extract unicode sha256 wording turn (completing answer)).2 =
        { extractor with
          store := { extractor.store with
            facts
            audit := audit ++ (readAnswerOf wording turn (.str answer)).audit
            lastSequence := turn.sequence } } := by
  obtain ⟨later, split⟩ := split_userTurns inOrder
  obtain ⟨lastBefore, -⟩ := lastSequenceOf_userTurns increasing split
  have normal := ready.normal keeps
  obtain ⟨request, isRequest⟩ :=
    extractionRequest_of_ready (F := F) increasing ready inOrder
  obtain ⟨facts, audit, applies, applied, audited⟩ :=
    FactStore.Normal.apply (F := F) sha256 normal turn.counted
      (by rw [ready.last]; exact lastBefore) turn.said
      (readAnswerOf wording turn (.str answer)).accepted
  refine ⟨facts, audit, applies, applied, audited, ?_⟩
  have kept : FactStore.Normal unicode
      { extractor.store with
        facts
        audit := audit ++ (readAnswerOf wording turn (.str answer)).audit
        lastSequence := turn.sequence } :=
    ⟨normal.tenant, normal.conversation, normal.extractor⟩
  have checked : checkedComplete (completing answer) request =
      .ok (⟨.str answer, none, false, []⟩ : GenerationResult F) := by
    unfold checkedComplete acceptResponse
    exact if_neg (Nat.not_lt.mpr fits)
  unfold T6Extractor.extract extractTurn
  rw [if_neg (by rw [running]; nofun), isRequest]
  dsimp only
  rw [checked]
  dsimp only
  rw [applies]
  simp only [bind, Except.bind, kept.postInit]
  exact ⟨⟨_, rfl, rfl⟩, trivial⟩

/-- A session stops at an answer that is too long. -/
theorem extract_of_long
    (wording : Wording F)
    {extractor : T6Extractor}
    (running : extractor.stopped = false)
    {turn : Message}
    {request : GenerationRequest F}
    (isRequest : extractionRequest extractor.store extractor.case turn = .ok request)
    {answer : Str}
    (long : ¬Text.utf8Length answer ≤ t6ExtractionResponseBytes) :
    ∃ message, extractor.extract unicode sha256 wording turn (completing answer) =
      (.error (.completion (.stopped message)), { extractor with stopped := true }) := by
  have refused : ∃ message, checkedComplete (completing answer) request =
      .error (.stopped message : Raised Empty) := by
    unfold checkedComplete acceptResponse completing
    dsimp only
    rw [if_pos (Nat.not_le.mp long)]
    exact ⟨_, rfl⟩
  obtain ⟨message, isRefused⟩ := refused
  unfold T6Extractor.extract extractTurn
  rw [if_neg (by rw [running]; nofun), isRequest]
  dsimp only
  rw [isRefused]
  exact ⟨message, rfl⟩

/-- A stopped session stays as it is. -/
theorem extract_of_stopped
    (wording : Wording F)
    {extractor : T6Extractor}
    (stopped : extractor.stopped = true)
    (turn : Message)
    (answer : Str) :
    ∃ message, extractor.extract unicode sha256 wording turn (completing answer) =
      (.error (.completion (.stopped message)), extractor) := by
  unfold T6Extractor.extract
  rw [if_pos stopped]
  exact ⟨_, rfl⟩

/-- A session that processed some turns, or stopped at one of them. -/
structure Following (case : Case) (processed : List Message) (extractor : T6Extractor) : Prop where
  /-- The session is about the case. -/
  case_eq : extractor.case = case
  /-- Its store is ready after the turns before it stopped. -/
  ready : ∃ kept, kept <+: processed ∧ Ready case kept extractor.store ∧
    (extractor.stopped = false → kept = processed)

/-- What a session that follows the turns of a case does with the next one. -/
theorem Following.extract
    (sha256 : Str → Fin (2 ^ 256))
    (wording : Wording F)
    (keeps : unicode.KeepsAscii)
    {case : Case}
    (increasing : (case.turns.map (·.sequence)).Pairwise (· < ·))
    {processed : List Message}
    {extractor : T6Extractor}
    (following : Following case processed extractor)
    {turn : Message}
    (inOrder : processed ++ [turn] <+: case.userTurns)
    (answer : Str) :
    Following case (processed ++ [turn])
        (extractor.extract unicode sha256 wording turn (completing answer)).2 ∧
      ∀ problem, (extractor.extract unicode sha256 wording turn (completing answer)).1 ≠
        .error (.request problem) := by
  obtain ⟨rfl, kept, isPrefix, ready, current⟩ := following
  have longer : kept <+: processed ++ [turn] := isPrefix.trans (List.prefix_append _ _)
  by_cases stopped : extractor.stopped = true
  · obtain ⟨message, same⟩ := extract_of_stopped wording stopped turn answer
    rw [same]
    exact ⟨⟨rfl, kept, longer, ready, by rw [stopped]; nofun⟩, nofun⟩
  · have running : extractor.stopped = false := Bool.eq_false_of_not_eq_true stopped
    obtain rfl := current running
    by_cases fits : Text.utf8Length answer ≤ t6ExtractionResponseBytes
    · obtain ⟨facts, audit, -, applied, -, ⟨result, returned, -⟩, isNext⟩ :=
        extract_of_ready sha256 wording keeps running increasing ready inOrder fits
      rw [returned, isNext]
      refine ⟨⟨rfl, _, List.prefix_refl _, ?_, fun _ => rfl⟩, nofun⟩
      exact ready_of_applied ready (fun operation held => sourceMessageIds_of_accepted held)
        applied _
    · obtain ⟨request, isRequest⟩ :=
        extractionRequest_of_ready (F := F) increasing ready inOrder
      obtain ⟨message, same⟩ := extract_of_long wording running isRequest fits
      rw [same]
      exact ⟨⟨rfl, _, longer, ready, nofun⟩, nofun⟩

/-- A session follows the turns that were answered. -/
theorem Following.after
    (sha256 : Str → Fin (2 ^ 256))
    (wording : Wording F)
    (keeps : unicode.KeepsAscii)
    {case : Case}
    (increasing : (case.turns.map (·.sequence)).Pairwise (· < ·))
    {steps : List (Message × Str)} :
    ∀ {processed : List Message} {extractor : T6Extractor},
      Following case processed extractor →
        processed ++ steps.map (·.1) <+: case.userTurns →
          Following case (processed ++ steps.map (·.1))
            (extractor.after unicode sha256 wording steps) := by
  induction steps with
  | nil =>
      intro processed extractor following inOrder
      rw [List.map_nil, List.append_nil]
      exact following
  | cons step rest inductionHypothesis =>
      obtain ⟨turn, answer⟩ := step
      intro processed extractor following inOrder
      rw [List.map_cons, List.append_cons] at inOrder ⊢
      have next : processed ++ [turn] <+: case.userTurns := (List.prefix_append _ _).trans inOrder
      exact inductionHypothesis
        (Following.extract sha256 wording keeps increasing following next answer).1 inOrder

/-- Every step of a session that follows the turns is causal. -/
theorem Following.causalStep
    (wording : Wording F)
    (keeps : unicode.KeepsAscii)
    {case : Case}
    (increasing : (case.turns.map (·.sequence)).Pairwise (· < ·))
    {processed : List Message}
    {extractor : T6Extractor}
    (following : Following case processed extractor)
    {turn : Message}
    (inOrder : processed ++ [turn] <+: case.userTurns)
    (answer : Str) : CausalStep unicode sha256 wording extractor processed turn answer := by
  obtain ⟨next, requested⟩ :=
    Following.extract sha256 wording keeps increasing following inOrder answer
  obtain ⟨rfl, kept, isPrefix, ready, current⟩ := following
  refine ⟨requested, ?_, ?_, ?_⟩
  · obtain ⟨-, cited, isPrefix, ready, -⟩ := next
    exact fun fact held => (ready.cited fact held).mono isPrefix.subset
  · intro running fits noneAccepted
    obtain rfl := current running
    obtain ⟨facts, audit, -, applied, ⟨audited, isAudit⟩, -, isNext⟩ :=
      extract_of_ready sha256 wording keeps running increasing ready inOrder fits
    rw [noneAccepted] at applied
    cases applied
    rw [isNext]
    refine ⟨audited ++ (readAnswerOf wording turn (.str answer)).audit, ?_⟩
    rw [← List.append_assoc, isAudit]
  · intro other fits otherFits sameOperations
    by_cases stopped : extractor.stopped = true
    · obtain ⟨message, same⟩ := extract_of_stopped wording stopped turn answer
      obtain ⟨otherMessage, otherSame⟩ := extract_of_stopped wording stopped turn other
      rw [same, otherSame]
      exact ⟨extractor.store.audit, rfl⟩
    · have running : extractor.stopped = false := Bool.eq_false_of_not_eq_true stopped
      obtain rfl := current running
      obtain ⟨facts, audit, applies, -, -, -, isNext⟩ :=
        extract_of_ready sha256 wording keeps running increasing ready inOrder fits
      obtain ⟨otherFacts, otherAudit, otherApplies, -, -, -, isOther⟩ :=
        extract_of_ready sha256 wording keeps running increasing ready inOrder otherFits
      rw [sameOperations, applies] at otherApplies
      cases otherApplies
      rw [isNext, isOther]
      exact ⟨_, rfl⟩

end Sessions

/-- Extraction is causal: whatever texts the user turns of a case before a turn were answered
with, the request for the turn is not refused, every fact afterwards was asserted in one of these
turns and cites such turns only, and malformed answers and operations change nothing but the
audit and the turn that was consumed. -/
theorem extraction_causal
    {unicode : Unicode}
    (keeps : unicode.KeepsAscii)
    (sha256 : Str → Fin (2 ^ 256))
    (wording : Wording F)
    (case : Case)
    (increasing : (case.turns.map (·.sequence)).Pairwise (· < ·)) :
    ∃ start, T6Extractor.init unicode case = .ok start ∧
      ∀ (earlier : List (Message × Str)) (turn : Message) (answer : Str),
        earlier.map (·.1) ++ [turn] <+: case.userTurns →
          CausalStep unicode sha256 wording (start.after unicode sha256 wording earlier)
            (earlier.map (·.1)) turn answer := by
  obtain ⟨start, isStart, isCase, running, ready⟩ := init_ready keeps case
  refine ⟨start, isStart, fun earlier turn answer inOrder => ?_⟩
  have starts : Following case [] start := ⟨isCase, [], List.prefix_refl _, ready, fun _ => rfl⟩
  have follows := Following.after sha256 wording keeps increasing starts
    ((List.prefix_append _ _).trans inOrder)
  exact follows.causalStep wording keeps increasing inOrder answer

/-! ## A case -/

/-- Two user turns with an answer between them. -/
def movingCase : Case where
  tenantId := (Uuid.mk 1).text
  conversationId := (Uuid.mk 2).text
  turns :=
    [⟨"m1".toList, 1, .user, "I live in Quito.".toList, by decide, by decide⟩,
      ⟨"m2".toList, 2, .assistant, "Noted.".toList, by decide, by decide⟩,
      ⟨"m3".toList, 3, .user, "I moved to Lima.".toList, by decide, by decide⟩]
  tenantIdentified := isIdentifier_text _
  conversationIdentified := isIdentifier_text _

/-- The second user turn of the case. -/
def limaTurn : Message := ⟨"m3".toList, 3, .user, "I moved to Lima.".toList, by decide, by decide⟩

/-- Words for what went wrong. -/
def plainWording : Wording Empty where
  notJson := id
  notText := fun _ => []
  unhashable := fun _ => []

/-- The second user turn is causal after a malformed answer to the first one. -/
theorem extraction_causal_moving :
    ∃ start, T6Extractor.init plainTables movingCase = .ok start ∧
      CausalStep plainTables shortDigest plainWording
        (start.after plainTables shortDigest plainWording
          ((movingCase.userTurns.take 1).map fun turn => (turn, "no facts".toList)))
        (movingCase.userTurns.take 1)
        ⟨"m3".toList, 3, .user, "I moved to Lima.".toList, by decide, by decide⟩
        "\x7b\"facts\":[]\x7d".toList := by
  have keeps : plainTables.KeepsAscii := fun _ _ => rfl
  have increasing : (movingCase.turns.map (·.sequence)).Pairwise (· < ·) := by decide
  obtain ⟨start, isStart, causal⟩ :=
    extraction_causal keeps shortDigest plainWording movingCase increasing
  exact ⟨start, isStart, causal _ _ _ ⟨[], rfl⟩⟩

end Facts
end ChatPlatform
