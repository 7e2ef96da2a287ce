import ChatPlatform.DualMemory.CallLedger
import ChatPlatform.EventLog.Chain
import ChatPlatform.Foundation.Growth
import ChatPlatform.Foundation.Traversal

/-!
# What a file of rows says

The rows that were appended, apart from their text. Of a file whose rows are on one line
each, every operation of the ledger reads back these rows, so that what it computes is a
count or a selection of them.
-/

namespace ChatPlatform
namespace DualMemory

open Json

variable {F : Type} [FloatOps F]

/-! ## Rows -/

/-- What a row says. -/
inductive Entry (F : Type)
  /-- A call is announced. -/
  | started (callId : Str) (kind : ExternalKind) (model : Str) (stepId arm : Option Str)
  /-- A call is refused. -/
  | blocked (kind : ExternalKind) (model : Str) (stepId arm : Option Str)
  /-- A call is closed. -/
  | closed (call : CallReservation) (ending : Ending F)

/-- A row. -/
structure Row (F : Type) where
  /-- The ledger that appended it. -/
  ledger : Ledger
  /-- What was drawn for it. -/
  draw : Draw
  /-- What it says. -/
  entry : Entry F

namespace Entry

/-- The fields of an entry. -/
def fields : Entry F → Dict F
  | .started callId kind model stepId arm =>
      reservationFields "started".toList kind.text model stepId arm (some callId) none
  | .blocked kind model stepId arm =>
      reservationFields "budget_blocked".toList kind.text model stepId arm none
        (some "approved_external_call_limit_reached".toList)
  | .closed call ending => terminalFields call ending

/-- The name of the event. -/
def event : Entry F → Str
  | .started .. => "started".toList
  | .blocked .. => "budget_blocked".toList
  | .closed _ ending => ending.event

/-- The kind of the call. -/
def kind : Entry F → Str
  | .started _ kind _ _ _ | .blocked kind _ _ _ => kind.text
  | .closed call _ => call.kind

/-- Whether a call is announced. -/
def isStarted : Entry F → Bool
  | .started .. => true
  | _ => false

/-- Whether a call is closed. -/
def isClosed : Entry F → Bool
  | .closed .. => true
  | _ => false

/-- The call that is announced. -/
def startedId : Entry F → Option Str
  | .started callId _ _ _ _ => some callId
  | _ => none

/-- The call that is closed. -/
def closedId : Entry F → Option Str
  | .closed call _ => some call.callId
  | _ => none

/-- The call of an entry. -/
def callId : Entry F → Option Str
  | .started callId _ _ _ _ => some callId
  | .blocked .. => none
  | .closed call _ => some call.callId

end Entry

variable (manifest : FrozenManifest)

/-- A row as a dictionary. -/
def Row.record (row : Row F) : Dict F :=
  baseFields manifest row.ledger row.draw ++ row.entry.fields

/-- A row as it is read. -/
def Row.read (row : Row F) : Dict F := sortKeys (row.record manifest)

/-- The file with some rows. -/
def fileOf (rows : List (Row F)) : Str := recordFile false (rows.map (Row.record manifest))

/-- The calls that were announced. -/
def startedIds (rows : List (Row F)) : List Str := rows.filterMap fun row => row.entry.startedId

/-- The calls that were closed. -/
def closedIds (rows : List (Row F)) : List Str := rows.filterMap fun row => row.entry.closedId

/-- The calls that were announced and not closed. -/
def unresolved (rows : List (Row F)) : List Str :=
  (startedIds rows).filter fun id => id ∉ closedIds rows

/-- Whether a row announces a call of a kind. -/
def announces (kind : ExternalKind) (row : Row F) : Bool :=
  row.entry.isStarted && row.entry.kind = kind.text

/-- How many calls were announced. -/
def countsOf (rows : List (Row F)) : Counts where
  ofKind kind := rows.countP (announces kind)
  total := (startedIds rows).length

/-! ## Looking into a row -/

omit [FloatOps F] in
@[simp] theorem isScalar_str (text : Str) : isScalar (.str text : Value F) = true := rfl

omit [FloatOps F] in
@[simp] theorem isScalar_none : isScalar (.none : Value F) = true := rfl

omit [FloatOps F] in
@[simp] theorem isScalar_optional (text : Option Str) :
    isScalar (optional text : Value F) = true := by
  cases text with
  | none => rfl
  | some text => rfl

omit [FloatOps F] in
@[simp] theorem isScalar_optionalInt (number : Option Int) :
    isScalar (optionalInt number : Value F) = true := by
  cases number with
  | none => rfl
  | some number => rfl

omit [FloatOps F] in
@[simp] theorem isScalar_optionalFloat (number : Option F) :
    isScalar (optionalFloat number) = true := by
  cases number with
  | none => rfl
  | some number => rfl

/-- The keys of the fields of every row. -/
def baseKeys : List Str :=
  ["schema_version".toList, "event_id".toList, "recorded_at".toList, "run_id".toList,
    "manifest_sha256".toList, "origin_commit".toList]

/-- The keys of a row that announces or refuses a call. -/
def reservationKeys : List Str :=
  ["event".toList, "kind".toList, "model".toList, "step_id".toList, "arm".toList,
    "call_id".toList, "reason".toList]

/-- The keys of a row that closes a call. -/
def terminalKeys : List Str :=
  ["kind".toList, "model".toList, "step_id".toList, "arm".toList, "call_id".toList,
    "reason".toList, "event".toList, "input_tokens".toList, "output_tokens".toList,
    "estimated_tokens".toList, "duration_ms".toList, "error_kind".toList]

variable {manifest}

omit [FloatOps F] in
/-- The keys of a row are those of its sort. -/
theorem Row.keys_record (row : Row F) :
    (row.record manifest).map (·.1) =
      baseKeys ++ if row.entry.isClosed then terminalKeys else reservationKeys := by
  unfold Row.record Entry.isClosed
  cases row.entry with
  | started => rfl
  | blocked => rfl
  | closed => rfl

omit [FloatOps F] in
/-- A row is a record of scalars. -/
theorem Row.record_isRecord (row : Row F) : ScalarRecord (row.record manifest) := by
  constructor
  · rw [Row.keys_record]
    split
    · decide +kernel
    · decide +kernel
  · unfold Row.record
    rw [List.forall_mem_append]
    constructor
    · simp only [baseFields, List.forall_mem_cons, isScalar_str, List.not_mem_nil, false_implies,
        implies_true, and_self]
    · cases row.entry with
      | started | blocked =>
          simp only [Entry.fields, reservationFields, List.forall_mem_cons, isScalar_str,
            isScalar_optional, List.not_mem_nil, false_implies, implies_true, and_self]
      | closed =>
          simp only [Entry.fields, terminalFields, List.forall_mem_cons, isScalar_str,
            isScalar_none, isScalar_optional, isScalar_optionalInt, isScalar_optionalFloat,
            List.not_mem_nil, false_implies, implies_true, and_self]

omit [FloatOps F] in
/-- What was read of a row has under a key what the row has. -/
theorem Row.get_read (row : Row F) (key : Str) :
    Dict.get (row.read manifest) key = Dict.get (row.record manifest) key :=
  get_sortKeys row.record_isRecord.distinct key

omit [FloatOps F] in
theorem Row.get_event (row : Row F) :
    Dict.get (row.read manifest) "event".toList = some (.str row.entry.event) := by
  rw [Row.get_read, Row.record]
  cases row.entry with
  | started => rfl
  | blocked => rfl
  | closed => rfl

omit [FloatOps F] in
theorem Row.get_kind (row : Row F) :
    Dict.get (row.read manifest) "kind".toList = some (.str row.entry.kind) := by
  rw [Row.get_read, Row.record]
  cases row.entry with
  | started => rfl
  | blocked => rfl
  | closed => rfl

omit [FloatOps F] in
theorem Row.get_callId (row : Row F) :
    Dict.get (row.read manifest) "call_id".toList = some (optional row.entry.callId) := by
  rw [Row.get_read, Row.record]
  cases row.entry with
  | started => rfl
  | blocked => rfl
  | closed => rfl

theorem appendRow_fileOf (rows : List (Row F)) (row : Row F) :
    appendRow (fileOf manifest rows) (row.record manifest) = fileOf manifest (rows ++ [row]) := by
  unfold fileOf recordFile appendRow
  rw [List.map_append, List.flatMap_append, List.map_singleton, List.flatMap_singleton]

/-! ## Tests of rows -/

omit [FloatOps F] in
theorem fieldIs_event (text : Str) (row : Row F) :
    fieldIs "event".toList text (row.read manifest) = .ok (row.entry.event = text) := by
  unfold fieldIs field
  rw [Row.get_event]
  rfl

omit [FloatOps F] in
theorem fieldIs_kind (text : Str) (row : Row F) :
    fieldIs "kind".toList text (row.read manifest) = .ok (row.entry.kind = text) := by
  unfold fieldIs field
  rw [Row.get_kind]
  rfl

omit [FloatOps F] in
theorem Entry.event_eq_started (entry : Entry F) :
    decide (entry.event = "started".toList) = entry.isStarted := by
  cases entry with
  | started => rfl
  | blocked => rfl
  | closed call ending =>
      obtain ⟨isSuccess, _, _, _, _, _⟩ := ending
      cases isSuccess with
      | true => rfl
      | false => rfl

omit [FloatOps F] in
theorem fieldIs_started (row : Row F) :
    fieldIs "event".toList "started".toList (row.read manifest) = .ok row.entry.isStarted := by
  rw [fieldIs_event, Entry.event_eq_started]

omit [FloatOps F] in
theorem isTerminal_read (row : Row F) :
    isTerminal (row.read manifest) = .ok row.entry.isClosed := by
  unfold isTerminal field
  rw [Row.get_event]
  cases row.entry with
  | started => rfl
  | blocked => rfl
  | closed call ending =>
      obtain ⟨isSuccess, _, _, _, _, _⟩ := ending
      cases isSuccess with
      | true => rfl
      | false => rfl

omit [FloatOps F] in
theorem ofCall_read
    {call : CallReservation}
    {test : Dict F → Except LedgerError Bool}
    {row : Row F}
    {passes : Bool}
    (tested : test (row.read manifest) = .ok passes) :
    ofCall call test (row.read manifest) =
      .ok (decide (row.entry.callId = some call.callId) && passes) := by
  unfold ofCall
  rw [Row.get_callId, tested]
  cases row.entry.callId with
  | none => rfl
  | some id =>
      change (if isText call.callId (.str id : Value F) = true then _ else _) = _
      unfold isText
      by_cases same : id = call.callId
      · simp [same]
      · simp [same]

omit [FloatOps F] in
/-- Where the outcome of a test is known for every row, so is what passes it. -/
theorem select_read
    {test : Dict F → Except LedgerError Bool}
    {passes : Row F → Bool}
    (tested : ∀ row, test (row.read manifest) = .ok (passes row))
    (rows : List (Row F)) :
    select test (rows.map (Row.read manifest)) =
      .ok ((rows.filter passes).map (Row.read manifest)) := by
  induction rows with
  | nil => rfl
  | cons row rest inductionHypothesis =>
      rw [List.map_cons, select, tested, inductionHypothesis, List.filter_cons]
      change Except.ok (if passes row = true then _ else _) = _
      cases passes row with
      | true => rfl
      | false => rfl

omit [FloatOps F] in
theorem tally_read
    {test : Dict F → Except LedgerError Bool}
    {passes : Row F → Bool}
    (tested : ∀ row, test (row.read manifest) = .ok (passes row))
    (rows : List (Row F)) :
    tally test (rows.map (Row.read manifest)) = .ok (rows.countP passes) := by
  unfold tally
  rw [select_read tested, List.countP_eq_length_filter]
  change Except.ok (List.map _ _).length = _
  rw [List.length_map]

omit [FloatOps F] in
theorem Entry.startedId_isSome (entry : Entry F) : entry.startedId.isSome = entry.isStarted := by
  cases entry with
  | started => rfl
  | blocked => rfl
  | closed => rfl

omit [FloatOps F] in
theorem length_filter_isStarted (rows : List (Row F)) :
    (rows.filter fun row => row.entry.isStarted).length = (startedIds rows).length := by
  rw [← List.countP_eq_length_filter, startedIds, List.length_filterMap_eq_countP]
  exact List.countP_congr fun row _ => by rw [Entry.startedId_isSome]

/-! ## Reading the file -/

section Reading

variable [ReadableFloats F] [ReadableConstants F]

omit [FloatOps F] [ReadableFloats F] [ReadableConstants F] in
theorem checkRow_read (row : Row F) :
    checkRow manifest (.dict (row.read manifest)) = .ok (row.read manifest) := by
  have schema : Dict.get (row.read manifest) "schema_version".toList =
      some (.str ledgerSchema) := by
    rw [Row.get_read]
    rfl
  have digest : Dict.get (row.read manifest) "manifest_sha256".toList =
      some (.str manifest.sha256) := by
    rw [Row.get_read]
    rfl
  have commit : Dict.get (row.read manifest) "origin_commit".toList =
      some (.str manifest.expectedCommit) := by
    rw [Row.get_read]
    rfl
  simp only [checkRow, Dict.getStr, schema, digest, commit, ne_eq, not_true_eq_false, if_false]

/-- The rows of a file are read back, with their keys in order. -/
theorem events_fileOf
    {rows : List (Row F)}
    (seamless : ∀ row ∈ rows, SeamlessRecord (row.record manifest)) :
    events F manifest (fileOf manifest rows) = .ok (rows.map (Row.read manifest)) := by
  have areRecords : ∀ record ∈ rows.map (Row.record manifest),
      ScalarRecord record ∧ SeamlessRecord record := by
    intro record held
    obtain ⟨row, inRows, rfl⟩ := List.mem_map.mp held
    exact ⟨row.record_isRecord, seamless row inRows⟩
  have noReturn : '\r' ∉ fileOf manifest rows := by
    intro held
    obtain ⟨record, inRows, inLine⟩ := List.mem_flatMap.mp held
    obtain ⟨isRecord, isSeamless⟩ := areRecords record inRows
    rcases List.mem_append.mp inLine with inText | isEnd
    · exact absurd (unbroken_spaced false isRecord isSeamless _ inText) (by decide)
    · exact absurd (List.mem_singleton.mp isEnd) (by decide)
  have lines : ledgerLines (fileOf manifest rows) =
      rows.map fun row => spaced false (row.record manifest) := by
    unfold ledgerLines
    rw [EventLog.universalNewlines_self noReturn, fileOf, splitlines_recordFile false areRecords,
      List.map_map, List.filter_eq_self.mpr]
    · rfl
    · intro line held
      obtain ⟨row, -, rfl⟩ := List.mem_map.mp held
      exact decide_eq_true (strip_spaced_ne_nil false _)
  have parsed : (rows.map fun row => spaced false (row.record manifest)).mapM
      (parseLine (F := F)) = .ok (rows.map fun row => .dict (row.read manifest)) := by
    refine Traversal.mapM_map_eq_ok fun row _ => ?_
    unfold parseLine
    rw [loads_spaced true false row.record_isRecord]
    rfl
  unfold events
  rw [lines, parsed]
  exact Traversal.mapM_map_eq_ok fun row _ => checkRow_read row

/-- The counts of a file. -/
theorem counts_fileOf
    {rows : List (Row F)}
    (seamless : ∀ row ∈ rows, SeamlessRecord (row.record manifest)) :
    counts F manifest (fileOf manifest rows) = .ok (countsOf rows) := by
  have ofKind : ∀ kind : ExternalKind,
      (rows.filter fun row => row.entry.isStarted).countP
        (fun row => row.entry.kind = kind.text) = rows.countP (announces kind) := by
    intro kind
    rw [List.countP_filter]
    refine List.countP_congr fun row _ => ?_
    simp only [announces, Bool.and_eq_true, decide_eq_true_eq]
    exact and_comm
  unfold counts
  simp only [events_fileOf seamless, Traversal.ok_bind, select_read fieldIs_started,
    tally_read (fieldIs_kind _), ofKind, List.length_map, length_filter_isStarted]
  refine congrArg Except.ok (congrArg (Counts.mk · _) ?_)
  funext kind
  cases kind with
  | embeddingBatch => rfl
  | generation => rfl
  | semanticExtraction => rfl

end Reading

/-! ## Traces -/

/-- Every call is announced once, and closed once after that. -/
def Fits (before : List (Row F)) (row : Row F) : Prop :=
  (∀ id, row.entry.startedId = some id → id ≠ [] ∧ id ∉ startedIds before) ∧
    ∀ id, row.entry.closedId = some id → id ∈ startedIds before ∧ id ∉ closedIds before

omit [FloatOps F] in
theorem startedIds_append (before after : List (Row F)) :
    startedIds (before ++ after) = startedIds before ++ startedIds after :=
  List.filterMap_append

omit [FloatOps F] in
theorem closedIds_append (before after : List (Row F)) :
    closedIds (before ++ after) = closedIds before ++ closedIds after :=
  List.filterMap_append

omit [FloatOps F] in
theorem startedIds_snoc (rows : List (Row F)) (row : Row F) :
    startedIds (rows ++ [row]) = startedIds rows ++ row.entry.startedId.toList := by
  rw [startedIds_append]
  cases isEntry : row.entry.startedId with
  | none => simp only [startedIds, List.filterMap_cons, isEntry, List.filterMap_nil,
      Option.toList_none]
  | some id => simp only [startedIds, List.filterMap_cons, isEntry, List.filterMap_nil,
      Option.toList_some]

omit [FloatOps F] in
theorem closedIds_snoc (rows : List (Row F)) (row : Row F) :
    closedIds (rows ++ [row]) = closedIds rows ++ row.entry.closedId.toList := by
  rw [closedIds_append]
  cases isEntry : row.entry.closedId with
  | none => simp only [closedIds, List.filterMap_cons, isEntry, List.filterMap_nil,
      Option.toList_none]
  | some id => simp only [closedIds, List.filterMap_cons, isEntry, List.filterMap_nil,
      Option.toList_some]

/-- Among texts, a text is found by equality. -/
theorem isOneOf_str (ids : List Str) (id : Str) :
    isOneOf (ids.map (Value.str (F := F))) (.str id) = decide (id ∈ ids) := by
  have same : ∀ other : Str,
      Value.equal (F := F) (.str other) (.str id) = decide (other = id) := by
    intro other
    rw [Value.equal]
  unfold isOneOf
  rw [List.any_map, Bool.eq_iff_iff, List.any_eq_true, decide_eq_true_eq]
  constructor
  · rintro ⟨other, held, isSame⟩
    rw [Function.comp_apply, same, decide_eq_true_eq] at isSame
    exact isSame ▸ held
  · intro held
    refine ⟨id, held, ?_⟩
    rw [Function.comp_apply, same, decide_eq_true_eq]

/-- The trace of the rows of a file is that of their calls. -/
theorem traceFrom_read
    (before rows : List (Row F))
    (grown : Growth.Grown Fits (before ++ rows)) :
    traceFrom ((startedIds before).map .str) ((closedIds before).map .str)
        (rows.map (Row.read manifest)) =
      .ok ((startedIds (before ++ rows)).map .str, (closedIds (before ++ rows)).map .str) := by
  induction rows generalizing before with
  | nil => rw [List.append_nil, List.map_nil, traceFrom]
  | cons row rest inductionHypothesis =>
      have fitting : Fits before row := grown before row rest rfl
      have further := inductionHypothesis (before ++ [row]) (by
        rwa [List.append_assoc, List.singleton_append])
      rw [List.append_assoc, List.singleton_append, startedIds_append, closedIds_append,
        List.map_append, List.map_append] at further
      have isCall : callIdOf (row.read manifest) = optional row.entry.callId := by
        unfold callIdOf
        rw [Row.get_callId]
        rfl
      rw [← further, List.map_cons, traceFrom, fieldIs_started, isTerminal_read, isCall]
      cases isEntry : row.entry with
      | started callId kind model stepId arm =>
          obtain ⟨named, fresh⟩ := fitting.1 callId (by rw [isEntry]; rfl)
          have isTrue : (Value.str (F := F) callId).truthy = true := by
            cases callId with
            | nil => exact absurd rfl named
            | cons c rest => rfl
          have starts : startedIds [row] = [callId] := by
            simp only [startedIds, List.filterMap_cons, isEntry, Entry.startedId,
              List.filterMap_nil]
          have closes : closedIds [row] = [] := by
            simp only [closedIds, List.filterMap_cons, isEntry, Entry.closedId,
              List.filterMap_nil]
          have notYet : isOneOf ((startedIds before).map (Value.str (F := F))) (.str callId) =
              false := by
            rw [isOneOf_str, decide_eq_false_iff_not]
            exact fresh
          rw [starts, closes, List.map_nil, List.append_nil]
          simp only [Entry.isStarted, Entry.callId, optional, Traversal.ok_bind, hashed, isTrue,
            notYet, Bool.not_true, Bool.false_eq_true, if_true, if_false]
          rfl
      | blocked kind model stepId arm =>
          have starts : startedIds [row] = [] := by
            simp only [startedIds, List.filterMap_cons, isEntry, Entry.startedId,
              List.filterMap_nil]
          have closes : closedIds [row] = [] := by
            simp only [closedIds, List.filterMap_cons, isEntry, Entry.closedId,
              List.filterMap_nil]
          rw [starts, closes, List.map_nil, List.append_nil, List.append_nil]
          rfl
      | closed call ending =>
          obtain ⟨announced, unclosed⟩ := fitting.2 call.callId (by rw [isEntry]; rfl)
          have starts : startedIds [row] = [] := by
            simp only [startedIds, List.filterMap_cons, isEntry, Entry.startedId,
              List.filterMap_nil]
          have closes : closedIds [row] = [call.callId] := by
            simp only [closedIds, List.filterMap_cons, isEntry, Entry.closedId,
              List.filterMap_nil]
          have known : isOneOf ((startedIds before).map (Value.str (F := F)))
              (.str call.callId) = true := by
            rw [isOneOf_str, decide_eq_true_eq]
            exact announced
          have notYet : isOneOf ((closedIds before).map (Value.str (F := F)))
              (.str call.callId) = false := by
            rw [isOneOf_str, decide_eq_false_iff_not]
            exact unclosed
          rw [starts, closes, List.map_nil, List.append_nil]
          simp only [Entry.isStarted, Entry.isClosed, Entry.callId, optional, Traversal.ok_bind,
            hashed, known, notYet, Bool.not_true, Bool.or_self, Bool.false_eq_true, if_true,
            if_false]
          rfl

/-- Opening a file of a trace succeeds exactly when every call is closed. -/
theorem validateTrace_fileOf
    [ReadableFloats F]
    [ReadableConstants F]
    {rows : List (Row F)}
    (seamless : ∀ row ∈ rows, SeamlessRecord (row.record manifest))
    (grown : Growth.Grown Fits rows) :
    validateTrace F manifest (fileOf manifest rows) = .ok () ↔ unresolved rows = [] := by
  have traced : traceFrom [] [] (rows.map (Row.read manifest)) =
      .ok ((startedIds rows).map .str, (closedIds rows).map .str) := traceFrom_read [] rows grown
  have left : (((startedIds rows).map (Value.str (F := F))).any fun id =>
      !isOneOf ((closedIds rows).map .str) id) = true ↔ unresolved rows ≠ [] := by
    rw [List.any_map, List.any_eq_true]
    unfold unresolved
    rw [Ne, List.filter_eq_nil_iff]
    push Not
    refine exists_congr fun id => and_congr_right fun _ => ?_
    rw [Function.comp_apply, isOneOf_str]
    simp only [Bool.not_eq_true', decide_eq_false_iff_not, decide_eq_true_eq]
  unfold validateTrace
  rw [events_fileOf seamless, Traversal.ok_bind, traced, Traversal.ok_bind]
  dsimp only
  split
  · rename_i some
    exact ⟨fun failed => (by cases failed), fun none => absurd none (left.mp some)⟩
  · rename_i none
    exact ⟨fun _ => not_not.mp fun some => none (left.mpr some), fun _ => rfl⟩

/-! ## Rows of calls -/

omit [FloatOps F] in
/-- The calls of the rows that pass a test. -/
def idsOf (passes : Row F → Bool) (rows : List (Row F)) : List Str :=
  (rows.filter passes).map fun row => row.entry.callId.getD []

/-- The rows that pass a test under their calls. -/
def stored (manifest : FrozenManifest) (passes : Row F → Bool) (rows : List (Row F)) :
    List (Value F × Dict F) :=
  (rows.filter passes).map fun row => (.str (row.entry.callId.getD []), row.read manifest)

/-- Among stored rows, a call is found by equality. -/
theorem stored_any (passes : Row F → Bool) (rows : List (Row F)) (id : Str) :
    ((stored manifest passes rows).any fun row => row.1.equal (.str id)) =
      decide (id ∈ idsOf passes rows) := by
  have found := isOneOf_str (F := F) (idsOf passes rows) id
  unfold isOneOf idsOf at found
  rw [List.map_map, List.any_map] at found
  unfold stored idsOf
  rw [List.any_map]
  exact found

/-- A row of a new call is stored after the others. -/
theorem storeRow_stored
    {passes : Row F → Bool}
    {rows : List (Row F)}
    {id : Str}
    (fresh : id ∉ idsOf passes rows)
    (event : Dict F) :
    storeRow (stored manifest passes rows) (.str id) event =
      stored manifest passes rows ++ [(.str id, event)] := by
  unfold storeRow
  rw [stored_any, decide_eq_false fresh]
  rfl

/-- Rows of distinct calls are stored one after the other. -/
theorem byCall_read
    {test : Dict F → Except LedgerError Bool}
    {passes : Row F → Bool}
    (tested : ∀ row, test (row.read manifest) = .ok (passes row))
    (called : ∀ row, passes row = true → row.entry.callId.isSome = true)
    (before rows : List (Row F))
    (distinct : (idsOf passes (before ++ rows)).Nodup) :
    byCall test (stored manifest passes before) (rows.map (Row.read manifest)) =
      .ok (stored manifest passes (before ++ rows)) := by
  induction rows generalizing before with
  | nil => rw [List.append_nil, List.map_nil, byCall]
  | cons row rest inductionHypothesis =>
      have same : before ++ row :: rest = before ++ [row] ++ rest := by
        rw [List.append_assoc, List.singleton_append]
      rw [same] at distinct ⊢
      have further := inductionHypothesis (before ++ [row]) distinct
      rw [List.map_cons, byCall, tested, Traversal.ok_bind]
      cases passed : passes row with
      | false =>
          have skipped : stored manifest passes (before ++ [row]) =
              stored manifest passes before := by
            simp only [stored, List.filter_append, List.filter_cons, passed, List.filter_nil,
              Bool.false_eq_true, if_false, List.append_nil]
          rw [skipped] at further
          exact further
      | true =>
          obtain ⟨id, isId⟩ := Option.isSome_iff_exists.mp (called row passed)
          have kept : stored manifest passes (before ++ [row]) =
              stored manifest passes before ++ [(.str id, row.read manifest)] := by
            simp only [stored, List.filter_append, List.filter_cons, passed, List.filter_nil,
              if_true, List.map_append, List.map_cons, List.map_nil, isId, Option.getD_some]
          have fresh : id ∉ idsOf passes before := by
            have ids : idsOf passes (before ++ [row]) = idsOf passes before ++ [id] := by
              simp only [idsOf, List.filter_append, List.filter_cons, passed, List.filter_nil,
                if_true, List.map_append, List.map_cons, List.map_nil, isId, Option.getD_some]
            have early : (idsOf passes (before ++ [row])).Nodup :=
              distinct.sublist (((List.sublist_append_left _ _).filter _).map _)
            rw [ids, List.nodup_append'] at early
            exact fun held => early.2.2 held (List.mem_singleton_self id)
          have isField : field "call_id".toList (row.read manifest) = .ok (.str id) := by
            unfold field
            rw [Row.get_callId, isId]
            rfl
          rw [kept] at further
          simp only [if_true, isField, Traversal.ok_bind, hashed]
          rw [storeRow_stored fresh]
          exact further

omit [FloatOps F] in
theorem idsOf_isStarted (rows : List (Row F)) :
    idsOf (fun row => row.entry.isStarted) rows = startedIds rows := by
  unfold idsOf startedIds
  rw [← List.filterMap_eq_map, List.filterMap_filter]
  refine List.filterMap_congr fun row _ => ?_
  rw [Function.comp_apply]
  cases row.entry with
  | started => rfl
  | blocked => rfl
  | closed => rfl

omit [FloatOps F] in
theorem idsOf_isClosed (rows : List (Row F)) :
    idsOf (fun row => row.entry.isClosed) rows = closedIds rows := by
  unfold idsOf closedIds
  rw [← List.filterMap_eq_map, List.filterMap_filter]
  refine List.filterMap_congr fun row _ => ?_
  rw [Function.comp_apply]
  cases row.entry with
  | started => rfl
  | blocked => rfl
  | closed => rfl

omit [FloatOps F] in
/-- The calls of a trace are announced once and closed once. -/
theorem nodup_of_grown
    {rows : List (Row F)}
    (grown : Growth.Grown Fits rows) : (startedIds rows).Nodup ∧ (closedIds rows).Nodup := by
  induction rows using List.reverseRecOn with
  | nil => exact ⟨List.nodup_nil, List.nodup_nil⟩
  | append_singleton rows row inductionHypothesis =>
      obtain ⟨earlier, fitting⟩ := Growth.grown_snoc.mp grown
      obtain ⟨started, closed⟩ := inductionHypothesis earlier
      have last : ∀ (ids : List Str) (found : Option Str), ids.Nodup →
          (∀ id, found = some id → id ∉ ids) → (ids ++ found.toList).Nodup := by
        intro ids found distinct fresh
        cases found with
        | none => rwa [Option.toList_none, List.append_nil]
        | some id =>
            rw [List.nodup_append']
            refine ⟨distinct, List.nodup_singleton id, fun other held isId => ?_⟩
            rw [List.mem_singleton.mp isId] at held
            exact fresh id rfl held
      rw [startedIds_snoc, closedIds_snoc]
      exact ⟨last _ _ started fun id isId => (fitting.1 id isId).2,
        last _ _ closed fun id isId => (fitting.2 id isId).2⟩

/-! ## Summaries -/

/-- The duration of a closed call. -/
def Entry.durationMs : Entry F → Option F
  | .closed _ ending => ending.durationMs
  | _ => none

variable (manifest) in
omit [FloatOps F] in
theorem Row.get_durationMs (row : Row F) :
    (Dict.get (row.read manifest) "duration_ms".toList).getD .none =
      optionalFloat row.entry.durationMs := by
  rw [Row.get_read, Row.record]
  cases row.entry with
  | started => rfl
  | blocked => rfl
  | closed => rfl

omit [FloatOps F] in
theorem hasDuration_read (kind : ExternalKind) (row : Row F) :
    hasDuration kind (row.read manifest) =
      .ok (decide (row.entry.kind = kind.text) && row.entry.durationMs.isSome) := by
  have found := row.get_durationMs manifest
  unfold hasDuration
  rw [fieldIs_kind, Traversal.ok_bind]
  refine congrArg (fun timed => Except.ok (_ && timed)) ?_
  cases isFound : Dict.get (row.read manifest) "duration_ms".toList with
  | none =>
      rw [isFound] at found
      cases isTimed : row.entry.durationMs with
      | none => rfl
      | some duration =>
          rw [isTimed] at found
          cases found
  | some value =>
      rw [isFound, Option.getD_some] at found
      subst found
      cases row.entry.durationMs with
      | none => rfl
      | some duration => rfl

variable (manifest) in
/-- The durations of rows are read. -/
theorem exists_durations (kind : ExternalKind) (rows : List (Row F)) :
    ∃ read, durations kind (rows.map (Row.read manifest)) = .ok read := by
  unfold durations
  rw [select_read (hasDuration_read kind), Traversal.ok_bind]
  refine Traversal.exists_mapM_eq_ok fun event held => ?_
  obtain ⟨row, inRows, rfl⟩ := List.mem_map.mp held
  have timed := (Bool.and_eq_true_iff.mp (List.mem_filter.mp inRows).2).2
  obtain ⟨duration, isDuration⟩ := Option.isSome_iff_exists.mp timed
  have found := row.get_durationMs manifest
  rw [isDuration] at found
  refine ⟨duration, ?_⟩
  unfold durationOf field
  cases isFound : Dict.get (row.read manifest) "duration_ms".toList with
  | none =>
      rw [isFound] at found
      cases found
  | some value =>
      rw [isFound, Option.getD_some] at found
      subst found
      rfl

/-- The sum of whole numbers under a key is read. -/
theorem exists_sumOf
    {key : Str}
    {rows : List (Row F)}
    (numbers : ∀ row ∈ rows, ∃ number,
      Dict.get (row.read manifest) key = some (optionalInt number)) :
    ∃ sum, sumOf key (rows.map (Row.read manifest)) = .ok sum := by
  have read : ∃ found, (rows.map (Row.read manifest)).mapM (numberOf key) = .ok found := by
    refine Traversal.exists_mapM_eq_ok fun event held => ?_
    obtain ⟨row, inRows, rfl⟩ := List.mem_map.mp held
    obtain ⟨number, isNumber⟩ := numbers row inRows
    unfold numberOf
    rw [isNumber]
    cases number with
    | none => exact ⟨0, rfl⟩
    | some number =>
        dsimp only [optionalInt]
        split
        · exact ⟨number, rfl⟩
        · exact ⟨0, rfl⟩
  obtain ⟨found, isFound⟩ := read
  unfold sumOf
  rw [isFound]
  exact ⟨_, rfl⟩

variable (manifest) in
omit [FloatOps F] in
/-- A row that closes a call has its numbers of tokens. -/
theorem numbers_of_isClosed
    {row : Row F}
    (isClosed : row.entry.isClosed = true) :
    (∃ number, Dict.get (row.read manifest) "input_tokens".toList = some (optionalInt number)) ∧
      (∃ number, Dict.get (row.read manifest) "output_tokens".toList =
        some (optionalInt number)) ∧
      ∃ number, Dict.get (row.read manifest) "estimated_tokens".toList =
        some (optionalInt number) := by
  simp only [Row.get_read, Row.record]
  cases isEntry : row.entry with
  | closed call ending => exact ⟨⟨_, rfl⟩, ⟨_, rfl⟩, ⟨_, rfl⟩⟩
  | blocked | started =>
      rw [isEntry] at isClosed
      cases isClosed

/-- The announced calls that are not stored as closed are the unresolved ones. -/
theorem length_unknown (rows : List (Row F)) :
    ((stored manifest (fun row => row.entry.isStarted) rows).filter fun call =>
        !(stored manifest (fun row => row.entry.isClosed) rows).any fun row =>
          row.1.equal call.1).length = (unresolved rows).length := by
  have isStored : stored manifest (fun row => row.entry.isStarted) rows =
      (rows.filter fun row => row.entry.isStarted).map fun row =>
        (.str (row.entry.callId.getD []), row.read manifest) := rfl
  unfold unresolved
  rw [← idsOf_isStarted, idsOf, isStored, List.filter_map, List.filter_map, List.length_map,
    List.length_map]
  refine congrArg List.length (List.filter_congr fun row _ => ?_)
  rw [Function.comp_apply, Function.comp_apply, stored_any, idsOf_isClosed]
  simp only [decide_not]

/-- The report of a file of a trace has its unresolved calls. -/
theorem exists_summary
    [ReadableFloats F]
    [ReadableConstants F]
    {rows : List (Row F)}
    (seamless : ∀ row ∈ rows, SeamlessRecord (row.record manifest))
    (grown : Growth.Grown Fits rows) :
    ∃ report, summary F manifest (fileOf manifest rows) = .ok report ∧
      report.unknownOutcome = (unresolved rows).length := by
  obtain ⟨startedOnce, closedOnce⟩ := nodup_of_grown grown
  have started : byCall (fieldIs "event".toList "started".toList) []
      (rows.map (Row.read manifest)) =
        .ok (stored manifest (fun row => row.entry.isStarted) rows) := by
    refine byCall_read fieldIs_started (fun row isStarted => ?_) [] rows ?_
    · cases isEntry : row.entry with
      | started => rfl
      | blocked | closed =>
          rw [isEntry] at isStarted
          cases isStarted
    · rwa [List.nil_append, idsOf_isStarted]
  have closed : byCall isTerminal [] (rows.map (Row.read manifest)) =
      .ok (stored manifest (fun row => row.entry.isClosed) rows) := by
    refine byCall_read isTerminal_read (fun row isClosed => ?_) [] rows ?_
    · cases isEntry : row.entry with
      | closed => rfl
      | blocked | started =>
          rw [isEntry] at isClosed
          cases isClosed
    · rwa [List.nil_append, idsOf_isClosed]
  have closing : (stored manifest (fun row => row.entry.isClosed) rows).map (·.2) =
      (rows.filter fun row => row.entry.isClosed).map (Row.read manifest) := by
    unfold stored
    rw [List.map_map]
    rfl
  have embeddings : ∀ row ∈ (rows.filter fun row => row.entry.isClosed).filter
      (fun row => row.entry.kind = ExternalKind.embeddingBatch.text),
        row.entry.isClosed = true := fun row held =>
    (List.mem_filter.mp (List.mem_filter.mp held).1).2
  have allClosed : ∀ row ∈ rows.filter fun row => row.entry.isClosed,
      row.entry.isClosed = true := fun row held => (List.mem_filter.mp held).2
  obtain ⟨inputs, isInputs⟩ := exists_sumOf fun row held =>
    (numbers_of_isClosed manifest (allClosed row held)).1
  obtain ⟨outputs, isOutputs⟩ := exists_sumOf fun row held =>
    (numbers_of_isClosed manifest (allClosed row held)).2.1
  obtain ⟨estimates, isEstimates⟩ := exists_sumOf fun row held =>
    (numbers_of_isClosed manifest (embeddings row held)).2.2
  obtain ⟨first, isFirst⟩ := exists_durations manifest .embeddingBatch
    (rows.filter fun row => row.entry.isClosed)
  obtain ⟨second, isSecond⟩ := exists_durations manifest .generation
    (rows.filter fun row => row.entry.isClosed)
  obtain ⟨third, isThird⟩ := exists_durations manifest .semanticExtraction
    (rows.filter fun row => row.entry.isClosed)
  unfold summary
  simp only [events_fileOf seamless, counts_fileOf seamless, Traversal.ok_bind, started, closed,
    closing, tally_read (fieldIs_event _), select_read (fieldIs_kind _), isInputs, isOutputs,
    isEstimates, isFirst, isSecond, isThird]
  exact ⟨_, rfl, length_unknown rows⟩

end DualMemory
end ChatPlatform
