import ChatPlatform.DualMemory.CallRecords

/-!
# Runs of the ledger

Ledgers on one file announce calls and close them, one operation after the other, and the
file may be opened again at any time. Of every run whose rows are on one line each, the
file says what was appended, and what was appended keeps to the limits: no call is
announced twice, and none is closed that was not announced or was closed before.
-/

namespace ChatPlatform
namespace DualMemory

open Json

variable {F : Type} [FloatOps F]

/-! ## Operations -/

/-- What is asked of a ledger. -/
inductive Operation (F : Type)
  /-- The file is opened again. -/
  | reopen
  /-- A call is announced. -/
  | reserve (kind model : Str) (stepId arm : Option Str)
  /-- A call succeeded. -/
  | succeeded (call : CallReservation) (inputTokens outputTokens estimatedTokens : Option Int)
      (durationMs : Option F)
  /-- A call failed. -/
  | failed (call : CallReservation) (errorKind : Str) (durationMs : Option F)

/-- An operation of a ledger. -/
structure Turn (F : Type) where
  /-- The ledger. -/
  ledger : Ledger
  /-- What it draws. -/
  draw : Draw
  /-- What is asked of it. -/
  operation : Operation F

variable (manifest : FrozenManifest)

/-- The file after an operation. -/
def perform (file : Str) (turn : Turn F) : Str :=
  match turn.operation with
  | .reopen => file
  | .reserve kind model stepId arm =>
      (reserve F manifest turn.ledger turn.draw kind model stepId arm file).2
  | .succeeded call inputTokens outputTokens estimatedTokens durationMs =>
      (succeeded manifest turn.ledger turn.draw call inputTokens outputTokens estimatedTokens
        durationMs file).2
  | .failed call errorKind durationMs =>
      (failed manifest turn.ledger turn.draw call errorKind durationMs file).2

/-- The file after some operations, none of which found one there. -/
def fileAfter (turns : List (Turn F)) : Str := turns.foldl (perform manifest) []

/-- A reservation that is refused. -/
def Turn.Refused (file : Str) (turn : Turn F) : Prop :=
  match turn.operation with
  | .reserve kind model stepId arm =>
      ∃ problem, (reserve F manifest turn.ledger turn.draw kind model stepId arm file).1 =
        .error problem
  | _ => False

/-- The identifier that an operation draws for a call. -/
def Turn.drawnId (turn : Turn F) : Option Uuid :=
  match turn.operation with
  | .reserve _ _ _ _ => some turn.draw.callId
  | _ => none

/-- The identifiers that are drawn for calls. -/
def drawnIds (turns : List (Turn F)) : List Uuid := turns.filterMap Turn.drawnId

/-! ## What operations append -/

/-- The row that closes a call, if it is announced and not closed. -/
def closing (rows : List (Row F)) (call : CallReservation) (ending : Ending F) :
    Option (Entry F) :=
  if call.callId ∈ startedIds rows ∧ call.callId ∉ closedIds rows then
    some (.closed call ending)
  else none

/-- What an operation has to say after some rows. -/
def Turn.entry (rows : List (Row F)) (turn : Turn F) : Option (Entry F) :=
  match turn.operation with
  | .reopen => none
  | .reserve kind model stepId arm =>
      match ExternalKind.ofText kind with
      | none => none
      | some external =>
          if turn.ledger.attestedCommit ≠ some manifest.expectedCommit then none
          else if manifest.callLimit external ≤ (countsOf rows).ofKind external ∨
              manifest.totalLimit ≤ (countsOf rows).total then
            some (.blocked external model stepId arm)
          else some (.started turn.draw.callId.text external model stepId arm)
  | .succeeded call inputTokens outputTokens estimatedTokens durationMs =>
      closing rows call ⟨true, inputTokens, outputTokens, estimatedTokens, durationMs, none⟩
  | .failed call errorKind durationMs =>
      closing rows call ⟨false, none, none, none, durationMs, some errorKind⟩

/-- The rows that an operation appends. -/
def Turn.appended (rows : List (Row F)) (turn : Turn F) : List (Row F) :=
  (turn.entry manifest rows).toList.map fun entry => ⟨turn.ledger, turn.draw, entry⟩

/-- The rows after some operations. -/
def rowsAfter (turns : List (Turn F)) : List (Row F) :=
  turns.foldl (fun rows turn => rows ++ turn.appended manifest rows) []

/-- No string of a row that an operation appends has a line break that is written as it
is. -/
def StepsSeamless (turns : List (Turn F)) : Prop :=
  Growth.Grown (fun before turn =>
    ∀ row ∈ turn.appended manifest (rowsAfter manifest before),
      SeamlessRecord (row.record manifest)) turns

/-- What holds of a file that some rows were appended to. -/
structure Sound (rows : List (Row F)) (file : Str) : Prop where
  /-- The file has the rows. -/
  written : file = fileOf manifest rows
  /-- The rows are read back. -/
  readBack : events F manifest file = .ok (rows.map (Row.read manifest))
  /-- No kind exceeds its limit. -/
  perKind : ∀ kind, rows.countP (announces kind) ≤ manifest.callLimit kind
  /-- All kinds together do not exceed theirs. -/
  inTotal : (startedIds rows).length ≤ manifest.totalLimit
  /-- The announced calls are distinct. -/
  distinct : (startedIds rows).Nodup
  /-- A call is closed after it was announced once, and not again. -/
  closes : Growth.Grown (fun before row => ∀ id, row.entry.closedId = some id →
    (startedIds before).count id = 1 ∧ id ∉ closedIds before) rows
  /-- The announced calls are counted. -/
  counted : counts F manifest file = .ok (countsOf rows)
  /-- The calls that are not closed are reported. -/
  summarised : ∃ report, summary F manifest file = .ok report ∧
    report.unknownOutcome = (unresolved rows).length
  /-- The file can be opened exactly when every call is closed. -/
  opened : validateTrace F manifest file = .ok () ↔ unresolved rows = []

variable {manifest}

theorem fileAfter_snoc (turns : List (Turn F)) (turn : Turn F) :
    fileAfter manifest (turns ++ [turn]) = perform manifest (fileAfter manifest turns) turn := by
  unfold fileAfter
  rw [List.foldl_append]
  rfl

omit [FloatOps F] in
theorem rowsAfter_snoc (turns : List (Turn F)) (turn : Turn F) :
    rowsAfter manifest (turns ++ [turn]) =
      rowsAfter manifest turns ++ turn.appended manifest (rowsAfter manifest turns) := by
  unfold rowsAfter
  rw [List.foldl_append]
  rfl

/-- The kind with a name has that name. -/
theorem ExternalKind.text_of_ofText
    {kind : Str}
    {external : ExternalKind}
    (isKind : ExternalKind.ofText kind = some external) : external.text = kind := by
  have named := List.find?_some isKind
  exact of_decide_eq_true named

theorem ExternalKind.text_injective : Function.Injective ExternalKind.text := by
  intro first second same
  cases first <;> cases second <;> first | rfl | exact absurd same (by decide)

/-! ## Texts of identifiers -/

theorem text_injective : Function.Injective Uuid.text := by
  intro first second same
  have read := Uuid.ofText_text first
  rw [same, Uuid.ofText_text] at read
  exact (Option.some.inj read).symm

theorem text_ne_nil (id : Uuid) : id.text ≠ [] := by
  unfold Uuid.text Uuid.hyphenate
  exact List.append_ne_nil_of_right_ne_nil _ (List.cons_ne_nil _ _)

/-! ## Operations on files of rows -/

section Steps

omit [FloatOps F] in
/-- The rows that announce a call are as many as its occurrences among the announced
ones. -/
private theorem countP_started (rows : List (Row F)) (id : Str) :
    rows.countP (fun row => decide (row.entry.callId = some id) && row.entry.isStarted) =
      (startedIds rows).count id := by
  rw [startedIds, List.count_filterMap]
  refine List.countP_congr fun row _ => ?_
  cases row.entry with
  | started callId kind model stepId arm =>
      simp [Entry.callId, Entry.isStarted, Entry.startedId]
  | blocked => simp [Entry.callId, Entry.isStarted, Entry.startedId]
  | closed => simp [Entry.callId, Entry.isStarted, Entry.startedId]

omit [FloatOps F] in
private theorem countP_closed (rows : List (Row F)) (id : Str) :
    rows.countP (fun row => decide (row.entry.callId = some id) && row.entry.isClosed) =
      (closedIds rows).count id := by
  rw [closedIds, List.count_filterMap]
  refine List.countP_congr fun row _ => ?_
  cases row.entry with
  | started => simp [Entry.callId, Entry.isClosed, Entry.closedId]
  | blocked => simp [Entry.callId, Entry.isClosed, Entry.closedId]
  | closed => simp [Entry.callId, Entry.isClosed, Entry.closedId]

variable [ReadableFloats F] [ReadableConstants F]

/-- Closing a call on a file of rows appends what it has to. -/
theorem terminal_fileOf
    {rows : List (Row F)}
    (seamless : ∀ row ∈ rows, SeamlessRecord (row.record manifest))
    (distinct : (startedIds rows).Nodup)
    (ledger : Ledger)
    (draw : Draw)
    (call : CallReservation)
    (ending : Ending F) :
    (terminal manifest ledger draw call ending (fileOf manifest rows)).2 =
      fileOf manifest (rows ++ (closing rows call ending).toList.map fun entry =>
        ⟨ledger, draw, entry⟩) := by
  have starts : select (ofCall call (fieldIs "event".toList "started".toList))
      (rows.map (Row.read manifest)) =
        .ok ((rows.filter fun row => decide (row.entry.callId = some call.callId) &&
          row.entry.isStarted).map (Row.read manifest)) :=
    select_read (fun row => ofCall_read (fieldIs_started row)) rows
  have terminals : select (ofCall call isTerminal) (rows.map (Row.read manifest)) =
      .ok ((rows.filter fun row => decide (row.entry.callId = some call.callId) &&
        row.entry.isClosed).map (Row.read manifest)) :=
    select_read (fun row => ofCall_read (isTerminal_read row)) rows
  have one : (rows.filter fun row => decide (row.entry.callId = some call.callId) &&
      row.entry.isStarted).length = 1 ↔ call.callId ∈ startedIds rows := by
    rw [← List.countP_eq_length_filter, countP_started]
    constructor
    · intro once
      exact List.count_pos_iff.mp (by omega)
    · exact List.count_eq_one_of_mem distinct
  have none : (rows.filter fun row => decide (row.entry.callId = some call.callId) &&
      row.entry.isClosed) = [] ↔ call.callId ∉ closedIds rows := by
    rw [← List.length_eq_zero_iff, ← List.countP_eq_length_filter, countP_closed,
      List.count_eq_zero]
  unfold terminal closing
  simp only [events_fileOf seamless, Traversal.ok_bind, starts, terminals, List.length_map,
    ne_eq, List.map_eq_nil_iff, one, none]
  by_cases isOpen : call.callId ∈ startedIds rows ∧ call.callId ∉ closedIds rows
  · have closes : ¬(call.callId ∉ startedIds rows ∨ ¬call.callId ∉ closedIds rows) := by
      rintro (unannounced | closed)
      · exact unannounced isOpen.1
      · exact closed isOpen.2
    rw [if_neg closes, if_pos isOpen]
    exact appendRow_fileOf rows ⟨ledger, draw, .closed call ending⟩
  · have refused : call.callId ∉ startedIds rows ∨ ¬call.callId ∉ closedIds rows := by
      by_contra neither
      push Not at neither
      exact isOpen neither
    rw [if_pos refused, if_neg isOpen, Option.toList_none, List.map_nil, List.append_nil]

/-- An operation on a file of rows appends what it has to say. -/
theorem perform_fileOf
    {rows : List (Row F)}
    (seamless : ∀ row ∈ rows, SeamlessRecord (row.record manifest))
    (distinct : (startedIds rows).Nodup)
    (turn : Turn F) :
    perform manifest (fileOf manifest rows) turn =
      fileOf manifest (rows ++ turn.appended manifest rows) := by
  obtain ⟨ledger, draw, operation⟩ := turn
  unfold perform Turn.appended Turn.entry
  cases operation with
  | reopen => simp only [Option.toList_none, List.map_nil, List.append_nil]
  | succeeded call inputTokens outputTokens estimatedTokens durationMs =>
      exact terminal_fileOf seamless distinct ledger draw call _
  | failed call errorKind durationMs =>
      exact terminal_fileOf seamless distinct ledger draw call _
  | reserve kind model stepId arm =>
      dsimp only
      unfold reserve
      cases isKind : ExternalKind.ofText kind with
      | none => simp only [Option.toList_none, List.map_nil, List.append_nil]
      | some external =>
          have named := ExternalKind.text_of_ofText isKind
          dsimp only
          rw [counts_fileOf seamless]
          dsimp only
          split_ifs with unattested exhausted
          · rw [Option.toList_none, List.map_nil, List.append_nil]
          · rw [← named]
            exact appendRow_fileOf rows ⟨ledger, draw, .blocked external model stepId arm⟩
          · rw [← named]
            exact appendRow_fileOf rows
              ⟨ledger, draw, .started draw.callId.text external model stepId arm⟩

end Steps

/-! ## Runs -/

omit [FloatOps F] in
/-- What an operation says announces a call within the limits, refuses one, or closes one
that was announced and not closed. -/
theorem Turn.entry_cases
    {rows : List (Row F)}
    {turn : Turn F}
    {entry : Entry F}
    (isEntry : turn.entry manifest rows = some entry) :
    (∃ kind model stepId arm,
      entry = .started turn.draw.callId.text kind model stepId arm ∧
        turn.drawnId = some turn.draw.callId ∧
        (countsOf rows).ofKind kind < manifest.callLimit kind ∧
        (countsOf rows).total < manifest.totalLimit) ∨
      (∃ kind model stepId arm, entry = .blocked kind model stepId arm) ∨
      ∃ call ending, entry = .closed call ending ∧ call.callId ∈ startedIds rows ∧
        call.callId ∉ closedIds rows := by
  have closes : ∀ call ending, closing rows call ending = some entry →
      ∃ call ending, entry = .closed call ending ∧ call.callId ∈ startedIds rows ∧
        call.callId ∉ closedIds rows := by
    intro call ending isClosing
    unfold closing at isClosing
    split_ifs at isClosing with closable
    exact ⟨call, ending, (Option.some.inj isClosing).symm, closable⟩
  obtain ⟨ledger, draw, operation⟩ := turn
  unfold Turn.entry at isEntry
  cases operation with
  | reopen => cases isEntry
  | succeeded call inputTokens outputTokens estimatedTokens durationMs =>
      exact Or.inr (Or.inr (closes call _ isEntry))
  | failed call errorKind durationMs => exact Or.inr (Or.inr (closes call _ isEntry))
  | reserve kind model stepId arm =>
      cases isKind : ExternalKind.ofText kind with
      | none => simp [isKind] at isEntry
      | some external =>
          simp only [isKind] at isEntry
          split_ifs at isEntry with unattested exhausted
          · exact Or.inr (Or.inl
              ⟨external, model, stepId, arm, (Option.some.inj isEntry).symm⟩)
          · push Not at exhausted
            exact Or.inl ⟨external, model, stepId, arm, (Option.some.inj isEntry).symm, rfl,
              exhausted⟩

omit [FloatOps F] in
/-- A row that announces no call changes no count. -/
theorem countsOf_snoc_of_not_started
    (rows : List (Row F))
    {row : Row F}
    (silent : row.entry.isStarted = false) : countsOf (rows ++ [row]) = countsOf rows := by
  have noId : row.entry.startedId = none := by
    rw [← Option.not_isSome_iff_eq_none, Entry.startedId_isSome, silent]
    exact Bool.false_ne_true
  have unchanged : ∀ kind, (rows ++ [row]).countP (announces kind) =
      rows.countP (announces kind) := by
    intro kind
    have notAnnounced : announces kind row = false := by
      rw [announces, silent, Bool.false_and]
    rw [List.countP_append, List.countP_singleton, notAnnounced]
    rfl
  unfold countsOf
  rw [startedIds_snoc, noId, Option.toList_none, List.append_nil]
  exact congrArg (Counts.mk · _) (funext unchanged)

/-- What a run that drew some identifiers keeps of the rows. -/
structure Kept (manifest : FrozenManifest) (ids : List Uuid) (rows : List (Row F)) : Prop where
  /-- Every row is on one line. -/
  seamless : ∀ row ∈ rows, SeamlessRecord (row.record manifest)
  /-- Calls are announced once and closed once after that. -/
  grown : Growth.Grown Fits rows
  /-- No kind exceeds its limit. -/
  perKind : ∀ kind, (countsOf rows).ofKind kind ≤ manifest.callLimit kind
  /-- All kinds together do not exceed theirs. -/
  inTotal : (countsOf rows).total ≤ manifest.totalLimit
  /-- The announced calls were drawn. -/
  drawn : (startedIds rows).Sublist (ids.map Uuid.text)

namespace Kept

variable {ids : List Uuid} {rows : List (Row F)} {row : Row F}

omit [FloatOps F] in
theorem nil : Kept (F := F) manifest [] [] where
  seamless _ held := absurd held List.not_mem_nil
  grown := Growth.grown_nil
  perKind _ := Nat.zero_le _
  inTotal := Nat.zero_le _
  drawn := List.Sublist.refl _

omit [FloatOps F] in
theorem mono
    (kept : Kept manifest ids rows)
    {more : List Uuid}
    (fewer : ids.Sublist more) : Kept manifest more rows :=
  { kept with drawn := kept.drawn.trans (fewer.map _) }

omit [FloatOps F] in
/-- A row that announces no call is kept. -/
theorem snoc_of_not_started
    (kept : Kept manifest ids rows)
    (silent : row.entry.isStarted = false)
    (seamless : SeamlessRecord (row.record manifest))
    (fitting : Fits rows row) : Kept manifest ids (rows ++ [row]) where
  seamless := List.forall_mem_append.mpr ⟨kept.seamless, List.forall_mem_singleton.mpr seamless⟩
  grown := Growth.grown_snoc.mpr ⟨kept.grown, fitting⟩
  perKind kind := by
    rw [countsOf_snoc_of_not_started rows silent]
    exact kept.perKind kind
  inTotal := by
    rw [countsOf_snoc_of_not_started rows silent]
    exact kept.inTotal
  drawn := by
    have noId : row.entry.startedId = none := by
      rw [← Option.not_isSome_iff_eq_none, Entry.startedId_isSome, silent]
      exact Bool.false_ne_true
    rw [startedIds_snoc, noId, Option.toList_none, List.append_nil]
    exact kept.drawn

omit [FloatOps F] in
/-- A row that announces a call within the limits is kept. -/
theorem snoc_of_started
    (kept : Kept manifest ids rows)
    {id : Uuid}
    {kind : ExternalKind}
    {model : Str}
    {stepId arm : Option Str}
    (isEntry : row.entry = .started id.text kind model stepId arm)
    (fresh : id ∉ ids)
    (below : (countsOf rows).ofKind kind < manifest.callLimit kind)
    (fewer : (countsOf rows).total < manifest.totalLimit)
    (seamless : SeamlessRecord (row.record manifest)) :
    Kept manifest (ids ++ [id]) (rows ++ [row]) := by
  have isId : row.entry.startedId = some id.text := by
    rw [isEntry]
    rfl
  have noClosing : row.entry.closedId = none := by
    rw [isEntry]
    rfl
  have started : startedIds (rows ++ [row]) = startedIds rows ++ [id.text] := by
    rw [startedIds_snoc, isId, Option.toList_some]
  have unannounced : id.text ∉ startedIds rows := by
    intro held
    obtain ⟨other, wasDrawn, same⟩ := List.mem_map.mp (kept.drawn.subset held)
    rw [text_injective same] at wasDrawn
    exact fresh wasDrawn
  have fitting : Fits rows row := by
    constructor
    · intro other isOther
      rw [isId] at isOther
      rw [← Option.some.inj isOther]
      exact ⟨text_ne_nil _, unannounced⟩
    · intro other isOther
      rw [noClosing] at isOther
      cases isOther
  refine ⟨?_, Growth.grown_snoc.mpr ⟨kept.grown, fitting⟩, fun other => ?_, ?_, ?_⟩
  · exact List.forall_mem_append.mpr ⟨kept.seamless, List.forall_mem_singleton.mpr seamless⟩
  · change (rows ++ [row]).countP (announces other) ≤ _
    rw [List.countP_append, List.countP_singleton]
    split
    · rename_i isAnnounced
      rw [announces, isEntry, Bool.and_eq_true, decide_eq_true_eq] at isAnnounced
      have same : kind = other := ExternalKind.text_injective isAnnounced.2
      rw [← same]
      exact Nat.succ_le_of_lt below
    · exact kept.perKind other
  · change (startedIds (rows ++ [row])).length ≤ _
    rw [started, List.length_append, List.length_singleton]
    exact fewer
  · rw [started, List.map_append]
    exact kept.drawn.append (List.Sublist.refl _)

omit [FloatOps F] in
/-- An operation keeps what a run keeps. -/
theorem step
    (kept : Kept manifest ids rows)
    (turn : Turn F)
    (distinct : (ids ++ turn.drawnId.toList).Nodup)
    (seamless : ∀ row ∈ turn.appended manifest rows, SeamlessRecord (row.record manifest)) :
    Kept manifest (ids ++ turn.drawnId.toList) (rows ++ turn.appended manifest rows) := by
  have stillKept := kept.mono (List.sublist_append_left ids turn.drawnId.toList)
  unfold Turn.appended at seamless ⊢
  cases isEntry : turn.entry manifest rows with
  | none =>
      rw [Option.toList_none, List.map_nil, List.append_nil]
      exact stillKept
  | some entry =>
      rw [isEntry, Option.toList_some, List.map_singleton, List.forall_mem_singleton] at seamless
      rw [Option.toList_some, List.map_singleton]
      rcases Turn.entry_cases isEntry with
        ⟨kind, model, stepId, arm, rfl, isDrawn, below, fewer⟩ |
        ⟨kind, model, stepId, arm, rfl⟩ | ⟨call, ending, rfl, announced, unclosed⟩
      · rw [isDrawn, Option.toList_some] at distinct ⊢
        have fresh : turn.draw.callId ∉ ids := fun held =>
          (List.nodup_append'.mp distinct).2.2 held (List.mem_singleton_self _)
        exact kept.snoc_of_started rfl fresh below fewer seamless
      · exact stillKept.snoc_of_not_started rfl seamless ⟨nofun, nofun⟩
      · refine stillKept.snoc_of_not_started rfl seamless ⟨nofun, ?_⟩
        rintro id isId
        cases isId
        exact ⟨announced, unclosed⟩

end Kept

omit [FloatOps F] in
theorem drawnIds_snoc (turns : List (Turn F)) (turn : Turn F) :
    drawnIds (turns ++ [turn]) = drawnIds turns ++ turn.drawnId.toList := by
  unfold drawnIds
  rw [List.filterMap_append]
  cases isDrawn : turn.drawnId with
  | none => simp only [List.filterMap_cons, isDrawn, List.filterMap_nil, Option.toList_none]
  | some id => simp only [List.filterMap_cons, isDrawn, List.filterMap_nil, Option.toList_some]

section Runs

variable [ReadableFloats F] [ReadableConstants F]

/-- After every run the file has the rows that were appended, and these keep to the
limits. -/
theorem run_kept
    (turns : List (Turn F))
    (distinct : (drawnIds turns).Nodup)
    (seamless : StepsSeamless manifest turns) :
    fileAfter manifest turns = fileOf manifest (rowsAfter manifest turns) ∧
      Kept manifest (drawnIds turns) (rowsAfter manifest turns) := by
  induction turns using List.reverseRecOn with
  | nil => exact ⟨rfl, Kept.nil⟩
  | append_singleton turns turn inductionHypothesis =>
      obtain ⟨earlier, last⟩ := Growth.grown_snoc.mp seamless
      rw [drawnIds_snoc] at distinct ⊢
      obtain ⟨written, kept⟩ := inductionHypothesis distinct.of_append_left earlier
      rw [fileAfter_snoc, rowsAfter_snoc, written]
      exact ⟨perform_fileOf kept.seamless (nodup_of_grown kept.grown).1 turn,
        kept.step turn distinct last⟩

/-- A file of rows that were kept is sound. -/
theorem Kept.sound
    {ids : List Uuid}
    {rows : List (Row F)}
    (kept : Kept manifest ids rows) : Sound manifest rows (fileOf manifest rows) := by
  have closes : Growth.Grown (fun before row => ∀ id, row.entry.closedId = some id →
      (startedIds before).count id = 1 ∧ id ∉ closedIds before) rows := by
    intro before row after same id isId
    obtain ⟨announced, unclosed⟩ := (kept.grown before row after same).2 id isId
    have once := (nodup_of_grown (kept.grown.before same)).1
    exact ⟨List.count_eq_one_of_mem once announced, unclosed⟩
  exact {
    written := rfl
    readBack := events_fileOf kept.seamless
    perKind := kept.perKind
    inTotal := kept.inTotal
    distinct := (nodup_of_grown kept.grown).1
    closes
    counted := counts_fileOf kept.seamless
    summarised := exists_summary kept.seamless kept.grown
    opened := validateTrace_fileOf kept.seamless kept.grown }

omit [ReadableFloats F] [ReadableConstants F] in
/-- A refused reservation announces no call. -/
theorem countsOf_appended_of_refused
    {rows : List (Row F)}
    {turn : Turn F}
    (refused : turn.Refused manifest (fileOf manifest rows))
    (counted : counts F manifest (fileOf manifest rows) = .ok (countsOf rows)) :
    countsOf (rows ++ turn.appended manifest rows) = countsOf rows := by
  obtain ⟨ledger, draw, operation⟩ := turn
  unfold Turn.Refused at refused
  cases operation with
  | reopen => exact refused.elim
  | succeeded => exact refused.elim
  | failed => exact refused.elim
  | reserve kind model stepId arm =>
      obtain ⟨problem, failed⟩ := refused
      dsimp only at failed
      unfold reserve at failed
      unfold Turn.appended Turn.entry
      dsimp only
      cases isKind : ExternalKind.ofText kind with
      | none =>
          dsimp only
          rw [Option.toList_none, List.map_nil, List.append_nil]
      | some external =>
          simp only [isKind, counted] at failed
          dsimp only
          split_ifs at failed ⊢ with unattested exhausted
          · rw [Option.toList_none, List.map_nil, List.append_nil]
          · rw [Option.toList_some, List.map_singleton]
            exact countsOf_snoc_of_not_started rows rfl

/-- In every run whose rows are on one line each the file is sound, and a refused
reservation does not change what is counted. -/
theorem fileAfter_sound
    (manifest : FrozenManifest)
    (turns : List (Turn F))
    (distinctDraws : (drawnIds turns).Nodup)
    (seamless : StepsSeamless manifest turns) :
    Sound manifest (rowsAfter manifest turns) (fileAfter manifest turns) ∧
      ∀ before turn after, turns = before ++ turn :: after →
        turn.Refused manifest (fileAfter manifest before) →
          counts F manifest (fileAfter manifest (before ++ [turn])) =
            counts F manifest (fileAfter manifest before) := by
  have reached : ∀ before after, turns = before ++ after →
      Sound manifest (rowsAfter manifest before) (fileAfter manifest before) := by
    intro before after same
    have fewer : (drawnIds before).Nodup := by
      rw [same, drawnIds, List.filterMap_append] at distinctDraws
      exact distinctDraws.of_append_left
    obtain ⟨written, kept⟩ := run_kept before fewer (seamless.before same)
    rw [written]
    exact kept.sound
  refine ⟨reached turns [] (List.append_nil _).symm, fun before turn after same refused => ?_⟩
  have earlier := reached before (turn :: after) same
  have later := reached (before ++ [turn]) after (by rw [same, List.append_assoc]; rfl)
  rw [later.counted, earlier.counted, rowsAfter_snoc]
  rw [earlier.written] at refused
  have counted := earlier.counted
  rw [earlier.written] at counted
  rw [countsOf_appended_of_refused refused counted]

end Runs

/-- One call of each kind and two of all kinds. -/
def twoCalls : FrozenManifest := ⟨['m'], ['c'], fun _ => 1, 2⟩

/-- A generation that is announced for a model. -/
def reserveGeneration (model : Str) : Turn Empty where
  ledger := ⟨['r'], some ['c']⟩
  draw := ⟨⟨0⟩, ⟨1⟩, ['t']⟩
  operation := .reserve ExternalKind.generation.text model none none

/-- The end of that call. -/
def endGeneration : Turn Empty where
  ledger := ⟨['r'], some ['c']⟩
  draw := ⟨⟨2⟩, ⟨3⟩, ['t']⟩
  operation := .succeeded ⟨Uuid.text ⟨1⟩, ExternalKind.generation.text, ['g'], none, none⟩
    (some 7) (some 5) none none

/-- A call that is announced and closed. -/
theorem fileAfter_sound_oneCall :
    Sound twoCalls (rowsAfter twoCalls [reserveGeneration ['g'], endGeneration])
      (fileAfter twoCalls [reserveGeneration ['g'], endGeneration]) := by
  have seamless : StepsSeamless twoCalls ([] ++ [reserveGeneration ['g']] ++ [endGeneration]) :=
    Growth.grown_snoc.mpr ⟨Growth.grown_snoc.mpr ⟨Growth.grown_nil, by decide +kernel⟩,
      by decide +kernel⟩
  exact (fileAfter_sound twoCalls [reserveGeneration ['g'], endGeneration] (by decide +kernel)
    seamless).1

/-- After a call was announced for a model with a line separator in its name, the file
cannot be read. -/
theorem not_fileAfter_sound :
    ¬∀ (manifest : FrozenManifest) (turns : List (Turn Empty)), (drawnIds turns).Nodup →
      Sound manifest (rowsAfter manifest turns) (fileAfter manifest turns) := by
  intro sound
  have readBack := (sound twoCalls [reserveGeneration ['\u2028']] (by decide +kernel)).readBack
  have unread : (events Empty twoCalls
      (fileAfter twoCalls [reserveGeneration ['\u2028']])).toOption.isNone = true := by
    decide +kernel
  rw [readBack] at unread
  cases unread

end DualMemory
end ChatPlatform
