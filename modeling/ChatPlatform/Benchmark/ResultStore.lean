import ChatPlatform.Benchmark.Quality
import ChatPlatform.EventLog.Chain
import ChatPlatform.Foundation.Dynamic
import ChatPlatform.Foundation.JsonSpaced
import ChatPlatform.Foundation.Invariant
import ChatPlatform.Foundation.Traversal

/-!
# Benchmark runs and their store

A run of an arm ranks the candidates of every row of a dataset some times, after rankings
that warm the reranker up. Each result is appended to a file of rows, and what a run finds
in the file when it starts it does not do again. A run may be stopped at every wait, at a
call, and before a row is appended. As long as no row holds a line break that is not escaped,
every sequence of runs leaves exactly one row for each result that the last one requires.
-/

namespace ChatPlatform
namespace Benchmark

open Json Program

variable {F : Type} [FloatOps F]

/-! ## Rerankers -/

/-- What a reranker is asked for. -/
structure RerankRequest where
  /-- The query. -/
  query : Str
  /-- The documents. -/
  documents : List Str
  /-- How many are to be ranked. -/
  topN : Option Nat
  deriving DecidableEq

/-- A document of a ranking. -/
structure RankedDocument (F : Type) where
  /-- Its place among the documents. -/
  index : Int
  /-- Its rank, counted from one. -/
  rank : Int
  /-- Its score. -/
  relevanceScore : Option F

/-- An error that a reranker raises. -/
structure RerankerError where
  /-- The name of its class. -/
  className : Str
  /-- The code of the provider. -/
  errorCode : Option Str

/-- The code of an error, or the name of its class if it has none. -/
def RerankerError.kind (error : RerankerError) : Str :=
  match error.errorCode with
  | none | some [] => error.className
  | some code => code

/-- How a call ends. -/
inductive Reply (F : Type)
  /-- With a ranking. -/
  | answered (results : List (RankedDocument F))
  /-- With an error after which it is not tried again. -/
  | terminal (error : RerankerError)
  /-- With an error after which it is tried again. -/
  | transient (error : RerankerError)
  /-- With another exception. -/
  | escaped

/-- Why a run ends before its last row. -/
inductive Failure
  /-- It is stopped. -/
  | interrupted
  /-- A `TerminalRerankerError` outside a call. -/
  | terminal (message backend : Str)
  /-- A `ValueError`. -/
  | valueError (message : Str)
  /-- An `AssertionError`. -/
  | assertionError (message : Str)
  /-- A line of the file is no value. -/
  | jsonDecodeError
  /-- A row of the file lacks a field, or has a value of another type there. -/
  | fault (fault : ValueFault)
  /-- Another exception of a call. -/
  | escaped
  deriving DecidableEq

/-! ## The store -/

/-- What a row is the result of. -/
structure ResultKey where
  /-- The phase. -/
  phase : Str
  /-- The query. -/
  queryId : Str
  /-- Which of the results of the query it is. -/
  repetition : Int
  deriving DecidableEq

/-- The value of a line. -/
def parseRow (line : Str) : Except Failure (Value F) :=
  match loads ⟨true, true⟩ line with
  | none => .error .jsonDecodeError
  | some row => .ok row

/-- The rows of a file; there are none if it does not exist. -/
def load (F : Type) [FloatOps F] (file : Option Str) : Except Failure (List (Value F)) :=
  match file with
  | none => .ok []
  | some text =>
      ((Text.splitlines (EventLog.universalNewlines text)).filter (· ≠ [])).mapM parseRow

/-- `row[name]`. -/
def item (row : Value F) (name : Str) : Except Failure (Value F) :=
  (row.getItem name).mapError .fault

variable (shown : Value F → Str)

/-- The key of a row. -/
def keyOf (row : Value F) : Except Failure ResultKey := do
  let phase ← item row "phase".toList
  let queryId ← item row "query_id".toList
  let repetition ← item row "repetition".toList
  let number ← repetition.asInt.mapError .fault
  .ok ⟨phase.asText shown, queryId.asText shown, number⟩

/-- The keys of the rows of a file. -/
def keys (file : Option Str) : Except Failure (List ResultKey) := do
  let rows ← load F file
  rows.mapM (keyOf shown)

/-- A row that is appended. -/
structure RawRow (F : Type) where
  /-- The arm. -/
  arm : Str
  /-- The model. -/
  model : Str
  /-- The phase. -/
  phase : Str
  /-- The query. -/
  queryId : Str
  /-- The language of the query. -/
  language : Str
  /-- Which of the results of the query it is. -/
  repetition : Nat
  /-- The places of the documents in the order of their ranks. -/
  ranking : List Int
  /-- Their scores. -/
  scores : List (Option F)
  /-- How long the call took. -/
  latencyMs : F
  /-- The error of the call. -/
  error : Option Str
  /-- When the row was made. -/
  recordedAt : Str

/-- A text that may be absent. -/
def textOrNone : Option Str → Value F
  | none => .none
  | some text => .str text

/-- A number that may be absent. -/
def scoreOrNone : Option F → Value F
  | none => .none
  | some score => .float score

/-- A row as a dictionary. -/
def RawRow.record (row : RawRow F) : Dict F :=
  [("arm".toList, .str row.arm), ("model".toList, .str row.model),
    ("phase".toList, .str row.phase), ("query_id".toList, .str row.queryId),
    ("language".toList, .str row.language), ("repetition".toList, .int row.repetition),
    ("ranking".toList, .list (row.ranking.map .int)),
    ("scores".toList, .list (row.scores.map scoreOrNone)),
    ("latency_ms".toList, .float row.latencyMs), ("error".toList, textOrNone row.error),
    ("recorded_at".toList, .str row.recordedAt)]

/-- A file with one more row. -/
def append (file : Option Str) (row : RawRow F) : Option Str :=
  some (file.getD [] ++ (spacedFlat false row.record ++ ['\n']))

/-! ## Runs -/

/-- A call of the reranker, as an observer sees it. -/
structure Call where
  /-- What it is for. -/
  key : ResultKey
  /-- What is asked for. -/
  request : RerankRequest
  /-- The file at that time. -/
  file : Option Str

/-- The state a run acts on, with what was done so far. -/
structure Bench (F : Type) where
  /-- The file of the store. -/
  file : Option Str
  /-- How many calls the budget leaves; absent where there is no budget. -/
  remaining : Option Int
  /-- The calls. -/
  calls : List Call
  /-- The rows that were appended. -/
  appended : List (RawRow F)

/-- What happens at an await or a write. -/
inductive Fate (F : Type)
  /-- The run is stopped. -/
  | stops
  /-- A wait is over. -/
  | passes
  /-- A call ends after a time. -/
  | replies (reply : Reply F) (latencyMs : F)
  /-- A row is appended at a time. -/
  | records (recordedAt : Str)

/-- A part of a run; it never returns early. -/
abbrev BenchProgram (F α : Type) : Type := Program (Fate F) (Bench F) Empty Failure α

omit [FloatOps F] in
/-- Wait. -/
def wait : BenchProgram F Unit :=
  await .stops fun fate bench =>
    match fate with
    | .passes => (.next (), bench)
    | _ => (.raised .interrupted, bench)

/-- Take a call off the budget. -/
def consume : BenchProgram F Unit :=
  andThen (inspect (·.remaining)) fun remaining =>
    match remaining with
    | none => value ()
    | some calls =>
        if calls ≤ 0 then
          raise (.terminal "GCP call budget exhausted".toList "gcp".toList)
        else modify fun bench => { bench with remaining := some (calls - 1) }

/-- Call the reranker. -/
def rerank (key : ResultKey) (request : RerankRequest) : BenchProgram F (Reply F × F) :=
  await .stops fun fate bench =>
    let called := { bench with calls := bench.calls ++ [⟨key, request, bench.file⟩] }
    match fate with
    | .replies reply latencyMs => (.next (reply, latencyMs), called)
    | _ => (.raised .interrupted, called)

/-- What is known after the attempts of a call. -/
structure Answer (F : Type) where
  /-- The ranking. -/
  results : List (RankedDocument F)
  /-- How long the last attempt took. -/
  latencyMs : F
  /-- Its error. -/
  error : Option Str

/-- Call the reranker, with some attempts left. -/
def attempt (key : ResultKey) (request : RerankRequest) : Nat → BenchProgram F (Answer F)
  | 0 => raise (.assertionError "retry loop exhausted unexpectedly".toList)
  | left + 1 =>
      andThen wait fun _ => andThen consume fun _ => andThen (rerank key request) fun replied =>
        match replied with
        | (.answered results, latencyMs) => value ⟨results, latencyMs, none⟩
        | (.terminal error, latencyMs) => value ⟨[], latencyMs, some error.kind⟩
        | (.transient error, latencyMs) =>
            if left = 0 then value ⟨[], latencyMs, some error.kind⟩
            else andThen wait fun _ => attempt key request left
        | (.escaped, _) => raise .escaped

/-- How many attempts a call has. -/
def maxAttempts : Nat := 5

/-- Call the reranker, again after transient errors. -/
def invokeWithRetry (key : ResultKey) (request : RerankRequest) : BenchProgram F (Answer F) :=
  attempt key request maxAttempts

/-- The documents of a row. -/
def documents (row : DatasetRow) : Except Failure (List Str) :=
  let texts := row.candidates.map (·.text)
  if texts.any fun text => 1024 < Text.utf8Length text then
    .error (.valueError "candidate exceeds the 1024-token conservative byte ceiling".toList)
  else .ok texts

/-- What a run is asked to do. -/
structure Arm where
  /-- The name of the arm. -/
  arm : Str
  /-- The model. -/
  model : Str
  /-- The rows. -/
  dataset : List DatasetRow
  /-- How many results each row is to have. -/
  repetitions : Int
  /-- Up to which row the reranker is warmed up. -/
  warmups : Int
  /-- The phase. -/
  phase : Str

/-- A result that a run requires. -/
structure Task where
  /-- The phase. -/
  phase : Str
  /-- The row. -/
  row : DatasetRow
  /-- Which of its results it is. -/
  repetition : Nat

/-- What the result of a task is stored under. -/
def Task.key (task : Task) : ResultKey := ⟨task.phase, task.row.queryId, task.repetition⟩

/-- The row of a result. -/
def rawRow (arm : Arm) (task : Task) (answer : Answer F) (recordedAt : Str) : RawRow F where
  arm := arm.arm
  model := arm.model
  phase := task.phase
  queryId := task.row.queryId
  language := task.row.language
  repetition := task.repetition
  ranking := answer.results.map (·.index)
  scores := answer.results.map (·.relevanceScore)
  latencyMs := answer.latencyMs
  error := answer.error
  recordedAt := recordedAt

/-- Append the row of a result. -/
def store (arm : Arm) (task : Task) (answer : Answer F) : BenchProgram F Unit :=
  await .stops fun fate bench =>
    match fate with
    | .records recordedAt =>
        let row := rawRow arm task answer recordedAt
        (.next (), { bench with
          file := append bench.file row
          appended := bench.appended ++ [row] })
    | _ => (.raised .interrupted, bench)

/-- The body of the loops: do what is not stored yet. -/
def visit (arm : Arm) (existing : List ResultKey) (task : Task) : BenchProgram F Unit :=
  if task.key ∈ existing then value ()
  else
    match documents task.row with
    | .error failure => raise failure
    | .ok texts =>
        andThen (invokeWithRetry task.key ⟨task.row.query, texts, some 30⟩) fun answer =>
          store arm task answer

/-- The phase of the results that warm the reranker up. -/
def warmupPhase (phase : Str) : Str := phase ++ "_warmup".toList

/-- `items[:stop]`. -/
def upTo {α : Type} (items : List α) (stop : Int) : List α :=
  items.take (if stop < 0 then (items.length + stop).toNat else stop.toNat)

/-- The keys that are stored when a run starts. -/
def existingKeys : BenchProgram F (List ResultKey) :=
  andThen (inspect fun bench => keys shown bench.file) fun found =>
    match found with
    | .error failure => raise failure
    | .ok existing => value existing

/-- Run an arm. -/
def runArm (arm : Arm) : BenchProgram F Unit :=
  andThen (existingKeys shown) fun existing =>
    andThen
      (forEach (upTo arm.dataset arm.warmups).zipIdx fun entry =>
        visit arm existing ⟨warmupPhase arm.phase, entry.1, entry.2⟩)
      fun _ =>
        forEach arm.dataset fun row =>
          forEach (List.range arm.repetitions.toNat) fun repetition =>
            visit arm existing ⟨arm.phase, row, repetition⟩

/-- A run, with its budget and with what happens to it. -/
structure ArmRun (F : Type) where
  /-- What it is asked to do. -/
  arm : Arm
  /-- How many calls it may make. -/
  budget : Option Int
  /-- What happens. -/
  fates : List (Fate F)

/-- How a run ends, and the state afterwards. -/
def ArmRun.perform (bench : Bench F) (run : ArmRun F) : Outcome Empty Failure Unit × Bench F :=
  let ran := runArm shown run.arm { bench with remaining := run.budget } run.fates
  (ran.1, ran.2.1)

/-- The state after a sequence of runs on a store without a file. -/
def benchAfter (runs : List (ArmRun F)) : Bench F :=
  runs.foldl (fun bench run => (run.perform shown bench).2) ⟨none, none, [], []⟩

/-! ## What a run requires -/

/-- The results that warm the reranker up. -/
def warmupTasks (arm : Arm) : List Task :=
  (upTo arm.dataset arm.warmups).zipIdx.map fun entry =>
    ⟨warmupPhase arm.phase, entry.1, entry.2⟩

/-- The results of the rows. -/
def mainTasks (arm : Arm) : List Task :=
  arm.dataset.flatMap fun row =>
    (List.range arm.repetitions.toNat).map fun repetition => ⟨arm.phase, row, repetition⟩

/-- What a run requires, in the order in which it is visited. -/
def tasks (arm : Arm) : List Task := warmupTasks arm ++ mainTasks arm

/-- The keys that a run requires. -/
def required (arm : Arm) : List ResultKey := (tasks arm).map Task.key

/-- A run visits what it requires. -/
theorem runArm_eq (arm : Arm) :
    runArm shown arm =
      andThen (existingKeys shown) fun existing => forEach (tasks arm) (visit arm existing) := by
  unfold runArm tasks warmupTasks mainTasks
  simp only [forEach_append, forEach_map, forEach_flatMap]

/-- The keys of the warming results are distinct. -/
private theorem nodup_warmupKeys (arm : Arm) : ((warmupTasks arm).map Task.key).Nodup := by
  have numbers : ((warmupTasks arm).map fun task => task.repetition) =
      List.range' 0 (upTo arm.dataset arm.warmups).length := by
    rw [warmupTasks, List.map_map]
    exact List.zipIdx_map_snd 0 _
  have distinct : ((warmupTasks arm).map fun task => task.repetition).Nodup := by
    rw [numbers]
    exact List.nodup_range'
  refine List.Nodup.of_map (fun key => key.repetition.toNat) ?_
  rw [List.map_map]
  exact distinct

/-- The keys of the results of distinct queries are distinct. -/
private theorem nodup_mainKeys
    {arm : Arm}
    (distinct : (arm.dataset.map (·.queryId)).Nodup) :
    ((mainTasks arm).map Task.key).Nodup := by
  rw [mainTasks, List.map_flatMap, List.nodup_flatMap]
  constructor
  · intro row _
    rw [List.map_map]
    refine List.Nodup.of_map (fun key => key.repetition.toNat) ?_
    rw [List.map_map]
    exact (List.map_id _).symm ▸ List.nodup_range
  · refine (List.pairwise_map.mp distinct).imp fun {row other} apart => ?_
    intro key held heldOther
    obtain ⟨task, inRow, rfl⟩ := List.mem_map.mp held
    obtain ⟨otherTask, inOther, same⟩ := List.mem_map.mp heldOther
    obtain ⟨repetition, -, rfl⟩ := List.mem_map.mp inRow
    obtain ⟨otherRepetition, -, rfl⟩ := List.mem_map.mp inOther
    exact apart (congrArg ResultKey.queryId same).symm

/-- A run requires no result twice. -/
theorem nodup_required
    {arm : Arm}
    (distinct : (arm.dataset.map (·.queryId)).Nodup) : (required arm).Nodup := by
  rw [required, tasks, List.map_append]
  refine List.Nodup.append (nodup_warmupKeys arm) (nodup_mainKeys distinct) ?_
  intro key warms held
  obtain ⟨task, isWarmup, rfl⟩ := List.mem_map.mp warms
  obtain ⟨other, isMain, same⟩ := List.mem_map.mp held
  obtain ⟨entry, -, rfl⟩ := List.mem_map.mp isWarmup
  obtain ⟨row, -, inRow⟩ := List.mem_flatMap.mp isMain
  obtain ⟨repetition, -, rfl⟩ := List.mem_map.mp inRow
  have longer := congrArg (fun key => key.phase.length) same
  have suffix : "_warmup".toList.length = 7 := by decide
  change arm.phase.length = (arm.phase ++ "_warmup".toList).length at longer
  rw [List.length_append, suffix] at longer
  omega

/-! ## Reading the rows back -/

/-- The key of a row that is appended. -/
def RawRow.key (row : RawRow F) : ResultKey := ⟨row.phase, row.queryId, row.repetition⟩

/-- No text of a row has a line break that is not escaped. -/
structure RawRow.SeamlessTexts (row : RawRow F) : Prop where
  /-- The arm. -/
  arm : Seamless row.arm
  /-- The model. -/
  model : Seamless row.model
  /-- The phase. -/
  phase : Seamless row.phase
  /-- The query. -/
  queryId : Seamless row.queryId
  /-- The language. -/
  language : Seamless row.language
  /-- The error. -/
  error : ∀ text ∈ row.error, Seamless text
  /-- The time. -/
  recordedAt : Seamless row.recordedAt

instance : DecidablePred (RawRow.SeamlessTexts (F := F)) := fun row =>
  decidable_of_iff
    (Seamless row.arm ∧ Seamless row.model ∧ Seamless row.phase ∧ Seamless row.queryId ∧
      Seamless row.language ∧ (∀ text ∈ row.error, Seamless text) ∧ Seamless row.recordedAt)
    ⟨fun ⟨arm, model, phase, queryId, language, error, recordedAt⟩ =>
      ⟨arm, model, phase, queryId, language, error, recordedAt⟩,
      fun seamless => ⟨seamless.arm, seamless.model, seamless.phase, seamless.queryId,
        seamless.language, seamless.error, seamless.recordedAt⟩⟩

/-- The file with some rows. -/
def fileOf (rows : List (RawRow F)) : Str :=
  (rows.map fun row => spacedFlat false row.record).flatMap fun text => text ++ ['\n']

/-- A row as it is read. -/
def RawRow.read (row : RawRow F) : Value F := .dict (sortKeys row.record)

theorem fileOf_append (rows others : List (RawRow F)) :
    fileOf (rows ++ others) = fileOf rows ++ fileOf others := by
  rw [fileOf, List.map_append, List.flatMap_append]
  rfl

omit [FloatOps F] in
/-- The keys of the fields of a row are distinct. -/
theorem RawRow.nodup_record (row : RawRow F) : (row.record.map (·.1)).Nodup := by
  have keys : row.record.map (·.1) = ["arm".toList, "model".toList, "phase".toList,
      "query_id".toList, "language".toList, "repetition".toList, "ranking".toList,
      "scores".toList, "latency_ms".toList, "error".toList, "recorded_at".toList] := rfl
  rw [keys]
  decide +kernel

omit [FloatOps F] in
/-- A score is a scalar without text. -/
private theorem isScalar_scoreOrNone (score : Option F) :
    isScalar (scoreOrNone score) = true ∧ SeamlessValue (scoreOrNone score) := by
  cases score with
  | none => exact ⟨rfl, trivial⟩
  | some score => exact ⟨rfl, trivial⟩

omit [FloatOps F] in
/-- A row holds scalars and lists of scalars. -/
theorem RawRow.flat_record (row : RawRow F) : ∀ entry ∈ row.record, isFlat entry.2 = true := by
  have ranking : isFlat (.list (row.ranking.map (Value.int (F := F)))) = true :=
    List.all_eq_true.mpr fun value held => by
      obtain ⟨index, -, rfl⟩ := List.mem_map.mp held
      rfl
  have scores : isFlat (.list (row.scores.map scoreOrNone)) = true :=
    List.all_eq_true.mpr fun value held => by
      obtain ⟨score, -, rfl⟩ := List.mem_map.mp held
      exact (isScalar_scoreOrNone score).1
  have error : isFlat (textOrNone row.error : Value F) = true := by
    cases row.error with
    | none => rfl
    | some text => rfl
  simp only [RawRow.record, List.forall_mem_cons, ranking, scores, error, List.not_mem_nil,
    false_implies, implies_true, and_true, true_and]
  exact ⟨rfl, rfl, rfl, rfl, rfl, rfl, rfl, rfl⟩

section Reading

variable [ReadableFloats F] [ReadableConstants F]

omit [FloatOps F] [ReadableFloats F] [ReadableConstants F] in
/-- The entries of a row whose texts have no such line break have none. -/
theorem RawRow.seamless_record
    {row : RawRow F}
    (seamless : row.SeamlessTexts) :
    ∀ entry ∈ row.record, Seamless entry.1 ∧ SeamlessFlat entry.2 := by
  have names : ∀ entry ∈ row.record, Seamless entry.1 := by
    have all : ∀ name ∈ row.record.map (·.1), Seamless name := by
      simp only [RawRow.record, List.map_cons, List.map_nil]
      decide +kernel
    exact fun entry held => all entry.1 (List.mem_map_of_mem held)
  have ranking : SeamlessFlat (.list (row.ranking.map (Value.int (F := F)))) := by
    intro value held
    obtain ⟨index, -, rfl⟩ := List.mem_map.mp held
    trivial
  have scores : SeamlessFlat (.list (row.scores.map scoreOrNone)) := by
    intro value held
    obtain ⟨score, -, rfl⟩ := List.mem_map.mp held
    exact (isScalar_scoreOrNone score).2
  have error : SeamlessFlat (textOrNone row.error : Value F) := by
    cases isError : row.error with
    | none => trivial
    | some text => exact seamless.error text isError
  have values : ∀ entry ∈ row.record, SeamlessFlat entry.2 := by
    simp only [RawRow.record, List.forall_mem_cons, ranking, scores, error, List.not_mem_nil,
      false_implies, implies_true, and_true, true_and]
    exact ⟨seamless.arm, seamless.model, seamless.phase, seamless.queryId, seamless.language,
      trivial, trivial, seamless.recordedAt⟩
  exact fun entry held => ⟨names entry held, values entry held⟩

/-- The rows of a file are read back. -/
theorem load_fileOf
    {rows : List (RawRow F)}
    (seamless : ∀ row ∈ rows, row.SeamlessTexts) :
    load F (some (fileOf rows)) = .ok (rows.map RawRow.read) := by
  have unbroken : ∀ text ∈ rows.map fun row => spacedFlat false row.record,
      Text.Unbroken text := by
    intro text held
    obtain ⟨row, inRows, rfl⟩ := List.mem_map.mp held
    exact unbroken_spacedFlat false row.flat_record (RawRow.seamless_record (seamless row inRows))
  have noReturn : '\r' ∉ fileOf rows := by
    intro held
    obtain ⟨text, inTexts, inLine⟩ := List.mem_flatMap.mp held
    rcases List.mem_append.mp inLine with inText | isEnd
    · exact absurd (unbroken text inTexts _ inText) (by decide)
    · exact absurd (List.mem_singleton.mp isEnd) (by decide)
  have notEmpty : ∀ text ∈ rows.map fun row => spacedFlat false row.record,
      decide (text ≠ []) = true := by
    intro text held
    obtain ⟨row, -, rfl⟩ := List.mem_map.mp held
    exact decide_eq_true (List.cons_ne_nil _ _)
  unfold load
  dsimp only
  rw [EventLog.universalNewlines_self noReturn, fileOf, splitlines_texts unbroken,
    List.filter_eq_self.mpr notEmpty]
  refine Traversal.mapM_map_eq_ok fun row _ => ?_
  unfold parseRow
  rw [loads_spacedFlat true false row.nodup_record row.flat_record]
  rfl

omit [FloatOps F] [ReadableFloats F] [ReadableConstants F] in
/-- What was read of a row has under a name what the row has. -/
private theorem RawRow.item_read
    (row : RawRow F)
    {name : Str}
    {value : Value F}
    (held : Dict.get row.record name = some value) : item row.read name = .ok value := by
  unfold item RawRow.read Value.getItem
  dsimp only
  rw [get_sortKeys row.nodup_record, held]
  rfl

omit [ReadableFloats F] [ReadableConstants F] in
/-- The key of a row is read back. -/
theorem RawRow.keyOf_read (row : RawRow F) : keyOf shown row.read = .ok row.key := by
  have phase : item row.read "phase".toList = .ok (.str row.phase) := row.item_read rfl
  have queryId : item row.read "query_id".toList = .ok (.str row.queryId) := row.item_read rfl
  have repetition : item row.read "repetition".toList = .ok (.int row.repetition) :=
    row.item_read rfl
  unfold keyOf
  rw [phase, queryId, repetition]
  rfl

/-- The keys of the rows of a file are read back. -/
theorem keys_fileOf
    {rows : List (RawRow F)}
    (seamless : ∀ row ∈ rows, row.SeamlessTexts) :
    keys shown (some (fileOf rows)) = .ok (rows.map RawRow.key) := by
  unfold keys
  rw [load_fileOf seamless]
  exact Traversal.mapM_map_eq_ok fun row _ => row.keyOf_read shown

end Reading

/-! ## What a run keeps -/

/-- The texts of the rows that were appended have no line break that is not escaped. -/
def AllSeamless (bench : Bench F) : Prop := ∀ row ∈ bench.appended, row.SeamlessTexts

instance (bench : Bench F) : Decidable (AllSeamless bench) :=
  inferInstanceAs (Decidable (∀ row ∈ bench.appended, row.SeamlessTexts))

/-- No result is stored twice, and no call was made for a result that was stored. -/
structure Sound (bench : Bench F) : Prop where
  /-- The keys of the rows are distinct. -/
  distinct : (bench.appended.map RawRow.key).Nodup
  /-- The file at the time of a call had no row for it. -/
  uncalled : ∀ call ∈ bench.calls,
    ∃ stored, keys shown call.file = .ok stored ∧ call.key ∉ stored

/-- What a run keeps that started when some rows were stored. -/
structure Kept (start : List (RawRow F)) (bench : Bench F) : Prop where
  /-- The file has the rows that were appended. -/
  written : bench.file.getD [] = fileOf bench.appended
  /-- The rows that were stored are its first rows. -/
  grown : start <+: bench.appended
  /-- The state is sound unless a row cannot be read. -/
  sound : AllSeamless bench → Sound shown bench

/-- What a run has reached that found some results and has done some. -/
structure Reached (start : List (RawRow F)) (existing done : List ResultKey)
    (bench : Bench F) : Prop extends Kept shown start bench where
  /-- Exactly these results are stored. -/
  stored : AllSeamless bench →
    ∀ key, key ∈ bench.appended.map RawRow.key ↔ key ∈ existing ∨ key ∈ done

section Keeping

variable {shown} {start : List (RawRow F)} {existing done : List ResultKey} {bench : Bench F}

/-- A file that does not exist is read as an empty one. -/
theorem load_getD (file : Option Str) : load F file = load F (some (file.getD [])) := by
  cases file with
  | none => rfl
  | some text => rfl

omit [FloatOps F] in
/-- A wait keeps everything. -/
theorem keeps_wait {invariant : Bench F → Prop} : Keeps invariant (wait (F := F)) := by
  refine Keeps.await fun fate bench holds => ?_
  cases fate with
  | stops | passes | replies | records => exact holds

omit [FloatOps F] in
/-- Taking a call off the budget keeps what does not depend on the budget. -/
theorem keeps_consume
    {invariant : Bench F → Prop}
    (spends : ∀ bench remaining, invariant bench →
      invariant { bench with remaining := remaining }) :
    Keeps invariant (consume (F := F)) := by
  refine Keeps.andThen (Keeps.inspect _) fun remaining => ?_
  cases remaining with
  | none => exact Keeps.value ()
  | some calls =>
      dsimp only
      split
      · exact Keeps.raise _
      · exact Keeps.modify fun bench holds => spends bench _ holds

omit [FloatOps F] in
/-- The attempts of a call keep what spending the budget and calling keep. -/
theorem keeps_attempt
    {invariant : Bench F → Prop}
    {key : ResultKey}
    {request : RerankRequest}
    (spends : ∀ bench remaining, invariant bench →
      invariant { bench with remaining := remaining })
    (calls : ∀ bench, invariant bench →
      invariant { bench with calls := bench.calls ++ [⟨key, request, bench.file⟩] })
    (left : Nat) : Keeps invariant (attempt (F := F) key request left) := by
  have keepsRerank : Keeps invariant (rerank (F := F) key request) := by
    refine Keeps.await fun fate bench holds => ?_
    cases fate with
    | stops | passes | replies | records => exact calls bench holds
  induction left with
  | zero => exact Keeps.raise _
  | succ left inductionHypothesis =>
      refine Keeps.andThen keeps_wait fun _ => Keeps.andThen (keeps_consume spends) fun _ =>
        Keeps.andThen keepsRerank fun replied => ?_
      obtain ⟨reply, latencyMs⟩ := replied
      cases reply with
      | answered results => exact Keeps.value _
      | terminal error => exact Keeps.value _
      | escaped => exact Keeps.raise _
      | transient error =>
          dsimp only
          split
          · exact Keeps.value _
          · exact Keeps.andThen keeps_wait fun _ => inductionHypothesis

/-- What is kept does not depend on the budget. -/
theorem Kept.spent
    (kept : Kept shown start bench)
    (remaining : Option Int) : Kept shown start { bench with remaining := remaining } where
  written := kept.written
  grown := kept.grown
  sound seamless := ⟨(kept.sound seamless).distinct, (kept.sound seamless).uncalled⟩

section Stored

variable [ReadableFloats F] [ReadableConstants F]

/-- The keys of what is stored are read. -/
theorem Kept.keys_eq
    (kept : Kept shown start bench)
    (seamless : AllSeamless bench) :
    keys shown bench.file = .ok (bench.appended.map RawRow.key) := by
  rw [← keys_fileOf shown seamless, ← kept.written]
  unfold keys
  rw [load_getD]

/-- A call for what is not stored may be made. -/
theorem Reached.called
    (reached : Reached shown start existing done bench)
    {key : ResultKey}
    (request : RerankRequest)
    (unknown : key ∉ existing)
    (undone : key ∉ done) :
    Reached shown start existing done
      { bench with calls := bench.calls ++ [⟨key, request, bench.file⟩] } where
  written := reached.written
  grown := reached.grown
  stored := reached.stored
  sound seamless := by
    refine ⟨(reached.sound seamless).distinct, ?_⟩
    rw [List.forall_mem_append, List.forall_mem_singleton]
    refine ⟨(reached.sound seamless).uncalled, _, reached.toKept.keys_eq seamless, ?_⟩
    rw [reached.stored seamless key, not_or]
    exact ⟨unknown, undone⟩

omit [ReadableFloats F] [ReadableConstants F] in
/-- A row for what is not stored may be appended. -/
theorem Reached.append
    (reached : Reached shown start existing done bench)
    (row : RawRow F)
    (unknown : row.key ∉ existing)
    (undone : row.key ∉ done) :
    Reached shown start existing (done ++ [row.key])
      { bench with
        file := append bench.file row
        appended := bench.appended ++ [row] } := by
  have earlier : ∀ {after : Bench F}, after.appended = bench.appended ++ [row] →
      AllSeamless after → AllSeamless bench := by
    intro after same seamless other held
    exact seamless other (same ▸ List.mem_append_left _ held)
  refine ⟨⟨?_, ?_, ?_⟩, ?_⟩
  · change bench.file.getD [] ++ _ = fileOf (bench.appended ++ [row])
    rw [fileOf_append, reached.written]
    simp [fileOf]
  · exact reached.grown.trans (List.prefix_append _ _)
  · intro seamless
    have before := earlier rfl seamless
    refine ⟨?_, (reached.sound before).uncalled⟩
    rw [List.map_append, List.map_singleton, List.nodup_append']
    refine ⟨(reached.sound before).distinct, List.nodup_singleton _, ?_⟩
    rw [List.disjoint_singleton, reached.stored before, not_or]
    exact ⟨unknown, undone⟩
  · intro seamless key
    rw [List.map_append, List.mem_append, reached.stored (earlier rfl seamless), List.mem_append,
      or_assoc, List.map_singleton]

omit [ReadableFloats F] [ReadableConstants F] in
/-- Appending the row of a task stores its result. -/
theorem store_reached
    (arm : Arm)
    {task : Task}
    (answer : Answer F)
    (unknown : task.key ∉ existing)
    (undone : task.key ∉ done) :
    Triple (Reached shown start existing done) (store arm task answer)
      ⟨fun _ => Reached shown start existing (done ++ [task.key]),
        fun _ => Kept shown start, fun _ => Kept shown start⟩ := by
  refine Triple.await fun fate bench reached => ?_
  cases fate with
  | stops | passes | replies => exact reached.toKept
  | records recordedAt =>
      exact reached.append (rawRow arm task answer recordedAt) unknown undone

/-- A task that is visited is stored. -/
theorem visit_reached
    (arm : Arm)
    {task : Task}
    (undone : task.key ∉ done) :
    Triple (Reached shown start existing done) (visit arm existing task)
      ⟨fun _ => Reached shown start existing (done ++ [task.key]),
        fun _ => Kept shown start, fun _ => Kept shown start⟩ := by
  unfold visit
  split
  case isTrue known =>
    refine Triple.value fun bench reached => ⟨reached.toKept, fun seamless key => ?_⟩
    rw [reached.stored seamless, List.mem_append, List.mem_singleton]
    constructor
    · rintro (isExisting | isDone)
      · exact Or.inl isExisting
      · exact Or.inr (Or.inl isDone)
    · rintro (isExisting | isDone | rfl)
      · exact Or.inl isExisting
      · exact Or.inr isDone
      · exact Or.inl known
  case isFalse unknown =>
    cases documents task.row with
    | error failure => exact Triple.raise fun bench reached => reached.toKept
    | ok texts =>
        have invoked : Keeps (Reached shown start existing done)
            (invokeWithRetry (F := F) task.key ⟨task.row.query, texts, some 30⟩) :=
          keeps_attempt
            (fun bench remaining reached => ⟨reached.spent remaining, reached.stored⟩)
            (fun bench reached => reached.called _ unknown undone) maxAttempts
        refine Triple.andThen (fun _ => Reached shown start existing done) ?_
          fun answer => store_reached arm answer unknown undone
        exact invoked.conclude (fun _ _ reached => reached) nofun
          fun _ _ reached => reached.toKept

/-- A run that goes on with the keys that are stored has done nothing. -/
theorem existingKeys_reached :
    Triple (fun bench => Kept shown start bench) (existingKeys shown)
      ⟨fun existing => Reached shown start existing [],
        fun _ => Kept shown start, fun _ => Kept shown start⟩ := by
  refine Triple.andThen (fun found bench => Kept shown start bench ∧ keys shown bench.file = found)
    (Triple.inspect fun bench kept => ⟨kept, rfl⟩) fun found => ?_
  cases found with
  | error failure => exact Triple.raise fun bench holds => holds.1
  | ok existing =>
      refine Triple.value fun bench holds => ⟨holds.1, fun seamless key => ?_⟩
      have same := (holds.1.keys_eq seamless).symm.trans holds.2
      rw [Except.ok.inj same]
      exact (or_iff_left List.not_mem_nil).symm

/-- A run that ends with its last row has stored what it requires. -/
theorem runArm_kept
    {arm : Arm}
    (distinct : (arm.dataset.map (·.queryId)).Nodup) :
    Triple (Kept shown start) (runArm shown arm)
      ⟨fun _ bench => Kept shown start bench ∧
          (AllSeamless bench → ∀ key ∈ required arm, key ∈ bench.appended.map RawRow.key),
        fun _ => Kept shown start, fun _ => Kept shown start⟩ := by
  rw [runArm_eq]
  refine Triple.andThen (fun existing => Reached shown start existing []) existingKeys_reached
    fun existing => ?_
  have loop : Triple (Reached shown start existing ([].map Task.key))
      (forEach (tasks arm) (visit arm existing))
      ⟨fun _ => Reached shown start existing ((tasks arm).map Task.key),
        fun _ => Kept shown start, fun _ => Kept shown start⟩ := by
    refine Triple.forEachDone
      (fun done => Reached shown start existing (done.map Task.key)) ?_
    intro done task rest same
    have undone : task.key ∉ done.map Task.key := by
      have nodup := nodup_required distinct
      rw [required, same, List.map_append, List.map_cons, List.nodup_append'] at nodup
      exact fun held => nodup.2.2 held List.mem_cons_self
    rw [List.map_append, List.map_singleton]
    exact visit_reached arm undone
  refine loop.conclude (fun _ bench reached => ⟨reached.toKept, fun seamless key isRequired => ?_⟩)
    nofun fun _ _ kept => kept
  exact (reached.stored seamless key).mpr (Or.inr isRequired)

end Stored

end Keeping

/-! ## Sequences of runs -/

theorem benchAfter_snoc (runs : List (ArmRun F)) (run : ArmRun F) :
    benchAfter shown (runs ++ [run]) = (run.perform shown (benchAfter shown runs)).2 := by
  rw [benchAfter, List.foldl_append]
  rfl

/-- The queries of every run are distinct. -/
def DistinctQueries (runs : List (ArmRun F)) : Prop :=
  ∀ run ∈ runs, (run.arm.dataset.map (·.queryId)).Nodup

instance (runs : List (ArmRun F)) : Decidable (DistinctQueries runs) :=
  inferInstanceAs (Decidable (∀ run ∈ runs, (run.arm.dataset.map (·.queryId)).Nodup))

/-- Runs can be resumed: after each the results that it required are stored once, what was
stored stays, and nothing that was stored is asked for again. -/
structure Resumable (runs : List (ArmRun F)) : Prop where
  /-- A run that finishes leaves exactly one row for each key it requires. -/
  complete : ∀ before run rest, runs = before ++ run :: rest →
    (run.perform shown (benchAfter shown before)).1 = .next () →
      ∃ stored, load F (benchAfter shown (before ++ [run])).file = .ok stored ∧
        ∀ key ∈ required run.arm, (stored.filter fun row => keyOf shown row = .ok key).length = 1
  /-- The file is only extended. -/
  unchanged : ∀ before rest, runs = before ++ rest →
    (benchAfter shown before).file.getD [] <+: (benchAfter shown runs).file.getD [] ∧
      ∃ earlier later, load F (benchAfter shown before).file = .ok earlier ∧
        load F (benchAfter shown runs).file = .ok (earlier ++ later)
  /-- No call is made for a key that is stored. -/
  uncalled : ∀ call ∈ (benchAfter shown runs).calls,
    ∃ stored, keys shown call.file = .ok stored ∧ call.key ∉ stored

section Runs

variable [ReadableFloats F] [ReadableConstants F]

variable {shown} {runs : List (ArmRun F)}

/-- A run keeps what was kept before, and stores what it requires if it finishes. -/
theorem perform_kept
    {bench : Bench F}
    {run : ArmRun F}
    (kept : Kept shown bench.appended bench)
    (distinct : (run.arm.dataset.map (·.queryId)).Nodup) :
    Kept shown bench.appended (run.perform shown bench).2 ∧
      ((run.perform shown bench).1 = .next () → AllSeamless (run.perform shown bench).2 →
        ∀ key ∈ required run.arm,
          key ∈ (run.perform shown bench).2.appended.map RawRow.key) := by
  have keeps : Triple (Kept shown bench.appended) (runArm shown run.arm) _ := runArm_kept distinct
  have ending := keeps { bench with remaining := run.budget } run.fates (kept.spent run.budget)
  unfold ArmRun.perform
  dsimp only
  generalize (runArm shown run.arm { bench with remaining := run.budget } run.fates).1 = outcome
    at ending ⊢
  cases outcome with
  | next result => exact ⟨ending.1, fun _ => ending.2⟩
  | exit result => exact result.elim
  | raised failure => exact ⟨ending, nofun⟩

/-- Every sequence of runs keeps what was kept. -/
theorem benchAfter_kept (distinct : DistinctQueries runs) :
    Kept shown (benchAfter shown runs).appended (benchAfter shown runs) := by
  induction runs using List.reverseRecOn with
  | nil =>
      exact ⟨rfl, List.prefix_rfl, fun _ => ⟨List.nodup_nil, fun call held => by cases held⟩⟩
  | append_singleton runs run inductionHypothesis =>
      obtain ⟨earlier, last⟩ := List.forall_mem_append.mp distinct
      have kept := (perform_kept (inductionHypothesis earlier) (last run List.mem_cons_self)).1
      rw [benchAfter_snoc]
      exact ⟨kept.written, List.prefix_rfl, kept.sound⟩

/-- What was appended stays. -/
theorem appended_stays
    {before : List (ArmRun F)}
    (rest : List (ArmRun F))
    (distinct : DistinctQueries (before ++ rest)) :
    (benchAfter shown before).appended <+: (benchAfter shown (before ++ rest)).appended := by
  induction rest using List.reverseRecOn with
  | nil => rw [List.append_nil]
  | append_singleton rest run inductionHypothesis =>
      rw [← List.append_assoc] at distinct ⊢
      obtain ⟨earlier, last⟩ := List.forall_mem_append.mp distinct
      rw [benchAfter_snoc]
      exact (inductionHypothesis earlier).trans
        (perform_kept (benchAfter_kept earlier) (last run List.mem_cons_self)).1.grown

/-- The rows of the file are those that were appended. -/
private theorem load_benchAfter
    (distinct : DistinctQueries runs)
    (seamless : AllSeamless (benchAfter shown runs)) :
    load F (benchAfter shown runs).file =
      .ok ((benchAfter shown runs).appended.map RawRow.read) := by
  rw [load_getD, (benchAfter_kept distinct).written, load_fileOf seamless]

/-- In every sequence of runs that append only rows without such line breaks, runs can be
resumed. -/
theorem runs_resumable
    (runs : List (ArmRun F))
    (distinct : DistinctQueries runs)
    (seamless : AllSeamless (benchAfter shown runs)) : Resumable shown runs := by
  have part : ∀ before rest, runs = before ++ rest →
      DistinctQueries before ∧ AllSeamless (benchAfter shown before) := by
    rintro before rest rfl
    exact ⟨(List.forall_mem_append.mp distinct).1,
      fun row held => seamless row ((appended_stays rest distinct).subset held)⟩
  refine ⟨?_, ?_, ((benchAfter_kept distinct).sound seamless).uncalled⟩
  · intro before run rest same finished
    obtain ⟨earlierDistinct, -⟩ := part before (run :: rest) same
    obtain ⟨hereDistinct, hereSeamless⟩ := part (before ++ [run]) rest (by simp [same])
    have runDistinct := distinct run (by simp [same])
    have kept : Kept shown _ (benchAfter shown (before ++ [run])) := benchAfter_kept hereDistinct
    refine ⟨_, load_benchAfter hereDistinct hereSeamless, fun key isRequired => ?_⟩
    have isStored : key ∈ (benchAfter shown (before ++ [run])).appended.map RawRow.key := by
      rw [benchAfter_snoc] at hereSeamless ⊢
      exact (perform_kept (benchAfter_kept earlierDistinct) runDistinct).2 finished hereSeamless
        key isRequired
    have once := List.count_eq_one_of_mem (kept.sound hereSeamless).distinct isStored
    rw [← List.countP_eq_length_filter, List.countP_map, ← once, List.count, List.countP_map]
    refine List.countP_congr fun row _ => ?_
    simp [RawRow.keyOf_read]
  · rintro before rest rfl
    obtain ⟨earlierDistinct, earlierSeamless⟩ := part before rest rfl
    obtain ⟨later, same⟩ : (benchAfter shown before).appended <+:
        (benchAfter shown (before ++ rest)).appended := appended_stays rest distinct
    constructor
    · rw [(benchAfter_kept earlierDistinct).written, (benchAfter_kept distinct).written, ← same,
        fileOf_append]
      exact List.prefix_append _ _
    · refine ⟨_, later.map RawRow.read, load_benchAfter earlierDistinct earlierSeamless, ?_⟩
      rw [load_benchAfter distinct seamless, ← same, List.map_append]

end Runs

/-- Numbers of which only zero is used. -/
inductive OnlyZero
  | zero
  deriving DecidableEq

instance : FloatOps OnlyZero where
  text _ := "0.0".toList
  isZero _ := true
  truncate _ := .ok 0
  ofInt n := if n = 0 then some .zero else none
  ofText text := if text = "0.0".toList then some .zero else none
  equal _ _ := true
  equalInt _ n := n = 0

instance : ReadableFloats OnlyZero where
  token := fun .zero _ => by decide +kernel
  value _ _ := rfl

instance : ReadableConstants OnlyZero where
  word _ notFinite := by cases notFinite

/-- An arm with one query. -/
def sampleArm (queryId : Str) : Arm where
  arm := ['a']
  model := ['m']
  dataset := [⟨queryId, ['q'], ['e', 'n'], [⟨['x'], 1⟩, ⟨['y'], 0⟩]⟩]
  repetitions := 2
  warmups := 1
  phase := ['p']

/-- A run of the arm that is stopped between the second call and its row. -/
def stoppedRun (queryId : Str) : ArmRun OnlyZero where
  arm := sampleArm queryId
  budget := none
  fates := [.passes, .replies (.answered [⟨1, 1, some .zero⟩, ⟨0, 2, none⟩]) .zero,
    .records ['t'], .passes, .replies (.transient ⟨['T'], none⟩) .zero, .passes, .passes,
    .replies (.terminal ⟨['T'], some ['4', '0', '3']⟩) .zero, .stops]

/-- A run that does the rest. -/
def resumedRun (queryId : Str) : ArmRun OnlyZero where
  arm := sampleArm queryId
  budget := some 2
  fates := [.passes, .replies (.answered []) .zero, .records ['t'], .passes,
    .replies (.terminal ⟨['T'], none⟩) .zero, .records ['u']]

/-- A run that is not stopped. -/
def wholeRun (queryId : Str) : ArmRun OnlyZero where
  arm := sampleArm queryId
  budget := none
  fates := (List.replicate 3 [.passes, .replies (.answered []) .zero, .records ['t']]).flatten

/-- A run that is stopped and the run that does the rest. -/
theorem runs_resumable_sample :
    Resumable (fun _ => []) [stoppedRun ['1'], resumedRun ['1']] ∧
      ((resumedRun ['1']).perform (fun _ => []) (benchAfter (fun _ => []) [stoppedRun ['1']])).1 =
        .next () :=
  ⟨runs_resumable [stoppedRun ['1'], resumedRun ['1']] (by decide +kernel) (by decide +kernel),
    by decide +kernel⟩

/-- After a run that finished for a query with a line separator in its name, the rows cannot
be read. -/
theorem not_runs_resumable :
    ¬∀ (shown : Value OnlyZero → Str) (runs : List (ArmRun OnlyZero)), DistinctQueries runs →
      Resumable shown runs := by
  intro resumable
  have finished : ((wholeRun ['\u2028']).perform (fun _ => [])
      (benchAfter (fun _ => []) [])).1 = .next () := by decide +kernel
  obtain ⟨stored, isRead, -⟩ := (resumable (fun _ => []) [wholeRun ['\u2028']]
    (by decide +kernel)).complete [] _ [] rfl finished
  have unread : (load OnlyZero
      (benchAfter (fun _ => []) [wholeRun ['\u2028']]).file).toOption.isNone = true := by
    decide +kernel
  rw [List.nil_append] at isRead
  rw [isRead] at unread
  cases unread

end Benchmark
end ChatPlatform
