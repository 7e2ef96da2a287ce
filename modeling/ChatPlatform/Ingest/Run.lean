import ChatPlatform.Conversation.History
import ChatPlatform.Foundation.Program
import ChatPlatform.Ingest.Discovery
import ChatPlatform.Ingest.Store

/-!
# A run of the ingestion

Each document is handled in a transaction of its own: an unchanged one is skipped, a
changed one is deleted and inserted again with its chunks, their contexts and their
vectors. A run may stop at every await, by an exception or by a crash; only a commit
makes rows durable, and a commit that is not seen to complete may have done so.
-/

namespace ChatPlatform
namespace Ingest

/-- A chunk of a document. -/
structure RawChunk where
  /-- The text. -/
  text : Str
  /-- The headers or the definition it stands under. -/
  sectionPath : Str
  deriving DecidableEq

/-- The pure functions the ingestion is built on. -/
structure Functions where
  /-- The digest of a text. -/
  sha256Hex : Str → Str
  /-- The chunks of a text of some type; `error` names an exception. -/
  chunkDocument : Str → Str → Except Str (List RawChunk)

/-- What is to be ingested. -/
structure Job where
  /-- The tenant of the corpus. -/
  tenantId : Str
  /-- The state of the repository. -/
  repository : Repository
  /-- Whether chunks get contexts. -/
  contextualize : Bool

/-- What is answered to one run. -/
structure Services (E V W : Type) where
  /-- The identifier drawn for a document. -/
  newId : LoadedDocument → Uuid
  /-- The answer of the language model for a chunk of a document. -/
  generate : LoadedDocument → Nat → List ChatMessage → Str
  /-- The vectors for the search texts of a document. -/
  embedMany : LoadedDocument → List Str → List E
  /-- The database. -/
  server : Server E V W

/-- What a run counts. -/
structure Stats where
  /-- Documents found. -/
  documentsSeen : Nat := 0
  /-- Documents stored. -/
  documentsIngested : Nat := 0
  /-- Documents left as they were. -/
  documentsSkipped : Nat := 0
  /-- Chunks stored. -/
  chunksIngested : Nat := 0
  deriving DecidableEq

/-- One more skipped document. -/
def Stats.skip (stats : Stats) : Stats :=
  { stats with documentsSkipped := stats.documentsSkipped + 1 }

/-- One more stored document, with its chunks. -/
def Stats.ingest (stats : Stats) (chunks : Nat) : Stats :=
  { stats with
    chunksIngested := stats.chunksIngested + chunks
    documentsIngested := stats.documentsIngested + 1 }

/-- The state a run acts on. -/
structure World (V W : Type) where
  /-- The committed rows. -/
  durable : Tables V W
  /-- The rows as the open transaction sees them. -/
  working : Tables V W
  /-- The counters. -/
  stats : Stats := {}
  deriving DecidableEq

/-- What happens at an await. -/
inductive Fate
  /-- It completes. -/
  | completes
  /-- The run stops there, by an exception or by a crash; `tookEffect` tells whether
  the other side acted before. -/
  | stops (reason : Str) (tookEffect : Bool)
  deriving DecidableEq

/-- A part of a run; it never returns early. -/
abbrev IngestProgram (V W α : Type) : Type := Program Fate (World V W) Empty Str α

open Program

variable {E V W α : Type}

/-! ## The session -/

/-- An await that gives a value and changes nothing. -/
def awaitValue (result : α) : IngestProgram V W α :=
  await .completes fun fate world =>
    match fate with
    | .completes => (.next result, world)
    | .stops reason _ => (.raised reason, world)

/-- Read from the tables of the transaction. -/
def query (view : Tables V W → α) : IngestProgram V W α :=
  await .completes fun fate world =>
    match fate with
    | .completes => (.next (view world.working), world)
    | .stops reason _ => (.raised reason, world)

/-- Execute a statement of the transaction. -/
def execute (statement : Tables V W → Except Str (Tables V W)) :
    IngestProgram V W Unit :=
  await .completes fun fate world =>
    match fate with
    | .completes =>
        match statement world.working with
        | .ok after => (.next (), { world with working := after })
        | .error name => (.raised name, world)
    | .stops reason _ => (.raised reason, world)

/-- Begin a transaction and set its tenant. -/
def begin : IngestProgram V W Unit :=
  await .completes fun fate world =>
    match fate with
    | .completes => (.next (), { world with working := world.durable })
    | .stops reason _ => (.raised reason, world)

/-- Leave the transaction, keeping its rows. -/
def commit : IngestProgram V W Unit :=
  await .completes fun fate world =>
    match fate with
    | .completes => (.next (), { world with durable := world.working })
    | .stops reason tookEffect =>
        (.raised reason,
          { world with durable := if tookEffect then world.working else world.durable })

/-- Leave the transaction, dropping its rows. -/
def rollback : IngestProgram V W Unit :=
  await .completes fun fate world =>
    let dropped := { world with working := world.durable }
    match fate with
    | .completes => (.next (), dropped)
    | .stops reason _ => (.raised reason, dropped)

/-- A block in a session and a transaction of its own. -/
def inTransaction (body : IngestProgram V W α) : IngestProgram V W α :=
  within (value ()) (awaitValue ()) (awaitValue ())
    (within begin commit rollback body)

/-! ## A document -/

/-- The digest of a document with the mode it was indexed in. -/
def fingerprint (contentHash indexingMode : Str) : Str :=
  contentHash ++ ":".toList ++ indexingMode

/-- Whether a document has to be indexed again. -/
def shouldReindex (existingFingerprint : Option Str) (newFingerprint : Str) : Bool :=
  existingFingerprint ≠ some newFingerprint

/-- The identifier and the fingerprint of the current document of a source path. -/
def existingIndexingMode
    (tables : Tables V W)
    (tenantId sourcePath : Str) : Option (Uuid × Str) :=
  (tables.selectDocument tenantId tenantId sourcePath).map fun row =>
    (row.id, row.contentHash ++ ":".toList ++ row.indexingMode)

/-- The system prompt that asks for a context. -/
def contextualizePrompt : Str :=
  ("You situate a text fragment within its source document in 1-2 short sentences. " ++
    "State only what section/function it belongs to and what the surrounding document is about. " ++
    "Do not repeat the fragment itself. Do not add commentary.").toList

/-- What the language model is asked about a chunk. -/
def contextualizeMessages (document : LoadedDocument) (chunk : RawChunk) :
    List ChatMessage :=
  let sectionName := if chunk.sectionPath = [] then "(top level)".toList
    else chunk.sectionPath
  [⟨.system, contextualizePrompt⟩,
    ⟨.user, "Document: ".toList ++ document.sourcePath ++ "\nSection/function: ".toList ++
      sectionName ++ "\n\nFragment:\n".toList ++ chunk.text⟩]

/-- The texts for the vectors and for the keyword search. -/
def buildSearchTexts (rawChunks : List RawChunk) (contexts : List (Option Str)) :
    List Str :=
  List.zipWith (fun context chunk =>
    match context with
    | none => chunk.text
    | some [] => chunk.text
    | some (first :: rest) => (first :: rest) ++ "\n".toList ++ chunk.text)
    contexts rawChunks

namespace Job

/-- The mode of a run. -/
def indexingMode (job : Job) : Str :=
  if job.contextualize then "contextualized".toList else "plain".toList

/-- The new row of a document. -/
def documentRow
    (job : Job)
    (services : Services E V W)
    (document : LoadedDocument) : DocumentRow where
  id := services.newId document
  tenantId := job.tenantId
  sourcePath := document.sourcePath
  contentHash := document.contentHash
  docType := document.docType
  indexingMode := job.indexingMode

/-- The chunk at a position of a document, with what stands at that position in the
lists made for it. -/
def chunkUpsert
    (job : Job)
    (services : Services E V W)
    (document : LoadedDocument)
    (contexts : List (Option Str))
    (vectors : List E)
    (searchTexts : List Str)
    (positioned : RawChunk × Nat) : Except Str (ChunkUpsert E) :=
  match contexts[positioned.2]?, vectors[positioned.2]?, searchTexts[positioned.2]? with
  | some context, some vector, some searchText =>
      .ok {
        documentId := services.newId document
        tenantId := job.tenantId
        ordinal := positioned.2
        text := positioned.1.text
        embedding := vector
        searchText := searchText
        context := context
        metadata := if positioned.1.sectionPath = [] then none
          else some [("section".toList, positioned.1.sectionPath)] }
  | _, _, _ => .error "IndexError".toList

end Job

section Run

variable
  (functions : Functions)
  (job : Job)
  (services : Services E V W)

/-- Ask for the context of a chunk. -/
def contextualize
    (document : LoadedDocument)
    (position : Nat)
    (chunk : RawChunk) : IngestProgram V W Str :=
  awaitValue (Text.strip
    (services.generate document position (contextualizeMessages document chunk)))

/-- Ask for the contexts of chunks, one after the other. -/
def contextsFrom
    (document : LoadedDocument)
    (position : Nat) : List RawChunk → IngestProgram V W (List (Option Str))
  | [] => value []
  | chunk :: rest =>
      andThen (contextualize services document position chunk) fun context =>
        andThen (contextsFrom document (position + 1) rest) fun contexts =>
          value (some context :: contexts)

/-- The contexts of the chunks of a document, where the run makes them. -/
def contextsOf
    (document : LoadedDocument)
    (rawChunks : List RawChunk) : IngestProgram V W (List (Option Str)) :=
  if job.contextualize then contextsFrom services document 0 rawChunks
  else value (rawChunks.map fun _ => none)

/-- Store chunks, one after the other. -/
def upsertChunks (chunks : List (ChunkUpsert E)) : IngestProgram V W Unit :=
  if chunks.isEmpty then value ()
  else forEach chunks fun chunk =>
    execute fun tables => tables.upsertChunk services.server job.tenantId chunk

/-- Count a skipped document. -/
def countSkipped : IngestProgram V W Unit :=
  modify fun world => { world with stats := world.stats.skip }

/-- Count a stored document. -/
def countIngested (chunks : Nat) : IngestProgram V W Unit :=
  modify fun world => { world with stats := world.stats.ingest chunks }

/-- Make the chunks of a document with contexts and vectors, and store them. -/
def storeChunks
    (document : LoadedDocument)
    (rawChunks : List RawChunk) : IngestProgram V W Unit :=
  andThen (contextsOf job services document rawChunks) fun contexts =>
    let searchTexts := buildSearchTexts rawChunks contexts
    andThen (awaitValue (services.embedMany document searchTexts)) fun vectors =>
      match rawChunks.zipIdx.mapM
        (job.chunkUpsert services document contexts vectors searchTexts) with
      | .error name => raise name
      | .ok chunks =>
          andThen (upsertChunks job services chunks) fun _ =>
            countIngested rawChunks.length

/-- Insert a document with its chunks. -/
def storeDocument (document : LoadedDocument) : IngestProgram V W Unit :=
  andThen (execute fun tables =>
    tables.insertDocument job.tenantId (job.documentRow services document)) fun _ =>
    match functions.chunkDocument document.docType document.content with
    | .error name => raise name
    | .ok [] => countIngested 0
    | .ok (first :: rest) => storeChunks job services document (first :: rest)

/-- Skip a document that is stored already, or put it in the place of the one that is
stored. -/
def ingestDocument (document : LoadedDocument) : IngestProgram V W Unit :=
  inTransaction (andThen (query fun tables =>
    existingIndexingMode tables job.tenantId document.sourcePath) fun existing =>
    match existing with
    | none => storeDocument functions job services document
    | some (id, existingFingerprint) =>
        if !shouldReindex (some existingFingerprint)
          (fingerprint document.contentHash job.indexingMode) then countSkipped
        else
          andThen (execute fun tables => .ok (tables.deleteDocument job.tenantId id))
            fun _ => storeDocument functions job services document)

/-- Whether a character may stand in a tenant identifier. -/
def isTenantChar (c : Char) : Bool :=
  ('a' ≤ c && c ≤ 'z') || ('A' ≤ c && c ≤ 'Z') || ('0' ≤ c && c ≤ '9') ||
    c == '_' || c == '-'

/-- The tenant a text stands for. -/
def validateTenant (text : Str) : Str :=
  let stripped := Text.strip text
  if stripped ≠ [] ∧ stripped.length ≤ 64 ∧ stripped.all isTenantChar = true then stripped
  else "default".toList

/-- A block in the scope of a tenant. -/
def tenantScope (tenantId : Str) (body : IngestProgram V W α) : IngestProgram V W α :=
  if validateTenant tenantId ≠ tenantId then raise "ValueError".toList else body

/-- Ingest the documents of a repository. -/
def ingest : IngestProgram V W Stats :=
  match discoverDocuments functions.sha256Hex job.repository with
  | .error name => raise name
  | .ok documents =>
      andThen (awaitValue ()) fun _ =>
        andThen (modify fun world => { world with
          stats := { documentsSeen := documents.length } }) fun _ =>
          tenantScope job.tenantId
            (andThen (forEach documents (ingestDocument functions job services)) fun _ =>
              inspect (·.stats))

/-- A run from committed rows. -/
def runFrom (tables : Tables V W) (fates : List Fate) :
    Outcome Empty Str Stats × World V W × List Fate :=
  ingest functions job services ⟨tables, tables, {}⟩ fates

/-- The committed rows after a run. -/
def tablesAfter (tables : Tables V W) (fates : List Fate) : Tables V W :=
  (runFrom functions job services tables fates).2.1.durable

end Run

/-- The committed rows after any number of runs, each with a job of its own and broken
off anywhere. -/
inductive Reachable (functions : Functions) (E : Type) {V W : Type} :
    Tables V W → Prop
  /-- At first there are no rows. -/
  | empty : Reachable functions E {}
  /-- One more run. -/
  | run
      {tables : Tables V W}
      (before : Reachable functions E tables)
      (job : Job)
      (services : Services E V W)
      (fates : List Fate) :
      Reachable functions E (tablesAfter functions job services tables fates)

end Ingest
end ChatPlatform
