import ChatPlatform.Foundation.Uuid
import ChatPlatform.Store.Database
import Mathlib.Data.List.Nodup

/-!
# The corpus tables

Documents and their chunks, with the statements the ingestion makes. A session sees
and writes the rows of the tenant it is scoped to. Deleting a document deletes its
chunks with it.
-/

namespace ChatPlatform
namespace Ingest

/-- A row of the documents table. -/
structure DocumentRow where
  /-- Primary key. -/
  id : Uuid
  /-- The tenant of the corpus. -/
  tenantId : Str
  /-- The path of the file. -/
  sourcePath : Str
  /-- Digest of the text. -/
  contentHash : Str
  /-- Which chunker was applied. -/
  docType : Str
  /-- Whether the chunks have contexts. -/
  indexingMode : Str
  deriving DecidableEq

/-- A chunk as it is given to the vector store. -/
structure ChunkUpsert (E : Type) where
  /-- The document of the chunk. -/
  documentId : Uuid
  /-- The tenant of the corpus. -/
  tenantId : Str
  /-- Position in the document. -/
  ordinal : Nat
  /-- The text. -/
  text : Str
  /-- The vector. -/
  embedding : E
  /-- The text for the keyword search. -/
  searchText : Str
  /-- What situates the chunk. -/
  context : Option Str
  /-- The section, when there is one. -/
  metadata : Option (List (Str × Str))
  deriving DecidableEq

/-- A row of the chunks table. -/
structure ChunkRow (V W : Type) where
  /-- Primary key. -/
  id : Uuid
  /-- Foreign key to the document. -/
  documentId : Uuid
  /-- The tenant of the corpus. -/
  tenantId : Str
  /-- Position in the document. -/
  ordinal : Nat
  /-- The text. -/
  text : Str
  /-- What situates the chunk. -/
  context : Option Str
  /-- The vector. -/
  embedding : V
  /-- The lexemes for the keyword search. -/
  searchVector : W
  /-- The section, when there is one. -/
  metadata : Option (List (Str × Str))
  deriving DecidableEq

/-- The rows of both tables. -/
structure Tables (V W : Type) where
  /-- The documents. -/
  documents : List DocumentRow := []
  /-- The chunks. -/
  chunks : List (ChunkRow V W) := []
  deriving DecidableEq

/-- What the database computes itself. -/
structure Server (E V W : Type) where
  /-- The cast of a vector; a vector of the wrong dimension is refused. -/
  castVector : E → Option V
  /-- The lexemes of a text. -/
  toTsvector : Str → W
  /-- The random identifier for a chunk. -/
  genRandomUuid : Uuid → Nat → Uuid

/-- Whether a document is the one of a tenant's source path. -/
def DocumentRow.isAt (row : DocumentRow) (tenantId sourcePath : Str) : Bool :=
  row.tenantId = tenantId && row.sourcePath = sourcePath

theorem DocumentRow.isAt_iff (row : DocumentRow) (tenantId sourcePath : Str) :
    row.isAt tenantId sourcePath = true ↔
      row.tenantId = tenantId ∧ row.sourcePath = sourcePath := by
  unfold isAt
  rw [Bool.and_eq_true, decide_eq_true_eq, decide_eq_true_eq]

/-- Whether every column of a document accepts its value. -/
def DocumentRow.fits (row : DocumentRow) : Bool :=
  Column.acceptsString 64 row.tenantId &&
    Column.acceptsString 1024 row.sourcePath &&
    Column.acceptsString 64 row.contentHash &&
    Column.acceptsString 32 row.docType &&
    Column.acceptsString 32 row.indexingMode

/-- Whether the text columns of a chunk accept their values. -/
def ChunkUpsert.fits {E : Type} (chunk : ChunkUpsert E) : Bool :=
  Column.acceptsInteger chunk.ordinal &&
    Column.acceptsText chunk.text &&
    chunk.context.all Column.acceptsText &&
    Column.acceptsText chunk.searchText

namespace Tables

variable {E V W : Type}

/-! ## Statements -/

/-- The first document of a tenant with a source path. -/
def selectDocument
    (tables : Tables V W)
    (scope tenantId sourcePath : Str) : Option DocumentRow :=
  (tables.documents.filter (·.tenantId = scope)).find? (·.isAt tenantId sourcePath)

/-- Delete a document, and its chunks with it. -/
def deleteDocument (tables : Tables V W) (scope : Str) (id : Uuid) : Tables V W :=
  let deleted := tables.documents.filter fun row =>
    row.tenantId = scope && row.id = id
  { documents := tables.documents.filter fun row =>
      !(row.tenantId = scope && row.id = id)
    chunks := tables.chunks.filter fun chunk =>
      !((deleted.map (·.id)).contains chunk.documentId) }

/-- Insert a document. -/
def insertDocument
    (tables : Tables V W)
    (scope : Str)
    (row : DocumentRow) : Except Str (Tables V W) :=
  if row.tenantId ≠ scope then .error "ProgrammingError".toList
  else if !row.fits then .error "DataError".toList
  else if tables.documents.any (·.id = row.id) then .error "IntegrityError".toList
  else if tables.documents.any fun held =>
      held.tenantId = row.tenantId && held.sourcePath = row.sourcePath &&
        held.contentHash = row.contentHash && held.indexingMode = row.indexingMode then
    .error "IntegrityError".toList
  else .ok { tables with documents := tables.documents ++ [row] }

/-- The row for a chunk with its vector. -/
def chunkRow
    (server : Server E V W)
    (chunk : ChunkUpsert E)
    (embedding : V) : ChunkRow V W where
  id := server.genRandomUuid chunk.documentId chunk.ordinal
  documentId := chunk.documentId
  tenantId := chunk.tenantId
  ordinal := chunk.ordinal
  text := chunk.text
  context := chunk.context
  embedding := embedding
  searchVector := server.toTsvector chunk.searchText
  metadata := chunk.metadata

/-- Insert a chunk, or overwrite the one of the same document and ordinal. -/
def upsertChunk
    (tables : Tables V W)
    (server : Server E V W)
    (scope : Str)
    (chunk : ChunkUpsert E) : Except Str (Tables V W) :=
  if chunk.tenantId ≠ scope then .error "ProgrammingError".toList
  else if !chunk.fits then .error "DataError".toList
  else
    match server.castVector chunk.embedding with
    | none => .error "DataError".toList
    | some embedding =>
        let row := chunkRow server chunk embedding
        if tables.chunks.any fun held =>
            held.documentId = chunk.documentId && held.ordinal = chunk.ordinal then
          .ok { tables with
            chunks := tables.chunks.map fun held =>
              if held.documentId = chunk.documentId ∧ held.ordinal = chunk.ordinal then
                { row with id := held.id, tenantId := held.tenantId }
              else held }
        else if tables.chunks.any (·.id = row.id) then .error "IntegrityError".toList
        else if !tables.documents.any (·.id = chunk.documentId) then
          .error "IntegrityError".toList
        else .ok { tables with chunks := tables.chunks ++ [row] }

/-! ## What a tenant has under a source path -/

/-- The documents of a tenant under a source path. -/
def documentsAt (tables : Tables V W) (tenantId sourcePath : Str) : List DocumentRow :=
  tables.documents.filter (·.isAt tenantId sourcePath)

/-- The chunks of a document. -/
def chunksOf (tables : Tables V W) (documentId : Uuid) : List (ChunkRow V W) :=
  tables.chunks.filter (·.documentId = documentId)

/-- The documents of a tenant under a source path, each with its chunks. -/
def holdings
    (tables : Tables V W)
    (tenantId sourcePath : Str) : List (DocumentRow × List (ChunkRow V W)) :=
  (tables.documentsAt tenantId sourcePath).map fun row => (row, tables.chunksOf row.id)

/-- Tables as ingestion leaves them: one document for each identifier and for each
source path of a tenant, and no chunk without its document. -/
structure Sound (tables : Tables V W) : Prop where
  /-- Identifiers are unique. -/
  distinctIds : (tables.documents.map (·.id)).Nodup
  /-- A source path of a tenant has one document. -/
  distinctPaths : (tables.documents.map fun row => (row.tenantId, row.sourcePath)).Nodup
  /-- Every chunk is one of a document. -/
  owned : ∀ chunk ∈ tables.chunks, ∃ row ∈ tables.documents,
    row.id = chunk.documentId ∧ row.tenantId = chunk.tenantId

theorem sound_empty : Sound ({} : Tables V W) where
  distinctIds := List.nodup_nil
  distinctPaths := List.nodup_nil
  owned := nofun

/-! ## Replacing what is under a source path -/

/-- The tables without what a tenant has under a source path. -/
def clear (tables : Tables V W) (tenantId sourcePath : Str) : Tables V W where
  documents := tables.documents.filter (!·.isAt tenantId sourcePath)
  chunks := tables.chunks.filter fun held =>
    !(((tables.documentsAt tenantId sourcePath).map (·.id)).contains held.documentId)

/-- Put a document with its chunks in the place of what is under its source path. -/
def replace
    (tables : Tables V W)
    (row : DocumentRow)
    (chunks : List (ChunkRow V W)) : Tables V W where
  documents := (tables.clear row.tenantId row.sourcePath).documents ++ [row]
  chunks := (tables.clear row.tenantId row.sourcePath).chunks ++ chunks

end Tables
end Ingest
end ChatPlatform
