import ChatPlatform.Foundation.Settling
import ChatPlatform.Ingest.Steps

/-!
# The corpus as a store

What a tenant has under its source paths is a keyed store. Finishing a document makes
its update of that store: nothing where the document is there already in the mode of
the run, and the document with its chunks otherwise.
-/

namespace ChatPlatform
namespace Ingest

open Program

variable {E V W : Type} (functions : Functions) (job : Job)

/-! ## The corpus as a store -/

/-- What the corpus says about a source path. -/
structure CorpusEntry where
  /-- Digest of the text. -/
  contentHash : Str
  /-- The mode it was indexed in. -/
  indexingMode : Str
  /-- The texts of the chunks. -/
  chunkTexts : List Str
  deriving DecidableEq

/-- The corpus: what a tenant has under a source path. -/
def Tables.corpus (tables : Tables V W) (key : Str × Str) : Option CorpusEntry :=
  (tables.holdings key.1 key.2).head?.map fun held =>
    ⟨held.1.contentHash, held.1.indexingMode, held.2.map (·.text)⟩

/-- The source paths of a tenant with their digests, modes and chunk texts. -/
def Tables.corpusEntries (tables : Tables V W) (tenantId : Str) :
    List (Str × CorpusEntry) :=
  (tables.documents.filter (·.tenantId = tenantId)).map fun row =>
    (row.sourcePath,
      ⟨row.contentHash, row.indexingMode, (tables.chunksOf row.id).map (·.text)⟩)

/-- On sound tables the entries are the corpus of the tenant. -/
theorem mem_corpusEntries_iff
    {tables : Tables V W}
    (sound : tables.Sound)
    (tenantId sourcePath : Str)
    (entry : CorpusEntry) :
    (sourcePath, entry) ∈ tables.corpusEntries tenantId ↔
      tables.corpus (tenantId, sourcePath) = some entry := by
  unfold Tables.corpusEntries Tables.corpus Tables.holdings
  constructor
  · intro held
    obtain ⟨row, matched, same⟩ := List.mem_map.mp held
    obtain ⟨inTables, sameTenant⟩ := List.mem_filter.mp matched
    rw [Prod.mk.injEq] at same
    obtain ⟨rfl, rfl⟩ := same
    rw [← of_decide_eq_true sameTenant, sound.documentsAt_eq inTables]
    rfl
  · intro found
    obtain ⟨held, first, same⟩ := Option.map_eq_some_iff.mp found
    obtain ⟨row, matched, rfl⟩ := List.mem_map.mp (List.mem_of_head? first)
    obtain ⟨inTables, isAt⟩ := List.mem_filter.mp matched
    obtain ⟨sameTenant, samePath⟩ := (row.isAt_iff _ _).mp isAt
    refine List.mem_map.mpr ⟨row, List.mem_filter.mpr ⟨inTables, ?_⟩, ?_⟩
    · exact decide_eq_true sameTenant
    · exact Prod.ext samePath same

/-- Whether an entry is that of a document in the mode of a job. -/
def CorpusEntry.matches (entry : CorpusEntry) (document : LoadedDocument) : Bool :=
  fingerprint entry.contentHash entry.indexingMode =
    fingerprint document.contentHash job.indexingMode

/-- The texts of the chunks a document is divided into. -/
def chunkTextsOf (document : LoadedDocument) : List Str :=
  match functions.chunkDocument document.docType document.content with
  | .error _ => []
  | .ok rawChunks => rawChunks.map (·.text)

/-- What a run does to the corpus for a document. -/
def documentUpdate (document : LoadedDocument) :
    Settling.Update (Str × Str) (Option CorpusEntry) where
  key := (job.tenantId, document.sourcePath)
  change entry :=
    if entry.any (·.matches job document) then entry
    else some ⟨document.contentHash, job.indexingMode, chunkTextsOf functions document⟩
  settles := by
    intro entry
    by_cases settled : entry.any (·.matches job document) = true
    · rw [if_pos settled, if_pos settled]
    · rw [if_neg settled, if_pos]
      exact decide_eq_true rfl

/-- The update for a document leaves an entry that matches it. -/
theorem documentUpdate_matches
    (document : LoadedDocument)
    (entry : Option CorpusEntry) :
    ∃ held, (documentUpdate functions job document).change entry = some held ∧
      held.matches job document = true := by
  by_cases settled : entry.any (·.matches job document) = true
  · cases entry with
    | none => cases settled
    | some held => exact ⟨held, if_pos settled, settled⟩
  · exact ⟨_, if_neg settled, decide_eq_true rfl⟩

/-- The document selected under a source path is the one the corpus tells of. -/
theorem isSettled_eq
    {tables : Tables V W}
    (sound : tables.Sound)
    (document : LoadedDocument) :
    job.isSettled tables document =
      (tables.corpus (job.tenantId, document.sourcePath)).any
        (·.matches job document) := by
  unfold Job.isSettled existingIndexingMode Tables.corpus Tables.holdings
  cases selected : tables.selectDocument job.tenantId job.tenantId document.sourcePath with
  | none =>
      rw [Tables.selectDocument_none selected]
      rfl
  | some row =>
      rw [(Tables.selectDocument_some sound selected).2.2.2]
      rfl

/-! ## One document -/

section Document

variable
  {functions : Functions}
  {job : Job}
  {services : Services E V W}
  {document : LoadedDocument}
  {before after : Tables V W}

/-- The rows of the chunks of a document belong to it. -/
theorem Indexed.ofRow
    {rawChunks : List RawChunk}
    {row : DocumentRow}
    {chunks : List (ChunkRow V W)}
    (indexed : Indexed functions job services document rawChunks row chunks) :
    ∀ chunk ∈ chunks, chunk.documentId = row.id ∧ chunk.tenantId = row.tenantId := by
  intro chunk held
  obtain ⟨positioned, _, isAt⟩ := Traversal.exists_left_of_mem indexed.chunk_at held
  rw [indexed.row_eq]
  exact ⟨isAt.documentId, isAt.tenantId⟩

/-- The texts of the rows are those of the chunks. -/
theorem Indexed.texts
    {rawChunks : List RawChunk}
    {row : DocumentRow}
    {chunks : List (ChunkRow V W)}
    (indexed : Indexed functions job services document rawChunks row chunks) :
    chunks.map (·.text) = chunkTextsOf functions document := by
  have paired : chunks.map (·.text) = rawChunks.zipIdx.map (·.1.text) :=
    Traversal.map_eq_of_forall₂ (fun _ _ isAt => isAt.text) indexed.chunk_at
  unfold chunkTextsOf
  rw [indexed.chunked, paired]
  calc rawChunks.zipIdx.map (·.1.text)
      = (rawChunks.zipIdx.map Prod.fst).map (·.text) := (List.map_map ..).symm
    _ = rawChunks.map (·.text) := by rw [List.zipIdx_map_fst]

/-- Storing a document keeps tables sound. -/
theorem Stored.sound
    (stored : Stored functions job services document before after)
    (sound : before.Sound) : after.Sound := by
  obtain ⟨rawChunks, row, chunks, indexed, _, fresh, rfl⟩ := stored
  exact sound.replace fresh indexed.ofRow

/-- Storing a document changes what is under its own source path only. -/
theorem Stored.holdings_other
    (stored : Stored functions job services document before after)
    (sound : before.Sound)
    {tenantId sourcePath : Str}
    (other : (tenantId, sourcePath) ≠ (job.tenantId, document.sourcePath)) :
    after.holdings tenantId sourcePath = before.holdings tenantId sourcePath := by
  obtain ⟨rawChunks, row, chunks, indexed, _, fresh, rfl⟩ := stored
  apply Tables.holdings_replace_other sound fresh indexed.ofRow
  rwa [indexed.row_eq]

/-- Storing a document leaves it under its source path. -/
theorem Stored.holdings_self
    (stored : Stored functions job services document before after)
    (sound : before.Sound) :
    ∃ rawChunks row chunks, Indexed functions job services document rawChunks row chunks ∧
      after.holdings job.tenantId document.sourcePath = [(row, chunks)] := by
  obtain ⟨rawChunks, row, chunks, indexed, _, fresh, rfl⟩ := stored
  have held := Tables.holdings_replace_self sound fresh indexed.ofRow
  refine ⟨rawChunks, row, chunks, indexed, ?_⟩
  rwa [show row.tenantId = job.tenantId by rw [indexed.row_eq]; rfl,
    show row.sourcePath = document.sourcePath by rw [indexed.row_eq]; rfl] at held

/-- Finishing a document makes its update of the corpus. -/
theorem Finished.corpus
    {stats counted : Stats}
    (finished : Finished functions job services document before stats after counted)
    (sound : before.Sound) :
    after.corpus = (documentUpdate functions job document).apply before.corpus := by
  have settledIff := isSettled_eq job sound document
  rcases finished with ⟨settled, rfl, _⟩ | ⟨stored, _⟩
  · have unchanged : (documentUpdate functions job document).change
        (after.corpus (job.tenantId, document.sourcePath)) =
        after.corpus (job.tenantId, document.sourcePath) :=
      if_pos (settledIff.symm.trans settled)
    exact ((documentUpdate functions job document).apply_of_unchanged unchanged).symm
  · obtain ⟨rawChunks, row, chunks, indexed, held⟩ := stored.holdings_self sound
    obtain ⟨_, _, _, _, unsettled, _, _⟩ := id stored
    funext key
    by_cases own : key = (job.tenantId, document.sourcePath)
    · have changed : (documentUpdate functions job document).change (before.corpus key) =
          some ⟨document.contentHash, job.indexingMode, chunkTextsOf functions document⟩ := by
        rw [own]
        apply if_neg
        rw [← settledIff, unsettled]
        exact Bool.false_ne_true
      calc after.corpus key
          = some ⟨row.contentHash, row.indexingMode, chunks.map (·.text)⟩ := by
            rw [own]
            unfold Tables.corpus
            rw [held]
            rfl
        _ = some ⟨document.contentHash, job.indexingMode,
              chunkTextsOf functions document⟩ := by
            rw [indexed.texts, indexed.row_eq]
            rfl
        _ = (documentUpdate functions job document).apply before.corpus key := by
            rw [← changed, own]
            exact ((documentUpdate functions job document).apply_self _).symm
    · calc after.corpus key
          = before.corpus key := by
            unfold Tables.corpus
            rw [stored.holdings_other sound own]
        _ = (documentUpdate functions job document).apply before.corpus key :=
            ((documentUpdate functions job document).apply_of_ne _ own).symm

end Document

end Ingest
end ChatPlatform
