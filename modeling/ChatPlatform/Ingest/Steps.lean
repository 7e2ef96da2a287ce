import ChatPlatform.Ingest.Replacement
import ChatPlatform.Ingest.Run

/-!
# What one document's transaction leaves

Whatever happens at its awaits, the transaction of a document leaves the committed
rows as they were, or puts the new document with all of its chunks in the place of
what was under the source path. A document that is settled is only skipped.
-/

namespace ChatPlatform
namespace Ingest

open Program

variable {E V W α : Type}

/-! ## The rows of a document -/

/-- Whether a document is stored as it is, in the mode of the job. -/
def Job.isSettled (job : Job) (tables : Tables V W) (document : LoadedDocument) : Bool :=
  (existingIndexingMode tables job.tenantId document.sourcePath).any
    (·.2 = fingerprint document.contentHash job.indexingMode)

/-- The contexts for the chunks of a document. -/
def contextTexts
    (job : Job)
    (services : Services E V W)
    (document : LoadedDocument)
    (rawChunks : List RawChunk) : List (Option Str) :=
  if job.contextualize then
    rawChunks.zipIdx.map fun positioned =>
      some (Text.strip (services.generate document positioned.2
        (contextualizeMessages document positioned.1)))
  else rawChunks.map fun _ => none

/-- The search texts for the chunks of a document. -/
def searchTextsOf
    (job : Job)
    (services : Services E V W)
    (document : LoadedDocument)
    (rawChunks : List RawChunk) : List Str :=
  buildSearchTexts rawChunks (contextTexts job services document rawChunks)

/-- The row holds the chunk at a position, with what belongs to that position. -/
structure IsChunkAt
    (job : Job)
    (services : Services E V W)
    (document : LoadedDocument)
    (rawChunks : List RawChunk)
    (positioned : RawChunk × Nat)
    (row : ChunkRow V W) : Prop where
  /-- It is a chunk of the new document. -/
  documentId : row.documentId = services.newId document
  /-- It belongs to the tenant. -/
  tenantId : row.tenantId = job.tenantId
  /-- Its number is the position. -/
  ordinal : row.ordinal = positioned.2
  /-- Its text is that of the chunk. -/
  text : row.text = positioned.1.text
  /-- Its context is the one for the position. -/
  context : (contextTexts job services document rawChunks)[positioned.2]? =
    some row.context
  /-- Its vector is the one for the position. -/
  embedding : ∃ vector,
    (services.embedMany document
      (searchTextsOf job services document rawChunks))[positioned.2]? = some vector ∧
      services.server.castVector vector = some row.embedding
  /-- Its lexemes are those of the search text for the position. -/
  searchVector : ∃ searchText,
    (searchTextsOf job services document rawChunks)[positioned.2]? = some searchText ∧
      row.searchVector = services.server.toTsvector searchText

/-- The rows are those of a document: its own, and one for each of its chunks in their
order. -/
structure Indexed
    (functions : Functions)
    (job : Job)
    (services : Services E V W)
    (document : LoadedDocument)
    (rawChunks : List RawChunk)
    (row : DocumentRow)
    (chunks : List (ChunkRow V W)) : Prop where
  /-- The row of the document. -/
  row_eq : row = job.documentRow services document
  /-- The chunks the text is divided into. -/
  chunked : functions.chunkDocument document.docType document.content = .ok rawChunks
  /-- The rows of the chunks. -/
  chunk_at : List.Forall₂ (IsChunkAt job services document rawChunks)
    rawChunks.zipIdx chunks

/-- The tables with a document in the place of an outdated one. -/
def Stored
    (functions : Functions)
    (job : Job)
    (services : Services E V W)
    (document : LoadedDocument)
    (before after : Tables V W) : Prop :=
  ∃ rawChunks row chunks, Indexed functions job services document rawChunks row chunks ∧
    job.isSettled before document = false ∧
    row.id ∉ (before.clear row.tenantId row.sourcePath).documents.map (·.id) ∧
    after = before.replace row chunks

/-! ## Awaits inside a transaction -/

/-- The committed rows and the counters are as before, and the rows of the transaction
as described. -/
structure Inside
    (before : Tables V W)
    (stats : Stats)
    (about : Tables V W → Prop)
    (world : World V W) : Prop where
  /-- The committed rows. -/
  durable : world.durable = before
  /-- The rows of the transaction. -/
  working : about world.working
  /-- The counters. -/
  counted : world.stats = stats

/-- An ending that, when it is an exception, leaves the committed rows alone. -/
def ending (before : Tables V W) (next : α → World V W → Prop) :
    Post (World V W) Empty Str α :=
  ⟨next, fun _ _ => True, fun _ world => world.durable = before⟩

section Awaits

variable
  {before : Tables V W}
  {stats : Stats}
  {about : Tables V W → Prop}

theorem triple_awaitValue (result : α) :
    Triple (Inside before stats about) (awaitValue result)
      (ending before fun given world => given = result ∧
        Inside before stats about world) := by
  refine Triple.await fun fate world inside => ?_
  cases fate with
  | completes => exact ⟨rfl, inside⟩
  | stops reason tookEffect => exact inside.durable

theorem triple_query (view : Tables V W → α) :
    Triple (Inside before stats (· = before)) (query view)
      (ending before fun given world => given = view before ∧
        Inside before stats (· = before) world) := by
  refine Triple.await fun fate world inside => ?_
  cases fate with
  | completes => exact ⟨congrArg view inside.working, inside⟩
  | stops reason tookEffect => exact inside.durable

/-- A statement leaves what it leaves of described rows. -/
theorem triple_execute
    {statement : Tables V W → Except Str (Tables V W)}
    {followed : Tables V W → Prop}
    (accepted : ∀ working after, about working → statement working = .ok after →
      followed after) :
    Triple (Inside before stats about) (execute statement)
      (ending before fun _ => Inside before stats followed) := by
  refine Triple.await fun fate world inside => ?_
  cases fate with
  | completes =>
      dsimp only
      cases ran : statement world.working with
      | ok after => exact ⟨inside.durable, accepted _ _ inside.working ran, inside.counted⟩
      | error name => exact inside.durable
  | stops reason tookEffect => exact inside.durable

/-! ## The chunks of a document -/

variable
  (functions : Functions)
  (job : Job)
  (services : Services E V W)
  (document : LoadedDocument)

theorem triple_contextsFrom (position : Nat) (rawChunks : List RawChunk) :
    Triple (Inside before stats about)
      (contextsFrom services document position rawChunks)
      (ending before fun contexts world =>
        contexts = (rawChunks.zipIdx position).map (fun positioned =>
          some (Text.strip (services.generate document positioned.2
            (contextualizeMessages document positioned.1)))) ∧
        Inside before stats about world) := by
  induction rawChunks generalizing position with
  | nil => exact Triple.value fun _ inside => ⟨rfl, inside⟩
  | cons chunk rest inductionHypothesis =>
      refine Triple.andThen _ (triple_awaitValue _) fun context => ?_
      rw [List.zipIdx_cons, List.map_cons]
      refine Triple.given fun same => ?_
      refine Triple.andThen _ (inductionHypothesis (position + 1)) fun contexts => ?_
      refine Triple.given fun others => ?_
      refine Triple.value fun world inside => ⟨?_, inside⟩
      rw [same, others]

theorem triple_contextsOf (rawChunks : List RawChunk) :
    Triple (Inside before stats about) (contextsOf job services document rawChunks)
      (ending before fun contexts world =>
        contexts = contextTexts job services document rawChunks ∧
        Inside before stats about world) := by
  unfold contextsOf contextTexts
  cases job.contextualize with
  | true => exact triple_contextsFrom services document 0 rawChunks
  | false => exact Triple.value fun _ inside => ⟨rfl, inside⟩

/-- The row is the one a chunk is stored as. -/
def StoredAs (server : Server E V W) (chunk : ChunkUpsert E) (row : ChunkRow V W) : Prop :=
  ∃ embedding, server.castVector chunk.embedding = some embedding ∧
    row = Tables.chunkRow server chunk embedding

/-- Storing the chunks of a document that has none adds a row for each of them. -/
theorem triple_upsertChunks
    {base : Tables V W}
    {documentId : Uuid}
    {chunks : List (ChunkUpsert E)}
    (ofDocument : ∀ chunk ∈ chunks, chunk.documentId = documentId)
    (distinct : (chunks.map (·.ordinal)).Nodup)
    (fresh : base.chunksOf documentId = []) :
    Triple (Inside before stats (· = base)) (upsertChunks job services chunks)
      (ending before fun _ => Inside before stats fun working => ∃ rows,
        List.Forall₂ (StoredAs services.server) chunks rows ∧
        working = { base with chunks := base.chunks ++ rows }) := by
  have start : ∀ world, Inside before stats (· = base) world →
      Inside before stats (fun working => ∃ rows,
        List.Forall₂ (StoredAs services.server) [] rows ∧
        working = { base with chunks := base.chunks ++ rows }) world := by
    intro world inside
    refine ⟨inside.durable, ⟨[], .nil, ?_⟩, inside.counted⟩
    rw [inside.working, List.append_nil]
  unfold upsertChunks
  split
  · rename_i none
    rw [List.isEmpty_iff.mp none]
    exact Triple.value start
  · refine Triple.weaken ?_ start
    refine Triple.forEachDone (fun done => Inside before stats fun working => ∃ rows,
      List.Forall₂ (StoredAs services.server) done rows ∧
      working = { base with chunks := base.chunks ++ rows }) ?_
    intro done chunk rest split
    apply triple_execute
    rintro working after ⟨rows, paired, rfl⟩ upserted
    have ordinals : rows.map (·.ordinal) = done.map (·.ordinal) :=
      Traversal.map_eq_of_forall₂ (fun _ _ ⟨_, _, same⟩ => by rw [same]; rfl) paired
    have noConflict : ∀ held ∈ base.chunks ++ rows,
        ¬ (held.documentId = chunk.documentId ∧ held.ordinal = chunk.ordinal) := by
      rintro held present ⟨sameDocument, sameOrdinal⟩
      rcases List.mem_append.mp present with old | new
      · have isOf : held ∈ base.chunksOf documentId := by
          refine List.mem_filter.mpr ⟨old, decide_eq_true ?_⟩
          rw [sameDocument, ofDocument chunk (by simp [split])]
        rw [fresh] at isOf
        cases isOf
      · have taken : chunk.ordinal ∈ done.map (·.ordinal) := by
          rw [← ordinals, ← sameOrdinal]
          exact List.mem_map_of_mem new
        rw [split, List.map_append, List.map_cons, List.nodup_append] at distinct
        exact distinct.2.2 _ taken _ List.mem_cons_self rfl
    obtain ⟨embedding, accepted, rfl⟩ := Tables.upsertChunk_ok upserted noConflict
    refine ⟨rows ++ [Tables.chunkRow services.server chunk embedding], ?_, ?_⟩
    · exact List.rel_append paired (.cons ⟨embedding, accepted, rfl⟩ .nil)
    · rw [List.append_assoc]

/-- A chunk made for a position is stored as the chunk of that position. -/
theorem isChunkAt_of_stored
    {rawChunks : List RawChunk}
    {positioned : RawChunk × Nat}
    {chunk : ChunkUpsert E}
    {row : ChunkRow V W}
    (made : job.chunkUpsert services document
      (contextTexts job services document rawChunks)
      (services.embedMany document (searchTextsOf job services document rawChunks))
      (searchTextsOf job services document rawChunks) positioned = .ok chunk)
    (stored : StoredAs services.server chunk row) :
    IsChunkAt job services document rawChunks positioned row := by
  obtain ⟨embedding, accepted, rfl⟩ := stored
  unfold Job.chunkUpsert at made
  split at made
  · rename_i context vector searchText atContext atVector atSearchText
    cases made
    exact {
      documentId := rfl
      tenantId := rfl
      ordinal := rfl
      text := rfl
      context := atContext
      embedding := ⟨vector, atVector, accepted⟩
      searchVector := ⟨searchText, atSearchText, rfl⟩ }
  · cases made

/-- The chunk made for a position belongs to the document and has the position as its
number. -/
theorem chunkUpsert_ok
    {contexts : List (Option Str)}
    {vectors : List E}
    {searchTexts : List Str}
    {positioned : RawChunk × Nat}
    {chunk : ChunkUpsert E}
    (made : job.chunkUpsert services document contexts vectors searchTexts positioned =
      .ok chunk) :
    chunk.documentId = services.newId document ∧ chunk.ordinal = positioned.2 := by
  unfold Job.chunkUpsert at made
  split at made
  · cases made
    exact ⟨rfl, rfl⟩
  · cases made

/-- Storing the chunks of a new document adds their rows and counts them. -/
theorem triple_storeChunks
    {base : Tables V W}
    (rawChunks : List RawChunk)
    (fresh : base.chunksOf (services.newId document) = []) :
    Triple (Inside before stats (· = base)) (storeChunks job services document rawChunks)
      (ending before fun _ => Inside before (stats.ingest rawChunks.length) fun working =>
        ∃ rows, List.Forall₂ (IsChunkAt job services document rawChunks)
          rawChunks.zipIdx rows ∧
        working = { base with chunks := base.chunks ++ rows }) := by
  refine Triple.andThen _ (triple_contextsOf job services document rawChunks) ?_
  refine fun contexts => Triple.given fun sameContexts => ?_
  subst sameContexts
  refine Triple.andThen _ (triple_awaitValue _) fun vectors => Triple.given fun same => ?_
  subst same
  split
  · exact Triple.raise fun _ inside => inside.durable
  · rename_i chunks made
    have paired := Traversal.forall₂_of_mapM made
    have ofDocument : ∀ chunk ∈ chunks, chunk.documentId = services.newId document := by
      intro chunk held
      obtain ⟨positioned, _, madeAt⟩ := Traversal.exists_left_of_mem paired held
      exact (chunkUpsert_ok job services document madeAt).1
    have ordinals : chunks.map (·.ordinal) = rawChunks.zipIdx.map Prod.snd := by
      refine Traversal.map_eq_of_forall₂ (fun positioned chunk madeAt => ?_) paired
      exact (chunkUpsert_ok job services document madeAt).2
    have distinct : (chunks.map (·.ordinal)).Nodup := by
      rw [ordinals, List.zipIdx_map_snd]
      exact List.nodup_range'
    refine Triple.andThen _
      (triple_upsertChunks job services ofDocument distinct fresh) fun _ => ?_
    refine Triple.modify fun world inside => ?_
    obtain ⟨rows, stored, working⟩ := inside.working
    refine ⟨inside.durable, ⟨rows, ?_, working⟩,
      congrArg (Stats.ingest · rawChunks.length) inside.counted⟩
    refine Traversal.forall₂_comp (fun positioned chunk row madeAt storedAs => ?_)
      paired stored
    exact isChunkAt_of_stored job services document madeAt storedAs

/-- Storing a document where its source path is clear puts it there. -/
theorem triple_storeDocument
    (sound : before.Sound)
    (unsettled : job.isSettled before document = false) :
    Triple (Inside before stats (· = before.clear job.tenantId document.sourcePath))
      (storeDocument functions job services document)
      (ending before fun _ world => ∃ chunks,
        Inside before (stats.ingest chunks)
          (Stored functions job services document before) world) := by
  let row := job.documentRow services document
  let cleared := before.clear job.tenantId document.sourcePath
  refine Triple.andThen (fun _ => Inside before stats fun working =>
    row.id ∉ cleared.documents.map (·.id) ∧
    working = { cleared with documents := cleared.documents ++ [row] })
    (triple_execute ?_) fun _ => ?_
  · rintro working after rfl inserted
    exact (Tables.insertDocument_ok inserted).symm
  · refine Triple.weaken (Triple.given fun fresh => ?_) fun world inside =>
      (⟨inside.working.1, inside.durable, inside.working.2, inside.counted⟩ :
        row.id ∉ cleared.documents.map (·.id) ∧ Inside before stats (· =
          { cleared with documents := cleared.documents ++ [row] }) world)
    cases chunked : functions.chunkDocument document.docType document.content with
    | error name => exact Triple.raise fun _ inside => inside.durable
    | ok rawChunks =>
        have stores : ∀ rows,
            List.Forall₂ (IsChunkAt job services document rawChunks)
              rawChunks.zipIdx rows →
            Stored functions job services document before
              { cleared with
                documents := cleared.documents ++ [row]
                chunks := cleared.chunks ++ rows } :=
          fun rows paired =>
            ⟨rawChunks, row, rows, ⟨rfl, chunked, paired⟩, unsettled, fresh, rfl⟩
        cases rawChunks with
        | nil =>
            refine Triple.modify fun world inside => ?_
            refine ⟨0, inside.durable, ?_, congrArg (Stats.ingest · 0) inside.counted⟩
            have nothing := stores [] .nil
            rw [List.append_nil] at nothing
            exact inside.working ▸ nothing
        | cons first rest =>
            have noChunks : Tables.chunksOf
                { cleared with documents := cleared.documents ++ [row] }
                (services.newId document) = [] :=
              @Tables.chunksOf_clear_of_fresh _ _ _ row sound fresh
            refine Triple.conclude
              (triple_storeChunks job services document (first :: rest) noChunks) ?_
              (fun _ _ _ => trivial) fun _ _ durable => durable
            rintro _ world ⟨durable, ⟨rows, paired, working⟩, counted⟩
            exact ⟨_, durable, working ▸ stores rows paired, counted⟩

/-! ## The transaction of a document -/

/-- A transaction makes the rows of its body durable, or leaves the committed rows
alone. -/
theorem triple_inTransaction
    {body : IngestProgram V W Unit}
    {left : Tables V W → Stats → Prop}
    (bodyTriple : Triple (Inside before stats (· = before)) body
      (ending before fun _ world => world.durable = before ∧
        left world.working world.stats)) :
    Triple (fun world => world.durable = before ∧ world.stats = stats)
      (inTransaction body)
      ⟨fun _ world => left world.durable world.stats, fun _ _ => True,
        fun _ world => world.durable = before ∨ ∃ stats, left world.durable stats⟩ := by
  have committed : Triple (fun world : World V W => world.durable = before ∧
        left world.working world.stats) commit
      ⟨fun _ world => left world.durable world.stats, fun _ _ => True,
        fun _ world => world.durable = before ∨ ∃ stats, left world.durable stats⟩ := by
    refine Triple.await fun fate world finished => ?_
    cases fate with
    | completes => exact finished.2
    | stops reason tookEffect =>
        cases tookEffect with
        | true => exact Or.inr ⟨world.stats, finished.2⟩
        | false => exact Or.inl finished.1
  have begun : Triple (fun world : World V W => world.durable = before ∧
        world.stats = stats) begin
      ⟨fun _ => Inside before stats (· = before), fun _ _ => True,
        fun _ world => world.durable = before ∨ ∃ stats, left world.durable stats⟩ := by
    refine Triple.await fun fate world given => ?_
    cases fate with
    | completes => exact ⟨given.1, given.1, given.2⟩
    | stops reason tookEffect => exact Or.inl given.1
  have rolledBack : Triple (fun world : World V W => world.durable = before) rollback
      ⟨fun _ world => world.durable = before ∨ ∃ stats, left world.durable stats,
        fun _ _ => True,
        fun _ world => world.durable = before ∨ ∃ stats, left world.durable stats⟩ := by
    refine Triple.await fun fate world durable => ?_
    cases fate with
    | completes => exact Or.inl durable
    | stops reason tookEffect => exact Or.inl durable
  have closed : ∀ {given next : World V W → Prop},
      (∀ world, given world → next world) →
      (∀ world, given world →
        world.durable = before ∨ ∃ stats, left world.durable stats) →
      Triple given (awaitValue ())
        ⟨fun _ => next, fun _ _ => True,
          fun _ world => world.durable = before ∨ ∃ stats, left world.durable stats⟩ := by
    intro given next goesOn stops
    refine Triple.await fun fate world holds => ?_
    cases fate with
    | completes => exact goesOn world holds
    | stops reason tookEffect => exact stops world holds
  refine Triple.within (fun world => world.durable = before ∧ world.stats = stats)
    ⟨fun _ world => left world.durable world.stats, fun _ _ => True,
      fun _ world => world.durable = before ∨ ∃ stats, left world.durable stats⟩
    (Triple.value fun _ given => given) ?_ ?_ (fun nothing => nothing.elim) ?_
  · exact Triple.within _ _ begun bodyTriple (fun _ => committed)
      (fun nothing => nothing.elim) fun _ => rolledBack
  · exact fun _ => closed (fun _ holds => holds) fun _ holds => Or.inr ⟨_, holds⟩
  · exact fun _ => closed (fun _ holds => holds) fun _ holds => holds

/-- A settled document is one whose fingerprint need not change. -/
theorem isSettled_of_existing
    {existing : Uuid × Str}
    (found : existingIndexingMode before job.tenantId document.sourcePath =
      some existing) :
    job.isSettled before document = !shouldReindex (some existing.2)
      (fingerprint document.contentHash job.indexingMode) := by
  unfold Job.isSettled shouldReindex
  rw [found, Option.any_some]
  simp

/-- What the transaction of a document leaves when it goes on: a settled document is
skipped, any other one is stored. -/
def Finished
    (before : Tables V W)
    (stats : Stats)
    (after : Tables V W)
    (counted : Stats) : Prop :=
  (job.isSettled before document = true ∧ after = before ∧ counted = stats.skip) ∨
    (Stored functions job services document before after ∧
      ∃ chunks, counted = stats.ingest chunks)

/-- The transaction of a document, from sound tables. -/
theorem triple_ingestDocument (sound : before.Sound) (stats : Stats) :
    Triple (fun world => world.durable = before ∧ world.stats = stats)
      (ingestDocument functions job services document)
      ⟨fun _ world => Finished functions job services document before stats
          world.durable world.stats,
        fun _ _ => True,
        fun _ world => world.durable = before ∨
          ∃ counted, Finished functions job services document before stats
            world.durable counted⟩ := by
  have stores : job.isSettled before document = false →
      Triple (Inside before stats (· = before.clear job.tenantId document.sourcePath))
        (storeDocument functions job services document)
        (ending before fun _ world => world.durable = before ∧
          Finished functions job services document before stats
            world.working world.stats) := by
    intro unsettled
    refine Triple.conclude
      (triple_storeDocument functions job services document sound unsettled) ?_
      (fun _ _ _ => trivial) fun _ _ durable => durable
    rintro _ world ⟨chunks, inside⟩
    exact ⟨inside.durable, Or.inr ⟨inside.working, chunks, inside.counted⟩⟩
  refine triple_inTransaction (Triple.andThen _ (triple_query _) fun existing => ?_)
  refine Triple.given fun found => ?_
  cases existing with
  | none =>
      have nothing : before.documentsAt job.tenantId document.sourcePath = [] :=
        Tables.selectDocument_none (Option.map_eq_none_iff.mp found.symm)
      have unsettled : job.isSettled before document = false := by
        unfold Job.isSettled
        rw [← found]
        rfl
      refine Triple.weaken (stores unsettled) fun world inside => ?_
      exact ⟨inside.durable, inside.working.trans (Tables.clear_of_none nothing).symm,
        inside.counted⟩
  | some existing =>
      have settledIff := isSettled_of_existing job document found.symm
      obtain ⟨row, selected, same⟩ := Option.map_eq_some_iff.mp found.symm
      obtain ⟨held, sameTenant, samePath, _⟩ := Tables.selectDocument_some sound selected
      dsimp only
      split
      · rename_i unchanged
        refine Triple.modify fun world inside => ⟨inside.durable, Or.inl ?_⟩
        exact ⟨settledIff.trans unchanged, inside.working,
          congrArg Stats.skip inside.counted⟩
      · rename_i changed
        have unsettled : job.isSettled before document = false :=
          settledIff.trans (Bool.not_eq_true _ ▸ changed)
        refine Triple.andThen (fun _ => Inside before stats
          (· = before.clear job.tenantId document.sourcePath))
          (triple_execute ?_) fun _ => stores unsettled
        rintro working after rfl deleted
        cases deleted
        have cleared := Tables.deleteDocument_eq_clear sound held
        rw [sameTenant, samePath] at cleared
        rw [← cleared, ← same]

end Awaits

end Ingest
end ChatPlatform
