import ChatPlatform.Foundation.Keyed
import ChatPlatform.Ingest.Store

/-!
# What the statements of the ingestion do together

On sound tables, deleting the selected document clears its source path, inserting a
document and then its chunks puts them in the place of what was there, and everything
under other source paths stays as it was.
-/

namespace ChatPlatform
namespace Ingest
namespace Tables

variable {E V W : Type} {tables : Tables V W}

/-! ## Sound tables -/

/-- A source path has one document at most. -/
theorem Sound.documentsAt_eq
    (sound : tables.Sound)
    {row : DocumentRow}
    (held : row ∈ tables.documents) :
    tables.documentsAt row.tenantId row.sourcePath = [row] := by
  calc tables.documentsAt row.tenantId row.sourcePath
      = tables.documents.filter (fun other =>
          (other.tenantId, other.sourcePath) = (row.tenantId, row.sourcePath)) := by
        apply List.filter_congr
        intro other _
        rw [Bool.eq_iff_iff, other.isAt_iff, decide_eq_true_eq, Prod.mk.injEq]
    _ = [row] := Keyed.filter_key_eq sound.distinctPaths held

/-- The selected document is the one of its source path. -/
theorem selectDocument_some
    (sound : tables.Sound)
    {tenantId sourcePath : Str}
    {row : DocumentRow}
    (selected : tables.selectDocument tenantId tenantId sourcePath = some row) :
    row ∈ tables.documents ∧ row.tenantId = tenantId ∧ row.sourcePath = sourcePath ∧
      tables.documentsAt tenantId sourcePath = [row] := by
  unfold selectDocument at selected
  have held := (List.mem_filter.mp (List.mem_of_find?_eq_some selected)).1
  have matched := List.find?_some selected
  obtain ⟨rfl, rfl⟩ := (row.isAt_iff tenantId sourcePath).mp matched
  exact ⟨held, rfl, rfl, sound.documentsAt_eq held⟩

/-- Nothing is selected where there is nothing. -/
theorem selectDocument_none
    {tenantId sourcePath : Str}
    (selected : tables.selectDocument tenantId tenantId sourcePath = none) :
    tables.documentsAt tenantId sourcePath = [] := by
  unfold selectDocument at selected
  unfold documentsAt
  rw [List.filter_eq_nil_iff]
  intro row held matched
  rw [List.find?_eq_none] at selected
  have sameTenant := ((row.isAt_iff _ _).mp matched).1
  exact selected row (List.mem_filter.mpr ⟨held, decide_eq_true sameTenant⟩) matched

/-! ## Clearing a source path -/

/-- Where there is nothing, there is nothing to clear. -/
theorem clear_of_none
    {tenantId sourcePath : Str}
    (nothing : tables.documentsAt tenantId sourcePath = []) :
    tables.clear tenantId sourcePath = tables := by
  have keptDocuments : (tables.clear tenantId sourcePath).documents = tables.documents := by
    unfold documentsAt at nothing
    rw [List.filter_eq_nil_iff] at nothing
    apply List.filter_eq_self.mpr
    intro row held
    rw [Bool.not_eq_true', ← Bool.not_eq_true]
    exact nothing row held
  have keptChunks : (tables.clear tenantId sourcePath).chunks = tables.chunks := by
    unfold clear
    rw [nothing]
    simp
  cases tables
  exact congrArg₂ Tables.mk keptDocuments keptChunks

/-- Deleting the document of a source path clears it. -/
theorem deleteDocument_eq_clear
    (sound : tables.Sound)
    {row : DocumentRow}
    (held : row ∈ tables.documents) :
    tables.deleteDocument row.tenantId row.id =
      tables.clear row.tenantId row.sourcePath := by
  have same : ∀ other ∈ tables.documents,
      (other.tenantId = row.tenantId && other.id = row.id) =
        other.isAt row.tenantId row.sourcePath := by
    intro other otherHeld
    rw [Bool.eq_iff_iff, other.isAt_iff, Bool.and_eq_true, decide_eq_true_eq,
      decide_eq_true_eq]
    constructor
    · rintro ⟨_, sameId⟩
      rw [List.inj_on_of_nodup_map sound.distinctIds otherHeld held sameId]
      exact ⟨rfl, rfl⟩
    · rintro ⟨sameTenant, samePath⟩
      rw [List.inj_on_of_nodup_map sound.distinctPaths otherHeld held
        (Prod.ext sameTenant samePath)]
      exact ⟨rfl, rfl⟩
  have deleted : tables.documents.filter (fun other =>
        other.tenantId = row.tenantId && other.id = row.id) =
      tables.documentsAt row.tenantId row.sourcePath :=
    List.filter_congr same
  have kept : tables.documents.filter (fun other =>
        !(other.tenantId = row.tenantId && other.id = row.id)) =
      (tables.clear row.tenantId row.sourcePath).documents := by
    apply List.filter_congr
    intro other otherHeld
    rw [same other otherHeld]
  unfold deleteDocument
  rw [kept, deleted]
  rfl

/-- Clearing keeps tables sound. -/
theorem Sound.clear
    (sound : tables.Sound)
    (tenantId sourcePath : Str) : (tables.clear tenantId sourcePath).Sound where
  distinctIds := sound.distinctIds.sublist (List.filter_sublist.map DocumentRow.id)
  distinctPaths := sound.distinctPaths.sublist (List.filter_sublist.map _)
  owned := by
    intro chunk held
    obtain ⟨inTables, kept⟩ := List.mem_filter.mp held
    obtain ⟨row, rowHeld, sameId, sameTenant⟩ := sound.owned chunk inTables
    refine ⟨row, List.mem_filter.mpr ⟨rowHeld, ?_⟩, sameId, sameTenant⟩
    rw [Bool.not_eq_true', ← Bool.not_eq_true] at kept ⊢
    intro matched
    apply kept
    rw [List.contains_iff_mem, ← sameId]
    exact List.mem_map_of_mem (List.mem_filter.mpr ⟨rowHeld, matched⟩)

/-- A cleared source path has nothing. -/
theorem documentsAt_clear_self (tenantId sourcePath : Str) :
    (tables.clear tenantId sourcePath).documentsAt tenantId sourcePath = [] := by
  unfold documentsAt clear
  rw [List.filter_filter, List.filter_eq_nil_iff]
  intro row _
  simp

/-- Clearing leaves the documents of another source path. -/
theorem documentsAt_clear_other
    {tenantId sourcePath otherTenant otherPath : Str}
    (other : (otherTenant, otherPath) ≠ (tenantId, sourcePath)) :
    (tables.clear tenantId sourcePath).documentsAt otherTenant otherPath =
      tables.documentsAt otherTenant otherPath := by
  unfold documentsAt clear
  rw [List.filter_filter]
  apply List.filter_congr
  intro row _
  rw [Bool.and_eq_left_iff_imp, row.isAt_iff]
  rintro ⟨rfl, rfl⟩
  rw [Bool.not_eq_true', ← Bool.not_eq_true, row.isAt_iff]
  rintro ⟨sameTenant, samePath⟩
  exact other (Prod.ext sameTenant samePath)

/-- Clearing leaves the chunks of a document under another source path. -/
theorem chunksOf_clear_other
    (sound : tables.Sound)
    {tenantId sourcePath : Str}
    {row : DocumentRow}
    (held : row ∈ tables.documents)
    (other : (row.tenantId, row.sourcePath) ≠ (tenantId, sourcePath)) :
    (tables.clear tenantId sourcePath).chunksOf row.id = tables.chunksOf row.id := by
  unfold chunksOf clear
  rw [List.filter_filter]
  apply List.filter_congr
  intro chunk _
  by_cases sameId : chunk.documentId = row.id
  · have notCleared : chunk.documentId ∉
        (tables.documentsAt tenantId sourcePath).map (·.id) := by
      intro inCleared
      obtain ⟨cleared, matched, clearedId⟩ := List.mem_map.mp inCleared
      obtain ⟨clearedHeld, clearedAt⟩ := List.mem_filter.mp matched
      have same := List.inj_on_of_nodup_map sound.distinctIds clearedHeld held
        (clearedId.trans sameId)
      rw [same, row.isAt_iff] at clearedAt
      exact other (Prod.ext clearedAt.1 clearedAt.2)
    rw [Bool.and_eq_left_iff_imp]
    intro _
    simpa [List.contains_iff_mem] using notCleared
  · rw [decide_eq_false sameId, Bool.false_and]

/-! ## Inserting -/

/-- What inserting a document did. -/
theorem insertDocument_ok
    {scope : Str}
    {row : DocumentRow}
    {after : Tables V W}
    (inserted : tables.insertDocument scope row = .ok after) :
    after = { tables with documents := tables.documents ++ [row] } ∧
      row.id ∉ tables.documents.map (·.id) := by
  unfold insertDocument at inserted
  split at inserted
  · cases inserted
  · split at inserted
    · cases inserted
    · split at inserted
      · cases inserted
      · rename_i fresh
        split at inserted
        · cases inserted
        · cases inserted
          refine ⟨rfl, fun taken => fresh ?_⟩
          obtain ⟨held, inTables, same⟩ := List.mem_map.mp taken
          exact List.any_eq_true.mpr ⟨held, inTables, by simpa using same⟩

/-- What storing a chunk of a new ordinal did. -/
theorem upsertChunk_ok
    {server : Server E V W}
    {scope : Str}
    {chunk : ChunkUpsert E}
    {after : Tables V W}
    (upserted : tables.upsertChunk server scope chunk = .ok after)
    (fresh : ∀ held ∈ tables.chunks,
      ¬ (held.documentId = chunk.documentId ∧ held.ordinal = chunk.ordinal)) :
    ∃ embedding, server.castVector chunk.embedding = some embedding ∧
      after = { tables with
        chunks := tables.chunks ++ [chunkRow server chunk embedding] } := by
  have noConflict : ¬ (tables.chunks.any fun held =>
      held.documentId = chunk.documentId && held.ordinal = chunk.ordinal) = true := by
    intro conflict
    obtain ⟨held, inTables, same⟩ := List.any_eq_true.mp conflict
    exact fresh held inTables (by simpa using same)
  unfold upsertChunk at upserted
  split at upserted
  · cases upserted
  · split at upserted
    · cases upserted
    · split at upserted
      · cases upserted
      · rename_i embedding accepted
        dsimp only at upserted
        split at upserted
        · cases upserted
        · split at upserted
          · cases upserted
          · cases upserted
            exact ⟨embedding, accepted, rfl⟩

/-! ## Replacing -/

section Replace

variable
  {row : DocumentRow}
  {chunks : List (ChunkRow V W)}

/-- Replacing keeps tables sound. -/
theorem Sound.replace
    (sound : tables.Sound)
    (fresh : row.id ∉ (tables.clear row.tenantId row.sourcePath).documents.map (·.id))
    (ofRow : ∀ chunk ∈ chunks, chunk.documentId = row.id ∧ chunk.tenantId = row.tenantId) :
    (tables.replace row chunks).Sound := by
  have cleared := sound.clear row.tenantId row.sourcePath
  constructor
  · have distinct : ((tables.clear row.tenantId row.sourcePath).documents.map (·.id) ++
        [row.id]).Nodup :=
      List.nodup_append.mpr ⟨cleared.distinctIds, List.nodup_singleton _, by
        intro left leftHeld right rightHeld same
        exact fresh (List.mem_singleton.mp rightHeld ▸ same ▸ leftHeld)⟩
    simpa [Tables.replace] using distinct
  · have pathFree : (row.tenantId, row.sourcePath) ∉
        (tables.clear row.tenantId row.sourcePath).documents.map
          fun held => (held.tenantId, held.sourcePath) := by
      intro taken
      obtain ⟨held, inCleared, same⟩ := List.mem_map.mp taken
      have matched : held ∈ (tables.clear row.tenantId row.sourcePath).documentsAt
          row.tenantId row.sourcePath :=
        List.mem_filter.mpr ⟨inCleared, (held.isAt_iff _ _).mpr
          ⟨congrArg Prod.fst same, congrArg Prod.snd same⟩⟩
      rw [documentsAt_clear_self] at matched
      cases matched
    have distinct : ((tables.clear row.tenantId row.sourcePath).documents.map
        (fun held => (held.tenantId, held.sourcePath)) ++
          [(row.tenantId, row.sourcePath)]).Nodup :=
      List.nodup_append.mpr ⟨cleared.distinctPaths, List.nodup_singleton _, by
        intro left leftHeld right rightHeld same
        exact pathFree (List.mem_singleton.mp rightHeld ▸ same ▸ leftHeld)⟩
    simpa [Tables.replace] using distinct
  · intro chunk held
    rcases List.mem_append.mp held with inCleared | isNew
    · obtain ⟨owner, ownerHeld, owns⟩ := cleared.owned chunk inCleared
      exact ⟨owner, List.mem_append_left _ ownerHeld, owns⟩
    · obtain ⟨sameId, sameTenant⟩ := ofRow chunk isNew
      exact ⟨row, List.mem_append_right _ (List.mem_singleton_self row), sameId.symm,
        sameTenant.symm⟩

/-- Chunks that stay are those of documents that stay. -/
theorem chunksOf_clear_of_fresh
    (sound : tables.Sound)
    (fresh : row.id ∉ (tables.clear row.tenantId row.sourcePath).documents.map (·.id)) :
    (tables.clear row.tenantId row.sourcePath).chunksOf row.id = [] := by
  unfold chunksOf
  rw [List.filter_eq_nil_iff]
  intro chunk held same
  obtain ⟨owner, ownerHeld, ownerId, _⟩ :=
    (sound.clear row.tenantId row.sourcePath).owned chunk held
  apply fresh
  rw [← of_decide_eq_true same, ← ownerId]
  exact List.mem_map_of_mem ownerHeld

/-- The source path has the new document with the new chunks. -/
theorem holdings_replace_self
    (sound : tables.Sound)
    (fresh : row.id ∉ (tables.clear row.tenantId row.sourcePath).documents.map (·.id))
    (ofRow : ∀ chunk ∈ chunks, chunk.documentId = row.id ∧ chunk.tenantId = row.tenantId) :
    (tables.replace row chunks).holdings row.tenantId row.sourcePath =
      [(row, chunks)] := by
  have document : (tables.replace row chunks).documentsAt row.tenantId row.sourcePath =
      [row] := by
    calc (tables.replace row chunks).documentsAt row.tenantId row.sourcePath
        = (tables.clear row.tenantId row.sourcePath).documentsAt row.tenantId
            row.sourcePath ++ [row] := by
          have isRow : [row].filter (·.isAt row.tenantId row.sourcePath) = [row] :=
            List.filter_cons_of_pos ((row.isAt_iff _ _).mpr ⟨rfl, rfl⟩)
          unfold documentsAt Tables.replace
          rw [List.filter_append, isRow]
      _ = [row] := by rw [documentsAt_clear_self, List.nil_append]
  have chunksKept : chunks.filter (·.documentId = row.id) = chunks := by
    apply List.filter_eq_self.mpr
    intro chunk held
    simpa using (ofRow chunk held).1
  have its : (tables.replace row chunks).chunksOf row.id = chunks := by
    calc (tables.replace row chunks).chunksOf row.id
        = (tables.clear row.tenantId row.sourcePath).chunksOf row.id ++
            chunks.filter (·.documentId = row.id) := List.filter_append ..
      _ = chunks := by
          rw [chunksOf_clear_of_fresh sound fresh, chunksKept, List.nil_append]
  unfold holdings
  rw [document, List.map_singleton, its]

/-- What is under another source path stays. -/
theorem holdings_replace_other
    (sound : tables.Sound)
    (fresh : row.id ∉ (tables.clear row.tenantId row.sourcePath).documents.map (·.id))
    (ofRow : ∀ chunk ∈ chunks, chunk.documentId = row.id ∧ chunk.tenantId = row.tenantId)
    {tenantId sourcePath : Str}
    (other : (tenantId, sourcePath) ≠ (row.tenantId, row.sourcePath)) :
    (tables.replace row chunks).holdings tenantId sourcePath =
      tables.holdings tenantId sourcePath := by
  have documents : (tables.replace row chunks).documentsAt tenantId sourcePath =
      tables.documentsAt tenantId sourcePath := by
    have notRow : [row].filter (·.isAt tenantId sourcePath) = [] := by
      rw [List.filter_eq_nil_iff]
      intro held isRow matched
      rw [List.mem_singleton.mp isRow, row.isAt_iff] at matched
      exact other (Prod.ext matched.1.symm matched.2.symm)
    calc (tables.replace row chunks).documentsAt tenantId sourcePath
        = (tables.clear row.tenantId row.sourcePath).documentsAt tenantId sourcePath ++
            [row].filter (·.isAt tenantId sourcePath) := List.filter_append ..
      _ = tables.documentsAt tenantId sourcePath := by
          rw [notRow, List.append_nil, documentsAt_clear_other other]
  unfold holdings
  rw [documents]
  apply List.map_congr_left
  intro held matched
  obtain ⟨inTables, isAt⟩ := List.mem_filter.mp matched
  have isOther : (held.tenantId, held.sourcePath) ≠ (row.tenantId, row.sourcePath) := by
    rw [held.isAt_iff] at isAt
    rwa [isAt.1, isAt.2]
  have keptDocument : held ∈ (tables.clear row.tenantId row.sourcePath).documents := by
    refine List.mem_filter.mpr ⟨inTables, ?_⟩
    rw [Bool.not_eq_true', ← Bool.not_eq_true, held.isAt_iff]
    rintro ⟨sameTenant, samePath⟩
    exact isOther (Prod.ext sameTenant samePath)
  have notNew : chunks.filter (·.documentId = held.id) = [] := by
    rw [List.filter_eq_nil_iff]
    intro chunk isNew same
    apply fresh
    rw [← (ofRow chunk isNew).1, of_decide_eq_true same]
    exact List.mem_map_of_mem keptDocument
  have its : (tables.replace row chunks).chunksOf held.id = tables.chunksOf held.id := by
    calc (tables.replace row chunks).chunksOf held.id
        = (tables.clear row.tenantId row.sourcePath).chunksOf held.id ++
            chunks.filter (·.documentId = held.id) := List.filter_append ..
      _ = tables.chunksOf held.id := by
          rw [notNew, List.append_nil, chunksOf_clear_other sound inTables isOther]
  rw [its]

end Replace

end Tables
end Ingest
end ChatPlatform
