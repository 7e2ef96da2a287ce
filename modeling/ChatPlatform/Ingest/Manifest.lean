import ChatPlatform.Foundation.KeySort
import ChatPlatform.Ingest.CrashSafety
import Mathlib.Data.Prod.Lex

/-!
# What the corpus manifest declares

After a run the manifest records the revision, the counts and a digest over the source
paths and content digests of the tenant's documents. No run deletes the documents of
files that are gone, so the manifest describes the revision exactly when no file of an
earlier run is gone.
-/

namespace ChatPlatform
namespace Ingest

open Program

variable {E V W : Type} (functions : Functions)

/-! ## The manifest -/

/-- The digest over the source paths and content digests of a corpus. -/
def contentFingerprint (rows : List (Str × Str)) : Str :=
  functions.sha256Hex (Text.join "\n".toList
    ((rows.insertionSort fun left right => toLex left ≤ toLex right).map fun row =>
      row.1 ++ ":".toList ++ row.2))

/-- The source paths and content digests of the documents a tenant sees. -/
def documentPairs (tables : Tables V W) (tenantId : Str) : List (Str × Str) :=
  (tables.documents.filter (·.tenantId = tenantId)).map fun row =>
    (row.sourcePath, row.contentHash)

/-- The counts, the digest and the mode of the corpus of a tenant; a corpus of several
modes has none to declare. -/
def corpusFingerprint (tables : Tables V W) (tenantId : Str) :
    Except Str (Nat × Nat × Str × Str) :=
  if validateTenant tenantId ≠ tenantId then .error "ValueError".toList
  else
    let documents := tables.documents.filter (·.tenantId = tenantId)
    let chunks := tables.chunks.filter (·.tenantId = tenantId)
    let modes := (documents.map (·.indexingMode)).dedup
    if 1 < modes.length then .error "SystemExit".toList
    else .ok (documents.length, chunks.length,
      contentFingerprint functions (documentPairs tables tenantId),
      modes.headD "plain".toList)

/-- The manifest of a corpus. -/
structure CorpusManifest where
  /-- The commit of the repository. -/
  commit : Str
  /-- When it was written. -/
  ingestedAt : Str
  /-- Number of documents. -/
  documentCount : Nat
  /-- Number of chunks. -/
  chunkCount : Nat
  /-- Digest over the documents. -/
  contentFingerprint : Str
  /-- The mode of the corpus. -/
  indexingMode : Str
  deriving DecidableEq

/-- The manifest the program writes: after a run that completed, of the corpus as it is
then. -/
def writtenManifest
    (job : Job)
    (services : Services E V W)
    (commit ingestedAt : Str)
    (tables : Tables V W)
    (fates : List Fate) : Option CorpusManifest :=
  match (runFrom functions job services tables fates).1 with
  | .next _ =>
      match corpusFingerprint functions (tablesAfter functions job services tables fates)
        job.tenantId with
      | .ok (documentCount, chunkCount, fingerprint, indexingMode) =>
          some ⟨commit, ingestedAt, documentCount, chunkCount, fingerprint, indexingMode⟩
      | .error _ => none
  | _ => none

/-- What a written manifest is. -/
theorem writtenManifest_eq_some
    {functions : Functions}
    {job : Job}
    {services : Services E V W}
    {commit ingestedAt : Str}
    {tables : Tables V W}
    {fates : List Fate}
    {manifest : CorpusManifest}
    (written : writtenManifest functions job services commit ingestedAt tables fates =
      some manifest) :
    (∃ stats, (runFrom functions job services tables fates).1 = .next stats) ∧
      manifest.contentFingerprint = contentFingerprint functions
        (documentPairs (tablesAfter functions job services tables fates)
          job.tenantId) := by
  unfold writtenManifest at written
  split at written
  · rename_i stats completed
    refine ⟨⟨stats, completed⟩, ?_⟩
    unfold corpusFingerprint at written
    split at written
    · rename_i declared
      split at declared
      · cases declared
      · dsimp only at declared
        split at declared
        · cases declared
        · cases declared
          cases written
          rfl
    · cases written
  · cases written

/-- The digest does not depend on the order of the rows. -/
theorem contentFingerprint_perm
    {rows others : List (Str × Str)}
    (rearranged : rows.Perm others) :
    contentFingerprint functions rows = contentFingerprint functions others := by
  unfold contentFingerprint
  rw [KeySort.insertionSort_key_perm (fun _ _ _ _ same => toLex.injective same)
    rearranged]

/-! ## The modes of a corpus -/

/-- The mode of a job has no colon. -/
theorem colon_not_mem_indexingMode (job : Job) : ':' ∉ job.indexingMode := by
  unfold Job.indexingMode
  cases job.contextualize <;> decide

/-- A fingerprint with a mode without colons tells its digest. -/
theorem contentHash_eq_of_fingerprint
    {contentHash otherHash indexingMode otherMode : Str}
    (plain : ':' ∉ indexingMode)
    (otherPlain : ':' ∉ otherMode)
    (same : fingerprint contentHash indexingMode = fingerprint otherHash otherMode) :
    contentHash = otherHash := by
  unfold fingerprint at same
  rw [List.append_assoc, List.append_assoc] at same
  rcases List.append_eq_append_iff.mp same with ⟨extra, rfl, rest⟩ | ⟨extra, rfl, rest⟩
  · cases extra with
    | nil => exact (List.append_nil _).symm
    | cons c extra =>
        have inMode : indexingMode = extra ++ ":".toList ++ otherMode := by
          rw [List.append_assoc]
          exact (List.cons.inj rest).2
        exact absurd (inMode ▸ by simp) plain
  · cases extra with
    | nil => exact List.append_nil _
    | cons c extra =>
        have inMode : otherMode = extra ++ ":".toList ++ indexingMode := by
          rw [List.append_assoc]
          exact (List.cons.inj rest).2
        exact absurd (inMode ▸ by simp) otherPlain

/-- Documents are stored in the mode of a job. -/
theorem Progress.colon_not_mem
    {functions : Functions}
    {job : Job}
    {services : Services E V W}
    {before after : Tables V W}
    {done : List LoadedDocument}
    (progress : Progress functions job services before done after)
    (plain : ∀ row ∈ before.documents, ':' ∉ row.indexingMode) :
    ∀ row ∈ after.documents, ':' ∉ row.indexingMode := by
  intro row held
  have inHoldings : (row, after.chunksOf row.id) ∈
      after.holdings row.tenantId row.sourcePath :=
    List.mem_map.mpr ⟨row, List.mem_filter.mpr ⟨held, (row.isAt_iff _ _).mpr ⟨rfl, rfl⟩⟩,
      rfl⟩
  have old : after.holdings row.tenantId row.sourcePath =
      before.holdings row.tenantId row.sourcePath → ':' ∉ row.indexingMode := by
    intro same
    rw [same] at inHoldings
    obtain ⟨other, matched, isRow⟩ := List.mem_map.mp inHoldings
    have isOther : other = row := congrArg Prod.fst isRow
    exact plain row (isOther ▸ (List.mem_filter.mp matched).1)
  by_cases own : row.tenantId = job.tenantId
  · rcases progress.keptOrNew row.sourcePath with kept | ⟨document, _, _, _, new, _, indexed, isNew⟩
    · exact old (own ▸ kept)
    · rw [own, isNew] at inHoldings
      have isRow : row = new := congrArg Prod.fst (List.mem_singleton.mp inHoldings)
      rw [isRow, indexed.row_eq]
      exact colon_not_mem_indexingMode job
  · exact old (progress.others _ _ own)

theorem Reachable.colon_not_mem
    {functions : Functions}
    {tables : Tables V W}
    (reachable : Reachable functions E tables) :
    ∀ row ∈ tables.documents, ':' ∉ row.indexingMode := by
  induction reachable with
  | empty => exact nofun
  | run before job services fates inductionHypothesis =>
      obtain ⟨_, _, progress⟩ :=
        progress_tablesAfter functions job services before.sound fates
      exact progress.colon_not_mem inductionHypothesis

/-! ## Runs over changing repositories -/

/-- The committed rows after completed runs of one tenant, each over the state its
repository had then. -/
inductive History (E : Type) (tenantId : Str) : List Job → Tables V W → Prop
  /-- At first the tenant has no documents. -/
  | start
      {tables : Tables V W}
      (reachable : Reachable functions E tables)
      (noDocuments : ∀ row ∈ tables.documents, row.tenantId ≠ tenantId) :
      History E tenantId [] tables
  /-- One more run that completed. -/
  | run
      {jobs : List Job}
      {tables : Tables V W}
      (before : History E tenantId jobs tables)
      (job : Job)
      (services : Services E V W)
      (fates : List Fate)
      (stats : Stats)
      (sameTenant : job.tenantId = tenantId)
      (completed : (runFrom functions job services tables fates).1 = .next stats) :
      History E tenantId (jobs ++ [job]) (tablesAfter functions job services tables fates)

/-- The source paths a run finds. -/
def discoveredPaths (job : Job) : List Str :=
  (documentsOf functions job).map (·.sourcePath)

/-- The source paths and content digests a run finds. -/
def discoveredPairs (job : Job) : List (Str × Str) :=
  (documentsOf functions job).map fun document =>
    (document.sourcePath, document.contentHash)

/-- The documents of the tenant are those the run found, and the manifest has the digest
over what the run found. -/
def Describes (job : Job) (tables : Tables V W) (manifest : CorpusManifest) : Prop :=
  (documentPairs tables job.tenantId).Perm (discoveredPairs functions job) ∧
    manifest.contentFingerprint =
      contentFingerprint functions (discoveredPairs functions job)

section Histories

variable {functions} {tenantId : Str} {jobs : List Job} {tables : Tables V W}

theorem History.reachable
    (history : History functions E tenantId jobs tables) :
    Reachable functions E tables := by
  induction history with
  | start reachable noDocuments => exact reachable
  | run before job services fates stats sameTenant completed inductionHypothesis =>
      exact .run inductionHypothesis job services fates

/-- A pair of the tables is one of the corpus. -/
theorem mem_documentPairs_iff
    (sound : tables.Sound)
    (tenantId sourcePath contentHash : Str) :
    (sourcePath, contentHash) ∈ documentPairs tables tenantId ↔
      ∃ entry, tables.corpus (tenantId, sourcePath) = some entry ∧
        entry.contentHash = contentHash := by
  have pairs : documentPairs tables tenantId =
      (tables.corpusEntries tenantId).map fun held => (held.1, held.2.contentHash) := by
    unfold documentPairs Tables.corpusEntries
    rw [List.map_map]
    rfl
  rw [pairs, List.mem_map]
  constructor
  · rintro ⟨⟨path, entry⟩, held, same⟩
    rw [Prod.mk.injEq] at same
    obtain ⟨rfl, rfl⟩ := same
    exact ⟨entry, (mem_corpusEntries_iff sound _ _ _).mp held, rfl⟩
  · rintro ⟨entry, found, rfl⟩
    exact ⟨(sourcePath, entry), (mem_corpusEntries_iff sound _ _ _).mpr found, rfl⟩

/-- The corpus has a source path after a completed run when the run found it or the
corpus had it before. -/
theorem isSome_corpus_after
    {job : Job}
    {services : Services E V W}
    {fates : List Fate}
    {stats : Stats}
    (sound : tables.Sound)
    (completed : (runFrom functions job services tables fates).1 = .next stats)
    (sourcePath : Str) :
    ((tablesAfter functions job services tables fates).corpus
        (job.tenantId, sourcePath)).isSome = true ↔
      (tables.corpus (job.tenantId, sourcePath)).isSome = true ∨
        sourcePath ∈ discoveredPaths functions job := by
  by_cases found : sourcePath ∈ discoveredPaths functions job
  · obtain ⟨document, present, rfl⟩ := List.mem_map.mp found
    obtain ⟨entry, has, _⟩ := corpus_of_found sound completed present
    exact iff_of_true (Option.isSome_iff_exists.mpr ⟨entry, has⟩) (Or.inr found)
  · have notUpdated : (job.tenantId, sourcePath) ∉
        (updatesOf functions job (documentsOf functions job)).map (·.key) := by
      intro held
      obtain ⟨update, inUpdates, same⟩ := List.mem_map.mp held
      obtain ⟨document, present, rfl⟩ := List.mem_map.mp inUpdates
      have samePath : document.sourcePath = sourcePath := congrArg Prod.snd same
      exact found (samePath ▸ List.mem_map_of_mem present)
    rw [(progress_of_completed functions job services sound completed).corpus,
      Settling.applyAll_of_not_mem notUpdated, or_iff_left found]

/-- The corpus of a tenant has the source paths its runs found. -/
theorem History.isSome_corpus_iff
    (history : History functions E tenantId jobs tables)
    (sourcePath : Str) :
    (tables.corpus (tenantId, sourcePath)).isSome = true ↔
      ∃ job ∈ jobs, sourcePath ∈ discoveredPaths functions job := by
  induction history with
  | start reachable noDocuments =>
      refine iff_of_false ?_ nofun
      intro present
      obtain ⟨entry, found⟩ := Option.isSome_iff_exists.mp present
      have held := (mem_documentPairs_iff reachable.sound tenantId sourcePath _).mpr
        ⟨entry, found, rfl⟩
      obtain ⟨row, matched, _⟩ := List.mem_map.mp held
      obtain ⟨inTables, own⟩ := List.mem_filter.mp matched
      exact noDocuments row inTables (of_decide_eq_true own)
  | run before job services fates stats sameTenant completed inductionHypothesis =>
      subst sameTenant
      rw [isSome_corpus_after before.reachable.sound completed, inductionHypothesis]
      simp only [List.mem_append, List.mem_singleton]
      constructor
      · rintro (⟨earlier, present, found⟩ | found)
        · exact ⟨earlier, Or.inl present, found⟩
        · exact ⟨job, Or.inr rfl, found⟩
      · rintro ⟨earlier, present | rfl, found⟩
        · exact Or.inl ⟨earlier, present, found⟩
        · exact Or.inr found

/-- After a completed run the corpus has the digests of what the run found. -/
theorem contentHash_of_found
    {job : Job}
    {services : Services E V W}
    {fates : List Fate}
    {stats : Stats}
    (reachable : Reachable functions E tables)
    (completed : (runFrom functions job services tables fates).1 = .next stats)
    {document : LoadedDocument}
    (found : document ∈ documentsOf functions job) :
    ∃ entry, (tablesAfter functions job services tables fates).corpus
        (job.tenantId, document.sourcePath) = some entry ∧
      entry.contentHash = document.contentHash := by
  have after : Reachable functions E (tablesAfter functions job services tables fates) :=
    .run reachable job services fates
  obtain ⟨entry, has, isMatch⟩ := corpus_of_found reachable.sound completed found
  obtain ⟨row, matched, same⟩ := List.mem_map.mp
    ((mem_corpusEntries_iff after.sound _ _ _).mpr has)
  have plain := after.colon_not_mem row (List.mem_filter.mp matched).1
  have mode : row.indexingMode = entry.indexingMode :=
    congrArg (·.2.indexingMode) same
  exact ⟨entry, has, contentHash_eq_of_fingerprint (mode ▸ plain)
    (colon_not_mem_indexingMode job) (of_decide_eq_true isMatch)⟩

/-- A tenant has a source path once. -/
theorem documentPairs_nodup
    (sound : tables.Sound)
    (tenantId : Str) : (documentPairs tables tenantId).Nodup := by
  have keys : (tables.documents.filter (·.tenantId = tenantId)).map
        (fun row => (row.tenantId, row.sourcePath)) =
      (documentPairs tables tenantId).map fun pair => (tenantId, pair.1) := by
    unfold documentPairs
    rw [List.map_map]
    apply List.map_congr_left
    intro row held
    exact Prod.ext (of_decide_eq_true (List.mem_filter.mp held).2) rfl
  have distinct : ((tables.documents.filter (·.tenantId = tenantId)).map
      fun row => (row.tenantId, row.sourcePath)).Nodup :=
    sound.distinctPaths.sublist (List.filter_sublist.map _)
  exact List.Nodup.of_map _ (keys ▸ distinct)

/-- Exactly when no source path of an earlier run is gone does a written manifest
describe what its run found. -/
theorem manifest_describes_iff
    (history : History functions E tenantId jobs tables)
    (job : Job)
    (sameTenant : job.tenantId = tenantId)
    (services : Services E V W)
    (commit ingestedAt : Str)
    (fates : List Fate)
    {manifest : CorpusManifest}
    (written : writtenManifest functions job services commit ingestedAt tables fates =
      some manifest) :
    Describes functions job (tablesAfter functions job services tables fates) manifest ↔
      ∀ earlier ∈ jobs, ∀ sourcePath ∈ discoveredPaths functions earlier,
        sourcePath ∈ discoveredPaths functions job := by
  obtain ⟨⟨stats, completed⟩, declared⟩ := writtenManifest_eq_some written
  subst sameTenant
  let after := tablesAfter functions job services tables fates
  have extended : History functions E job.tenantId (jobs ++ [job]) after :=
    .run history job services fates stats rfl completed
  have sound := extended.reachable.sound
  have paths : (discoveredPairs functions job).map Prod.fst =
      discoveredPaths functions job := by
    unfold discoveredPairs discoveredPaths
    rw [List.map_map]
    rfl
  constructor
  · rintro ⟨alike, _⟩ earlier present sourcePath found
    obtain ⟨entry, has⟩ := Option.isSome_iff_exists.mp
      ((extended.isSome_corpus_iff sourcePath).mpr
        ⟨earlier, List.mem_append_left _ present, found⟩)
    have held := (mem_documentPairs_iff sound job.tenantId sourcePath _).mpr
      ⟨entry, has, rfl⟩
    rw [← paths]
    exact List.mem_map_of_mem (alike.mem_iff.mp held)
  · intro noneGone
    have foundDistinct : (discoveredPairs functions job).Nodup :=
      List.Nodup.of_map Prod.fst (paths ▸ documentsOf_nodup functions job)
    have alike : (documentPairs after job.tenantId).Perm (discoveredPairs functions job) := by
      rw [List.perm_ext_iff_of_nodup (documentPairs_nodup sound job.tenantId) foundDistinct]
      rintro ⟨sourcePath, contentHash⟩
      rw [mem_documentPairs_iff sound]
      constructor
      · rintro ⟨entry, has, rfl⟩
        obtain ⟨finder, present, found⟩ := (extended.isSome_corpus_iff sourcePath).mp
          (Option.isSome_iff_exists.mpr ⟨entry, has⟩)
        have foundNow : sourcePath ∈ discoveredPaths functions job := by
          rcases List.mem_append.mp present with early | last
          · exact noneGone finder early sourcePath found
          · exact List.mem_singleton.mp last ▸ found
        obtain ⟨document, inFound, rfl⟩ := List.mem_map.mp foundNow
        obtain ⟨other, hasOther, same⟩ :=
          contentHash_of_found history.reachable completed inFound
        rw [Option.some.inj (has.symm.trans hasOther), same]
        exact List.mem_map_of_mem inFound
      · intro held
        obtain ⟨document, inFound, same⟩ := List.mem_map.mp held
        rw [Prod.mk.injEq] at same
        obtain ⟨rfl, rfl⟩ := same
        exact contentHash_of_found history.reachable completed inFound
    exact ⟨alike, declared.trans (contentFingerprint_perm functions alike)⟩

end Histories

/-! ## A file that is gone -/

/-- The rows after a run over both notes. -/
def twoNotes : Tables Unit Unit := tablesAfter noteFunctions fuller twoNoteServices {} []

/-- The manifest written after the second note was deleted and the first one ingested
again. -/
def lateManifest : Option CorpusManifest :=
  writtenManifest noteFunctions noteJob noteServices [] [] twoNotes []

/-- The rows are those of a completed run. -/
theorem history_twoNotes :
    History noteFunctions Unit "acme".toList [fuller] twoNotes := by
  have noDocuments : ∀ row ∈ ({} : Tables Unit Unit).documents,
      row.tenantId ≠ "acme".toList := nofun
  refine .run (.start .empty noDocuments) fuller twoNoteServices []
    { documentsSeen := 2, documentsIngested := 2, chunksIngested := 2 } rfl ?_
  decide +kernel

/-- After a file was deleted, a completed run writes a manifest that does not describe
what it found: the document of the deleted file is still there, and in the digest. -/
theorem deleted_file_still_declared :
    History noteFunctions Unit "acme".toList [fuller] twoNotes ∧
    ∃ manifest, lateManifest = some manifest ∧
      ¬ Describes noteFunctions noteJob
        (tablesAfter noteFunctions noteJob noteServices twoNotes []) manifest ∧
      documentPairs (tablesAfter noteFunctions noteJob noteServices twoNotes [])
          "acme".toList =
        [("docs/note.md".toList, "remember".toList),
          ("docs/old.md".toList, "forget".toList)] ∧
      discoveredPairs noteFunctions noteJob =
        [("docs/note.md".toList, "remember".toList)] := by
  have declared : lateManifest = some ⟨[], [], 2, 2,
      "docs/note.md:remember\ndocs/old.md:forget".toList, "plain".toList⟩ := by
    decide +kernel
  have kept : documentPairs (tablesAfter noteFunctions noteJob noteServices twoNotes [])
      "acme".toList =
        [("docs/note.md".toList, "remember".toList),
          ("docs/old.md".toList, "forget".toList)] := by decide +kernel
  have found : discoveredPairs noteFunctions noteJob =
      [("docs/note.md".toList, "remember".toList)] := by decide +kernel
  refine ⟨history_twoNotes, _, declared, ?_, kept, found⟩
  rintro ⟨alike, _⟩
  rw [found] at alike
  exact absurd (alike.length_eq.symm.trans (congrArg List.length kept)) (by decide)

/-- The first run over both notes, with nothing before it, writes a manifest that
describes what it found. -/
theorem manifest_describes_iff_first :
    ∃ manifest,
      writtenManifest noteFunctions fuller twoNoteServices [] [] {} [] = some manifest ∧
      Describes noteFunctions fuller twoNotes manifest := by
  have declared : writtenManifest noteFunctions fuller twoNoteServices [] [] {} [] =
      some ⟨[], [], 2, 2, "docs/note.md:remember\ndocs/old.md:forget".toList,
        "plain".toList⟩ := by decide +kernel
  have noDocuments : ∀ row ∈ ({} : Tables Unit Unit).documents,
      row.tenantId ≠ "acme".toList := nofun
  have first : History noteFunctions Unit "acme".toList [] ({} : Tables Unit Unit) :=
    .start .empty noDocuments
  exact ⟨_, declared, (manifest_describes_iff first fuller rfl twoNoteServices [] [] []
    declared).mpr nofun⟩

end Ingest
end ChatPlatform
