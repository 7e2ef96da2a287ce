import ChatPlatform.Ingest.Corpus

/-!
# Interrupted and repeated runs

A run is a job on the corpus: one update for each discovered document, made in the
order of the documents. An interrupted run makes a part of the updates, so running to
completion afterwards leaves what one whole run would have left, and one more run
changes nothing.
-/

namespace ChatPlatform
namespace Ingest

open Program

variable {E V W : Type}

section Runs

variable (functions : Functions) (job : Job)

/-- The documents a run finds; none when one of them cannot be read. -/
def documentsOf : List LoadedDocument :=
  match discoverDocuments functions.sha256Hex job.repository with
  | .error _ => []
  | .ok documents => documents

/-- What a run does to the corpus. -/
def updatesOf (documents : List LoadedDocument) :
    List (Settling.Update (Str × Str) (Option CorpusEntry)) :=
  documents.map (documentUpdate functions job)

/-- A run finds a source path once. -/
theorem documentsOf_nodup : ((documentsOf functions job).map (·.sourcePath)).Nodup := by
  unfold documentsOf
  cases discovered : discoverDocuments functions.sha256Hex job.repository with
  | error name => exact List.nodup_nil
  | ok documents => exact discoverDocuments_nodup functions.sha256Hex discovered

/-- A run has one update for a source path. -/
theorem updatesOf_nodup :
    ((updatesOf functions job (documentsOf functions job)).map (·.key)).Nodup := by
  have keys : (updatesOf functions job (documentsOf functions job)).map (·.key) =
      ((documentsOf functions job).map (·.sourcePath)).map (job.tenantId, ·) := by
    unfold updatesOf
    rw [List.map_map, List.map_map]
    rfl
  rw [keys]
  exact (documentsOf_nodup functions job).map fun _ _ same => congrArg Prod.snd same

variable (services : Services E V W)

/-- What is under a source path of the tenant is what was there, or a new document with
all of its chunks. -/
def KeptOrNew
    (documents : List LoadedDocument)
    (before after : Tables V W)
    (sourcePath : Str) : Prop :=
  after.holdings job.tenantId sourcePath = before.holdings job.tenantId sourcePath ∨
    ∃ document ∈ documents, document.sourcePath = sourcePath ∧
      ∃ rawChunks row chunks,
        Indexed functions job services document rawChunks row chunks ∧
        after.holdings job.tenantId sourcePath = [(row, chunks)]

/-- What the committed rows are after some documents were finished. -/
structure Progress
    (before : Tables V W)
    (done : List LoadedDocument)
    (after : Tables V W) : Prop where
  /-- They are sound. -/
  sound : after.Sound
  /-- Each source path is as before or new. -/
  keptOrNew : ∀ sourcePath, KeptOrNew functions job services done before after sourcePath
  /-- Other tenants are as before. -/
  others : ∀ tenantId sourcePath, tenantId ≠ job.tenantId →
    after.holdings tenantId sourcePath = before.holdings tenantId sourcePath
  /-- The updates of these documents were made. -/
  corpus : after.corpus =
    Settling.applyAll (updatesOf functions job done) before.corpus

variable {functions job services} {before after : Tables V W}

theorem Progress.start (sound : before.Sound) :
    Progress functions job services before [] before where
  sound := sound
  keptOrNew := fun _ => Or.inl rfl
  others := fun _ _ _ => rfl
  corpus := rfl

/-- Finishing one more document. -/
theorem Progress.step
    {done : List LoadedDocument}
    {document : LoadedDocument}
    {reached : Tables V W}
    {stats counted : Stats}
    (progress : Progress functions job services before done reached)
    (finished : Finished functions job services document reached stats after counted) :
    Progress functions job services before (done ++ [document]) after where
  sound := by
    rcases finished with ⟨_, rfl, _⟩ | ⟨stored, _⟩
    · exact progress.sound
    · exact stored.sound progress.sound
  keptOrNew := by
    intro sourcePath
    have earlier : ∀ {tables : Tables V W},
        tables.holdings job.tenantId sourcePath =
          reached.holdings job.tenantId sourcePath →
        KeptOrNew functions job services (done ++ [document]) before tables
          sourcePath := by
      intro tables same
      unfold KeptOrNew
      rw [same]
      refine (progress.keptOrNew sourcePath).imp_right ?_
      rintro ⟨held, present, isNew⟩
      exact ⟨held, List.mem_append_left _ present, isNew⟩
    rcases finished with ⟨_, rfl, _⟩ | ⟨stored, _⟩
    · exact earlier rfl
    · by_cases own : document.sourcePath = sourcePath
      · obtain ⟨rawChunks, row, chunks, indexed, held⟩ :=
          stored.holdings_self progress.sound
        exact Or.inr ⟨document, List.mem_append_right _ (List.mem_singleton_self _), own,
          rawChunks, row, chunks, indexed, own ▸ held⟩
      · exact earlier (stored.holdings_other progress.sound
          fun same => own (congrArg Prod.snd same).symm)
  others := by
    intro tenantId sourcePath other
    rw [← progress.others tenantId sourcePath other]
    rcases finished with ⟨_, rfl, _⟩ | ⟨stored, _⟩
    · rfl
    · exact stored.holdings_other progress.sound
        fun same => other (congrArg Prod.fst same)
  corpus := by
    rw [finished.corpus progress.sound, progress.corpus]
    unfold updatesOf
    rw [List.map_append]
    exact (Settling.applyAll_concat ..).symm

/-! ## A run -/

variable (functions job services)

/-- A run is a loop over the documents it finds. -/
theorem triple_ingest_of_rounds
    (stopped : World V W → Prop)
    (invariant : List LoadedDocument → World V W → Prop)
    (stops : ∀ world, world.durable = before → stopped world)
    (starts : ∀ world, world.durable = before →
      world.stats = { documentsSeen := (documentsOf functions job).length } →
      invariant [] world)
    (round : ∀ done document rest, documentsOf functions job = done ++ document :: rest →
      Triple (invariant done) (ingestDocument functions job services document)
        ⟨fun _ => invariant (done ++ [document]), fun _ _ => True, fun _ => stopped⟩) :
    Triple (fun world => world.durable = before) (ingest functions job services)
      ⟨fun stats world => invariant (documentsOf functions job) world ∧
          stats = world.stats,
        fun _ _ => True, fun _ => stopped⟩ := by
  unfold ingest
  split
  · exact Triple.raise stops
  · rename_i documents discovered
    have found : documentsOf functions job = documents := by
      unfold documentsOf
      rw [discovered]
    rw [found] at starts round ⊢
    refine Triple.andThen (fun _ world => world.durable = before) ?_ fun _ => ?_
    · refine Triple.await fun fate world durable => ?_
      cases fate with
      | completes => exact durable
      | stops reason tookEffect => exact stops world durable
    refine Triple.andThen (fun _ world => world.durable = before ∧
        world.stats = { documentsSeen := documents.length })
      (Triple.modify fun _ durable => ⟨durable, rfl⟩) fun _ => ?_
    unfold tenantScope
    split
    · exact Triple.raise fun world given => stops world given.1
    · refine Triple.andThen (fun _ => invariant documents) ?_
        fun _ => Triple.inspect fun _ holds => ⟨holds, rfl⟩
      exact Triple.weaken (Triple.forEachDone invariant round)
        fun world given => starts world given.1 given.2

/-- However a run ends, it finished the documents up to some point, and all of them
when it completed. -/
theorem triple_ingest (sound : before.Sound) :
    Triple (fun world => world.durable = before) (ingest functions job services)
      ⟨fun stats world => Progress functions job services before
          (documentsOf functions job) world.durable ∧ stats = world.stats,
        fun _ _ => True,
        fun _ world => ∃ done, done <+: documentsOf functions job ∧
          Progress functions job services before done world.durable⟩ := by
  refine triple_ingest_of_rounds functions job services _ (fun done world =>
    Progress functions job services before done world.durable) ?_ ?_ ?_
  · exact fun world durable =>
      ⟨[], List.nil_prefix, durable ▸ Progress.start (durable ▸ sound)⟩
  · exact fun world durable _ => durable ▸ Progress.start (durable ▸ sound)
  · intro done document rest split
    refine Triple.fromState fun world progress => ?_
    refine Triple.weaken (Triple.conclude
      (triple_ingestDocument functions job services document progress.sound world.stats)
      (fun _ _ finished => progress.step finished) (fun _ _ _ => trivial) ?_) ?_
    · rintro _ left (durable | ⟨counted, finished⟩)
      · exact ⟨done, split ▸ List.prefix_append .., durable ▸ progress⟩
      · refine ⟨done ++ [document], ⟨rest, ?_⟩, progress.step finished⟩
        rw [split, List.append_assoc]
        rfl
    · rintro _ rfl
      exact ⟨rfl, rfl⟩

/-- A run that finds every document settled changes nothing and skips them all. -/
theorem triple_ingest_settled
    (sound : before.Sound)
    (settled : ∀ document ∈ documentsOf functions job,
      job.isSettled before document = true) :
    Triple (fun world => world.durable = before) (ingest functions job services)
      ⟨fun stats world => world.durable = before ∧
          stats = { documentsSeen := (documentsOf functions job).length
                    documentsSkipped := (documentsOf functions job).length },
        fun _ _ => True, fun _ world => world.durable = before⟩ := by
  refine Triple.conclude (triple_ingest_of_rounds functions job services
    (fun world => world.durable = before)
    (fun done world => world.durable = before ∧
      world.stats = { documentsSeen := (documentsOf functions job).length
                      documentsSkipped := done.length })
    (fun _ durable => durable) (fun _ durable counted => ⟨durable, counted⟩) ?_)
    ?_ (fun _ _ _ => trivial) fun _ _ durable => durable
  rotate_left
  · rintro stats world ⟨⟨durable, counted⟩, same⟩
    exact ⟨durable, same.trans counted⟩
  · intro done document rest split
    have skipped : ∀ {stats counted : Stats} {after : Tables V W},
        Finished functions job services document before stats after counted →
        after = before ∧ counted = stats.skip := by
      rintro stats counted after (⟨_, same, counts⟩ | ⟨⟨_, _, _, _, unsettled, _, _⟩, _⟩)
      · exact ⟨same, counts⟩
      · rw [settled document (by simp [split])] at unsettled
        cases unsettled
    refine Triple.conclude (triple_ingestDocument functions job services document sound
      { documentsSeen := (documentsOf functions job).length
        documentsSkipped := done.length }) ?_ (fun _ _ _ => trivial) ?_
    · intro _ world finished
      obtain ⟨durable, counted⟩ := skipped finished
      refine ⟨durable, counted.trans ?_⟩
      rw [List.length_append]
      rfl
    · rintro _ world (durable | ⟨counted, finished⟩)
      · exact durable
      · exact (skipped finished).1

/-- However a run ends, it finished the documents up to some point. -/
theorem progress_tablesAfter (sound : before.Sound) (fates : List Fate) :
    ∃ done, done <+: documentsOf functions job ∧
      Progress functions job services before done
        (tablesAfter functions job services before fates) := by
  have ended := triple_ingest functions job services sound ⟨before, before, {}⟩ fates rfl
  unfold tablesAfter runFrom
  generalize (ingest functions job services ⟨before, before, {}⟩ fates).1 = outcome at ended
  cases outcome with
  | next stats => exact ⟨_, List.prefix_rfl, ended.1⟩
  | exit nothing => exact nothing.elim
  | raised reason => exact ended

/-- A run that completes finished all documents. -/
theorem progress_of_completed
    (sound : before.Sound)
    {fates : List Fate}
    {stats : Stats}
    (completed : (runFrom functions job services before fates).1 = .next stats) :
    Progress functions job services before (documentsOf functions job)
      (tablesAfter functions job services before fates) := by
  have ended := triple_ingest functions job services sound ⟨before, before, {}⟩ fates rfl
  unfold runFrom at completed
  rw [completed] at ended
  exact ended.1

variable {functions} in
/-- The committed rows are sound after any runs. -/
theorem Reachable.sound
    {tables : Tables V W}
    (reachable : Reachable functions E tables) : tables.Sound := by
  induction reachable with
  | empty => exact Tables.sound_empty
  | run before job services fates inductionHypothesis =>
      obtain ⟨_, _, progress⟩ := progress_tablesAfter functions job services
        inductionHypothesis fates
      exact progress.sound

end Runs

/-! ## Any number of runs -/

section Reruns

variable (functions : Functions) (job : Job)

/-- The committed rows after any number of runs of one job, each broken off
anywhere. -/
inductive Reruns (E : Type) (tables : Tables V W) : Tables V W → Prop
  /-- Before the first run. -/
  | start : Reruns E tables tables
  /-- One more run. -/
  | again
      {reached : Tables V W}
      (before : Reruns E tables reached)
      (services : Services E V W)
      (fates : List Fate) :
      Reruns E tables (tablesAfter functions job services reached fates)

variable {functions job} {tables reached : Tables V W}

/-- Runs that were broken off are attempts at the job on the corpus. -/
theorem Reruns.attempted
    (reruns : Reruns functions job E tables reached)
    (sound : tables.Sound) :
    reached.Sound ∧ Settling.Attempted (updatesOf functions job (documentsOf functions job))
      tables.corpus reached.corpus := by
  induction reruns with
  | start => exact ⟨sound, .start⟩
  | again before services fates inductionHypothesis =>
      obtain ⟨reachedSound, attempted⟩ := inductionHypothesis
      obtain ⟨done, isPart, progress⟩ :=
        progress_tablesAfter functions job services reachedSound fates
      refine ⟨progress.sound, ?_⟩
      rw [progress.corpus]
      exact .again attempted (isPart.sublist.map _)

/-- Running to completion after interrupted runs leaves the corpus of one whole run. -/
theorem corpus_after_reruns
    (sound : tables.Sound)
    (reruns : Reruns functions job E tables reached)
    {services wholeServices : Services E V W}
    {fates wholeFates : List Fate}
    {stats wholeStats : Stats}
    (completed : (runFrom functions job services reached fates).1 = .next stats)
    (wholeCompleted :
      (runFrom functions job wholeServices tables wholeFates).1 = .next wholeStats) :
    (tablesAfter functions job services reached fates).corpus =
      (tablesAfter functions job wholeServices tables wholeFates).corpus := by
  obtain ⟨reachedSound, attempted⟩ := reruns.attempted sound
  calc (tablesAfter functions job services reached fates).corpus
      = Settling.applyAll (updatesOf functions job (documentsOf functions job))
          reached.corpus :=
        (progress_of_completed functions job services reachedSound completed).corpus
    _ = Settling.applyAll (updatesOf functions job (documentsOf functions job))
          tables.corpus := attempted.completed (updatesOf_nodup functions job)
    _ = (tablesAfter functions job wholeServices tables wholeFates).corpus :=
        (progress_of_completed functions job wholeServices sound wholeCompleted).corpus.symm

/-- A run that completes leaves an entry for every document it found. -/
theorem corpus_of_found
    (sound : tables.Sound)
    {services : Services E V W}
    {fates : List Fate}
    {stats : Stats}
    (completed : (runFrom functions job services tables fates).1 = .next stats)
    {document : LoadedDocument}
    (found : document ∈ documentsOf functions job) :
    ∃ entry, (tablesAfter functions job services tables fates).corpus
        (job.tenantId, document.sourcePath) = some entry ∧
      entry.matches job document = true := by
  obtain ⟨entry, changed, isMatch⟩ := documentUpdate_matches functions job document
    (tables.corpus (job.tenantId, document.sourcePath))
  refine ⟨entry, ?_, isMatch⟩
  rw [(progress_of_completed functions job services sound completed).corpus]
  exact (Settling.applyAll_of_mem (updatesOf_nodup functions job)
    (List.mem_map_of_mem found) tables.corpus).trans changed

/-- A run that completes leaves every document settled. -/
theorem settled_of_completed
    (sound : tables.Sound)
    {services : Services E V W}
    {fates : List Fate}
    {stats : Stats}
    (completed : (runFrom functions job services tables fates).1 = .next stats) :
    ∀ document ∈ documentsOf functions job,
      job.isSettled (tablesAfter functions job services tables fates) document = true := by
  intro document found
  obtain ⟨entry, has, isMatch⟩ := corpus_of_found sound completed found
  rw [isSettled_eq job
    (progress_of_completed functions job services sound completed).sound, has]
  exact isMatch

/-- One more run after a run that completed changes nothing, and skips every document
when it completes. -/
theorem rerun_changes_nothing
    (sound : tables.Sound)
    {services again : Services E V W}
    {fates : List Fate}
    {stats : Stats}
    (completed : (runFrom functions job services tables fates).1 = .next stats)
    (moreFates : List Fate) :
    tablesAfter functions job again (tablesAfter functions job services tables fates)
        moreFates = tablesAfter functions job services tables fates ∧
      ∀ counted,
        (runFrom functions job again (tablesAfter functions job services tables fates)
          moreFates).1 = .next counted →
        counted = { documentsSeen := (documentsOf functions job).length
                    documentsSkipped := (documentsOf functions job).length } := by
  let reached := tablesAfter functions job services tables fates
  have after := progress_of_completed functions job services sound completed
  have ended := triple_ingest_settled functions job again after.sound
    (settled_of_completed sound completed) ⟨reached, reached, {}⟩ moreFates rfl
  cases outcome : (runFrom functions job again reached moreFates).1 with
  | next counted =>
      rw [show (ingest functions job again ⟨reached, reached, {}⟩ moreFates).1 =
        .next counted from outcome] at ended
      refine ⟨ended.1, ?_⟩
      rintro _ ⟨⟩
      exact ended.2
  | exit nothing => exact nothing.elim
  | raised reason =>
      rw [show (ingest functions job again ⟨reached, reached, {}⟩ moreFates).1 =
        .raised reason from outcome] at ended
      exact ⟨ended, nofun⟩

/-- Ingestion is crash-safe, convergent and idempotent. However a run ends, each source
path of its tenant has exactly what it had or exactly the new document with its chunks
in their order, and other tenants have what they had. Running to completion after any
number of broken-off runs gives the corpus of one whole run. After a run that completed,
one more run changes nothing, and skips every document. -/
theorem ingest_crash_safe_convergent_idempotent
    {tables : Tables V W}
    (reachable : Reachable functions E tables)
    (job : Job)
    (services : Services E V W) :
    (∀ fates,
      (tablesAfter functions job services tables fates).Sound ∧
      (∀ sourcePath, KeptOrNew functions job services (documentsOf functions job) tables
        (tablesAfter functions job services tables fates) sourcePath) ∧
      ∀ tenantId sourcePath, tenantId ≠ job.tenantId →
        (tablesAfter functions job services tables fates).holdings tenantId sourcePath =
          tables.holdings tenantId sourcePath) ∧
    (∀ reached, Reruns functions job E tables reached →
      ∀ (last : Services E V W) lastFates lastStats fates stats,
        (runFrom functions job last reached lastFates).1 = .next lastStats →
        (runFrom functions job services tables fates).1 = .next stats →
        ∀ entry,
          entry ∈ (tablesAfter functions job last reached lastFates).corpusEntries
            job.tenantId ↔
          entry ∈ (tablesAfter functions job services tables fates).corpusEntries
            job.tenantId) ∧
    ∀ fates stats, (runFrom functions job services tables fates).1 = .next stats →
      ∀ (again : Services E V W) moreFates,
        tablesAfter functions job again
            (tablesAfter functions job services tables fates) moreFates =
          tablesAfter functions job services tables fates ∧
        ∀ counted,
          (runFrom functions job again (tablesAfter functions job services tables fates)
            moreFates).1 = .next counted →
          counted = { documentsSeen := (documentsOf functions job).length
                      documentsSkipped := (documentsOf functions job).length } := by
  have sound := reachable.sound
  refine ⟨fun fates => ?_, ?_, ?_⟩
  · obtain ⟨done, isPart, progress⟩ :=
      progress_tablesAfter functions job services sound fates
    refine ⟨progress.sound, fun sourcePath => ?_, progress.others⟩
    refine (progress.keptOrNew sourcePath).imp_right ?_
    rintro ⟨document, present, isNew⟩
    exact ⟨document, isPart.subset present, isNew⟩
  · intro reached reruns last lastFates lastStats fates stats completed wholeCompleted
    have reachedSound := (reruns.attempted sound).1
    rintro ⟨sourcePath, entry⟩
    rw [mem_corpusEntries_iff
        (progress_of_completed functions job last reachedSound completed).sound,
      mem_corpusEntries_iff
        (progress_of_completed functions job services sound wholeCompleted).sound,
      corpus_after_reruns sound reruns completed wholeCompleted]
  · intro fates stats completed again moreFates
    exact rerun_changes_nothing sound completed moreFates

end Reruns

/-! ## A sample run -/

/-- Every text is its own digest and its only chunk. -/
def noteFunctions : Functions where
  sha256Hex := id
  chunkDocument _ text := .ok [⟨text, []⟩]

/-- A repository with one note. -/
def noteJob : Job where
  tenantId := "acme".toList
  repository := {
    rootParts := ["srv".toList]
    files := [⟨"docs/note.md".toList, .ok "remember".toList⟩]
    distinctPaths := by simp
    checkIgnore := some fun _ => false }
  contextualize := false

/-- The services answer with one vector for each text. -/
def noteServices : Services Unit Unit Unit where
  newId _ := ⟨7⟩
  generate _ _ _ := []
  embedMany _ texts := texts.map fun _ => ()
  server := ⟨some, fun _ => (), fun id _ => id⟩

/-- The repository of the sample run with one more note. -/
def fuller : Job := { noteJob with
  repository := { noteJob.repository with
    files := [⟨"docs/note.md".toList, .ok "remember".toList⟩,
      ⟨"docs/old.md".toList, .ok "forget".toList⟩]
    distinctPaths := by decide } }

/-- The services of the sample run, with an identifier for each of the notes. -/
def twoNoteServices : Services Unit Unit Unit := { noteServices with
  newId document := if document.sourcePath = "docs/old.md".toList then ⟨8⟩ else ⟨7⟩ }

/-- The commit of the first note takes effect, and the run hears of a failure. -/
def noteInterrupted : List Fate :=
  [.completes, .completes, .completes, .completes, .completes, .completes,
    .stops "reset".toList true]

/-- A run breaks off with the first note stored. The next run skips this note and stores
the other one; what is left is what one whole run leaves, and after that a run has nothing
to do. -/
theorem ingest_crash_safe_convergent_idempotent_note :
    let broken := tablesAfter noteFunctions fuller twoNoteServices {} noteInterrupted
    let whole := tablesAfter noteFunctions fuller twoNoteServices {} []
    ((runFrom noteFunctions fuller twoNoteServices {} noteInterrupted).1 =
        .raised "reset".toList ∧
      broken.corpusEntries "acme".toList =
        [("docs/note.md".toList,
          ⟨"remember".toList, "plain".toList, ["remember".toList]⟩)] ∧
      ∀ sourcePath, KeptOrNew noteFunctions fuller twoNoteServices
        (documentsOf noteFunctions fuller) {} broken sourcePath) ∧
    ((runFrom noteFunctions fuller twoNoteServices broken []).1 =
        .next { documentsSeen := 2, documentsIngested := 1, documentsSkipped := 1,
                chunksIngested := 1 } ∧
      ∀ entry,
        entry ∈ (tablesAfter noteFunctions fuller twoNoteServices broken []).corpusEntries
          "acme".toList ↔
        entry ∈ whole.corpusEntries "acme".toList) ∧
    tablesAfter noteFunctions fuller twoNoteServices whole [] = whole := by
  intro broken whole
  obtain ⟨safe, convergent, idempotent⟩ := ingest_crash_safe_convergent_idempotent
    (Reachable.empty : Reachable noteFunctions Unit ({} : Tables Unit Unit))
    fuller twoNoteServices
  have resumed : (runFrom noteFunctions fuller twoNoteServices broken []).1 =
      .next { documentsSeen := 2, documentsIngested := 1, documentsSkipped := 1,
              chunksIngested := 1 } := by
    decide +kernel
  have completed : (runFrom noteFunctions fuller twoNoteServices {} []).1 =
      .next { documentsSeen := 2, documentsIngested := 2, chunksIngested := 2 } := by
    decide +kernel
  refine ⟨⟨by decide +kernel, by decide +kernel, (safe noteInterrupted).2.1⟩,
    ⟨resumed, ?_⟩, (idempotent [] _ completed twoNoteServices []).1⟩
  exact convergent broken (.again .start twoNoteServices noteInterrupted) twoNoteServices [] _ []
    _ resumed completed

end Ingest
end ChatPlatform
