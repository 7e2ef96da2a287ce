import ChatPlatform.Foundation.Text
import ChatPlatform.Foundation.Traversal
import Mathlib.Data.Char
import Mathlib.Data.List.Lex
import Mathlib.Data.List.Sort

/-!
# The documents of a repository

The corpus is made of the Markdown files under `docs` and the Python files under
`app`, without those in an excluded directory and without those that git ignores. No
two documents have the same source path.
-/

namespace ChatPlatform
namespace Ingest

/-- A file of a repository, or a directory whose name looks like one. -/
structure RepoFile where
  /-- The path relative to the root. -/
  path : Str
  /-- What reading it as text gives: the text, or the name of the exception. -/
  readText : Except Str Str

/-- The state of a repository. -/
structure Repository where
  /-- The parts of the absolute path of the root. -/
  rootParts : List Str
  /-- The files. -/
  files : List RepoFile
  /-- No two files have the same path. -/
  distinctPaths : (files.map (·.path)).Nodup
  /-- Whether git ignores a path, where git can be run at all. -/
  checkIgnore : Option (Str → Bool)

/-- A document with its text. -/
structure LoadedDocument where
  /-- The path relative to the root. -/
  sourcePath : Str
  /-- Which chunker applies. -/
  docType : Str
  /-- The text. -/
  content : Str
  /-- Digest of the text. -/
  contentHash : Str
  deriving DecidableEq

/-- The directories with Markdown files. -/
def markdownRoots : List Str := ["docs".toList]

/-- The directory with Python files. -/
def pythonRoot : Str := "app".toList

/-- Directories whose files are left out. -/
def excludedDirNames : List Str := ["__pycache__".toList, "alembic".toList]

namespace RepoFile

/-- The parts of the relative path. -/
def parts (file : RepoFile) : List Str := Text.splitAt '/' file.path

/-- Whether a file is found by a recursive search for a suffix in a directory. -/
def matchesGlob (file : RepoFile) (root suffix : Str) : Bool :=
  file.parts.head? == some root && decide (1 < file.parts.length) &&
    suffix.isSuffixOf (file.parts.getLastD [])

end RepoFile

namespace Repository

/-- Whether git ignores a path; without git every path counts as ignored. -/
def isGitIgnored (repository : Repository) (path : Str) : Bool :=
  match repository.checkIgnore with
  | none => true
  | some ignores => ignores path

/-- Whether a found file is kept. -/
def isKept (repository : Repository) (file : RepoFile) : Bool :=
  !((repository.rootParts ++ file.parts).any (excludedDirNames.contains ·)) &&
    !repository.isGitIgnored file.path

/-- The files of a recursive search in the order of their paths. -/
def sortedGlob (repository : Repository) (root suffix : Str) : List RepoFile :=
  (repository.files.filter (·.matchesGlob root suffix)).insertionSort
    fun left right => left.parts ≤ right.parts

end Repository

section Loading

variable (sha256Hex : Str → Str)

/-- Read a document and hash its text. -/
def load (docType : Str) (file : RepoFile) : Except Str LoadedDocument := do
  let content ← file.readText
  return ⟨file.path, docType, content, sha256Hex content⟩

/-- Load the files of a search that are kept. -/
def loadGlob
    (repository : Repository)
    (root suffix docType : Str) : Except Str (List LoadedDocument) :=
  ((repository.sortedGlob root suffix).filter repository.isKept).mapM
    (load sha256Hex docType)

/-- The documents of a repository: the Markdown files, then the Python files. -/
def discoverDocuments (repository : Repository) : Except Str (List LoadedDocument) := do
  let markdown ← markdownRoots.mapM fun root =>
    loadGlob sha256Hex repository root ".md".toList "markdown".toList
  let python ← loadGlob sha256Hex repository pythonRoot ".py".toList "python".toList
  return markdown.flatten ++ python

/-! ## Every document has a source path of its own -/

theorem load_sourcePath
    {docType : Str}
    {file : RepoFile}
    {document : LoadedDocument}
    (loaded : load sha256Hex docType file = .ok document) :
    document.sourcePath = file.path := by
  unfold load at loaded
  cases read : file.readText with
  | error name =>
      rw [read] at loaded
      cases loaded
  | ok content =>
      rw [read] at loaded
      cases loaded
      rfl

/-- Loading keeps the paths. -/
theorem mapM_load_sourcePaths
    {docType : Str}
    {files : List RepoFile}
    {documents : List LoadedDocument}
    (loaded : files.mapM (load sha256Hex docType) = .ok documents) :
    documents.map (·.sourcePath) = files.map (·.path) :=
  Traversal.map_eq_of_forall₂ (fun _ _ => load_sourcePath sha256Hex)
    (Traversal.forall₂_of_mapM loaded)

/-- The documents of a search are files that the search finds. -/
theorem loadGlob_sourcePaths
    {repository : Repository}
    {root suffix docType : Str}
    {documents : List LoadedDocument}
    (loaded : loadGlob sha256Hex repository root suffix docType = .ok documents) :
    (documents.map (·.sourcePath)).Nodup ∧
      ∀ document ∈ documents,
        (Text.splitAt '/' document.sourcePath).head? = some root := by
  have paths := mapM_load_sourcePaths sha256Hex loaded
  have distinct : ((repository.sortedGlob root suffix).map (·.path)).Nodup := by
    have sorted := (List.perm_insertionSort (fun left right : RepoFile =>
      left.parts ≤ right.parts)
      (repository.files.filter (·.matchesGlob root suffix))).map (·.path)
    exact sorted.nodup_iff.mpr
      (repository.distinctPaths.sublist (List.filter_sublist.map RepoFile.path))
  constructor
  · rw [paths]
    exact distinct.sublist (List.filter_sublist.map RepoFile.path)
  · intro document held
    have inPaths := paths ▸ List.mem_map_of_mem held
    obtain ⟨file, kept, same⟩ := List.mem_map.mp inPaths
    have found : file.matchesGlob root suffix = true := by
      have inSorted := (List.mem_filter.mp kept).1
      exact (List.mem_filter.mp ((List.mem_insertionSort _).mp inSorted)).2
    unfold RepoFile.matchesGlob RepoFile.parts at found
    rw [Bool.and_eq_true, Bool.and_eq_true, beq_iff_eq] at found
    rw [← same]
    exact found.1.1

/-- No two documents have the same source path. -/
theorem discoverDocuments_nodup
    {repository : Repository}
    {documents : List LoadedDocument}
    (discovered : discoverDocuments sha256Hex repository = .ok documents) :
    (documents.map (·.sourcePath)).Nodup := by
  unfold discoverDocuments markdownRoots at discovered
  rw [List.mapM_cons, List.mapM_nil] at discovered
  cases first : loadGlob sha256Hex repository "docs".toList ".md".toList
      "markdown".toList with
  | error name =>
      rw [first] at discovered
      cases discovered
  | ok markdown =>
      cases second : loadGlob sha256Hex repository pythonRoot ".py".toList
          "python".toList with
      | error name =>
          rw [first, second] at discovered
          cases discovered
      | ok python =>
          rw [first, second] at discovered
          have all : markdown ++ python = documents := by
            cases discovered
            simp
          obtain ⟨markdownDistinct, inDocs⟩ := loadGlob_sourcePaths sha256Hex first
          obtain ⟨pythonDistinct, inApp⟩ := loadGlob_sourcePaths sha256Hex second
          rw [← all, List.map_append, List.nodup_append]
          refine ⟨markdownDistinct, pythonDistinct, ?_⟩
          intro left leftHeld right rightHeld same
          obtain ⟨leftDocument, inLeft, rfl⟩ := List.mem_map.mp leftHeld
          obtain ⟨rightDocument, inRight, rfl⟩ := List.mem_map.mp rightHeld
          have roots := (inDocs leftDocument inLeft).symm.trans
            (same ▸ inApp rightDocument inRight)
          exact absurd roots (by decide)

end Loading

end Ingest
end ChatPlatform
