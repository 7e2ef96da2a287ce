import ChatPlatform.Foundation.Cuts
import ChatPlatform.Ingest.Manifest

/-!
# What the digest of a corpus tells apart

The digest is taken over lines of a path, a colon and a content digest, joined with line
feeds. A path may hold all of these, so that one document with a long path can be hashed
as two. Two lists of rows have the same digest exactly when their sorted lines have the
same finest pieces; where no path can be cut, only rearranged lists have.
-/

namespace ChatPlatform
namespace Ingest

open Text

variable (functions : Functions)

/-! ## The hashed text -/

/-- The line of a row. -/
def fingerprintLine (row : Str × Str) : Str := row.1 ++ ":".toList ++ row.2

/-- The rows in the order of their paths and digests. -/
def sortedRows (rows : List (Str × Str)) : List (Str × Str) :=
  rows.insertionSort fun left right => toLex left ≤ toLex right

/-- The text whose digest is taken. -/
def fingerprintText (rows : List (Str × Str)) : Str :=
  join "\n".toList ((sortedRows rows).map fingerprintLine)

theorem contentFingerprint_eq (rows : List (Str × Str)) :
    contentFingerprint functions rows = functions.sha256Hex (fingerprintText rows) := rfl

/-! ## Digests in lines -/

/-- Sixty-four hexadecimal digits. -/
def isContentDigest (s : Str) : Bool :=
  s.length = 64 && s.all fun c => c ∈ Numeral.hexAlphabet

/-- A path, a colon and a digest. -/
def endsInDigest (piece : Str) : Bool :=
  match piece.drop (piece.length - 65) with
  | ':' :: digest => isContentDigest digest
  | _ => false

/-- The lines of the sorted rows, each cut at the line feeds that stand after a colon and
a digest. -/
def finestLines (rows : List (Str × Str)) : List Str :=
  ((sortedRows rows).map fingerprintLine).flatMap (Cuts.cut endsInDigest '\n')

/-- The content digests of the rows are digests. -/
def Hashed (rows : List (Str × Str)) : Prop := ∀ row ∈ rows, isContentDigest row.2 = true

instance (rows : List (Str × Str)) : Decidable (Hashed rows) :=
  List.decidableBAll (fun row : Str × Str => isContentDigest row.2 = true) rows

/-- No line feed of the path stands after a colon and a digest. -/
def PlainPath (path : Str) : Prop :=
  ∀ front rest, path = front ++ '\n' :: rest → endsInDigest front = false

theorem length_of_isContentDigest
    {digest : Str}
    (isDigest : isContentDigest digest = true) : digest.length = 64 := by
  unfold isContentDigest at isDigest
  rw [Bool.and_eq_true] at isDigest
  exact of_decide_eq_true isDigest.1

theorem lineFeed_not_mem_of_isContentDigest
    {digest : Str}
    (isDigest : isContentDigest digest = true) : '\n' ∉ digest := by
  intro held
  unfold isContentDigest at isDigest
  rw [Bool.and_eq_true, List.all_eq_true] at isDigest
  exact absurd (of_decide_eq_true (isDigest.2 _ held)) (by decide)

theorem endsInDigest_append
    {digest : Str}
    (isDigest : isContentDigest digest = true)
    (path : Str) : endsInDigest (path ++ ':' :: digest) = true := by
  have dropped : (path ++ ':' :: digest).length - 65 = path.length := by
    rw [List.length_append, List.length_cons, length_of_isContentDigest isDigest,
      Nat.add_sub_cancel]
  unfold endsInDigest
  rw [dropped, List.drop_left]
  exact isDigest

theorem fingerprintLine_eq (row : Str × Str) :
    fingerprintLine row = row.1 ++ ':' :: row.2 := by
  unfold fingerprintLine
  rw [List.append_assoc]
  rfl

/-- The line of a row is a word: the end of it can be told. -/
theorem isWord_fingerprintLine
    {row : Str × Str}
    (isDigest : isContentDigest row.2 = true) :
    Cuts.IsWord endsInDigest '\n' (fingerprintLine row) := by
  refine ⟨row.1, ':' :: row.2, fingerprintLine_eq row, ?_, endsInDigest_append isDigest⟩
  intro held
  rcases List.mem_cons.mp held with isColon | inDigest
  · exact absurd isColon (by decide)
  · exact lineFeed_not_mem_of_isContentDigest isDigest inDigest

/-- Rows with digests have a line each of their own. -/
theorem eq_of_fingerprintLine_eq
    {row other : Str × Str}
    (isDigest : isContentDigest row.2 = true)
    (otherDigest : isContentDigest other.2 = true)
    (same : fingerprintLine row = fingerprintLine other) : row = other := by
  rw [fingerprintLine_eq, fingerprintLine_eq] at same
  have lengths : (':' :: row.2).length = (':' :: other.2).length := by
    rw [List.length_cons, List.length_cons, length_of_isContentDigest isDigest,
      length_of_isContentDigest otherDigest]
  obtain ⟨samePath, sameEnd⟩ := List.append_inj' same lengths
  exact Prod.ext samePath (List.cons.inj sameEnd).2

/-! ## Sorted rows -/

theorem sortedRows_perm (rows : List (Str × Str)) : (sortedRows rows).Perm rows :=
  List.perm_insertionSort _ rows

theorem Hashed.sortedRows
    {rows : List (Str × Str)}
    (hashed : Hashed rows) : Hashed (sortedRows rows) :=
  fun row held => hashed row ((sortedRows_perm rows).mem_iff.mp held)

theorem Hashed.areWords
    {rows : List (Str × Str)}
    (hashed : Hashed rows) :
    ∀ word ∈ (Ingest.sortedRows rows).map fingerprintLine,
      Cuts.IsWord endsInDigest '\n' word ∧ word ≠ [] := by
  intro word held
  obtain ⟨row, inRows, rfl⟩ := List.mem_map.mp held
  refine ⟨isWord_fingerprintLine (hashed.sortedRows row inRows), ?_⟩
  rw [fingerprintLine_eq]
  exact List.append_ne_nil_of_right_ne_nil _ (List.cons_ne_nil _ _)

/-- The same text is hashed exactly when the finest lines are the same. -/
theorem fingerprintText_eq_iff
    {rows others : List (Str × Str)}
    (hashed : Hashed rows)
    (othersHashed : Hashed others) :
    fingerprintText rows = fingerprintText others ↔ finestLines rows = finestLines others :=
  Cuts.join_eq_join_iff hashed.areWords othersHashed.areWords

/-- Lines that are the same are those of rearranged rows. -/
theorem perm_of_lines_eq
    {rows others : List (Str × Str)}
    (hashed : Hashed rows)
    (othersHashed : Hashed others)
    (same : (sortedRows rows).map fingerprintLine =
      (sortedRows others).map fingerprintLine) : rows.Perm others := by
  have alike : ∀ left right : List (Str × Str), Hashed left → Hashed right →
      left.map fingerprintLine = right.map fingerprintLine → left = right := by
    intro left
    induction left with
    | nil =>
        intro right _ _ mapped
        exact (List.map_eq_nil_iff.mp mapped.symm).symm
    | cons row left inductionHypothesis =>
        intro right leftHashed rightHashed mapped
        cases right with
        | nil => cases mapped
        | cons other right =>
            rw [List.map_cons, List.map_cons] at mapped
            obtain ⟨sameLine, sameRest⟩ := List.cons.inj mapped
            rw [eq_of_fingerprintLine_eq (leftHashed row List.mem_cons_self)
              (rightHashed other List.mem_cons_self) sameLine,
              inductionHypothesis right
                (fun row held => leftHashed row (List.mem_cons_of_mem _ held))
                (fun row held => rightHashed row (List.mem_cons_of_mem _ held)) sameRest]
  have sameRows := alike _ _ hashed.sortedRows othersHashed.sortedRows same
  exact (sortedRows_perm rows).symm.trans (sameRows ▸ sortedRows_perm others)

/-- A path that is plain leaves its line in one piece. -/
theorem cut_fingerprintLine
    {row : Str × Str}
    (isDigest : isContentDigest row.2 = true)
    (plain : PlainPath row.1) :
    Cuts.cut endsInDigest '\n' (fingerprintLine row) = [fingerprintLine row] := by
  refine Cuts.cut_eq_singleton fun front rest whole => ?_
  rw [fingerprintLine_eq] at whole
  rcases List.append_eq_append_iff.mp whole with ⟨extra, isFront, isEnd⟩ |
    ⟨extra, isPath, isRest⟩
  · have inEnd : '\n' ∈ ':' :: row.2 := by
      rw [isEnd]
      exact List.mem_append_right _ List.mem_cons_self
    rcases List.mem_cons.mp inEnd with isColon | inDigest
    · exact absurd isColon (by decide)
    · exact absurd inDigest (lineFeed_not_mem_of_isContentDigest isDigest)
  · cases extra with
    | nil => exact absurd (List.cons.inj isRest).1 (by decide)
    | cons c extra =>
        obtain ⟨rfl, _⟩ := List.cons.inj isRest
        exact plain front extra isPath

/-! ## What the digest identifies -/

/-- Without a collision of the hash on the two texts, the digest tells two lists of rows
apart up to their order exactly when they are rearrangements of each other or differ in
their finest lines. -/
theorem contentFingerprint_identifies_iff
    (rows others : List (Str × Str))
    (hashed : Hashed rows)
    (othersHashed : Hashed others)
    (noCollision : functions.sha256Hex (fingerprintText rows) =
        functions.sha256Hex (fingerprintText others) →
      fingerprintText rows = fingerprintText others) :
    (contentFingerprint functions rows = contentFingerprint functions others ↔
        rows.Perm others) ↔
      (finestLines rows = finestLines others → rows.Perm others) := by
  have sameText := fingerprintText_eq_iff hashed othersHashed
  constructor
  · intro identifies finest
    refine identifies.mp ?_
    rw [contentFingerprint_eq, contentFingerprint_eq, sameText.mpr finest]
  · intro told
    exact ⟨fun same => told (sameText.mp (noCollision same)), contentFingerprint_perm functions⟩

/-- The rows of two notes. -/
def noteRows : List (Str × Str) :=
  [("a".toList, List.replicate 64 'a'), ("b".toList, List.replicate 64 'b')]

/-- The row of one note whose path holds what the line of another note ends with. -/
def longPathRows : List (Str × Str) :=
  [("a:".toList ++ List.replicate 64 'a' ++ "\nb".toList, List.replicate 64 'b')]

/-- The rows of the two notes are told from those rows in the other order, of which they
are a rearrangement. -/
theorem contentFingerprint_identifies_notes :
    contentFingerprint noteFunctions noteRows =
        contentFingerprint noteFunctions noteRows.reverse ↔
      noteRows.Perm noteRows.reverse :=
  (contentFingerprint_identifies_iff noteFunctions noteRows noteRows.reverse
    (by decide +kernel) (by decide +kernel) id).mpr fun _ => (List.reverse_perm noteRows).symm

/-- Two notes have the digest of one note with a long path, also with a hash that tells
all texts apart. -/
theorem not_contentFingerprint_identifies :
    ¬ ∀ functions : Functions, Function.Injective functions.sha256Hex →
      ∀ rows others : List (Str × Str), Hashed rows → Hashed others →
        (contentFingerprint functions rows = contentFingerprint functions others ↔
          rows.Perm others) := by
  intro identifies
  have same : contentFingerprint noteFunctions noteRows =
      contentFingerprint noteFunctions longPathRows := by decide +kernel
  have rearranged := (identifies noteFunctions Function.injective_id noteRows longPathRows
    (by decide +kernel) (by decide +kernel)).mp same
  exact absurd rearranged.length_eq (by decide)

/-- Rows whose paths are plain are told apart by their finest lines. -/
theorem perm_of_finestLines_eq
    {rows others : List (Str × Str)}
    (hashed : Hashed rows)
    (othersHashed : Hashed others)
    (plain : ∀ row ∈ rows, PlainPath row.1)
    (othersPlain : ∀ row ∈ others, PlainPath row.1)
    (same : finestLines rows = finestLines others) : rows.Perm others := by
  have uncut : ∀ list : List (Str × Str), Hashed list → (∀ row ∈ list, PlainPath row.1) →
      finestLines list = (sortedRows list).map fingerprintLine := by
    intro list listHashed listPlain
    unfold finestLines
    rw [List.flatMap_map, List.flatMap_congr fun row held =>
      cut_fingerprintLine (listHashed.sortedRows row held)
        (listPlain row ((sortedRows_perm list).mem_iff.mp held))]
    exact List.map_eq_flatMap.symm
  refine perm_of_lines_eq hashed othersHashed ?_
  rw [← uncut rows hashed plain, same, uncut others othersHashed othersPlain]

end Ingest
end ChatPlatform
