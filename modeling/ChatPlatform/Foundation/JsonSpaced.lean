import ChatPlatform.Foundation.JsonCanonical
import ChatPlatform.Foundation.Lines

/-!
# Records on lines of their own

The default style of a writer puts a space after every comma and every colon. A record is
a dictionary of scalars, or of scalars and lists of scalars. Its text, with the keys in
order, is read back as the record in that order. It stands on one line unless one of its
strings has a line break that is not escaped, so that a file of records is split into the
texts of the records again.
-/

namespace ChatPlatform
namespace Json

open Text

variable {F : Type} [FloatOps F]

/-- A value that holds no further values. -/
def isScalar : Value F → Bool
  | .list _ | .dict _ => false
  | _ => true

/-- A record of scalars. -/
structure ScalarRecord (record : Dict F) : Prop where
  /-- No key occurs twice. -/
  distinct : (record.map (·.1)).Nodup
  /-- Every value is a scalar. -/
  scalars : ∀ entry ∈ record, isScalar entry.2 = true

/-- The entries in the order of their keys. -/
def sortKeys (record : Dict F) : Dict F := record.insertionSort entryLe

/-- An entry with a space after the colon. -/
def spacedEntry (ascii : Bool) (entry : Str × Value F) : Str :=
  quote (inOrder ascii) entry.1 ++ ':' :: ' ' :: dumps (inOrder ascii) entry.2

/-- Entries with a space after each comma. -/
def spacedEntries (ascii : Bool) (entries : Dict F) : Str :=
  join [',', ' '] (entries.map (spacedEntry ascii))

/-- The text of a record, with its keys in order. -/
def spaced (ascii : Bool) (record : Dict F) : Str :=
  '\x7b' :: spacedEntries ascii (sortKeys record) ++ ['\x7d']

/-- A value that is a scalar or a list of scalars. -/
def isFlat : Value F → Bool
  | .list items => items.all isScalar
  | value => isScalar value

/-- Items with a space after each comma. -/
def spacedItems (ascii : Bool) (items : List (Value F)) : Str :=
  join [',', ' '] (items.map (dumps (inOrder ascii)))

/-- The text of a scalar or of a list of scalars. -/
def spacedValue (ascii : Bool) : Value F → Str
  | .list items => '[' :: spacedItems ascii items ++ [']']
  | value => dumps (inOrder ascii) value

section Writing

variable (ascii : Bool) (write : Value F → Str)

/-- An entry with a space after the colon, whose value is written in some way. -/
def entryWith (entry : Str × Value F) : Str :=
  quote (inOrder ascii) entry.1 ++ ':' :: ' ' :: write entry.2

/-- Such entries with a space after each comma. -/
def entriesWith (entries : Dict F) : Str :=
  join [',', ' '] (entries.map (entryWith ascii write))

/-- The text of a dictionary of such entries, with its keys in order. -/
def recordWith (record : Dict F) : Str :=
  '\x7b' :: entriesWith ascii write (sortKeys record) ++ ['\x7d']

/-- A way to write a value after which it is read back. -/
structure Legible (repeats : Bool) (value : Value F) : Prop where
  /-- The text begins with a character that is not blank and ends no list. -/
  starts : ∃ first word, write value = first :: word ∧ isBlank first = false ∧ first ≠ ']'
  /-- It is read up to where something other than a number begins. -/
  isRead : ∀ {fuel : Nat} {rest : Str}, 2 * (write value).length + 1 ≤ fuel →
    EndsNumber rest → readValue ⟨true, repeats⟩ fuel (write value ++ rest) = some (value, rest)

end Writing

/-- The text of a record that may have lists of scalars, with its keys in order. -/
def spacedFlat (ascii : Bool) (record : Dict F) : Str := recordWith ascii (spacedValue ascii) record

/-- The texts of numbers that are not finite are the words for them. -/
class ReadableConstants (F : Type) [FloatOps F] : Prop where
  /-- Such a number has one of the words, which is read as the number. -/
  word : ∀ x : F, isFinite x = false →
    FloatOps.text x ∈ ["NaN".toList, "Infinity".toList, "-Infinity".toList] ∧
      FloatOps.ofText (FloatOps.text x) = some x

instance : ReadableConstants Empty where
  word := nofun

/-! ## Sorted records -/

omit [FloatOps F] in
theorem sortKeys_perm (record : Dict F) : (sortKeys record).Perm record :=
  List.perm_insertionSort _ record

omit [FloatOps F] in
theorem ScalarRecord.sortKeys {record : Dict F} (isRecord : ScalarRecord record) :
    ScalarRecord (sortKeys record) where
  distinct := ((sortKeys_perm record).map _).nodup_iff.mpr isRecord.distinct
  scalars entry held := isRecord.scalars entry ((sortKeys_perm record).mem_iff.mp held)

omit [FloatOps F] in
/-- A sorted record has under a key what the record has. -/
theorem get_sortKeys
    {record : Dict F}
    (distinct : (record.map (·.1)).Nodup)
    (key : Str) : Dict.get (sortKeys record) key = Dict.get record key := by
  have sortedDistinct : ((sortKeys record).map (·.1)).Nodup :=
    ((sortKeys_perm record).map _).nodup_iff.mpr distinct
  cases found : Dict.get record key with
  | some value =>
      exact Keyed.find_of_mem sortedDistinct
        ((sortKeys_perm record).mem_iff.mpr (Keyed.mem_of_find found))
  | none =>
      cases foundSorted : Dict.get (sortKeys record) key with
      | none => rfl
      | some value =>
          have held := (sortKeys_perm record).mem_iff.mp (Keyed.mem_of_find foundSorted)
          have isFound : Dict.get record key = some value := Keyed.find_of_mem distinct held
          rw [found] at isFound
          cases isFound

/-! ## Reading a record -/

section Reading

/-- What is not blank after a space is what is left. -/
theorem skipBlank_space
    {c : Char}
    (visible : isBlank c = false)
    (rest : Str) : skipBlank (' ' :: c :: rest) = c :: rest := by
  rw [skipBlank, List.dropWhile_cons_of_pos (by decide)]
  exact skipBlank_cons visible rest

section Written

variable {ascii repeats : Bool} {write : Value F → Str}

/-- Whether a value is read back depends on its own text only. -/
theorem Legible.congr
    {other : Value F → Str}
    {value : Value F}
    (legible : Legible other repeats value)
    (same : write value = other value) : Legible write repeats value where
  starts := same ▸ legible.starts
  isRead := same ▸ legible.isRead

/-- A key, a space and a value are read. -/
private theorem readKey_spaced
    (key : Str)
    {fuel : Nat}
    {c : Char}
    {rest : Str}
    (enough : key.length < fuel)
    (visible : isBlank c = false) :
    readKey fuel (quote (inOrder ascii) key ++ ':' :: ' ' :: c :: rest) =
      some (key, c :: rest) := by
  have closed : quote (inOrder ascii) key ++ ':' :: ' ' :: c :: rest =
      '"' :: (key.flatMap (escapeChar (inOrder ascii)) ++ '"' :: ':' :: ' ' :: c :: rest) := by
    simp [quote]
  rw [closed, readKey, if_pos rfl, scanChars_flatMap _ key _ enough]
  dsimp only
  rw [skipBlank_cons (by decide)]
  dsimp only
  rw [if_pos rfl, skipBlank_space visible]

omit [FloatOps F] in
/-- Entries are an entry, and the others after a comma and a space. -/
private theorem entriesWith_cons
    (entry next : Str × Value F)
    (others : Dict F) :
    entriesWith ascii write (entry :: next :: others) =
      entryWith ascii write entry ++ ',' :: ' ' :: entriesWith ascii write (next :: others) := by
  rw [entriesWith, List.map_cons, join_cons_of_ne_nil _ _ (by simp), List.append_assoc]
  rfl

omit [FloatOps F] in
/-- Entries begin with a quotation mark. -/
private theorem entriesWith_starts
    (ascii : Bool)
    (write : Value F → Str)
    (entry : Str × Value F)
    (others : Dict F) :
    ∃ after, entriesWith ascii write (entry :: others) = '"' :: after := by
  cases others with
  | nil => exact ⟨_, rfl⟩
  | cons next others =>
      rw [entriesWith_cons]
      exact ⟨_, rfl⟩

/-- An entry is read, and its value ends where something else begins. -/
private theorem read_entryWith
    {entry : Str × Value F}
    (legible : Legible write repeats entry.2)
    {fuel : Nat}
    {rest : Str}
    (enough : 2 * (entryWith ascii write entry).length ≤ fuel + 2)
    (ends : EndsNumber rest) :
    ∃ after, readKey fuel (entryWith ascii write entry ++ rest) = some (entry.1, after) ∧
      readValue ⟨true, repeats⟩ fuel after = some (entry.2, rest) := by
  have longer := length_lt_quote (inOrder ascii) entry.1
  rw [entryWith, List.length_append, List.length_cons, List.length_cons] at enough
  obtain ⟨first, word, starts, visible, -⟩ := legible.starts
  refine ⟨write entry.2 ++ rest, ?_, legible.isRead (by omega) ends⟩
  rw [entryWith, List.append_assoc, List.cons_append, List.cons_append, starts,
    List.cons_append]
  exact readKey_spaced entry.1 (by omega) visible

/-- The entries of a dictionary are read back. -/
theorem readEntries_entriesWith
    (entries : Dict F)
    (nonempty : entries ≠ [])
    {fuel : Nat}
    (rest : Str)
    (legible : ∀ entry ∈ entries, Legible write repeats entry.2)
    (enough : 2 * (entriesWith ascii write entries).length + 2 ≤ fuel) :
    readEntries ⟨true, repeats⟩ fuel (entriesWith ascii write entries ++ '\x7d' :: rest) =
      some (entries, rest) := by
  induction entries generalizing fuel with
  | nil => exact absurd rfl nonempty
  | cons entry others inductionHypothesis =>
      obtain ⟨fuel, rfl⟩ : ∃ less, fuel = less + 1 := ⟨fuel - 1, by omega⟩
      have first := legible entry List.mem_cons_self
      cases others with
      | nil =>
          change readEntries _ _ (entryWith ascii write entry ++ '\x7d' :: rest) = _
          change 2 * (entryWith ascii write entry).length + 2 ≤ fuel + 1 at enough
          have room : 2 * (entryWith ascii write entry).length ≤ fuel + 2 := by omega
          obtain ⟨after, isKey, isValue⟩ := read_entryWith first room
            (endsNumber_cons (c := '\x7d') (by decide) rest)
          rw [readEntries, isKey]
          dsimp only
          rw [isValue]
          rfl
      | cons next others =>
          rw [entriesWith_cons, List.length_append, List.length_cons, List.length_cons]
            at enough
          have split : entriesWith ascii write (entry :: next :: others) ++ '\x7d' :: rest =
              entryWith ascii write entry ++
                ',' :: ' ' :: (entriesWith ascii write (next :: others) ++ '\x7d' :: rest) := by
            rw [entriesWith_cons, List.append_assoc]
            rfl
          have room : 2 * (entryWith ascii write entry).length ≤ fuel + 2 := by omega
          obtain ⟨after, isKey, isValue⟩ := read_entryWith first room (endsNumber_cons (c := ',')
            (by decide) (' ' :: (entriesWith ascii write (next :: others) ++ '\x7d' :: rest)))
          obtain ⟨tail, starts⟩ := entriesWith_starts ascii write next others
          have left : 2 * (entriesWith ascii write (next :: others)).length + 2 ≤ fuel := by omega
          have back := inductionHypothesis (List.cons_ne_nil _ _)
            (fun other held => legible other (List.mem_cons_of_mem _ held)) left
          rw [split, readEntries, isKey]
          dsimp only
          rw [isValue]
          dsimp only
          rw [skipBlank_cons (by decide)]
          dsimp only
          rw [if_pos rfl, starts, List.cons_append, skipBlank_space (by decide),
            ← List.cons_append, ← starts, back]
          rfl

/-- A dictionary is read back from its text with its keys in order. -/
theorem loads_recordWith
    {record : Dict F}
    (distinct : (record.map (·.1)).Nodup)
    (legible : ∀ entry ∈ record, Legible write repeats entry.2) :
    loads ⟨true, repeats⟩ (recordWith ascii write record) = some (.dict (sortKeys record)) := by
  have sortedDistinct : ((sortKeys record).map (·.1)).Nodup :=
    ((sortKeys_perm record).map _).nodup_iff.mpr distinct
  have sortedLegible : ∀ entry ∈ sortKeys record, Legible write repeats entry.2 :=
    fun entry held => legible entry ((sortKeys_perm record).mem_iff.mp held)
  have whole : dictionary ⟨true, repeats⟩ (sortKeys record) =
      some (.dict (sortKeys record)) := by
    unfold dictionary
    rw [if_pos (Or.inr sortedDistinct), Keyed.ofList_of_nodup sortedDistinct]
  unfold loads recordWith
  rw [List.cons_append, skipBlank_cons (by decide), List.length_cons]
  generalize sortKeys record = entries at sortedLegible whole
  cases entries with
  | nil => rfl
  | cons entry others =>
      obtain ⟨tail, starts⟩ := entriesWith_starts ascii write entry others
      have visible : skipBlank (entriesWith ascii write (entry :: others) ++ ['\x7d']) =
          entriesWith ascii write (entry :: others) ++ ['\x7d'] := by
        rw [starts]
        exact skipBlank_cons (by decide) _
      have back : readEntries ⟨true, repeats⟩
          (2 * ((entriesWith ascii write (entry :: others) ++ ['\x7d']).length + 1) + 1)
          (entriesWith ascii write (entry :: others) ++ ['\x7d']) = some (entry :: others, []) :=
        readEntries_entriesWith (entry :: others) (List.cons_ne_nil _ _) []
          sortedLegible (by rw [List.length_append]; omega)
      have notEmpty : (entriesWith ascii write (entry :: others) ++ ['\x7d']).head? ≠
          some '\x7d' := by
        rw [starts]
        exact fun same => absurd (Option.some.inj same) (by decide)
      rw [readValue, if_neg (by decide), if_neg (by decide), if_pos rfl, visible,
        if_neg notEmpty, back, Option.bind_some, whole]
      rfl

end Written

variable [ReadableFloats F] [ReadableConstants F]

omit [ReadableFloats F] in
/-- The words for numbers that are not finite are read. -/
private theorem readValue_constant
    (repeats : Bool)
    {x : F}
    (notFinite : isFinite x = false)
    (fuel : Nat)
    (rest : Str) :
    readValue ⟨true, repeats⟩ (fuel + 1) (FloatOps.text x ++ rest) = some (.float x, rest) := by
  have atom : ∀ c after, c ≠ '"' → c ≠ '[' → c ≠ '\x7b' →
      readAtom (F := F) ⟨true, repeats⟩ (c :: after) = some (.float x, rest) →
        readValue ⟨true, repeats⟩ (fuel + 1) (c :: after) = some (.float x, rest) := by
    intro c after noString noList noRecord isRead
    rw [readValue, if_neg noString, if_neg noList, if_neg noRecord]
    exact isRead
  have found : ∀ word ∈ ["NaN".toList, "Infinity".toList, "-Infinity".toList],
      (words (F := F) ⟨true, repeats⟩).find? (fun other => other.1.isPrefixOf (word ++ rest)) =
        some (word, (FloatOps.ofText word).map .float) := by
    intro word isWord
    simp only [List.mem_cons, List.not_mem_nil, or_false] at isWord
    rcases isWord with rfl | rfl | rfl <;> rfl
  obtain ⟨isWord, isRead⟩ := ReadableConstants.word x notFinite
  have read : readAtom ⟨true, repeats⟩ (FloatOps.text x ++ rest) = some (.float x, rest) := by
    rw [readAtom, found _ isWord, isRead]
    exact congrArg some (Prod.ext rfl List.drop_left)
  simp only [List.mem_cons, List.not_mem_nil, or_false] at isWord
  rcases isWord with same | same | same
  · rw [same] at read ⊢
    exact atom 'N' _ (by decide) (by decide) (by decide) read
  · rw [same] at read ⊢
    exact atom 'I' _ (by decide) (by decide) (by decide) read
  · rw [same] at read ⊢
    exact atom '-' _ (by decide) (by decide) (by decide) read

/-- The text of a scalar begins with a character that is not blank. -/
private theorem dumps_scalar_starts
    (ascii : Bool)
    {value : Value F}
    (scalar : isScalar value = true) :
    ∃ first word, dumps (inOrder ascii) value = first :: word ∧ isBlank first = false ∧
      first ≠ ']' := by
  cases isReadable : readable value with
  | true => exact dumps_starts (inOrder ascii) isReadable
  | false =>
      cases value with
      | none | bool _ | int _ | str _ => cases isReadable
      | list _ | dict _ => cases scalar
      | float x =>
          have isWord := (ReadableConstants.word x isReadable).1
          simp only [List.mem_cons, List.not_mem_nil, or_false] at isWord
          rw [dumps]
          rcases isWord with same | same | same
          · exact ⟨'N', _, same, by decide, by decide⟩
          · exact ⟨'I', _, same, by decide, by decide⟩
          · exact ⟨'-', _, same, by decide, by decide⟩

/-- A scalar is read back from its text. -/
theorem legible_scalar
    (repeats ascii : Bool)
    {value : Value F}
    (scalar : isScalar value = true) :
    Legible (dumps (inOrder ascii)) repeats value := by
  refine ⟨dumps_scalar_starts ascii scalar, fun {fuel rest} enough ends => ?_⟩
  cases isReadable : readable value with
  | true => exact readValue_dumps _ ascii value isReadable (by omega) ends
  | false =>
      cases value with
      | none | bool _ | int _ | str _ => cases isReadable
      | list _ | dict _ => cases scalar
      | float x =>
          obtain ⟨fuel, rfl⟩ : ∃ less, fuel = less + 1 := ⟨fuel - 1, by omega⟩
          rw [dumps]
          exact readValue_constant repeats isReadable fuel rest

/-- A record is read back from its text with its keys in order. -/
theorem loads_spaced
    (repeats ascii : Bool)
    {record : Dict F}
    (isRecord : ScalarRecord record) :
    loads ⟨true, repeats⟩ (spaced ascii record) = some (.dict (sortKeys record)) :=
  loads_recordWith isRecord.distinct fun entry held =>
    legible_scalar repeats ascii (isRecord.scalars entry held)

omit [ReadableFloats F] [ReadableConstants F] in
/-- Items are an item, and the others after a comma and a space. -/
private theorem spacedItems_cons
    (ascii : Bool)
    (item next : Value F)
    (others : List (Value F)) :
    spacedItems ascii (item :: next :: others) =
      dumps (inOrder ascii) item ++ ',' :: ' ' :: spacedItems ascii (next :: others) := by
  rw [spacedItems, List.map_cons, join_cons_of_ne_nil _ _ (by simp), List.append_assoc]
  rfl

/-- Items begin as the first one does. -/
private theorem spacedItems_starts
    (ascii : Bool)
    {item : Value F}
    (scalar : isScalar item = true)
    (others : List (Value F)) :
    ∃ first after, spacedItems ascii (item :: others) = first :: after ∧
      isBlank first = false ∧ first ≠ ']' := by
  obtain ⟨first, word, starts, visible, notEnd⟩ := dumps_scalar_starts ascii scalar
  cases others with
  | nil => exact ⟨first, word, starts, visible, notEnd⟩
  | cons next others =>
      rw [spacedItems_cons, starts]
      exact ⟨first, _, rfl, visible, notEnd⟩

/-- The items of a list are read back. -/
private theorem readItems_spacedItems
    (repeats ascii : Bool)
    (items : List (Value F))
    (nonempty : items ≠ [])
    {fuel : Nat}
    (rest : Str)
    (scalars : ∀ item ∈ items, isScalar item = true)
    (enough : 2 * (spacedItems ascii items).length + 2 ≤ fuel) :
    readItems ⟨true, repeats⟩ fuel (spacedItems ascii items ++ ']' :: rest) =
      some (items, rest) := by
  induction items generalizing fuel with
  | nil => exact absurd rfl nonempty
  | cons item others inductionHypothesis =>
      obtain ⟨fuel, rfl⟩ : ∃ less, fuel = less + 1 := ⟨fuel - 1, by omega⟩
      have legible := legible_scalar repeats ascii (scalars item List.mem_cons_self)
      cases others with
      | nil =>
          change readItems _ _ (dumps (inOrder ascii) item ++ ']' :: rest) = _
          change 2 * (dumps (inOrder ascii) item).length + 2 ≤ fuel + 1 at enough
          rw [readItems, legible.isRead (by omega) (endsNumber_cons (by decide) rest)]
          rfl
      | cons next others =>
          have nextScalar := scalars next (List.mem_cons_of_mem _ List.mem_cons_self)
          obtain ⟨first, tail, starts, visible, -⟩ := spacedItems_starts ascii nextScalar others
          rw [spacedItems_cons, List.length_append, List.length_cons, List.length_cons] at enough
          have back := inductionHypothesis (List.cons_ne_nil _ _)
            (fun other held => scalars other (List.mem_cons_of_mem _ held))
            (show 2 * (spacedItems ascii (next :: others)).length + 2 ≤ fuel by omega)
          rw [spacedItems_cons, List.append_assoc, List.cons_append, List.cons_append, readItems,
            legible.isRead (by omega) (endsNumber_cons (by decide) _)]
          dsimp only
          rw [skipBlank_cons (by decide)]
          dsimp only
          rw [if_pos rfl, starts, List.cons_append, skipBlank_space visible, ← List.cons_append,
            ← starts, back]
          rfl

/-- A scalar or a list of scalars is read back from its text. -/
theorem legible_flat
    (repeats ascii : Bool)
    {value : Value F}
    (flat : isFlat value = true) : Legible (spacedValue ascii) repeats value := by
  cases value with
  | none | bool _ | int _ | float _ | str _ =>
      refine (legible_scalar repeats ascii ?_).congr rfl
      exact flat
  | dict entries => cases flat
  | list items =>
      refine ⟨⟨'[', _, rfl, by decide, by decide⟩, fun {fuel rest} enough ends => ?_⟩
      obtain ⟨fuel, rfl⟩ : ∃ less, fuel = less + 1 := ⟨fuel - 1, by omega⟩
      have scalars := List.all_eq_true.mp flat
      rw [spacedValue, List.cons_append, List.cons_append, List.append_assoc, readValue,
        if_neg (by decide), if_pos rfl]
      cases items with
      | nil => rfl
      | cons item others =>
          obtain ⟨first, tail, starts, visible, notEnd⟩ :=
            spacedItems_starts ascii (scalars item List.mem_cons_self) others
          have room : 2 * (spacedItems ascii (item :: others)).length + 2 ≤ fuel := by
            rw [spacedValue, List.length_append, List.length_cons, List.length_singleton] at enough
            omega
          have back := readItems_spacedItems repeats ascii (item :: others)
            (List.cons_ne_nil _ _) rest scalars room
          have skipped : skipBlank (spacedItems ascii (item :: others) ++ [']'] ++ rest) =
              spacedItems ascii (item :: others) ++ ']' :: rest := by
            rw [starts, List.append_assoc]
            exact skipBlank_cons visible _
          have notEmpty : (spacedItems ascii (item :: others) ++ ']' :: rest).head? ≠
              some ']' := by
            rw [starts]
            exact fun same => absurd (Option.some.inj same) notEnd
          rw [← List.append_assoc, skipped, if_neg notEmpty, back]
          rfl

/-- A record with lists of scalars is read back from its text with its keys in order. -/
theorem loads_spacedFlat
    (repeats ascii : Bool)
    {record : Dict F}
    (distinct : (record.map (·.1)).Nodup)
    (flat : ∀ entry ∈ record, isFlat entry.2 = true) :
    loads ⟨true, repeats⟩ (spacedFlat ascii record) = some (.dict (sortKeys record)) :=
  loads_recordWith distinct fun entry held => legible_flat repeats ascii (flat entry held)

/-! ## Lines -/

omit [FloatOps F] [ReadableFloats F] [ReadableConstants F] in
/-- A text without the line breaks that are written as they are. -/
def Seamless (text : Str) : Prop :=
  ∀ c ∈ text, c.toNat ≠ 0x85 ∧ c.toNat ≠ 0x2028 ∧ c.toNat ≠ 0x2029

instance (text : Str) : Decidable (Seamless text) :=
  decidableForallMem text fun c => c.toNat ≠ 0x85 ∧ c.toNat ≠ 0x2028 ∧ c.toNat ≠ 0x2029

/-- A value that is no string with such a line break. -/
def SeamlessValue : Value F → Prop
  | .str text => Seamless text
  | _ => True

instance : DecidablePred (SeamlessValue (F := F)) := fun value =>
  match value with
  | .str text => inferInstanceAs (Decidable (Seamless text))
  | .none | .bool _ | .int _ | .float _ | .list _ | .dict _ => inferInstanceAs (Decidable True)

/-- A record none of whose strings has such a line break. -/
def SeamlessRecord (record : Dict F) : Prop :=
  ∀ entry ∈ record, Seamless entry.1 ∧ SeamlessValue entry.2

instance (record : Dict F) : Decidable (SeamlessRecord record) :=
  inferInstanceAs (Decidable (∀ entry ∈ record, Seamless entry.1 ∧ SeamlessValue entry.2))

/-- A character that can be printed and is none of these line breaks ends no line. -/
theorem isLineBreak_of_printable
    {c : Char}
    (printable : 32 ≤ c.toNat)
    (seamless : c.toNat ≠ 0x85 ∧ c.toNat ≠ 0x2028 ∧ c.toNat ≠ 0x2029) :
    isLineBreak c = false := by
  unfold isLineBreak
  simp only [Bool.or_eq_false_iff, Bool.and_eq_false_iff, decide_eq_false_iff_not,
    beq_eq_false_iff_ne]
  omega

/-- A text whose characters are checked one by one ends no line. -/
private theorem unbroken_of_all
    {text : Str}
    (all : (text.all fun c => !isLineBreak c) = true) : Unbroken text :=
  fun c held => Bool.not_eq_true' _ ▸ List.all_eq_true.mp all c held

/-- The written form of a seamless character ends no line. -/
private theorem unbroken_escapeChar
    (style : Style)
    {c : Char}
    (seamless : c.toNat ≠ 0x85 ∧ c.toNat ≠ 0x2028 ∧ c.toNat ≠ 0x2029) :
    Unbroken (escapeChar style c) := by
  have digits : Unbroken Numeral.hexAlphabet := unbroken_of_all (by decide)
  have unicode : ∀ unit, Unbroken (unicodeEscape unit) := by
    intro unit d held
    simp only [unicodeEscape, List.mem_cons] at held
    rcases held with rfl | rfl | held
    · decide
    · decide
    · exact digits d (Numeral.mem_hexAlphabet_of_mem_hexText held)
  unfold escapeChar
  dsimp only
  split_ifs with quoted backslash newline carriage tab formFeed backspace control ascii basic
  · exact unbroken_of_all (by decide)
  · exact unbroken_of_all (by decide)
  · exact unbroken_of_all (by decide)
  · exact unbroken_of_all (by decide)
  · exact unbroken_of_all (by decide)
  · exact unbroken_of_all (by decide)
  · exact unbroken_of_all (by decide)
  · exact unicode _
  · exact unicode _
  · exact List.forall_mem_append.mpr ⟨unicode _, unicode _⟩
  · intro d held
    rw [List.mem_singleton.mp held]
    exact isLineBreak_of_printable (Nat.le_of_not_lt control) seamless

/-- A literal of a seamless text ends no line. -/
theorem unbroken_quote
    (style : Style)
    {text : Str}
    (seamless : Seamless text) : Unbroken (quote style text) := by
  intro d held
  unfold quote at held
  rw [List.mem_append, List.mem_cons, List.mem_flatMap, List.mem_singleton] at held
  rcases held with (rfl | ⟨c, inText, held⟩) | rfl
  · decide
  · exact unbroken_escapeChar style (seamless c inText) d held
  · decide

/-- The characters of numbers end no line. -/
private theorem unbroken_token
    {token : Str}
    (written : token.all isNumberChar = true) : Unbroken token := by
  have characters : Unbroken "0123456789+-.eE".toList := unbroken_of_all (by decide)
  intro d held
  have isNumber := List.all_eq_true.mp written d held
  unfold isNumberChar at isNumber
  exact characters d (List.contains_iff_mem.mp isNumber)

/-- The text of a scalar ends no line. -/
theorem unbroken_scalar
    (ascii : Bool)
    {value : Value F}
    (scalar : isScalar value = true)
    (seamless : SeamlessValue value) :
    Unbroken (dumps (inOrder ascii) value) := by
  cases value with
  | none =>
      rw [dumps]
      exact unbroken_of_all (by decide)
  | bool held =>
      cases held with
      | true =>
          rw [dumps]
          exact unbroken_of_all (by decide)
      | false =>
          rw [dumps]
          exact unbroken_of_all (by decide)
  | int n =>
      rw [dumps]
      exact unbroken_token (decimal_all_isNumberChar n)
  | float x =>
      rw [dumps]
      cases isReadable : isFinite x with
      | true => exact unbroken_token (ReadableFloats.token x isReadable)
      | false =>
          have isWord := (ReadableConstants.word x isReadable).1
          simp only [List.mem_cons, List.not_mem_nil, or_false] at isWord
          rcases isWord with same | same | same
          · rw [same]
            exact unbroken_of_all (by decide)
          · rw [same]
            exact unbroken_of_all (by decide)
          · rw [same]
            exact unbroken_of_all (by decide)
  | str text =>
      rw [dumps]
      exact unbroken_quote _ seamless
  | list items => cases scalar
  | dict entries => cases scalar

omit [FloatOps F] [ReadableFloats F] [ReadableConstants F] in
/-- Texts that are joined by commas and spaces end no line if none of them does. -/
private theorem unbroken_join
    {texts : List Str}
    (unbroken : ∀ text ∈ texts, Unbroken text) : Unbroken (join [',', ' '] texts) := by
  have comma : Unbroken [',', ' '] := unbroken_of_all (by decide)
  intro c held
  rcases mem_of_mem_join held with separator | ⟨text, inTexts, held⟩
  · exact comma c separator
  · exact unbroken text inTexts c held

omit [FloatOps F] [ReadableFloats F] [ReadableConstants F] in
/-- The text of a dictionary ends no line if its keys are seamless and the texts of its
values end no line. -/
theorem unbroken_recordWith
    {ascii : Bool}
    {write : Value F → Str}
    {record : Dict F}
    (unbroken : ∀ entry ∈ record, Seamless entry.1 ∧ Unbroken (write entry.2)) :
    Unbroken (recordWith ascii write record) := by
  have entries : Unbroken (entriesWith ascii write (sortKeys record)) := by
    refine unbroken_join fun text held => ?_
    obtain ⟨entry, inSorted, rfl⟩ := List.mem_map.mp held
    obtain ⟨keySeamless, valueUnbroken⟩ :=
      unbroken entry ((sortKeys_perm record).mem_iff.mp inSorted)
    refine List.forall_mem_append.mpr ⟨unbroken_quote _ keySeamless, ?_⟩
    exact List.forall_mem_cons.mpr ⟨by decide,
      List.forall_mem_cons.mpr ⟨by decide, valueUnbroken⟩⟩
  unfold recordWith
  rw [List.cons_append]
  refine List.forall_mem_cons.mpr ⟨by decide, List.forall_mem_append.mpr ⟨entries, ?_⟩⟩
  exact unbroken_of_all (by decide)

/-- The text of a seamless record ends no line. -/
theorem unbroken_spaced
    (ascii : Bool)
    {record : Dict F}
    (isRecord : ScalarRecord record)
    (seamless : SeamlessRecord record) : Unbroken (spaced ascii record) :=
  unbroken_recordWith fun entry held =>
    ⟨(seamless entry held).1,
      unbroken_scalar ascii (isRecord.scalars entry held) (seamless entry held).2⟩

/-- A scalar or a list of scalars that are no strings with such a line break. -/
def SeamlessFlat : Value F → Prop
  | .list items => ∀ item ∈ items, SeamlessValue item
  | value => SeamlessValue value

/-- The text of a scalar or of a list of scalars ends no line. -/
theorem unbroken_spacedValue
    (ascii : Bool)
    {value : Value F}
    (flat : isFlat value = true)
    (seamless : SeamlessFlat value) : Unbroken (spacedValue ascii value) := by
  cases value with
  | none | bool _ | int _ | float _ | str _ => exact unbroken_scalar ascii flat seamless
  | dict entries => cases flat
  | list items =>
      have inner : Unbroken (spacedItems ascii items) := by
        refine unbroken_join fun text held => ?_
        obtain ⟨item, inItems, rfl⟩ := List.mem_map.mp held
        exact unbroken_scalar ascii (List.all_eq_true.mp flat item inItems)
          (seamless item inItems)
      rw [spacedValue, List.cons_append]
      refine List.forall_mem_cons.mpr ⟨by decide, List.forall_mem_append.mpr ⟨inner, ?_⟩⟩
      exact unbroken_of_all (by decide)

/-- The text of a seamless record with lists of scalars ends no line. -/
theorem unbroken_spacedFlat
    (ascii : Bool)
    {record : Dict F}
    (flat : ∀ entry ∈ record, isFlat entry.2 = true)
    (seamless : ∀ entry ∈ record, Seamless entry.1 ∧ SeamlessFlat entry.2) :
    Unbroken (spacedFlat ascii record) :=
  unbroken_recordWith fun entry held =>
    ⟨(seamless entry held).1,
      unbroken_spacedValue ascii (flat entry held) (seamless entry held).2⟩

omit [FloatOps F] [ReadableFloats F] [ReadableConstants F] in
/-- Texts that end no line are the lines of the file with each of them on a line. -/
theorem splitlines_texts
    {texts : List Str}
    (unbroken : ∀ text ∈ texts, Unbroken text) :
    splitlines (texts.flatMap fun text => text ++ ['\n']) = texts := by
  induction texts with
  | nil => rfl
  | cons text rest inductionHypothesis =>
      have here := unbroken text List.mem_cons_self
      have oneLine : OneLine text := by
        intro c held
        constructor
        · rintro rfl
          exact absurd (here _ held) (by decide)
        · rintro rfl
          exact absurd (here _ held) (by decide)
      have others := inductionHypothesis fun other held =>
        unbroken other (List.mem_cons_of_mem _ held)
      rw [List.flatMap_cons, List.append_assoc, splitlines_append oneLine (Or.inl rfl),
        cut_of_unbroken here, others]
      rfl

/-- A file with the text of each record on a line. -/
def recordFile (ascii : Bool) (records : List (Dict F)) : Str :=
  records.flatMap fun record => spaced ascii record ++ ['\n']

/-- A file of seamless records is split into their texts. -/
theorem splitlines_recordFile
    (ascii : Bool)
    {records : List (Dict F)}
    (areRecords : ∀ record ∈ records, ScalarRecord record ∧ SeamlessRecord record) :
    splitlines (recordFile ascii records) = records.map (spaced ascii) := by
  have unbroken : ∀ text ∈ records.map (spaced ascii), Unbroken text := by
    intro text held
    obtain ⟨record, inRecords, rfl⟩ := List.mem_map.mp held
    exact unbroken_spaced ascii (areRecords record inRecords).1 (areRecords record inRecords).2
  rw [← splitlines_texts unbroken, List.flatMap_map]
  rfl

omit [ReadableFloats F] [ReadableConstants F] in
/-- No text of a record is blank. -/
theorem strip_spaced_ne_nil (ascii : Bool) (record : Dict F) :
    strip (spaced ascii record) ≠ [] := by
  intro blank
  have isBlank := (strip_eq_nil_iff _).mp blank '\x7b' List.mem_cons_self
  exact absurd isBlank (by decide)

end Reading

end Json
end ChatPlatform
