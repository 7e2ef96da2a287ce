import ChatPlatform.Foundation.JsonCanonical

/-!
# Written texts have no line breaks

Control characters are escaped, so every character of the text of a value is printable
and the text stands on one line. A list of flat records, which are dictionaries whose values
hold no further values, is read back from its canonical text record by record, each with the
entries it had.
-/

namespace ChatPlatform
namespace Json

section Printable

variable {F : Type} [FloatOps F]

/-- A character that is not a control character. -/
def Printable (c : Char) : Prop := 32 ≤ c.toNat

instance : DecidablePred Printable := fun c => inferInstanceAs (Decidable (32 ≤ c.toNat))

/-- The written form of a character is printable. -/
private theorem printable_escapeChar (style : Style) (c : Char) :
    ∀ d ∈ escapeChar style c, Printable d := by
  have plain : ∀ text : Str, text.all (fun d => decide (Printable d)) = true →
      ∀ d ∈ text, Printable d :=
    fun text all d held => of_decide_eq_true (List.all_eq_true.mp all d held)
  have unicode : ∀ unit, ∀ d ∈ unicodeEscape unit, Printable d := by
    intro unit d held
    simp only [unicodeEscape, List.mem_cons] at held
    rcases held with rfl | rfl | held
    · decide
    · decide
    · exact plain _ (by decide) d (Numeral.mem_hexAlphabet_of_mem_hexText held)
  unfold escapeChar
  dsimp only
  split_ifs with quoted backslash newline carriage tab formFeed backspace control ascii basic
  · exact plain _ (by decide)
  · exact plain _ (by decide)
  · exact plain _ (by decide)
  · exact plain _ (by decide)
  · exact plain _ (by decide)
  · exact plain _ (by decide)
  · exact plain _ (by decide)
  · exact unicode _
  · exact unicode _
  · intro d held
    rcases List.mem_append.mp held with high | low
    · exact unicode _ d high
    · exact unicode _ d low
  · intro d held
    rw [List.mem_singleton.mp held]
    exact Nat.le_of_not_lt control

/-- A string literal is printable. -/
private theorem printable_quote (style : Style) (s : Str) :
    ∀ d ∈ quote style s, Printable d := by
  intro d held
  unfold quote at held
  rcases List.mem_append.mp held with held | held
  · rcases List.mem_cons.mp held with rfl | held
    · decide
    · obtain ⟨c, -, held⟩ := List.mem_flatMap.mp held
      exact printable_escapeChar style c d held
  · rw [List.mem_singleton.mp held]
    decide

/-- The characters of numbers are printable. -/
private theorem printable_token
    {token : Str}
    (written : token.all isNumberChar = true) : ∀ d ∈ token, Printable d := by
  intro d held
  have isNumber := List.all_eq_true.mp written d held
  unfold isNumberChar at isNumber
  have table : "0123456789+-.eE".toList.all (fun d => decide (Printable d)) = true := by decide
  exact of_decide_eq_true
    (List.all_eq_true.mp table d (List.contains_iff_mem.mp isNumber))

/-- Separated printable texts are printable. -/
private theorem printable_join
    {texts : List Str}
    (each : ∀ text ∈ texts, ∀ d ∈ text, Printable d) :
    ∀ d ∈ Text.join [','] texts, Printable d := by
  intro d held
  rcases Text.mem_of_mem_join held with separator | ⟨text, inTexts, held⟩
  · rw [List.mem_singleton.mp separator]
    decide
  · exact each text inTexts d held

mutual
/-- The text of a value is printable. -/
theorem printable_dumps
    [ReadableFloats F]
    (ascii : Bool)
    (value : Value F)
    (isReadable : readable value = true) :
    ∀ d ∈ dumps (inOrder ascii) value, Printable d := by
  have word : ∀ text : Str, text.all (fun d => decide (Printable d)) = true →
      ∀ d ∈ text, Printable d :=
    fun text all d held => of_decide_eq_true (List.all_eq_true.mp all d held)
  have bracketed : ∀ (first last : Char) (text : Str), Printable first → Printable last →
      (∀ d ∈ text, Printable d) → ∀ d ∈ first :: text ++ [last], Printable d := by
    intro first last text isFirst isLast inside d held
    rcases List.mem_append.mp held with held | held
    · rcases List.mem_cons.mp held with rfl | held
      · exact isFirst
      · exact inside d held
    · rw [List.mem_singleton.mp held]
      exact isLast
  cases value with
  | none =>
      rw [dumps]
      exact word _ (by decide)
  | bool held =>
      cases held with
      | true =>
          rw [dumps]
          exact word _ (by decide)
      | false =>
          rw [dumps]
          exact word _ (by decide)
  | int n =>
      rw [dumps]
      exact printable_token (decimal_all_isNumberChar n)
  | float x =>
      rw [dumps]
      exact printable_token (ReadableFloats.token x isReadable)
  | str s =>
      rw [dumps]
      exact printable_quote _ s
  | list items =>
      rw [dumps]
      exact bracketed '[' ']' _ (by decide) (by decide)
        (printable_join (printable_dumpsItems ascii items isReadable))
  | dict entries =>
      rw [dumps]
      unfold readable everywhere at isReadable
      unfold object
      simp only [Bool.false_eq_true, if_false]
      refine bracketed '\x7b' '\x7d' _ (by decide) (by decide) (printable_join ?_)
      intro text held
      obtain ⟨entry, present, rfl⟩ := List.mem_map.mp held
      have inside := printable_dumpsEntries ascii entries
        (Bool.and_eq_true_iff.mp isReadable).2 entry present
      intro d held
      rcases List.mem_append.mp held with inKey | held
      · exact printable_quote _ _ d inKey
      · rcases List.mem_cons.mp held with rfl | held
        · decide
        · exact inside d held
/-- The texts of the items of a list are printable. -/
theorem printable_dumpsItems
    [ReadableFloats F]
    (ascii : Bool)
    (items : List (Value F))
    (isReadable : everywhereItems isFinite (fun keys => decide keys.Nodup) items = true) :
    ∀ text ∈ dumpsItems (inOrder ascii) items, ∀ d ∈ text, Printable d := by
  cases items with
  | nil => exact fun _ held => absurd held List.not_mem_nil
  | cons item rest =>
      obtain ⟨this, others⟩ := Bool.and_eq_true_iff.mp isReadable
      rw [dumpsItems]
      intro text held
      rcases List.mem_cons.mp held with rfl | held
      · exact printable_dumps ascii item this
      · exact printable_dumpsItems ascii rest others text held
/-- The texts of the values of a dictionary are printable. -/
theorem printable_dumpsEntries
    [ReadableFloats F]
    (ascii : Bool)
    (entries : List (Str × Value F))
    (isReadable : everywhereEntries isFinite (fun keys => decide keys.Nodup) entries = true) :
    ∀ entry ∈ dumpsEntries (inOrder ascii) entries, ∀ d ∈ entry.2, Printable d := by
  cases entries with
  | nil => exact fun _ held => absurd held List.not_mem_nil
  | cons entry rest =>
      obtain ⟨key, value⟩ := entry
      obtain ⟨this, others⟩ := Bool.and_eq_true_iff.mp isReadable
      rw [dumpsEntries]
      intro entry held
      rcases List.mem_cons.mp held with rfl | held
      · exact printable_dumps ascii value this
      · exact printable_dumpsEntries ascii rest others entry held
end

/-- The canonical text of a value is printable. -/
theorem printable_canonical
    [ReadableFloats F]
    (ascii : Bool)
    {value : Value F}
    (isReadable : readable value = true) :
    ∀ d ∈ dumps ⟨true, ascii⟩ value, Printable d := by
  rw [dumps_arrange]
  exact printable_dumps ascii (arrange value) (by rwa [readable_arrange])

end Printable

/-! ## Lists of flat records -/

section Records

variable {F : Type}

/-- A value that holds no further values and no floating-point number. -/
def isAtom : Value F → Bool
  | .none => true
  | .bool _ => true
  | .int _ => true
  | .str _ => true
  | _ => false

/-- A dictionary of atoms. -/
structure FlatRecord (record : Dict F) : Prop where
  /-- No key occurs twice. -/
  distinct : (record.map (·.1)).Nodup
  /-- Every value is an atom. -/
  atoms : ∀ entry ∈ record, isAtom entry.2 = true

/-- The records are the same dictionaries, whatever the order of their entries. -/
def SameRecords (records others : List (Dict F)) : Prop :=
  List.Forall₂ List.Perm records others

/-- There is nothing to arrange in an atom. -/
theorem arrange_of_isAtom {value : Value F} (atom : isAtom value = true) :
    arrange value = value := by
  cases value with
  | none | bool | int | str =>
      simp only [arrange]
  | float x => cases atom
  | list items => cases atom
  | dict entries => cases atom

/-- The entries of a flat record are only put in order. -/
theorem FlatRecord.arrangeDict_perm
    {record : Dict F}
    (flat : FlatRecord record) : (arrangeDict record).Perm record := by
  have same : arrangeEntries record = record := by
    rw [arrangeEntries_eq_map]
    conv_rhs => rw [← List.map_id record]
    refine List.map_congr_left ?_
    intro entry held
    rw [arrange_of_isAtom (flat.atoms entry held)]
    rfl
  unfold arrangeDict
  rw [same]
  exact List.perm_insertionSort _ record

/-- A list of records is arranged record by record. -/
theorem arrange_records (records : List (Dict F)) :
    arrange (.list (records.map .dict)) = .list ((records.map arrangeDict).map .dict) := by
  have items : arrangeItems (records.map .dict) = (records.map arrangeDict).map .dict := by
    induction records with
    | nil => rfl
    | cons record rest inductionHypothesis =>
        simp only [List.map_cons, arrangeItems, inductionHypothesis, arrange_dict]
  rw [arrange, items]

/-- Arranged flat records are the records. -/
theorem sameRecords_arrange
    {records : List (Dict F)}
    (flat : ∀ record ∈ records, FlatRecord record) :
    SameRecords (records.map arrangeDict) records := by
  induction records with
  | nil => exact .nil
  | cons record rest inductionHypothesis =>
      exact .cons (flat record (by simp)).arrangeDict_perm
        (inductionHypothesis fun other held => flat other (List.mem_cons_of_mem _ held))

/-- Records with the same arrangement are the same records. -/
theorem sameRecords_of_arrange_eq
    {records others : List (Dict F)}
    (flat : ∀ record ∈ records, FlatRecord record)
    (otherFlat : ∀ record ∈ others, FlatRecord record)
    (same : records.map arrangeDict = others.map arrangeDict) :
    SameRecords records others := by
  induction records generalizing others with
  | nil =>
      rw [List.map_nil] at same
      rw [List.map_eq_nil_iff.mp same.symm]
      exact .nil
  | cons record rest inductionHypothesis =>
      cases others with
      | nil => cases same
      | cons other more =>
          obtain ⟨first, later⟩ := List.cons.inj same
          have back := (flat record (by simp)).arrangeDict_perm.symm
          have forth := (otherFlat other (by simp)).arrangeDict_perm
          rw [first] at back
          exact .cons (back.trans forth)
            (inductionHypothesis (fun item held => flat item (List.mem_cons_of_mem _ held))
              (fun item held => otherFlat item (List.mem_cons_of_mem _ held)) later)

/-- The records of a value with distinct keys have distinct keys. -/
theorem distinct_of_wellKeyed
    {records : List (Dict F)}
    (keyed : wellKeyed (.list (records.map .dict)) = true) :
    ∀ record ∈ records, (record.map (·.1)).Nodup := by
  unfold wellKeyed everywhere at keyed
  induction records with
  | nil => exact fun _ held => absurd held List.not_mem_nil
  | cons record rest inductionHypothesis =>
      rw [List.map_cons, everywhereItems, Bool.and_eq_true, everywhere,
        Bool.and_eq_true] at keyed
      exact List.forall_mem_cons.mpr
        ⟨of_decide_eq_true keyed.1.1, inductionHypothesis keyed.2⟩

variable [FloatOps F]

/-- Flat records are read back from their text. -/
theorem readable_records
    {records : List (Dict F)}
    (flat : ∀ record ∈ records, FlatRecord record) :
    readable (.list (records.map .dict)) = true := by
  have atoms : ∀ value : Value F, isAtom value = true → readable value = true := by
    intro value atom
    cases value with
    | float x => cases atom
    | list items => cases atom
    | dict entries => cases atom
    | none => rfl
    | bool held => rfl
    | int n => rfl
    | str s => rfl
  unfold readable everywhere
  induction records with
  | nil => rfl
  | cons record rest inductionHypothesis =>
      have first := flat record (by simp)
      rw [List.map_cons, everywhereItems, inductionHypothesis
        (fun other held => flat other (List.mem_cons_of_mem _ held)), Bool.and_true,
        everywhere, everywhereEntries_eq_all, decide_eq_true first.distinct, Bool.true_and]
      exact List.all_eq_true.mpr fun entry held => atoms entry.2 (first.atoms entry held)

/-- The text of flat records, after white space, is read as the records. -/
theorem loads_records
    [ReadableFloats F]
    (reading : Reading)
    (ascii : Bool)
    {records : List (Dict F)}
    (flat : ∀ record ∈ records, FlatRecord record)
    {before : Str}
    (blank : ∀ c ∈ before, isBlank c = true) :
    ∃ found, loads reading (before ++ dumps ⟨true, ascii⟩ (.list (records.map .dict))) =
        some (.list (found.map .dict)) ∧
      SameRecords found records := by
  refine ⟨records.map arrangeDict, ?_, sameRecords_arrange flat⟩
  have isReadable := readable_records flat
  have arranged : readable (arrange (.list (records.map .dict))) = true := by
    rwa [readable_arrange]
  obtain ⟨first, word, starts, visible, -⟩ := dumps_starts (inOrder ascii) arranged
  have skipped : skipBlank (before ++ dumps ⟨true, ascii⟩ (.list (records.map .dict))) =
      dumps ⟨true, ascii⟩ (.list (records.map .dict)) := by
    unfold skipBlank
    rw [List.dropWhile_append_of_pos blank, dumps_arrange, starts]
    exact skipBlank_cons visible word
  have ends : EndsNumber [] := fun c held => nomatch held
  have enough : 2 * (dumps ⟨true, ascii⟩ (.list (records.map .dict))).length ≤
      2 * (before ++ dumps ⟨true, ascii⟩ (.list (records.map .dict))).length + 2 := by
    rw [List.length_append]
    omega
  have back := readValue_canonical reading ascii isReadable enough ends
  rw [List.append_nil] at back
  unfold loads
  rw [skipped, back, arrange_records]
  rfl

/-- Flat records with the same text are the same records. -/
theorem sameRecords_of_dumps_eq
    [ReadableFloats F]
    {ascii : Bool}
    {records others : List (Dict F)}
    (flat : ∀ record ∈ records, FlatRecord record)
    (otherFlat : ∀ record ∈ others, FlatRecord record)
    (same : dumps ⟨true, ascii⟩ (.list (records.map .dict)) =
      dumps ⟨true, ascii⟩ (.list (others.map .dict))) :
    SameRecords records others := by
  have arranged := arrange_eq_of_dumps_eq (readable_records flat)
    (readable_records otherFlat) same
  rw [arrange_records, arrange_records] at arranged
  have dicts : Function.Injective (Value.dict : Dict F → Value F) := fun _ _ => Value.dict.inj
  exact sameRecords_of_arrange_eq flat otherFlat
    (List.map_injective_iff.mpr dicts (Value.list.inj arranged))

end Records

end Json
end ChatPlatform
