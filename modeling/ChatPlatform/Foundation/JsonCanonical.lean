import ChatPlatform.Foundation.JsonRoundTrip

/-!
# The canonical text of a value

With sorted keys a value has one text however its dictionaries are ordered, and the
text determines the value up to that order.
-/

namespace ChatPlatform
namespace Json

variable {F : Type} [FloatOps F]

mutual
/-- A value with the entries of every dictionary in the order of their keys. -/
def arrange : Value F → Value F
  | .list items => .list (arrangeItems items)
  | .dict entries =>
      .dict ((arrangeEntries entries).insertionSort fun left right => keyLe left.1 right.1)
  | value => value
/-- The items of a list, arranged. -/
def arrangeItems : List (Value F) → List (Value F)
  | [] => []
  | item :: rest => arrange item :: arrangeItems rest
/-- The entries of a dictionary, with their values arranged. -/
def arrangeEntries : List (Str × Value F) → List (Str × Value F)
  | [] => []
  | (key, value) :: rest => (key, arrange value) :: arrangeEntries rest
end

mutual
/-- Sorting while writing is writing what is sorted. -/
theorem dumps_arrange (ascii : Bool) (value : Value F) :
    dumps ⟨true, ascii⟩ value = dumps (inOrder ascii) (arrange value) := by
  cases value with
  | none => simp only [arrange, dumps]
  | bool held => cases held <;> simp only [arrange, dumps]
  | int n => simp only [arrange, dumps]
  | float x => simp only [arrange, dumps]
  | str s =>
      simp only [arrange, dumps]
      rfl
  | list items =>
      rw [arrange, dumps, dumps, dumpsItems_arrange ascii items]
  | dict entries =>
      rw [arrange, dumps, dumps, dumpsEntries_arrange ascii entries, dumpsEntries_eq_map,
        dumpsEntries_eq_map]
      unfold object
      simp only [if_true, Bool.false_eq_true, if_false]
      rw [List.map_insertionSort _
        (fun left right : Str × Str => keyLe left.1 right.1 = true) _ _
        (fun _ _ _ _ => Iff.rfl)]
      rfl
/-- The items of a list are written arranged. -/
theorem dumpsItems_arrange (ascii : Bool) (items : List (Value F)) :
    dumpsItems ⟨true, ascii⟩ items = dumpsItems (inOrder ascii) (arrangeItems items) := by
  cases items with
  | nil => rfl
  | cons item rest =>
      rw [arrangeItems, dumpsItems, dumpsItems, dumps_arrange ascii item,
        dumpsItems_arrange ascii rest]
/-- The entries of a dictionary are written arranged. -/
theorem dumpsEntries_arrange (ascii : Bool) (entries : List (Str × Value F)) :
    dumpsEntries ⟨true, ascii⟩ entries =
      dumpsEntries (inOrder ascii) (arrangeEntries entries) := by
  cases entries with
  | nil => rfl
  | cons entry rest =>
      obtain ⟨key, value⟩ := entry
      rw [arrangeEntries, dumpsEntries, dumpsEntries, dumps_arrange ascii value,
        dumpsEntries_arrange ascii rest]
end

/-! ## What arranging keeps -/

omit [FloatOps F] in
/-- Arranging keeps the keys in their places. -/
@[simp] theorem arrangeEntries_keys (entries : List (Str × Value F)) :
    (arrangeEntries entries).map (·.1) = entries.map (·.1) := by
  induction entries with
  | nil => rfl
  | cons entry rest inductionHypothesis =>
      obtain ⟨key, value⟩ := entry
      rw [arrangeEntries, List.map_cons, List.map_cons, inductionHypothesis]

omit [FloatOps F] in
mutual
/-- A test that does not depend on the order of keys is passed by the arranged value. -/
theorem everywhere_arrange
    {number : F → Bool}
    {keys : List Str → Bool}
    (unordered : ∀ {left right : List Str}, left.Perm right → keys left = keys right)
    (value : Value F) :
    everywhere number keys (arrange value) = everywhere number keys value := by
  cases value with
  | none => rfl
  | bool held => rfl
  | int n => rfl
  | float x => rfl
  | str s => rfl
  | list items =>
      rw [arrange, everywhere, everywhere]
      exact everywhereItems_arrange unordered items
  | dict entries =>
      have sorted := List.perm_insertionSort
        (fun left right : Str × Value F => keyLe left.1 right.1 = true) (arrangeEntries entries)
      rw [arrange, everywhere, everywhere, unordered (sorted.map (·.1)), arrangeEntries_keys,
        everywhereEntries_eq_all, sorted.all_eq, ← everywhereEntries_eq_all,
        everywhereEntries_arrange unordered entries]
/-- The same for the items of a list. -/
theorem everywhereItems_arrange
    {number : F → Bool}
    {keys : List Str → Bool}
    (unordered : ∀ {left right : List Str}, left.Perm right → keys left = keys right)
    (items : List (Value F)) :
    everywhereItems number keys (arrangeItems items) = everywhereItems number keys items := by
  cases items with
  | nil => rfl
  | cons item rest =>
      rw [arrangeItems, everywhereItems, everywhereItems, everywhere_arrange unordered item,
        everywhereItems_arrange unordered rest]
/-- The same for the entries of a dictionary. -/
theorem everywhereEntries_arrange
    {number : F → Bool}
    {keys : List Str → Bool}
    (unordered : ∀ {left right : List Str}, left.Perm right → keys left = keys right)
    (entries : List (Str × Value F)) :
    everywhereEntries number keys (arrangeEntries entries) =
      everywhereEntries number keys entries := by
  cases entries with
  | nil => rfl
  | cons entry rest =>
      obtain ⟨key, value⟩ := entry
      rw [arrangeEntries, everywhereEntries, everywhereEntries,
        everywhere_arrange unordered value, everywhereEntries_arrange unordered rest]
end

/-- Whether keys are distinct does not depend on their order. -/
private theorem nodup_unordered
    {left right : List Str}
    (rearranged : left.Perm right) : decide left.Nodup = decide right.Nodup :=
  decide_eq_decide.mpr rearranged.nodup_iff

/-- The arranged value of a readable one is readable. -/
@[simp] theorem readable_arrange (value : Value F) :
    readable (arrange value) = readable value :=
  everywhere_arrange nodup_unordered value

/-- The arranged value has the numbers it had. -/
@[simp] theorem finite_arrange (value : Value F) : finite (arrange value) = finite value :=
  everywhere_arrange (fun _ => rfl) value

omit [FloatOps F] in
/-- The arranged value has distinct keys where they were distinct. -/
@[simp] theorem wellKeyed_arrange (value : Value F) :
    wellKeyed (arrange value) = wellKeyed value :=
  everywhere_arrange nodup_unordered value

mutual
/-- A value is readable when its numbers are finite and its keys are distinct. -/
theorem readable_eq (value : Value F) :
    readable value = (finite value && wellKeyed value) := by
  cases value with
  | none => rfl
  | bool held => rfl
  | int n => rfl
  | float x => exact (Bool.and_true _).symm
  | str s => rfl
  | list items =>
      unfold readable finite wellKeyed everywhere
      exact readableItems_eq items
  | dict entries =>
      unfold readable finite wellKeyed everywhere
      rw [readableEntries_eq entries, Bool.true_and, Bool.and_left_comm]
/-- The same for the items of a list. -/
theorem readableItems_eq (items : List (Value F)) :
    everywhereItems isFinite (fun keys => decide keys.Nodup) items =
      (everywhereItems isFinite (fun _ => true) items &&
        everywhereItems (fun _ => true) (fun keys => decide keys.Nodup) items) := by
  cases items with
  | nil => rfl
  | cons item rest =>
      have this := readable_eq item
      unfold readable finite wellKeyed at this
      rw [everywhereItems, everywhereItems, everywhereItems, this, readableItems_eq rest]
      simp only [Bool.and_assoc, Bool.and_left_comm]
/-- The same for the entries of a dictionary. -/
theorem readableEntries_eq (entries : List (Str × Value F)) :
    everywhereEntries isFinite (fun keys => decide keys.Nodup) entries =
      (everywhereEntries isFinite (fun _ => true) entries &&
        everywhereEntries (fun _ => true) (fun keys => decide keys.Nodup) entries) := by
  cases entries with
  | nil => rfl
  | cons entry rest =>
      obtain ⟨key, value⟩ := entry
      have this := readable_eq value
      unfold readable finite wellKeyed at this
      rw [everywhereEntries, everywhereEntries, everywhereEntries, this,
        readableEntries_eq rest]
      simp only [Bool.and_assoc, Bool.and_left_comm]
end

/-! ## The order of keys -/

/-- Of two keys one is not after the other. -/
theorem keyLe_total (left right : Str) : keyLe left right = true ∨ keyLe right left = true := by
  induction left generalizing right with
  | nil => exact Or.inl (by cases right <;> rfl)
  | cons c left inductionHypothesis =>
      cases right with
      | nil => exact Or.inr rfl
      | cons d right =>
          unfold keyLe
          simp only [Bool.or_eq_true, Bool.and_eq_true, decide_eq_true_eq, beq_iff_eq]
          rcases Nat.lt_trichotomy c.toNat d.toNat with below | same | above
          · exact Or.inl (Or.inl below)
          · have same := Char.toNat_inj.mp same
            rcases inductionHypothesis right with ahead | behind
            · exact Or.inl (Or.inr ⟨same, ahead⟩)
            · exact Or.inr (Or.inr ⟨same.symm, behind⟩)
          · exact Or.inr (Or.inl above)

/-- The order of keys is transitive. -/
theorem keyLe_trans
    {first second third : Str}
    (ahead : keyLe first second = true)
    (behind : keyLe second third = true) : keyLe first third = true := by
  induction first generalizing second third with
  | nil => cases third <;> rfl
  | cons c first inductionHypothesis =>
      cases second with
      | nil => cases ahead
      | cons d second =>
          cases third with
          | nil => cases behind
          | cons e third =>
              unfold keyLe at ahead behind ⊢
              simp only [Bool.or_eq_true, Bool.and_eq_true, decide_eq_true_eq, beq_iff_eq]
                at ahead behind ⊢
              rcases ahead with below | ⟨rfl, ahead⟩
              · rcases behind with further | ⟨rfl, -⟩
                · exact Or.inl (below.trans further)
                · exact Or.inl below
              · rcases behind with further | ⟨rfl, behind⟩
                · exact Or.inl further
                · exact Or.inr ⟨rfl, inductionHypothesis ahead behind⟩

/-- The order of entries by their keys. -/
abbrev entryLe (left right : Str × Value F) : Prop := keyLe left.1 right.1 = true

omit [FloatOps F] in
instance : Std.Total (entryLe (F := F)) := ⟨fun left right => keyLe_total left.1 right.1⟩

omit [FloatOps F] in
instance : IsTrans (Str × Value F) entryLe := ⟨fun _ _ _ => keyLe_trans⟩

omit [FloatOps F] in
/-- The entries of a dictionary are arranged in any order alike. -/
theorem arrangeEntries_eq_map (entries : List (Str × Value F)) :
    arrangeEntries entries = entries.map fun entry => (entry.1, arrange entry.2) := by
  induction entries with
  | nil => rfl
  | cons entry rest inductionHypothesis =>
      rw [arrangeEntries, inductionHypothesis]
      rfl

omit [FloatOps F] in
mutual
/-- An arranged value is as it should be. -/
@[simp] theorem arrange_arrange (value : Value F) : arrange (arrange value) = arrange value := by
  cases value with
  | none => rfl
  | bool held => rfl
  | int n => rfl
  | float x => rfl
  | str s => rfl
  | list items =>
      rw [arrange, arrange, arrangeItems_arrangeItems items]
  | dict entries =>
      have sorted := List.pairwise_insertionSort entryLe (arrangeEntries entries)
      have once : arrangeEntries ((arrangeEntries entries).insertionSort entryLe) =
          (arrangeEntries entries).insertionSort entryLe := by
        have mapped := List.map_insertionSort entryLe entryLe
          (fun entry => (entry.1, arrange entry.2)) (arrangeEntries entries)
          (fun _ _ _ _ => Iff.rfl)
        rw [arrangeEntries_eq_map, mapped, ← arrangeEntries_eq_map,
          arrangeEntries_arrangeEntries entries]
      rw [arrange, arrange, once, sorted.insertionSort_eq]
/-- The same for the items of a list. -/
theorem arrangeItems_arrangeItems (items : List (Value F)) :
    arrangeItems (arrangeItems items) = arrangeItems items := by
  cases items with
  | nil => rfl
  | cons item rest =>
      rw [arrangeItems, arrangeItems, arrange_arrange item, arrangeItems_arrangeItems rest]
/-- The same for the entries of a dictionary. -/
theorem arrangeEntries_arrangeEntries (entries : List (Str × Value F)) :
    arrangeEntries (arrangeEntries entries) = arrangeEntries entries := by
  cases entries with
  | nil => rfl
  | cons entry rest =>
      obtain ⟨key, value⟩ := entry
      rw [arrangeEntries, arrangeEntries, arrange_arrange value,
        arrangeEntries_arrangeEntries rest]
end

/-! ## Looking into an arranged dictionary -/

/-- The entries of an arranged dictionary. -/
def arrangeDict (entries : Dict F) : Dict F := (arrangeEntries entries).insertionSort entryLe

omit [FloatOps F] in
/-- Arranging a dictionary arranges its entries. -/
theorem arrange_dict (entries : Dict F) : arrange (.dict entries) = .dict (arrangeDict entries) :=
  by rw [arrange]; rfl

/-! ## Reading the canonical text -/

/-- The canonical text is read as the arranged value. -/
theorem readValue_canonical
    [ReadableFloats F]
    (reading : Reading)
    (ascii : Bool)
    {value : Value F}
    {fuel : Nat}
    {rest : Str}
    (isReadable : readable value = true)
    (enough : 2 * (dumps ⟨true, ascii⟩ value).length ≤ fuel)
    (ends : EndsNumber rest) :
    readValue reading fuel (dumps ⟨true, ascii⟩ value ++ rest) = some (arrange value, rest) := by
  rw [dumps_arrange] at enough ⊢
  exact readValue_dumps reading ascii (arrange value) (by rwa [readable_arrange]) enough ends

/-- The canonical text and white space after it are read as the arranged value. -/
theorem loads_canonical_append
    [ReadableFloats F]
    (reading : Reading)
    (ascii : Bool)
    {value : Value F}
    {after : Str}
    (isReadable : readable value = true)
    (ends : EndsNumber after)
    (blank : skipBlank after = []) :
    loads reading (dumps ⟨true, ascii⟩ value ++ after) = some (arrange value) := by
  have arranged : readable (arrange value) = true := by rwa [readable_arrange]
  obtain ⟨first, word, starts, visible, -⟩ := dumps_starts (inOrder ascii) arranged
  have enough : 2 * (dumps ⟨true, ascii⟩ value).length ≤
      2 * (dumps ⟨true, ascii⟩ value ++ after).length + 2 := by
    rw [List.length_append]
    omega
  have back := readValue_canonical reading ascii isReadable enough ends
  have skipped : skipBlank (dumps ⟨true, ascii⟩ value ++ after) =
      dumps ⟨true, ascii⟩ value ++ after := by
    rw [dumps_arrange, starts, List.cons_append, skipBlank_cons visible]
  unfold loads
  rw [skipped, back]
  dsimp only
  rw [if_pos blank]

/-- The canonical text as a whole is read as the arranged value. -/
theorem loads_canonical
    [ReadableFloats F]
    (reading : Reading)
    (ascii : Bool)
    {value : Value F}
    (isReadable : readable value = true) :
    loads reading (dumps ⟨true, ascii⟩ value) = some (arrange value) := by
  have ends : EndsNumber [] := fun c held => nomatch held
  have back := loads_canonical_append reading ascii isReadable ends rfl
  rwa [List.append_nil] at back

/-- The canonical text determines a value up to the order of its dictionaries. -/
theorem arrange_eq_of_dumps_eq
    [ReadableFloats F]
    {ascii : Bool}
    {value other : Value F}
    (isReadable : readable value = true)
    (otherReadable : readable other = true)
    (same : dumps ⟨true, ascii⟩ value = dumps ⟨true, ascii⟩ other) :
    arrange value = arrange other := by
  have back := loads_canonical ⟨true, true⟩ ascii isReadable
  rw [same, loads_canonical ⟨true, true⟩ ascii otherReadable] at back
  exact (Option.some.inj back).symm

end Json
end ChatPlatform
