import ChatPlatform.Foundation.JsonCanonical
import ChatPlatform.Foundation.Occurrences
import Mathlib.Algebra.BigOperators.Group.List.Basic

/-!
# Where a needle occurs in a JSON text

A needle without structural characters that does not start like a number or a word occurs
in the text of a value only inside its string literals. Inside a literal the escaping
leaves a plain needle as it is, and it breaks every needle that has a quotation mark
inside.
-/

namespace ChatPlatform
namespace Json

open Text (occurrences)

variable {F : Type}

/-! ## Literals -/

/-- The characters of escapes after the backslash. -/
def escapeAlphabet : Str := "\"\\nrtfbu0123456789abcdef".toList

/-- How a character may be written: as it is, or as a backslash and characters of
escapes. -/
inductive Written (c : Char) : Str → Prop
  /-- The character itself. -/
  | plain : Written c [c]
  /-- An escape. -/
  | escape (rest : Str) (inside : ∀ d ∈ rest, d ∈ escapeAlphabet) :
      Written c ('\\' :: rest)

/-- Every character is written in one of the two ways. -/
theorem written_escapeChar (style : Style) (c : Char) : Written c (escapeChar style c) := by
  have hex : ∀ d ∈ Numeral.hexAlphabet, d ∈ escapeAlphabet := by decide
  have letters : ∀ unit, ∀ d ∈ 'u' :: Numeral.hexText 4 unit, d ∈ escapeAlphabet := by
    intro unit d held
    rcases List.mem_cons.mp held with rfl | held
    · decide
    · exact hex d (Numeral.mem_hexAlphabet_of_mem_hexText held)
  unfold escapeChar
  dsimp only
  split_ifs with quoted backslash newline carriage tab formFeed backspace control ascii basic
  · exact .escape _ (by decide)
  · exact .escape _ (by decide)
  · exact .escape _ (by decide)
  · exact .escape _ (by decide)
  · exact .escape _ (by decide)
  · exact .escape _ (by decide)
  · exact .escape _ (by decide)
  · exact .escape _ (letters _)
  · exact .escape _ (letters _)
  · refine .escape _ ?_
    intro d held
    rcases List.mem_append.mp held with high | low
    · exact letters _ d high
    · rcases List.mem_cons.mp low with rfl | low
      · decide
      · exact letters _ d low
  · exact .plain

/-- A character that is written as it is. -/
def Plain (style : Style) (c : Char) : Prop := escapeChar style c = [c]

instance (style : Style) : DecidablePred (Plain style) :=
  fun c => inferInstanceAs (Decidable (escapeChar style c = [c]))

/-- A plain character does not start an escape. -/
private theorem Plain.ne_backslash
    {style : Style}
    {c : Char}
    (plain : Plain style c) : c ≠ '\\' := by
  rintro rfl
  simp [Plain, escapeChar] at plain

/-- A plain character is not a quotation mark. -/
private theorem Plain.ne_quotation
    {style : Style}
    {c : Char}
    (plain : Plain style c) : c ≠ '"' := by
  rintro rfl
  simp [Plain, escapeChar] at plain

/-- Escaping does not change whether a text starts with plain characters. -/
private theorem isPrefixOf_escaped
    {style : Style}
    {needle : Str}
    (plain : ∀ c ∈ needle, Plain style c)
    (s : Str) :
    needle.isPrefixOf (s.flatMap (escapeChar style)) = needle.isPrefixOf s := by
  induction needle generalizing s with
  | nil => simp
  | cons d others inductionHypothesis =>
      obtain ⟨first, plainOthers⟩ := List.forall_mem_cons.mp plain
      cases s with
      | nil => rfl
      | cons c rest =>
          rw [List.flatMap_cons]
          have different : d = c → Plain style c := by
            rintro rfl
            exact first
          have written := written_escapeChar style c
          unfold Plain at different
          generalize escapeChar style c = text at written different ⊢
          cases written with
          | plain =>
              rw [List.singleton_append, List.isPrefixOf, List.isPrefixOf,
                inductionHypothesis plainOthers]
          | escape escape inside =>
              have apart : d ≠ c := by
                intro same
                obtain ⟨isBackslash, -⟩ := List.cons.inj (different same)
                exact first.ne_backslash (same.trans isBackslash.symm)
              rw [List.cons_append, List.isPrefixOf, List.isPrefixOf,
                beq_eq_false_iff_ne.mpr apart, beq_eq_false_iff_ne.mpr first.ne_backslash,
                Bool.false_and, Bool.false_and]

/-- A plain needle occurs in an escaped text as often as in the text. -/
theorem occurrences_escaped
    {style : Style}
    {d : Char}
    {needle : Str}
    (plain : ∀ c ∈ d :: needle, Plain style c)
    (foreign : d ∉ escapeAlphabet)
    (s : Str) :
    occurrences (d :: needle) (s.flatMap (escapeChar style)) = occurrences (d :: needle) s := by
  induction s with
  | nil => rfl
  | cons c rest inductionHypothesis =>
      have first := plain d (by simp)
      have starts := isPrefixOf_escaped plain (c :: rest)
      rw [List.flatMap_cons] at starts ⊢
      have written := written_escapeChar style c
      generalize escapeChar style c = text at written starts ⊢
      cases written with
      | plain =>
          rw [List.singleton_append] at starts ⊢
          rw [occurrences, occurrences, starts, inductionHypothesis]
      | escape escape inside =>
          have absent : d ∉ '\\' :: escape := by
            intro held
            rcases List.mem_cons.mp held with isBackslash | held
            · exact first.ne_backslash isBackslash
            · exact foreign (inside d held)
          have notFirst : (d :: needle).isPrefixOf (c :: rest) = false := by
            rw [← starts, List.cons_append]
            simp [List.isPrefixOf, first.ne_backslash]
          rw [Text.occurrences_append_of_not_mem absent, inductionHypothesis, occurrences,
            notFirst]
          simp

/-- A plain needle occurs in a literal as often as in its string. -/
theorem occurrences_quote
    {style : Style}
    {d : Char}
    {needle : Str}
    (plain : ∀ c ∈ d :: needle, Plain style c)
    (foreign : d ∉ escapeAlphabet)
    (s : Str) : occurrences (d :: needle) (quote style s) = occurrences (d :: needle) s := by
  have absent : '"' ∉ d :: needle := fun held => (plain _ held).ne_quotation rfl
  unfold quote
  rw [Text.occurrences_bracketed (by simp) absent absent, occurrences_escaped plain foreign]

/-- What stands behind a quotation mark inside a needle cannot follow one in a literal. -/
private theorem isPrefixOf_quotation
    {style : Style}
    {front : Str}
    (plain : ∀ c ∈ front, Plain style c)
    {back : Str}
    (nonempty : back ≠ [])
    (s : Str) :
    (front ++ '"' :: back).isPrefixOf (s.flatMap (escapeChar style) ++ ['"']) = false := by
  induction front generalizing s with
  | nil =>
      cases s with
      | nil =>
          cases back with
          | nil => exact absurd rfl nonempty
          | cons b others => rfl
      | cons c rest =>
          have different : c = '"' → ¬Plain style c := fun same isPlain =>
            isPlain.ne_quotation same
          rw [List.flatMap_cons]
          have written := written_escapeChar style c
          unfold Plain at different
          generalize escapeChar style c = text at written different ⊢
          cases written with
          | plain =>
              have apart : '"' ≠ c := fun same => different same.symm rfl
              simp only [List.nil_append, List.cons_append, List.isPrefixOf,
                beq_eq_false_iff_ne.mpr apart, Bool.false_and]
          | escape escape inside => rfl
  | cons d others inductionHypothesis =>
      obtain ⟨first, plainOthers⟩ := List.forall_mem_cons.mp plain
      cases s with
      | nil =>
          simp only [List.flatMap_nil, List.nil_append, List.cons_append, List.isPrefixOf,
            beq_eq_false_iff_ne.mpr first.ne_quotation, Bool.false_and]
      | cons c rest =>
          rw [List.flatMap_cons]
          have written := written_escapeChar style c
          generalize escapeChar style c = text at written ⊢
          cases written with
          | plain =>
              rw [List.cons_append, List.singleton_append, List.cons_append, List.isPrefixOf,
                inductionHypothesis plainOthers, Bool.and_false]
          | escape escape inside =>
              rw [List.cons_append, List.cons_append, List.cons_append, List.isPrefixOf,
                beq_eq_false_iff_ne.mpr first.ne_backslash, Bool.false_and]

/-- A needle with a quotation mark inside occurs in no literal. -/
theorem occurrences_quote_of_quotation
    {style : Style}
    {d : Char}
    {front back : Str}
    (plain : ∀ c ∈ d :: front, Plain style c)
    (foreign : d ∉ escapeAlphabet)
    (nonempty : back ≠ [])
    (s : Str) : occurrences (d :: front ++ '"' :: back) (quote style s) = 0 := by
  have first := plain d (by simp)
  have inside : ∀ s : Str, occurrences (d :: front ++ '"' :: back)
      (s.flatMap (escapeChar style) ++ ['"']) = 0 := by
    intro s
    induction s with
    | nil =>
        exact Text.occurrences_of_not_mem (by simp [first.ne_quotation]) _
    | cons c rest inductionHypothesis =>
        have starts := isPrefixOf_quotation plain nonempty (c :: rest)
        rw [List.flatMap_cons] at starts ⊢
        have written := written_escapeChar style c
        generalize escapeChar style c = text at written starts ⊢
        cases written with
        | plain =>
            rw [List.append_assoc, List.singleton_append] at starts ⊢
            rw [occurrences, starts, inductionHypothesis]
            rfl
        | escape escape inside =>
            have absent : d ∉ '\\' :: escape := by
              intro held
              rcases List.mem_cons.mp held with isBackslash | held
              · exact first.ne_backslash isBackslash
              · exact foreign (inside d held)
            rw [List.append_assoc, List.cons_append,
              Text.occurrences_append_of_not_mem absent, ← List.cons_append,
              inductionHypothesis]
  have skipped := Text.occurrences_append_of_not_mem
    (show d ∉ ['"'] by simp [first.ne_quotation]) (front ++ '"' :: back)
    (s.flatMap (escapeChar style) ++ ['"'])
  exact skipped.trans (inside s)

/-! ## Values -/

mutual
/-- The sum of a measure of the strings and keys of a value. -/
def mentions (measure : Str → Nat) : Value F → Nat
  | .str s => measure s
  | .list items => mentionsItems measure items
  | .dict entries => mentionsEntries measure entries
  | _ => 0
/-- The same for the items of a list. -/
def mentionsItems (measure : Str → Nat) : List (Value F) → Nat
  | [] => 0
  | item :: rest => mentions measure item + mentionsItems measure rest
/-- The same for the entries of a dictionary. -/
def mentionsEntries (measure : Str → Nat) : List (Str × Value F) → Nat
  | [] => 0
  | (key, value) :: rest => measure key + mentions measure value + mentionsEntries measure rest
end

/-- A number mentions nothing. -/
@[simp] theorem mentions_int (measure : Str → Nat) (n : Int) :
    mentions measure (.int n : Value F) = 0 := by
  rw [mentions]
  all_goals nofun

/-- A string is measured itself. -/
@[simp] theorem mentions_str (measure : Str → Nat) (s : Str) :
    mentions measure (.str s : Value F) = measure s := by
  rw [mentions]

/-- The strings of a dictionary are measured entry by entry. -/
private theorem mentionsEntries_eq_zero_iff
    (measure : Str → Nat)
    (entries : List (Str × Value F)) :
    mentionsEntries measure entries = 0 ↔
      ∀ entry ∈ entries, measure entry.1 = 0 ∧ mentions measure entry.2 = 0 := by
  induction entries with
  | nil => simp [mentionsEntries]
  | cons entry rest inductionHypothesis =>
      obtain ⟨key, value⟩ := entry
      rw [mentionsEntries, List.forall_mem_cons, ← inductionHypothesis]
      dsimp only
      omega

/-- Nothing is mentioned in records exactly when nothing is in any of their entries. -/
theorem mentions_records_eq_zero_iff
    (measure : Str → Nat)
    (records : List (Dict F)) :
    mentions measure (.list (records.map .dict)) = 0 ↔
      ∀ record ∈ records, ∀ entry ∈ record,
        measure entry.1 = 0 ∧ mentions measure entry.2 = 0 := by
  rw [mentions]
  induction records with
  | nil => simp [mentionsItems]
  | cons record rest inductionHypothesis =>
      rw [List.map_cons, mentionsItems, List.forall_mem_cons, ← inductionHypothesis,
        ← mentionsEntries_eq_zero_iff, mentions]
      omega

/-- A needle that occurs in string literals only. -/
structure Foreign
    (d : Char)
    (needle : Str) : Prop where
  /-- It has no structural character. -/
  structural : ∀ c ∈ ['\x7b', '\x7d', '[', ']', ',', ':'], c ∉ d :: needle
  /-- It does not start like a part of a number. -/
  number : isNumberChar d = false
  /-- It does not start like a part of a word. -/
  word : d ∉ ['t', 'r', 'u', 'e', 'f', 'a', 'l', 's', 'n']

/-- A needle occurs in an object as often as in its keys and written values, however they
are ordered. -/
private theorem occurrences_object
    {d : Char}
    {needle : Str}
    (foreign : Foreign d needle)
    (style : Style)
    (entries : List (Str × Str)) :
    occurrences (d :: needle) (object style entries) =
      (entries.map fun entry => occurrences (d :: needle) (quote style entry.1) +
        occurrences (d :: needle) entry.2).sum := by
  have absent : ∀ c ∈ ['\x7b', '\x7d', '[', ']', ',', ':'], c ∉ d :: needle :=
    foreign.structural
  have reordered : ∀ ordered : List (Str × Str), ordered.Perm entries →
      occurrences (d :: needle) (Text.join [',']
        (ordered.map fun entry => quote style entry.1 ++ ':' :: entry.2)) =
      (entries.map fun entry => occurrences (d :: needle) (quote style entry.1) +
        occurrences (d :: needle) entry.2).sum := by
    intro ordered same
    rw [Text.occurrences_join (by simp) (absent _ (by simp)), List.map_map,
      ← (same.map _).sum_eq]
    refine congrArg List.sum (List.map_congr_left ?_)
    intro entry _
    exact Text.occurrences_append_separator (by simp) (absent _ (by simp)) _ _
  unfold object
  dsimp only
  rw [Text.occurrences_bracketed (by simp) (absent _ (by simp)) (absent _ (by simp))]
  split
  · exact reordered _ (List.perm_insertionSort _ entries)
  · exact reordered _ (.refl entries)

variable [FloatOps F]

mutual
/-- A needle occurs in the text of a value as often as in the literals of its strings. -/
theorem occurrences_dumps
    [ReadableFloats F]
    {d : Char}
    {needle : Str}
    (foreign : Foreign d needle)
    (style : Style)
    (value : Value F)
    (isReadable : readable value = true) :
    occurrences (d :: needle) (dumps style value) =
      mentions (fun s => occurrences (d :: needle) (quote style s)) value := by
  have absent : ∀ c ∈ ['\x7b', '\x7d', '[', ']', ',', ':'], c ∉ d :: needle :=
    foreign.structural
  have inWord : ∀ text : Str, (∀ c ∈ text, c ∈ ['t', 'r', 'u', 'e', 'f', 'a', 'l', 's', 'n']) →
      occurrences (d :: needle) text = 0 := fun text letters =>
    Text.occurrences_of_not_mem (fun held => foreign.word (letters d held)) needle
  have inNumber : ∀ text : Str, text.all isNumberChar = true →
      occurrences (d :: needle) text = 0 := by
    intro text token
    refine Text.occurrences_of_not_mem ?_ needle
    intro held
    have isNumber := List.all_eq_true.mp token d held
    rw [foreign.number] at isNumber
    cases isNumber
  cases value with
  | none =>
      rw [dumps, mentions]
      · exact inWord _ (by decide)
      all_goals nofun
  | bool held =>
      cases held with
      | true =>
          rw [dumps, mentions]
          · exact inWord _ (by decide)
          all_goals nofun
      | false =>
          rw [dumps, mentions]
          · exact inWord _ (by decide)
          all_goals nofun
  | int n =>
      rw [dumps, mentions]
      · exact inNumber _ (decimal_all_isNumberChar n)
      all_goals nofun
  | float x =>
      rw [dumps, mentions]
      · exact inNumber _ (ReadableFloats.token x isReadable)
      all_goals nofun
  | str s => rw [dumps, mentions]
  | list items =>
      rw [dumps, mentions, Text.occurrences_bracketed (by simp) (absent _ (by simp))
        (absent _ (by simp)), Text.occurrences_join (by simp) (absent _ (by simp))]
      exact occurrences_dumpsItems foreign style items isReadable
  | dict entries =>
      unfold readable everywhere at isReadable
      rw [dumps, mentions, ← occurrences_dumpsEntries foreign style entries
        (Bool.and_eq_true_iff.mp isReadable).2]
      exact occurrences_object foreign style (dumpsEntries style entries)
/-- The same for the items of a list. -/
theorem occurrences_dumpsItems
    [ReadableFloats F]
    {d : Char}
    {needle : Str}
    (foreign : Foreign d needle)
    (style : Style)
    (items : List (Value F))
    (isReadable : everywhereItems isFinite (fun keys => decide keys.Nodup) items = true) :
    ((dumpsItems style items).map (occurrences (d :: needle))).sum =
      mentionsItems (fun s => occurrences (d :: needle) (quote style s)) items := by
  cases items with
  | nil => rfl
  | cons item rest =>
      obtain ⟨this, others⟩ := Bool.and_eq_true_iff.mp isReadable
      rw [dumpsItems, mentionsItems, List.map_cons, List.sum_cons,
        occurrences_dumps foreign style item this,
        occurrences_dumpsItems foreign style rest others]
/-- The same for the entries of a dictionary. -/
theorem occurrences_dumpsEntries
    [ReadableFloats F]
    {d : Char}
    {needle : Str}
    (foreign : Foreign d needle)
    (style : Style)
    (entries : List (Str × Value F))
    (isReadable : everywhereEntries isFinite (fun keys => decide keys.Nodup) entries = true) :
    ((dumpsEntries style entries).map fun entry =>
        occurrences (d :: needle) (quote style entry.1) +
          occurrences (d :: needle) entry.2).sum =
      mentionsEntries (fun s => occurrences (d :: needle) (quote style s)) entries := by
  cases entries with
  | nil => rfl
  | cons entry rest =>
      obtain ⟨key, value⟩ := entry
      obtain ⟨this, others⟩ := Bool.and_eq_true_iff.mp isReadable
      rw [dumpsEntries, mentionsEntries, List.map_cons, List.sum_cons,
        occurrences_dumps foreign style value this,
        occurrences_dumpsEntries foreign style rest others]
end

/-! ## Values inside texts

The text of a value is part of the text of every list and dictionary that holds it. -/

/-- A piece is part of what the pieces are joined to. -/
private theorem infix_join
    (separator : Str)
    {pieces : List Str}
    {piece : Str}
    (present : piece ∈ pieces) : piece <:+: Text.join separator pieces := by
  induction pieces with
  | nil => cases present
  | cons first rest inductionHypothesis =>
      by_cases last : rest = []
      · rw [last, List.mem_singleton] at present
        rw [last, Text.join_singleton, present]
      · rw [Text.join_cons_of_ne_nil _ _ last]
        rcases List.mem_cons.mp present with rfl | inRest
        · rw [List.append_assoc]
          exact (List.prefix_append _ _).isInfix
        · exact (inductionHypothesis inRest).trans (List.suffix_append _ _).isInfix

/-- The text of an item is part of the text of a list. -/
theorem dumps_infix_list
    (style : Style)
    {items : List (Value F)}
    {item : Value F}
    (present : item ∈ items) : dumps style item <:+: dumps style (.list items) := by
  have written : dumps style item ∈ dumpsItems style items := by
    rw [dumpsItems_eq_map]
    exact List.mem_map_of_mem present
  rw [dumps]
  exact ((infix_join _ written).trans (List.suffix_cons _ _).isInfix).trans
    (List.prefix_append _ _).isInfix

/-- The text of a value is part of the text of a dictionary. -/
theorem dumps_infix_dict
    (style : Style)
    {entries : Dict F}
    {key : Str}
    {value : Value F}
    (present : (key, value) ∈ entries) : dumps style value <:+: dumps style (.dict entries) := by
  have written : (key, dumps style value) ∈ dumpsEntries style entries := by
    rw [dumpsEntries_eq_map]
    exact List.mem_map.mpr ⟨_, present, rfl⟩
  rw [dumps, object]
  refine List.IsInfix.trans ?_ (List.prefix_append _ _).isInfix
  refine List.IsInfix.trans ?_ (List.suffix_cons _ _).isInfix
  have ordered : (key, dumps style value) ∈ (if style.sortKeys then
      (dumpsEntries style entries).insertionSort fun left right => keyLe left.1 right.1
        else dumpsEntries style entries) := by
    split
    · exact (List.mem_insertionSort _).mpr written
    · exact written
  have inEntry : dumps style value <:+: quote style key ++ ':' :: dumps style value :=
    (List.suffix_cons _ _).isInfix.trans (List.suffix_append _ _).isInfix
  exact inEntry.trans (infix_join _ (List.mem_map.mpr ⟨_, ordered, rfl⟩))

end Json
end ChatPlatform
