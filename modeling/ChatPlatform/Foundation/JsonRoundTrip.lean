import ChatPlatform.Foundation.JsonRead

/-!
# What is written is read back

A readable value is read back from the text that is written for it with its entries in
their own order, whatever follows that does not continue a number. The induction is on
the value, together with the lists of items and entries inside it.
-/

namespace ChatPlatform
namespace Json

variable {F : Type} [FloatOps F]

/-! ## The front of a text -/

/-- There is no white space to skip. -/
theorem skipBlank_cons
    {c : Char}
    (visible : isBlank c = false)
    (rest : Str) : skipBlank (c :: rest) = c :: rest :=
  List.dropWhile_cons_of_neg (by simp [visible])

/-- What begins with a word is not a number. -/
private theorem scanNumber_word
    {reading : Reading}
    {word : Str × Option (Value F)}
    (held : word ∈ words reading)
    (rest : Str) : scanNumber (F := F) (word.1 ++ rest) = none := by
  have texts : word.1 ∈ ["null".toList, "true".toList, "false".toList, "NaN".toList,
      "Infinity".toList, "-Infinity".toList] := by
    unfold words at held
    rcases List.mem_append.mp held with plain | constant
    · simp only [List.mem_cons, List.not_mem_nil, or_false] at plain ⊢
      rcases plain with rfl | rfl | rfl <;> simp
    · split at constant
      · simp only [List.map_cons, List.map_nil, List.mem_cons, List.not_mem_nil, or_false]
          at constant ⊢
        rcases constant with rfl | rfl | rfl <;> simp
      · exact absurd constant List.not_mem_nil
  simp only [List.mem_cons, List.not_mem_nil, or_false] at texts
  rcases texts with same | same | same | same | same | same <;> rw [same] <;> rfl

/-- A number at the front of a text is read. -/
theorem readAtom_of_scanNumber
    (reading : Reading)
    {text rest : Str}
    {value : Value F}
    (scanned : scanNumber text = some (value, rest)) :
    readAtom reading text = some (value, rest) := by
  have noWord : (words (F := F) reading).find? (fun word => word.1.isPrefixOf text) =
      none := by
    rw [List.find?_eq_none]
    intro word held front
    obtain ⟨after, same⟩ := List.isPrefixOf_iff_prefix.mp front
    rw [← same, scanNumber_word held] at scanned
    cases scanned
  unfold readAtom
  rw [noWord]
  exact scanned

/-- A number at the front of a text is its value. -/
theorem readValue_of_scanNumber
    (reading : Reading)
    {fuel : Nat}
    {text rest : Str}
    {value : Value F}
    (scanned : scanNumber text = some (value, rest)) :
    readValue reading (fuel + 1) text = some (value, rest) := by
  have apart : ∀ c ∈ ['"', '[', '\x7b'], ∀ after, scanNumber (F := F) (c :: after) = none := by
    intro c held after
    simp only [List.mem_cons, List.not_mem_nil, or_false] at held
    rcases held with rfl | rfl | rfl <;> rfl
  cases text with
  | nil => cases scanned
  | cons c after =>
      rw [readValue]
      have different : ∀ other ∈ ['"', '[', '\x7b'], c ≠ other := by
        rintro other held rfl
        rw [apart _ held] at scanned
        cases scanned
      rw [if_neg (different _ (by simp)), if_neg (different _ (by simp)),
        if_neg (different _ (by simp))]
      exact readAtom_of_scanNumber reading scanned

/-- The text of a number is scanned. -/
theorem scanNumber_token
    {token rest : Str}
    {value : Value F}
    (written : token.all isNumberChar = true)
    (valued : numberValue token = some value)
    (ends : EndsNumber rest) :
    scanNumber (token ++ rest) = some (value, rest) := by
  rw [scanNumber_append written ends, valued]
  rfl

/-- A number begins with a character of numbers. -/
private theorem token_starts
    {token : Str}
    {value : Value F}
    (written : token.all isNumberChar = true)
    (valued : numberValue token = some value) :
    ∃ first word, token = first :: word ∧ isBlank first = false ∧ first ≠ ']' := by
  cases token with
  | nil => cases valued
  | cons first word =>
      refine ⟨first, word, rfl, ?_⟩
      rw [List.all_cons, Bool.and_eq_true] at written
      constructor
      · by_contra blank
        rw [Bool.not_eq_false] at blank
        unfold isBlank at blank
        simp only [Bool.or_eq_true, decide_eq_true_eq] at blank
        rcases blank with ((rfl | rfl) | rfl) | rfl <;> exact absurd written.1 (by decide)
      · rintro rfl
        exact absurd written.1 (by decide)

/-- No text of a value begins with white space or with the end of a list. -/
theorem dumps_starts
    [ReadableFloats F]
    (style : Style)
    {value : Value F}
    (isReadable : readable value = true) :
    ∃ first word, dumps style value = first :: word ∧ isBlank first = false ∧
      first ≠ ']' := by
  cases value with
  | none => exact ⟨'n', "ull".toList, by simp [dumps], by decide, by decide⟩
  | bool held =>
      cases held with
      | true => exact ⟨'t', "rue".toList, by simp [dumps], by decide, by decide⟩
      | false => exact ⟨'f', "alse".toList, by simp [dumps], by decide, by decide⟩
  | int n =>
      rw [dumps]
      exact token_starts (decimal_all_isNumberChar n) (numberValue_decimal (F := F) n)
  | float x =>
      rw [dumps]
      exact token_starts (ReadableFloats.token x isReadable) (ReadableFloats.value x isReadable)
  | str s =>
      rw [dumps]
      exact ⟨'"', _, rfl, by decide, by decide⟩
  | list items =>
      rw [dumps]
      exact ⟨'[', _, rfl, by decide, by decide⟩
  | dict entries =>
      rw [dumps]
      exact ⟨'\x7b', _, rfl, by decide, by decide⟩

/-! ## Keys -/

/-- A key is read back. -/
theorem readKey_quote
    (style : Style)
    (key : Str)
    {fuel : Nat}
    {c : Char}
    {rest : Str}
    (enough : key.length < fuel)
    (visible : isBlank c = false) :
    readKey fuel (quote style key ++ ':' :: c :: rest) = some (key, c :: rest) := by
  have closed : (key.flatMap (escapeChar style) ++ ['"']) ++ ':' :: c :: rest =
      key.flatMap (escapeChar style) ++ '"' :: ':' :: c :: rest := by simp
  show readKey fuel ('"' :: ((key.flatMap (escapeChar style) ++ ['"']) ++ ':' :: c :: rest)) = _
  rw [closed, readKey, if_pos rfl, scanChars_flatMap style key _ enough]
  dsimp only
  rw [skipBlank_cons (by decide)]
  dsimp only
  rw [if_pos rfl, skipBlank_cons visible]

/-- A string is shorter than its literal. -/
theorem length_lt_quote (style : Style) (s : Str) : s.length + 2 ≤ (quote style s).length := by
  have atLeast : s.length ≤ (s.flatMap (escapeChar style)).length := by
    induction s with
    | nil => exact Nat.le_refl _
    | cons c s inductionHypothesis =>
        have nonempty : escapeChar style c ≠ [] := by
          intro empty
          have scanned := scanChar_escapeChar style c []
          rw [empty] at scanned
          cases scanned
        have positive := List.length_pos_of_ne_nil nonempty
        rw [List.flatMap_cons, List.length_append, List.length_cons]
        omega
  unfold quote
  rw [List.length_append, List.length_cons, List.length_singleton]
  omega

/-! ## Values -/

/-- Entries are written in their own order. -/
abbrev inOrder (ascii : Bool) : Style := ⟨false, ascii⟩

/-- The text of an entry. -/
def entryText (style : Style) (entry : Str × Str) : Str :=
  quote style entry.1 ++ ':' :: entry.2

/-- A list of texts begins with its first one. -/
private theorem join_cons
    (first : Str)
    (others : List Str) :
    Text.join [','] (first :: others) =
      first ++ if others = [] then [] else ',' :: Text.join [','] others := by
  by_cases none : others = []
  · subst none
    simp
  · rw [Text.join_cons_of_ne_nil _ _ none, if_neg none]
    simp

/-- The end of a list or a dictionary ends a number. -/
theorem endsNumber_cons
    {c : Char}
    (apart : isNumberChar c = false)
    (rest : Str) : EndsNumber (c :: rest) := by
  intro d isHead
  cases isHead
  exact apart

/-- The items of a list begin with a character that is neither blank nor the end. -/
private theorem items_front
    [ReadableFloats F]
    (ascii : Bool)
    {item : Value F}
    (items : List (Value F))
    (rest : Str)
    (isReadable : readable item = true) :
    ∃ first after,
      Text.join [','] (dumpsItems (inOrder ascii) (item :: items)) ++ rest = first :: after ∧
        isBlank first = false ∧ first ≠ ']' := by
  obtain ⟨first, word, starts, visible, notEnd⟩ := dumps_starts (inOrder ascii) isReadable
  rw [dumpsItems, join_cons, starts]
  exact ⟨first, _, rfl, visible, notEnd⟩

/-- The entries of a dictionary begin with a quotation mark. -/
private theorem entries_front
    (ascii : Bool)
    (entry : Str × Value F)
    (entries : List (Str × Value F))
    (rest : Str) :
    ∃ after, Text.join [','] ((dumpsEntries (inOrder ascii) (entry :: entries)).map
      (entryText (inOrder ascii))) ++ rest = '"' :: after := by
  rw [dumpsEntries, List.map_cons, join_cons]
  exact ⟨_, rfl⟩

mutual
/-- A value is read back from its text. -/
theorem readValue_dumps
    [ReadableFloats F]
    (reading : Reading)
    (ascii : Bool)
    (value : Value F)
    {fuel : Nat}
    {rest : Str}
    (isReadable : readable value = true)
    (enough : 2 * (dumps (inOrder ascii) value).length ≤ fuel)
    (ends : EndsNumber rest) :
    readValue reading fuel (dumps (inOrder ascii) value ++ rest) = some (value, rest) := by
  obtain ⟨first, word, starts, -, -⟩ := dumps_starts (inOrder ascii) isReadable
  cases fuel with
  | zero =>
      rw [starts, List.length_cons] at enough
      omega
  | succ fuel =>
      cases value with
      | none =>
          rw [dumps]
          rfl
      | bool held =>
          cases held with
          | true =>
              rw [dumps]
              rfl
          | false =>
              rw [dumps]
              rfl
      | int n =>
          rw [dumps]
          exact readValue_of_scanNumber reading
            (scanNumber_token (decimal_all_isNumberChar n) (numberValue_decimal n) ends)
      | float x =>
          rw [dumps]
          exact readValue_of_scanNumber reading
            (scanNumber_token (ReadableFloats.token x isReadable)
              (ReadableFloats.value x isReadable) ends)
      | str s =>
          rw [dumps] at enough ⊢
          have longer := length_lt_quote (inOrder ascii) s
          have closed : (s.flatMap (escapeChar (inOrder ascii)) ++ ['"']) ++ rest =
              s.flatMap (escapeChar (inOrder ascii)) ++ '"' :: rest := by simp
          show readValue reading (fuel + 1)
            ('"' :: ((s.flatMap (escapeChar (inOrder ascii)) ++ ['"']) ++ rest)) = _
          rw [closed, readValue, if_pos rfl, scanChars_flatMap _ s rest (by omega)]
          rfl
      | list items =>
          rw [dumps] at enough ⊢
          cases items with
          | nil => rfl
          | cons item items =>
              have readItem : readable item = true := by
                unfold readable everywhere everywhereItems at isReadable
                exact (Bool.and_eq_true_iff.mp isReadable).1
              obtain ⟨first, after, front, visible, notEnd⟩ :=
                items_front ascii items (']' :: rest) readItem
              have inner : 2 * (Text.join [',']
                  (dumpsItems (inOrder ascii) (item :: items))).length + 2 ≤ fuel := by
                simp only [List.length_append, List.length_cons, List.length_nil] at enough
                omega
              have back := readItems_dumpsItems reading ascii (item :: items)
                (List.cons_ne_nil _ _) rest isReadable inner
              have closed : ('[' :: Text.join [',']
                  (dumpsItems (inOrder ascii) (item :: items)) ++ [']']) ++ rest =
                    '[' :: (Text.join [','] (dumpsItems (inOrder ascii) (item :: items)) ++
                      ']' :: rest) := by simp
              rw [closed, readValue, if_neg (by decide), if_pos rfl, front,
                skipBlank_cons visible, if_neg (by simpa using notEnd), ← front, back]
              rfl
      | dict entries =>
          rw [dumps] at enough ⊢
          unfold object at enough ⊢
          simp only [Bool.false_eq_true, if_false] at enough ⊢
          unfold readable everywhere at isReadable
          obtain ⟨distinct, isReadable⟩ := Bool.and_eq_true_iff.mp isReadable
          cases entries with
          | nil => rfl
          | cons entry entries =>
              have inner : 2 * (Text.join [','] ((dumpsEntries (inOrder ascii)
                  (entry :: entries)).map (entryText (inOrder ascii)))).length + 2 ≤ fuel := by
                simp only [List.length_append, List.length_cons, List.length_nil] at enough
                unfold entryText
                omega
              have back := readEntries_dumpsEntries reading ascii (entry :: entries)
                (List.cons_ne_nil _ _) rest isReadable inner
              obtain ⟨after, front⟩ := entries_front ascii entry entries ('\x7d' :: rest)
              have closed : ('\x7b' :: Text.join [','] ((dumpsEntries (inOrder ascii)
                  (entry :: entries)).map (entryText (inOrder ascii))) ++ ['\x7d']) ++ rest =
                    '\x7b' :: (Text.join [','] ((dumpsEntries (inOrder ascii)
                      (entry :: entries)).map (entryText (inOrder ascii))) ++
                        '\x7d' :: rest) := by simp
              have whole : dictionary reading (entry :: entries) =
                  some (.dict (entry :: entries)) := by
                unfold dictionary
                rw [if_pos (Or.inr (of_decide_eq_true distinct)),
                  Keyed.ofList_of_nodup (of_decide_eq_true distinct)]
              show readValue reading (fuel + 1) (('\x7b' :: Text.join [',']
                ((dumpsEntries (inOrder ascii) (entry :: entries)).map
                  (entryText (inOrder ascii))) ++ ['\x7d']) ++ rest) = _
              rw [closed, readValue, if_neg (by decide), if_neg (by decide), if_pos rfl, front,
                skipBlank_cons (by decide), if_neg (by simp), ← front, back, Option.bind_some,
                whole]
              rfl
/-- The items of a list are read back. -/
theorem readItems_dumpsItems
    [ReadableFloats F]
    (reading : Reading)
    (ascii : Bool)
    (items : List (Value F))
    (nonempty : items ≠ [])
    {fuel : Nat}
    (rest : Str)
    (isReadable : everywhereItems isFinite (fun keys => decide keys.Nodup) items = true)
    (enough : 2 * (Text.join [','] (dumpsItems (inOrder ascii) items)).length + 2 ≤ fuel) :
    readItems reading fuel
      (Text.join [','] (dumpsItems (inOrder ascii) items) ++ ']' :: rest) =
        some (items, rest) := by
  cases fuel with
  | zero => omega
  | succ fuel =>
      cases items with
      | nil => exact absurd rfl nonempty
      | cons item items =>
          obtain ⟨readItem, readOthers⟩ := Bool.and_eq_true_iff.mp isReadable
          rw [dumpsItems, join_cons] at enough ⊢
          cases items with
          | nil =>
              rw [dumpsItems, if_pos rfl, List.append_nil] at enough ⊢
              rw [readItems, readValue_dumps reading ascii item readItem (by omega)
                (endsNumber_cons (by decide) rest)]
              rfl
          | cons next others =>
              obtain ⟨nextReadable, -⟩ := Bool.and_eq_true_iff.mp readOthers
              have more : dumpsItems (inOrder ascii) (next :: others) ≠ [] := by
                rw [dumpsItems]
                exact List.cons_ne_nil _ _
              rw [if_neg more, List.length_append, List.length_cons] at enough
              rw [if_neg more, List.append_assoc, List.cons_append, readItems,
                readValue_dumps reading ascii item readItem (by omega)
                  (endsNumber_cons (by decide) _)]
              have inner : 2 * (Text.join [',']
                  (dumpsItems (inOrder ascii) (next :: others))).length + 2 ≤ fuel := by omega
              have back := readItems_dumpsItems reading ascii (next :: others)
                (List.cons_ne_nil _ _) rest readOthers inner
              obtain ⟨first, after, front, visible, -⟩ :=
                items_front ascii others (']' :: rest) nextReadable
              dsimp only
              rw [skipBlank_cons (by decide)]
              dsimp only
              rw [if_pos rfl, front, skipBlank_cons visible, ← front, back]
              rfl
/-- The entries of a dictionary are read back. -/
theorem readEntries_dumpsEntries
    [ReadableFloats F]
    (reading : Reading)
    (ascii : Bool)
    (entries : List (Str × Value F))
    (nonempty : entries ≠ [])
    {fuel : Nat}
    (rest : Str)
    (isReadable : everywhereEntries isFinite (fun keys => decide keys.Nodup) entries = true)
    (enough : 2 * (Text.join [','] ((dumpsEntries (inOrder ascii) entries).map
      (entryText (inOrder ascii)))).length + 2 ≤ fuel) :
    readEntries reading fuel
      (Text.join [','] ((dumpsEntries (inOrder ascii) entries).map
        (entryText (inOrder ascii))) ++ '\x7d' :: rest) = some (entries, rest) := by
  cases fuel with
  | zero => omega
  | succ fuel =>
      cases entries with
      | nil => exact absurd rfl nonempty
      | cons entry entries =>
          obtain ⟨key, value⟩ := entry
          obtain ⟨readThis, readOthers⟩ := Bool.and_eq_true_iff.mp isReadable
          obtain ⟨first, word, starts, visible, -⟩ := dumps_starts (inOrder ascii) readThis
          have longer := length_lt_quote (inOrder ascii) key
          rw [dumpsEntries, List.map_cons, join_cons] at enough ⊢
          have keyed : ∀ after, readKey fuel (quote (inOrder ascii) key ++
              ':' :: (dumps (inOrder ascii) value ++ after)) =
                some (key, dumps (inOrder ascii) value ++ after) := by
            intro after
            rw [starts, List.cons_append]
            refine readKey_quote _ key ?_ visible
            simp only [entryText, List.length_append, List.length_cons] at enough
            omega
          cases entries with
          | nil =>
              rw [dumpsEntries, List.map_nil, if_pos rfl, List.append_nil] at enough ⊢
              have split : entryText (inOrder ascii) (key, dumps (inOrder ascii) value) ++
                  '\x7d' :: rest = quote (inOrder ascii) key ++
                    ':' :: (dumps (inOrder ascii) value ++ '\x7d' :: rest) := by
                simp [entryText]
              simp only [entryText, List.length_append, List.length_cons] at enough
              rw [split, readEntries, keyed]
              dsimp only
              rw [readValue_dumps reading ascii value readThis (by omega)
                (endsNumber_cons (by decide) rest)]
              rfl
          | cons next others =>
              have more : (dumpsEntries (inOrder ascii) (next :: others)).map
                  (entryText (inOrder ascii)) ≠ [] := by
                rw [dumpsEntries, List.map_cons]
                exact List.cons_ne_nil _ _
              rw [if_neg more] at enough ⊢
              have inner : 2 * (Text.join [','] ((dumpsEntries (inOrder ascii)
                  (next :: others)).map (entryText (inOrder ascii)))).length + 2 ≤ fuel := by
                rw [List.length_append, List.length_cons] at enough
                omega
              have back := readEntries_dumpsEntries reading ascii (next :: others)
                (List.cons_ne_nil _ _) rest readOthers inner
              obtain ⟨after, front⟩ := entries_front ascii next others ('\x7d' :: rest)
              have split : (entryText (inOrder ascii) (key, dumps (inOrder ascii) value) ++
                  ',' :: Text.join [','] ((dumpsEntries (inOrder ascii) (next :: others)).map
                    (entryText (inOrder ascii)))) ++ '\x7d' :: rest =
                  quote (inOrder ascii) key ++ ':' :: (dumps (inOrder ascii) value ++
                    ',' :: (Text.join [','] ((dumpsEntries (inOrder ascii)
                      (next :: others)).map (entryText (inOrder ascii))) ++
                        '\x7d' :: rest)) := by
                simp [entryText]
              simp only [entryText, List.length_append, List.length_cons] at enough
              rw [split, readEntries, keyed]
              dsimp only
              rw [readValue_dumps reading ascii value readThis (by omega)
                (endsNumber_cons (by decide) _)]
              dsimp only
              rw [skipBlank_cons (by decide)]
              dsimp only
              rw [if_pos rfl, front, skipBlank_cons (by decide), ← front, back]
              rfl
end

end Json
end ChatPlatform
