import ChatPlatform.Foundation.Text

/-!
# Finding what stands between delimiters

A reader of a text finds a part of it by the delimiters around it: whole lines, or the
first occurrence of a header. The delimiters are found at the right place when nothing in
front of them can be taken for them.
-/

namespace ChatPlatform
namespace Text

/-- A character is not in a literal when it is not among its characters. -/
theorem not_mem_literal
    {c : Char}
    {characters : Str}
    (absent : c ∉ characters) : c ∉ (String.ofList characters).toList := by
  rwa [String.toList_ofList]

/-- A text starts with the first character of the literal it starts with. -/
theorem head?_literal_append
    (c : Char)
    (characters rest : Str) :
    ((String.ofList (c :: characters)).toList ++ rest).head? = some c := by
  rw [String.toList_ofList]
  rfl

/-- A literal is as long as its characters. -/
theorem length_literal
    {characters : Str}
    {size : Nat}
    (counted : characters.length = size) :
    (String.ofList characters).toList.length = size := by
  rwa [String.toList_ofList]

/-- A literal in front of a text adds its size. -/
theorem length_literal_append
    {characters rest : Str}
    {others : Nat}
    (size : Nat)
    (counted : characters.length = size)
    (counted_rest : rest.length = others) :
    ((String.ofList characters).toList ++ rest).length = size + others := by
  rw [List.length_append, length_literal counted, counted_rest]

/-! ## Lines -/

/-- The items between the first opening one and the closing one after it. -/
def enclosed
    (opening closing : Str)
    (lines : List Str) : List Str :=
  ((lines.dropWhile (· ≠ opening)).drop 1).takeWhile (· ≠ closing)

/-- A string without separators is one piece. -/
theorem splitAt_of_not_mem
    {separator : Char}
    {s : Str}
    (absent : separator ∉ s) : splitAt separator s = [s] := by
  induction s with
  | nil => rfl
  | cons c rest inductionHypothesis =>
      obtain ⟨different, absentRest⟩ := not_or.mp (mt List.mem_cons.mpr absent)
      rw [splitAt, if_neg (Ne.symm different), inductionHypothesis absentRest]

/-- A separator splits a string in two. -/
theorem splitAt_append_separator
    (separator : Char)
    (before after : Str) :
    splitAt separator (before ++ separator :: after) =
      splitAt separator before ++ splitAt separator after := by
  induction before with
  | nil => simp [splitAt]
  | cons c rest inductionHypothesis =>
      rw [List.cons_append, splitAt, splitAt, inductionHypothesis]
      split
      · rfl
      · cases pieces : splitAt separator rest with
        | nil => exact absurd pieces (splitAt_ne_nil separator rest)
        | cons piece others => rfl

/-- Joined strings are split as each of them is. -/
theorem splitAt_join
    (separator : Char)
    {pieces : List Str}
    (nonempty : pieces ≠ []) :
    splitAt separator (join [separator] pieces) = pieces.flatMap (splitAt separator) := by
  induction pieces with
  | nil => exact absurd rfl nonempty
  | cons piece rest inductionHypothesis =>
      by_cases last : rest = []
      · rw [last, join_singleton, List.flatMap_singleton]
      · rw [join_cons_of_ne_nil _ _ last, List.append_assoc, List.singleton_append,
          splitAt_append_separator, inductionHypothesis last, List.flatMap_cons]

/-- One line between two delimiters that stand on lines of their own is found, when the
lines in front of them are not the opening one. -/
theorem enclosed_single
    {opening closing line : Str}
    {front back : List Str}
    (notOpening : opening ∉ front)
    (notClosing : line ≠ closing) :
    enclosed opening closing (front ++ opening :: line :: closing :: back) = [line] := by
  have skipped : (front ++ opening :: line :: closing :: back).dropWhile (· ≠ opening) =
      opening :: line :: closing :: back := by
    rw [List.dropWhile_append_of_pos, List.dropWhile_cons_of_neg (by simp)]
    intro other held
    refine decide_eq_true ?_
    rintro rfl
    exact notOpening held
  unfold enclosed
  rw [skipped]
  simp [notClosing]

/-! ## The first occurrence -/

/-- What follows the first occurrence of a header. -/
def afterFirst (needle : Str) : Str → Option Str
  | [] => if needle.isEmpty then some [] else none
  | c :: rest =>
      if needle.isPrefixOf (c :: rest) then some ((c :: rest).drop needle.length)
      else afterFirst needle rest

/-- A header in front is the first one. -/
theorem afterFirst_append (needle rest : Str) : afterFirst needle (needle ++ rest) = some rest := by
  cases needle with
  | nil => cases rest <;> simp [afterFirst]
  | cons c others =>
      have isPrefix : (c :: others).isPrefixOf (c :: (others ++ rest)) = true := by
        rw [List.isPrefixOf_iff_prefix]
        exact List.prefix_append (c :: others) rest
      rw [List.cons_append, afterFirst, if_pos isPrefix, ← List.cons_append,
        List.drop_left]

/-- A header does not start in a text without its first character. -/
theorem afterFirst_skip
    {c : Char}
    {before : Str}
    (absent : c ∉ before)
    (needle rest : Str) :
    afterFirst (c :: needle) (before ++ rest) = afterFirst (c :: needle) rest := by
  induction before with
  | nil => rfl
  | cons d others inductionHypothesis =>
      obtain ⟨different, absentOthers⟩ := not_or.mp (mt List.mem_cons.mpr absent)
      have notPrefix : (c :: needle).isPrefixOf (d :: (others ++ rest)) = false := by
        simp [List.isPrefixOf, different]
      rw [List.cons_append, afterFirst, if_neg (by simp [notPrefix]),
        inductionHypothesis absentOthers]

end Text
end ChatPlatform
