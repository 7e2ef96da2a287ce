import ChatPlatform.Foundation.Text

/-!
# Cutting a text where a word may end

Words joined with a separator can be taken apart again as far as their ends can be told:
a text is cut at each separator that stands after a piece that could be a whole word. Two
sequences of words make the same text exactly when they have the same finest pieces.
-/

namespace ChatPlatform
namespace Text
namespace Cuts

variable (ends : Str → Bool) (separator : Char)

/-- The pieces between the separators at which a word may end, where `piece` holds the
characters read so far of the piece in progress. -/
def cutFrom (piece : Str) : Str → List Str
  | [] => [piece]
  | c :: rest =>
      if c = separator ∧ ends piece = true then piece :: cutFrom [] rest
      else cutFrom (piece ++ [c]) rest

/-- The finest pieces of a text; there is always one. -/
def cut (s : Str) : List Str := cutFrom ends separator [] s

/-- A word that ends as words do, and in a way that holds no separator. -/
def IsWord (word : Str) : Prop :=
  ∃ front back, word = front ++ back ∧ separator ∉ back ∧
    ∀ before, ends (before ++ back) = true

variable {ends separator}

theorem cutFrom_ne_nil (piece s : Str) : cutFrom ends separator piece s ≠ [] := by
  induction s generalizing piece with
  | nil => exact List.cons_ne_nil _ _
  | cons c rest inductionHypothesis =>
      unfold cutFrom
      split
      · exact List.cons_ne_nil _ _
      · exact inductionHypothesis _

/-- The pieces make up the text. -/
theorem join_cutFrom (piece s : Str) :
    join [separator] (cutFrom ends separator piece s) = piece ++ s := by
  induction s generalizing piece with
  | nil => exact (List.append_nil piece).symm
  | cons c rest inductionHypothesis =>
      unfold cutFrom
      split
      · rename_i isCut
        rw [join_cons_of_ne_nil _ _ (cutFrom_ne_nil [] rest), inductionHypothesis, isCut.1]
        simp only [List.append_assoc, List.nil_append, List.singleton_append]
      · rw [inductionHypothesis, List.append_assoc, List.singleton_append]

/-- The finest pieces make up the text. -/
theorem join_cut (s : Str) : join [separator] (cut ends separator s) = s :=
  join_cutFrom [] s

/-- What holds no separator lengthens the last piece. -/
theorem cutFrom_of_not_mem
    {s : Str}
    (free : separator ∉ s)
    (piece : Str) : cutFrom ends separator piece s = [piece ++ s] := by
  induction s generalizing piece with
  | nil => rw [cutFrom, List.append_nil]
  | cons c rest inductionHypothesis =>
      have notFirst : c ≠ separator := fun same => free (same ▸ List.mem_cons_self)
      have notRest : separator ∉ rest := fun held => free (List.mem_cons_of_mem _ held)
      rw [cutFrom, if_neg fun isCut => notFirst isCut.1, inductionHypothesis notRest,
        List.append_assoc, List.singleton_append]

variable (ends separator) in
/-- A text is cut in front of its last piece as it is cut without the end of it. -/
theorem exists_cutFrom_append (piece s : Str) :
    ∃ pieces last, ∀ rest, cutFrom ends separator piece (s ++ rest) =
      pieces ++ cutFrom ends separator last rest := by
  induction s generalizing piece with
  | nil => exact ⟨[], piece, fun rest => rfl⟩
  | cons c s inductionHypothesis =>
      by_cases isCut : c = separator ∧ ends piece = true
      · obtain ⟨pieces, last, splits⟩ := inductionHypothesis []
        refine ⟨piece :: pieces, last, fun rest => ?_⟩
        rw [List.cons_append, cutFrom, if_pos isCut, splits, List.cons_append]
      · obtain ⟨pieces, last, splits⟩ := inductionHypothesis (piece ++ [c])
        refine ⟨pieces, last, fun rest => ?_⟩
        rw [List.cons_append, cutFrom, if_neg isCut, splits]

/-- A word before a separator is cut as if nothing followed it. -/
theorem cut_word_append
    {word : Str}
    (isWord : IsWord ends separator word)
    (rest : Str) :
    cut ends separator (word ++ separator :: rest) =
      cut ends separator word ++ cut ends separator rest := by
  obtain ⟨front, back, rfl, free, ending⟩ := isWord
  obtain ⟨pieces, last, splits⟩ := exists_cutFrom_append ends separator [] front
  obtain ⟨later, tail, splitsBack⟩ := exists_cutFrom_append ends separator last back
  have whole := splitsBack []
  rw [List.append_nil, cutFrom_of_not_mem free, cutFrom] at whole
  obtain ⟨noLater, isTail⟩ :=
    List.append_inj' (show [] ++ [last ++ back] = later ++ [tail] from whole) rfl
  have isLast : tail = last ++ back := (List.cons.inj isTail).1.symm
  unfold cut
  rw [List.append_assoc, splits, splits, splitsBack, ← noLater, isLast,
    cutFrom_of_not_mem free, List.nil_append, cutFrom, if_pos ⟨rfl, ending last⟩,
    List.append_assoc, List.singleton_append]

/-- Joined words are cut as each of them is. -/
theorem cut_join
    {words : List Str}
    (areWords : ∀ word ∈ words, IsWord ends separator word)
    (nonempty : words ≠ []) :
    cut ends separator (join [separator] words) = words.flatMap (cut ends separator) := by
  induction words with
  | nil => exact absurd rfl nonempty
  | cons word rest inductionHypothesis =>
      by_cases last : rest = []
      · rw [last, join_singleton, List.flatMap_singleton]
      · rw [join_cons_of_ne_nil _ _ last, List.append_assoc, List.singleton_append,
          cut_word_append (areWords word List.mem_cons_self),
          inductionHypothesis (fun other held => areWords other (List.mem_cons_of_mem _ held))
            last, List.flatMap_cons]

theorem cut_ne_nil (s : Str) : cut ends separator s ≠ [] := cutFrom_ne_nil [] s

variable (ends separator) in
/-- The finest pieces of words make up the words joined. -/
theorem join_flatMap_cut (words : List Str) :
    join [separator] (words.flatMap (cut ends separator)) = join [separator] words := by
  have joined : ∀ pieces rest : List Str, pieces ≠ [] → rest ≠ [] →
      join [separator] (pieces ++ rest) =
        join [separator] pieces ++ [separator] ++ join [separator] rest := by
    intro pieces rest held more
    have separated := join_append_separator [separator] held
    induction pieces with
    | nil => exact absurd rfl held
    | cons piece pieces inductionHypothesis =>
        by_cases last : pieces = []
        · rw [last, List.singleton_append, join_cons_of_ne_nil _ _ more, join_singleton]
        · rw [List.cons_append, join_cons_of_ne_nil _ _ (by simp [last]),
            inductionHypothesis last (join_append_separator _ last),
            join_cons_of_ne_nil _ _ last]
          simp only [List.append_assoc]
  induction words with
  | nil => rfl
  | cons word rest inductionHypothesis =>
      rw [List.flatMap_cons]
      by_cases last : rest = []
      · rw [last, List.flatMap_nil, List.append_nil, join_cut, join_singleton]
      · have more : rest.flatMap (cut ends separator) ≠ [] := by
          obtain ⟨next, others, rfl⟩ := List.exists_cons_of_ne_nil last
          rw [List.flatMap_cons]
          exact List.append_ne_nil_of_left_ne_nil (cut_ne_nil next) _
        rw [joined _ _ (cut_ne_nil word) more, join_cut, inductionHypothesis,
          join_cons_of_ne_nil _ _ last]

/-- Two sequences of words, none of them empty, make the same text exactly when they have
the same finest pieces. -/
theorem join_eq_join_iff
    {words others : List Str}
    (areWords : ∀ word ∈ words, IsWord ends separator word ∧ word ≠ [])
    (otherWords : ∀ word ∈ others, IsWord ends separator word ∧ word ≠ []) :
    join [separator] words = join [separator] others ↔
      words.flatMap (cut ends separator) = others.flatMap (cut ends separator) := by
  constructor
  · intro same
    have blank : ∀ rest : List Str, (∀ word ∈ rest, word ≠ []) →
        join [separator] rest = [] → rest = [] := by
      intro rest held isBlank
      cases rest with
      | nil => rfl
      | cons word rest =>
          by_cases last : rest = []
          · rw [last, join_singleton] at isBlank
            exact absurd isBlank (held word List.mem_cons_self)
          · rw [join_cons_of_ne_nil _ _ last] at isBlank
            simp at isBlank
    by_cases none : words = []
    · rw [none, blank others (fun word held => (otherWords word held).2)
        (same ▸ none ▸ rfl)]
    · by_cases noneOther : others = []
      · exact absurd (blank words (fun word held => (areWords word held).2)
          (same ▸ noneOther ▸ rfl)) none
      · rw [← cut_join (fun word held => (areWords word held).1) none, same,
          cut_join (fun word held => (otherWords word held).1) noneOther]
  · intro same
    rw [← join_flatMap_cut ends separator words, same, join_flatMap_cut]

/-- A text that no word's end can be found in is its only piece. -/
theorem cut_eq_singleton
    {s : Str}
    (whole : ∀ front rest, s = front ++ separator :: rest → ends front = false) :
    cut ends separator s = [s] := by
  have uncut : ∀ (rest piece : Str), s = piece ++ rest →
      cutFrom ends separator piece rest = [s] := by
    intro rest
    induction rest with
    | nil =>
        intro piece isWhole
        rw [cutFrom, isWhole, List.append_nil]
    | cons c rest inductionHypothesis =>
        intro piece isWhole
        rw [cutFrom, if_neg ?_]
        · exact inductionHypothesis _ (by rw [isWhole, List.append_assoc, List.singleton_append])
        · rintro ⟨rfl, ending⟩
          rw [whole piece rest isWhole] at ending
          cases ending
  exact uncut s [] rfl

end Cuts
end Text
end ChatPlatform
