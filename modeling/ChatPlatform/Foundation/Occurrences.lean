import ChatPlatform.Foundation.Text
import Mathlib.Data.List.Flatten

/-!
# Counting occurrences

How often a needle occurs in a text. A character that is not in the needle separates the
occurrences before it from those after it, so the count of a composed text is the sum of
the counts of its parts.
-/

namespace ChatPlatform
namespace Text

/-- How often a needle occurs. -/
def occurrences (needle : Str) : Str → Nat
  | [] => 0
  | c :: rest =>
      (if needle.isPrefixOf (c :: rest) then 1 else 0) + occurrences needle rest

@[simp] theorem occurrences_nil (needle : Str) : occurrences needle [] = 0 := rfl

/-- A needle occurs in a text exactly when the text contains it. -/
theorem occurrences_eq_zero_iff
    {needle : Str}
    (nonempty : needle ≠ [])
    (text : Str) : occurrences needle text = 0 ↔ contains needle text = false := by
  induction text with
  | nil =>
      cases needle with
      | nil => exact absurd rfl nonempty
      | cons d others => simp [contains]
  | cons c rest inductionHypothesis =>
      rw [occurrences, contains, Bool.or_eq_false_iff, ← inductionHypothesis]
      cases needle.isPrefixOf (c :: rest) <;> simp

/-- No occurrence starts in a text without the first character of the needle. -/
theorem occurrences_append_of_not_mem
    {d : Char}
    {before : Str}
    (absent : d ∉ before)
    (needle after : Str) :
    occurrences (d :: needle) (before ++ after) = occurrences (d :: needle) after := by
  induction before with
  | nil => rfl
  | cons c rest inductionHypothesis =>
      obtain ⟨different, absentRest⟩ := not_or.mp (mt List.mem_cons.mpr absent)
      have notPrefix : (d :: needle).isPrefixOf (c :: (rest ++ after)) = false := by
        simp [List.isPrefixOf, different]
      rw [List.cons_append, occurrences, notPrefix, inductionHypothesis absentRest]
      simp

/-- A needle does not occur in a text without its first character. -/
theorem occurrences_of_not_mem
    {d : Char}
    {text : Str}
    (absent : d ∉ text)
    (needle : Str) : occurrences (d :: needle) text = 0 := by
  have skipped := occurrences_append_of_not_mem absent needle []
  rwa [List.append_nil] at skipped

/-- A needle that starts in front of a separator ends there. -/
private theorem isPrefixOf_append_separator
    {needle : Str}
    {separator : Char}
    (absent : separator ∉ needle)
    (before after : Str) :
    needle.isPrefixOf (before ++ separator :: after) = needle.isPrefixOf before := by
  induction needle generalizing before with
  | nil => simp
  | cons d others inductionHypothesis =>
      obtain ⟨different, absentOthers⟩ := not_or.mp (mt List.mem_cons.mpr absent)
      cases before with
      | nil => simp [List.isPrefixOf, Ne.symm different]
      | cons c rest =>
          rw [List.cons_append, List.isPrefixOf, List.isPrefixOf,
            inductionHypothesis absentOthers]

/-- A character that is not in the needle separates its occurrences. -/
theorem occurrences_append_separator
    {needle : Str}
    (nonempty : needle ≠ [])
    {separator : Char}
    (absent : separator ∉ needle)
    (before after : Str) :
    occurrences needle (before ++ separator :: after) =
      occurrences needle before + occurrences needle after := by
  induction before with
  | nil =>
      have notPrefix := isPrefixOf_append_separator absent [] after
      rw [List.nil_append] at notPrefix
      rw [List.nil_append, occurrences_nil, occurrences, notPrefix]
      cases needle with
      | nil => exact absurd rfl nonempty
      | cons d others => simp [List.isPrefixOf]
  | cons c rest inductionHypothesis =>
      rw [List.cons_append, occurrences, occurrences, inductionHypothesis,
        ← List.cons_append, isPrefixOf_append_separator absent]
      omega

/-- A needle is contained before or after a character that it does not have. -/
theorem contains_append_separator
    {needle : Str}
    (nonempty : needle ≠ [])
    {separator : Char}
    (absent : separator ∉ needle)
    (before after : Str) :
    contains needle (before ++ separator :: after) =
      (contains needle before || contains needle after) := by
  have counts := occurrences_append_separator nonempty absent before after
  have whole := occurrences_eq_zero_iff nonempty (before ++ separator :: after)
  rw [counts, Nat.add_eq_zero_iff, occurrences_eq_zero_iff nonempty,
    occurrences_eq_zero_iff nonempty] at whole
  cases front : contains needle before <;> cases back : contains needle after <;>
    cases both : contains needle (before ++ separator :: after) <;> simp_all

/-- Brackets that are not in the needle do not matter. -/
theorem occurrences_bracketed
    {needle : Str}
    (nonempty : needle ≠ [])
    {first last : Char}
    (firstAbsent : first ∉ needle)
    (lastAbsent : last ∉ needle)
    (text : Str) :
    occurrences needle (first :: text ++ [last]) = occurrences needle text := by
  have front := occurrences_append_separator nonempty firstAbsent [] (text ++ [last])
  have back := occurrences_append_separator nonempty lastAbsent text []
  rw [List.nil_append] at front
  rw [List.cons_append, front, back]
  simp

/-- The occurrences in joined pieces are those in the pieces. -/
theorem occurrences_join
    {needle : Str}
    (nonempty : needle ≠ [])
    {separator : Char}
    (absent : separator ∉ needle)
    (pieces : List Str) :
    occurrences needle (join [separator] pieces) = (pieces.map (occurrences needle)).sum := by
  induction pieces with
  | nil => rfl
  | cons piece rest inductionHypothesis =>
      by_cases last : rest = []
      · simp [last]
      · rw [join_cons_of_ne_nil _ _ last, List.append_assoc, List.singleton_append,
          occurrences_append_separator nonempty absent, inductionHypothesis, List.map_cons,
          List.sum_cons]

/-! ## Searching from the right -/

/-- The last of `count` positions from `low` on at which a needle occurs, and minus one if there
is none. -/
def rfindFrom
    (text needle : Str)
    (low : Nat) : Nat → Int
  | 0 => -1
  | count + 1 =>
      if needle.isPrefixOf (text.drop (low + count)) then ((low + count : Nat) : Int)
      else rfindFrom text needle low count

/-- The last position at which a needle occurs between two positions, and minus one if there is
none. -/
def rfind
    (text needle : Str)
    (low high : Nat) : Int :=
  rfindFrom text needle low (min high text.length + 1 - (low + needle.length))

/-- A search from the right finds a position from the first one on. -/
theorem rfindFrom_bounds
    (text needle : Str)
    (low count : Nat) :
    rfindFrom text needle low count = -1 ∨
      ((low : Int) ≤ rfindFrom text needle low count ∧
        rfindFrom text needle low count < low + count) := by
  induction count with
  | zero => exact .inl rfl
  | succ count ih =>
      rw [rfindFrom]
      split
      · right
        omega
      · omega

/-- What is found from the right lies between the positions. -/
theorem rfind_bounds
    (text needle : Str)
    (low high : Nat) :
    rfind text needle low high = -1 ∨
      ((low : Int) ≤ rfind text needle low high ∧
        rfind text needle low high + needle.length ≤ min high text.length) := by
  have bounds := rfindFrom_bounds text needle low
    (min high text.length + 1 - (low + needle.length))
  rw [rfind]
  omega

/-- The last position at which any of the needles occurs between two positions, and minus one if
there is none. -/
def rfindAny
    (text : Str)
    (needles : List Str)
    (low high : Nat) : Int :=
  (needles.map fun needle => rfind text needle low high).foldr max (-1)

/-- What is found of several needles lies between the positions. -/
theorem rfindAny_bounds
    (text : Str)
    (needles : List Str)
    (low high : Nat)
    (nonempty : ∀ needle ∈ needles, 0 < needle.length) :
    rfindAny text needles low high = -1 ∨
      ((low : Int) ≤ rfindAny text needles low high ∧
        rfindAny text needles low high < min high text.length) := by
  induction needles with
  | nil => exact .inl rfl
  | cons needle rest ih =>
      rw [List.forall_mem_cons] at nonempty
      have here := rfind_bounds text needle low high
      have later := ih nonempty.2
      have some := nonempty.1
      simp only [rfindAny, List.map_cons, List.foldr_cons] at later ⊢
      omega

/-! ## Replacing -/

/-- A text with every occurrence of a needle replaced, from the left and after `skip` characters
that are part of the last one. -/
def replaceFrom
    (needle replacement : Str) : (skip : Nat) → Str → Str
  | _, [] => []
  | 0, c :: rest =>
      if needle.isPrefixOf (c :: rest) then
        replacement ++ replaceFrom needle replacement (needle.length - 1) rest
      else c :: replaceFrom needle replacement 0 rest
  | skip + 1, _ :: rest => replaceFrom needle replacement skip rest

/-- A text with every occurrence of a needle replaced. -/
def replace (needle replacement text : Str) : Str := replaceFrom needle replacement 0 text

/-- Nothing is replaced in a text that is shorter than the needle. -/
theorem replace_of_short
    {needle : Str}
    (replacement : Str)
    {text : Str}
    (short : text.length < needle.length) : replace needle replacement text = text := by
  unfold replace
  induction text with
  | nil => rfl
  | cons c rest inductionHypothesis =>
      have absent : ¬needle.isPrefixOf (c :: rest) = true := fun occurs =>
        absurd (List.isPrefixOf_iff_prefix.mp occurs).length_le (Nat.not_le.mpr short)
      rw [replaceFrom, if_neg absent, inductionHypothesis (Nat.lt_of_succ_lt short)]

/-- A text whose lines all end in the same way. -/
def normalizeLineEndings (text : Str) : Str :=
  replace ['\r'] ['\n'] (replace ['\r', '\n'] ['\n'] text)

example :
    normalizeLineEndings ['a', '\r', '\n', 'b', '\r', '\r', '\n'] =
      ['a', '\n', 'b', '\n', '\n'] := by
  decide

end Text
end ChatPlatform
