import Mathlib.Algebra.GroupWithZero.Nat
import Mathlib.Data.List.DropRight
import Mathlib.Data.List.Infix

/-!
# Strings as sequences of code points

A string is the list of its code points, so that its length, its slices and its
prefixes are those of a list. The operations are the built-in string methods of
the modelled language: stripping and splitting at white space, splitting at one
character, joining, and prefix tests.
-/

namespace ChatPlatform

/-- A string, as the sequence of its code points. -/
abbrev Str := List Char

/-- Two strings that compare equal are equal. -/
instance Str.lawfulBEq : LawfulBEq Str := List.instLawfulBEq

namespace Text

/-- A property of the code points of a string is decided along the string. It is
preferred to a search through all code points. -/
instance (priority := high) decidableForallMem
    (s : Str)
    (holds : Char → Prop)
    [DecidablePred holds] : Decidable (∀ c ∈ s, holds c) :=
  List.decidableBAll holds s

/-- What holds of its code points holds of a literal. -/
theorem of_codePoints
    (p : Str → Prop)
    {codePoints : Str}
    (holds : p codePoints) : p (String.ofList codePoints).toList := by
  rwa [String.toList_ofList]

/-- The code points of capital letters. -/
theorem isUpper_bounds
    {c : Char}
    (isUpper : c.isUpper = true) : 65 ≤ c.toNat ∧ c.toNat ≤ 90 :=
  of_decide_eq_true isUpper

/-- The code points of small letters. -/
theorem isLower_bounds
    {c : Char}
    (isLower : c.isLower = true) : 97 ≤ c.toNat ∧ c.toNat ≤ 122 := by
  have both : (decide (c.val ≥ 'a'.val) && decide (c.val ≤ 'z'.val)) = true := isLower
  obtain ⟨least, most⟩ := Bool.and_eq_true_iff.mp both
  exact ⟨of_decide_eq_true least, of_decide_eq_true most⟩

/-- Letters are capital or small. -/
theorem isAlpha_iff {c : Char} : c.isAlpha = true ↔ c.isUpper = true ∨ c.isLower = true := by
  rw [← Bool.or_eq_true_iff]
  rfl

/-- Code points that count as white space for `strip` and `split`. -/
def isSpace (c : Char) : Bool :=
  let n := c.toNat
  (9 ≤ n && n ≤ 13) || (28 ≤ n && n ≤ 32) || n == 0x85 || n == 0xA0 ||
    n == 0x1680 || (0x2000 ≤ n && n ≤ 0x200A) || n == 0x2028 || n == 0x2029 ||
    n == 0x202F || n == 0x205F || n == 0x3000

/-- Remove white space at both ends. -/
def strip (s : Str) : Str :=
  (s.dropWhile isSpace).rdropWhile isSpace

/-- The string without any occurrence of one character. -/
def remove (c : Char) (s : Str) : Str :=
  s.filter (· ≠ c)

/-- Split at every occurrence of one character. The result is never empty. -/
def splitAt (separator : Char) : Str → List Str
  | [] => [[]]
  | c :: rest =>
      if c = separator then [] :: splitAt separator rest
      else
        match splitAt separator rest with
        | [] => [[c]]
        | piece :: pieces => (c :: piece) :: pieces

/-- Join strings with a separator between neighbours. -/
def join (separator : Str) : List Str → Str
  | [] => []
  | [piece] => piece
  | piece :: next :: rest => piece ++ separator ++ join separator (next :: rest)

/-- The runs between gaps, where `word` holds the characters read so far of the
run in progress; no run is empty. -/
def runsFrom (isGap : Char → Bool) (word : Str) : Str → List Str
  | [] => if word = [] then [] else [word]
  | c :: rest =>
      if isGap c then
        if word = [] then runsFrom isGap [] rest
        else word :: runsFrom isGap [] rest
      else runsFrom isGap (word ++ [c]) rest

/-- Split at runs of white space. -/
def words (s : Str) : List Str := runsFrom isSpace [] s

/-- Whether `needle` occurs in the string as a contiguous block. -/
def contains (needle : Str) : Str → Bool
  | [] => needle.isEmpty
  | c :: rest => needle.isPrefixOf (c :: rest) || contains needle rest

/-- Lower case. Outside ASCII only the two letters whose lower case contains an
ASCII letter are mapped. -/
def lower (s : Str) : Str :=
  s.flatMap fun c =>
    if c.toNat = 0x130 then ['i', Char.ofNat 0x307]
    else if c.toNat = 0x212A then ['k']
    else [c.toLower]

/-- `s[:stop]` for a stop counted from the end when it is negative. -/
def sliceTo (s : Str) (stop : Int) : Str :=
  if 0 ≤ stop then s.take stop.toNat
  else s.take (s.length - (-stop).toNat)

/-- Cut a string to a number of characters. -/
def truncate (s : Str) (maxChars : Int) : Str :=
  if (s.length : Int) ≤ maxChars then s else sliceTo s maxChars

/-- Cutting keeps a prefix. -/
theorem truncate_prefix (s : Str) (maxChars : Int) : truncate s maxChars <+: s := by
  unfold truncate sliceTo
  split
  · exact List.prefix_rfl
  · split <;> exact List.take_prefix _ _

/-- Cutting meets a bound that is not negative. -/
theorem length_truncate_le
    (s : Str)
    {maxChars : Int}
    (nonnegative : 0 ≤ maxChars) :
    ((truncate s maxChars).length : Int) ≤ maxChars := by
  unfold truncate sliceTo
  split
  · assumption
  · rw [List.length_take]
    omega

/-! ## Stripping -/

/-- Stripping keeps a block of the string. -/
theorem strip_infix (s : Str) : strip s <:+: s :=
  (List.rdropWhile_prefix isSpace _).isInfix.trans
    (List.dropWhile_suffix isSpace).isInfix

/-- A stripped string does not end in white space. -/
theorem strip_getLast_not_space
    {s : Str}
    (nonempty : strip s ≠ []) :
    isSpace ((strip s).getLast nonempty) = false := by
  exact Bool.eq_false_iff.mpr (List.rdropWhile_last_not isSpace _ nonempty)

/-- Stripping gives the empty string exactly on white space. -/
theorem strip_eq_nil_iff (s : Str) :
    strip s = [] ↔ ∀ c ∈ s, isSpace c = true := by
  unfold strip
  rw [List.rdropWhile_eq_nil_iff]
  constructor
  · intro tailSpace c present
    by_contra notSpace
    have kept : c ∈ s.dropWhile isSpace := by
      rw [← List.takeWhile_append_dropWhile (p := isSpace) (l := s)] at present
      rcases List.mem_append.mp present with early | late
      · exact absurd (List.mem_takeWhile_imp early) notSpace
      · exact late
    exact notSpace (tailSpace c kept)
  · intro allSpace c present
    exact allSpace c ((List.dropWhile_suffix isSpace).subset present)

/-- No white space at either end. -/
def IsTrimmed (s : Str) : Prop :=
  (∀ c, s.head? = some c → isSpace c = false) ∧
    ∀ c, s.getLast? = some c → isSpace c = false

/-- Stripping changes exactly the strings with white space at an end. -/
theorem strip_eq_self_iff (s : Str) : strip s = s ↔ IsTrimmed s := by
  unfold strip
  have suffix : s.dropWhile isSpace <:+ s := List.dropWhile_suffix isSpace
  have front : s.dropWhile isSpace = s ↔
      ∀ c, s.head? = some c → isSpace c = false := by
    cases s with
    | nil => simp
    | cons head rest =>
        rw [List.dropWhile_eq_self_iff]
        simp
  have back : s.rdropWhile isSpace = s ↔
      ∀ c, s.getLast? = some c → isSpace c = false := by
    rcases List.eq_nil_or_concat s with rfl | ⟨rest, last, rfl⟩
    · simp
    · rw [List.rdropWhile_eq_self_iff]
      simp
  constructor
  · intro same
    have whole : s.dropWhile isSpace = s := by
      apply suffix.eq_of_length_le
      calc s.length
      _ = ((s.dropWhile isSpace).rdropWhile isSpace).length := by rw [same]
      _ ≤ (s.dropWhile isSpace).length :=
          (List.rdropWhile_prefix isSpace _).length_le
    rw [whole] at same
    exact ⟨front.mp whole, back.mp same⟩
  · rintro ⟨noFront, noBack⟩
    rw [front.mpr noFront, back.mpr noBack]

/-! ## Splitting and joining -/

theorem splitAt_ne_nil (separator : Char) (s : Str) :
    splitAt separator s ≠ [] := by
  cases s with
  | nil => simp [splitAt]
  | cons c rest =>
      unfold splitAt
      split
      · simp
      · split <;> simp

/-- No piece contains the separator. -/
theorem separator_not_mem_splitAt
    {separator : Char}
    {s piece : Str}
    (present : piece ∈ splitAt separator s) :
    separator ∉ piece := by
  induction s generalizing piece with
  | nil =>
      simp only [splitAt, List.mem_singleton] at present
      simp [present]
  | cons c rest inductionHypothesis =>
      unfold splitAt at present
      split at present
      · rcases List.mem_cons.mp present with rfl | inRest
        · simp
        · exact inductionHypothesis inRest
      · rename_i different
        have nonempty := splitAt_ne_nil separator rest
        cases split : splitAt separator rest with
        | nil => exact absurd split nonempty
        | cons first pieces =>
            rw [split] at present inductionHypothesis
            rcases List.mem_cons.mp present with rfl | inRest
            · have : separator ∉ first := inductionHypothesis (by simp)
              simp only [List.mem_cons, not_or]
              exact ⟨fun equal => different equal.symm, this⟩
            · exact inductionHypothesis (by simp [inRest])

/-- Characters of the pieces are characters of the string. -/
theorem mem_of_mem_splitAt
    {separator c : Char}
    {s piece : Str}
    (present : piece ∈ splitAt separator s)
    (inside : c ∈ piece) : c ∈ s := by
  induction s generalizing piece with
  | nil =>
      simp only [splitAt, List.mem_singleton] at present
      simp [present] at inside
  | cons head rest inductionHypothesis =>
      unfold splitAt at present
      split at present
      · rcases List.mem_cons.mp present with rfl | inRest
        · simp at inside
        · exact List.mem_cons_of_mem _ (inductionHypothesis inRest inside)
      · cases split : splitAt separator rest with
        | nil => exact absurd split (splitAt_ne_nil separator rest)
        | cons first pieces =>
            rw [split] at present inductionHypothesis
            rcases List.mem_cons.mp present with rfl | inRest
            · rcases List.mem_cons.mp inside with rfl | inFirst
              · simp
              · exact List.mem_cons_of_mem _
                  (inductionHypothesis List.mem_cons_self inFirst)
            · exact List.mem_cons_of_mem _
                (inductionHypothesis (by simp [inRest]) inside)

@[simp] theorem join_nil (separator : Str) : join separator [] = [] := rfl

@[simp] theorem join_singleton (separator piece : Str) :
    join separator [piece] = piece := rfl

theorem join_cons_of_ne_nil
    (separator piece : Str)
    {pieces : List Str}
    (nonempty : pieces ≠ []) :
    join separator (piece :: pieces) =
      piece ++ separator ++ join separator pieces := by
  cases pieces with
  | nil => exact absurd rfl nonempty
  | cons next rest => rfl

/-- Characters of a joined string come from a piece or from the separator. -/
theorem mem_of_mem_join
    {separator : Str}
    {pieces : List Str}
    {c : Char}
    (present : c ∈ join separator pieces) :
    c ∈ separator ∨ ∃ piece ∈ pieces, c ∈ piece := by
  induction pieces with
  | nil => simp at present
  | cons piece rest inductionHypothesis =>
      by_cases nonempty : rest = []
      · subst nonempty
        exact Or.inr ⟨piece, by simp, present⟩
      · rw [join_cons_of_ne_nil _ _ nonempty, List.mem_append,
          List.mem_append] at present
        rcases present with (inPiece | inSeparator) | inRest
        · exact Or.inr ⟨piece, by simp, inPiece⟩
        · exact Or.inl inSeparator
        · rcases inductionHypothesis inRest with inSeparator | ⟨other, held, inside⟩
          · exact Or.inl inSeparator
          · exact Or.inr ⟨other, List.mem_cons_of_mem _ held, inside⟩

/-- A separator after a joined string ends its last piece. -/
theorem join_append_separator
    (separator : Str)
    {pieces : List Str}
    (nonempty : pieces ≠ []) :
    join separator pieces ++ separator = pieces.flatMap (· ++ separator) := by
  induction pieces with
  | nil => exact absurd rfl nonempty
  | cons piece rest inductionHypothesis =>
      by_cases last : rest = []
      · simp [last]
      · rw [join_cons_of_ne_nil _ _ last, List.append_assoc,
          inductionHypothesis last, List.flatMap_cons]

/-- The last string is joined to the others. -/
theorem join_concat
    (separator : Str)
    {pieces : List Str}
    (nonempty : pieces ≠ [])
    (last : Str) :
    join separator (pieces ++ [last]) = join separator pieces ++ separator ++ last := by
  induction pieces with
  | nil => exact absurd rfl nonempty
  | cons piece rest inductionHypothesis =>
      by_cases isLast : rest = []
      · subst isLast
        rfl
      · rw [List.cons_append, join_cons_of_ne_nil _ _ (List.append_ne_nil_of_left_ne_nil isLast _),
          inductionHypothesis isLast, join_cons_of_ne_nil _ _ isLast]
        simp only [List.append_assoc]

/-- Joining the pieces with the separator gives the string back. -/
theorem join_splitAt (separator : Char) (s : Str) :
    join [separator] (splitAt separator s) = s := by
  induction s with
  | nil => rfl
  | cons c rest inductionHypothesis =>
      unfold splitAt
      split
      · rename_i equal
        rw [join_cons_of_ne_nil _ _ (splitAt_ne_nil separator rest),
          inductionHypothesis, equal]
        rfl
      · cases split : splitAt separator rest with
        | nil => exact absurd split (splitAt_ne_nil separator rest)
        | cons first pieces =>
            rw [split] at inductionHypothesis
            cases pieces with
            | nil => simpa using inductionHypothesis
            | cons next others =>
                simp only [join, List.cons_append] at inductionHypothesis ⊢
                rw [inductionHypothesis]

/-- Texts around the first separator. -/
theorem separated_left
    {left right before after : Str}
    {separator : Char}
    (leftFree : separator ∉ left)
    (rightFree : separator ∉ right)
    (same : left ++ separator :: before = right ++ separator :: after) :
    left = right ∧ before = after := by
  induction left generalizing right with
  | nil =>
      cases right with
      | nil => exact ⟨rfl, List.tail_eq_of_cons_eq same⟩
      | cons c rest =>
          exact absurd (List.head_eq_of_cons_eq same ▸ List.mem_cons_self) rightFree
  | cons c rest inductionHypothesis =>
      cases right with
      | nil =>
          exact absurd ((List.head_eq_of_cons_eq same).symm ▸ List.mem_cons_self) leftFree
      | cons d others =>
          obtain ⟨same, follows⟩ := List.cons_eq_cons.mp same
          obtain ⟨rests, tails⟩ := inductionHypothesis
            (fun held => leftFree (List.mem_cons_of_mem _ held))
            (fun held => rightFree (List.mem_cons_of_mem _ held)) follows
          exact ⟨by rw [same, rests], tails⟩

/-- Texts around the last separator. -/
theorem separated_right
    {left right before after : Str}
    {separator : Char}
    (leftFree : separator ∉ left)
    (rightFree : separator ∉ right)
    (same : before ++ separator :: left = after ++ separator :: right) :
    before = after ∧ left = right := by
  have reversed := congrArg List.reverse same
  simp only [List.reverse_append, List.reverse_cons, List.append_assoc,
    List.singleton_append] at reversed
  obtain ⟨ends, starts⟩ := separated_left (by simpa using leftFree)
    (by simpa using rightFree) reversed
  exact ⟨List.reverse_injective starts, List.reverse_injective ends⟩

/-! ## The bytes of a text -/

/-- The number of bytes of a text. -/
def utf8Length (text : Str) : Nat := (text.map Char.utf8Size).sum

@[simp] theorem utf8Length_nil : utf8Length [] = 0 := rfl

@[simp] theorem utf8Length_cons (c : Char) (rest : Str) :
    utf8Length (c :: rest) = c.utf8Size + utf8Length rest := rfl

@[simp] theorem utf8Length_append (text other : Str) :
    utf8Length (text ++ other) = utf8Length text + utf8Length other := by
  simp [utf8Length]

end Text
end ChatPlatform
