import ChatPlatform.Foundation.Numeral

/-!
# UUID values

A UUID is a number below `2 ^ 128`. Its text has the digit groups 8-4-4-4-12, and
reading one accepts braces, hyphens and the URN prefix in any place the standard
constructor accepts them.
-/

namespace ChatPlatform

/-- There is a first identifier. -/
instance Uuid.neZero_count : NeZero (2 ^ 128) := ⟨by decide⟩

/-- A 128-bit identifier. -/
structure Uuid where
  /-- The identifier as a number. -/
  value : Fin (2 ^ 128)
  deriving DecidableEq, Repr

namespace Uuid

/-- Put hyphens after the digits 8, 12, 16 and 20. -/
def hyphenate (hex : Str) : Str :=
  hex.take 8 ++ '-' :: ((hex.drop 8).take 4 ++ '-' :: ((hex.drop 12).take 4 ++
    '-' :: ((hex.drop 16).take 4 ++ '-' :: hex.drop 20)))

/-- Canonical text: lower-case digits in groups of 8, 4, 4, 4 and 12. -/
def text (id : Uuid) : Str := hyphenate (Numeral.hexText 32 id.value)

/-- Erase every occurrence of a block, left to right, where `skip` characters of
the current occurrence are still to be dropped. -/
def eraseBlock (block : Str) (skip : Nat) : Str → Str
  | [] => []
  | c :: rest =>
      match skip with
      | skip + 1 => eraseBlock block skip rest
      | 0 =>
          if block.isPrefixOf (c :: rest) then
            eraseBlock block (block.length - 1) rest
          else c :: eraseBlock block 0 rest

/-- The two braces. -/
def isBrace (c : Char) : Bool := c == '{' || c == '}'

/-- Remove braces at both ends. -/
def stripBraces (s : Str) : Str :=
  (s.dropWhile isBrace).rdropWhile isBrace

/-- The digits the constructor reads: no prefix, no braces, no hyphens. -/
def bareDigits (s : Str) : Str :=
  Text.remove '-' (stripBraces
    (eraseBlock "uuid:".toList 0 (eraseBlock "urn:".toList 0 s)))

/-- Read a UUID from text; `none` stands for the `ValueError`. -/
def ofText (s : Str) : Option Uuid :=
  if (bareDigits s).length ≠ 32 then none
  else
    match Numeral.intLiteral 16 (bareDigits s) with
    | none => none
    | some n =>
        if h : 0 ≤ n ∧ n.toNat < 2 ^ 128 then some ⟨⟨n.toNat, h.2⟩⟩ else none

/-- A block whose first character is absent does not occur. -/
theorem eraseBlock_of_not_mem
    {first : Char}
    {tail s : Str}
    (absent : first ∉ s) : eraseBlock (first :: tail) 0 s = s := by
  induction s with
  | nil => rfl
  | cons c rest inductionHypothesis =>
      simp only [List.mem_cons, not_or] at absent
      have different : (first == c) = false := by simp [absent.1]
      simp [eraseBlock, List.isPrefixOf, different,
        inductionHypothesis absent.2]

/-- Hyphenating adds hyphens only. -/
theorem mem_hyphenate
    {hex : Str}
    {c : Char}
    (present : c ∈ hyphenate hex) : c ∈ hex ∨ c = '-' := by
  simp only [hyphenate, List.mem_append, List.mem_cons] at present
  rcases present with h | h | h | h | h | h | h | h | h
  · exact Or.inl (List.mem_of_mem_take h)
  · exact Or.inr h
  · exact Or.inl (List.mem_of_mem_drop (List.mem_of_mem_take h))
  · exact Or.inr h
  · exact Or.inl (List.mem_of_mem_drop (List.mem_of_mem_take h))
  · exact Or.inr h
  · exact Or.inl (List.mem_of_mem_drop (List.mem_of_mem_take h))
  · exact Or.inr h
  · exact Or.inl (List.mem_of_mem_drop h)

private theorem remove_hyphen_cons (rest : Str) :
    Text.remove '-' ('-' :: rest) = Text.remove '-' rest := by
  simp [Text.remove]

private theorem remove_append (left right : Str) :
    Text.remove '-' (left ++ right) =
      Text.remove '-' left ++ Text.remove '-' right := by
  simp [Text.remove]

private theorem remove_of_not_mem
    {s : Str}
    (absent : '-' ∉ s) : Text.remove '-' s = s := by
  rw [Text.remove, List.filter_eq_self]
  intro c present
  simp only [decide_eq_true_eq]
  rintro rfl
  exact absent present

/-- Removing the hyphens undoes hyphenating. -/
theorem remove_hyphenate
    {hex : Str}
    (absent : '-' ∉ hex) : Text.remove '-' (hyphenate hex) = hex := by
  have regroup : ∀ a b : Nat, (hex.drop a).take b ++ hex.drop (a + b) =
      hex.drop a := by
    intro a b
    rw [← List.drop_drop, List.take_append_drop]
  unfold hyphenate
  simp only [remove_append, remove_hyphen_cons]
  rw [remove_of_not_mem fun h => absent (List.mem_of_mem_take h),
    remove_of_not_mem fun h =>
      absent (List.mem_of_mem_drop (List.mem_of_mem_take h)),
    remove_of_not_mem fun h =>
      absent (List.mem_of_mem_drop (List.mem_of_mem_take h)),
    remove_of_not_mem fun h =>
      absent (List.mem_of_mem_drop (List.mem_of_mem_take h)),
    remove_of_not_mem fun h => absent (List.mem_of_mem_drop h),
    regroup 16 4, regroup 12 4, regroup 8 4, List.take_append_drop]

theorem mem_hexAlphabet_of_mem_digits
    {id : Uuid}
    {c : Char}
    (present : c ∈ Numeral.hexText 32 id.value) : c ∈ Numeral.hexAlphabet :=
  Numeral.mem_hexAlphabet_of_mem_hexText present

private theorem not_mem_text
    {id : Uuid}
    {c : Char}
    (notHex : c ∉ Numeral.hexAlphabet)
    (notHyphen : c ≠ '-') : c ∉ id.text := by
  intro present
  rcases mem_hyphenate present with digit | hyphen
  · exact notHex (mem_hexAlphabet_of_mem_digits digit)
  · exact notHyphen hyphen

private theorem stripBraces_text (id : Uuid) :
    stripBraces id.text = id.text := by
  have plain : ∀ c ∈ id.text, isBrace c = false := by
    intro c present
    have notOpen : c ≠ '{' := by
      rintro rfl
      exact not_mem_text (by decide) (by decide) present
    have notClose : c ≠ '}' := by
      rintro rfl
      exact not_mem_text (by decide) (by decide) present
    simp [isBrace, notOpen, notClose]
  have headPlain : id.text.dropWhile isBrace = id.text := by
    cases whole : id.text with
    | nil => rfl
    | cons c rest =>
        rw [List.dropWhile_cons_of_neg]
        simp [plain c (by simp [whole])]
  unfold stripBraces
  rw [headPlain, List.rdropWhile_eq_self_iff]
  intro nonempty
  simp [plain _ (List.getLast_mem nonempty)]

/-- The constructor reads the 32 printed digits. -/
theorem bareDigits_text (id : Uuid) :
    bareDigits id.text = Numeral.hexText 32 id.value := by
  have noU : 'u' ∉ id.text := not_mem_text (by decide) (by decide)
  have urnErased : eraseBlock "urn:".toList 0 id.text = id.text :=
    eraseBlock_of_not_mem noU
  have uuidErased : eraseBlock "uuid:".toList 0 id.text = id.text :=
    eraseBlock_of_not_mem noU
  have noHyphen : '-' ∉ Numeral.hexText 32 id.value :=
    fun present =>
      absurd (mem_hexAlphabet_of_mem_digits present) (by decide)
  rw [bareDigits, urnErased, uuidErased, stripBraces_text, text,
    remove_hyphenate noHyphen]

/-- The printed digits are a literal for the number. -/
theorem intLiteral_digits (id : Uuid) :
    Numeral.intLiteral 16 (Numeral.hexText 32 id.value) =
      some (Int.ofNat id.value) := by
  have nonempty : Numeral.hexText 32 id.value ≠ [] := by
    intro empty
    have := Numeral.hexText_length 32 id.value
    rw [empty] at this
    exact absurd this (by decide)
  have inRange : (id.value : Nat) % 16 ^ 32 = id.value :=
    Nat.mod_eq_of_lt (lt_of_lt_of_le id.value.isLt (by decide))
  rw [Numeral.intLiteral_of_hex
    (fun _ present => mem_hexAlphabet_of_mem_digits present) nonempty,
    Numeral.foldl_hexText, inRange, Nat.zero_mul, Nat.zero_add]

/-- A UUID is read back from its text, so the constructor does not raise on
it. -/
theorem ofText_text (id : Uuid) : ofText id.text = some id := by
  have inRange : (0 : Int) ≤ Int.ofNat id.value ∧
      (Int.ofNat id.value).toNat < 2 ^ 128 :=
    ⟨Int.natCast_nonneg _, id.value.isLt⟩
  unfold ofText
  rw [bareDigits_text, Numeral.hexText_length, if_neg (by decide),
    intLiteral_digits]
  simp only [dif_pos inRange]
  rfl

end Uuid
end ChatPlatform
