import ChatPlatform.Foundation.Text

/-!
# Codes that can be read back

Each value has a code word. The code is readable when the text that follows a code
word never changes which word it is; sequences of readable code words, with a
separator or without, can then be taken apart again.
-/

namespace ChatPlatform
namespace PrefixCode

variable {α β : Type}

/-- Code words can be told apart, whatever follows them. -/
def Readable (encode : α → List β) : Prop :=
  ∀ ⦃value value' : α⦄ ⦃rest rest' : List β⦄,
    encode value ++ rest = encode value' ++ rest' → value = value' ∧ rest = rest'

namespace Readable

variable {encode : α → List β}

/-- A code with a reader is readable. -/
theorem of_reader
    (read : List β → Option (α × List β))
    (reads : ∀ value rest, read (encode value ++ rest) = some (value, rest)) :
    Readable encode := by
  intro value value' rest rest' same
  have readBack := reads value rest
  rw [same, reads value' rest', Option.some.injEq, Prod.mk.injEq] at readBack
  exact ⟨readBack.1.symm, readBack.2.symm⟩

/-- A sequence of code words is readable once a mark that no code word begins with
ends it. -/
theorem flatMap_closed
    (readable : Readable encode)
    {stop : β}
    (starts : ∀ value, ∃ first word, encode value = first :: word ∧ first ≠ stop) :
    Readable fun values : List α => values.flatMap encode ++ [stop] := by
  intro values values' rest rest' same
  induction values generalizing values' with
  | nil =>
      cases values' with
      | nil => exact ⟨rfl, List.append_cancel_left same⟩
      | cons value' others' =>
          obtain ⟨first, word, isWord, apart⟩ := starts value'
          simp only [List.flatMap_cons, isWord] at same
          exact absurd (List.cons.inj same).1.symm apart
  | cons value others inductionHypothesis =>
      cases values' with
      | nil =>
          obtain ⟨first, word, isWord, apart⟩ := starts value
          simp only [List.flatMap_cons, isWord] at same
          exact absurd (List.cons.inj same).1 apart
      | cons value' others' =>
          simp only [List.flatMap_cons, List.append_assoc] at same
          obtain ⟨rfl, later⟩ := readable same
          rw [← List.append_assoc, ← List.append_assoc] at later
          obtain ⟨rfl, left⟩ := inductionHypothesis later
          exact ⟨rfl, left⟩

end Readable

/-! ## Words with a mark or a weight -/

/-- A word ends at the first mark after it. -/
theorem append_mark_inj
    {mark : β}
    {word word' rest rest' : List β}
    (absent : mark ∉ word)
    (absent' : mark ∉ word')
    (same : word ++ mark :: rest = word' ++ mark :: rest') : word = word' ∧ rest = rest' := by
  induction word generalizing word' with
  | nil =>
      cases word' with
      | nil => exact ⟨rfl, (List.cons.inj same).2⟩
      | cons first' others' =>
          exact absurd ((List.cons.inj same).1 ▸ List.mem_cons_self) absent'
  | cons first others ih =>
      cases word' with
      | nil => exact absurd ((List.cons.inj same).1 ▸ List.mem_cons_self) absent
      | cons first' others' =>
          obtain ⟨rfl, later⟩ := List.cons.inj same
          obtain ⟨rfl, left⟩ := ih (fun held => absent (List.mem_cons_of_mem _ held))
            (fun held => absent' (List.mem_cons_of_mem _ held)) later
          exact ⟨rfl, left⟩

/-- A word ends where its weight is reached. -/
theorem append_weight_inj
    (weight : β → Nat)
    (positive : ∀ letter, 0 < weight letter)
    {word word' rest rest' : List β}
    (sameWeight : (word.map weight).sum = (word'.map weight).sum)
    (same : word ++ rest = word' ++ rest') : word = word' ∧ rest = rest' := by
  induction word generalizing word' with
  | nil =>
      cases word' with
      | nil => exact ⟨rfl, same⟩
      | cons first' others' =>
          have := positive first'
          simp only [List.map_nil, List.sum_nil, List.map_cons, List.sum_cons] at sameWeight
          omega
  | cons first others ih =>
      cases word' with
      | nil =>
          have := positive first
          simp only [List.map_nil, List.sum_nil, List.map_cons, List.sum_cons] at sameWeight
          omega
      | cons first' others' =>
          obtain ⟨rfl, later⟩ := List.cons.inj same
          simp only [List.map_cons, List.sum_cons] at sameWeight
          obtain ⟨rfl, left⟩ := ih (Nat.add_left_cancel sameWeight) later
          exact ⟨rfl, left⟩

/-! ## Numbered groups -/

/-- A group that is numbered on ends where the numbers start again. -/
private theorem zipIdx_append_inj
    (group group' : List α)
    (number : Nat)
    (later : 2 ≤ number)
    {rest rest' : List (α × Nat)}
    (restarts : ∀ entry ∈ rest.head?, entry.2 = 1)
    (restarts' : ∀ entry ∈ rest'.head?, entry.2 = 1)
    (same : group.zipIdx number ++ rest = group'.zipIdx number ++ rest') :
    group = group' ∧ rest = rest' := by
  induction group generalizing group' number with
  | nil =>
      cases group' with
      | nil => exact ⟨rfl, same⟩
      | cons first' others' =>
          have isFirst := restarts (first', number) (by
            rw [List.zipIdx_nil, List.nil_append] at same
            rw [same]
            rfl)
          simp only at isFirst
          omega
  | cons first others ih =>
      cases group' with
      | nil =>
          have isFirst := restarts' (first, number) (by
            rw [List.zipIdx_nil, List.nil_append] at same
            rw [← same]
            rfl)
          simp only at isFirst
          omega
      | cons first' others' =>
          rw [List.zipIdx_cons, List.zipIdx_cons, List.cons_append, List.cons_append,
            List.cons.injEq, Prod.mk.injEq] at same
          obtain ⟨rfl, left⟩ := ih others' (number + 1) (by omega) same.2
          exact ⟨by rw [same.1.1], left⟩

/-- Groups that are not empty and each numbered from one can be told apart. -/
theorem flatMap_zipIdx_inj
    (groups groups' : List (List α))
    (nonempty : ∀ group ∈ groups, group ≠ [])
    (nonempty' : ∀ group ∈ groups', group ≠ [])
    (same : groups.flatMap (·.zipIdx 1) = groups'.flatMap (·.zipIdx 1)) : groups = groups' := by
  have restarts : ∀ groups : List (List α), (∀ group ∈ groups, group ≠ []) →
      ∀ entry ∈ (groups.flatMap (·.zipIdx 1)).head?, entry.2 = 1 := by
    intro groups nonempty entry held
    cases groups with
    | nil => cases held
    | cons group others =>
        cases group with
        | nil => exact absurd rfl (nonempty _ List.mem_cons_self)
        | cons first rest =>
            obtain rfl := Option.mem_some_iff.mp held
            rfl
  induction groups generalizing groups' with
  | nil =>
      cases groups' with
      | nil => rfl
      | cons group' others' =>
          cases group' with
          | nil => exact absurd rfl (nonempty' _ List.mem_cons_self)
          | cons first' rest' => cases same
  | cons group others ih =>
      rw [List.forall_mem_cons] at nonempty
      cases group with
      | nil => exact absurd rfl nonempty.1
      | cons first rest =>
          cases groups' with
          | nil => cases same
          | cons group' others' =>
              rw [List.forall_mem_cons] at nonempty'
              cases group' with
              | nil => exact absurd rfl nonempty'.1
              | cons first' rest' =>
                  simp only [List.flatMap_cons, List.zipIdx_cons, List.cons_append,
                    List.cons.injEq, Prod.mk.injEq, and_true] at same
                  obtain ⟨rfl, left⟩ := zipIdx_append_inj rest rest' (1 + 1) le_rfl
                    (restarts others nonempty.2) (restarts others' nonempty'.2) same.2
                  rw [same.1, ih others' nonempty.2 nonempty'.2 left]

/-! ## Separated code words -/

/-- What follows the first word of a separated sequence. -/
def afterFirst (separator stop : Char) : List Str → Str
  | [] => [stop]
  | next :: later => separator :: (Text.join [separator] (next :: later) ++ [stop])

/-- A separated sequence begins with its first word. -/
private theorem join_cons_closed
    (separator stop : Char)
    (word : Str)
    (words : List Str) :
    Text.join [separator] (word :: words) ++ [stop] =
      word ++ afterFirst separator stop words := by
  cases words with
  | nil => rfl
  | cons next later =>
      rw [Text.join_cons_of_ne_nil _ _ (List.cons_ne_nil next later)]
      simp only [afterFirst, List.append_assoc, List.cons_append, List.nil_append]

/-- A separated sequence of code words is readable once a mark ends it that neither is
the separator nor begins a code word. -/
theorem Readable.join_closed
    {encode : α → Str}
    (readable : Readable encode)
    {separator stop : Char}
    (apart : separator ≠ stop)
    (starts : ∀ value, ∃ first word, encode value = first :: word ∧ first ≠ stop) :
    Readable fun values : List α =>
      Text.join [separator] (values.map encode) ++ [stop] := by
  intro values values' rest rest' same
  induction values generalizing values' with
  | nil =>
      cases values' with
      | nil => exact ⟨rfl, List.append_cancel_left same⟩
      | cons value' others' =>
          obtain ⟨first, word, isWord, notStop⟩ := starts value'
          simp only [List.map_cons, join_cons_closed, isWord] at same
          exact absurd (List.cons.inj same).1.symm notStop
  | cons value others inductionHypothesis =>
      cases values' with
      | nil =>
          obtain ⟨first, word, isWord, notStop⟩ := starts value
          simp only [List.map_cons, join_cons_closed, isWord] at same
          exact absurd (List.cons.inj same).1 notStop
      | cons value' others' =>
          simp only [List.map_cons, join_cons_closed, List.append_assoc] at same
          obtain ⟨rfl, later⟩ := readable same
          cases others with
          | nil =>
              cases others' with
              | nil => exact ⟨rfl, List.append_cancel_left later⟩
              | cons next' others' => exact absurd (List.cons.inj later).1.symm apart
          | cons next others =>
              cases others' with
              | nil => exact absurd (List.cons.inj later).1 apart
              | cons next' others' =>
                  have onward := (List.cons.inj later).2
                  obtain ⟨sameOthers, left⟩ :=
                    @inductionHypothesis (next' :: others') onward
                  exact ⟨congrArg _ sameOthers, left⟩

end PrefixCode
end ChatPlatform
