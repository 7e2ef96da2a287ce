import ChatPlatform.Foundation.JsonRead

/-!
# What is read is a value

Whatever text it comes from, a value that was read has distinct keys in every one of
its dictionaries. The induction is on the fuel, for values, items and entries together.
-/

namespace ChatPlatform
namespace Json

variable {F : Type} [FloatOps F]

/-- A word or a number holds no dictionary. -/
private theorem wellKeyed_readAtom
    {reading : Reading}
    {text rest : Str}
    {value : Value F}
    (isRead : readAtom reading text = some (value, rest)) : wellKeyed value = true := by
  have number : ∀ {token : Str} {value : Value F}, numberValue token = some value →
      wellKeyed value = true := by
    intro token value valued
    unfold numberValue at valued
    dsimp only at valued
    split at valued
    · cases valued
    · split at valued
      · cases valued
        rfl
      · split at valued
        · obtain ⟨x, -, rfl⟩ := Option.map_eq_some_iff.mp valued
          rfl
        · cases valued
  unfold readAtom at isRead
  split at isRead
  · rename_i word held isWord
    obtain ⟨found, isFound, same⟩ := Option.map_eq_some_iff.mp isRead
    cases same
    have present := List.mem_of_find?_eq_some isWord
    unfold words at present
    rcases List.mem_append.mp present with plain | constant
    · simp only [List.mem_cons, List.not_mem_nil, or_false, Prod.mk.injEq] at plain
      rcases plain with ⟨-, same⟩ | ⟨-, same⟩ | ⟨-, same⟩ <;>
      · rw [same] at isFound
        cases isFound
        rfl
    · split at constant
      · obtain ⟨_, -, same⟩ := List.mem_map.mp constant
        rw [← (Prod.mk.inj same).2] at isFound
        obtain ⟨x, -, rfl⟩ := Option.map_eq_some_iff.mp isFound
        rfl
      · exact absurd constant List.not_mem_nil
  · unfold scanNumber at isRead
    obtain ⟨found, valued, same⟩ := Option.map_eq_some_iff.mp isRead
    cases same
    exact number valued

omit [FloatOps F] in
/-- The dictionary of some entries is one. -/
private theorem wellKeyed_dictionary
    {reading : Reading}
    {pairs : List (Str × Value F)}
    {value : Value F}
    (inside : ∀ pair ∈ pairs, wellKeyed pair.2 = true)
    (isDictionary : dictionary reading pairs = some value) : wellKeyed value = true := by
  unfold dictionary at isDictionary
  split at isDictionary
  · cases isDictionary
    unfold wellKeyed everywhere
    rw [decide_eq_true (Keyed.nodup_ofList pairs), Bool.true_and, everywhereEntries_eq_all]
    exact List.all_eq_true.mpr fun pair held => inside pair (Keyed.mem_of_mem_ofList held)
  · cases isDictionary

/-- What is read has distinct keys. -/
theorem wellKeyed_read (reading : Reading) (fuel : Nat) :
    (∀ {text rest : Str} {value : Value F},
      readValue reading fuel text = some (value, rest) → wellKeyed value = true) ∧
    (∀ {text rest : Str} {items : List (Value F)},
      readItems reading fuel text = some (items, rest) →
        everywhereItems (fun _ => true) (fun keys => decide keys.Nodup) items = true) ∧
    (∀ {text rest : Str} {entries : List (Str × Value F)},
      readEntries reading fuel text = some (entries, rest) →
        ∀ entry ∈ entries, wellKeyed entry.2 = true) := by
  induction fuel with
  | zero =>
      refine ⟨?_, ?_, ?_⟩ <;>
      · intro _ _ _ isRead
        cases isRead
  | succ fuel inductionHypothesis =>
      obtain ⟨values, items, entries⟩ := inductionHypothesis
      refine ⟨?_, ?_, ?_⟩
      · intro text rest value isRead
        cases text with
        | nil => cases isRead
        | cons c after =>
            rw [readValue] at isRead
            split at isRead
            · obtain ⟨scanned, -, same⟩ := Option.map_eq_some_iff.mp isRead
              cases same
              rfl
            · split at isRead
              · split at isRead
                · cases isRead
                  rfl
                · obtain ⟨⟨read, left⟩, isItems, same⟩ := Option.map_eq_some_iff.mp isRead
                  cases same
                  exact items isItems
              · split at isRead
                · split at isRead
                  · cases isRead
                    rfl
                  · obtain ⟨⟨read, left⟩, isEntries, built⟩ :=
                      Option.bind_eq_some_iff.mp isRead
                    obtain ⟨found, isDictionary, same⟩ := Option.map_eq_some_iff.mp built
                    cases same
                    exact wellKeyed_dictionary (entries isEntries) isDictionary
                · exact wellKeyed_readAtom isRead
      · intro text rest read isRead
        rw [readItems] at isRead
        split at isRead
        · cases isRead
        · rename_i item after isItem
          have this := values isItem
          split at isRead
          · cases isRead
          · split at isRead
            · obtain ⟨⟨others, left⟩, isOthers, same⟩ := Option.map_eq_some_iff.mp isRead
              cases same
              exact Bool.and_eq_true_iff.mpr ⟨this, items isOthers⟩
            · split at isRead
              · cases isRead
                exact Bool.and_eq_true_iff.mpr ⟨this, rfl⟩
              · cases isRead
      · intro text rest read isRead
        rw [readEntries] at isRead
        split at isRead
        · cases isRead
        · split at isRead
          · cases isRead
          · rename_i value after isValue
            have this := values isValue
            split at isRead
            · cases isRead
            · split at isRead
              · obtain ⟨⟨others, left⟩, isOthers, same⟩ := Option.map_eq_some_iff.mp isRead
                cases same
                exact List.forall_mem_cons.mpr ⟨this, entries isOthers⟩
              · split at isRead
                · cases isRead
                  exact List.forall_mem_cons.mpr
                    ⟨this, fun _ held => absurd held List.not_mem_nil⟩
                · cases isRead

omit [FloatOps F] in
/-- A value under a key of a dictionary has distinct keys where the dictionary has. -/
theorem wellKeyed_get
    {entries : Dict F}
    {key : Str}
    {value : Value F}
    (keyed : wellKeyed (.dict entries) = true)
    (found : Dict.get entries key = some value) : wellKeyed value = true := by
  unfold Dict.get at found
  obtain ⟨entry, isEntry, rfl⟩ := Option.map_eq_some_iff.mp found
  unfold wellKeyed everywhere at keyed
  rw [everywhereEntries_eq_all, Bool.and_eq_true] at keyed
  exact List.all_eq_true.mp keyed.2 entry (List.mem_of_find?_eq_some isEntry)

omit [FloatOps F] in
/-- The same for a dictionary under a key. -/
theorem wellKeyed_getDict
    {entries fields : Dict F}
    {key : Str}
    (keyed : wellKeyed (.dict entries) = true)
    (found : Dict.getDict entries key = some fields) : wellKeyed (.dict fields) = true := by
  unfold Dict.getDict at found
  split at found
  · rename_i held isHeld
    cases found
    exact wellKeyed_get keyed isHeld
  · cases found

/-- What a whole text is read as has distinct keys. -/
theorem wellKeyed_loads
    {reading : Reading}
    {text : Str}
    {value : Value F}
    (isRead : loads reading text = some value) : wellKeyed value = true := by
  unfold loads at isRead
  split at isRead
  · cases isRead
  · rename_i found rest isFound
    split at isRead
    · cases isRead
      exact (wellKeyed_read reading _).1 isFound
    · cases isRead

end Json
end ChatPlatform
