import Mathlib.Data.List.Induction
import Mathlib.Data.List.Nodup

/-!
# Dictionaries with keys of any type

A dictionary is its entries in the order of the first insertion of each key. A
comprehension inserts its pairs one after the other, so the last value of a key
wins in the place of the first.
-/

namespace ChatPlatform
namespace Keyed

variable {Key Entry : Type} [DecidableEq Key]

/-- Store an entry under a key: in the key's place, or at the end. -/
def set
    (entries : List (Key × Entry))
    (key : Key)
    (entry : Entry) : List (Key × Entry) :=
  if key ∈ entries.map (·.1) then
    entries.map fun held => if held.1 = key then (key, entry) else held
  else entries ++ [(key, entry)]

/-- The dictionary of a comprehension. -/
def ofList (pairs : List (Key × Entry)) : List (Key × Entry) :=
  pairs.foldl (fun entries pair => set entries pair.1 pair.2) []

/-- The entry under a key. -/
def find (entries : List (Key × Entry)) (key : Key) : Option Entry :=
  (entries.find? (·.1 = key)).map (·.2)

/-- A new key goes to the end. -/
theorem set_of_not_mem
    {entries : List (Key × Entry)}
    {key : Key}
    (entry : Entry)
    (fresh : key ∉ entries.map (·.1)) :
    set entries key entry = entries ++ [(key, entry)] :=
  if_neg fresh

/-- Inserting pairs with new and distinct keys appends them. -/
theorem foldl_set_of_nodup
    (entries pairs : List (Key × Entry))
    (distinct : ((entries ++ pairs).map (·.1)).Nodup) :
    pairs.foldl (fun held pair => set held pair.1 pair.2) entries =
      entries ++ pairs := by
  induction pairs generalizing entries with
  | nil => simp
  | cons pair rest inductionHypothesis =>
      rw [List.append_cons] at distinct
      have fresh : pair.1 ∉ entries.map (·.1) := by
        have early := List.Nodup.sublist
          ((List.sublist_append_left (entries ++ [pair]) rest).map (·.1)) distinct
        rw [List.map_append, List.nodup_append] at early
        intro held
        exact early.2.2 pair.1 held pair.1 (by simp) rfl
      rw [List.foldl_cons, set_of_not_mem pair.2 fresh,
        inductionHypothesis _ distinct, List.append_assoc]
      rfl

/-- Pairs with distinct keys are their own dictionary. -/
theorem ofList_of_nodup
    {pairs : List (Key × Entry)}
    (distinct : (pairs.map (·.1)).Nodup) :
    ofList pairs = pairs :=
  foldl_set_of_nodup [] pairs distinct

/-- Storing an entry keeps keys distinct. -/
theorem nodup_set
    {entries : List (Key × Entry)}
    (distinct : (entries.map (·.1)).Nodup)
    (key : Key)
    (entry : Entry) : ((set entries key entry).map (·.1)).Nodup := by
  unfold set
  by_cases held : key ∈ entries.map (·.1)
  · have sameKeys : (entries.map fun held =>
        if held.1 = key then (key, entry) else held).map (·.1) = entries.map (·.1) := by
      rw [List.map_map]
      refine List.map_congr_left fun pair _ => ?_
      by_cases same : pair.1 = key <;> simp [same]
    rw [if_pos held, sameKeys]
    exact distinct
  · rw [if_neg held, List.map_append, List.nodup_append]
    refine ⟨distinct, by simp, fun left inEntries right isKey same => held ?_⟩
    rw [List.map_singleton, List.mem_singleton] at isKey
    have isLeft : left = key := same.trans isKey
    rwa [← isLeft]

/-- The entries after one more is stored were there or are that one. -/
theorem mem_set
    {entries : List (Key × Entry)}
    {key : Key}
    {entry : Entry}
    {pair : Key × Entry}
    (held : pair ∈ set entries key entry) : pair ∈ entries ∨ pair = (key, entry) := by
  unfold set at held
  split at held
  · obtain ⟨earlier, inEntries, same⟩ := List.mem_map.mp held
    split at same
    · exact Or.inr same.symm
    · exact Or.inl (same ▸ inEntries)
  · rcases List.mem_append.mp held with inEntries | isLast
    · exact Or.inl inEntries
    · exact Or.inr (List.mem_singleton.mp isLast)

/-- The keys of a comprehension are distinct. -/
theorem nodup_ofList (pairs : List (Key × Entry)) : ((ofList pairs).map (·.1)).Nodup := by
  unfold ofList
  induction pairs using List.reverseRecOn with
  | nil => exact List.nodup_nil
  | append_singleton pairs pair inductionHypothesis =>
      rw [List.foldl_append]
      exact nodup_set inductionHypothesis pair.1 pair.2

/-- Storing an entry adds one at most, and one exactly when its key is new. -/
theorem length_set
    (entries : List (Key × Entry))
    (key : Key)
    (entry : Entry) :
    (set entries key entry).length =
      if key ∈ entries.map (·.1) then entries.length else entries.length + 1 := by
  unfold set
  split
  · rw [List.length_map]
  · rw [List.length_append, List.length_singleton]

/-- A comprehension has one entry for each pair at most. -/
theorem length_ofList_le (pairs : List (Key × Entry)) :
    (ofList pairs).length ≤ pairs.length := by
  unfold ofList
  induction pairs using List.reverseRecOn with
  | nil => exact Nat.le_refl _
  | append_singleton pairs pair inductionHypothesis =>
      rw [List.foldl_append, List.foldl_cons, List.foldl_nil, length_set, List.length_append,
        List.length_singleton]
      split <;> omega

/-- A comprehension has one entry for each pair exactly when the keys are distinct. -/
theorem length_ofList_eq_iff (pairs : List (Key × Entry)) :
    (ofList pairs).length = pairs.length ↔ (pairs.map (·.1)).Nodup := by
  constructor
  · induction pairs using List.reverseRecOn with
    | nil => exact fun _ => List.nodup_nil
    | append_singleton pairs pair inductionHypothesis =>
        intro same
        have earlier := length_ofList_le pairs
        have last : ofList (pairs ++ [pair]) = set (ofList pairs) pair.1 pair.2 := by
          unfold ofList
          rw [List.foldl_append]
          rfl
        rw [last, length_set, List.length_append, List.length_singleton] at same
        split at same
        · omega
        · rename_i fresh
          have distinct := inductionHypothesis (by omega)
          rw [ofList_of_nodup distinct] at fresh
          rw [List.map_append, List.map_singleton, ← List.concat_eq_append]
          exact distinct.concat fresh
  · intro distinct
    rw [ofList_of_nodup distinct]

/-- The entries of a comprehension are among its pairs. -/
theorem mem_of_mem_ofList
    {pairs : List (Key × Entry)}
    {pair : Key × Entry}
    (held : pair ∈ ofList pairs) : pair ∈ pairs := by
  unfold ofList at held
  induction pairs using List.reverseRecOn with
  | nil => exact held
  | append_singleton pairs last inductionHypothesis =>
      rw [List.foldl_append] at held
      rcases mem_set held with earlier | isLast
      · exact List.mem_append_left _ (inductionHypothesis earlier)
      · exact List.mem_append_right _ (List.mem_singleton.mpr isLast)

/-- What is found under a key is one of the entries. -/
theorem mem_of_find
    {entries : List (Key × Entry)}
    {key : Key}
    {entry : Entry}
    (found : find entries key = some entry) : (key, entry) ∈ entries := by
  unfold find at found
  obtain ⟨pair, isPair, rfl⟩ := Option.map_eq_some_iff.mp found
  have atKey := List.find?_some isPair
  rw [← of_decide_eq_true atKey]
  exact List.mem_of_find?_eq_some isPair

/-- Where the keys are distinct, a pair is found under its key. -/
theorem find_of_mem
    {entries : List (Key × Entry)}
    (distinct : (entries.map (·.1)).Nodup)
    {pair : Key × Entry}
    (held : pair ∈ entries) :
    find entries pair.1 = some pair.2 := by
  induction entries with
  | nil => cases held
  | cons first rest inductionHypothesis =>
      rw [List.map_cons, List.nodup_cons] at distinct
      unfold find
      rcases List.mem_cons.mp held with rfl | inRest
      · simp
      · have different : first.1 ≠ pair.1 := by
          intro same
          apply distinct.1
          rw [same]
          exact List.mem_map_of_mem inRest
        rw [List.find?_cons_of_neg (by simpa using different)]
        exact inductionHypothesis distinct.2 inRest

/-- Where keys are distinct, one element has the key of an element. -/
theorem filter_key_eq
    {Item : Type}
    {key : Item → Key}
    {items : List Item}
    (distinct : (items.map key).Nodup)
    {item : Item}
    (held : item ∈ items) :
    items.filter (fun other => key other = key item) = [item] := by
  induction items with
  | nil => cases held
  | cons first rest inductionHypothesis =>
      rw [List.map_cons, List.nodup_cons] at distinct
      rcases List.mem_cons.mp held with rfl | inRest
      · have noOther : rest.filter (fun other => key other = key item) = [] := by
          rw [List.filter_eq_nil_iff]
          intro other inRest same
          apply distinct.1
          rw [← of_decide_eq_true same]
          exact List.mem_map_of_mem inRest
        rw [List.filter_cons_of_pos (by simp), noOther]
      · have different : key first ≠ key item := by
          intro same
          apply distinct.1
          rw [same]
          exact List.mem_map_of_mem inRest
        rw [List.filter_cons_of_neg (by simpa using different),
          inductionHypothesis distinct.2 inRest]

/-! ## Keys alone -/

/-- The keys of a dictionary that is built from them, in order. -/
def fromKeys (keys : List Key) : List Key :=
  keys.foldl (fun kept key => if key ∈ kept then kept else kept ++ [key]) []

/-- The keys that were kept stay, in order. -/
private theorem prefix_foldl_keep (kept keys : List Key) :
    kept <+: keys.foldl (fun kept key => if key ∈ kept then kept else kept ++ [key]) kept := by
  induction keys generalizing kept with
  | nil => exact List.prefix_rfl
  | cons key rest inductionHypothesis =>
      rw [List.foldl_cons]
      split
      · exact inductionHypothesis kept
      · exact (List.prefix_append kept [key]).trans (inductionHypothesis _)

/-- No key is kept twice. -/
private theorem nodup_foldl_keep
    {kept : List Key}
    (keys : List Key)
    (distinct : kept.Nodup) :
    (keys.foldl (fun kept key => if key ∈ kept then kept else kept ++ [key]) kept).Nodup := by
  induction keys generalizing kept with
  | nil => exact distinct
  | cons key rest inductionHypothesis =>
      rw [List.foldl_cons]
      split
      · exact inductionHypothesis distinct
      · rename_i fresh
        rw [← List.concat_eq_append]
        exact inductionHypothesis (distinct.concat fresh)

/-- The keys are distinct. -/
theorem nodup_fromKeys (keys : List Key) : (fromKeys keys).Nodup :=
  nodup_foldl_keep keys List.nodup_nil

/-- What was kept and what is still to come. -/
private theorem mem_foldl_keep {kept keys : List Key} {key : Key} :
    key ∈ keys.foldl (fun kept key => if key ∈ kept then kept else kept ++ [key]) kept ↔
      key ∈ kept ∨ key ∈ keys := by
  induction keys generalizing kept with
  | nil => simp
  | cons first rest inductionHypothesis =>
      rw [List.foldl_cons, inductionHypothesis]
      split
      · rename_i known
        rw [List.mem_cons]
        constructor
        · rintro (held | later)
          · exact Or.inl held
          · exact Or.inr (Or.inr later)
        · rintro (held | rfl | later)
          · exact Or.inl held
          · exact Or.inl known
          · exact Or.inr later
      · rw [List.mem_append, List.mem_singleton, List.mem_cons, or_assoc]

/-- Every key is kept. -/
theorem mem_fromKeys {keys : List Key} {key : Key} : key ∈ fromKeys keys ↔ key ∈ keys := by
  unfold fromKeys
  rw [mem_foldl_keep]
  simp

/-- More keys come after the ones that were there. -/
theorem fromKeys_prefix (keys others : List Key) :
    fromKeys keys <+: fromKeys (keys ++ others) := by
  unfold fromKeys
  rw [List.foldl_append]
  exact prefix_foldl_keep _ others

/-- Distinct keys are kept as they are. -/
theorem fromKeys_of_nodup {keys : List Key} (distinct : keys.Nodup) : fromKeys keys = keys := by
  induction keys using List.reverseRecOn with
  | nil => rfl
  | append_singleton keys key inductionHypothesis =>
      have earlier := distinct.sublist (List.sublist_append_left keys [key])
      have fresh : key ∉ keys := by
        intro held
        exact (List.nodup_append.mp distinct).2.2 key held key (List.mem_singleton_self key) rfl
      unfold fromKeys at inductionHypothesis ⊢
      rw [List.foldl_append, inductionHypothesis earlier, List.foldl_cons, if_neg fresh]
      rfl

end Keyed
end ChatPlatform
