import Mathlib.Data.List.Nodup
import Mathlib.Logic.Function.Basic

/-!
# Keyed updates that settle

A job is a list of updates, one for each key it knows. An update that was made has
nothing left to do: making it again changes nothing. So a job that was broken off any
number of times and is then run to its end leaves what it would have left at once, and
running it once more changes nothing.
-/

namespace ChatPlatform
namespace Settling

/-- A change of the entry under one key, with nothing left to do after it. -/
structure Update (Key Entry : Type) where
  /-- The key it is about. -/
  key : Key
  /-- The new entry, from the old one. -/
  change : Entry → Entry
  /-- Making the change again changes nothing. -/
  settles : ∀ entry, change (change entry) = change entry

variable {Key Entry : Type} [DecidableEq Key]

/-- Make one update. -/
def Update.apply (update : Update Key Entry) (store : Key → Entry) : Key → Entry :=
  Function.update store update.key (update.change (store update.key))

theorem Update.apply_self (update : Update Key Entry) (store : Key → Entry) :
    update.apply store update.key = update.change (store update.key) :=
  Function.update_self ..

theorem Update.apply_of_ne
    (update : Update Key Entry)
    (store : Key → Entry)
    {key : Key}
    (other : key ≠ update.key) : update.apply store key = store key :=
  Function.update_of_ne other ..

/-- An update that has nothing to do changes nothing. -/
theorem Update.apply_of_unchanged
    (update : Update Key Entry)
    {store : Key → Entry}
    (unchanged : update.change (store update.key) = store update.key) :
    update.apply store = store :=
  Function.update_eq_self_iff.mpr unchanged

/-- Make updates one after the other. -/
def applyAll (updates : List (Update Key Entry)) (store : Key → Entry) : Key → Entry :=
  updates.foldl (fun reached update => update.apply reached) store

@[simp] theorem applyAll_nil (store : Key → Entry) :
    applyAll [] store = store := rfl

theorem applyAll_concat
    (updates : List (Update Key Entry))
    (update : Update Key Entry)
    (store : Key → Entry) :
    applyAll (updates ++ [update]) store = update.apply (applyAll updates store) :=
  List.foldl_concat ..

/-- Updates of other keys leave an entry alone. -/
theorem applyAll_of_not_mem
    {updates : List (Update Key Entry)}
    {key : Key}
    (others : key ∉ updates.map (·.key))
    (store : Key → Entry) : applyAll updates store key = store key := by
  induction updates generalizing store with
  | nil => rfl
  | cons first rest inductionHypothesis =>
      rw [List.map_cons, List.mem_cons, not_or] at others
      calc applyAll rest (first.apply store) key
          = first.apply store key := inductionHypothesis others.2 _
        _ = store key := first.apply_of_ne store others.1

/-- Where every key has one update, that update makes the entry. -/
theorem applyAll_of_mem
    {updates : List (Update Key Entry)}
    {update : Update Key Entry}
    (distinct : (updates.map (·.key)).Nodup)
    (held : update ∈ updates)
    (store : Key → Entry) :
    applyAll updates store update.key = update.change (store update.key) := by
  induction updates generalizing store with
  | nil => cases held
  | cons first rest inductionHypothesis =>
      rw [List.map_cons, List.nodup_cons] at distinct
      rcases List.mem_cons.mp held with rfl | inRest
      · calc applyAll rest (update.apply store) update.key
            = update.apply store update.key := applyAll_of_not_mem distinct.1 _
          _ = update.change (store update.key) := update.apply_self store
      · have other : update.key ≠ first.key := by
          intro same
          exact distinct.1 (same ▸ List.mem_map_of_mem inRest)
        calc applyAll rest (first.apply store) update.key
            = update.change (first.apply store update.key) :=
              inductionHypothesis distinct.2 inRest _
          _ = update.change (store update.key) := by
              rw [first.apply_of_ne store other]

/-- The whole job after a part of it does what the whole job does. -/
theorem applyAll_after_part
    {updates part : List (Update Key Entry)}
    (distinct : (updates.map (·.key)).Nodup)
    (isPart : part.Sublist updates)
    (store : Key → Entry) :
    applyAll updates (applyAll part store) = applyAll updates store := by
  have partDistinct : (part.map (·.key)).Nodup :=
    distinct.sublist (isPart.map (·.key))
  funext key
  by_cases known : key ∈ updates.map (·.key)
  · obtain ⟨update, held, rfl⟩ := List.mem_map.mp known
    rw [applyAll_of_mem distinct held, applyAll_of_mem distinct held]
    by_cases done : update.key ∈ part.map (·.key)
    · obtain ⟨made, inPart, same⟩ := List.mem_map.mp done
      have alike : made = update :=
        List.inj_on_of_nodup_map distinct (isPart.subset inPart) held same
      rw [alike] at inPart
      rw [applyAll_of_mem partDistinct inPart, update.settles]
    · rw [applyAll_of_not_mem done]
  · have unknown : key ∉ part.map (·.key) :=
      fun inPart => known ((isPart.map (·.key)).subset inPart)
    rw [applyAll_of_not_mem known, applyAll_of_not_mem known,
      applyAll_of_not_mem unknown]

/-- A store that parts of a job were applied to, any number of times. -/
inductive Attempted (updates : List (Update Key Entry)) (store : Key → Entry) :
    (Key → Entry) → Prop
  /-- Before the first attempt. -/
  | start : Attempted updates store store
  /-- One more attempt. -/
  | again
      {reached : Key → Entry}
      {part : List (Update Key Entry)}
      (before : Attempted updates store reached)
      (isPart : part.Sublist updates) :
      Attempted updates store (applyAll part reached)

/-- The whole job after any number of attempts does what the whole job does. -/
theorem Attempted.completed
    {updates : List (Update Key Entry)}
    {store reached : Key → Entry}
    (distinct : (updates.map (·.key)).Nodup)
    (attempted : Attempted updates store reached) :
    applyAll updates reached = applyAll updates store := by
  induction attempted with
  | start => rfl
  | again before isPart inductionHypothesis =>
      rw [applyAll_after_part distinct isPart, inductionHypothesis]

end Settling
end ChatPlatform
