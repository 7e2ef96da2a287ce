import ChatPlatform.Facts.Store

/-!
# Linked facts

A fact that takes the place of another one names it, and is named by it. An operation
changes the one fact of its slot that is in force, or adds one at the end, or both; the
links stay mutual, one fact of a slot is in force at most, and a fact that is not in
force stays as it is.
-/

namespace ChatPlatform
namespace Facts

/-! ## Lists that change in one place -/

variable {α : Type}

/-- What is in a list after one place was changed. -/
theorem getElem?_set_eq_some
    {items : List α}
    {place : Nat}
    {old : α}
    (found : items[place]? = some old)
    (new : α)
    {other : Nat}
    {item : α} :
    (items.set place new)[other]? = some item ↔
      (other = place ∧ item = new) ∨ (other ≠ place ∧ items[other]? = some item) := by
  obtain ⟨inside, -⟩ := List.getElem?_eq_some_iff.mp found
  rw [List.getElem?_set, if_pos inside]
  by_cases same : place = other
  · rw [if_pos same, Option.some.injEq]
    constructor
    · rintro rfl
      exact Or.inl ⟨same.symm, rfl⟩
    · rintro (⟨-, rfl⟩ | ⟨different, -⟩)
      · rfl
      · exact absurd same.symm different
  · rw [if_neg same]
    constructor
    · exact fun held => Or.inr ⟨Ne.symm same, held⟩
    · rintro (⟨isPlace, -⟩ | ⟨-, held⟩)
      · exact absurd isPlace.symm same
      · exact held

/-- What is in a list with one more element. -/
theorem getElem?_snoc_eq_some {items : List α} {last item : α} {place : Nat} :
    (items ++ [last])[place]? = some item ↔
      items[place]? = some item ∨ (place = items.length ∧ item = last) := by
  rcases Nat.lt_trichotomy place items.length with inside | rfl | outside
  · rw [List.getElem?_append_left inside]
    exact ⟨Or.inl, fun held => held.resolve_right fun isLast => Nat.ne_of_lt inside isLast.1⟩
  · rw [List.getElem?_concat_length, List.getElem?_eq_none (Nat.le_refl _)]
    simp [eq_comm]
  · rw [List.getElem?_eq_none (by rw [List.length_append, List.length_singleton]; exact outside),
      List.getElem?_eq_none (Nat.le_of_lt outside)]
    simp [Nat.ne_of_gt outside]

/-! ## What an operation does -/

/-- The one fact of a slot that is in force is found where it is. -/
theorem findActive_eq_some
    {facts : List Fact}
    {slotKey : Str}
    {place : Nat}
    {prior : Fact}
    (found : findActive facts slotKey = some (place, prior)) :
    facts[place]? = some prior ∧ prior.slotKey = slotKey ∧ prior.status = .active := by
  unfold findActive at found
  split at found
  · cases found
  · rename_i index isIndex
    obtain ⟨inside, isActive, -⟩ := List.findIdx?_eq_some_iff_getElem.mp isIndex
    rw [List.getElem?_eq_getElem inside, Option.map_some, Option.some.injEq] at found
    cases found
    obtain ⟨slot, active⟩ := Bool.and_eq_true_iff.mp isActive
    exact ⟨List.getElem?_eq_getElem inside, of_decide_eq_true slot, of_decide_eq_true active⟩

/-- Where no fact is found, none of the slot is in force. -/
theorem findActive_eq_none
    {facts : List Fact}
    {slotKey : Str}
    (missing : findActive facts slotKey = none) :
    ∀ fact ∈ facts, fact.slotKey = slotKey → fact.status ≠ .active := by
  intro fact held slot active
  unfold findActive at missing
  split at missing
  · rename_i noIndex
    have inactive := List.findIdx?_eq_none_iff.mp noIndex fact held
    rw [slot, active] at inactive
    simp at inactive
  · rename_i index isIndex
    obtain ⟨inside, -⟩ := List.findIdx?_eq_some_iff_getElem.mp isIndex
    rw [List.getElem?_eq_getElem inside] at missing
    cases missing

/-- What one operation does to the facts. -/
inductive Rewrite (isNew : Str → Prop) (facts : List Fact) : List Fact → Prop
  /-- Nothing. -/
  | unchanged : Rewrite isNew facts facts
  /-- It retracts a fact. -/
  | retracted
      {place : Nat}
      {prior : Fact}
      (found : facts[place]? = some prior)
      (isActive : prior.status = .active) :
      Rewrite isNew facts
        (facts.set place { prior with status := .retracted, supersededBy := none })
  /-- It adds sources to a fact. -/
  | sourced
      {place : Nat}
      {prior : Fact}
      (found : facts[place]? = some prior)
      (isActive : prior.status = .active)
      (ids : List Str) :
      Rewrite isNew facts (facts.set place { prior with
        sourceMessageIds := Keyed.fromKeys (prior.sourceMessageIds ++ ids) })
  /-- It asserts a fact in a slot without one in force. -/
  | asserted
      {fact : Fact}
      (noneActive : ∀ other ∈ facts, other.slotKey = fact.slotKey → other.status ≠ .active)
      (isActive : fact.status = .active)
      (noPrior : fact.supersedes = none)
      (noNext : fact.supersededBy = none)
      (new : isNew fact.factId) :
      Rewrite isNew facts (facts ++ [fact])
  /-- It puts a fact in the place of another one. -/
  | superseded
      {place : Nat}
      {prior fact : Fact}
      {identifier : Str}
      (found : facts[place]? = some prior)
      (priorActive : prior.status = .active)
      (identified : fact.factId = identifier)
      (sameSlot : prior.slotKey = fact.slotKey)
      (isActive : fact.status = .active)
      (isPrior : fact.supersedes = some prior.factId)
      (noNext : fact.supersededBy = none)
      (new : isNew identifier) :
      Rewrite isNew facts (facts.set place { prior with
          status := .superseded, supersededBy := some identifier } ++ [fact])

/-- Every operation does one of these. -/
theorem rewrite_of_applyOperation
    {unicode : Unicode}
    {sha256 : Str → Fin (2 ^ 256)}
    {store : FactStore}
    {source : Source}
    {index : Nat}
    {progress next : Progress}
    {operation : Operation}
    (applied : store.applyOperation unicode sha256 source index progress operation =
      .ok next) :
    Rewrite
      (fun id => ∃ identity,
        store.identity unicode source.sourceSequence index operation = .ok identity ∧
          id = factId sha256 identity)
      progress.facts next.facts := by
  unfold FactStore.applyOperation at applied
  split at applied
  · cases applied
    exact .unchanged
  · rename_i place prior _ found
    cases applied
    obtain ⟨isFound, -, isActive⟩ := findActive_eq_some found
    exact .retracted isFound isActive
  · rename_i value _ missing
    cases identified : store.identity unicode source.sourceSequence index operation with
    | error refusal =>
        rw [identified] at applied
        cases applied
    | ok identity =>
        rw [identified] at applied
        cases applied
        exact .asserted (findActive_eq_none missing) rfl rfl rfl ⟨identity, rfl, rfl⟩
  · rename_i value place prior _ found
    obtain ⟨isFound, slot, isActive⟩ := findActive_eq_some found
    split at applied
    · cases applied
      exact .sourced isFound isActive _
    · cases identified : store.identity unicode source.sourceSequence index operation with
      | error refusal =>
          rw [identified] at applied
          cases applied
      | ok identity =>
          rw [identified] at applied
          cases applied
          exact .superseded isFound isActive rfl slot rfl rfl rfl ⟨identity, rfl, rfl⟩

/-! ## One fact of a slot in force -/

/-- Two facts in force have different slots. -/
def OneActive (facts : List Fact) : Prop :=
  ∀ (place other : Nat) (fact another : Fact), facts[place]? = some fact →
    facts[other]? = some another → fact.slotKey = another.slotKey →
      fact.status = .active → another.status = .active → place = other

/-- No facts are in force in one slot. -/
theorem oneActive_nil : OneActive [] := fun _ _ _ _ found => absurd found (by simp)

/-- A fact in force can be changed as long as it keeps its slot. -/
theorem OneActive.set
    {facts : List Fact}
    (one : OneActive facts)
    {place : Nat}
    {prior changed : Fact}
    (found : facts[place]? = some prior)
    (priorActive : prior.status = .active)
    (sameSlot : changed.slotKey = prior.slotKey) : OneActive (facts.set place changed) := by
  intro first second fact another isFact isAnother slots active anotherActive
  rcases (getElem?_set_eq_some found changed).mp isFact with ⟨rfl, rfl⟩ | ⟨-, wasFact⟩
  · rcases (getElem?_set_eq_some found fact).mp isAnother with ⟨rfl, rfl⟩ | ⟨-, wasAnother⟩
    · rfl
    · exact one _ _ _ _ found wasAnother (sameSlot ▸ slots) priorActive anotherActive
  · rcases (getElem?_set_eq_some found changed).mp isAnother with ⟨rfl, rfl⟩ | ⟨-, wasAnother⟩
    · exact one _ _ _ _ wasFact found (slots.trans sameSlot) active priorActive
    · exact one _ _ _ _ wasFact wasAnother slots active anotherActive

/-- A fact can be added in a slot without one in force. -/
theorem OneActive.snoc
    {facts : List Fact}
    (one : OneActive facts)
    {fact : Fact}
    (noneActive : ∀ other ∈ facts, other.slotKey = fact.slotKey → other.status ≠ .active) :
    OneActive (facts ++ [fact]) := by
  intro first second left right isLeft isRight slots active rightActive
  rcases getElem?_snoc_eq_some.mp isLeft with wasLeft | ⟨isLast, rfl⟩
  · rcases getElem?_snoc_eq_some.mp isRight with wasRight | ⟨-, rfl⟩
    · exact one _ _ _ _ wasLeft wasRight slots active rightActive
    · exact absurd active (noneActive left (List.mem_of_getElem? wasLeft) slots)
  · rcases getElem?_snoc_eq_some.mp isRight with wasRight | ⟨isLast', rfl⟩
    · exact absurd rightActive (noneActive right (List.mem_of_getElem? wasRight) slots.symm)
    · rw [isLast, isLast']

/-- When the fact in force of a slot is put out of force, the slot has none. -/
theorem OneActive.noneActive_set
    {facts : List Fact}
    (one : OneActive facts)
    {place : Nat}
    {prior changed : Fact}
    (found : facts[place]? = some prior)
    (priorActive : prior.status = .active)
    (inactive : changed.status ≠ .active) :
    ∀ other ∈ facts.set place changed, other.slotKey = prior.slotKey →
      other.status ≠ .active := by
  intro other held slots active
  obtain ⟨index, isOther⟩ := List.mem_iff_getElem?.mp held
  rcases (getElem?_set_eq_some found changed).mp isOther with ⟨rfl, rfl⟩ | ⟨different, wasOther⟩
  · exact inactive active
  · exact different (one _ _ _ _ wasOther found slots active priorActive)

/-! ## Links -/

/-- Identities are distinct, one fact of a slot is in force at most, and the links are
mutual. -/
structure Linked (facts : List Fact) : Prop where
  /-- No identity occurs twice. -/
  distinct : (facts.map (·.factId)).Nodup
  /-- Two facts in force have different slots. -/
  oneActive : ∀ (place other : Nat) (fact another : Fact), facts[place]? = some fact →
    facts[other]? = some another → fact.slotKey = another.slotKey →
      fact.status = .active → another.status = .active → place = other
  /-- Only a superseded fact names one that took its place. -/
  unlinked : ∀ fact ∈ facts, fact.status ≠ .superseded → fact.supersededBy = none
  /-- The fact that took the place of one names it. -/
  forward : ∀ fact ∈ facts, ∀ id, fact.supersededBy = some id →
    ∃ next ∈ facts, next.factId = id ∧ next.supersedes = some fact.factId
  /-- The fact whose place was taken comes earlier in the same slot and names the one that
  took it. -/
  backward : ∀ (place : Nat) (fact : Fact) (id : Str), facts[place]? = some fact →
    fact.supersedes = some id → ∃ earlier prior, earlier < place ∧
      facts[earlier]? = some prior ∧ prior.factId = id ∧
      prior.status = .superseded ∧ prior.supersededBy = some fact.factId ∧
        prior.slotKey = fact.slotKey

/-- No facts are linked. -/
theorem linked_nil : Linked [] :=
  ⟨List.nodup_nil, fun _ _ _ _ found => absurd found (by simp),
    fun _ held => absurd held List.not_mem_nil, fun _ held => absurd held List.not_mem_nil,
    fun _ _ _ found => absurd found (by simp)⟩

/-- A change that keeps the identity of a fact keeps the identities. -/
private theorem map_factId_set
    {facts : List Fact}
    {place : Nat}
    {prior changed : Fact}
    (found : facts[place]? = some prior)
    (sameId : changed.factId = prior.factId) :
    (facts.set place changed).map (·.factId) = facts.map (·.factId) := by
  rw [List.map_set, sameId]
  refine List.ext_getElem? fun other => ?_
  rw [List.getElem?_set, List.getElem?_map]
  split
  · rename_i isPlace
    rw [← isPlace, found]
    simp [(List.getElem?_eq_some_iff.mp found).1]
  · rfl

/-- A change that keeps the identity and the predecessor of a fact keeps those of all. -/
private theorem exists_kept
    {facts : List Fact}
    {place : Nat}
    {prior changed : Fact}
    (found : facts[place]? = some prior)
    (sameId : changed.factId = prior.factId)
    (samePrior : changed.supersedes = prior.supersedes)
    {fact : Fact}
    (held : fact ∈ facts) :
    ∃ fact' ∈ facts.set place changed,
      fact'.factId = fact.factId ∧ fact'.supersedes = fact.supersedes := by
  obtain ⟨other, isFact⟩ := List.mem_iff_getElem?.mp held
  by_cases same : other = place
  · subst same
    rw [found] at isFact
    cases isFact
    refine ⟨changed, List.mem_iff_getElem?.mpr ⟨other, ?_⟩, sameId, samePrior⟩
    exact (getElem?_set_eq_some found changed).mpr (Or.inl ⟨rfl, rfl⟩)
  · refine ⟨fact, List.mem_iff_getElem?.mpr ⟨other, ?_⟩, rfl, rfl⟩
    exact (getElem?_set_eq_some found changed).mpr (Or.inr ⟨same, isFact⟩)

/-- Where a fact in force changes, what others took the place of stays. -/
private theorem Linked.backward_set
    {facts : List Fact}
    (linked : Linked facts)
    {place : Nat}
    {prior changed : Fact}
    (found : facts[place]? = some prior)
    (priorActive : prior.status = .active)
    (sameId : changed.factId = prior.factId)
    (sameSlot : changed.slotKey = prior.slotKey)
    (samePrior : changed.supersedes = prior.supersedes)
    {other : Nat}
    {fact : Fact}
    {id : Str}
    (isFact : (facts.set place changed)[other]? = some fact)
    (isPrior : fact.supersedes = some id) :
    ∃ earlier before, earlier < other ∧ (facts.set place changed)[earlier]? = some before ∧
      before.factId = id ∧ before.status = .superseded ∧
        before.supersededBy = some fact.factId ∧ before.slotKey = fact.slotKey := by
  have original : ∃ fact', facts[other]? = some fact' ∧ fact'.supersedes = some id ∧
      fact'.factId = fact.factId ∧ fact'.slotKey = fact.slotKey := by
    rcases (getElem?_set_eq_some found changed).mp isFact with
      ⟨rfl, rfl⟩ | ⟨-, wasFact⟩
    · exact ⟨prior, found, samePrior ▸ isPrior, sameId.symm, sameSlot.symm⟩
    · exact ⟨fact, wasFact, isPrior, rfl, rfl⟩
  obtain ⟨fact', isFact', isPrior', sameFact, slots⟩ := original
  obtain ⟨earlier, before, less, isBefore, isId, status, isNext, slot⟩ :=
    linked.backward other fact' id isFact' isPrior'
  have different : earlier ≠ place := by
    rintro rfl
    rw [found] at isBefore
    cases isBefore
    rw [priorActive] at status
    cases status
  exact ⟨earlier, before, less,
    (getElem?_set_eq_some found changed).mpr (Or.inr ⟨different, isBefore⟩), isId, status,
    by rw [isNext, sameFact], slot.trans slots⟩

/-- A fact in force that changes in what is not linked stays linked. -/
theorem Linked.set
    {facts : List Fact}
    (linked : Linked facts)
    {place : Nat}
    {prior changed : Fact}
    (found : facts[place]? = some prior)
    (priorActive : prior.status = .active)
    (sameId : changed.factId = prior.factId)
    (sameSlot : changed.slotKey = prior.slotKey)
    (samePrior : changed.supersedes = prior.supersedes)
    (noNext : changed.supersededBy = none) : Linked (facts.set place changed) := by
  constructor
  · rw [map_factId_set found sameId]
    exact linked.distinct
  · exact OneActive.set linked.oneActive found priorActive sameSlot
  · intro fact held status
    rcases List.mem_or_eq_of_mem_set held with held | rfl
    · exact linked.unlinked fact held status
    · exact noNext
  · intro fact held id isNext
    rcases List.mem_or_eq_of_mem_set held with held | rfl
    · obtain ⟨next, inFacts, isId, isPrior⟩ := linked.forward fact held id isNext
      obtain ⟨next', inChanged, sameNext, sameSupersedes⟩ :=
        exists_kept found sameId samePrior inFacts
      exact ⟨next', inChanged, sameNext.trans isId, sameSupersedes.trans isPrior⟩
    · rw [noNext] at isNext
      cases isNext
  · intro other fact id isFact isPrior
    exact linked.backward_set found priorActive sameId sameSlot samePrior isFact isPrior

/-- A new fact in a slot without one in force is linked to none. -/
theorem Linked.snoc
    {facts : List Fact}
    (linked : Linked facts)
    {fact : Fact}
    (noneActive : ∀ other ∈ facts, other.slotKey = fact.slotKey → other.status ≠ .active)
    (noPrior : fact.supersedes = none)
    (noNext : fact.supersededBy = none)
    (fresh : fact.factId ∉ facts.map (·.factId)) : Linked (facts ++ [fact]) := by
  constructor
  · rw [List.map_append, List.map_singleton, ← List.concat_eq_append]
    exact linked.distinct.concat fresh
  · exact OneActive.snoc linked.oneActive noneActive
  · intro one held status
    rcases List.mem_append.mp held with earlier | isLast
    · exact linked.unlinked one earlier status
    · rw [List.mem_singleton.mp isLast]
      exact noNext
  · intro one held id isNext
    rcases List.mem_append.mp held with earlier | isLast
    · obtain ⟨next, inFacts, isId, isPrior⟩ := linked.forward one earlier id isNext
      exact ⟨next, List.mem_append_left _ inFacts, isId, isPrior⟩
    · rw [List.mem_singleton.mp isLast, noNext] at isNext
      cases isNext
  · intro place one id isOne isPrior
    rcases getElem?_snoc_eq_some.mp isOne with wasOne | ⟨-, rfl⟩
    · obtain ⟨earlier, before, less, isBefore, rest⟩ := linked.backward place one id wasOne isPrior
      exact ⟨earlier, before, less, getElem?_snoc_eq_some.mpr (Or.inl isBefore), rest⟩
    · rw [noPrior] at isPrior
      cases isPrior

/-- A new fact in the place of the one in force is linked to it. -/
theorem Linked.supersede
    {facts : List Fact}
    (linked : Linked facts)
    {place : Nat}
    {prior changed fact : Fact}
    (found : facts[place]? = some prior)
    (priorActive : prior.status = .active)
    (sameId : changed.factId = prior.factId)
    (priorSlot : changed.slotKey = prior.slotKey)
    (samePrior : changed.supersedes = prior.supersedes)
    (superseded : changed.status = .superseded)
    (isNext : changed.supersededBy = some fact.factId)
    (sameSlot : prior.slotKey = fact.slotKey)
    (isPrior : fact.supersedes = some prior.factId)
    (noNext : fact.supersededBy = none)
    (fresh : fact.factId ∉ facts.map (·.factId)) :
    Linked (facts.set place changed ++ [fact]) := by
  have one : OneActive facts := linked.oneActive
  have inactive : changed.status ≠ .active := by
    rw [superseded]
    nofun
  have noneActive : ∀ other ∈ facts.set place changed, other.slotKey = fact.slotKey →
      other.status ≠ .active := fun other held slots =>
    one.noneActive_set found priorActive inactive other held (slots.trans sameSlot.symm)
  constructor
  · rw [List.map_append, map_factId_set found sameId, List.map_singleton,
      ← List.concat_eq_append]
    exact linked.distinct.concat fresh
  · exact (one.set found priorActive priorSlot).snoc noneActive
  · intro one held status
    rcases List.mem_append.mp held with earlier | isLast
    · rcases List.mem_or_eq_of_mem_set earlier with held | rfl
      · exact linked.unlinked one held status
      · exact absurd superseded status
    · rw [List.mem_singleton.mp isLast]
      exact noNext
  · intro one held id isLater
    rcases List.mem_append.mp held with earlier | isLast
    · rcases List.mem_or_eq_of_mem_set earlier with held | rfl
      · obtain ⟨next, inFacts, isId, isBefore⟩ := linked.forward one held id isLater
        obtain ⟨next', inChanged, sameNext, sameSupersedes⟩ :=
          exists_kept found sameId samePrior inFacts
        exact ⟨next', List.mem_append_left _ inChanged, sameNext.trans isId,
          sameSupersedes.trans isBefore⟩
      · rw [isNext] at isLater
        cases isLater
        exact ⟨fact, List.mem_append_right _ List.mem_cons_self, rfl, by rw [isPrior, sameId]⟩
    · rw [List.mem_singleton.mp isLast, noNext] at isLater
      cases isLater
  · intro other one id isOne isBefore
    rcases getElem?_snoc_eq_some.mp isOne with wasOne | ⟨isLast, rfl⟩
    · obtain ⟨earlier, before, less, isThere, rest⟩ :=
        linked.backward_set found priorActive sameId priorSlot samePrior wasOne isBefore
      exact ⟨earlier, before, less, getElem?_snoc_eq_some.mpr (Or.inl isThere), rest⟩
    · rw [isPrior] at isBefore
      cases isBefore
      refine ⟨place, changed, ?_, getElem?_snoc_eq_some.mpr (Or.inl ?_), sameId, superseded,
        isNext, priorSlot.trans sameSlot⟩
      · rw [isLast, List.length_set]
        exact (List.getElem?_eq_some_iff.mp found).1
      · exact (getElem?_set_eq_some found changed).mpr (Or.inl ⟨rfl, rfl⟩)

/-- Facts stay linked when an operation names no identity that is taken. -/
theorem Linked.rewrite
    {isNew : Str → Prop}
    {facts next : List Fact}
    (linked : Linked facts)
    (rewrite : Rewrite isNew facts next)
    (fresh : ∀ id, isNew id → id ∉ facts.map (·.factId)) : Linked next := by
  cases rewrite with
  | unchanged => exact linked
  | retracted found isActive => exact linked.set found isActive rfl rfl rfl rfl
  | sourced found isActive ids =>
      have noNext := linked.unlinked _ (List.mem_of_getElem? found) (by rw [isActive]; nofun)
      exact linked.set found isActive rfl rfl rfl noNext
  | asserted noneActive isActive noPrior noNext new =>
      exact linked.snoc noneActive noPrior noNext (fresh _ new)
  | superseded found priorActive identified sameSlot isActive isPrior noNext new =>
      refine linked.supersede found priorActive rfl rfl rfl rfl ?_ sameSlot isPrior noNext ?_
      · rw [identified]
      · rw [identified]
        exact fresh _ new

end Facts
end ChatPlatform
