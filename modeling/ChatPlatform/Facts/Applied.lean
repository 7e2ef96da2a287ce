import ChatPlatform.Facts.Links
import ChatPlatform.Foundation.Traversal

/-!
# What operations do

Each operation leaves the facts alone, changes the one fact of its slot that is in force,
adds one, or both. A store whose texts are in normal form takes every list of operations
that passed their checks.
-/

namespace ChatPlatform
namespace Facts

open Traversal

/-! ## One operation -/

/-- What an operation does to the facts, with everything it writes. -/
inductive Applied (store : FactStore) (source : Source) (operation : Operation)
    (facts : List Fact) : List Fact → Prop
  /-- It retracts a slot without a fact in force. -/
  | ignored
      (isRetract : operation.change = .retract)
      (missing : findActive facts operation.slotKey = none) :
      Applied store source operation facts facts
  /-- It retracts a fact. -/
  | retracted
      {place : Nat}
      {prior : Fact}
      (isRetract : operation.change = .retract)
      (found : findActive facts operation.slotKey = some (place, prior)) :
      Applied store source operation facts
        (facts.set place { prior with status := .retracted, supersededBy := none })
  /-- It adds its sources to the fact it asserts again. -/
  | sourced
      {value : Str}
      {place : Nat}
      {prior : Fact}
      (isAssert : operation.change = .assert value)
      (found : findActive facts operation.slotKey = some (place, prior)) :
      Applied store source operation facts
        (facts.set place { prior with
          sourceMessageIds :=
            Keyed.fromKeys (prior.sourceMessageIds ++ operation.sourceMessageIds) })
  /-- It asserts a fact in a slot without one in force. -/
  | asserted
      {value identifier : Str}
      (isAssert : operation.change = .assert value)
      (missing : findActive facts operation.slotKey = none) :
      Applied store source operation facts
        (facts ++ [store.newFact source operation value identifier none])
  /-- It puts a fact in the place of another one. -/
  | superseded
      {value identifier : Str}
      {place : Nat}
      {prior : Fact}
      (isAssert : operation.change = .assert value)
      (found : findActive facts operation.slotKey = some (place, prior)) :
      Applied store source operation facts
        (facts.set place { prior with
            status := .superseded, supersededBy := some identifier } ++
          [store.newFact source operation value identifier (some prior)])

/-- What some operations do to the facts, one after the other. -/
inductive AppliedAll (store : FactStore) (source : Source) :
    List Operation → List Fact → List Fact → Prop
  | nil (facts : List Fact) : AppliedAll store source [] facts facts
  | cons
      {operation : Operation}
      {rest : List Operation}
      {facts middle next : List Fact}
      (applied : Applied store source operation facts middle)
      (later : AppliedAll store source rest middle next) :
      AppliedAll store source (operation :: rest) facts next

section Invariants

variable {store : FactStore} {source : Source}

/-- What holds of every fact holds of every fact afterwards when it does not depend on
whether a fact is in force, more sources keep it, and new facts have it. -/
theorem Applied.forall_mem
    {holds : Fact → Prop}
    {operation : Operation}
    {facts next : List Fact}
    (applied : Applied store source operation facts next)
    (anyStatus : ∀ fact status supersededBy, holds fact →
      holds { fact with status, supersededBy })
    (moreSources : ∀ fact, holds fact → holds { fact with
      sourceMessageIds :=
        Keyed.fromKeys (fact.sourceMessageIds ++ operation.sourceMessageIds) })
    (new : ∀ value identifier prior,
      holds (store.newFact source operation value identifier prior))
    (all : ∀ fact ∈ facts, holds fact) : ∀ fact ∈ next, holds fact := by
  have inPlace : ∀ {place : Nat} {prior : Fact},
      findActive facts operation.slotKey = some (place, prior) → holds prior := by
    intro place prior found
    exact all prior (List.mem_of_getElem? (findActive_eq_some found).1)
  intro fact held
  cases applied with
  | ignored isRetract missing => exact all fact held
  | retracted isRetract found =>
      rcases List.mem_or_eq_of_mem_set held with earlier | rfl
      · exact all fact earlier
      · exact anyStatus _ _ _ (inPlace found)
  | sourced isAssert found =>
      rcases List.mem_or_eq_of_mem_set held with earlier | rfl
      · exact all fact earlier
      · exact moreSources _ (inPlace found)
  | asserted isAssert missing =>
      rcases List.mem_append.mp held with earlier | isLast
      · exact all fact earlier
      · rw [List.mem_singleton.mp isLast]
        exact new _ _ _
  | superseded isAssert found =>
      rcases List.mem_append.mp held with earlier | isLast
      · rcases List.mem_or_eq_of_mem_set earlier with before | rfl
        · exact all fact before
        · exact anyStatus _ _ _ (inPlace found)
      · rw [List.mem_singleton.mp isLast]
        exact new _ _ _

/-! ## One fact of a slot in force -/

/-- An operation keeps one fact of a slot in force at most. -/
theorem Applied.oneActive
    {operation : Operation}
    {facts next : List Fact}
    (applied : Applied store source operation facts next)
    (one : OneActive facts) : OneActive next := by
  cases applied with
  | ignored isRetract missing => exact one
  | retracted isRetract found =>
      obtain ⟨isFound, -, isActive⟩ := findActive_eq_some found
      exact one.set isFound isActive rfl
  | sourced isAssert found =>
      obtain ⟨isFound, -, isActive⟩ := findActive_eq_some found
      exact one.set isFound isActive rfl
  | asserted isAssert missing => exact one.snoc (findActive_eq_none missing)
  | superseded isAssert found =>
      obtain ⟨isFound, slot, isActive⟩ := findActive_eq_some found
      refine OneActive.snoc (one.set isFound isActive ?_) ?_
      · rfl
      · intro other held slots
        exact one.noneActive_set isFound isActive (by simp) other held (slots.trans slot.symm)

theorem AppliedAll.forall_mem
    {holds : Fact → Prop}
    {operations : List Operation}
    {facts next : List Fact}
    (applied : AppliedAll store source operations facts next)
    (anyStatus : ∀ fact status supersededBy, holds fact →
      holds { fact with status, supersededBy })
    (moreSources : ∀ operation ∈ operations, ∀ fact, holds fact → holds { fact with
      sourceMessageIds :=
        Keyed.fromKeys (fact.sourceMessageIds ++ operation.sourceMessageIds) })
    (new : ∀ operation ∈ operations, ∀ value identifier prior,
      holds (store.newFact source operation value identifier prior))
    (all : ∀ fact ∈ facts, holds fact) : ∀ fact ∈ next, holds fact := by
  induction applied with
  | nil facts => exact all
  | cons applied later inductionHypothesis =>
      refine inductionHypothesis (fun operation held => moreSources operation
        (List.mem_cons_of_mem _ held)) (fun operation held => new operation
          (List.mem_cons_of_mem _ held)) ?_
      exact applied.forall_mem anyStatus (moreSources _ List.mem_cons_self)
        (new _ List.mem_cons_self) all

theorem AppliedAll.oneActive
    {operations : List Operation}
    {facts next : List Fact}
    (applied : AppliedAll store source operations facts next)
    (one : OneActive facts) : OneActive next := by
  induction applied with
  | nil facts => exact one
  | cons applied later inductionHypothesis => exact inductionHypothesis (applied.oneActive one)

end Invariants

/-! ## Stores that take every operation -/

section Apply

variable {unicode : Unicode}

/-- A store keeps its texts whenever it is built anew. -/
structure FactStore.Normal (unicode : Unicode) (store : FactStore) : Prop where
  /-- The tenant is in normal form. -/
  tenant : text unicode store.tenantId = .ok store.tenantId
  /-- The conversation is in normal form. -/
  conversation : text unicode store.conversationId = .ok store.conversationId
  /-- The extractor is in normal form. -/
  extractor : text unicode store.extractorVersion = .ok store.extractorVersion

/-- Building such a store anew changes nothing. -/
theorem FactStore.Normal.postInit
    {store : FactStore}
    (normal : store.Normal unicode) : store.postInit unicode = .ok store := by
  unfold FactStore.postInit
  rw [normal.tenant, normal.conversation, normal.extractor]
  rfl

/-- Text that says something has a normal form. -/
theorem text_of_isText
    (unicode : Unicode)
    {value : Str}
    (isSaid : isText value = true) : text unicode value = .ok (unicode.nfc value) := by
  unfold text
  rw [if_pos isSaid]

/-- A slot says something. -/
theorem isText_of_isSnakeCase {slotKey : Str} (snakeCase : isSnakeCase slotKey = true) :
    isText slotKey = true := by
  obtain ⟨starts, -⟩ := Bool.and_eq_true_iff.mp snakeCase
  cases slotKey with
  | nil => cases starts
  | cons first rest =>
      have lower : first.isLower = true := by simpa using starts
      have visible : Text.isSpace first = false := by
        obtain ⟨least, most⟩ := Text.isLower_bounds lower
        unfold Text.isSpace
        simp
        omega
      refine decide_eq_true fun blank => ?_
      have invisible := (Text.strip_eq_nil_iff _).mp blank first List.mem_cons_self
      rw [visible] at invisible
      cases invisible

/-- The identity of what an operation asserts in such a store. -/
theorem FactStore.Normal.identity
    {store : FactStore}
    (normal : store.Normal unicode)
    {sourceSequence : Int}
    (counted : 0 ≤ sourceSequence)
    (index : Nat)
    (operation : Operation) :
    ∃ identity, store.identity unicode sourceSequence index operation = .ok identity := by
  have slot := text_of_isText unicode (isText_of_isSnakeCase operation.snakeCase)
  unfold FactStore.identity identityOf integer
  rw [if_neg (by omega), if_neg (by omega), normal.tenant, normal.conversation, slot]
  exact ⟨_, rfl⟩

/-- Such a store takes every operation. -/
theorem FactStore.Normal.applyOperation
    (sha256 : Str → Fin (2 ^ 256))
    {store : FactStore}
    (normal : store.Normal unicode)
    {source : Source}
    (counted : 0 ≤ source.sourceSequence)
    (index : Nat)
    (progress : Progress)
    (operation : Operation) :
    ∃ next, store.applyOperation unicode sha256 source index progress operation = .ok next ∧
      Applied store source operation progress.facts next.facts ∧
        progress.audit <+: next.audit := by
  obtain ⟨identity, isIdentity⟩ := normal.identity counted index operation
  unfold FactStore.applyOperation
  split
  · exact ⟨_, rfl, .ignored ‹_› ‹_›, List.prefix_append _ _⟩
  · exact ⟨_, rfl, .retracted ‹_› ‹_›, List.prefix_refl _⟩
  · rw [isIdentity]
    exact ⟨_, rfl, .asserted ‹_› ‹_›, List.prefix_refl _⟩
  · split
    · exact ⟨_, rfl, .sourced ‹_› ‹_›, List.prefix_refl _⟩
    · rw [isIdentity]
      exact ⟨_, rfl, .superseded ‹_› ‹_›, List.prefix_refl _⟩

variable {F : Type}

/-- Such a store takes operations one after the other. -/
theorem FactStore.Normal.applyFrom
    (sha256 : Str → Fin (2 ^ 256))
    {store : FactStore}
    (normal : store.Normal unicode)
    {source : Source}
    (counted : 0 ≤ source.sourceSequence)
    (operations : List Operation) :
    ∀ (index : Nat) (progress : Progress), ∃ next,
      store.applyFrom unicode sha256 source index progress
          (operations.map (Given.operation (F := F))) = .ok next ∧
        AppliedAll store source operations progress.facts next.facts ∧
          progress.audit <+: next.audit := by
  induction operations with
  | nil => exact fun index progress => ⟨progress, rfl, .nil _, List.prefix_refl _⟩
  | cons operation rest inductionHypothesis =>
      intro index progress
      obtain ⟨middle, isMiddle, applied, audited⟩ :=
        FactStore.Normal.applyOperation sha256 normal counted index progress operation
      obtain ⟨next, isNext, later, auditedLater⟩ := inductionHypothesis (index + 1) middle
      refine ⟨next, ?_, .cons applied later, audited.trans auditedLater⟩
      rw [List.map_cons, FactStore.applyFrom]
      simp only [Given.validated]
      show (store.applyOperation unicode sha256 source index progress operation >>= _) = _
      rw [isMiddle]
      exact isNext

/-- What such a store is after an extraction that advances it. -/
theorem FactStore.Normal.apply
    (sha256 : Str → Fin (2 ^ 256))
    {store : FactStore}
    (normal : store.Normal unicode)
    {sourceSequence : Int}
    (counted : 0 ≤ sourceSequence)
    (advances : store.lastSequence < sourceSequence)
    {statement : Str}
    (said : isText statement = true)
    (operations : List Operation) :
    ∃ facts audit,
      store.apply unicode sha256 (operations.map (Given.operation (F := F))) sourceSequence
          statement =
        .ok { store with facts, audit, lastSequence := sourceSequence } ∧
      AppliedAll store ⟨sourceSequence, unicode.nfc statement⟩ operations store.facts facts ∧
        store.audit <+: audit := by
  obtain ⟨next, isNext, applied, audited⟩ :=
    FactStore.Normal.applyFrom (F := F) sha256 normal
      (show 0 ≤ (Source.mk sourceSequence (unicode.nfc statement)).sourceSequence from counted)
      operations 0 ⟨store.facts, store.audit⟩
  refine ⟨next.facts, next.audit, ?_, applied, audited⟩
  have notBackward : ¬ sourceSequence ≤ store.lastSequence := by omega
  have kept : FactStore.Normal unicode
      { store with
        facts := next.facts, audit := next.audit, lastSequence := sourceSequence } :=
    ⟨normal.tenant, normal.conversation, normal.extractor⟩
  unfold FactStore.apply integer
  rw [if_neg (by omega), text_of_isText unicode said]
  simp only [bind, Except.bind, if_neg notBackward, isNext, kept.postInit]

end Apply

end Facts
end ChatPlatform
