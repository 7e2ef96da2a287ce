import ChatPlatform.EventLog.Events
import ChatPlatform.Facts.Links
import ChatPlatform.Foundation.Growth
import ChatPlatform.Foundation.Traversal
import Mathlib.Data.Set.Function

/-!
# The life of a fact

Over every sequence of extractions a fact keeps its place and, once it is no longer in
force, everything else. While it is in force it gains sources; a source that was given
twice is then named once.
-/

namespace ChatPlatform
namespace Facts

open Growth Traversal

/-! ## How a fact changes -/

/-- Sources are kept: as they are, or each once, in order and before the new ones. -/
def Gained (ids next : List Str) : Prop :=
  next = ids ∨ (next.Nodup ∧ Keyed.fromKeys ids <+: next)

/-- A fact in force gained sources, was superseded or was retracted. -/
structure Fact.Changed (fact next : Fact) : Prop where
  /-- It was in force. -/
  wasActive : fact.status = .active
  /-- The rest is kept. -/
  kept : next = { fact with
    sourceMessageIds := next.sourceMessageIds
    status := next.status
    supersededBy := next.supersededBy }
  /-- Its sources are kept. -/
  gained : Gained fact.sourceMessageIds next.sourceMessageIds
  /-- It is still in force, or was superseded, or was retracted. -/
  settled : (next.status = .active ∧ next.supersededBy = fact.supersededBy) ∨
    (next.status = .superseded ∧ next.supersededBy ≠ none) ∨
      (next.status = .retracted ∧ next.supersededBy = none)

/-- A fact stays as it is, or changes while it is in force. -/
def Fact.Becomes (fact next : Fact) : Prop := next = fact ∨ fact.Changed next

/-- Every fact keeps its place. -/
def Evolves (facts next : List Fact) : Prop :=
  ∀ (place : Nat) (fact : Fact), facts[place]? = some fact →
    ∃ fact', next[place]? = some fact' ∧ fact.Becomes fact'

/-- Sources that are kept twice are kept. -/
theorem Gained.trans
    {ids middle next : List Str}
    (first : Gained ids middle)
    (second : Gained middle next) : Gained ids next := by
  rcases second with rfl | ⟨distinct, later⟩
  · exact first
  · rcases first with rfl | ⟨middleDistinct, earlier⟩
    · exact Or.inr ⟨distinct, later⟩
    · rw [Keyed.fromKeys_of_nodup middleDistinct] at later
      exact Or.inr ⟨distinct, earlier.trans later⟩

/-- Changes follow one another. -/
theorem Fact.Becomes.trans
    {fact middle next : Fact}
    (first : fact.Becomes middle)
    (second : middle.Becomes next) : fact.Becomes next := by
  rcases second with rfl | second
  · exact first
  · rcases first with rfl | first
    · exact Or.inr second
    · have noNext : middle.supersededBy = fact.supersededBy := by
        rcases first.settled with ⟨-, same⟩ | ⟨superseded, -⟩ | ⟨retracted, -⟩
        · exact same
        · rw [second.wasActive] at superseded
          cases superseded
        · rw [second.wasActive] at retracted
          cases retracted
      refine Or.inr ⟨first.wasActive, ?_, first.gained.trans second.gained, ?_⟩
      · rw [second.kept, first.kept]
      · rw [← noNext]
        exact second.settled

theorem Evolves.refl (facts : List Fact) : Evolves facts facts :=
  fun _ fact found => ⟨fact, found, Or.inl rfl⟩

theorem Evolves.trans
    {facts middle next : List Fact}
    (first : Evolves facts middle)
    (second : Evolves middle next) : Evolves facts next := by
  intro place fact found
  obtain ⟨fact', found', became⟩ := first place fact found
  obtain ⟨fact'', found'', becomes⟩ := second place fact' found'
  exact ⟨fact'', found'', became.trans becomes⟩

/-- A change in one place is one of its fact. -/
private theorem evolves_set
    {facts : List Fact}
    {place : Nat}
    {prior changed : Fact}
    (found : facts[place]? = some prior)
    (change : prior.Becomes changed) : Evolves facts (facts.set place changed) := by
  intro other fact isFact
  by_cases same : other = place
  · subst same
    rw [found] at isFact
    cases isFact
    exact ⟨changed, (getElem?_set_eq_some found changed).mpr (Or.inl ⟨rfl, rfl⟩), change⟩
  · exact ⟨fact, (getElem?_set_eq_some found changed).mpr (Or.inr ⟨same, isFact⟩), Or.inl rfl⟩

/-- A new fact leaves the others in their places. -/
private theorem evolves_snoc (facts : List Fact) (fact : Fact) : Evolves facts (facts ++ [fact]) :=
  fun _ other found => ⟨other, getElem?_snoc_eq_some.mpr (Or.inl found), Or.inl rfl⟩

/-- Every operation lets facts evolve. -/
theorem evolves_of_rewrite
    {isNew : Str → Prop}
    {facts next : List Fact}
    (rewrite : Rewrite isNew facts next) : Evolves facts next := by
  cases rewrite with
  | unchanged => exact .refl facts
  | retracted found isActive =>
      exact evolves_set found
        (Or.inr ⟨isActive, rfl, Or.inl rfl, Or.inr (Or.inr ⟨rfl, rfl⟩)⟩)
  | sourced found isActive ids =>
      refine evolves_set found (Or.inr ⟨isActive, rfl, Or.inr ⟨?_, ?_⟩, Or.inl ⟨isActive, rfl⟩⟩)
      · exact Keyed.nodup_fromKeys _
      · exact Keyed.fromKeys_prefix _ ids
  | asserted => exact evolves_snoc facts _
  | superseded found priorActive =>
      refine Evolves.trans (evolves_set found ?_) (evolves_snoc _ _)
      exact Or.inr ⟨priorActive, rfl, Or.inl rfl, Or.inr (Or.inl ⟨rfl, Option.some_ne_none _⟩)⟩

/-! ## Identities -/

/-- The text of an identity tells where it was asserted. -/
theorem place_of_text_eq
    {identity other : Identity}
    (same : identity.text = other.text) :
    identity.sourceSequence = other.sourceSequence ∧
      identity.opIndexWithinExtraction = other.opIndexWithinExtraction := by
  have isReadable : ∀ identity : Identity,
      Json.readable (.dict identity.fields) = true := by
    intro identity
    have keys : (identity.fields.map (·.1)).Nodup := by
      show ["encoding_version".toList, "tenant_id".toList, "conversation_id".toList,
        "slot_key".toList, "source_sequence".toList, "op_index_within_extraction".toList].Nodup
      decide
    unfold Json.readable
    rw [Json.everywhere, decide_eq_true keys, Bool.true_and]
    simp [Identity.fields, Json.everywhereEntries, Json.everywhere]
  have arranged := Json.arrange_eq_of_dumps_eq (isReadable identity) (isReadable other) same
  have shape : ∀ identity : Identity, Json.arrange (.dict identity.fields) =
      .dict [("conversation_id".toList, .str identity.conversationId),
        ("encoding_version".toList, .str factIdEncoding),
        ("op_index_within_extraction".toList, .int identity.opIndexWithinExtraction),
        ("slot_key".toList, .str identity.slotKey),
        ("source_sequence".toList, .int identity.sourceSequence),
        ("tenant_id".toList, .str identity.tenantId)] := by
    intro identity
    rw [Json.arrange_dict]
    rfl
  rw [shape, shape] at arranged
  simp only [Value.dict.injEq, List.cons.injEq, Prod.mk.injEq, Value.str.injEq,
    Value.int.injEq, true_and, and_true] at arranged
  obtain ⟨-, index, -, sequence, -⟩ := arranged
  exact ⟨sequence, Int.ofNat.inj index⟩

/-- The hexadecimal text of a digest tells the digest. -/
theorem sha256_eq_of_factId_eq
    {sha256 : Str → Fin (2 ^ 256)}
    {identity other : Identity}
    (same : factId sha256 identity = factId sha256 other) :
    sha256 identity.text = sha256 other.text := by
  unfold factId EventLog.sha256Hex at same
  exact Fin.ext (Numeral.hexText_injective (sha256 _).isLt (sha256 _).isLt (by decide) same)

/-- An identity tells the message and the operation it was made for. -/
theorem place_of_identity
    {unicode : Unicode}
    {store : FactStore}
    {sourceSequence : Int}
    {index : Nat}
    {operation : Operation}
    {identity : Identity}
    (identified : store.identity unicode sourceSequence index operation = .ok identity) :
    identity.sourceSequence = sourceSequence ∧ identity.opIndexWithinExtraction = index := by
  unfold FactStore.identity identityOf at identified
  obtain ⟨_, -, afterSequence⟩ := exists_of_bind_eq_ok identified
  obtain ⟨_, -, afterIndex⟩ := exists_of_bind_eq_ok afterSequence
  obtain ⟨tenantId, -, afterTenant⟩ := exists_of_bind_eq_ok afterIndex
  obtain ⟨conversationId, -, afterConversation⟩ := exists_of_bind_eq_ok afterTenant
  obtain ⟨slotKey, -, afterSlot⟩ := exists_of_bind_eq_ok afterConversation
  cases afterSlot
  exact ⟨rfl, rfl⟩

/-- Every identity of a rewritten list was there or is new. -/
theorem factId_of_rewrite
    {isNew : Str → Prop}
    {facts next : List Fact}
    (rewrite : Rewrite isNew facts next)
    {fact : Fact}
    (held : fact ∈ next) : fact.factId ∈ facts.map (·.factId) ∨ isNew fact.factId := by
  have of_set : ∀ {place : Nat} {prior changed : Fact}, fact ∈ facts.set place changed →
      facts[place]? = some prior → changed.factId = prior.factId →
        fact.factId ∈ facts.map (·.factId) := by
    intro place prior changed held found sameId
    rcases List.mem_or_eq_of_mem_set held with held | rfl
    · exact List.mem_map_of_mem held
    · rw [sameId]
      exact List.mem_map_of_mem (List.mem_of_getElem? found)
  cases rewrite with
  | unchanged => exact Or.inl (List.mem_map_of_mem held)
  | retracted found _ => exact Or.inl (of_set held found rfl)
  | sourced found _ _ => exact Or.inl (of_set held found rfl)
  | asserted _ _ _ _ new =>
      rcases List.mem_append.mp held with earlier | isLast
      · exact Or.inl (List.mem_map_of_mem earlier)
      · rw [List.mem_singleton.mp isLast]
        exact Or.inr new
  | superseded found _ identified _ _ _ _ new =>
      rcases List.mem_append.mp held with earlier | isLast
      · exact Or.inl (of_set earlier found rfl)
      · rw [List.mem_singleton.mp isLast, identified]
        exact Or.inr new

/-- An identity was made before an operation of an extraction. -/
def Identity.Before (identity : Identity) (sourceSequence : Int) (index : Nat) : Prop :=
  identity.sourceSequence < sourceSequence ∨
    (identity.sourceSequence = sourceSequence ∧ identity.opIndexWithinExtraction < index)

/-- Facts are linked, and their identities are among some that were made before. -/
structure Identified
    (sha256 : Str → Fin (2 ^ 256))
    (known : List Identity)
    (sourceSequence : Int)
    (index : Nat)
    (facts : List Fact) : Prop where
  /-- The facts are linked. -/
  linked : Linked facts
  /-- Their identities are known. -/
  named : ∀ fact ∈ facts, ∃ identity ∈ known,
    fact.factId = factId sha256 identity ∧ identity.Before sourceSequence index

/-- The texts of identities have distinct digests. -/
def CollisionFree (sha256 : Str → Fin (2 ^ 256)) (known : List Identity) : Prop :=
  Set.InjOn sha256 {text | ∃ identity ∈ known, text = identity.text}

/-- An operation keeps the facts identified. -/
theorem Identified.rewrite
    {sha256 : Str → Fin (2 ^ 256)}
    {known : List Identity}
    (noCollision : CollisionFree sha256 known)
    {sourceSequence : Int}
    {index : Nat}
    {facts next : List Fact}
    (identified : Identified sha256 known sourceSequence index facts)
    {isNew : Str → Prop}
    (rewrite : Rewrite isNew facts next)
    (newIsKnown : ∀ id, isNew id → ∃ identity ∈ known, id = factId sha256 identity ∧
      identity.sourceSequence = sourceSequence ∧ identity.opIndexWithinExtraction = index) :
    Identified sha256 known sourceSequence (index + 1) next := by
  constructor
  · refine identified.linked.rewrite rewrite fun id new held => ?_
    obtain ⟨identity, isKnown, isNewId, sequence, place⟩ := newIsKnown id new
    obtain ⟨fact, inFacts, sameId⟩ := List.mem_map.mp held
    obtain ⟨other, otherKnown, isId, before⟩ := identified.named fact inFacts
    rw [isId, isNewId] at sameId
    have texts := noCollision ⟨other, otherKnown, rfl⟩ ⟨identity, isKnown, rfl⟩
      (sha256_eq_of_factId_eq sameId)
    obtain ⟨sameSequence, samePlace⟩ := place_of_text_eq texts
    rcases before with earlier | ⟨-, earlier⟩
    · omega
    · omega
  · intro fact held
    rcases factId_of_rewrite rewrite held with old | new
    · obtain ⟨same, inFacts, sameId⟩ := List.mem_map.mp old
      obtain ⟨identity, isKnown, isId, before⟩ := identified.named same inFacts
      refine ⟨identity, isKnown, sameId.symm.trans isId, ?_⟩
      rcases before with earlier | ⟨sequence, earlier⟩
      · exact Or.inl earlier
      · exact Or.inr ⟨sequence, Nat.lt_succ_of_lt earlier⟩
    · obtain ⟨identity, isKnown, isId, sequence, place⟩ := newIsKnown _ new
      exact ⟨identity, isKnown, isId, Or.inr ⟨sequence, by omega⟩⟩

/-! ## Runs -/

variable {F : Type}

/-- A call of `apply`. -/
structure Call (F : Type) where
  /-- The operations. -/
  operations : List (Given F)
  /-- The sequence number of the message. -/
  sourceSequence : Int
  /-- What the message says. -/
  statement : Str

section Runs

variable (unicode : Unicode) (sha256 : Str → Fin (2 ^ 256))

/-- What a call returns or raises. -/
def FactStore.result (store : FactStore) (call : Call F) : Except FactError FactStore :=
  store.apply unicode sha256 call.operations call.sourceSequence call.statement

/-- The store that is used after a call: what it returned, or the one it was given. -/
def FactStore.after (store : FactStore) (call : Call F) : FactStore :=
  match store.result unicode sha256 call with
  | .ok next => next
  | .error _ => store

/-- The store after some calls. -/
def FactStore.run (store : FactStore) (calls : List (Call F)) : FactStore :=
  calls.foldl (FactStore.after unicode sha256) store

/-- The identities of the operations of a call. -/
def FactStore.identities (store : FactStore) (call : Call F) : List Identity :=
  call.operations.zipIdx.filterMap fun entry =>
    match entry.1.validated with
    | .error _ => none
    | .ok operation =>
        (store.identity unicode call.sourceSequence entry.2 operation).toOption

/-- The identities of the operations of some calls. -/
def FactStore.identitiesOf (store : FactStore) : List (Call F) → List Identity
  | [] => []
  | call :: rest =>
      store.identities unicode call ++ (store.after unicode sha256 call).identitiesOf rest

/-- What holds of every store that is reached. -/
structure Sound (store : FactStore) : Prop where
  /-- One fact of a slot is in force at most. -/
  oneActive : ∀ slotKey, (store.facts.filter fun fact =>
    fact.slotKey = slotKey ∧ fact.status = .active).length ≤ 1
  /-- No identity occurs twice. -/
  distinct : (store.facts.map (·.factId)).Nodup
  /-- The links are mutual. -/
  linked : ∀ fact ∈ store.facts, ∀ other ∈ store.facts,
    fact.supersedes = some other.factId ↔ other.supersededBy = some fact.factId
  /-- What a fact took the place of is superseded, of the same slot and earlier. -/
  earlier : ∀ (place place' : Nat) (fact other : Fact), store.facts[place]? = some fact →
    store.facts[place']? = some other → fact.supersedes = some other.factId →
      other.status = .superseded ∧ other.slotKey = fact.slotKey ∧ place' < place

/-- What holds of a call at a store: it raises and leaves the store as it is, or it lets
the facts evolve and advances the message sequence. -/
def Advances (store : FactStore) (call : Call F) : Prop :=
  (∃ refusal, store.result unicode sha256 call = .error refusal ∧
    store.after unicode sha256 call = store) ∨
  ∃ next, store.result unicode sha256 call = .ok next ∧
    store.after unicode sha256 call = next ∧ Evolves store.facts next.facts ∧
      store.lastSequence < next.lastSequence

/-- What holds of every sequence of calls: every store is sound, every call advances, and
the facts of a store evolve into those of every later one. -/
structure Lifecycle (store : FactStore) (calls : List (Call F)) : Prop where
  /-- Every store is sound. -/
  sound : ∀ before after, calls = before ++ after → Sound (store.run unicode sha256 before)
  /-- Every call advances. -/
  advances : ∀ before call after, calls = before ++ call :: after →
    Advances unicode sha256 (store.run unicode sha256 before) call
  /-- Facts evolve. -/
  evolves : ∀ before middle after, calls = before ++ middle ++ after →
    Evolves (store.run unicode sha256 before).facts
      (store.run unicode sha256 (before ++ middle)).facts

end Runs

variable {unicode : Unicode} {sha256 : Str → Fin (2 ^ 256)}

/-- The operations of an extraction keep the facts identified and let them evolve. -/
theorem identified_applyFrom
    {known : List Identity}
    (noCollision : CollisionFree sha256 known)
    {store : FactStore}
    {source : Source}
    {operations : List (Given F)}
    {index : Nat}
    {progress next : Progress}
    (isKnown : ∀ offset given operation identity, operations[offset]? = some given →
      given.validated = .ok operation →
        store.identity unicode source.sourceSequence (index + offset) operation =
          .ok identity → identity ∈ known)
    (identified : Identified sha256 known source.sourceSequence index progress.facts)
    (applied : store.applyFrom unicode sha256 source index progress operations = .ok next) :
    (∃ last, Identified sha256 known source.sourceSequence last next.facts) ∧
      Evolves progress.facts next.facts := by
  induction operations generalizing index progress with
  | nil =>
      cases applied
      exact ⟨⟨index, identified⟩, .refl _⟩
  | cons given rest inductionHypothesis =>
      rw [FactStore.applyFrom] at applied
      obtain ⟨operation, isValid, afterValid⟩ := exists_of_bind_eq_ok applied
      obtain ⟨middle, isApplied, remaining⟩ := exists_of_bind_eq_ok afterValid
      have rewritten := rewrite_of_applyOperation isApplied
      have later := identified.rewrite noCollision rewritten fun id new => by
        obtain ⟨identity, isIdentity, isId⟩ := new
        obtain ⟨sequence, place⟩ := place_of_identity isIdentity
        exact ⟨identity, isKnown 0 given operation identity rfl isValid isIdentity, isId,
          sequence, place⟩
      have restKnown : ∀ offset given' operation' identity, rest[offset]? = some given' →
          given'.validated = .ok operation' →
            store.identity unicode source.sourceSequence (index + 1 + offset) operation' =
              .ok identity → identity ∈ known := by
        intro offset given' operation' identity found valid isIdentity
        refine isKnown (offset + 1) given' operation' identity found valid ?_
        rw [← isIdentity]
        congr 1
        omega
      obtain ⟨last, evolves⟩ := inductionHypothesis restKnown later remaining
      exact ⟨last, (evolves_of_rewrite rewritten).trans evolves⟩

/-- A call that returns applied its operations and advanced. -/
theorem applied_of_result
    {store next : FactStore}
    {call : Call F}
    (returned : store.result unicode sha256 call = .ok next) :
    store.lastSequence < call.sourceSequence ∧ next.lastSequence = call.sourceSequence ∧
      ∃ statement progress,
        store.applyFrom unicode sha256 ⟨call.sourceSequence, statement⟩ 0
          ⟨store.facts, store.audit⟩ call.operations = .ok progress ∧
            next.facts = progress.facts := by
  unfold FactStore.result FactStore.apply at returned
  obtain ⟨_, -, afterSequence⟩ := exists_of_bind_eq_ok returned
  by_cases backward : call.sourceSequence ≤ store.lastSequence
  · rw [if_pos backward] at afterSequence
    cases afterSequence
  · rw [if_neg backward] at afterSequence
    obtain ⟨statement, -, afterStatement⟩ := exists_of_bind_eq_ok afterSequence
    obtain ⟨progress, applied, afterOperations⟩ := exists_of_bind_eq_ok afterStatement
    unfold FactStore.postInit at afterOperations
    obtain ⟨tenantId, -, afterTenant⟩ := exists_of_bind_eq_ok afterOperations
    obtain ⟨conversationId, -, afterConversation⟩ := exists_of_bind_eq_ok afterTenant
    obtain ⟨extractorVersion, -, isNext⟩ := exists_of_bind_eq_ok afterConversation
    cases isNext
    exact ⟨not_le.mp backward, rfl, statement, progress, applied, rfl⟩

/-- What was made before an extraction was made before a later one. -/
theorem Identified.mono
    {known : List Identity}
    {sourceSequence later : Int}
    {index : Nat}
    {facts : List Fact}
    (identified : Identified sha256 known sourceSequence index facts)
    (isLater : sourceSequence < later) : Identified sha256 known later 0 facts := by
  refine ⟨identified.linked, fun fact held => ?_⟩
  obtain ⟨identity, isKnown, isId, before⟩ := identified.named fact held
  refine ⟨identity, isKnown, isId, Or.inl ?_⟩
  rcases before with earlier | ⟨same, -⟩
  · exact earlier.trans isLater
  · exact same ▸ isLater

/-- The identities of the operations of a call. -/
theorem mem_identities
    {store : FactStore}
    {call : Call F}
    {offset : Nat}
    {given : Given F}
    {operation : Operation}
    {identity : Identity}
    (found : call.operations[offset]? = some given)
    (valid : given.validated = .ok operation)
    (isIdentity : store.identity unicode call.sourceSequence offset operation = .ok identity) :
    identity ∈ store.identities unicode call := by
  unfold FactStore.identities
  refine List.mem_filterMap.mpr ⟨(given, offset), List.mem_zipIdx_iff_getElem?.mpr found, ?_⟩
  rw [valid]
  dsimp only
  rw [isIdentity]
  rfl

/-- The identities of the operations of some calls and of others after them. -/
theorem identitiesOf_append (store : FactStore) (calls others : List (Call F)) :
    store.identitiesOf unicode sha256 (calls ++ others) =
      store.identitiesOf unicode sha256 calls ++
        (store.run unicode sha256 calls).identitiesOf unicode sha256 others := by
  induction calls generalizing store with
  | nil => rfl
  | cons call rest inductionHypothesis =>
      rw [List.cons_append, FactStore.identitiesOf, inductionHypothesis, FactStore.identitiesOf,
        List.append_assoc]
      rfl

@[simp] theorem run_snoc (store : FactStore) (calls : List (Call F)) (call : Call F) :
    store.run unicode sha256 (calls ++ [call]) =
      (store.run unicode sha256 calls).after unicode sha256 call := by
  unfold FactStore.run
  rw [List.foldl_append]
  rfl

/-- A call at a store with identified facts advances and keeps them identified. -/
theorem identified_after
    {known : List Identity}
    (noCollision : CollisionFree sha256 known)
    {store : FactStore}
    {call : Call F}
    (isKnown : ∀ identity ∈ store.identities unicode call, identity ∈ known)
    {last : Nat}
    (identified : Identified sha256 known store.lastSequence last store.facts) :
    (∃ last, Identified sha256 known (store.after unicode sha256 call).lastSequence last
      (store.after unicode sha256 call).facts) ∧ Advances unicode sha256 store call := by
  cases returned : store.result unicode sha256 call with
  | error refusal =>
      have unchanged : store.after unicode sha256 call = store := by
        unfold FactStore.after
        rw [returned]
      rw [unchanged]
      exact ⟨⟨last, identified⟩, Or.inl ⟨refusal, returned, unchanged⟩⟩
  | ok next =>
      have isNext : store.after unicode sha256 call = next := by
        unfold FactStore.after
        rw [returned]
      obtain ⟨isLater, sequence, statement, progress, applied, sameFacts⟩ :=
        applied_of_result returned
      obtain ⟨held, evolves⟩ := identified_applyFrom noCollision
        (fun offset given operation identity found valid isIdentity => by
          rw [Nat.zero_add] at isIdentity
          exact isKnown identity (mem_identities found valid isIdentity))
        (identified.mono isLater) applied
      rw [isNext, sequence, sameFacts]
      refine ⟨held, Or.inr ⟨next, returned, isNext, ?_, ?_⟩⟩
      · rw [sameFacts]
        exact evolves
      · rw [sequence]
        exact isLater

/-- Where no texts of identities collide, every store of a run has identified facts. -/
theorem identified_run
    {known : List Identity}
    (noCollision : CollisionFree sha256 known)
    {store : FactStore}
    (noFacts : store.facts = [])
    {calls : List (Call F)}
    (isKnown : ∀ identity ∈ store.identitiesOf unicode sha256 calls, identity ∈ known) :
    ∃ last, Identified sha256 known (store.run unicode sha256 calls).lastSequence last
      (store.run unicode sha256 calls).facts := by
  induction calls using List.reverseRecOn with
  | nil =>
      refine ⟨0, ?_, fun fact held => ?_⟩
      · show Linked store.facts
        rw [noFacts]
        exact linked_nil
      · have none : fact ∈ store.facts := held
        rw [noFacts] at none
        cases none
  | append_singleton calls call inductionHypothesis =>
      rw [identitiesOf_append] at isKnown
      obtain ⟨last, identified⟩ := inductionHypothesis fun identity held =>
        isKnown identity (List.mem_append_left _ held)
      rw [run_snoc]
      refine (identified_after noCollision (fun identity held => ?_) identified).1
      refine isKnown identity (List.mem_append_right _ ?_)
      rw [FactStore.identitiesOf]
      exact List.mem_append_left _ held

/-- Linked facts are sound. -/
theorem sound_of_linked {store : FactStore} (linked : Linked store.facts) : Sound store := by
  have inPlace : ∀ fact ∈ store.facts, ∀ other ∈ store.facts,
      fact.factId = other.factId → fact = other :=
    fun fact held other otherHeld same =>
      List.inj_on_of_nodup_map linked.distinct held otherHeld same
  constructor
  · intro slotKey
    refine length_filter_le_one fun before fact after same holds earlier held => ?_
    by_contra alsoHolds
    rw [Bool.not_eq_false] at alsoHolds
    obtain ⟨slot, active⟩ := of_decide_eq_true holds
    obtain ⟨earlierSlot, earlierActive⟩ := of_decide_eq_true alsoHolds
    obtain ⟨place, isEarlier⟩ := List.mem_iff_getElem?.mp held
    have inside := (List.getElem?_eq_some_iff.mp isEarlier).1
    have isFact : store.facts[before.length]? = some fact := by
      rw [same, List.getElem?_append_right (Nat.le_refl _), Nat.sub_self]
      rfl
    have isThere : store.facts[place]? = some earlier := by
      rw [same, List.getElem?_append_left inside]
      exact isEarlier
    have samePlace := linked.oneActive _ _ _ _ isThere isFact (earlierSlot.trans slot.symm)
      earlierActive active
    omega
  · exact linked.distinct
  · intro fact held other otherHeld
    constructor
    · intro isPrior
      obtain ⟨place, isFact⟩ := List.mem_iff_getElem?.mp held
      obtain ⟨earlier, prior, -, isThere, sameId, -, isNext, -⟩ :=
        linked.backward place fact _ isFact isPrior
      rw [← inPlace prior (List.mem_of_getElem? isThere) other otherHeld sameId]
      exact isNext
    · intro isNext
      obtain ⟨next, inFacts, sameId, isPrior⟩ := linked.forward other otherHeld _ isNext
      rw [← inPlace next inFacts fact held sameId]
      exact isPrior
  · intro place place' fact other isFact isOther isPrior
    obtain ⟨earlier, prior, less, isThere, sameId, superseded, -, slot⟩ :=
      linked.backward place fact _ isFact isPrior
    have same := inPlace prior (List.mem_of_getElem? isThere) other
      (List.mem_of_getElem? isOther) sameId
    subst same
    have distinct := linked.distinct.of_map
    have inside := (List.getElem?_eq_some_iff.mp isThere).1
    have samePlace : earlier = place' :=
      (List.getElem?_inj inside distinct).mp (isThere.trans isOther.symm)
    exact ⟨superseded, slot, samePlace ▸ less⟩

/-- A store that is built without facts has none. -/
theorem facts_of_empty
    {tenantId conversationId extractorVersion : Str}
    {store : FactStore}
    (built : FactStore.empty unicode tenantId conversationId extractorVersion = .ok store) :
    store.facts = [] := by
  unfold FactStore.empty FactStore.postInit at built
  obtain ⟨tenantId, -, afterTenant⟩ := exists_of_bind_eq_ok built
  obtain ⟨conversationId, -, afterConversation⟩ := exists_of_bind_eq_ok afterTenant
  obtain ⟨extractorVersion, -, isStore⟩ := exists_of_bind_eq_ok afterConversation
  cases isStore
  rfl

/-- Later facts of a run evolved from earlier ones. -/
theorem evolves_run
    {store : FactStore}
    {before middle : List (Call F)}
    (advances : ∀ front call rest, middle = front ++ call :: rest →
      Advances unicode sha256 (store.run unicode sha256 (before ++ front)) call) :
    Evolves (store.run unicode sha256 before).facts
      (store.run unicode sha256 (before ++ middle)).facts := by
  induction middle using List.reverseRecOn with
  | nil =>
      rw [List.append_nil]
      exact .refl _
  | append_singleton middle call inductionHypothesis =>
      have earlier := inductionHypothesis fun front call' rest same =>
        advances front call' (rest ++ [call]) (by rw [same]; simp)
      rw [← List.append_assoc, run_snoc]
      rcases advances middle call [] rfl with ⟨-, -, unchanged⟩ | ⟨next, -, isNext, evolves, -⟩
      · rw [unchanged]
        exact earlier
      · rw [isNext]
        exact earlier.trans evolves

/-- A store that starts without facts goes through the life cycle in every sequence of
calls, where the texts of the identities of its operations have distinct digests. -/
theorem factStore_lifecycle
    {tenantId conversationId extractorVersion : Str}
    {store : FactStore}
    (built : FactStore.empty unicode tenantId conversationId extractorVersion = .ok store)
    {calls : List (Call F)}
    (noCollision : CollisionFree sha256 (store.identitiesOf unicode sha256 calls)) :
    Lifecycle unicode sha256 store calls := by
  have noFacts := facts_of_empty built
  have identified : ∀ before after, calls = before ++ after → ∃ last,
      Identified sha256 (store.identitiesOf unicode sha256 calls)
        (store.run unicode sha256 before).lastSequence last
          (store.run unicode sha256 before).facts := by
    rintro before after rfl
    refine identified_run noCollision noFacts fun identity held => ?_
    rw [identitiesOf_append]
    exact List.mem_append_left _ held
  have advances : ∀ before call after, calls = before ++ call :: after →
      Advances unicode sha256 (store.run unicode sha256 before) call := by
    intro before call after same
    obtain ⟨last, held⟩ := identified before (call :: after) same
    refine (identified_after noCollision (fun identity isOne => ?_) held).2
    rw [same, identitiesOf_append, FactStore.identitiesOf]
    exact List.mem_append_right _ (List.mem_append_left _ isOne)
  refine ⟨fun before after same => ?_, advances, fun before middle after same => ?_⟩
  · obtain ⟨last, held⟩ := identified before after same
    exact sound_of_linked held.linked
  · refine evolves_run fun front call rest split => ?_
    exact advances (before ++ front) call (rest ++ after) (by rw [same, split]; simp)

/-! ## A conversation -/

/-- Tables that change nothing. -/
def plainTables : Unicode := ⟨id, id⟩

/-- A digest for short texts. -/
def shortDigest (text : Str) : Fin (2 ^ 256) :=
  Fin.ofNat (2 ^ 256) (text.foldl (fun digest c => digest * 31 + c.toNat) 0)

/-- A store without facts. -/
def emptyStore : FactStore where
  tenantId := "tenant".toList
  conversationId := "conversation".toList
  extractorVersion := "v2".toList

/-- What is asserted says something when the city does. -/
theorem isText_of_assert
    {city value : Str}
    (isSaid : isText city = true)
    (same : Change.assert city = .assert value) : isText value = true := by
  cases same
  exact isSaid

/-- The city a user says to live in. -/
def livesIn (city : Str) (isSaid : isText city = true) (messageIds : List Str)
    (sourced : messageIds ≠ []) (named : messageIds.all isText = true) : Operation where
  change := .assert city
  slotKey := "home_city".toList
  kind := .fact
  sourceMessageIds := messageIds
  snakeCase := by decide
  valued := fun _ same => isText_of_assert isSaid same
  sourced := sourced
  named := named

/-- A city that is said in one message and another one in the next. -/
def twoCities : List (Call Empty) :=
  [⟨[.operation (livesIn "Recife".toList (by decide) ["m1".toList] (by decide) (by decide))],
      1, "a".toList⟩,
    ⟨[.operation (livesIn "Olinda".toList (by decide) ["m2".toList] (by decide) (by decide))],
      2, "b".toList⟩]

/-- A city that is said in a message that is named twice. -/
def saidTwice : Call Empty :=
  ⟨[.operation (livesIn "Recife".toList (by decide) ["m".toList, "m".toList] (by decide)
    (by decide))], 1, "a".toList⟩

/-- The same city, said in the same message. -/
def saidAgain : Call Empty :=
  ⟨[.operation (livesIn "Recife".toList (by decide) ["m".toList] (by decide) (by decide))],
    2, "b".toList⟩

/-- An identity of the store. -/
def cityIdentity (sourceSequence : Int) : Identity where
  tenantId := "tenant".toList
  conversationId := "conversation".toList
  slotKey := "home_city".toList
  sourceSequence := sourceSequence
  opIndexWithinExtraction := 0

/-- The texts of two identities have distinct digests. -/
theorem collisionFree_cities :
    CollisionFree shortDigest [cityIdentity 1, cityIdentity 2] := by
  have different : shortDigest (cityIdentity 1).text ≠ shortDigest (cityIdentity 2).text := by
    decide +kernel
  rintro _ ⟨identity, held, rfl⟩ _ ⟨other, otherHeld, rfl⟩ same
  rcases List.mem_cons.mp held with rfl | held
  · rcases List.mem_cons.mp otherHeld with rfl | otherHeld
    · rfl
    · rw [List.mem_singleton.mp otherHeld] at same
      exact absurd same different
  · rw [List.mem_singleton.mp held] at same ⊢
    rcases List.mem_cons.mp otherHeld with rfl | otherHeld
    · exact absurd same.symm different
    · rw [List.mem_singleton.mp otherHeld]

/-- The store is built as it is. -/
theorem built_emptyStore :
    FactStore.empty plainTables "tenant".toList "conversation".toList "v2".toList =
      .ok emptyStore := by
  rfl

/-- The life cycle of two cities. -/
theorem factStore_lifecycle_cities :
    Lifecycle plainTables shortDigest emptyStore twoCities := by
  have identities : emptyStore.identitiesOf plainTables shortDigest twoCities =
      [cityIdentity 1, cityIdentity 2] := by
    decide +kernel
  refine factStore_lifecycle built_emptyStore ?_
  rw [identities]
  exact collisionFree_cities

/-- A fact in force may also lose the second mention of a source. -/
theorem not_onlyGains :
    ¬ ∀ (unicode : Unicode) (sha256 : Str → Fin (2 ^ 256)) (tenantId conversationId
        extractorVersion : Str) (store : FactStore) (calls : List (Call Empty))
        (call : Call Empty),
      FactStore.empty unicode tenantId conversationId extractorVersion = .ok store →
      CollisionFree sha256 (store.identitiesOf unicode sha256 (calls ++ [call])) →
      ∀ (place : Nat) (fact next : Fact),
        (store.run unicode sha256 calls).facts[place]? = some fact →
        (store.run unicode sha256 (calls ++ [call])).facts[place]? = some next →
        next = fact ∨ (∃ id ∈ next.sourceMessageIds, id ∉ fact.sourceMessageIds) ∨
          next.status ≠ .active := by
  intro onlyGains
  have identities : emptyStore.identitiesOf plainTables shortDigest ([saidTwice] ++ [saidAgain]) =
      [cityIdentity 1, cityIdentity 2] := by
    decide +kernel
  have first : ((emptyStore.run plainTables shortDigest [saidTwice]).facts[0]?).map
      (·.sourceMessageIds) = some ["m".toList, "m".toList] := by
    decide +kernel
  have second :
      ((emptyStore.run plainTables shortDigest ([saidTwice] ++ [saidAgain])).facts[0]?).map
      (fun next => (next.sourceMessageIds, next.status)) = some (["m".toList], .active) := by
    decide +kernel
  obtain ⟨fact, isFact, ids⟩ := Option.map_eq_some_iff.mp first
  obtain ⟨next, isNext, pair⟩ := Option.map_eq_some_iff.mp second
  obtain ⟨nextIds, active⟩ := Prod.mk.inj pair
  rcases onlyGains plainTables shortDigest _ _ _ emptyStore [saidTwice] saidAgain
      built_emptyStore (by rw [identities]; exact collisionFree_cities) 0 fact next isFact
      isNext with same | ⟨id, gained, new⟩ | inactive
  · rw [same, ids] at nextIds
    revert nextIds
    decide
  · rw [nextIds] at gained
    rw [ids] at new
    exact new (List.mem_cons_of_mem _ gained)
  · exact inactive active

end Facts
end ChatPlatform
