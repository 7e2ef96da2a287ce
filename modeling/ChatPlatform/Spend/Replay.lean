import ChatPlatform.Foundation.JsonCanonical
import ChatPlatform.Foundation.Memo
import ChatPlatform.Spend.Billing

/-!
# Replaying completions

Clients that share a cache pay once for every call: a call is the same when its tenant, its
conversation, its kind and the body that would be sent are the same. What was answered once is
answered from the cache from then on, and a client that is offline answers exactly the calls that
were answered before.
-/

namespace ChatPlatform
namespace Spend

open Json Memo

variable {F : Type} [FloatOps F]

/-- A call of a client, and what the endpoint does with it. -/
structure Exchange (F : Type) where
  /-- The client. -/
  client : GenerationClient
  /-- The request. -/
  request : GenerationRequest F
  /-- What the client sees of every attempt. -/
  script : Nat → Seen F

/-- The body that is sent. -/
def Exchange.body (exchange : Exchange F) : Value F :=
  .dict (exchange.client.body exchange.request)

/-- What the key of a call is the digest of. -/
def Exchange.keyRecord (exchange : Exchange F) : Dict F :=
  [("schema".toList, .str cacheSchema),
    ("tenant_id".toList, .str exchange.request.tenantId),
    ("conversation_id".toList, .str exchange.request.conversationId),
    ("kind".toList, .str exchange.request.kind),
    ("body".toList, exchange.body)]

/-- The text whose digest the key is. -/
def Exchange.keyText (exchange : Exchange F) : Except EventLog.EventLogError Str :=
  EventLog.canonicalBytes (.dict exchange.keyRecord)

/-- Two calls are the same. -/
structure SameCall (one other : Exchange F) : Prop where
  /-- They are of one tenant. -/
  tenantId : one.request.tenantId = other.request.tenantId
  /-- They are of one conversation. -/
  conversationId : one.request.conversationId = other.request.conversationId
  /-- They are of one kind. -/
  kind : one.request.kind = other.request.kind
  /-- They would send one text. -/
  body : EventLog.canonicalBytes one.body = EventLog.canonicalBytes other.body

/-- An answer as the cache gives it. -/
def GenerationResult.again (answer : GenerationResult F) : GenerationResult F :=
  { answer with usage := answer.usage.filter fun usage => !usage.isEmpty, cached := true }

section Runs

variable (sha256 : Str → Fin (2 ^ 256)) (isClean : Str → Bool)

/-- What a call does. -/
def Exchange.completion (exchange : Exchange F) (world : World F) : Completion F :=
  exchange.client.complete sha256 isClean world exchange.request exchange.script

/-- What is left after some calls. -/
def worldLeft (world : World F) (exchanges : List (Exchange F)) : World F :=
  exchanges.foldl (fun world exchange => (exchange.completion sha256 isClean world).world) world

/-- The calls of a run are answered once by the endpoint. -/
structure PaidOnce (exchanges : List (Exchange F)) : Prop where
  /-- A call that was answered is answered from the cache, without an attempt. -/
  again : ∀ (before between after : List (Exchange F)) (first later : Exchange F)
      (answer : GenerationResult F),
    exchanges = before ++ first :: between ++ later :: after → SameCall first later →
      (first.completion sha256 isClean (worldLeft sha256 isClean {} before)).result = .ok answer →
        ∀ world, world = worldLeft sha256 isClean {} (before ++ first :: between) →
          later.completion sha256 isClean world =
            ⟨.ok answer.again, { world with cacheHits := world.cacheHits + 1 }, 0⟩
  /-- An answer of the cache is the one of the endpoint to the same call. -/
  origin : ∀ (before after : List (Exchange F)) (later : Exchange F)
      (answer : GenerationResult F),
    exchanges = before ++ later :: after →
      (later.completion sha256 isClean (worldLeft sha256 isClean {} before)).result = .ok answer →
        answer.cached = true →
          ∃ front first between live, before = front ++ first :: between ∧
            SameCall first later ∧
              (first.completion sha256 isClean (worldLeft sha256 isClean {} front)).result =
                .ok live ∧ live.cached = false ∧ answer = live.again

/-- What was answered in a run is answered offline, and nothing else is. -/
structure OfflineReplay
    (exchanges replay : List (Exchange F))
    (start : World F) : Prop where
  /-- A call that was answered is answered again, without an attempt. -/
  answered : ∀ (before after front back : List (Exchange F)) (first later : Exchange F)
      (answer : GenerationResult F),
    replay = before ++ later :: after → exchanges = front ++ first :: back →
      SameCall first later →
        (first.completion sha256 isClean (worldLeft sha256 isClean {} front)).result =
          .ok answer →
            let again := later.completion sha256 isClean (worldLeft sha256 isClean start before)
            again.result = .ok answer.again ∧ again.attempts = 0
  /-- A call that was not answered is missing. -/
  missing : ∀ (before after : List (Exchange F)) (later : Exchange F) (text : Str),
    replay = before ++ later :: after → later.keyText = .ok text →
      (∀ front first back answer, exchanges = front ++ first :: back → SameCall first later →
        (first.completion sha256 isClean (worldLeft sha256 isClean {} front)).result ≠
          .ok answer) →
            let again := later.completion sha256 isClean (worldLeft sha256 isClean start before)
            again.result = .error .offlineCacheMiss ∧ again.attempts = 0
  /-- A call that has no key raises what its key raises. -/
  unkeyed : ∀ (before after : List (Exchange F)) (later : Exchange F)
      (refusal : EventLog.EventLogError),
    replay = before ++ later :: after → later.keyText = .error refusal →
      let again := later.completion sha256 isClean (worldLeft sha256 isClean start before)
      again.result = .error (.log refusal) ∧ again.attempts = 0
  /-- Nothing is reserved, settled or remembered. -/
  unpaid : (worldLeft sha256 isClean start replay).ledger = start.ledger ∧
    (worldLeft sha256 isClean start replay).cache = start.cache ∧
      (worldLeft sha256 isClean start replay).calls = start.calls

end Runs

/-! ## Keys -/

/-- The dictionaries of a call have distinct keys. -/
def Exchange.WellKeyed (exchange : Exchange F) : Prop := wellKeyed exchange.body = true

omit [FloatOps F] in
/-- What a key is the digest of, in the order of its keys. -/
private theorem arrange_keyRecord (exchange : Exchange F) :
    arrange (.dict exchange.keyRecord) =
      .dict [("body".toList, arrange exchange.body),
        ("conversation_id".toList, .str exchange.request.conversationId),
        ("kind".toList, .str exchange.request.kind),
        ("schema".toList, .str cacheSchema),
        ("tenant_id".toList, .str exchange.request.tenantId)] := by
  rw [arrange_dict]
  rfl

/-- It has a text when the body has one. -/
private theorem finite_keyRecord (exchange : Exchange F) :
    finite (.dict exchange.keyRecord) = finite exchange.body := by
  unfold Exchange.keyRecord finite
  simp [everywhere, everywhereEntries]

/-- It is read back from its text when the body is. -/
private theorem readable_keyRecord
    {exchange : Exchange F}
    (keyed : exchange.WellKeyed)
    (isFinite : finite exchange.body = true) :
    readable (.dict exchange.keyRecord) = true := by
  have distinct : (exchange.keyRecord.map (·.1)).Nodup := by
    show ["schema".toList, "tenant_id".toList, "conversation_id".toList, "kind".toList,
      "body".toList].Nodup
    decide
  have body : readable exchange.body = true := by
    rw [readable_eq, isFinite, keyed]
    rfl
  unfold readable at body ⊢
  rw [everywhere, decide_eq_true distinct, Bool.true_and]
  simp [Exchange.keyRecord, everywhere, everywhereEntries, body]

/-- A text of a value is the canonical one, and the value is finite. -/
private theorem canonicalBytes_eq_ok
    {value : Value F}
    {text : Str}
    (written : EventLog.canonicalBytes value = .ok text) :
    finite value = true ∧ text = dumps ⟨true, false⟩ value := by
  unfold EventLog.canonicalBytes at written
  split at written
  · rename_i isFinite
    cases written
    exact ⟨isFinite, rfl⟩
  · cases written

/-- The texts of two keys agree exactly for the same calls. -/
theorem keyText_eq_iff
    [ReadableFloats F]
    {one other : Exchange F}
    (keyed : one.WellKeyed)
    (otherKeyed : other.WellKeyed)
    {text : Str}
    (written : one.keyText = .ok text) : other.keyText = .ok text ↔ SameCall one other := by
  obtain ⟨recordFinite, rfl⟩ := canonicalBytes_eq_ok written
  have isFinite : finite one.body = true := by rwa [finite_keyRecord] at recordFinite
  have isReadable := readable_keyRecord keyed isFinite
  have body : readable one.body = true := by
    rw [readable_eq, isFinite, keyed]
    rfl
  have bodyText : EventLog.canonicalBytes one.body = .ok (dumps ⟨true, false⟩ one.body) := by
    rw [EventLog.canonicalBytes, if_pos isFinite]
  constructor
  · intro otherWritten
    obtain ⟨otherRecordFinite, same⟩ := canonicalBytes_eq_ok otherWritten
    have otherFinite : finite other.body = true := by rwa [finite_keyRecord] at otherRecordFinite
    have arranged := arrange_eq_of_dumps_eq isReadable
      (readable_keyRecord otherKeyed otherFinite) same
    rw [arrange_keyRecord, arrange_keyRecord] at arranged
    simp only [Value.dict.injEq, List.cons.injEq, Prod.mk.injEq, Value.str.injEq, true_and,
      and_true] at arranged
    obtain ⟨bodies, conversationId, kind, tenantId⟩ := arranged
    refine ⟨tenantId, conversationId, kind, ?_⟩
    rw [bodyText, EventLog.canonicalBytes, if_pos otherFinite, dumps_arrange, dumps_arrange,
      bodies]
  · rintro ⟨tenantId, conversationId, kind, bodies⟩
    rw [bodyText] at bodies
    obtain ⟨otherFinite, same⟩ := canonicalBytes_eq_ok bodies.symm
    have otherBody : readable other.body = true := by
      rw [readable_eq, otherFinite, otherKeyed]
      rfl
    have arranged := arrange_eq_of_dumps_eq body otherBody same
    rw [Exchange.keyText, EventLog.canonicalBytes, finite_keyRecord, if_pos otherFinite,
      dumps_arrange, dumps_arrange, arrange_keyRecord, arrange_keyRecord, tenantId,
      conversationId, kind, arranged]

/-! ## One call -/

section Calls

variable {sha256 : Str → Fin (2 ^ 256)} {isClean : Str → Bool}

/-- What a call shows of what it does with the cache. -/
def Shows (sha256 : Str → Fin (2 ^ 256))
    (exchange : Exchange F)
    (world : World F)
    (completion : Completion F) : Event Str (CachedCompletion F) → Prop
  | .found key cached =>
      exchange.keyText.map (EventLog.sha256Hex sha256) = .ok key ∧
        completion = ⟨.ok ⟨cached.text, cached.usage, true, cached.model⟩,
          { world with cacheHits := world.cacheHits + 1 }, 0⟩
  | .paid key cached =>
      exchange.keyText.map (EventLog.sha256Hex sha256) = .ok key ∧
        ∃ usage, completion.result = .ok ⟨cached.text, usage, false, cached.model⟩ ∧
          cached.usage = usage.filter fun usage => !usage.isEmpty
  | .failed => ∃ raised, completion.result = .error raised

variable (sha256) in
/-- What settling a call does with the cache. -/
private theorem send_event
    (client : GenerationClient)
    (guard : SpendGuard)
    (world : World F)
    (script : Nat → Seen F)
    (key rendered : Str)
    (reservation : Reservation) :
    (∃ raised, (client.send sha256 guard world script key rendered reservation).result =
        .error raised ∧
      (client.send sha256 guard world script key rendered reservation).world.cache =
        world.cache) ∨
    ∃ cached usage,
      (client.send sha256 guard world script key rendered reservation).result =
        .ok ⟨cached.text, usage, false, cached.model⟩ ∧
      (client.send sha256 guard world script key rendered reservation).world.cache =
        Function.update world.cache key (some cached) ∧
      cached.usage = usage.filter fun usage => !usage.isEmpty := by
  unfold GenerationClient.send
  split
  · split
    · exact Or.inl ⟨_, rfl, rfl⟩
    · exact Or.inl ⟨_, rfl, rfl⟩
  · split
    · exact Or.inl ⟨_, rfl, rfl⟩
    · exact Or.inr ⟨_, _, rfl, rfl, rfl⟩

variable (sha256 isClean) in
/-- What a call does with the cache, and how it shows. -/
theorem exists_event (exchange : Exchange F) (world : World F) :
    ∃ event, Takes world.cache event
        (exchange.completion sha256 isClean world).world.cache ∧
      Shows sha256 exchange world (exchange.completion sha256 isClean world) event := by
  have isKey : exchange.client.key sha256 exchange.request =
      exchange.keyText.map (EventLog.sha256Hex sha256) := rfl
  unfold Exchange.completion GenerationClient.complete
  rw [isKey]
  split
  · exact ⟨.failed, rfl, _, rfl⟩
  · rename_i key written
    split
    · rename_i cached held
      exact ⟨.found key cached, ⟨held, rfl⟩, written, rfl⟩
    · rename_i missing
      split
      · exact ⟨.failed, rfl, _, rfl⟩
      · split
        · exact ⟨.failed, rfl, _, rfl⟩
        · split
          · exact ⟨.failed, rfl, _, rfl⟩
          · split
            · exact ⟨.failed, rfl, _, rfl⟩
            · split
              · exact ⟨.failed, rfl, _, rfl⟩
              · split
                · exact ⟨.failed, rfl, _, rfl⟩
                · rename_i guard _ _ _ reservation ledger _
                  obtain ⟨raised, result, cache⟩ | ⟨cached, usage, result, cache, reported⟩ :=
                    send_event sha256 exchange.client guard
                      { world with ledger := ledger } exchange.script key _ reservation
                  · exact ⟨.failed, cache, raised, result⟩
                  · exact ⟨.paid key cached, ⟨missing, cache⟩, written, usage, result, reported⟩

/-- A call whose key is held is answered from the cache. -/
theorem completion_of_held
    {exchange : Exchange F}
    {world : World F}
    {key : Str}
    {cached : CachedCompletion F}
    (written : exchange.keyText.map (EventLog.sha256Hex sha256) = .ok key)
    (held : world.cache key = some cached) :
    exchange.completion sha256 isClean world =
      ⟨.ok ⟨cached.text, cached.usage, true, cached.model⟩,
        { world with cacheHits := world.cacheHits + 1 }, 0⟩ := by
  have isKey : exchange.client.key sha256 exchange.request = .ok key := written
  unfold Exchange.completion GenerationClient.complete
  rw [isKey]
  dsimp only
  rw [held]

/-! ## Runs -/

variable (sha256 isClean) in
/-- What a run does with the cache, call by call. -/
theorem exists_events (world : World F) (exchanges : List (Exchange F)) :
    ∃ events, Runs world.cache events (worldLeft sha256 isClean world exchanges).cache ∧
      ∀ event ∈ events, ∃ before exchange after,
        exchanges = before ++ exchange :: after ∧
          Shows sha256 exchange (worldLeft sha256 isClean world before)
            (exchange.completion sha256 isClean (worldLeft sha256 isClean world before))
            event := by
  induction exchanges using List.reverseRecOn with
  | nil => exact ⟨[], rfl, nofun⟩
  | append_singleton before exchange inductionHypothesis =>
      obtain ⟨events, runs, shown⟩ := inductionHypothesis
      obtain ⟨event, takes, shows⟩ := exists_event sha256 isClean
        exchange (worldLeft sha256 isClean world before)
      refine ⟨events ++ [event], runs_append.mpr ⟨_, runs, _, takes, ?_⟩, ?_⟩
      · unfold worldLeft
        rw [List.foldl_append]
        rfl
      · intro held isHeld
        rcases List.mem_append.mp isHeld with earlier | last
        · obtain ⟨front, first, after, rfl, isShown⟩ := shown held earlier
          exact ⟨front, first, after ++ [exchange], by simp, isShown⟩
        · obtain rfl := List.mem_singleton.mp last
          exact ⟨before, exchange, [], rfl, shows⟩

variable (sha256 isClean) in
/-- What is in the cache stays there. -/
theorem cache_worldLeft
    {world : World F}
    {key : Str}
    {cached : CachedCompletion F}
    (held : world.cache key = some cached)
    (exchanges : List (Exchange F)) :
    (worldLeft sha256 isClean world exchanges).cache key = some cached := by
  obtain ⟨events, runs, -⟩ := exists_events sha256 isClean world exchanges
  exact runs.keeps held

/-- The answer of a call is in the cache afterwards. -/
theorem exists_cached
    {exchange : Exchange F}
    {world : World F}
    {answer : GenerationResult F}
    (answered : (exchange.completion sha256 isClean world).result = .ok answer) :
    ∃ key cached, exchange.keyText.map (EventLog.sha256Hex sha256) = .ok key ∧
      (exchange.completion sha256 isClean world).world.cache key = some cached ∧
        cached.text = answer.text ∧ cached.model = answer.model ∧
          (answer.cached = true → cached.usage = answer.usage) ∧
            (answer.cached = false →
              cached.usage = answer.usage.filter fun usage => !usage.isEmpty) := by
  obtain ⟨event, takes, shows⟩ := exists_event sha256 isClean
    exchange world
  cases event with
  | found key cached =>
      obtain ⟨written, same⟩ := shows
      have held := takes.remembers rfl
      rw [same] at answered
      cases answered
      exact ⟨key, cached, written, held, rfl, rfl, fun _ => rfl, nofun⟩
  | paid key cached =>
      obtain ⟨written, usage, result, reported⟩ := shows
      have held := takes.remembers rfl
      rw [result] at answered
      cases answered
      exact ⟨key, cached, written, held, rfl, rfl, nofun, fun _ => reported⟩
  | failed =>
      obtain ⟨raised, result⟩ := shows
      rw [result] at answered
      cases answered

/-- What is in the cache after a run is what an endpoint answered in it. -/
theorem exists_paid
    {exchanges : List (Exchange F)}
    {key : Str}
    {cached : CachedCompletion F}
    (held : (worldLeft sha256 isClean {} exchanges).cache key = some cached) :
    ∃ before exchange after live, exchanges = before ++ exchange :: after ∧
      exchange.keyText.map (EventLog.sha256Hex sha256) = .ok key ∧
        (exchange.completion sha256 isClean (worldLeft sha256 isClean {} before)).result =
          .ok live ∧ live.cached = false ∧
            live.again = ⟨cached.text, cached.usage, true, cached.model⟩ := by
  obtain ⟨events, runs, shown⟩ := exists_events sha256 isClean {} exchanges
  obtain ⟨event, isEvent, paid⟩ := runs.held_iff.mp held
  cases event with
  | found | failed => cases paid
  | paid paidKey paidValue =>
      cases paid
      obtain ⟨before, exchange, after, same, written, usage, result, reported⟩ := shown _ isEvent
      exact ⟨before, exchange, after, _, same, written, result, rfl,
        by rw [GenerationResult.again, reported]⟩

/-- An answer that is in the cache is its own repetition. -/
theorem again_of_held
    {exchanges : List (Exchange F)}
    {key : Str}
    {cached : CachedCompletion F}
    (held : (worldLeft sha256 isClean {} exchanges).cache key = some cached) :
    (GenerationResult.mk cached.text cached.usage true cached.model).again =
      ⟨cached.text, cached.usage, true, cached.model⟩ := by
  obtain ⟨-, -, -, live, -, -, -, -, same⟩ := exists_paid held
  rw [← same]
  simp [GenerationResult.again, Option.filter_filter]

/-- The answer of a call of a run is in the cache afterwards, as it is given again. -/
theorem exists_again
    {before : List (Exchange F)}
    {first : Exchange F}
    {answer : GenerationResult F}
    (answered : (first.completion sha256 isClean (worldLeft sha256 isClean {} before)).result =
      .ok answer) :
    ∃ key cached, first.keyText.map (EventLog.sha256Hex sha256) = .ok key ∧
      (worldLeft sha256 isClean {} (before ++ [first])).cache key = some cached ∧
        answer.again = ⟨cached.text, cached.usage, true, cached.model⟩ := by
  have last : worldLeft sha256 isClean {} (before ++ [first]) =
      (first.completion sha256 isClean (worldLeft sha256 isClean {} before)).world := by
    unfold worldLeft
    rw [List.foldl_append]
    rfl
  obtain ⟨key, cached, written, held, isText, isModel, fromCache, live⟩ := exists_cached answered
  rw [← last] at held
  refine ⟨key, cached, written, held, ?_⟩
  cases isCached : answer.cached with
  | false =>
      rw [GenerationResult.again, live isCached, isText, isModel]
  | true =>
      rw [← again_of_held held, isText, isModel, fromCache isCached]
      rfl

/-- Calls of a run have one key exactly when they are the same, without a collision. -/
theorem sameCall_of_key
    [ReadableFloats F]
    {calls : List (Exchange F)}
    (keyed : ∀ exchange ∈ calls, exchange.WellKeyed)
    (noCollision : Set.InjOn sha256 {text | ∃ exchange ∈ calls, exchange.keyText = .ok text})
    {one other : Exchange F}
    (isCall : one ∈ calls)
    (isOther : other ∈ calls)
    {key : Str}
    (written : one.keyText.map (EventLog.sha256Hex sha256) = .ok key)
    (otherWritten : other.keyText.map (EventLog.sha256Hex sha256) = .ok key) :
    SameCall one other := by
  cases isText : one.keyText with
  | error refusal =>
      rw [isText] at written
      cases written
  | ok text =>
      cases otherText : other.keyText with
      | error refusal =>
          rw [otherText] at otherWritten
          cases otherWritten
      | ok writtenText =>
          rw [isText] at written
          rw [otherText] at otherWritten
          obtain rfl : EventLog.sha256Hex sha256 text = key := Except.ok.inj written
          have digests : sha256 writtenText = sha256 text :=
            Fin.ext (Numeral.hexText_injective (sha256 _).isLt (sha256 _).isLt (by decide)
              (Except.ok.inj otherWritten))
          have same := noCollision ⟨other, isOther, otherText⟩ ⟨one, isCall, isText⟩ digests
          exact (keyText_eq_iff (keyed one isCall) (keyed other isOther) isText).mp
            (same ▸ otherText)

/-- The same calls have one key. -/
theorem key_of_sameCall
    [ReadableFloats F]
    {one other : Exchange F}
    (keyed : one.WellKeyed)
    (otherKeyed : other.WellKeyed)
    (same : SameCall one other)
    {key : Str}
    (written : one.keyText.map (EventLog.sha256Hex sha256) = .ok key) :
    other.keyText.map (EventLog.sha256Hex sha256) = .ok key := by
  cases isText : one.keyText with
  | error refusal =>
      rw [isText] at written
      cases written
  | ok text =>
      rw [(keyText_eq_iff keyed otherKeyed isText).mpr same, ← isText]
      exact written

/-- Every call of a run is paid for once. -/
theorem paidOnce
    [ReadableFloats F]
    {exchanges : List (Exchange F)}
    (keyed : ∀ exchange ∈ exchanges, exchange.WellKeyed)
    (noCollision : Set.InjOn sha256
      {text | ∃ exchange ∈ exchanges, exchange.keyText = .ok text}) :
    PaidOnce sha256 isClean exchanges where
  again := by
    rintro before between after first later answer rfl same answered world rfl
    obtain ⟨key, cached, written, held, again⟩ := exists_again answered
    have stays := cache_worldLeft sha256 isClean held between
    have joined : worldLeft sha256 isClean (worldLeft sha256 isClean {} (before ++ [first]))
        between = worldLeft sha256 isClean {} (before ++ first :: between) := by
      simp [worldLeft]
    rw [joined] at stays
    rw [again]
    exact completion_of_held (key_of_sameCall (keyed first (by simp)) (keyed later (by simp)) same
      written) stays
  origin := by
    rintro before after later answer rfl answered isCached
    obtain ⟨event, takes, shows⟩ := exists_event sha256 isClean later
      (worldLeft sha256 isClean {} before)
    cases event with
    | failed =>
        obtain ⟨raised, result⟩ := shows
        rw [result] at answered
        cases answered
    | paid key cached =>
        obtain ⟨-, usage, result, -⟩ := shows
        rw [result] at answered
        cases answered
        cases isCached
    | found key cached =>
        obtain ⟨written, same⟩ := shows
        rw [same] at answered
        cases answered
        obtain ⟨front, first, between, live, rfl, firstWritten, result, isLive, again⟩ :=
          exists_paid takes.1
        exact ⟨front, first, between, live, rfl,
          sameCall_of_key keyed noCollision (by simp) (by simp) firstWritten written, result,
          isLive, again.symm⟩

/-! ## Offline -/

variable (sha256 isClean) in
/-- A client that is offline pays for nothing. -/
theorem completion_offline
    {exchange : Exchange F}
    (isOffline : exchange.client.offline = true)
    (world : World F) :
    let completion := exchange.completion sha256 isClean world
    completion.attempts = 0 ∧ completion.world.ledger = world.ledger ∧
      completion.world.cache = world.cache ∧ completion.world.calls = world.calls := by
  unfold Exchange.completion GenerationClient.complete
  split
  · exact ⟨rfl, rfl, rfl, rfl⟩
  · split
    · exact ⟨rfl, rfl, rfl, rfl⟩
    · rw [isOffline, if_pos rfl]
      exact ⟨rfl, rfl, rfl, rfl⟩

/-- It misses a call whose key is not held. -/
theorem completion_missing
    {exchange : Exchange F}
    (isOffline : exchange.client.offline = true)
    {world : World F}
    {key : Str}
    (written : exchange.keyText.map (EventLog.sha256Hex sha256) = .ok key)
    (missing : world.cache key = none) :
    exchange.completion sha256 isClean world = ⟨.error .offlineCacheMiss, world, 0⟩ := by
  have isKey : exchange.client.key sha256 exchange.request = .ok key := written
  unfold Exchange.completion GenerationClient.complete
  rw [isKey]
  dsimp only
  rw [missing]
  dsimp only
  rw [isOffline, if_pos rfl]

variable (sha256 isClean) in
/-- Clients that are offline leave the cache and the ledger alone. -/
theorem worldLeft_offline
    {replay : List (Exchange F)}
    (areOffline : ∀ exchange ∈ replay, exchange.client.offline = true)
    (start : World F) :
    (worldLeft sha256 isClean start replay).ledger = start.ledger ∧
      (worldLeft sha256 isClean start replay).cache = start.cache ∧
        (worldLeft sha256 isClean start replay).calls = start.calls := by
  induction replay generalizing start with
  | nil => exact ⟨rfl, rfl, rfl⟩
  | cons exchange rest inductionHypothesis =>
      obtain ⟨isOffline, areOffline⟩ := List.forall_mem_cons.mp areOffline
      obtain ⟨-, ledger, cache, calls⟩ := completion_offline sha256 isClean isOffline start
      obtain ⟨laterLedger, laterCache, laterCalls⟩ := inductionHypothesis areOffline
        (exchange.completion sha256 isClean start).world
      exact ⟨laterLedger.trans ledger, laterCache.trans cache, laterCalls.trans calls⟩

/-- A run is replayed offline: what was answered is answered, and nothing else is. -/
theorem offlineReplay
    [ReadableFloats F]
    {exchanges replay : List (Exchange F)}
    (keyed : ∀ exchange ∈ exchanges ++ replay, exchange.WellKeyed)
    (noCollision : Set.InjOn sha256
      {text | ∃ exchange ∈ exchanges ++ replay, exchange.keyText = .ok text})
    (areOffline : ∀ exchange ∈ replay, exchange.client.offline = true)
    {start : World F}
    (isLeft : start.cache = (worldLeft sha256 isClean {} exchanges).cache) :
    OfflineReplay sha256 isClean exchanges replay start where
  answered := by
    rintro before after front back first later answer rfl rfl same answered
    obtain ⟨key, cached, written, held, again⟩ := exists_again answered
    have stays := cache_worldLeft sha256 isClean held back
    have joined : worldLeft sha256 isClean (worldLeft sha256 isClean {} (front ++ [first]))
        back = worldLeft sha256 isClean {} (front ++ first :: back) := by
      simp [worldLeft]
    have unchanged := (worldLeft_offline sha256 isClean
      (fun exchange isEarlier => areOffline exchange (List.mem_append_left _ isEarlier))
      start).2.1
    rw [joined, ← isLeft, ← unchanged] at stays
    rw [completion_of_held (key_of_sameCall (keyed first (by simp)) (keyed later (by simp)) same
      written) stays, again]
    exact ⟨rfl, rfl⟩
  missing := by
    rintro before after later text rfl isText unanswered
    have written : later.keyText.map (EventLog.sha256Hex sha256) =
        .ok (EventLog.sha256Hex sha256 text) := by
      rw [isText]
      rfl
    have unchanged := (worldLeft_offline sha256 isClean
      (fun exchange isEarlier => areOffline exchange (List.mem_append_left _ isEarlier))
      start).2.1
    have missing : (worldLeft sha256 isClean start before).cache
        (EventLog.sha256Hex sha256 text) = none := by
      rw [unchanged, isLeft, Option.eq_none_iff_forall_not_mem]
      intro cached held
      obtain ⟨front, first, back, live, rfl, firstWritten, result, -, -⟩ := exists_paid held
      exact unanswered front first back live rfl
        (sameCall_of_key keyed noCollision (by simp) (by simp) firstWritten written) result
    rw [completion_missing (areOffline later (by simp)) written missing]
    exact ⟨rfl, rfl⟩
  unkeyed := by
    rintro before after later refusal rfl unwritten
    have isKey : later.client.key sha256 later.request = .error refusal :=
      congrArg (Except.map (EventLog.sha256Hex sha256)) unwritten
    dsimp only
    unfold Exchange.completion GenerationClient.complete
    rw [isKey]
    exact ⟨rfl, rfl⟩
  unpaid := worldLeft_offline sha256 isClean areOffline start

end Calls

/-! ## Two tenants -/

/-- A short request of a tenant. -/
def asked (tenantId : Str) : Exchange Empty :=
  ⟨smallClient, { shortRequest with tenantId }, timedOut.seen⟩

/-- The same request to a client that is offline. -/
def askedOffline (tenantId : Str) : Exchange Empty :=
  ⟨{ smallClient with guard := none, apiKey := none, offline := true },
    { shortRequest with tenantId }, timedOut.seen⟩

/-- A digest that tells texts of different lengths apart. -/
def lengthDigest (text : Str) : Fin (2 ^ 256) := Fin.ofNat (2 ^ 256) text.length

/-- The lengths of the texts of the two keys. -/
private theorem length_keyText_asked {text : Str} :
    ((asked "t".toList).keyText = .ok text → text.length = 203) ∧
      ((asked "tenant".toList).keyText = .ok text → text.length = 208) := by
  have lengths : (asked "t".toList).keyText.map List.length = .ok 203 ∧
      (asked "tenant".toList).keyText.map List.length = .ok 208 := by
    decide +kernel
  refine ⟨fun written => ?_, fun written => ?_⟩
  · rw [written] at lengths
    exact Except.ok.inj lengths.1
  · rw [written] at lengths
    exact Except.ok.inj lengths.2

/-- The requests of the two tenants have different digests. -/
private theorem noCollision_asked {calls : List (Exchange Empty)}
    (areAsked : ∀ exchange ∈ calls, exchange.keyText = (asked "t".toList).keyText ∨
      exchange.keyText = (asked "tenant".toList).keyText) :
    Set.InjOn lengthDigest {text | ∃ exchange ∈ calls, exchange.keyText = .ok text} := by
  rintro text ⟨exchange, held, written⟩ other ⟨otherExchange, otherHeld, otherWritten⟩ digests
  have differ : Fin.ofNat (2 ^ 256) 203 ≠ Fin.ofNat (2 ^ 256) 208 := by decide
  unfold lengthDigest at digests
  rcases areAsked exchange held with isShort | isLong <;>
    rcases areAsked otherExchange otherHeld with otherShort | otherLong
  · rw [otherShort, ← isShort, written] at otherWritten
    exact Except.ok.inj otherWritten
  · rw [length_keyText_asked.1 (isShort ▸ written),
      length_keyText_asked.2 (otherLong ▸ otherWritten)] at digests
    exact absurd digests differ
  · rw [length_keyText_asked.2 (isLong ▸ written),
      length_keyText_asked.1 (otherShort ▸ otherWritten)] at digests
    exact absurd digests.symm differ
  · rw [otherLong, ← isLong, written] at otherWritten
    exact Except.ok.inj otherWritten

/-- Two tenants ask the same, and one of them asks again. -/
theorem paidOnce_asked :
    PaidOnce lengthDigest (fun _ => true)
      [asked "t".toList, asked "tenant".toList, asked "t".toList] := by
  refine paidOnce ?_ (noCollision_asked ?_)
  · simp only [List.forall_mem_cons]
    exact ⟨rfl, rfl, rfl, nofun⟩
  · simp

/-- One of them is answered offline. -/
theorem offlineReplay_asked :
    OfflineReplay lengthDigest (fun _ => true) [asked "t".toList]
      [askedOffline "tenant".toList, askedOffline "t".toList]
      (worldLeft lengthDigest (fun _ => true) {} [asked "t".toList]) := by
  have texts (tenantId : Str) : (askedOffline tenantId).keyText = (asked tenantId).keyText := rfl
  refine offlineReplay ?_ (noCollision_asked ?_) ?_ rfl
  · simp only [List.cons_append, List.nil_append, List.forall_mem_cons]
    exact ⟨rfl, rfl, rfl, nofun⟩
  · simp [texts]
  · simp [askedOffline]

end Spend
end ChatPlatform
