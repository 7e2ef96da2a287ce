import ChatPlatform.Cache.System
import Mathlib.Algebra.Order.Field.Rat

/-!
# When a cached answer is the right one

A request is served the last answer kept under its key. The key determines the tenant,
the messages and the settings it covers, and neither request had metadata. The answer
therefore comes from the providers that the request selects exactly when the two
deployments agree on what the key does not cover.
-/

namespace ChatPlatform
namespace Cache

variable {F K : Type}

/-- A request is served what was produced for it: for the same tenant and the same
messages, without metadata, by the providers its settings select, and unchanged. -/
structure Sound
    (origin : Origin F)
    (flight : Flight F)
    (served : ChatService.ChatServiceResult) : Prop where
  /-- The tenants are the same. -/
  sameTenant : origin.flight.tenantId = flight.tenantId
  /-- The messages are the same. -/
  sameMessages : origin.flight.input.messages = flight.input.messages
  /-- Neither request has metadata. -/
  noMetadata : origin.flight.input.metadata = none ∧ flight.input.metadata = none
  /-- The answer was produced by the providers that the request selects. -/
  sameChain : origin.chain = flight.selectedChain
  /-- The text is served as it was produced. -/
  content : served.assistantMessage = ⟨.assistant, origin.result.assistantMessage.content⟩
  /-- So is the name of the provider. -/
  provider : served.providerResult.provider = origin.result.providerResult.provider
  /-- So is the model. -/
  modelVersion :
    served.providerResult.modelVersion = origin.result.providerResult.modelVersion
  /-- So is the prompt version. -/
  promptVersion :
    served.providerResult.promptVersion = origin.result.providerResult.promptVersion
  /-- So are the tokens read. -/
  inputTokens :
    served.providerResult.inputTokens = origin.result.providerResult.inputTokens
  /-- So are the tokens written. -/
  outputTokens :
    served.providerResult.outputTokens = origin.result.providerResult.outputTokens
  /-- So is their sum. -/
  totalTokens :
    served.providerResult.totalTokens = origin.result.providerResult.totalTokens

/-! ## The last answer kept under a key -/

/-- What an event makes of the last answer kept under a key. -/
theorem lastKept_append
    (key : Str)
    (history : List (Action × Observation F))
    (action : Action)
    (observation : Observation F) :
    lastKept key (history ++ [(action, observation)]) =
      match observation with
      | .kept changed origin =>
          if changed = key then some origin else lastKept key history
      | .expired changed => if changed = key then none else lastKept key history
      | _ => lastKept key history := by
  unfold lastKept
  rw [List.foldl_append]
  rfl

/-- The last answer kept under a key was kept. -/
theorem mem_of_lastKept
    {key : Str}
    {history : List (Action × Observation F)}
    {origin : Origin F}
    (isLast : lastKept key history = some origin) :
    ∃ action, (action, .kept key origin) ∈ history := by
  induction history using List.reverseRecOn with
  | nil => cases isLast
  | append_singleton history event inductionHypothesis =>
      obtain ⟨action, observation⟩ := event
      have earlier : lastKept key history = some origin →
          ∃ action', (action', .kept key origin) ∈ history ++ [(action, observation)] := by
        intro isEarlier
        obtain ⟨action', present⟩ := inductionHypothesis isEarlier
        exact ⟨action', List.mem_append_left _ present⟩
      rw [lastKept_append] at isLast
      cases observation with
      | silent => exact earlier isLast
      | hit key' flight served => exact earlier isLast
      | expired changed =>
          dsimp only at isLast
          split at isLast
          · cases isLast
          · exact earlier isLast
      | kept changed origin' =>
          dsimp only at isLast
          split at isLast
          · rename_i same
            cases isLast
            rw [same]
            exact ⟨action, List.mem_append_right _ (List.mem_singleton_self _)⟩
          · exact earlier isLast

/-! ## What holds in every run -/

/-- A request of a run: without metadata when it uses the cache, and answered by the
providers it selects. -/
structure Flight.WellFormed (flight : Flight F) : Prop where
  /-- A request that uses the cache has no metadata. -/
  noMetadata : flight.bypasses = false → flight.input.metadata = none
  /-- An answer that is to be kept was produced by the selected providers. -/
  answered : ∀ chain result, flight.phase = .answered chain result →
    flight.bypasses = false ∧ chain = flight.selectedChain

/-- Two requests that use the cache under the same key have the same providers exactly
when their deployments agree on what the key does not cover. -/
private theorem selectedChain_eq_iff
    {flight flight' : Flight F}
    (uses : flight.bypasses = false)
    (uses' : flight'.bypasses = false)
    (sameSettings : flight.configuration.providers.cacheSettings =
      flight'.configuration.providers.cacheSettings)
    (sameMessages : flight.input.messages = flight'.input.messages) :
    flight.selectedChain = flight'.selectedChain ↔
      Routing.SameSelection flight.configuration.providers
        flight'.configuration.providers flight'.input.messages := by
  unfold Flight.bypasses at uses uses'
  unfold Flight.selectedChain
  rw [(Bool.or_eq_false_iff.mp uses).1, (Bool.or_eq_false_iff.mp uses').1, sameMessages]
  exact Routing.selectedChain_eq_iff sameSettings flight'.input.messages

/-- A request that is to call the providers stays well formed. -/
private theorem Flight.WellFormed.miss
    {flight : Flight F}
    (wellFormed : flight.WellFormed) :
    Flight.WellFormed { flight with phase := .missed } where
  noMetadata := wellFormed.noMetadata
  answered := by
    intro chain result isAnswered
    cases isAnswered

/-- A request that uses the cache stays well formed when the selected providers
answer. -/
private theorem Flight.WellFormed.answer
    {flight : Flight F}
    (wellFormed : flight.WellFormed)
    (uses : flight.bypasses = false)
    (result : ChatService.ChatServiceResult) :
    Flight.WellFormed
      { flight with phase := .answered flight.selectedChain result } where
  noMetadata := wellFormed.noMetadata
  answered := by
    intro chain result' isAnswered
    cases isAnswered
    exact ⟨uses, rfl⟩

/-- What has been observed so far describes the store. -/
structure Recorded
    (sha256 : Str → Fin (2 ^ 256))
    (history : List (Action × Observation F))
    (state : State F) : Prop where
  /-- Under each key the store holds the last answer kept there. -/
  stored : ∀ key, state.cache key =
    (lastKept key history).map fun origin => .payload (ResponseCache.encode origin.result)
  /-- Every answer was kept under the key of its request. -/
  kept : ∀ action key origin, (action, .kept key origin) ∈ history →
    key = origin.flight.cacheKey sha256 ∧ origin.flight.bypasses = false ∧
      origin.flight.input.metadata = none ∧ origin.chain = origin.flight.selectedChain
  /-- The requests in flight are well formed. -/
  flights : ∀ number flight, state.flights number = some flight → flight.WellFormed

/-- At first nothing is stored. -/
theorem recorded_empty (sha256 : Str → Fin (2 ^ 256)) :
    Recorded (F := F) sha256 [] {} where
  stored := fun _ => rfl
  kept := fun _ _ _ present => absurd present List.not_mem_nil
  flights := fun _ _ present => nomatch present

section Steps

variable {sha256 : Str → Fin (2 ^ 256)}
  {history : List (Action × Observation F)}
  {state : State F}

/-- A request changed. -/
theorem Recorded.setFlight
    (recorded : Recorded sha256 history state)
    (number : Nat)
    {flight : Option (Flight F)}
    (wellFormed : ∀ changed, flight = some changed → changed.WellFormed) :
    Recorded sha256 history (state.setFlight number flight) where
  stored := recorded.stored
  kept := recorded.kept
  flights := by
    intro number' flight' present
    dsimp only [State.setFlight] at present
    rcases eq_or_ne number' number with rfl | other
    · rw [Function.update_self] at present
      exact wellFormed flight' present
    · rw [Function.update_of_ne other] at present
      exact recorded.flights number' flight' present

/-- A request ended. -/
theorem Recorded.endFlight
    (recorded : Recorded sha256 history state)
    (number : Nat) : Recorded sha256 history (state.setFlight number none) := by
  apply recorded.setFlight number
  intro changed present
  cases present

/-- Nothing was stored. -/
theorem Recorded.observe
    (recorded : Recorded sha256 history state)
    (action : Action)
    {observation : Observation F}
    (notKept : ∀ key origin, observation ≠ .kept key origin)
    (notExpired : ∀ key, observation ≠ .expired key) :
    Recorded sha256 (history ++ [(action, observation)]) state where
  stored := by
    intro key
    have same : lastKept key (history ++ [(action, observation)]) =
        lastKept key history := by
      rw [lastKept_append]
      cases observation with
      | silent => rfl
      | hit key' flight served => rfl
      | kept key' origin => exact absurd rfl (notKept key' origin)
      | expired key' => exact absurd rfl (notExpired key')
    rw [same]
    exact recorded.stored key
  kept := by
    intro action' key origin present
    rcases List.mem_append.mp present with earlier | last
    · exact recorded.kept action' key origin earlier
    · rw [List.mem_singleton, Prod.mk.injEq] at last
      exact absurd last.2.symm (notKept key origin)
  flights := recorded.flights

/-- An answer was kept. -/
theorem Recorded.keep
    (recorded : Recorded sha256 history state)
    (action : Action)
    {origin : Origin F}
    (uses : origin.flight.bypasses = false)
    (noMetadata : origin.flight.input.metadata = none)
    (selected : origin.chain = origin.flight.selectedChain) :
    Recorded sha256
      (history ++ [(action, .kept (origin.flight.cacheKey sha256) origin)])
      (state.store (origin.flight.cacheKey sha256)
        (some (.payload (ResponseCache.encode origin.result)))) where
  stored := by
    intro key
    rw [lastKept_append]
    dsimp only [State.store]
    rcases eq_or_ne key (origin.flight.cacheKey sha256) with rfl | other
    · rw [Function.update_self, if_pos rfl]
      rfl
    · rw [Function.update_of_ne other, if_neg (Ne.symm other)]
      exact recorded.stored key
  kept := by
    intro action' key origin' present
    rcases List.mem_append.mp present with earlier | last
    · exact recorded.kept action' key origin' earlier
    · rw [List.mem_singleton, Prod.mk.injEq] at last
      cases last.2
      exact ⟨rfl, uses, noMetadata, selected⟩
  flights := recorded.flights

/-- An entry expired. -/
theorem Recorded.expire
    (recorded : Recorded sha256 history state)
    (action : Action)
    (key : Str) :
    Recorded sha256 (history ++ [(action, .expired key)]) (state.store key none) where
  stored := by
    intro key'
    rw [lastKept_append]
    dsimp only [State.store]
    rcases eq_or_ne key' key with rfl | other
    · rw [Function.update_self, if_pos rfl]
      rfl
    · rw [Function.update_of_ne other, if_neg (Ne.symm other)]
      exact recorded.stored key'
  kept := by
    intro action' key' origin present
    rcases List.mem_append.mp present with earlier | last
    · exact recorded.kept action' key' origin earlier
    · rw [List.mem_singleton, Prod.mk.injEq] at last
      cases last.2
  flights := recorded.flights

variable [FloatOps F] [Field K] [LinearOrder K]

/-- The cache is consulted when both channels of metadata are off only. -/
private theorem channelsOff
    {settings : ChatSettings}
    (noBypass : cacheBypassReason settings = none) :
    settings.chatRagAugmentationEnabled = false ∧ settings.ebm25Enabled = false := by
  unfold cacheBypassReason at noBypass
  split_ifs at noBypass with documents evidence
  exact ⟨Bool.eq_false_iff.mpr documents, Bool.eq_false_iff.mpr evidence⟩

/-- A request is well formed when it arrives. -/
theorem arrived_wellFormed
    (lexicon : Bm25.Lexicon K)
    (configuration : Configuration)
    (tenantId : Str)
    (requestId : Uuid)
    (request : ChatRequest)
    (read : Except HistoryFault Database)
    (rag : RagGenerationContext) :
    (arrived (F := F) lexicon configuration tenantId requestId request read
      rag).WellFormed where
  noMetadata := by
    intro uses
    unfold Flight.bypasses at uses
    rw [Bool.or_eq_false_iff, Option.isSome_eq_false_iff, Option.isNone_iff_eq_none] at uses
    obtain ⟨noDocuments, noEvidence⟩ := channelsOff uses.2
    exact preparedInput_noMetadata F
      (getChatMemoryContext_noEvidence noEvidence lexicon request tenantId read)
      noDocuments requestId request rag
  answered := by
    intro chain result isAnswered
    cases isAnswered

/-- Every step of a deployment is recorded. -/
theorem step_recorded
    {lexicon : Bm25.Lexicon K}
    {action : Action}
    {after : State F}
    {observation : Observation F}
    (recorded : Recorded sha256 history state)
    (moves : step F lexicon sha256 state action = some (after, observation)) :
    Recorded sha256 (history ++ [(action, observation)]) after := by
  have silent : ∀ {later : State F}, Recorded sha256 history later →
      Recorded sha256 (history ++ [(action, .silent)]) later := by
    intro later described
    apply described.observe action
    · intro key origin same
      cases same
    · intro key same
      cases same
  cases action with
  | arrive number configuration tenantId requestId request read rag =>
      simp only [step] at moves
      split at moves
      · cases moves
      · cases moves
        apply silent
        apply recorded.setFlight number
        rintro changed ⟨⟩
        exact arrived_wellFormed lexicon configuration tenantId requestId request read rag
  | consult number reachable =>
      simp only [step] at moves
      split at moves
      · rename_i flight inFlight
        have missed : Recorded sha256 history
            (state.setFlight number (some { flight with phase := .missed })) := by
          apply recorded.setFlight number
          rintro changed ⟨⟩
          exact (recorded.flights number flight inFlight).miss
        split at moves
        · split at moves
          · cases moves
            exact silent missed
          · split at moves
            · cases moves
              exact silent missed
            · cases moves
              apply (recorded.endFlight number).observe
              · intro key origin same
                cases same
              · intro key same
                cases same
        · cases moves
      · cases moves
  | generate number result =>
      simp only [step] at moves
      split at moves
      · rename_i flight inFlight
        split at moves
        · split at moves
          · cases moves
            exact silent (recorded.endFlight number)
          · rename_i uses
            cases moves
            apply silent
            apply recorded.setFlight number
            rintro changed ⟨⟩
            exact (recorded.flights number flight inFlight).answer
              (Bool.eq_false_iff.mpr uses) result
        · cases moves
      · cases moves
  | keep number reachable =>
      simp only [step] at moves
      split at moves
      · rename_i flight inFlight
        split at moves
        · rename_i chain result isAnswered
          have wellFormed := recorded.flights number flight inFlight
          obtain ⟨uses, selected⟩ := wellFormed.answered chain result isAnswered
          split at moves
          · cases moves
            let origin : Origin F := ⟨flight, chain, result⟩
            exact @Recorded.keep F sha256 history _ (recorded.endFlight number) _ origin
              uses (wellFormed.noMetadata uses) selected
          · cases moves
            exact silent (recorded.endFlight number)
        · cases moves
      · cases moves
  | abort number =>
      cases moves
      exact silent (recorded.endFlight number)
  | expire key =>
      cases moves
      exact recorded.expire _ key

/-- A request that is served from the cache uses it, and gets what is stored under its
key. -/
private theorem hit_spec
    {lexicon : Bm25.Lexicon K}
    {action : Action}
    {after : State F}
    {key : Str}
    {flight : Flight F}
    {served : ChatService.ChatServiceResult}
    (moves : step F lexicon sha256 state action =
      some (after, .hit key flight served)) :
    (∃ number, state.flights number = some flight) ∧ flight.bypasses = false ∧
      key = flight.cacheKey sha256 ∧
      ResponseCache.decode (state.cache key) = some served := by
  cases action with
  | arrive number configuration tenantId requestId request read rag =>
      simp only [step] at moves
      split at moves <;> cases moves
  | consult number reachable =>
      simp only [step] at moves
      split at moves
      · rename_i flight' inFlight
        split at moves
        · split at moves
          · cases moves
          · rename_i uses
            split at moves
            · cases moves
            · rename_i result decoded
              cases moves
              refine ⟨⟨number, inFlight⟩, Bool.eq_false_iff.mpr uses, rfl, ?_⟩
              cases reachable with
              | true => exact decoded
              | false => cases decoded
        · cases moves
      · cases moves
  | generate number result =>
      simp only [step] at moves
      split at moves
      · split at moves
        · split at moves <;> cases moves
        · cases moves
      · cases moves
  | keep number reachable =>
      simp only [step] at moves
      split at moves
      · split at moves
        · split at moves <;> cases moves
        · cases moves
      · cases moves
  | abort number => cases moves
  | expire key => cases moves

/-- In every run, whatever deployments the requests arrive at: a request that is served
from the cache gets an answer that was kept under its key, and the answer is the right
one exactly when the two deployments agree, for the messages of the request, on what
the key does not cover. -/
theorem hit_sound_iff
    {lexicon : Bm25.Lexicon K}
    {actions : List Action}
    {ending : State F}
    {before after : List (Action × Observation F)}
    {action : Action}
    {key : Str}
    {flight : Flight F}
    {served : ChatService.ChatServiceResult}
    (ran : Unwinding.run (step F lexicon sha256) {} actions =
      some (ending, before ++ (action, .hit key flight served) :: after))
    (noCollision : Set.InjOn sha256 {text |
      ∃ event ∈ before ++ (action, .hit key flight served) :: after,
        text ∈ event.2.digested}) :
    ∃ origin, lastKept key before = some origin ∧
      (Sound origin flight served ↔
        Routing.SameSelection origin.flight.configuration.providers
          flight.configuration.providers flight.input.messages) := by
  obtain ⟨middle, later, recorded, moves⟩ :=
    Unwinding.run_recorded step_recorded (recorded_empty sha256) ran
  rw [List.nil_append] at recorded
  obtain ⟨⟨number, inFlight⟩, uses, isKey, decoded⟩ := hit_spec moves
  rw [recorded.stored key] at decoded
  cases isLast : lastKept key before with
  | none =>
      rw [isLast] at decoded
      cases decoded
  | some origin =>
      refine ⟨origin, rfl, ?_⟩
      rw [isLast] at decoded
      cases decoded
      generalize hitEvent : (action, Observation.hit key flight _) = event at noCollision
      obtain ⟨keeper, present⟩ := mem_of_lastKept isLast
      obtain ⟨isOriginKey, usesOrigin, noMetadata, selected⟩ :=
        recorded.kept keeper key origin present
      have sameKeys : origin.flight.cacheKey sha256 = flight.cacheKey sha256 :=
        isOriginKey.symm.trans isKey
      have digestedOrigin : ∃ other ∈ before ++ event :: after,
          origin.flight.digested ∈ other.2.digested :=
        ⟨_, List.mem_append_left _ present, List.mem_singleton_self _⟩
      have digestedFlight : ∃ other ∈ before ++ event :: after,
          flight.digested ∈ other.2.digested := by
        refine ⟨event, List.mem_append_right _ List.mem_cons_self, ?_⟩
        rw [← hitEvent]
        exact List.mem_singleton_self _
      obtain ⟨sameTenant, sameSettings, sameMessages⟩ :=
        ResponseCache.eq_of_cacheKey_eq
          (fun same => noCollision digestedOrigin digestedFlight same) sameKeys
      have chains := selectedChain_eq_iff usesOrigin uses sameSettings sameMessages
      constructor
      · intro sound
        exact chains.mp (selected.symm.trans sound.sameChain)
      · intro same
        exact
          { sameTenant
            sameMessages
            noMetadata := ⟨noMetadata, (recorded.flights number flight inFlight).noMetadata
              uses⟩
            sameChain := selected.trans (chains.mpr same)
            content := rfl
            provider := rfl
            modelVersion := rfl
            promptVersion := rfl
            inputTokens := rfl
            outputTokens := rfl
            totalTokens := rfl }

end Steps

/-! ## Two deployments -/

/-- A deployment that puts its fallback first for every text of some length. -/
def heuristicDeployment : Configuration where
  chat := .unset
  providers :=
    { fallbackProvider := some .openai
      openaiApiKey := some "sk".toList
      routingPolicy := .heuristic
      routingMessageLengthCheapMax := 1
      routingEstimatedTokensSmartMin := 1 }

/-- The same deployment with the static policy. -/
def staticDeployment : Configuration where
  chat := .unset
  providers :=
    { fallbackProvider := some .openai
      openaiApiKey := some "sk".toList }

/-- The text digested for a greeting, in both deployments. -/
def greetingText : Str :=
  ("\x7b\"bedrock_model\":null,\"bedrock_prompt_version\":\"v1\"," ++
    "\"fallback_provider\":\"openai\",\"messages\":[\x7b\"content\":\"hello\"," ++
    "\"role\":\"user\"\x7d],\"openai_model\":\"gpt-4.1-mini\"," ++
    "\"provider\":\"stub\",\"stub_provider_mode\":\"ok\"\x7d").toList

/-- The digest of that text. -/
def greetingDigest (text : Str) : Fin (2 ^ 256) :=
  if text = greetingText then
    0x51b8fc9b72b0b021e72c91e0ecc866227b02befb956bea590916985984e00069
  else 0

/-- What the ranking takes from the standard library, for short ASCII texts. -/
def asciiLexicon : Bm25.Lexicon ℚ := ⟨id, Char.isAlphanum, id⟩

/-- A greeting is answered at one deployment, and sent again to another one. -/
def greetings (first second : Configuration) : List Action :=
  let answer : ChatService.ChatServiceResult :=
    ⟨⟨.assistant, "hi".toList⟩,
      ⟨"hi".toList, "openai".toList, "gpt-4.1-mini".toList, "v1".toList, some 1, some 1,
        some 2, none⟩⟩
  [.arrive 0 first "t".toList ⟨1⟩ ⟨none, "hello".toList, false⟩ (.ok {}) {},
    .consult 0 true, .generate 0 answer, .keep 0 true,
    .arrive 1 second "t".toList ⟨2⟩ ⟨none, "hello".toList, false⟩ (.ok {}) {},
    .consult 1 true]

/-- A run of the two greetings. -/
def greetingRun (first second : Configuration) :
    Option (State Empty × List (Action × Observation Empty)) :=
  Unwinding.run (step Empty asciiLexicon greetingDigest) {} (greetings first second)

/-- Whether the last request of a trace was served from the cache, and whether by the
providers it selects. -/
def lastHit (trace : List (Action × Observation Empty)) : Option Bool :=
  match trace.getLast? with
  | some (_, .hit key flight _) =>
      (lastKept key trace.dropLast).map fun origin =>
        origin.chain = flight.selectedChain
  | _ => none

/-- What the last request of a run of the two greetings is served. -/
private theorem exists_hit
    {first second : Configuration}
    {same : Bool}
    (summary : (greetingRun first second).map (fun ending =>
      (lastHit ending.2, ending.2.flatMap (·.2.digested))) =
        some (some same, [greetingText, greetingText])) :
    ∃ ending before action key flight served origin,
      Unwinding.run (step Empty asciiLexicon greetingDigest) {} (greetings first second) =
        some (ending, before ++ (action, .hit key flight served) :: []) ∧
      Set.InjOn greetingDigest {text |
        ∃ event ∈ before ++ (action, .hit key flight served) :: [],
          text ∈ event.2.digested} ∧
      lastKept key before = some origin ∧
      decide (origin.chain = flight.selectedChain) = same := by
  obtain ⟨⟨ending, trace⟩, ran, summarized⟩ := Option.map_eq_some_iff.mp summary
  rw [Prod.mk.injEq] at summarized
  obtain ⟨served, digests⟩ := summarized
  have onlyText : ∀ text, (∃ event ∈ trace, text ∈ event.2.digested) →
      text = greetingText := by
    rintro text ⟨event, present, isDigested⟩
    have listed : text ∈ trace.flatMap (·.2.digested) :=
      List.mem_flatMap.mpr ⟨event, present, isDigested⟩
    rw [digests] at listed
    simpa using listed
  unfold lastHit at served
  split at served
  · rename_i action key flight result isLast
    obtain ⟨origin, kept, compared⟩ := Option.map_eq_some_iff.mp served
    have whole := List.dropLast_append_getLast? (l := trace) _ isLast
    refine ⟨ending, trace.dropLast, action, key, flight, result, origin, ?_, ?_, kept,
      compared⟩
    · rw [whole]
      exact ran
    · rw [whole]
      intro text present text' present' sameDigest
      rw [onlyText text present, onlyText text' present']
  · cases served

/-- The answer of one deployment is served at a deployment with the same settings. -/
theorem hit_sound_iff_small :
    ∃ ending before action key flight served,
      Unwinding.run (step Empty asciiLexicon greetingDigest) {}
          (greetings staticDeployment staticDeployment) =
        some (ending, before ++ (action, .hit key flight served) :: []) ∧
      ∃ origin, lastKept key before = some origin ∧
        (Sound origin flight served ↔
          Routing.SameSelection origin.flight.configuration.providers
            flight.configuration.providers flight.input.messages) := by
  obtain ⟨ending, before, action, key, flight, served, -, ran, noCollision, -, -⟩ :=
    @exists_hit staticDeployment staticDeployment true
      (by decide +kernel)
  exact ⟨ending, before, action, key, flight, served, ran, hit_sound_iff ran noCollision⟩

/-- The answer of one deployment is served at a deployment that would have asked another
provider. -/
theorem stale_hit :
    ¬∀ (actions : List Action) (ending : State Empty)
      (before after : List (Action × Observation Empty)) (action : Action) (key : Str)
      (flight : Flight Empty) (served : ChatService.ChatServiceResult),
      Unwinding.run (step Empty asciiLexicon greetingDigest) {} actions =
        some (ending, before ++ (action, .hit key flight served) :: after) →
      Set.InjOn greetingDigest {text |
        ∃ event ∈ before ++ (action, .hit key flight served) :: after,
          text ∈ event.2.digested} →
      ∃ origin, lastKept key before = some origin ∧ Sound origin flight served := by
  intro claimed
  obtain ⟨ending, before, action, key, flight, served, origin, ran, noCollision, isLast,
    differs⟩ :=
    @exists_hit heuristicDeployment staticDeployment false
      (by decide +kernel)
  obtain ⟨origin', isLast', sound⟩ :=
    claimed _ ending before [] action key flight served ran noCollision
  rw [isLast] at isLast'
  cases isLast'
  exact of_decide_eq_false differs sound.sameChain

end Cache
end ChatPlatform
