import ChatPlatform.Foundation.Unwinding
import ChatPlatform.Providers.Routing
import ChatPlatform.Route.CacheKey
import ChatPlatform.Route.Prepare
import ChatPlatform.Route.ResponseCache
import Mathlib.Logic.Function.Basic

/-!
# Deployments that share a response cache

Requests arrive at deployments with settings of their own, and all deployments keep
their answers in one store. A request that is not streamed looks for its answer, calls
the providers its settings select when there is none, and keeps the answer once its
transaction is committed. Entries expire at any time.

The key of an answer covers the names, models and modes of the providers. It does not cover
the routing policy, its thresholds, or which providers have their credentials, so
deployments with the same keys may still select different providers.
-/

namespace ChatPlatform

/-! ## Deployments with the same cache keys -/

/-- The text of the mode of the stub. -/
def Stub.Mode.text : Stub.Mode → Str
  | .ok => "ok".toList
  | .error => "error".toList

/-- The provider settings that are part of a cache key. -/
def ProviderSettings.cacheSettings (settings : ProviderSettings) : CacheSettings where
  provider := settings.provider.text
  fallbackProvider := settings.fallbackProvider.map (·.text)
  openaiModel := settings.openaiModel
  bedrockModel := settings.bedrockModel
  bedrockPromptVersion := settings.bedrockPromptVersion
  stubProviderMode := settings.stubProviderMode.text

namespace Routing

/-- The settings a cache key does not cover agree for a request: both deployments put
the same provider first, and the providers they name have their credentials in both
or in neither. -/
structure SameSelection
    (settings settings' : ProviderSettings)
    (messages : List ChatMessage) : Prop where
  /-- With a second provider, the same one goes first. -/
  sameOrder : secondProvider settings ≠ none →
    prefersFallback settings messages = prefersFallback settings' messages
  /-- The providers have their credentials in both or in neither. -/
  sameAvailability : ∀ name,
    name = settings.provider ∨ secondProvider settings = some name →
      isProviderAvailable settings name = isProviderAvailable settings' name

/-- Providers have different names. -/
private theorem text_injective : Function.Injective ProviderName.text := by
  intro name name' same
  cases name <;> cases name' <;> first | rfl | exact absurd same (by decide)

/-- Modes have different texts. -/
private theorem mode_text_injective : Function.Injective Stub.Mode.text := by
  intro mode mode' same
  cases mode <;> cases mode' <;> first | rfl | exact absurd same (by decide)

/-- The provider a built provider stands for. -/
def SingleProvider.name : SingleProvider → ProviderName
  | .stub _ => .stub
  | .openai _ => .openai
  | .bedrock _ _ => .bedrock
  | .disabled providerName => providerName

/-- A provider is built under its name. -/
private theorem configured_name (settings : ProviderSettings) (name : ProviderName) :
    (configured settings name).name = name := by
  unfold configured buildSingleProvider
  cases name with
  | stub => rfl
  | openai =>
      dsimp only
      split_ifs <;> rfl
  | bedrock =>
      dsimp only
      split_ifs <;> rfl

section SameKey

variable {settings settings' : ProviderSettings}

/-- What a cache key covers. -/
private theorem eq_of_cacheSettings_eq
    (sameKey : settings.cacheSettings = settings'.cacheSettings) :
    settings.provider = settings'.provider ∧
      settings.fallbackProvider = settings'.fallbackProvider ∧
      settings.openaiModel = settings'.openaiModel ∧
      settings.bedrockModel = settings'.bedrockModel ∧
      settings.bedrockPromptVersion = settings'.bedrockPromptVersion ∧
      settings.stubProviderMode = settings'.stubProviderMode := by
  unfold ProviderSettings.cacheSettings at sameKey
  rw [CacheSettings.mk.injEq] at sameKey
  obtain ⟨provider, fallback, openai, bedrock, version, mode⟩ := sameKey
  exact ⟨text_injective provider, Option.map_injective text_injective fallback, openai,
    bedrock, version, mode_text_injective mode⟩

/-- Deployments with the same keys have the same second provider. -/
private theorem secondProvider_eq
    (sameKey : settings.cacheSettings = settings'.cacheSettings) :
    secondProvider settings = secondProvider settings' := by
  obtain ⟨provider, fallback, -⟩ := eq_of_cacheSettings_eq sameKey
  unfold secondProvider
  rw [provider, fallback]

/-- With the same keys a provider is built alike exactly when it has its credentials in
both deployments or in neither. -/
private theorem configured_eq_iff
    (sameKey : settings.cacheSettings = settings'.cacheSettings)
    (name : ProviderName) :
    configured settings name = configured settings' name ↔
      isProviderAvailable settings name = isProviderAvailable settings' name := by
  obtain ⟨-, -, openai, bedrock, version, mode⟩ := eq_of_cacheSettings_eq sameKey
  unfold configured buildSingleProvider isProviderAvailable modelForProvider
  cases name with
  | stub => simp [mode]
  | openai =>
      cases isUnset settings.openaiApiKey <;> cases isUnset settings'.openaiApiKey <;>
        simp [openai]
  | bedrock =>
      rw [bedrock, version]
      cases isUnset settings.bedrockRegion <;> cases isUnset settings'.bedrockRegion <;>
        cases isUnset settings'.bedrockModel <;> simp

/-- The second provider is not the first. -/
private theorem ne_of_secondProvider
    {name : ProviderName}
    (isSecond : secondProvider settings = some name) : name ≠ settings.provider := by
  unfold secondProvider at isSecond
  split at isSecond
  · cases isSecond
  · split at isSecond
    · cases isSecond
    · rename_i apart
      cases isSecond
      exact apart

/-- Deployments with the same keys select the same providers exactly when they agree on
what the keys do not cover. -/
theorem selectedChain_eq_iff
    (sameKey : settings.cacheSettings = settings'.cacheSettings)
    (messages : List ChatMessage) :
    selectedChain settings messages false = selectedChain settings' messages false ↔
      SameSelection settings settings' messages := by
  have sameProvider := (eq_of_cacheSettings_eq sameKey).1
  rw [selectedChain_eq, selectedChain_eq, ← secondProvider_eq sameKey, ← sameProvider]
  cases second : secondProvider settings with
  | none =>
      dsimp only
      rw [Chain.single.injEq, configured_eq_iff sameKey]
      constructor
      · intro available
        refine ⟨fun two => absurd second two, ?_⟩
        rintro name (rfl | isSecond)
        · exact available
        · rw [second] at isSecond
          cases isSecond
      · intro same
        exact same.sameAvailability _ (.inl rfl)
  | some fallback =>
      have apart : configured settings fallback ≠ configured settings' settings.provider ∧
          configured settings settings.provider ≠ configured settings' fallback := by
        have different := ne_of_secondProvider second
        constructor
        · intro same
          have names := congrArg SingleProvider.name same
          rw [configured_name, configured_name] at names
          exact different names
        · intro same
          have names := congrArg SingleProvider.name same
          rw [configured_name, configured_name] at names
          exact different names.symm
      have agree : SameSelection settings settings' messages ↔
          prefersFallback settings messages = prefersFallback settings' messages ∧
            configured settings fallback = configured settings' fallback ∧
            configured settings settings.provider =
              configured settings' settings.provider := by
        rw [configured_eq_iff sameKey, configured_eq_iff sameKey]
        constructor
        · intro same
          exact ⟨same.sameOrder (by simp [second]),
            same.sameAvailability _ (.inr second),
            same.sameAvailability _ (.inl rfl)⟩
        · rintro ⟨order, availableSecond, availableFirst⟩
          refine ⟨fun _ => order, ?_⟩
          rintro name (rfl | isSecond)
          · exact availableFirst
          · rw [second] at isSecond
            cases isSecond
            exact availableSecond
      rw [agree]
      cases prefersFallback settings messages <;>
        cases prefersFallback settings' messages <;>
          simp [Chain.resilient.injEq, apart, and_comm]

end SameKey
end Routing

/-! ## Requests in flight -/

namespace Cache

/-- The settings of a deployment. -/
structure Configuration where
  /-- The settings of the chat path. -/
  chat : ChatSettings
  /-- The settings of the providers. -/
  providers : ProviderSettings

/-- What a request has done. -/
inductive Phase
  /-- It has not consulted the cache yet. -/
  | arrived
  /-- It is to call the providers. -/
  | missed
  /-- The providers answered, and the answer is to be kept. -/
  | answered (chain : Routing.Chain) (result : ChatService.ChatServiceResult)

/-- A request in flight. -/
structure Flight (F : Type) where
  /-- The settings of its deployment. -/
  configuration : Configuration
  /-- The tenant. -/
  tenantId : Str
  /-- Whether the answer is streamed. -/
  stream : Bool
  /-- The request to the providers. -/
  input : ProviderInput F
  /-- What it has done. -/
  phase : Phase := .arrived

/-- The store and the requests in flight. -/
structure State (F : Type) where
  /-- What is stored under each key. -/
  cache : Str → Option ResponseCache.Entry := fun _ => none
  /-- The requests in flight. -/
  flights : Nat → Option (Flight F) := fun _ => none

/-- What happens. -/
inductive Action
  /-- A request arrives at a deployment; its history and its documents are whatever was
  read for it. -/
  | arrive
      (number : Nat)
      (configuration : Configuration)
      (tenantId : Str)
      (requestId : Uuid)
      (request : ChatRequest)
      (read : Except HistoryFault Database)
      (rag : RagGenerationContext)
  /-- A request looks for its answer, if the store can be reached. -/
  | consult (number : Nat) (reachable : Bool)
  /-- The providers of a request answer. -/
  | generate (number : Nat) (result : ChatService.ChatServiceResult)
  /-- A request keeps its answer, if the store can be reached. -/
  | keep (number : Nat) (reachable : Bool)
  /-- A request ends early. -/
  | abort (number : Nat)
  /-- The time to live of an entry has passed. -/
  | expire (key : Str)

/-- An answer that is kept, with the request it was produced for. -/
structure Origin (F : Type) where
  /-- The request. -/
  flight : Flight F
  /-- The providers that produced the answer. -/
  chain : Routing.Chain
  /-- The answer. -/
  result : ChatService.ChatServiceResult

/-- What is observed of an action. -/
inductive Observation (F : Type)
  /-- Nothing. -/
  | silent
  /-- A request is served from the cache. -/
  | hit (key : Str) (flight : Flight F) (served : ChatService.ChatServiceResult)
  /-- An answer is kept under a key. -/
  | kept (key : Str) (origin : Origin F)
  /-- What is stored under a key is gone. -/
  | expired (key : Str)

namespace Flight

variable {F : Type}

/-- The text whose digest is part of the key of a request. -/
def digested (flight : Flight F) : Str :=
  ResponseCache.digested flight.configuration.providers.cacheSettings
    flight.input.messages

/-- The key of a request. -/
def cacheKey (sha256 : Str → Fin (2 ^ 256)) (flight : Flight F) : Str :=
  ResponseCache.cacheKey sha256 flight.configuration.providers.cacheSettings
    flight.input.messages flight.tenantId

/-- The providers that the settings of a request select for it. -/
def selectedChain (flight : Flight F) : Routing.Chain :=
  Routing.selectedChain flight.configuration.providers flight.input.messages
    flight.stream

/-- Whether a request leaves the cache alone. -/
def bypasses (flight : Flight F) : Bool :=
  flight.stream || (cacheBypassReason flight.configuration.chat).isSome

end Flight

section Steps

variable {F K : Type} [FloatOps F] [Field K] [LinearOrder K]

/-- A request that arrives. -/
def arrived
    (lexicon : Bm25.Lexicon K)
    (configuration : Configuration)
    (tenantId : Str)
    (requestId : Uuid)
    (request : ChatRequest)
    (read : Except HistoryFault Database)
    (rag : RagGenerationContext) : Flight F where
  configuration := configuration
  tenantId := tenantId
  stream := request.stream
  input := preparedInput F configuration.chat requestId request
    (getChatMemoryContext configuration.chat lexicon request tenantId read).context rag

/-- The state after a request changed. -/
def State.setFlight
    (state : State F)
    (number : Nat)
    (flight : Option (Flight F)) : State F :=
  { state with flights := Function.update state.flights number flight }

/-- The state after what is stored under a key changed. -/
def State.store
    (state : State F)
    (key : Str)
    (entry : Option ResponseCache.Entry) : State F :=
  { state with cache := Function.update state.cache key entry }

variable (F)

/-- One step, with what is observed of it. -/
def step
    (lexicon : Bm25.Lexicon K)
    (sha256 : Str → Fin (2 ^ 256))
    (state : State F) : Action → Option (State F × Observation F)
  | .arrive number configuration tenantId requestId request read rag =>
      match state.flights number with
      | some _ => none
      | none =>
          some (state.setFlight number (some (arrived lexicon configuration tenantId
            requestId request read rag)), .silent)
  | .consult number reachable =>
      match state.flights number with
      | some flight =>
          match flight.phase with
          | .arrived =>
              if flight.bypasses then
                some (state.setFlight number (some { flight with phase := .missed }),
                  .silent)
              else
                let key := flight.cacheKey sha256
                let raw := if reachable then state.cache key else none
                match ResponseCache.decode raw with
                | none =>
                    some (state.setFlight number
                      (some { flight with phase := .missed }), .silent)
                | some served =>
                    some (state.setFlight number none, .hit key flight served)
          | _ => none
      | none => none
  | .generate number result =>
      match state.flights number with
      | some flight =>
          match flight.phase with
          | .missed =>
              if flight.bypasses then some (state.setFlight number none, .silent)
              else
                some (state.setFlight number (some { flight with
                  phase := .answered flight.selectedChain result }), .silent)
          | _ => none
      | none => none
  | .keep number reachable =>
      match state.flights number with
      | some flight =>
          match flight.phase with
          | .answered chain result =>
              if reachable then
                some ((state.setFlight number none).store (flight.cacheKey sha256)
                    (some (.payload (ResponseCache.encode result))),
                  .kept (flight.cacheKey sha256) ⟨flight, chain, result⟩)
              else some (state.setFlight number none, .silent)
          | _ => none
      | none => none
  | .abort number => some (state.setFlight number none, .silent)
  | .expire key => some (state.store key none, .expired key)

end Steps

/-- The answer that was kept last under a key and has not expired. -/
def lastKept {F : Type} (key : Str) (history : List (Action × Observation F)) :
    Option (Origin F) :=
  history.foldl
    (fun kept event =>
      match event.2 with
      | .kept changed origin => if changed = key then some origin else kept
      | .expired changed => if changed = key then none else kept
      | _ => kept)
    none

/-- The texts that were digested for what is observed. -/
def Observation.digested {F : Type} : Observation F → List Str
  | .hit _ flight _ => [flight.digested]
  | .kept _ origin => [origin.flight.digested]
  | _ => []

end Cache
end ChatPlatform
