import ChatPlatform.Providers.Stub
import ChatPlatform.Prompt.Messages

/-!
# Choosing the providers of a request

A routing policy looks at a few signals of the request and names the provider to call
and the one to fall back to. The providers are then built from the settings; a provider
whose credentials are missing is replaced by a placeholder that only fails.
-/

namespace ChatPlatform

/-- The providers a deployment may name. -/
inductive ProviderName
  | stub
  | openai
  | bedrock
  deriving DecidableEq, Repr

/-- The text of a provider name. -/
def ProviderName.text : ProviderName → Str
  | .stub => "stub".toList
  | .openai => "openai".toList
  | .bedrock => "bedrock".toList

/-- The routing policies a deployment may name. -/
inductive RoutingPolicyName
  | static
  | heuristic
  deriving DecidableEq, Repr

/-- The settings that decide which providers answer. -/
structure ProviderSettings where
  /-- The primary provider. -/
  provider : ProviderName := .stub
  /-- The fallback provider. -/
  fallbackProvider : Option ProviderName := none
  /-- The routing policy. -/
  routingPolicy : RoutingPolicyName := .static
  /-- Longest message for which the primary is always good enough. -/
  routingMessageLengthCheapMax : Int := 80
  /-- Fewest estimated tokens for which the fallback goes first. -/
  routingEstimatedTokensSmartMin : Int := 120
  /-- The mode of the stub provider. -/
  stubProviderMode : Stub.Mode := .ok
  /-- The key of the OpenAI provider. -/
  openaiApiKey : Option Str := none
  /-- The model of the OpenAI provider. -/
  openaiModel : Str := "gpt-4.1-mini".toList
  /-- The region of the Bedrock provider. -/
  bedrockRegion : Option Str := none
  /-- The model of the Bedrock provider. -/
  bedrockModel : Option Str := none
  /-- The prompt version of the Bedrock provider. -/
  bedrockPromptVersion : Str := "v1".toList
  /-- The message length is positive. -/
  cheapMaxPositive : 0 < routingMessageLengthCheapMax := by decide
  /-- The number of tokens is positive. -/
  smartMinPositive : 0 < routingEstimatedTokensSmartMin := by decide

/-- Whether an optional setting is absent or empty. -/
def isUnset (setting : Option Str) : Bool := setting.all (·.isEmpty)

namespace Routing

/-! ## Signals -/

/-- What a routing policy looks at. -/
structure RoutingContext where
  /-- Whether the answer is streamed. -/
  stream : Bool
  /-- Length of the last user message. -/
  messageLength : Int
  /-- Its estimated number of tokens. -/
  estimatedTokens : Int
  /-- Whether the primary provider has its credentials. -/
  primaryProviderAvailable : Bool
  deriving DecidableEq

/-- The text of the last user message, or of the last message when no user spoke. -/
def lastUserMessage (messages : List ChatMessage) : Str :=
  match messages.reverse.find? (·.role = .user) with
  | some message => message.content
  | none => ((messages.getLast?).map (·.content)).getD []

/-- A quarter of the characters, rounded up; at least one for a text that is not
blank. -/
def estimateTokens (messageText : Str) : Int :=
  if Text.strip messageText = [] then 0
  else max 1 (((Text.strip messageText).length + 3) / 4 : Nat)

/-- Whether a provider has its credentials. -/
def isProviderAvailable (settings : ProviderSettings) : ProviderName → Bool
  | .stub => true
  | .openai => !isUnset settings.openaiApiKey
  | .bedrock => !isUnset settings.bedrockRegion && !isUnset settings.bedrockModel

/-- The signals of a request. -/
def routingContext
    (settings : ProviderSettings)
    (messages : List ChatMessage)
    (stream : Bool) : RoutingContext where
  stream := stream
  messageLength := (lastUserMessage messages).length
  estimatedTokens := estimateTokens (lastUserMessage messages)
  primaryProviderAvailable := isProviderAvailable settings settings.provider

/-! ## Policies -/

/-- How much a decision expects of the model. -/
inductive ModelTier
  | cheap
  | balanced
  | smart
  deriving DecidableEq, Repr

/-- What a routing policy decides. -/
structure RoutingDecision where
  /-- The provider to call. -/
  provider : ProviderName
  /-- Its model. -/
  model : Option Str
  /-- The tier of the request. -/
  modelTier : ModelTier
  /-- Why the policy decided so. -/
  rationale : Str
  /-- The provider to fall back to. -/
  fallbackProvider : Option ProviderName
  /-- Its model. -/
  fallbackModel : Option Str
  /-- The policy. -/
  policyName : Str
  /-- Its version. -/
  policyVersion : Str := "v1".toList
  deriving DecidableEq

/-- The two providers a policy chooses from. -/
structure Candidates where
  /-- The primary provider. -/
  primaryProvider : ProviderName
  /-- Its model. -/
  primaryModel : Option Str
  /-- The fallback provider. -/
  fallbackProvider : Option ProviderName
  /-- Its model. -/
  fallbackModel : Option Str

/-- The static policy: the primary first. -/
def decideStatic (candidates : Candidates) : RoutingDecision where
  provider := candidates.primaryProvider
  model := candidates.primaryModel
  modelTier := .balanced
  rationale := "static_default".toList
  fallbackProvider := candidates.fallbackProvider
  fallbackModel := candidates.fallbackModel
  policyName := "static".toList

/-- A decision of the heuristic policy for the primary. -/
def primaryFirst
    (candidates : Candidates)
    (modelTier : ModelTier)
    (rationale : Str) : RoutingDecision :=
  { decideStatic candidates with
    modelTier
    rationale
    policyName := "heuristic".toList }

/-- A decision of the heuristic policy for the fallback. -/
def fallbackFirst
    (candidates : Candidates)
    (fallback : ProviderName)
    (rationale : Str) : RoutingDecision where
  provider := fallback
  model := candidates.fallbackModel
  modelTier := .smart
  rationale := rationale
  fallbackProvider := some candidates.primaryProvider
  fallbackModel := candidates.primaryModel
  policyName := "heuristic".toList

/-- The heuristic policy: the fallback first when the primary is not available or the
message is long and expensive. A streamed request is never rerouted. -/
def decideHeuristic
    (candidates : Candidates)
    (cheapMax smartMin : Int)
    (context : RoutingContext) : RoutingDecision :=
  if context.stream then
    primaryFirst candidates .balanced "heuristic_stream_safe".toList
  else
    match context.primaryProviderAvailable, candidates.fallbackProvider with
    | false, some fallback =>
        fallbackFirst candidates fallback "heuristic_primary_unavailable".toList
    | _, fallbackProvider =>
        if context.messageLength ≤ cheapMax then
          primaryFirst candidates .cheap "heuristic_message_length_cheap".toList
        else
          match fallbackProvider with
          | some fallback =>
              if smartMin ≤ context.estimatedTokens then
                fallbackFirst candidates fallback
                  "heuristic_estimated_tokens_smart".toList
              else primaryFirst candidates .balanced "heuristic_default".toList
          | none => primaryFirst candidates .balanced "heuristic_default".toList

/-- The model a provider is configured with. -/
def modelForProvider (settings : ProviderSettings) : ProviderName → Option Str
  | .stub => none
  | .openai => some settings.openaiModel
  | .bedrock => settings.bedrockModel

/-- The providers of a deployment. -/
def candidates (settings : ProviderSettings) : Candidates where
  primaryProvider := settings.provider
  primaryModel := modelForProvider settings settings.provider
  fallbackProvider := settings.fallbackProvider
  fallbackModel := settings.fallbackProvider.bind (modelForProvider settings)

/-- What the policy of a deployment decides. -/
def routingDecision
    (settings : ProviderSettings)
    (context : RoutingContext) : RoutingDecision :=
  match settings.routingPolicy with
  | .heuristic =>
      decideHeuristic (candidates settings) settings.routingMessageLengthCheapMax
        settings.routingEstimatedTokensSmartMin context
  | .static => decideStatic (candidates settings)

/-! ## Building the providers -/

/-- A provider that was built, with what its answers depend on. -/
inductive SingleProvider
  /-- The stub. -/
  | stub (mode : Stub.Mode)
  /-- The OpenAI provider. -/
  | openai (model : Str)
  /-- The Bedrock provider. -/
  | bedrock (model promptVersion : Str)
  /-- The placeholder for a provider without credentials. -/
  | disabled (providerName : ProviderName)
  deriving DecidableEq

/-- A single provider, or one with a fallback. -/
inductive Chain
  /-- One provider. -/
  | single (provider : SingleProvider)
  /-- A primary provider with a fallback. -/
  | resilient (primary fallback : SingleProvider)
  deriving DecidableEq

/-- The model to use: the override unless it is absent or empty. -/
def modelOr (modelOverride : Option Str) (model : Str) : Str :=
  if isUnset modelOverride then model else modelOverride.getD model

/-- Build one provider. -/
def buildSingleProvider
    (settings : ProviderSettings)
    (modelOverride : Option Str) : ProviderName → SingleProvider
  | .stub => .stub settings.stubProviderMode
  | .openai =>
      if isUnset settings.openaiApiKey then .disabled .openai
      else .openai (modelOr modelOverride settings.openaiModel)
  | .bedrock =>
      if isUnset settings.bedrockRegion then .disabled .bedrock
      else if isUnset settings.bedrockModel then .disabled .bedrock
      else
        .bedrock (modelOr modelOverride (settings.bedrockModel.getD []))
          settings.bedrockPromptVersion

/-- Build the providers of a decision. -/
def buildProviderForDecision
    (settings : ProviderSettings)
    (decision : RoutingDecision) : Chain :=
  let primary := buildSingleProvider settings decision.model decision.provider
  match decision.fallbackProvider with
  | none => .single primary
  | some fallback =>
      if fallback = decision.provider then .single primary
      else
        .resilient primary
          (buildSingleProvider settings decision.fallbackModel fallback)

/-- The providers that answer a request. -/
def selectedChain
    (settings : ProviderSettings)
    (messages : List ChatMessage)
    (stream : Bool) : Chain :=
  buildProviderForDecision settings
    (routingDecision settings (routingContext settings messages stream))

/-! ## When the fallback goes first -/

/-- The fallback of a deployment, unless it is the primary again. -/
def secondProvider (settings : ProviderSettings) : Option ProviderName :=
  match settings.fallbackProvider with
  | none => none
  | some fallback => if fallback = settings.provider then none else some fallback

/-- Whether the fallback goes first for a request that is not streamed. -/
def prefersFallback (settings : ProviderSettings) (messages : List ChatMessage) : Bool :=
  settings.routingPolicy = .heuristic &&
    (!isProviderAvailable settings settings.provider ||
      (settings.routingMessageLengthCheapMax < (lastUserMessage messages).length &&
        settings.routingEstimatedTokensSmartMin ≤
          estimateTokens (lastUserMessage messages)))

/-- Build a provider with its configured model. -/
def configured (settings : ProviderSettings) (name : ProviderName) : SingleProvider :=
  buildSingleProvider settings (modelForProvider settings name) name

/-- A decision for the primary builds the primary first. -/
private theorem buildProviderForDecision_primary
    {settings : ProviderSettings}
    {decision : RoutingDecision}
    (provider : decision.provider = settings.provider)
    (model : decision.model = modelForProvider settings settings.provider)
    (fallback : decision.fallbackProvider = settings.fallbackProvider)
    (fallbackModel : decision.fallbackModel =
      settings.fallbackProvider.bind (modelForProvider settings)) :
    buildProviderForDecision settings decision =
      match secondProvider settings with
      | none => .single (configured settings settings.provider)
      | some second =>
          .resilient (configured settings settings.provider)
            (configured settings second) := by
  unfold buildProviderForDecision secondProvider
  rw [provider, model, fallback, fallbackModel]
  cases settings.fallbackProvider with
  | none => rfl
  | some second =>
      by_cases same : second = settings.provider
      · simp [same, configured]
      · simp [same, configured]

/-- A decision for the fallback builds the fallback first. -/
private theorem buildProviderForDecision_fallback
    {settings : ProviderSettings}
    {second : ProviderName}
    (isFallback : settings.fallbackProvider = some second)
    (rationale : Str) :
    buildProviderForDecision settings
        (fallbackFirst (candidates settings) second rationale) =
      match secondProvider settings with
      | none => .single (configured settings settings.provider)
      | some second =>
          .resilient (configured settings second)
            (configured settings settings.provider) := by
  unfold buildProviderForDecision secondProvider fallbackFirst candidates
  rw [isFallback]
  by_cases same : second = settings.provider
  · simp [same, configured]
  · simp [same, Ne.symm same, configured]

/-- What is decided when the fallback goes first. -/
private theorem routingDecision_of_prefersFallback
    {settings : ProviderSettings}
    {messages : List ChatMessage}
    {second : ProviderName}
    (isFallback : settings.fallbackProvider = some second)
    (prefers : prefersFallback settings messages = true) :
    ∃ rationale, routingDecision settings (routingContext settings messages false) =
      fallbackFirst (candidates settings) second rationale := by
  unfold prefersFallback at prefers
  rw [Bool.and_eq_true, decide_eq_true_eq, Bool.or_eq_true, Bool.and_eq_true,
    decide_eq_true_eq, decide_eq_true_eq, Bool.not_eq_true'] at prefers
  obtain ⟨heuristic, reason⟩ := prefers
  unfold routingDecision decideHeuristic routingContext
  simp only [heuristic, candidates, isFallback, Bool.false_eq_true, if_false]
  cases available : isProviderAvailable settings settings.provider with
  | false => exact ⟨_, rfl⟩
  | true =>
      obtain ⟨long, expensive⟩ : _ ∧ _ := reason.resolve_left (by simp [available])
      refine ⟨"heuristic_estimated_tokens_smart".toList, ?_⟩
      simp only [if_neg (Int.not_le.mpr long), if_pos expensive]

/-- What the heuristic policy decides when the primary goes first. -/
private theorem routingDecision_of_not_prefersFallback
    {settings : ProviderSettings}
    {messages : List ChatMessage}
    (heuristic : settings.routingPolicy = .heuristic)
    (prefers : prefersFallback settings messages = false ∨
      settings.fallbackProvider = none) :
    ∃ modelTier rationale,
      routingDecision settings (routingContext settings messages false) =
        primaryFirst (candidates settings) modelTier rationale := by
  unfold routingDecision decideHeuristic routingContext
  simp only [heuristic, candidates, Bool.false_eq_true, if_false]
  cases isFallback : settings.fallbackProvider with
  | none =>
      cases isProviderAvailable settings settings.provider <;> dsimp only <;> split_ifs <;>
        exact ⟨_, _, rfl⟩
  | some second =>
      have stays := prefers.resolve_right (by simp [isFallback])
      unfold prefersFallback at stays
      cases available : isProviderAvailable settings settings.provider with
      | false => simp [heuristic, available] at stays
      | true =>
          dsimp only
          split_ifs with short expensive
          · exact ⟨_, _, rfl⟩
          · simp [heuristic, available, expensive, Int.not_le.mp short] at stays
          · exact ⟨_, _, rfl⟩

/-- The providers of a request that is not streamed: the two configured ones in either
order, or the only one. -/
theorem selectedChain_eq
    (settings : ProviderSettings)
    (messages : List ChatMessage) :
    selectedChain settings messages false =
      match secondProvider settings with
      | none => .single (configured settings settings.provider)
      | some fallback =>
          if prefersFallback settings messages then
            .resilient (configured settings fallback)
              (configured settings settings.provider)
          else
            .resilient (configured settings settings.provider)
              (configured settings fallback) := by
  unfold selectedChain
  cases policy : settings.routingPolicy with
  | static =>
      have stays : prefersFallback settings messages = false := by
        simp [prefersFallback, policy]
      have decided : routingDecision settings (routingContext settings messages false) =
          decideStatic (candidates settings) := by
        simp [routingDecision, policy]
      rw [decided, buildProviderForDecision_primary rfl rfl rfl rfl, stays]
      rfl
  | heuristic =>
      cases prefers : prefersFallback settings messages with
      | false =>
          obtain ⟨modelTier, rationale, decided⟩ :=
            routingDecision_of_not_prefersFallback policy (.inl prefers)
          rw [decided, buildProviderForDecision_primary rfl rfl rfl rfl]
          rfl
      | true =>
          cases isFallback : settings.fallbackProvider with
          | none =>
              obtain ⟨modelTier, rationale, decided⟩ :=
                @routingDecision_of_not_prefersFallback _ messages policy
                  (.inr isFallback)
              rw [decided, buildProviderForDecision_primary rfl rfl rfl rfl]
              simp [secondProvider, isFallback]
          | some second =>
              obtain ⟨rationale, decided⟩ :=
                routingDecision_of_prefersFallback isFallback prefers
              rw [decided, buildProviderForDecision_fallback isFallback]
              rfl

end Routing
end ChatPlatform
