import ChatPlatform.Providers.ChatService
import ChatPlatform.Settings

/-!
# The response cache

Answers of non-streamed requests are kept under a key made of the tenant and a
digest of the messages and the provider settings. The cache is left alone whenever
metadata the key does not cover may reach the provider.
-/

namespace ChatPlatform

/-- The provider settings that are part of a cache key. -/
structure CacheSettings where
  /-- The primary provider. -/
  provider : Str := "stub".toList
  /-- The fallback provider. -/
  fallbackProvider : Option Str := none
  /-- The OpenAI model. -/
  openaiModel : Str := "gpt-4.1-mini".toList
  /-- The Bedrock model. -/
  bedrockModel : Option Str := none
  /-- The Bedrock prompt version. -/
  bedrockPromptVersion : Str := "v1".toList
  /-- The mode of the stub provider. -/
  stubProviderMode : Str := "ok".toList
  deriving DecidableEq

/-- Why the cache must not be consulted, or `none` if it may be. -/
def cacheBypassReason (settings : ChatSettings) : Option Str :=
  if settings.chatRagAugmentationEnabled then some "rag_augmentation".toList
  else if settings.ebm25Enabled then some "ebm25_memory".toList
  else none

namespace ResponseCache

/-- What is kept of an answer. -/
structure Payload where
  /-- The text of the answer. -/
  assistantContent : Str
  /-- The provider that answered. -/
  provider : Str
  /-- The model that answered. -/
  modelVersion : Str
  /-- The prompt version. -/
  promptVersion : Str
  /-- Tokens read. -/
  inputTokens : Option Int
  /-- Tokens written. -/
  outputTokens : Option Int
  /-- Their sum as reported. -/
  totalTokens : Option Int
  deriving DecidableEq

/-- What the store holds under a key. -/
inductive Entry
  /-- The JSON text of a payload. -/
  | payload (kept : Payload)
  /-- A text that is not one. -/
  | malformed
  deriving DecidableEq

/-- The text of a role. -/
def roleText : Role → Str
  | .system => "system".toList
  | .user => "user".toList
  | .assistant => "assistant".toList

/-- The fingerprint of a request. -/
def fingerprint
    (settings : CacheSettings)
    (messages : List ChatMessage) : Dict Empty :=
  let optional : Option Str → Value Empty := fun text =>
    match text with
    | none => .none
    | some text => .str text
  [("messages".toList, .list (messages.map fun message =>
      .dict [("role".toList, .str (roleText message.role)),
        ("content".toList, .str message.content)])),
    ("provider".toList, .str settings.provider),
    ("fallback_provider".toList, optional settings.fallbackProvider),
    ("openai_model".toList, .str settings.openaiModel),
    ("bedrock_model".toList, optional settings.bedrockModel),
    ("bedrock_prompt_version".toList, .str settings.bedrockPromptVersion),
    ("stub_provider_mode".toList, .str settings.stubProviderMode)]

section Key

variable (sha256 : Str → Fin (2 ^ 256))

/-- The 64 hexadecimal digits of a digest. -/
def hexdigest (text : Str) : Str := Numeral.hexText 64 (sha256 text)

/-- The key of a request. -/
def cacheKey
    (settings : CacheSettings)
    (messages : List ChatMessage)
    (tenantId : Str) : Str :=
  "chat:response:".toList ++ tenantId ++ ':' ::
    hexdigest sha256 (Json.dumps ⟨true, true⟩ (.dict (fingerprint settings messages)))

end Key

/-- What `set` keeps of an answer. -/
def encode (result : ChatService.ChatServiceResult) : Payload where
  assistantContent := result.assistantMessage.content
  provider := result.providerResult.provider
  modelVersion := result.providerResult.modelVersion
  promptVersion := result.providerResult.promptVersion
  inputTokens := result.providerResult.inputTokens
  outputTokens := result.providerResult.outputTokens
  totalTokens := result.providerResult.totalTokens

/-- What `get` makes of the stored text: a miss unless it is a payload. -/
def decode : Option Entry → Option ChatService.ChatServiceResult
  | none => none
  | some .malformed => none
  | some (.payload kept) =>
      some
        { assistantMessage := ⟨.assistant, kept.assistantContent⟩
          providerResult :=
            { content := kept.assistantContent
              provider := kept.provider
              modelVersion := kept.modelVersion
              promptVersion := kept.promptVersion
              inputTokens := kept.inputTokens
              outputTokens := kept.outputTokens
              totalTokens := kept.totalTokens
              latencyMs := none } }

/-- A kept answer is read back with the same text. -/
theorem decode_encode (result : ChatService.ChatServiceResult) :
    (decode (some (.payload (encode result)))).map (·.assistantMessage.content) =
      some result.assistantMessage.content := rfl

/-- Keys of different tenants are different, whatever the digest is. -/
theorem tenant_eq_of_cacheKey_eq
    {sha256 : Str → Fin (2 ^ 256)}
    {settings settings' : CacheSettings}
    {messages messages' : List ChatMessage}
    {tenantId tenantId' : Str}
    (same : cacheKey sha256 settings messages tenantId =
      cacheKey sha256 settings' messages' tenantId') : tenantId = tenantId' := by
  unfold cacheKey at same
  rw [List.append_assoc, List.append_assoc] at same
  have tails := List.append_cancel_left same
  refine List.append_inj_left' tails ?_
  simp [hexdigest]

end ResponseCache
end ChatPlatform
