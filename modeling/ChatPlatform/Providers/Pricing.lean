import ChatPlatform.Providers.Bedrock
import ChatPlatform.Providers.OpenAi
import ChatPlatform.Providers.Stub
import Mathlib.Data.Rat.Defs
import Mathlib.Tactic.Ring

/-!
# The estimated cost of an answer

The frozen price snapshot is keyed by provider and model. The metrics look an answer up
under the names its adapter reports, and each adapter takes the model from somewhere
else: the stub from a constant, OpenAI from the body of the response, Bedrock from the
configuration.
-/

namespace ChatPlatform
namespace Pricing

/-- Published rates, in dollars for a million tokens. -/
structure ModelRate where
  /-- Rate of the tokens read. -/
  input : ℚ
  /-- Rate of the tokens written. -/
  output : ℚ
  /-- Rate of the tokens read from a cache; recorded and not used. -/
  cachedInput : Option ℚ := none
  deriving DecidableEq

/-- The frozen price snapshot. -/
def priceSnapshot : List ((Str × Option Str) × ModelRate) :=
  [(("openai".toList, some "gpt-4.1-mini".toList),
      { input := 40 / 100, cachedInput := some (10 / 100), output := 160 / 100 }),
    (("bedrock".toList, some "nvidia.nemotron-nano-12b-v2".toList),
      { input := 6 / 100, output := 23 / 100 }),
    (("stub".toList, none), { input := 0, output := 0 })]

/-- The rate of a provider and a model, if the snapshot has one. -/
def rateOf (pair : Str × Option Str) : Option ModelRate :=
  (priceSnapshot.find? (·.1 = pair)).map (·.2)

/-- Generation cost of one request; nothing when no price is known or no usage was
reported. -/
def estimateGenerationCostUsd
    (provider model : Option Str)
    (inputTokens outputTokens : Option Int) : Option ℚ :=
  match rateOf (provider.getD [], model) with
  | none => none
  | some rate =>
      match inputTokens, outputTokens with
      | some read, some written =>
          some ((max read 0 : Int) / 1000000 * rate.input +
            (max written 0 : Int) / 1000000 * rate.output)
      | _, _ => none

/-- The cost the metrics row of an answer gets. -/
def estimatedCostUsd (result : Option ProviderResult) : Option ℚ :=
  estimateGenerationCostUsd (result.map (·.provider)) (result.map (·.modelVersion))
    (result.bind (·.inputTokens)) (result.bind (·.outputTokens))

/-! ## What the adapters return -/

variable {F : Type} [FloatOps F]

/-- What a shipped adapter makes a result from. -/
inductive Response (F : Type)
  /-- A call of the stub. -/
  | stub
      (sha256Hex : Str → Str)
      (mode : Stub.Mode)
      (elapsedMs : Int)
      (input : ProviderInput F)
  /-- The body of a response, with the configured model. -/
  | openAi (model : Str) (body : Dict F) (latencyMs : Int)
  /-- A stream that was read. -/
  | openAiStream (call : OpenAi.StreamCall F)
  /-- The body of a response, with the configured model. -/
  | bedrock (model promptVersion : Str) (body : Dict F) (latencyMs : Int)
  /-- A stream that was read. -/
  | bedrockStream (call : Bedrock.StreamCall F)

namespace Response

/-- The result of a stream that was read. -/
def ofStream (script : StreamScript) : Option ProviderResult :=
  match script.final with
  | .ok final => some final.providerResult
  | .error _ => none

/-- What the adapter returns; nothing when it raises. -/
def result : Response F → Option ProviderResult
  | .stub sha256Hex mode elapsedMs input =>
      (Stub.generate sha256Hex { mode } elapsedMs input).toOption
  | .openAi model body latencyMs => OpenAi.buildProviderResult body model latencyMs
  | .openAiStream call => ofStream (OpenAi.consumeStream call)
  | .bedrock model promptVersion body latencyMs =>
      Bedrock.buildProviderResult body model promptVersion latencyMs
  | .bedrockStream call => ofStream (Bedrock.consumeStreamSync call)

/-- The configured provider and model; the stub has no model. -/
def configured : Response F → Str × Option Str
  | .stub _ _ _ _ => ("stub".toList, none)
  | .openAi model _ _ => ("openai".toList, some model)
  | .openAiStream call => ("openai".toList, some call.model)
  | .bedrock model _ _ _ => ("bedrock".toList, some model)
  | .bedrockStream call => ("bedrock".toList, some call.model)

/-- The model a response of OpenAI names, else the configured one. -/
def extractModelVersion (body : Dict F) (model : Str) : Str :=
  OpenAi.nonemptyStr body "model".toList model

/-- The response a stream of OpenAI ends with, else one made from the deltas. -/
def streamedBody (call : OpenAi.StreamCall F) : Dict F :=
  let progress := (OpenAi.readEvents {} call.events).1
  match progress.finalResponsePayload with
  | some (entry :: rest) => entry :: rest
  | _ => OpenAi.assembledPayload progress.contentParts.flatten call.model

/-- The provider and model the answer is looked up under. -/
def answered : Response F → Str × Option Str
  | .stub _ _ _ _ => ("stub".toList, some "stub-1".toList)
  | .openAi model body _ => ("openai".toList, some (extractModelVersion body model))
  | .openAiStream call =>
      ("openai".toList, some (extractModelVersion (streamedBody call) call.model))
  | .bedrock model _ _ _ => ("bedrock".toList, some model)
  | .bedrockStream call => ("bedrock".toList, some call.model)

/-- A result of OpenAI names its model as the body does. -/
private theorem openAi_names
    {body : Dict F}
    {model : Str}
    {latencyMs : Int}
    {result : ProviderResult}
    (built : OpenAi.buildProviderResult body model latencyMs = some result) :
    result.provider = "openai".toList ∧
      result.modelVersion = extractModelVersion body model := by
  have named : ∀ inputTokens outputTokens totalTokens : Option Int,
      (do
        let content ← OpenAi.extractOutputText body
        return {
          content
          provider := "openai".toList
          modelVersion := OpenAi.nonemptyStr body "model".toList model
          promptVersion := OpenAi.nonemptyStr body "prompt_version".toList "v1".toList
          inputTokens
          outputTokens
          totalTokens
          latencyMs := some latencyMs }) = some result →
        result.provider = "openai".toList ∧
          result.modelVersion = extractModelVersion body model := by
    intro inputTokens outputTokens totalTokens returned
    obtain ⟨content, -, same⟩ := Option.bind_eq_some_iff.mp returned
    cases same
    exact ⟨rfl, rfl⟩
  unfold OpenAi.buildProviderResult at built
  dsimp only at built
  split at built
  · exact named _ _ _ built
  · split at built
    · split at built
      · exact named _ _ _ built
      · cases built
    · exact named _ _ _ built

/-- The result of a stream is the one it ended with. -/
private theorem final_of_ofStream
    {script : StreamScript}
    {result : ProviderResult}
    (returned : ofStream script = some result) :
    ∃ final, script.final = .ok final ∧ final.providerResult = result := by
  unfold ofStream at returned
  split at returned
  · rename_i final isFinal
    exact ⟨final, isFinal, Option.some.inj returned⟩
  · cases returned

/-- A stream of OpenAI names its model as the response it ended with does. -/
private theorem openAiStream_names
    {call : OpenAi.StreamCall F}
    {final : ProviderStreamResult}
    (isFinal : (OpenAi.consumeStream call).final = .ok final) :
    final.providerResult.provider = "openai".toList ∧
      final.providerResult.modelVersion =
        extractModelVersion (streamedBody call) call.model := by
  unfold OpenAi.consumeStream at isFinal
  dsimp only at isFinal
  split at isFinal
  · cases isFinal
  · split at isFinal
    · rename_i result built
      cases isFinal
      unfold OpenAi.finalResult at built
      obtain ⟨parsed, parsedBody, same⟩ := Option.map_eq_some_iff.mp built
      obtain ⟨provider, modelVersion⟩ := openAi_names parsedBody
      rw [← same]
      exact ⟨provider, modelVersion⟩
    · cases isFinal

/-- An answer reports the provider and the model it is looked up under. -/
theorem pair_of_result
    {response : Response F}
    {result : ProviderResult}
    (returned : response.result = some result) :
    (result.provider, some result.modelVersion) = response.answered := by
  cases response with
  | stub sha256Hex mode elapsedMs input =>
      cases mode with
      | ok =>
          cases returned
          rfl
      | error => cases returned
  | openAi model body latencyMs =>
      obtain ⟨provider, modelVersion⟩ := openAi_names returned
      rw [provider, modelVersion]
      rfl
  | openAiStream call =>
      obtain ⟨final, isFinal, same⟩ := final_of_ofStream returned
      obtain ⟨provider, modelVersion⟩ := openAiStream_names isFinal
      rw [← same, provider, modelVersion]
      rfl
  | bedrock model promptVersion body latencyMs =>
      obtain ⟨content, -, same⟩ := Option.map_eq_some_iff.mp returned
      rw [← same]
      rfl
  | bedrockStream call =>
      obtain ⟨final, isFinal, same⟩ := final_of_ofStream returned
      unfold Bedrock.consumeStreamSync Bedrock.decodeStream at isFinal
      dsimp only at isFinal
      split at isFinal
      · cases isFinal
      · cases isFinal
        rw [← same]
        rfl

end Response

/-! ## When the cost is the cost of the configured model -/

/-- The cost written for an answer is the one of the configured provider and model:
with usage reported, tokens times rates over a million when the snapshot has the pair;
null when it has not. -/
structure PricedAsConfigured
    (configured : Str × Option Str)
    (result : ProviderResult) : Prop where
  /-- A pair in the snapshot has its cost. -/
  priced : ∀ rate, rateOf configured = some rate → ∀ read written : Nat,
    result.inputTokens = some (read : Int) → result.outputTokens = some (written : Int) →
      estimatedCostUsd (some result) =
        some ((read * rate.input + written * rate.output) / 1000000)
  /-- A pair that is not has none. -/
  unpriced : rateOf configured = none → estimatedCostUsd (some result) = none

/-- No provider has two priced models. -/
private theorem rateOf_unique
    {provider : Str}
    {model other : Option Str}
    {rate another : ModelRate}
    (priced : rateOf (provider, model) = some rate)
    (alsoPriced : rateOf (provider, other) = some another) : rate = another := by
  have perProvider : (priceSnapshot.map (·.1.1)).Nodup := by decide
  obtain ⟨left, isLeft, rfl⟩ := Option.map_eq_some_iff.mp priced
  obtain ⟨right, isRight, rfl⟩ := Option.map_eq_some_iff.mp alsoPriced
  have leftPair : left.1 = (provider, model) := by simpa using List.find?_some isLeft
  have rightPair : right.1 = (provider, other) := by simpa using List.find?_some isRight
  have same : left = right := by
    apply List.inj_on_of_nodup_map perProvider (List.mem_of_find?_eq_some isLeft)
      (List.mem_of_find?_eq_some isRight)
    rw [leftPair, rightPair]
  rw [same]

/-- The cost written for an answer, from what it is looked up under. -/
theorem estimatedCostUsd_eq
    {response : Response F}
    {result : ProviderResult}
    (returned : response.result = some result)
    {read written : Int}
    (inputTokens : result.inputTokens = some read)
    (outputTokens : result.outputTokens = some written) :
    estimatedCostUsd (some result) =
      (rateOf response.answered).map fun (rate : ModelRate) =>
        (((max read 0 : Int) : ℚ) * rate.input +
          ((max written 0 : Int) : ℚ) * rate.output) / 1000000 := by
  rw [← Response.pair_of_result returned]
  unfold estimatedCostUsd estimateGenerationCostUsd
  simp only [Option.map_some, Option.getD_some, Option.bind_some, inputTokens,
    outputTokens]
  cases rateOf (result.provider, some result.modelVersion) with
  | none => rfl
  | some rate =>
      apply congrArg some
      ring

/-- No usage, no cost. -/
theorem estimatedCostUsd_of_unreported
    {result : ProviderResult}
    (unreported : result.inputTokens = none ∨ result.outputTokens = none) :
    estimatedCostUsd (some result) = none := by
  unfold estimatedCostUsd estimateGenerationCostUsd
  simp only [Option.map_some, Option.bind_some]
  cases rateOf _ with
  | none => rfl
  | some rate =>
      rcases unreported with missing | missing
      · rw [missing]
      · rw [missing]
        cases result.inputTokens <;> rfl

/-- The cost written for a returned answer is the one of the configured pair exactly
when, if usage was reported, the snapshot has the same rate for the pair the answer
is looked up under; a negative count is no usage of a priced pair. -/
theorem pricedAsConfigured_iff
    (response : Response F)
    {result : ProviderResult}
    (returned : response.result = some result) :
    PricedAsConfigured response.configured result ↔
      ∀ read written, result.inputTokens = some read →
        result.outputTokens = some written →
        (0 ≤ read ∧ 0 ≤ written ∨ rateOf response.configured = none) →
          rateOf response.answered = rateOf response.configured := by
  have sameProvider : response.answered.1 = response.configured.1 := by
    cases response <;> rfl
  constructor
  · intro agrees read written inputTokens outputTokens counts
    have cost := estimatedCostUsd_eq returned inputTokens outputTokens
    cases entry : rateOf response.configured with
    | none =>
        rw [agrees.unpriced entry] at cost
        exact Option.map_eq_none_iff.mp cost.symm
    | some rate =>
        obtain ⟨notNegative, also⟩ : 0 ≤ read ∧ 0 ≤ written :=
          counts.resolve_right (by rw [entry]; nofun)
        obtain ⟨read, rfl⟩ := Int.eq_ofNat_of_zero_le notNegative
        obtain ⟨written, rfl⟩ := Int.eq_ofNat_of_zero_le also
        rw [agrees.priced rate entry read written inputTokens outputTokens] at cost
        obtain ⟨another, found, -⟩ := Option.map_eq_some_iff.mp cost.symm
        have sameKey : response.answered = (response.configured.1, response.answered.2) :=
          Prod.ext sameProvider rfl
        rw [found]
        rw [sameKey] at found
        exact congrArg some (rateOf_unique found entry)
  · intro same
    constructor
    · intro rate entry read written inputTokens outputTokens
      rw [estimatedCostUsd_eq returned inputTokens outputTokens,
        same read written inputTokens outputTokens
          (Or.inl ⟨Int.natCast_nonneg _, Int.natCast_nonneg _⟩), entry]
      simp
    · intro missing
      cases inputTokens : result.inputTokens with
      | none => exact estimatedCostUsd_of_unreported (Or.inl inputTokens)
      | some read =>
          cases outputTokens : result.outputTokens with
          | none => exact estimatedCostUsd_of_unreported (Or.inr outputTokens)
          | some written =>
              rw [estimatedCostUsd_eq returned inputTokens outputTokens,
                same read written inputTokens outputTokens (Or.inr missing), missing]
              rfl

/-- Answers of Bedrock have the cost of the configured model. -/
theorem pricedAsConfigured_bedrock
    {model promptVersion : Str}
    {body : Dict F}
    {latencyMs : Int}
    {result : ProviderResult}
    (returned : (Response.bedrock model promptVersion body latencyMs).result = some result) :
    PricedAsConfigured ("bedrock".toList, some model) result :=
  (pricedAsConfigured_iff (.bedrock model promptVersion body latencyMs) returned).mpr
    fun _ _ _ _ _ => rfl

/-- No answer of the stub has the cost of the stub. -/
theorem not_pricedAsConfigured_stub
    {sha256Hex : Str → Str}
    {elapsedMs : Int}
    {input : ProviderInput F}
    {result : ProviderResult}
    (returned : (Response.stub sha256Hex .ok elapsedMs input).result = some result) :
    ¬PricedAsConfigured ("stub".toList, none) result := by
  intro agrees
  have same := (pricedAsConfigured_iff (.stub sha256Hex .ok elapsedMs input) returned).mp
    agrees
  have nonnegative : ∀ text, 0 ≤ Stub.estimatedTokens text := by
    intro text
    unfold Stub.estimatedTokens
    split <;> omega
  cases returned
  have entries : rateOf ("stub".toList, some "stub-1".toList) =
      rateOf ("stub".toList, none) :=
    same _ _ rfl rfl (Or.inl ⟨nonnegative _, nonnegative _⟩)
  exact absurd entries (by decide +kernel)

/-- A response of OpenAI that names a model, with usage. -/
def namedBody (model : Str) : Dict Empty :=
  [("model".toList, .str model),
    ("usage".toList, .dict
      [("input_tokens".toList, .int 1000), ("output_tokens".toList, .int 500)])]

/-- What is made of it. -/
def namedResult (model : Str) : ProviderResult where
  content := "(empty response)".toList
  provider := "openai".toList
  modelVersion := model
  promptVersion := "v1".toList
  inputTokens := some 1000
  outputTokens := some 500
  totalTokens := some 1500
  latencyMs := some 7

/-- The configured model, named by the response. -/
theorem pricedAsConfigured_iff_named :
    PricedAsConfigured ("openai".toList, some "gpt-4.1-mini".toList)
        (namedResult "gpt-4.1-mini".toList) ↔
      ∀ read written, (namedResult "gpt-4.1-mini".toList).inputTokens = some read →
        (namedResult "gpt-4.1-mini".toList).outputTokens = some written →
        (0 ≤ read ∧ 0 ≤ written ∨
          rateOf ("openai".toList, some "gpt-4.1-mini".toList) = none) →
          rateOf ("openai".toList, some "gpt-4.1-mini".toList) =
            rateOf ("openai".toList, some "gpt-4.1-mini".toList) :=
  @pricedAsConfigured_iff Empty _
    (.openAi "gpt-4.1-mini".toList (namedBody "gpt-4.1-mini".toList) 7)
    (namedResult "gpt-4.1-mini".toList) rfl

/-- The stub asked for an answer to one message. -/
def stubResponse : Response Empty :=
  .stub (fun _ => "0123456789ab".toList) .ok 0
    { requestId := ⟨1⟩, messages := [⟨.user, "hello".toList⟩] }

/-- What it answers. -/
def stubResult : ProviderResult where
  content := "[stub:0123456789ab] hello".toList
  provider := "stub".toList
  modelVersion := "stub-1".toList
  promptVersion := "stub-prompt-1".toList
  inputTokens := some 1
  outputTokens := some 2
  totalTokens := some 3
  latencyMs := some 0

/-- The snapshot prices the stub at nothing, and an answer of the stub gets no cost: it
is looked up under the model the stub reports. -/
theorem stub_unpriced :
    ¬∀ (response : Response Empty) (result : ProviderResult),
      response.result = some result →
        PricedAsConfigured response.configured result := by
  intro claimed
  have agrees := claimed stubResponse stubResult (by decide +kernel)
  have priced : rateOf stubResponse.configured = some { input := 0, output := 0 } := by
    decide +kernel
  have unpriced : estimatedCostUsd (some stubResult) = none := by decide +kernel
  have cost := agrees.priced _ priced 1 2 rfl rfl
  rw [unpriced] at cost
  cases cost

end Pricing
end ChatPlatform
