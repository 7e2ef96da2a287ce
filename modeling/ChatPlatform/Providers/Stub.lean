import ChatPlatform.Providers.Port

/-!
# The stub provider

A deterministic provider for development. It answers with a digest of the request
in front of the last message, and streams the words of that answer.
-/

namespace ChatPlatform
namespace Stub

variable {F : Type} [FloatOps F]

/-- Whether the stub answers or fails. -/
inductive Mode
  | ok
  | error
  deriving DecidableEq, Repr

/-- Configuration of the stub. -/
structure StubProvider where
  /-- Name it reports. -/
  provider : Str := "stub".toList
  /-- Model it reports. -/
  modelVersion : Str := "stub-1".toList
  /-- Prompt version it reports. -/
  promptVersion : Str := "stub-prompt-1".toList
  /-- Whether it answers. -/
  mode : Mode := .ok

/-- At least one word for a text that is not empty. -/
def estimatedTokens (text : Str) : Int :=
  if text = [] then 0 else max 1 (Text.words text).length

/-- The answer to the last message. -/
def answer (digest last : Str) : Str :=
  Text.strip ("[stub:".toList ++ digest ++ "] ".toList ++ last)

/-- One call; `sha256Hex` is the hexadecimal digest of a text's UTF-8 bytes. -/
def generate
    (sha256Hex : Str → Str)
    (stub : StubProvider)
    (elapsedMs : Int)
    (input : ProviderInput F) : Except ProviderException ProviderResult :=
  match stub.mode with
  | .error =>
      .error (.other "RuntimeError".toList "StubProvider simulated error".toList)
  | .ok =>
      let messages := messagesForProvider input
      let last := ((messages.getLast?).map (·.content)).getD []
      let digest := (sha256Hex (input.requestId.text ++ ':' :: last)).take 12
      let content := answer digest last
      let inTok := estimatedTokens (Text.join [' '] (messages.map (·.content)))
      let outTok := estimatedTokens content
      .ok
        { content
          provider := stub.provider
          modelVersion := stub.modelVersion
          promptVersion := stub.promptVersion
          inputTokens := some inTok
          outputTokens := some outTok
          totalTokens := if inTok ≠ 0 ∧ outTok ≠ 0 then some (inTok + outTok) else none
          latencyMs := some elapsedMs }

/-- The chunks of an answer: each word with a space after it. -/
def chunksOf (content : Str) : List Str :=
  (Text.words content).map (· ++ [' '])

/-- Ask the stub for a stream. -/
def stream
    (sha256Hex : Str → Str)
    (stub : StubProvider)
    (elapsedMs : Int)
    (input : ProviderInput F) : StreamBehaviour :=
  match generate sha256Hex stub elapsedMs input with
  | .error exception => .raises exception
  | .ok result =>
      .opens
        { chunks := chunksOf result.content
          interruption := none
          final := .ok { content := result.content, providerResult := result } }

/-- The stub has a stream function. -/
theorem stream_opens_or_raises
    (sha256Hex : Str → Str)
    (stub : StubProvider)
    (elapsedMs : Int)
    (input : ProviderInput F) :
    (∃ script, stream sha256Hex stub elapsedMs input = .opens script) ∨
      ∃ exception, stream sha256Hex stub elapsedMs input = .raises exception := by
  unfold stream
  split
  · exact Or.inr ⟨_, rfl⟩
  · exact Or.inl ⟨_, rfl⟩

/-- The words of a text that does not end in white space never concatenate to it
when each is followed by a space. -/
theorem flatten_chunksOf_ne
    {content : Str}
    (nonempty : content ≠ [])
    (closed : ∀ ending, content.getLast? = some ending →
      Text.isSpace ending = false) :
    (chunksOf content).flatten ≠ content := by
  intro same
  unfold chunksOf at same
  rcases List.eq_nil_or_concat (Text.words content) with none | ⟨front, last, some⟩
  · rw [none] at same
    exact nonempty same.symm
  · rw [some] at same
    have ending : content.getLast? = Option.some ' ' := by
      rw [← same]
      simp [List.getLast?_append]
    exact absurd (closed ' ' ending) (by decide)

/-- The answer is not empty. -/
theorem answer_ne_nil (digest last : Str) : answer digest last ≠ [] := by
  intro empty
  have allSpace := (Text.strip_eq_nil_iff _).mp empty '[' (by simp)
  exact absurd allSpace (by decide)

/-- The answer does not end in white space. -/
theorem answer_getLast?
    {digest last : Str}
    {ending : Char}
    (isEnding : (answer digest last).getLast? = some ending) :
    Text.isSpace ending = false := by
  have notSpace := Text.strip_getLast_not_space (answer_ne_nil digest last)
  rw [List.getLast?_eq_some_getLast (answer_ne_nil digest last)] at isEnding
  rwa [← Option.some.inj isEnding]

end Stub
end ChatPlatform
