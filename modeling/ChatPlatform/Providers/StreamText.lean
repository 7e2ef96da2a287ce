import ChatPlatform.Providers.Bedrock
import ChatPlatform.Providers.ChatService
import ChatPlatform.Providers.OpenAi
import ChatPlatform.Providers.Stub

/-!
# The streamed text and the stored text

A client sees the chunks of a stream one by one; what is stored is the content of
the final result. Every adapter assembles that content a second time, each in its
own way, and only one of them in a way that always gives the same text.
-/

namespace ChatPlatform

variable {F : Type} [FloatOps F]

/-- A request for a stream at one of the adapters, with what the stream is read
from. -/
inductive AdapterStream (F : Type)
  /-- OpenAI. -/
  | openAi (call : OpenAi.StreamCall F)
  /-- Bedrock, read in a worker thread. -/
  | bedrockThread (call : Bedrock.StreamCall F)
  /-- Bedrock, read inside the chunk iterator. -/
  | bedrockInline (call : Bedrock.StreamCall F)
  /-- The stub. -/
  | stub (sha256Hex : Str → Str) (config : Stub.StubProvider) (elapsedMs : Int)
      (input : ProviderInput F)

namespace AdapterStream

/-- What the adapter does. -/
def behaviour : AdapterStream F → StreamBehaviour
  | .openAi call => .opens (OpenAi.consumeStream call)
  | .bedrockThread call => .opens (Bedrock.consumeStreamSync call)
  | .bedrockInline call => .opens (Bedrock.buildInlineStreamSession call)
  | .stub sha256Hex config elapsedMs input =>
      Stub.stream sha256Hex config elapsedMs input

/-- The streams whose stored text is the streamed one: any of OpenAI, and those of
Bedrock whose text has no white space at either end. -/
def KeepsText : AdapterStream F → Prop
  | .openAi _ => True
  | .bedrockThread call => Text.IsTrimmed (Bedrock.deltaText call.events)
  | .bedrockInline call => Text.IsTrimmed (Bedrock.deltaText call.events)
  | .stub .. => False

end AdapterStream

/-- The final result of a completed session is the one of the script. -/
private theorem final_of_streamChat
    {script : StreamScript}
    {outcome : ChatService.GenerateOutcome}
    {session : ChatService.ChatSession}
    {result : ChatService.StreamChatResult}
    (opened : ChatService.streamChat (.opens script) outcome = .ok session)
    (completes : session.final = .ok result) :
    session.chunks = script.chunks ∧ ∃ final, script.final = .ok final ∧
      result.assistantMessage.content = final.content := by
  simp only [ChatService.streamChat, Except.ok.injEq] at opened
  rw [← opened] at completes ⊢
  refine ⟨rfl, ?_⟩
  cases shape : script.final with
  | error exception => simp [shape] at completes
  | ok final =>
      simp only [shape, Except.ok.injEq] at completes
      exact ⟨final, rfl, by rw [← completes]⟩

private theorem flatten_ne_nil_of_emitted
    {chunks : List Str}
    (emitted : ∃ chunk ∈ chunks, chunk ≠ []) : chunks.flatten ≠ [] := by
  obtain ⟨chunk, present, nonempty⟩ := emitted
  intro empty
  exact nonempty (List.flatten_eq_nil_iff.mp empty chunk present)

/-! ## The adapters -/

/-- OpenAI stores the text it streamed. -/
private theorem openAi_text
    {call : OpenAi.StreamCall F}
    {final : ProviderStreamResult}
    (completes : (OpenAi.consumeStream call).final = .ok final)
    (emitted : (OpenAi.consumeStream call).chunks.flatten ≠ []) :
    (OpenAi.consumeStream call).chunks.flatten = final.content := by
  unfold OpenAi.consumeStream at completes emitted ⊢
  cases read : OpenAi.readEvents {} call.events with
  | mk progress reported =>
      simp only [read] at completes emitted ⊢
      cases failure : reported.or call.interruption with
      | some error => simp [failure] at completes
      | none =>
          simp only [failure] at completes
          cases built : OpenAi.finalResult call progress with
          | none => simp [built] at completes
          | some result =>
              simp only [built, Except.ok.injEq] at completes
              rw [← completes, OpenAi.finalResult_content built emitted]

/-- Bedrock streams the text of the deltas and stores it normalized. -/
private theorem bedrock_text
    {call : Bedrock.StreamCall F}
    {final : ProviderStreamResult}
    (completes : (Bedrock.decodeStream call).final = .ok final) :
    (Bedrock.decodeStream call).chunks.flatten =
        Bedrock.deltaText call.events ∧
      final.content = Bedrock.normalizedContent
        (Bedrock.deltaText call.events) := by
  unfold Bedrock.decodeStream at completes ⊢
  cases read : Bedrock.readEvents {} call.events with
  | mk progress reported =>
      simp only [read] at completes ⊢
      cases failure : reported.or call.interruption with
      | some error => simp [failure] at completes
      | none =>
          simp only [failure, Except.ok.injEq] at completes
          have noReport : reported = none := (Option.or_eq_none_iff.mp failure).1
          rw [noReport] at read
          have parts := Bedrock.readEvents_contentParts read
          simp only [List.flatten_nil, List.nil_append] at parts
          rw [← completes]
          exact ⟨parts, by rw [← parts]; rfl⟩

/-- Normalizing keeps exactly the texts without white space at an end. -/
private theorem normalizedContent_eq_iff
    {text : Str}
    (nonempty : text ≠ []) :
    text = Bedrock.normalizedContent text ↔ Text.IsTrimmed text := by
  unfold Bedrock.normalizedContent
  by_cases blank : Text.strip text = []
  · rw [if_pos blank]
    have allSpace := (Text.strip_eq_nil_iff text).mp blank
    constructor
    · intro same
      rw [same] at allSpace
      exact absurd (allSpace '(' (by decide)) (by decide)
    · intro trimmed
      have first := trimmed.1 _ (List.head?_eq_some_head nonempty)
      rw [allSpace _ (List.head_mem nonempty)] at first
      cases first
  · rw [if_neg blank, ← Text.strip_eq_self_iff]
    exact eq_comm

/-- Bedrock stores the text it streamed when there is nothing to strip. -/
private theorem bedrock_text_iff
    {call : Bedrock.StreamCall F}
    {final : ProviderStreamResult}
    (completes : (Bedrock.decodeStream call).final = .ok final)
    (emitted : (Bedrock.decodeStream call).chunks.flatten ≠ []) :
    (Bedrock.decodeStream call).chunks.flatten = final.content ↔
      Text.IsTrimmed (Bedrock.deltaText call.events) := by
  obtain ⟨streamed, stored⟩ := bedrock_text completes
  rw [streamed] at emitted
  rw [streamed, stored]
  exact normalizedContent_eq_iff emitted

/-- The stub never stores the text it streamed. -/
private theorem stub_text
    {sha256Hex : Str → Str}
    {config : Stub.StubProvider}
    {elapsedMs : Int}
    {input : ProviderInput F}
    {script : StreamScript}
    {final : ProviderStreamResult}
    (opens : Stub.stream sha256Hex config elapsedMs input = .opens script)
    (completes : script.final = .ok final) :
    script.chunks.flatten ≠ final.content := by
  unfold Stub.stream Stub.generate at opens
  cases mode : config.mode with
  | error => simp [mode] at opens
  | ok =>
      simp only [mode, StreamBehaviour.opens.injEq] at opens
      rw [← opens] at completes ⊢
      simp only [Except.ok.injEq] at completes
      rw [← completes]
      exact Stub.flatten_chunksOf_ne (Stub.answer_ne_nil _ _)
        fun _ isEnding => Stub.answer_getLast? isEnding

/-- For every stream that emits some text and completes: the text the client saw
is the text that is stored exactly when the stream keeps its text. -/
theorem streamed_eq_stored_iff
    {stream : AdapterStream F}
    (outcome : ChatService.GenerateOutcome)
    {session : ChatService.ChatSession}
    {result : ChatService.StreamChatResult}
    (opened : ChatService.streamChat stream.behaviour outcome = .ok session)
    (completes : session.final = .ok result)
    (emitted : ∃ chunk ∈ session.chunks, chunk ≠ []) :
    session.chunks.flatten = result.assistantMessage.content ↔
      stream.KeepsText := by
  have someText := flatten_ne_nil_of_emitted emitted
  cases stream with
  | openAi call =>
      obtain ⟨chunks, final, finished, content⟩ :=
        final_of_streamChat opened completes
      rw [chunks] at someText ⊢
      rw [content]
      exact iff_true_intro (openAi_text finished someText)
  | bedrockThread call =>
      obtain ⟨chunks, final, finished, content⟩ :=
        final_of_streamChat opened completes
      rw [chunks] at someText ⊢
      rw [content]
      exact bedrock_text_iff finished someText
  | bedrockInline call =>
      obtain ⟨chunks, final, finished, content⟩ :=
        final_of_streamChat opened completes
      rw [chunks] at someText ⊢
      rw [content]
      exact bedrock_text_iff finished someText
  | stub sha256Hex config elapsedMs input =>
      rw [AdapterStream.behaviour] at opened
      rcases Stub.stream_opens_or_raises sha256Hex config elapsedMs input with
        ⟨script, opens⟩ | ⟨exception, raises⟩
      · rw [opens] at opened
        obtain ⟨chunks, final, finished, content⟩ :=
          final_of_streamChat opened completes
        rw [chunks, content]
        exact iff_false_intro (stub_text opens finished)
      · rw [raises] at opened
        cases opened

/-- A Bedrock stream with one delta. -/
def oneDelta (text : Str) : AdapterStream Empty :=
  .bedrockThread
    { events := [[("contentBlockDelta".toList, .dict [("delta".toList, .dict
        [("text".toList, .str text)])])]]
      interruption := none
      model := "model".toList
      promptVersion := "v1".toList
      elapsedMs := 5 }

/-- The equivalence at a stream without white space at an end. -/
theorem streamed_eq_stored_iff_hello :
    ∃ session result,
      ChatService.streamChat (oneDelta "Hello".toList).behaviour .timedOut =
        .ok session ∧ session.final = .ok result ∧
      (session.chunks.flatten = result.assistantMessage.content ↔
        (oneDelta "Hello".toList).KeepsText) :=
  ⟨_, _, rfl, rfl, streamed_eq_stored_iff .timedOut rfl rfl
    ⟨"Hello".toList, by decide, by decide⟩⟩

/-- A client sees a space after the last word that is not stored. -/
theorem streamed_ne_stored_trailing_space :
    ∃ session result,
      ChatService.streamChat (oneDelta "Hello ".toList).behaviour .timedOut =
        .ok session ∧
      session.interruption = none ∧ session.final = .ok result ∧
      (∃ chunk ∈ session.chunks, chunk ≠ []) ∧
      session.chunks.flatten ≠ result.assistantMessage.content := by
  refine ⟨_, _, rfl, rfl, rfl, ?_, ?_⟩
  · exact ⟨"Hello ".toList, by decide, by decide⟩
  · decide

end ChatPlatform
