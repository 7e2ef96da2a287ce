import ChatPlatform.Foundation.JsonText
import ChatPlatform.Route.ResponseCache

/-!
# What a cache key determines

The text that is digested determines the provider settings and the messages it was
written for. As long as the digest has no collision, the key therefore determines the
tenant, the settings and the messages.
-/

namespace ChatPlatform
namespace ResponseCache

open PrefixCode

/-- The text whose digest is part of the key. -/
def digested (settings : CacheSettings) (messages : List ChatMessage) : Str :=
  Json.dumps ⟨true, true⟩ (.dict (fingerprint settings messages))

/-! ## The digested text, key by key -/

/-- The style of the digested text. -/
abbrev keyStyle : Json.Style := ⟨true, true⟩

/-- The text of an optional setting. -/
def optionalText : Option Str → Str
  | none => "null".toList
  | some text => Json.quote keyStyle text

/-- The text of a message: its content, then its role. -/
def messageText (message : ChatMessage) : Str :=
  "\x7b\"content\":".toList ++ (Json.quote keyStyle message.content ++
    (",\"role\":".toList ++ (Json.quote keyStyle (roleText message.role) ++ ['}'])))

/-- The text of the messages, up to the end of their list. -/
def messagesText (messages : List ChatMessage) : Str :=
  Text.join [','] (messages.map messageText) ++ [']']

/-- The entries of a message are written in the order of their keys. -/
private theorem object_message (role content : Str) :
    Json.object keyStyle [("role".toList, role), ("content".toList, content)] =
      "\x7b\"content\":".toList ++
        (content ++ (",\"role\":".toList ++ (role ++ ['}']))) := by
  have ordered :
      List.insertionSort (fun left right => Json.keyLe left.1 right.1 = true)
        [("role".toList, role), ("content".toList, content)] =
      [("content".toList, content), ("role".toList, role)] := rfl
  unfold Json.object
  simp only [if_true, ordered, List.map_cons, List.map_nil, Text.join,
    List.append_assoc, List.cons_append, List.nil_append]
  rfl

/-- The entries of a fingerprint are written in the order of their keys. -/
private theorem object_fingerprint
    (messages provider fallback openai bedrock version mode : Str) :
    Json.object keyStyle
        [("messages".toList, messages), ("provider".toList, provider),
          ("fallback_provider".toList, fallback), ("openai_model".toList, openai),
          ("bedrock_model".toList, bedrock),
          ("bedrock_prompt_version".toList, version),
          ("stub_provider_mode".toList, mode)] =
      "\x7b\"bedrock_model\":".toList ++ (bedrock ++
        (",\"bedrock_prompt_version\":".toList ++ (version ++
        (",\"fallback_provider\":".toList ++ (fallback ++
        (",\"messages\":".toList ++ (messages ++
        (",\"openai_model\":".toList ++ (openai ++
        (",\"provider\":".toList ++ (provider ++
        (",\"stub_provider_mode\":".toList ++ (mode ++ ['}']))))))))))))) := by
  have ordered :
      List.insertionSort (fun left right => Json.keyLe left.1 right.1 = true)
        [("messages".toList, messages), ("provider".toList, provider),
          ("fallback_provider".toList, fallback), ("openai_model".toList, openai),
          ("bedrock_model".toList, bedrock),
          ("bedrock_prompt_version".toList, version),
          ("stub_provider_mode".toList, mode)] =
      [("bedrock_model".toList, bedrock), ("bedrock_prompt_version".toList, version),
        ("fallback_provider".toList, fallback), ("messages".toList, messages),
        ("openai_model".toList, openai), ("provider".toList, provider),
        ("stub_provider_mode".toList, mode)] := rfl
  unfold Json.object
  simp only [if_true, ordered, List.map_cons, List.map_nil, Text.join,
    List.append_assoc, List.cons_append, List.nil_append]
  rfl

/-- The items of the message list are written one by one. -/
private theorem dumpsItems_messages (messages : List ChatMessage) :
    Json.dumpsItems (F := Empty) keyStyle (messages.map fun message =>
      .dict [("role".toList, .str (roleText message.role)),
        ("content".toList, .str message.content)]) = messages.map messageText := by
  rw [Json.dumpsItems_eq_map, List.map_map]
  refine List.map_congr_left fun message _ => ?_
  simp only [Function.comp_apply, Json.dumps, Json.dumpsEntries]
  exact object_message _ _

/-- The digested text, with its keys in order. -/
private theorem digested_eq (settings : CacheSettings) (messages : List ChatMessage) :
    digested settings messages =
      "\x7b\"bedrock_model\":".toList ++ (optionalText settings.bedrockModel ++
        (",\"bedrock_prompt_version\":".toList ++
          (Json.quote keyStyle settings.bedrockPromptVersion ++
        (",\"fallback_provider\":".toList ++ (optionalText settings.fallbackProvider ++
        (",\"messages\":".toList ++ (('[' :: messagesText messages) ++
        (",\"openai_model\":".toList ++ (Json.quote keyStyle settings.openaiModel ++
        (",\"provider\":".toList ++ (Json.quote keyStyle settings.provider ++
        (",\"stub_provider_mode\":".toList ++
          (Json.quote keyStyle settings.stubProviderMode ++ ['}']))))))))))))) := by
  obtain ⟨provider, fallback, openai, bedrock, version, mode⟩ := settings
  unfold digested fingerprint
  cases fallback with
  | none =>
      cases bedrock with
      | none =>
          simp only [Json.dumps, Json.dumpsEntries, dumpsItems_messages]
          exact object_fingerprint _ _ _ _ _ _ _
      | some bedrock =>
          simp only [Json.dumps, Json.dumpsEntries, dumpsItems_messages]
          exact object_fingerprint _ _ _ _ _ _ _
  | some fallback =>
      cases bedrock with
      | none =>
          simp only [Json.dumps, Json.dumpsEntries, dumpsItems_messages]
          exact object_fingerprint _ _ _ _ _ _ _
      | some bedrock =>
          simp only [Json.dumps, Json.dumpsEntries, dumpsItems_messages]
          exact object_fingerprint _ _ _ _ _ _ _

/-! ## Reading the digested text back -/

/-- An optional setting can be read back. -/
private theorem readable_optionalText : Readable optionalText := by
  intro text text' rest rest' same
  cases text with
  | none =>
      cases text' with
      | none => exact ⟨rfl, List.append_cancel_left same⟩
      | some text' => exact absurd (List.cons.inj same).1 (by decide)
  | some text =>
      cases text' with
      | none => exact absurd (List.cons.inj same).1 (by decide)
      | some text' =>
          obtain ⟨rfl, left⟩ := Json.readable_quote keyStyle same
          exact ⟨rfl, left⟩

/-- Roles have different texts. -/
private theorem roleText_injective : Function.Injective roleText := by
  intro role role' same
  cases role <;> cases role' <;> first | rfl | exact absurd same (by decide)

/-- The text of a message and what follows it. -/
private theorem messageText_append (message : ChatMessage) (rest : Str) :
    messageText message ++ rest =
      "\x7b\"content\":".toList ++ (Json.quote keyStyle message.content ++
        (",\"role\":".toList ++
          (Json.quote keyStyle (roleText message.role) ++ (['}'] ++ rest)))) := by
  unfold messageText
  rw [List.append_assoc, List.append_assoc, List.append_assoc, List.append_assoc]

/-- A message can be read back. -/
private theorem readable_messageText : Readable messageText := by
  intro message message' rest rest' same
  rw [messageText_append, messageText_append] at same
  obtain ⟨sameContent, afterContent⟩ :=
    Json.readable_quote keyStyle (List.append_cancel_left same)
  obtain ⟨sameText, afterRole⟩ :=
    Json.readable_quote keyStyle (List.append_cancel_left afterContent)
  have sameRole := roleText_injective sameText
  cases message
  cases message'
  cases sameContent
  cases sameRole
  exact ⟨rfl, List.append_cancel_left afterRole⟩

/-- The text of a message begins with a brace. -/
private theorem messageText_starts (message : ChatMessage) :
    ∃ first word, messageText message = first :: word ∧ first ≠ ']' :=
  ⟨'\x7b', "\"content\":".toList ++ (Json.quote keyStyle message.content ++
    (",\"role\":".toList ++ (Json.quote keyStyle (roleText message.role) ++ ['}']))),
    rfl, by decide⟩

/-- The list of messages can be read back. -/
private theorem readable_messagesText : Readable messagesText := by
  have apart : ',' ≠ ']' := by decide
  exact readable_messageText.join_closed apart messageText_starts

/-- The digested text determines what it was written for. -/
theorem digested_injective
    {settings settings' : CacheSettings}
    {messages messages' : List ChatMessage}
    (same : digested settings messages = digested settings' messages') :
    settings = settings' ∧ messages = messages' := by
  rw [digested_eq, digested_eq] at same
  obtain ⟨sameBedrock, afterBedrock⟩ :=
    readable_optionalText (List.append_cancel_left same)
  obtain ⟨sameVersion, afterVersion⟩ :=
    Json.readable_quote keyStyle (List.append_cancel_left afterBedrock)
  obtain ⟨sameFallback, afterFallback⟩ :=
    readable_optionalText (List.append_cancel_left afterVersion)
  have opened := (List.cons.inj (List.append_cancel_left afterFallback)).2
  obtain ⟨sameMessages, afterMessages⟩ := readable_messagesText opened
  obtain ⟨sameOpenai, afterOpenai⟩ :=
    Json.readable_quote keyStyle (List.append_cancel_left afterMessages)
  obtain ⟨sameProvider, afterProvider⟩ :=
    Json.readable_quote keyStyle (List.append_cancel_left afterOpenai)
  obtain ⟨sameMode, -⟩ :=
    Json.readable_quote keyStyle (List.append_cancel_left afterProvider)
  cases settings
  cases settings'
  cases sameBedrock
  cases sameVersion
  cases sameFallback
  cases sameOpenai
  cases sameProvider
  cases sameMode
  exact ⟨rfl, sameMessages⟩

/-! ## Keys -/

section Key

variable {sha256 : Str → Fin (2 ^ 256)}

/-- Equal digits come from equal digests. -/
private theorem sha256_eq_of_hexdigest_eq
    {text text' : Str}
    (same : hexdigest sha256 text = hexdigest sha256 text') :
    sha256 text = sha256 text' := by
  have value : ∀ digest : Fin (2 ^ 256),
      (Numeral.hexText 64 digest).foldl Numeral.appendDigit 0 = digest := by
    intro digest
    rw [Numeral.foldl_hexText, Nat.zero_mul, Nat.zero_add]
    exact Nat.mod_eq_of_lt (lt_of_lt_of_eq digest.isLt (by norm_num))
  apply Fin.ext
  rw [← value (sha256 text), ← value (sha256 text')]
  exact congrArg (List.foldl Numeral.appendDigit 0) same

/-- A key determines the tenant, the settings and the messages, unless the digest has
a collision there. -/
theorem eq_of_cacheKey_eq
    {settings settings' : CacheSettings}
    {messages messages' : List ChatMessage}
    {tenantId tenantId' : Str}
    (noCollision : sha256 (digested settings messages) =
      sha256 (digested settings' messages') →
        digested settings messages = digested settings' messages')
    (same : cacheKey sha256 settings messages tenantId =
      cacheKey sha256 settings' messages' tenantId') :
    tenantId = tenantId' ∧ settings = settings' ∧ messages = messages' := by
  have sameTenant := tenant_eq_of_cacheKey_eq same
  subst sameTenant
  unfold cacheKey at same
  have digits := (List.cons.inj (List.append_cancel_left same)).2
  have sameText := noCollision (sha256_eq_of_hexdigest_eq digits)
  exact ⟨rfl, digested_injective sameText⟩

end Key

end ResponseCache
end ChatPlatform
