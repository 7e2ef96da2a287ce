import ChatPlatform.Foundation.Occurrences
import ChatPlatform.Foundation.Spans
import ChatPlatform.Recall.Compose

/-!
# Parts of a message

A message is cut into parts that overlap. A part ends at the last separator of its last quarter,
if there is one, and the next part starts before its end by the overlap, unless that would be no
progress.
-/

namespace ChatPlatform
namespace Recall

open Spans Text

/-! ## Cutting a message -/

/-- How messages are cut. -/
structure ChunkingConfig where
  /-- The greatest length of a part. -/
  maxChars : Int
  /-- The overlap of neighbouring parts. -/
  overlapChars : Int
  /-- The greatest number of parts. -/
  maxChunksPerSourceMessage : Int
  /-- Version of the index. -/
  indexVersion : Str

/-- A configuration is checked. -/
def ChunkingConfig.validate (config : ChunkingConfig) : Except Str Unit :=
  if config.maxChars ≤ 0 then .error "max_chars must be positive".toList
  else if config.overlapChars < 0 ∨ config.overlapChars ≥ config.maxChars then
    .error "overlap_chars must be in [0, max_chars)".toList
  else if config.maxChunksPerSourceMessage ≤ 0 then
    .error "max_chunks_per_source_message must be positive".toList
  else if config.indexVersion.isEmpty then .error "index_version must not be blank".toList
  else .ok ()

/-- A message with its number. -/
structure SourceMessage extends TranscriptMessage where
  /-- Its number. -/
  sequence : Int

/-- The digests of texts. -/
structure Digests where
  /-- The identifier that is derived from a name, in the namespace of addresses. -/
  uuid5 : Str → Str
  /-- The hexadecimal digest of a text. -/
  sha256 : Str → Str

/-- The digest of a text with uniform line ends. -/
def stableTextHash
    (digests : Digests)
    (text : Str) : Str :=
  digests.sha256 (normalizeLineEndings text)

/-- The texts after which a part may end. -/
def messageSeparators : List Str := [['\n'], ['.', ' '], [';', ' '], [',', ' '], [' ']]

/-- Where the part that starts at a position ends. Three quarters of the length are exact here: the
product in floating point is, for any length below that of a text in memory. -/
def messageEnd
    (content : Str)
    (maxChars start : Nat) : Nat :=
  let hardEnd := min content.length (start + maxChars)
  if hardEnd < content.length then
    let boundaryFloor := start + max 1 (3 * maxChars / 4)
    let boundary := rfindAny content messageSeparators boundaryFloor hardEnd
    if boundary > start then
      let stop :=
        boundary.toNat + if content[boundary.toNat]? = some '\n' then 0 else 1
      if stop ≤ start then hardEnd else stop
    else hardEnd
  else hardEnd

/-- Where the next part starts. -/
def messageNext (overlapChars start stop : Nat) : Nat :=
  if stop - overlapChars > start then stop - overlapChars else stop

/-- The ranges of the parts of a text. -/
def messageRanges
    (content : Str)
    (config : ChunkingConfig) : List (Nat × Nat) :=
  rangesFrom content.length (messageEnd content config.maxChars.toNat)
    (messageNext config.overlapChars.toNat) config.maxChunksPerSourceMessage.toNat 0

/-- The parts of a message. -/
def chunkMessage
    (digests : Digests)
    (tenantId conversationId : Str)
    (message : SourceMessage)
    (config : ChunkingConfig) : Except Str (List MemoryChunk) :=
  match config.validate with
  | .error problem => .error problem
  | .ok () =>
      let content := normalizeLineEndings message.content
      .ok ((messageRanges content config).zipIdx.map fun entry =>
        let fragment := slice content entry.1
        { artifactId := digests.uuid5 ("orq-27:".toList ++ message.messageId ++ ":".toList ++
            Numeral.decimal entry.2 ++ ":".toList ++ config.indexVersion)
          tenantId := tenantId
          conversationId := conversationId
          sourceMessageId := message.messageId
          sourceRole := message.role
          sourceSequence := message.sequence
          chunkOrdinal := entry.2
          startOffset := entry.1.1
          endOffset := entry.1.2
          content := fragment
          sourceHash := stableTextHash digests content
          embeddingInputHash := stableTextHash digests fragment
          indexVersion := config.indexVersion })

/-! ## The loop advances -/

/-- No separator is empty. -/
theorem length_messageSeparators_pos : ∀ separator ∈ messageSeparators, 0 < separator.length := by
  decide

/-- A part is not empty, not too long and within the text. -/
theorem messageEnd_bounds
    (content : Str)
    (maxChars start : Nat)
    (maxPositive : 0 < maxChars)
    (inside : start < content.length) :
    start < messageEnd content maxChars start ∧
      messageEnd content maxChars start ≤ start + maxChars ∧
        messageEnd content maxChars start ≤ content.length := by
  have found := rfindAny_bounds content messageSeparators (start + max 1 (3 * maxChars / 4))
    (min content.length (start + maxChars)) length_messageSeparators_pos
  unfold messageEnd
  simp only
  split
  · split
    · split <;> split <;> omega
    · omega
  · omega

/-- The next part starts later but not after the end of this one. -/
theorem messageNext_bounds
    (overlapChars start stop : Nat)
    (nonempty : start < stop) :
    start < messageNext overlapChars start stop ∧ messageNext overlapChars start stop ≤ stop := by
  unfold messageNext
  split <;> omega

/-- The loop over a message advances. -/
theorem moves_message
    (content : Str)
    (maxChars overlapChars : Nat)
    (maxPositive : 0 < maxChars) :
    Moves content.length maxChars (messageEnd content maxChars) (messageNext overlapChars) where
  ends start inside := messageEnd_bounds content maxChars start maxPositive inside
  starts start inside _ :=
    messageNext_bounds _ _ _ (messageEnd_bounds content maxChars start maxPositive inside).1

/-- The parts of a text are slices of it at ranges that advance. -/
def CutAlong
    (content : Str)
    (maxChars limit : Int)
    (ranges : List (Nat × Nat))
    (fragments : List Str) : Prop :=
  Advancing 0 content.length maxChars.toNat limit.toNat ranges ∧
    fragments = ranges.map (slice content)

/-- What is computed of the entries of a numbered list without their numbers. -/
private theorem map_zipIdx
    {α β : Type}
    (f : α → β)
    (entries : List α) : entries.zipIdx.map (fun entry => f entry.1) = entries.map f := by
  calc entries.zipIdx.map (fun entry => f entry.1) = (entries.zipIdx.map Prod.fst).map f :=
        (List.map_map ..).symm
    _ = entries.map f := by rw [List.zipIdx_map_fst]

/-- A configuration whose numbers are valid fails only without a version. -/
theorem validate_eq
    (config : ChunkingConfig)
    (maxPositive : 0 < config.maxChars)
    (overlapNatural : 0 ≤ config.overlapChars)
    (overlapLess : config.overlapChars < config.maxChars)
    (limitPositive : 1 ≤ config.maxChunksPerSourceMessage) :
    config.validate =
      if config.indexVersion.isEmpty then .error "index_version must not be blank".toList
      else .ok () := by
  rw [ChunkingConfig.validate, if_neg (by omega), if_neg (by omega), if_neg (by omega)]

/-- A message is cut along ranges that advance when the configuration is valid. -/
theorem chunkMessage_of_valid
    (digests : Digests)
    (tenantId conversationId : Str)
    (message : SourceMessage)
    (config : ChunkingConfig)
    (maxPositive : 0 < config.maxChars)
    (valid : config.validate = .ok ()) :
    ∃ chunks ranges, chunkMessage digests tenantId conversationId message config = .ok chunks ∧
      CutAlong (normalizeLineEndings message.content) config.maxChars
        config.maxChunksPerSourceMessage ranges (chunks.map (·.content)) ∧
      chunks.map (fun chunk => (chunk.startOffset, chunk.endOffset)) =
        ranges.map fun range => ((range.1 : Int), (range.2 : Int)) := by
  refine ⟨_, messageRanges (normalizeLineEndings message.content) config,
    by rw [chunkMessage, valid], ⟨?_, ?_⟩, ?_⟩
  · exact advancing_rangesFrom (moves_message _ _ _ (by omega)) _ 0
  · rw [List.map_map]
    exact map_zipIdx (slice (normalizeLineEndings message.content)) _
  · rw [List.map_map]
    exact map_zipIdx (fun range : Nat × Nat => ((range.1 : Int), (range.2 : Int))) _

end Recall
end ChatPlatform
