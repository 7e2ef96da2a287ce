import ChatPlatform.Recall.Chunking

/-!
# Parts of a unit

The text of an event or of a message is cut into parts that overlap. A part ends at the last
separator of its second half, if there is one. The next part starts before its end by the
overlap, and one character after its start at least. So both loops that cut texts advance.
-/

namespace ChatPlatform
namespace DualMemory

open Recall Spans Text

/-- How units are cut. -/
structure ChunkProfile where
  /-- The greatest length of a part. -/
  maxChars : Int
  /-- The overlap of neighbouring parts. -/
  overlapChars : Int
  /-- The greatest number of parts. -/
  maxChunksPerUnit : Int := 2

/-- The texts after which a part may end. -/
def unitSeparators : List Str := [['\n'], ['.', ' '], [' ']]

/-- Where the part that starts at a position ends. -/
def unitEnd
    (text : Str)
    (maxChars start : Nat) : Nat :=
  let stop := min text.length (start + maxChars)
  if stop < text.length then
    let boundary := rfindAny text unitSeparators (start + maxChars / 2) stop
    if boundary > start then boundary.toNat + 1 else stop
  else stop

/-- Where the next part starts. -/
def unitNext (overlapChars start stop : Nat) : Nat := max (stop - overlapChars) (start + 1)

/-- The ranges of the parts of a text. -/
def unitRanges
    (text : Str)
    (profile : ChunkProfile) : List (Nat × Nat) :=
  rangesFrom text.length (unitEnd text profile.maxChars.toNat)
    (unitNext profile.overlapChars.toNat) profile.maxChunksPerUnit.toNat 0

/-- The parts of a text. -/
def chunkText
    (text : Str)
    (profile : ChunkProfile) : Except Str (List Str) :=
  if profile.maxChars ≤ 0 ∨ profile.overlapChars < 0 ∨
      profile.overlapChars ≥ profile.maxChars then
    .error "invalid chunk profile".toList
  else .ok ((unitRanges text profile).map (slice text))

/-- A part is not empty, not too long and within the text. -/
theorem unitEnd_bounds
    (text : Str)
    (maxChars start : Nat)
    (maxPositive : 0 < maxChars)
    (inside : start < text.length) :
    start < unitEnd text maxChars start ∧ unitEnd text maxChars start ≤ start + maxChars ∧
      unitEnd text maxChars start ≤ text.length := by
  have found := rfindAny_bounds text unitSeparators (start + maxChars / 2)
    (min text.length (start + maxChars)) (by decide)
  unfold unitEnd
  simp only
  split
  · split <;> omega
  · omega

/-- The loop over a text advances. -/
theorem moves_unit
    (text : Str)
    (maxChars overlapChars : Nat)
    (maxPositive : 0 < maxChars) :
    Moves text.length maxChars (unitEnd text maxChars) (unitNext overlapChars) where
  ends start inside := unitEnd_bounds text maxChars start maxPositive inside
  starts start inside _ := by
    have nonempty := (unitEnd_bounds text maxChars start maxPositive inside).1
    unfold unitNext
    omega

/-- Both chunkers cut every text along ranges that advance, whenever the lengths and the limit are
valid; without a version of the index, messages are not cut at all. -/
theorem chunkers_advance
    (digests : Digests)
    (tenantId conversationId : Str)
    (message : SourceMessage)
    (indexVersion text : Str)
    (maxChars overlapChars limit : Int)
    (maxPositive : 0 < maxChars)
    (overlapNatural : 0 ≤ overlapChars)
    (overlapLess : overlapChars < maxChars)
    (limitPositive : 1 ≤ limit) :
    (if indexVersion.isEmpty then
      chunkMessage digests tenantId conversationId message
        ⟨maxChars, overlapChars, limit, indexVersion⟩ =
          .error "index_version must not be blank".toList
    else
      ∃ chunks ranges, chunkMessage digests tenantId conversationId message
          ⟨maxChars, overlapChars, limit, indexVersion⟩ = .ok chunks ∧
        CutAlong (normalizeLineEndings message.content) maxChars limit ranges
          (chunks.map (·.content)) ∧
        chunks.map (fun chunk => (chunk.startOffset, chunk.endOffset)) =
          ranges.map fun range => ((range.1 : Int), (range.2 : Int))) ∧
    ∃ fragments ranges, chunkText text ⟨maxChars, overlapChars, limit⟩ = .ok fragments ∧
      CutAlong text maxChars limit ranges fragments := by
  have validated := validate_eq ⟨maxChars, overlapChars, limit, indexVersion⟩ maxPositive
    overlapNatural overlapLess limitPositive
  constructor
  · split
    case isTrue blank =>
      rw [if_pos blank] at validated
      rw [chunkMessage, validated]
    case isFalse versioned =>
      rw [if_neg versioned] at validated
      exact chunkMessage_of_valid digests tenantId conversationId message _ maxPositive validated
  · refine ⟨_, unitRanges text ⟨maxChars, overlapChars, limit⟩, if_neg (by simp only; omega), ?_,
      rfl⟩
    exact advancing_rangesFrom (moves_unit _ _ _ (by omega)) _ 0

/-- A message and a text in parts of at most six characters with an overlap of two: the parts
of the message start at the positions 0, 3 and 6, and none of its characters is left out. -/
theorem chunkers_advance_sample :
    let message : SourceMessage := ⟨⟨"m1".toList, "user".toList, "a b, c d\re f".toList⟩, 1⟩
    ∃ chunks, chunkMessage ⟨id, id⟩ "t".toList "c".toList message ⟨6, 2, 9, "v1".toList⟩ =
        .ok chunks ∧
      chunks.map (fun chunk => (chunk.startOffset, chunk.endOffset)) =
        [(0, 5), (3, 8), (6, 12)] ∧
      CutAlong (normalizeLineEndings message.content) 6 9 [(0, 5), (3, 8), (6, 12)]
        ["a b, ".toList, ", c d".toList, " d\ne f".toList] ∧
      chunkText "ab. cd ef".toList ⟨6, 2, 9⟩ =
        .ok ["ab. ".toList, ". cd ".toList, "d ef".toList] ∧
      ∃ ranges, CutAlong "ab. cd ef".toList 6 9 ranges
        ["ab. ".toList, ". cd ".toList, "d ef".toList] := by
  intro message
  obtain ⟨ofMessage, fragments, fragmentRanges, cut, alongText⟩ :=
    chunkers_advance ⟨id, id⟩ "t".toList "c".toList message "v1".toList "ab. cd ef".toList 6 2 9
      (by decide) (by decide) (by decide) (by decide)
  rw [if_neg (by decide)] at ofMessage
  obtain ⟨chunks, ranges, cutMessage, along, offsets⟩ := ofMessage
  have parts : (chunkMessage ⟨id, id⟩ "t".toList "c".toList message
      ⟨6, 2, 9, "v1".toList⟩).map (fun chunks => (chunks.map (·.content),
        chunks.map fun chunk => (chunk.startOffset, chunk.endOffset))) =
      .ok (["a b, ".toList, ", c d".toList, " d\ne f".toList],
        [(0, 5), (3, 8), (6, 12)]) := by decide +kernel
  rw [cutMessage] at parts
  obtain ⟨contents, bounds⟩ := Prod.mk.inj (Except.ok.inj parts)
  have positions : Function.Injective fun range : Nat × Nat =>
      ((range.1 : Int), (range.2 : Int)) := by
    intro left right same
    simpa [Prod.ext_iff] using same
  obtain rfl : ranges = [(0, 5), (3, 8), (6, 12)] :=
    List.map_injective_iff.mpr positions (offsets.symm.trans bounds)
  have found : chunkText "ab. cd ef".toList ⟨6, 2, 9⟩ =
      .ok ["ab. ".toList, ". cd ".toList, "d ef".toList] := by decide +kernel
  obtain rfl := Except.ok.inj (cut.symm.trans found)
  rw [contents] at along
  exact ⟨chunks, cutMessage, bounds, along, found, fragmentRanges, alongText⟩

end DualMemory
end ChatPlatform
