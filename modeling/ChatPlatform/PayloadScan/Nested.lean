import ChatPlatform.Foundation.Traversal
import ChatPlatform.PayloadScan.Neighbours

/-!
# Detection in what a text decodes to

What a visit returns is what is found in its layer, in what its percent escapes decode to and
in what each of its encodings decodes to. It returns only when all of this together is not too
much.
-/

namespace ChatPlatform
namespace PayloadScan

open Pattern Decoding Spans Traversal

/-! ## What a visit returns -/

section Visits

variable
    {visitLayer : Str → Nat → Visit}
    {layer : Str}
    {depth examined total : Nat}
    {spans : List (Nat × Nat)}
    {encoded : List Finding}

/-- What is found in encodings is found in one of them. -/
theorem exists_of_mem_visitCandidates
    (visited : visitCandidates visitLayer layer depth examined spans = .ok (encoded, total))
    {finding : Finding}
    (present : finding ∈ encoded) :
    ∃ span ∈ spans, ∃ bytes, decodeBase64 (slice layer span) = some bytes ∧
      ∃ before found after, visitBytes visitLayer
        ⟨.opaqueEncodedBlob, depth + 1, span.1, span.2⟩ bytes before = .ok (found, after) ∧
          finding ∈ found := by
  induction spans generalizing examined encoded with
  | nil =>
      cases visited
      cases present
  | cons span rest inductionHypothesis =>
      rw [visitCandidates] at visited
      split at visited
      · obtain ⟨other, isOther, found⟩ := inductionHypothesis visited present
        exact ⟨other, List.mem_cons_of_mem _ isOther, found⟩
      · rename_i bytes isDecoded
        obtain ⟨⟨found, after⟩, isFound, visited⟩ := exists_of_bind_eq_ok visited
        obtain ⟨⟨later, last⟩, isLater, visited⟩ := exists_of_bind_eq_ok visited
        cases visited
        rcases List.mem_append.mp present with inFound | inLater
        · exact ⟨span, List.mem_cons_self, bytes, isDecoded, _, found, after, isFound, inFound⟩
        · obtain ⟨other, isOther, found⟩ := inductionHypothesis isLater inLater
          exact ⟨other, List.mem_cons_of_mem _ isOther, found⟩

/-- What is found in an encoding is found. -/
theorem visitBytes_of_visitCandidates
    (visited : visitCandidates visitLayer layer depth examined spans = .ok (encoded, total))
    {span : Nat × Nat}
    (present : span ∈ spans)
    {bytes : List Byte}
    (isDecoded : decodeBase64 (slice layer span) = some bytes) :
    ∃ before found after, visitBytes visitLayer
      ⟨.opaqueEncodedBlob, depth + 1, span.1, span.2⟩ bytes before = .ok (found, after) ∧
        found ⊆ encoded := by
  induction spans generalizing examined encoded with
  | nil => cases present
  | cons other rest inductionHypothesis =>
      rw [visitCandidates] at visited
      split at visited
      · rename_i isOpaque
        rcases List.mem_cons.mp present with rfl | inRest
        · rw [isOpaque] at isDecoded
          cases isDecoded
        · exact inductionHypothesis visited inRest
      · rename_i otherBytes isOther
        obtain ⟨⟨found, after⟩, isFound, visited⟩ := exists_of_bind_eq_ok visited
        obtain ⟨⟨later, last⟩, isLater, visited⟩ := exists_of_bind_eq_ok visited
        cases visited
        rcases List.mem_cons.mp present with rfl | inRest
        · obtain rfl := Option.some.inj (isDecoded.symm.trans isOther)
          exact ⟨_, found, after, isFound, List.subset_append_left _ _⟩
        · obtain ⟨before, within, last, isWithin, subset⟩ := inductionHypothesis isLater inRest
          exact ⟨before, within, last, isWithin, List.subset_append_of_subset_right _ subset⟩

/-- What some bytes stand for is visited, or they are found. -/
theorem visitBytes_eq_ok
    {opaqueBlob : Finding}
    {bytes : List Byte}
    {found : List Finding}
    (visited : visitBytes visitLayer opaqueBlob bytes examined = .ok (found, total)) :
    (decodeUtf8 bytes = none ∧ found = [opaqueBlob]) ∨
      ∃ text, decodeUtf8 bytes = some text ∧ visitLayer text examined = .ok (found, total) := by
  rw [visitBytes] at visited
  split at visited
  · rename_i isOpaque
    cases visited
    exact Or.inl ⟨isOpaque, rfl⟩
  · rename_i text isText
    exact Or.inr ⟨text, isText, visited⟩

end Visits

section Layers

variable
    {unicode : Unicode}
    {budget levels examined total : Nat}
    {text : Str}
    {findings : List Finding}

/-- Where no more is decoded, nothing is encoded. -/
theorem visit_zero_eq_ok
    (visited : visit unicode budget 0 text examined = .ok (findings, total)) :
    findings = scanPlain unicode (unicode.nfkc text) maxDecodeDepth ∧
      hasPercent (unicode.nfkc text) = false ∧
        ∀ span ∈ candidates (unicode.nfkc text),
          decodeBase64 (slice (unicode.nfkc text) span) = none := by
  unfold visit at visited
  dsimp only at visited
  generalize (if maxDecodeDepth - 0 > 0 then examined + (unicode.nfkc text).length else examined) =
    counted at visited
  split at visited
  · cases visited
  · split at visited
    · cases visited
    · rename_i nothing
      cases visited
      rw [Bool.not_eq_true, Bool.or_eq_false_iff, List.any_eq_false] at nothing
      refine ⟨rfl, nothing.1, fun span present => ?_⟩
      simpa using nothing.2 span present

/-- What a visit returns. -/
theorem visit_succ_eq_ok
    (visited : visit unicode budget (levels + 1) text examined = .ok (findings, total)) :
    ∃ percent encoded before middle,
      findings = scanPlain unicode (unicode.nfkc text) (maxDecodeDepth - (levels + 1)) ++
        percent ++ encoded ∧
      (hasPercent (unicode.nfkc text) = true →
        visitBytes (visit unicode budget levels)
          ⟨.opaqueEncodedBlob, maxDecodeDepth - (levels + 1) + 1, 0, (unicode.nfkc text).length⟩
            (unquoteToBytes (unicode.nfkc text)) before = .ok (percent, middle)) ∧
      (hasPercent (unicode.nfkc text) = false → percent = []) ∧
      visitCandidates (visit unicode budget levels) (unicode.nfkc text)
        (maxDecodeDepth - (levels + 1)) middle (candidates (unicode.nfkc text)) =
          .ok (encoded, total) := by
  unfold visit at visited
  dsimp only at visited
  generalize (if maxDecodeDepth - (levels + 1) > 0 then examined + (unicode.nfkc text).length
    else examined) = counted at visited
  split at visited
  · cases visited
  · split at visited
    · rename_i escaped
      obtain ⟨⟨percent, middle⟩, isPercent, visited⟩ := exists_of_bind_eq_ok visited
      obtain ⟨⟨encoded, last⟩, isEncoded, visited⟩ := exists_of_bind_eq_ok visited
      cases visited
      refine ⟨percent, encoded, _, middle, rfl, fun _ => isPercent, fun none => ?_, isEncoded⟩
      rw [escaped] at none
      cases none
    · rename_i plain
      obtain ⟨⟨percent, middle⟩, isPercent, visited⟩ := exists_of_bind_eq_ok visited
      obtain ⟨⟨encoded, last⟩, isEncoded, visited⟩ := exists_of_bind_eq_ok visited
      cases visited
      cases isPercent
      exact ⟨[], encoded, 0, _, rfl, fun escaped => absurd escaped plain, fun _ => rfl, isEncoded⟩

end Layers

/-! ## How much is decoded -/

section Limits

variable (unicode : Unicode)

/-- How much some bytes stand for. -/
def bytesSize (size : Str → Nat) (bytes : List Byte) : Nat :=
  ((decodeUtf8 bytes).map size).getD 0

/-- How much some encodings stand for. -/
def candidatesSize (size : Str → Nat) (layer : Str) : List (Nat × Nat) → Nat
  | [] => 0
  | span :: rest =>
      ((decodeBase64 (slice layer span)).map (bytesSize size)).getD 0 +
        candidatesSize size layer rest

/-- How many characters a text decodes to in all layers, where `levels` more may be decoded. -/
def expansion : (levels : Nat) → (text : Str) → Nat
  | 0, _ => 0
  | levels + 1, text =>
      let layer := unicode.nfkc text
      let size := fun inner => (unicode.nfkc inner).length + expansion levels inner
      (if hasPercent layer then bytesSize size (unquoteToBytes layer) else 0) +
        candidatesSize size layer (candidates layer)

/-- A text is too long, or it decodes to more than may be examined. -/
def Exceeds (text : Str) : Prop :=
  maxInputChars < text.length ∨
    min maxExpansionChars (maxExpansionFactor * max text.length 1) <
      expansion unicode maxDecodeDepth text

/-- A visit that returns counts what it examines, and does not exceed the budget. -/
def Counts (budget : Nat) (size : Str → Nat) (visitLayer : Str → Nat → Visit) : Prop :=
  ∀ {text : Str} {examined total : Nat} {found : List Finding}, examined ≤ budget →
    visitLayer text examined = .ok (found, total) →
      total = examined + size text ∧ total ≤ budget

variable
    {unicode : Unicode}
    {budget examined total : Nat}
    {size : Str → Nat}
    {visitLayer : Str → Nat → Visit}
    {found : List Finding}

/-- What some bytes stand for is counted. -/
private theorem Counts.bytes
    (counts : Counts budget size visitLayer)
    {opaqueBlob : Finding}
    {bytes : List Byte}
    (start : examined ≤ budget)
    (visited : visitBytes visitLayer opaqueBlob bytes examined = .ok (found, total)) :
    total = examined + bytesSize size bytes ∧ total ≤ budget := by
  unfold visitBytes at visited
  unfold bytesSize
  cases isText : decodeUtf8 bytes with
  | none =>
      rw [isText] at visited
      cases visited
      exact ⟨rfl, start⟩
  | some text =>
      rw [isText] at visited
      exact counts start visited

/-- What some encodings stand for is counted. -/
private theorem Counts.candidates
    (counts : Counts budget size visitLayer)
    {layer : Str}
    {depth : Nat}
    {spans : List (Nat × Nat)}
    (start : examined ≤ budget)
    (visited : visitCandidates visitLayer layer depth examined spans = .ok (found, total)) :
    total = examined + candidatesSize size layer spans ∧ total ≤ budget := by
  induction spans generalizing examined found with
  | nil =>
      cases visited
      exact ⟨rfl, start⟩
  | cons span rest inductionHypothesis =>
      rw [visitCandidates] at visited
      unfold candidatesSize
      cases isDecoded : decodeBase64 (slice layer span) with
      | none =>
          rw [isDecoded] at visited
          obtain ⟨counted, within⟩ := inductionHypothesis start visited
          refine ⟨?_, within⟩
          rw [counted, Option.map_none, Option.getD_none, Nat.zero_add]
      | some bytes =>
          rw [isDecoded] at visited
          obtain ⟨⟨inner, middle⟩, isInner, visited⟩ := exists_of_bind_eq_ok visited
          obtain ⟨⟨later, last⟩, isLater, visited⟩ := exists_of_bind_eq_ok visited
          cases visited
          obtain ⟨here, within⟩ := counts.bytes start isInner
          obtain ⟨counted, within⟩ := inductionHypothesis within isLater
          refine ⟨?_, within⟩
          rw [counted, here, Option.map_some, Option.getD_some, Nat.add_assoc]

/-- A visit that returns has counted its layer and all that the layer decodes to. -/
theorem total_of_visit
    {levels : Nat}
    (few : levels ≤ maxDecodeDepth)
    {text : Str}
    (start : examined ≤ budget)
    (visited : visit unicode budget levels text examined = .ok (found, total)) :
    total = (if maxDecodeDepth - levels > 0 then examined + (unicode.nfkc text).length
      else examined) + expansion unicode levels text ∧ total ≤ budget := by
  induction levels generalizing text examined total found with
  | zero =>
      unfold visit at visited
      dsimp only at visited
      generalize (if maxDecodeDepth - 0 > 0 then examined + (unicode.nfkc text).length
        else examined) = counted at visited ⊢
      split at visited
      · cases visited
      · rename_i passes
        split at visited
        · cases visited
        · cases visited
          exact ⟨rfl, Nat.le_of_not_lt fun more => passes ⟨by decide, more⟩⟩
  | succ levels inductionHypothesis =>
      have counts : Counts budget
          (fun inner => (unicode.nfkc inner).length + expansion unicode levels inner)
          (visit unicode budget levels) := by
        intro inner before after inside early visited
        obtain ⟨counted, within⟩ := inductionHypothesis (Nat.le_of_succ_le few) early visited
        refine ⟨?_, within⟩
        rw [counted, if_pos (Nat.sub_pos_of_lt few), Nat.add_assoc]
      unfold visit at visited
      dsimp only at visited
      unfold expansion
      dsimp only
      generalize isCounted : (if maxDecodeDepth - (levels + 1) > 0 then
        examined + (unicode.nfkc text).length else examined) = counted at visited ⊢
      split at visited
      · cases visited
      · rename_i passes
        have within : counted ≤ budget := by
          by_cases deep : maxDecodeDepth - (levels + 1) > 0
          · exact Nat.le_of_not_lt fun more => passes ⟨deep, more⟩
          · rw [← isCounted, if_neg deep]
            exact start
        split at visited
        · rename_i escaped
          obtain ⟨⟨percent, middle⟩, isPercent, visited⟩ := exists_of_bind_eq_ok visited
          obtain ⟨⟨encoded, last⟩, isEncoded, visited⟩ := exists_of_bind_eq_ok visited
          cases visited
          obtain ⟨undone, within⟩ := counts.bytes within isPercent
          obtain ⟨all, within⟩ := counts.candidates within isEncoded
          refine ⟨?_, within⟩
          rw [if_pos escaped, all, undone, Nat.add_assoc]
        · rename_i plain
          obtain ⟨⟨percent, middle⟩, isPercent, visited⟩ := exists_of_bind_eq_ok visited
          obtain ⟨⟨encoded, last⟩, isEncoded, visited⟩ := exists_of_bind_eq_ok visited
          cases isPercent
          cases visited
          obtain ⟨all, within⟩ := counts.candidates within isEncoded
          refine ⟨?_, within⟩
          rw [if_neg plain, all, Nat.zero_add]

end Limits

/-! ## What shows among neighbours -/

section Shows

variable (unicode : Unicode)

/-- What a layer decodes to shows among what its neighbours decode to. -/
def ShowsDecoded (shows : Str → Str → Str → Prop) (front text back : Str) : Prop :=
  (hasPercent text = true ∧ ∀ {first middle last : Str},
    decodeUtf8 (unquoteToBytes front) = some first →
      decodeUtf8 (unquoteToBytes text) = some middle →
        decodeUtf8 (unquoteToBytes back) = some last → shows first middle last) ∨
  ∃ span ∈ candidates text, ∃ bytes, decodeBase64 (slice text span) = some bytes ∧
    ∀ {inner : Str}, decodeUtf8 bytes = some inner → shows [] inner []

/-- A text has a finding that its neighbours leave alone, where `levels` more may be decoded,
or an encoding that is nested too deep. -/
def Shows : (levels : Nat) → (front text back : Str) → Prop
  | 0, front, text, back =>
      ShowsHere unicode (unicode.nfkc front) (unicode.nfkc text) (unicode.nfkc back) ∨
        hasPercent (unicode.nfkc text) = true ∨
          ∃ span ∈ candidates (unicode.nfkc text),
            (decodeBase64 (slice (unicode.nfkc text) span)).isSome = true
  | levels + 1, front, text, back =>
      ShowsHere unicode (unicode.nfkc front) (unicode.nfkc text) (unicode.nfkc back) ∨
        ShowsDecoded (Shows levels) (unicode.nfkc front) (unicode.nfkc text) (unicode.nfkc back)

/-- What shows in a layer is found there. -/
theorem scanPlain_ne_nil
    {front text back : Str}
    (closes : Ends isGap front)
    (begins : Begins isGap back)
    (shows : ShowsHere unicode front text back)
    (depth : Nat) : scanPlain unicode (front ++ (text ++ back)) depth ≠ [] := by
  obtain ⟨kind, span, present, outside, alone⟩ := shows
  obtain ⟨other, isOther, isOutside⟩ :=
    spansOf_surrounded unicode closes begins present outside alone
  have plain : kind ∈ plainKinds := by
    cases kind with
    | opaqueEncodedBlob => cases present
    | _ => decide
  refine List.ne_nil_of_mem (List.mem_flatMap.mpr ⟨kind, plain, List.mem_map_of_mem
    (List.mem_filter.mpr ⟨isOther, ?_⟩)⟩)
  rw [isOutside, Bool.not_false]

/-- Composing a text among its neighbours. -/
private theorem nfkc_surrounded
    {front back : Str}
    (closes : Ends isGap front)
    (begins : Begins isGap back)
    (text : Str) :
    unicode.nfkc (front ++ (text ++ back)) =
        unicode.nfkc front ++ (unicode.nfkc text ++ unicode.nfkc back) ∧
      Ends isGap (unicode.nfkc front) ∧ Begins isGap (unicode.nfkc back) :=
  ⟨Option.some.inj ((readsApart_nfkc unicode).surrounded closes begins text),
    (readsApart_nfkc unicode).closes closes rfl, (readsApart_nfkc unicode).begins begins rfl⟩

/-- Where a text shows, a visit of its surroundings that returns has found something. -/
theorem visit_ne_nil
    {budget levels examined total : Nat}
    {front text back : Str}
    (closes : Ends isGap front)
    (begins : Begins isGap back)
    (shows : Shows unicode levels front text back)
    {findings : List Finding}
    (visited : visit unicode budget levels (front ++ (text ++ back)) examined =
      .ok (findings, total)) : findings ≠ [] := by
  induction levels generalizing front text back examined total findings with
  | zero =>
      obtain ⟨composed, closesLayer, beginsLayer⟩ := nfkc_surrounded unicode closes begins text
      obtain ⟨isPlain, noPercent, noEncoding⟩ := visit_zero_eq_ok visited
      rw [composed] at isPlain noPercent noEncoding
      rcases shows with here | escaped | ⟨span, isCandidate, isDecoded⟩
      · rw [isPlain]
        exact scanPlain_ne_nil unicode closesLayer beginsLayer here _
      · rw [hasPercent_surrounded closesLayer beginsLayer escaped] at noPercent
        cases noPercent
      · have none := noEncoding _ (candidates_surrounded closesLayer beginsLayer isCandidate)
        have bounded := (bounded_of_mem_finditer (List.mem_filter.mp isCandidate).1).2
        rw [slice_surrounded bounded] at none
        rw [none] at isDecoded
        cases isDecoded
  | succ levels inductionHypothesis =>
      obtain ⟨composed, closesLayer, beginsLayer⟩ := nfkc_surrounded unicode closes begins text
      obtain ⟨percent, encoded, before, middle, rfl, isPercent, -, isEncoded⟩ :=
        visit_succ_eq_ok visited
      rw [composed] at isPercent isEncoded ⊢
      rcases shows with here | ⟨escaped, deeper⟩ | ⟨span, isCandidate, bytes, isDecoded, deeper⟩
      · rw [List.append_assoc]
        exact List.append_ne_nil_of_left_ne_nil
          (scanPlain_ne_nil unicode closesLayer beginsLayer here _) _
      · have held : percent ≠ [] := by
          rcases visitBytes_eq_ok
            (isPercent (hasPercent_surrounded closesLayer beginsLayer escaped)) with
              ⟨-, rfl⟩ | ⟨decoded, isText, visited⟩
          · exact List.cons_ne_nil _ _
          · rw [readsApart_unquote.surrounded closesLayer beginsLayer] at isText
            obtain ⟨first, isFirst, isText⟩ := Option.bind_eq_some_iff.mp isText
            obtain ⟨inner, isInner, isText⟩ := Option.bind_eq_some_iff.mp isText
            obtain ⟨last, isLast, rfl⟩ := Option.map_eq_some_iff.mp isText
            exact inductionHypothesis (readsApart_unquote.closes closesLayer isFirst)
              (readsApart_unquote.begins beginsLayer isLast) (deeper isFirst isInner isLast) visited
        exact List.append_ne_nil_of_left_ne_nil (List.append_ne_nil_of_right_ne_nil _ held) _
      · have bounded := (bounded_of_mem_finditer (List.mem_filter.mp isCandidate).1).2
        rw [← slice_surrounded bounded] at isDecoded
        obtain ⟨start, found, stop, isFound, subset⟩ := visitBytes_of_visitCandidates isEncoded
          (candidates_surrounded closesLayer beginsLayer isCandidate) isDecoded
        have held : found ≠ [] := by
          rcases visitBytes_eq_ok isFound with ⟨-, rfl⟩ | ⟨inner, isText, visited⟩
          · exact List.cons_ne_nil _ _
          · have alone : visit unicode budget levels ([] ++ (inner ++ [])) start =
                .ok (found, stop) := by
              rw [List.append_nil]
              exact visited
            have endsNil : Ends isGap [] := rfl
            have beginsNil : Begins isGap [] := rfl
            exact inductionHypothesis endsNil beginsNil (deeper isText) alone
        exact List.append_ne_nil_of_right_ne_nil _ fun empty =>
          held (List.subset_nil.mp (empty ▸ subset))

/-- A finding that is no number that may run on, or that has no neighbours. -/
def Finding.Stays (finding : Finding) (front back : Str) : Prop :=
  (finding.kind ≠ .cardNumber ∧ finding.kind ≠ .iban) ∨ (front = [] ∧ back = [])

/-- A finding stays when its neighbours are read apart. -/
private theorem Finding.Stays.read
    {read : Str → Option Str}
    (apart : ReadsApart read)
    {finding : Finding}
    {front back first last : Str}
    (stays : finding.Stays front back)
    (isFirst : read front = some first)
    (isLast : read back = some last) : finding.Stays first last := by
  refine Or.imp_right ?_ stays
  rintro ⟨rfl, rfl⟩
  exact ⟨Option.some.inj (isFirst.symm.trans apart.nil),
    Option.some.inj (isLast.symm.trans apart.nil)⟩

/-- What is found in a layer shows when it stays. -/
private theorem showsHere_of_mem
    {front text back : Str}
    {depth : Nat}
    {finding : Finding}
    (present : finding ∈ scanPlain unicode text depth)
    (stays : finding.Stays front back) : ShowsHere unicode front text back := by
  obtain ⟨kind, -, isFinding⟩ := List.mem_flatMap.mp present
  obtain ⟨span, isSpan, rfl⟩ := List.mem_map.mp isFinding
  obtain ⟨isSpan, outside⟩ := List.mem_filter.mp isSpan
  rw [Bool.not_eq_true'] at outside
  refine ⟨kind, span, isSpan, outside, ?_⟩
  have own : ∀ {pattern : Pattern}, front = [] ∧ back = [] →
      span ∈ finditer pattern (numericView text) →
        shift front.length span ∈ finditer pattern (numericView (front ++ (text ++ back))) := by
    rintro pattern ⟨rfl, rfl⟩ isMatch
    rw [List.nil_append, List.append_nil, List.length_nil, shift, Nat.zero_add, Nat.zero_add]
    exact isMatch
  cases kind with
  | cardNumber =>
      exact own (stays.resolve_left fun other => other.1 rfl) (List.mem_filter.mp isSpan).1
  | iban => exact own (stays.resolve_left fun other => other.2 rfl) (List.mem_filter.mp isSpan).1
  | _ => trivial

/-- Whatever a visit finds shows among neighbours, unless it is a number that may run on, and
everything it finds shows without neighbours. -/
theorem shows_of_mem
    {budget levels examined total : Nat}
    {front text back : Str}
    {findings : List Finding}
    (visited : visit unicode budget levels text examined = .ok (findings, total))
    {finding : Finding}
    (present : finding ∈ findings)
    (stays : finding.Stays front back) : Shows unicode levels front text back := by
  induction levels generalizing front text back examined total findings with
  | zero =>
      obtain ⟨rfl, -, -⟩ := visit_zero_eq_ok visited
      exact Or.inl (showsHere_of_mem unicode present (stays.read (readsApart_nfkc unicode) rfl rfl))
  | succ levels inductionHypothesis =>
      have staysLayer := stays.read (readsApart_nfkc unicode) rfl rfl
      obtain ⟨percent, encoded, before, middle, rfl, isPercent, noPercent, isEncoded⟩ :=
        visit_succ_eq_ok visited
      rcases List.mem_append.mp present with present | inEncoded
      · rcases List.mem_append.mp present with inPlain | inPercent
        · exact Or.inl (showsHere_of_mem unicode inPlain staysLayer)
        · have escaped : hasPercent (unicode.nfkc text) = true := by
            by_contra plain
            rw [noPercent (Bool.not_eq_true _ ▸ plain)] at inPercent
            cases inPercent
          refine Or.inr (Or.inl ⟨escaped, fun isFirst isMiddle isLast => ?_⟩)
          rcases visitBytes_eq_ok (isPercent escaped) with ⟨isOpaque, -⟩ | ⟨inner, isInner, visited⟩
          · rw [isOpaque] at isMiddle
            cases isMiddle
          · obtain rfl := Option.some.inj (isMiddle.symm.trans isInner)
            exact inductionHypothesis visited inPercent
              (staysLayer.read readsApart_unquote isFirst isLast)
      · obtain ⟨span, isCandidate, bytes, isDecoded, start, found, stop, isFound, inFound⟩ :=
          exists_of_mem_visitCandidates isEncoded inEncoded
        refine Or.inr (Or.inr ⟨span, isCandidate, bytes, isDecoded, fun isInner => ?_⟩)
        rcases visitBytes_eq_ok isFound with ⟨isOpaque, -⟩ | ⟨inner, isText, visited⟩
        · rw [isOpaque] at isInner
          cases isInner
        · obtain rfl := Option.some.inj (isInner.symm.trans isText)
          exact inductionHypothesis visited inFound (Or.inr ⟨rfl, rfl⟩)

/-! ## Whole texts -/

/-- A scan has findings or raises. -/
def Alarms (result : Except ScanError (List Finding)) : Prop :=
  ∀ findings, result = .ok findings → findings ≠ []

/-- A text has findings. -/
def HasFinding (text : Str) : Prop :=
  ∃ findings, scanText unicode text = .ok findings ∧ findings ≠ []

/-- A text shows among some neighbours. -/
theorem alarms_of_shows
    {front text back : Str}
    (closes : Ends isGap front)
    (begins : Begins isGap back)
    (shows : Shows unicode maxDecodeDepth front text back) :
    Alarms (scanText unicode (front ++ (text ++ back))) := by
  intro findings scanned
  unfold scanText at scanned
  split at scanned
  · cases scanned
  · obtain ⟨⟨found, total⟩, visited, scanned⟩ := exists_of_bind_eq_ok scanned
    cases scanned
    exact visit_ne_nil unicode closes begins shows visited

/-- The scan of a text that exceeds a limit raises. -/
theorem alarms_of_exceeds
    {text : Str}
    (exceeds : Exceeds unicode text) : Alarms (scanText unicode text) := by
  intro findings scanned
  unfold scanText at scanned
  split at scanned
  · cases scanned
  · rename_i short
    obtain ⟨⟨found, total⟩, visited, scanned⟩ := exists_of_bind_eq_ok scanned
    obtain ⟨counted, within⟩ := total_of_visit le_rfl (Nat.zero_le _) visited
    rcases exceeds with long | more
    · exact absurd long short
    · rw [Nat.sub_self, if_neg (lt_irrefl 0), Nat.zero_add] at counted
      rw [counted] at within
      exact absurd more (Nat.not_lt.mpr within)

/-- Every finding of a text shows among neighbours when it stays. -/
theorem shows_of_scanText
    {front text back : Str}
    {findings : List Finding}
    (scanned : scanText unicode text = .ok findings)
    {finding : Finding}
    (present : finding ∈ findings)
    (stays : finding.Stays front back) : Shows unicode maxDecodeDepth front text back := by
  unfold scanText at scanned
  split at scanned
  · cases scanned
  · obtain ⟨⟨found, total⟩, visited, scanned⟩ := exists_of_bind_eq_ok scanned
    cases scanned
    exact shows_of_mem unicode visited present stays

end Shows

end PayloadScan
end ChatPlatform
