import ChatPlatform.Foundation.Decoding
import ChatPlatform.Foundation.JsonReadings
import ChatPlatform.Foundation.JsonRoundTrip
import Mathlib.Data.Finset.Card

/-!
# Strict scoring of answers

An answer is one JSON object and nothing else: a decision and a list of codes. It is correct when
it names exactly the codes that are expected, and where none are expected when it is the one text
that abstains. Nothing is normalised or repaired.
-/

namespace ChatPlatform
namespace LongContext

open Json

/-- The content of an answer. -/
inductive Content
  /-- A text. -/
  | text (held : Str)
  /-- Bytes that should be a text. -/
  | bytes (held : List Decoding.Byte)

/-- The text that abstains. -/
def canonicalAbstention : Str := "\x7b\"decision\":\"abstain\",\"values\":[]\x7d".toList

/-- Its bytes. -/
def canonicalAbstentionBytes : List Decoding.Byte := canonicalAbstention.map Char.toNat

/-- The keys of an answer. -/
def allowedKeys : Finset Str := {"decision".toList, "values".toList}

/-- A capital letter. -/
def isCapital (c : Char) : Bool := 'A' ≤ c && c ≤ 'Z'

/-- A code: a capital letter and at most 63 capital letters, digits and underscores. -/
def isNonce : Str → Bool
  | [] => false
  | first :: rest =>
      isCapital first && rest.length ≤ 63 &&
        rest.all fun c => isCapital c || ('0' ≤ c && c ≤ '9') || c = '_'

/-- How an answer was scored. -/
structure ScoreResult where
  /-- Whether it is correct. -/
  correct : Bool
  /-- Whether it is a JSON value. -/
  parsed : Bool
  /-- What is wrong with it. -/
  failureClass : Option Str
  /-- Its decision. -/
  decision : Option Str
  /-- Its codes. -/
  values : List Str
  /-- Whether the request may be repeated. -/
  retryAllowed : Bool := false
  deriving DecidableEq, Repr

/-- The score of an answer that is not correct. -/
def incorrect
    (failureClass : String)
    (parsed : Bool)
    (decision : Option Str)
    (values : List Str) : ScoreResult :=
  ⟨false, parsed, some failureClass.toList, decision, values, false⟩

/-- The text and the bytes of a content that is UTF-8. -/
def Content.strictUtf8 : Content → Option (Str × List Decoding.Byte)
  | .bytes held => (Decoding.decodeUtf8 held).map fun text => (text, held)
  | .text held => some (held, held.flatMap Decoding.encodeChar)

/-- JSON without repeated keys and constants beyond the standard. -/
def strict : Reading := ⟨false, false⟩

section Scoring

variable {F : Type} [FloatOps F]

/-- A value that is a string. -/
def asString : Value F → Option Str
  | .str text => some text
  | _ => none

/-- The strings of a list of strings. -/
def asStrings : Value F → Option (List Str)
  | .list items => items.mapM asString
  | _ => none

/-- Score a decision and its codes. -/
def scoreValues
    (decision : Str)
    (values : List Str)
    (raw : List Decoding.Byte)
    (goldAtoms : Finset Str) : Except Str ScoreResult :=
  if values.any (!isNonce ·) then .ok (incorrect "format_failure" true (some decision) values)
  else if values.length ≠ values.toFinset.card then
    .ok (incorrect "duplicate_value" true (some decision) values)
  else if goldAtoms = ∅ then
    if raw = canonicalAbstentionBytes then
      .ok ⟨true, true, none, some "abstain".toList, [], false⟩
    else .ok (incorrect "incorrect_answer" true (some decision) values)
  else if ∃ atom ∈ goldAtoms, isNonce atom = false then
    .error "gold atom violates the frozen nonce contract".toList
  else if decision ≠ "answer".toList ∨ values = [] then
    .ok (incorrect "incorrect_answer" true (some decision) values)
  else if values.toFinset ≠ goldAtoms then
    .ok (incorrect "incorrect_answer" true (some decision) values)
  else .ok ⟨true, true, none, some decision, values, false⟩

/-- Score an object. -/
def scoreObject
    (payload : Dict F)
    (raw : List Decoding.Byte)
    (goldAtoms : Finset Str) : Except Str ScoreResult :=
  if (Dict.keys payload).toFinset ≠ allowedKeys then .ok (incorrect "format_failure" true none [])
  else
    match Dict.getStr payload "decision".toList with
    | none => .ok (incorrect "format_failure" true none [])
    | some decision =>
        if decision ∉ ["answer".toList, "abstain".toList] then
          .ok (incorrect "format_failure" true none [])
        else
          match (Dict.get payload "values".toList).bind asStrings with
          | none => .ok (incorrect "format_failure" true (some decision) [])
          | some values => scoreValues decision values raw goldAtoms

variable (F) in
/-- Score an answer. -/
def scoreResponse (content : Content) (goldAtoms : Finset Str) : Except Str ScoreResult :=
  match content.strictUtf8 with
  | none => .ok (incorrect "parse_failure" false none [])
  | some (text, raw) =>
      match (readValue strict (2 * text.length + 2) text : Option (Value F × Str)) with
      | none => .ok (incorrect "parse_failure" false none [])
      | some (payload, rest) =>
          if rest ≠ [] then .ok (incorrect "parse_failure" false none [])
          else
            match payload with
            | .dict entries => scoreObject entries raw goldAtoms
            | _ => .ok (incorrect "format_failure" true none [])

variable (F) in
/-- An answer is correct. -/
def IsCorrect (content : Content) (goldAtoms : Finset Str) : Prop :=
  ∃ result, scoreResponse F content goldAtoms = .ok result ∧ result.correct = true

/-- The entries of an answer. -/
def answerEntries (decision : Str) (values : List Str) : Dict F :=
  [("decision".toList, .str decision), ("values".toList, .list (values.map .str))]

/-! ## Codes and lists -/

/-- A list has as many members as places when it repeats none. -/
theorem length_eq_card_iff {values : List Str} :
    values.length = values.toFinset.card ↔ values.Nodup := by
  rw [List.card_toFinset]
  constructor
  · intro same
    rw [← (List.dedup_sublist values).eq_of_length same.symm]
    exact List.nodup_dedup values
  · intro distinct
    rw [distinct.dedup]

omit [FloatOps F] in
/-- A list of strings is the one of its strings. -/
theorem asStrings_eq_some_iff {value : Value F} {values : List Str} :
    asStrings value = some values ↔ value = .list (values.map .str) := by
  have items (items : List (Value F)) (values : List Str) :
      items.mapM asString = some values ↔ items = values.map .str := by
    induction items generalizing values with
    | nil =>
        cases values with
        | nil => exact iff_of_true rfl rfl
        | cons first rest =>
            constructor
            · intro same
              cases same
            · intro same
              cases same
    | cons item items inductionHypothesis =>
        rw [List.mapM_cons]
        constructor
        · intro read
          obtain ⟨text, isText, read⟩ := Option.bind_eq_some_iff.mp read
          obtain ⟨texts, areTexts, same⟩ := Option.bind_eq_some_iff.mp read
          cases same
          cases item with
          | str held =>
              cases isText
              rw [(inductionHypothesis texts).mp areTexts]
              rfl
          | _ => cases isText
        · intro same
          cases values with
          | nil => cases same
          | cons text texts =>
              obtain ⟨rfl, rfl⟩ := List.cons_eq_cons.mp same
              rw [(inductionHypothesis texts).mpr rfl]
              rfl
  cases value with
  | list held =>
      rw [Value.list.injEq]
      exact items held values
  | _ =>
      constructor
      · intro same
        cases same
      · intro same
        cases same

omit [FloatOps F] in
/-- What is under a key is an entry. -/
theorem get_eq_some_iff
    {payload : Dict F}
    (distinct : (payload.map (·.1)).Nodup)
    {key : Str}
    {value : Value F} : Dict.get payload key = some value ↔ (key, value) ∈ payload := by
  constructor
  · intro found
    exact Keyed.mem_of_find found
  · intro held
    exact Keyed.find_of_mem distinct held

omit [FloatOps F] in
/-- The entries of an answer are the ones with its two keys. -/
theorem perm_answerEntries_iff
    {payload : Dict F}
    (distinct : (payload.map (·.1)).Nodup)
    (decision : Str)
    (values : List Str) :
    payload.Perm (answerEntries decision values) ↔
      (Dict.keys payload).toFinset = allowedKeys ∧
        Dict.getStr payload "decision".toList = some decision ∧
          (Dict.get payload "values".toList).bind asStrings = some values := by
  have apart : "decision".toList ≠ "values".toList := by decide
  have string : Dict.getStr payload "decision".toList = some decision ↔
      Dict.get payload "decision".toList = some (.str decision) := by
    unfold Dict.getStr
    constructor
    · intro found
      split at found
      · rename_i text isText
        cases found
        exact isText
      · cases found
    · intro found
      rw [found]
  have strings : (Dict.get payload "values".toList).bind asStrings = some values ↔
      Dict.get payload "values".toList = some (.list (values.map .str)) := by
    rw [Option.bind_eq_some_iff]
    constructor
    · rintro ⟨value, found, isList⟩
      rw [found, asStrings_eq_some_iff.mp isList]
    · intro found
      exact ⟨_, found, asStrings_eq_some_iff.mpr rfl⟩
  rw [string, strings, get_eq_some_iff distinct, get_eq_some_iff distinct]
  constructor
  · intro same
    refine ⟨?_, same.mem_iff.mpr (by simp [answerEntries]),
      same.mem_iff.mpr (by simp [answerEntries])⟩
    unfold Dict.keys
    rw [List.toFinset_eq_of_perm _ _ (same.map _)]
    simp [answerEntries, allowedKeys]
  · rintro ⟨keys, isDecision, isValues⟩
    have keysPerm : (payload.map (·.1)).Perm ["decision".toList, "values".toList] := by
      refine List.perm_of_nodup_nodup_toFinset_eq distinct (by simp) ?_
      unfold Dict.keys at keys
      rw [keys]
      simp [allowedKeys]
    have two : payload.length = 2 := by
      rw [← List.length_map (·.1), keysPerm.length_eq]
      rfl
    have within : answerEntries decision values ⊆ payload := by
      intro entry held
      simp only [answerEntries, List.mem_cons, List.not_mem_nil, or_false] at held
      rcases held with rfl | rfl
      · exact isDecision
      · exact isValues
    have answerDistinct : (answerEntries (F := F) decision values).Nodup := by
      refine List.Nodup.of_map (·.1) ?_
      simp [answerEntries]
    refine ((answerDistinct.subperm within).perm_of_length_le ?_).symm
    rw [two]
    exact le_of_eq rfl

/-! ## Correct answers -/

/-- Codes are correct when there are some and they are the expected ones. -/
theorem scoreValues_correct_iff
    {goldAtoms : Finset Str}
    (expected : goldAtoms ≠ ∅)
    (nonces : ∀ atom ∈ goldAtoms, isNonce atom = true)
    (decision : Str)
    (values : List Str)
    (raw : List Decoding.Byte) :
    (∃ result, scoreValues decision values raw goldAtoms = .ok result ∧
      result.correct = true) ↔
        decision = "answer".toList ∧ values.Nodup ∧ values.toFinset = goldAtoms := by
  have noBad : ¬∃ atom ∈ goldAtoms, isNonce atom = false := by
    rintro ⟨atom, held, bad⟩
    rw [nonces atom held] at bad
    cases bad
  constructor
  · rintro ⟨result, scored, correct⟩
    unfold scoreValues at scored
    split at scored
    · cases scored
      cases correct
    · split at scored
      · cases scored
        cases correct
      · rename_i distinct
        split at scored
        · cases scored
          cases correct
        · rename_i answers
          split at scored
          · cases scored
            cases correct
          · rename_i same
            exact ⟨not_not.mp (not_or.mp answers).1,
              length_eq_card_iff.mp (not_not.mp distinct), not_not.mp same⟩
  · rintro ⟨rfl, distinct, rfl⟩
    have good : ¬values.any (!isNonce ·) = true := by
      rw [List.any_eq_true]
      rintro ⟨value, held, bad⟩
      rw [nonces value (List.mem_toFinset.mpr held)] at bad
      cases bad
    have nonempty : values ≠ [] := by
      rintro rfl
      exact expected List.toFinset_nil
    refine ⟨⟨true, true, none, some "answer".toList, values, false⟩, ?_, rfl⟩
    rw [scoreValues, if_neg good, if_neg (not_not.mpr (length_eq_card_iff.mpr distinct)),
      if_neg expected, if_neg noBad, if_neg (not_or.mpr ⟨not_not.mpr rfl, nonempty⟩),
      if_neg (not_not.mpr rfl)]

/-- An answer is correct when it is an object with the two keys whose decision and codes are. -/
theorem isCorrect_iff {content : Content} {goldAtoms : Finset Str} :
    IsCorrect F content goldAtoms ↔
      ∃ (text : Str) (raw : List Decoding.Byte) (payload : Dict F) (decision : Str)
        (values : List Str),
        content.strictUtf8 = some (text, raw) ∧
          readValue strict (2 * text.length + 2) text = some (.dict payload, []) ∧
            payload.Perm (answerEntries decision values) ∧
              decision ∈ ["answer".toList, "abstain".toList] ∧
                ∃ result, scoreValues decision values raw goldAtoms = .ok result ∧
                  result.correct = true := by
  constructor
  · rintro ⟨result, scored, correct⟩
    unfold scoreResponse at scored
    split at scored
    · cases scored
      cases correct
    · rename_i text raw isText
      split at scored
      · cases scored
        cases correct
      · rename_i value rest isRead
        split at scored
        · cases scored
          cases correct
        · rename_i whole
          obtain rfl := not_not.mp whole
          split at scored
          · rename_i payload
            have keyed := (wellKeyed_read strict _).1 isRead
            unfold wellKeyed everywhere at keyed
            have distinct := of_decide_eq_true (Bool.and_eq_true_iff.mp keyed).1
            unfold scoreObject at scored
            split at scored
            · cases scored
              cases correct
            · rename_i keys
              split at scored
              · cases scored
                cases correct
              · rename_i decision isDecision
                split at scored
                · cases scored
                  cases correct
                · rename_i known
                  split at scored
                  · cases scored
                    cases correct
                  · rename_i values areValues
                    exact ⟨text, raw, payload, decision, values, isText, isRead,
                      (perm_answerEntries_iff distinct decision values).mpr
                        ⟨not_not.mp keys, isDecision, areValues⟩,
                      not_not.mp known, result, scored, correct⟩
          · cases scored
            cases correct
  · rintro ⟨text, raw, payload, decision, values, isText, isRead, same, known, result, scored,
      correct⟩
    have keyed := (wellKeyed_read strict _).1 isRead
    unfold wellKeyed everywhere at keyed
    have distinct := of_decide_eq_true (Bool.and_eq_true_iff.mp keyed).1
    obtain ⟨keys, isDecision, areValues⟩ :=
      (perm_answerEntries_iff distinct decision values).mp same
    refine ⟨result, ?_, correct⟩
    unfold scoreResponse
    rw [isText]
    dsimp only
    rw [isRead]
    dsimp only
    rw [if_neg (not_not.mpr rfl), scoreObject, if_neg (not_not.mpr keys), isDecision]
    dsimp only
    rw [if_neg (not_not.mpr known), areValues]
    exact scored

/-- An answer has a score where codes are expected. -/
theorem exists_score
    {goldAtoms : Finset Str}
    (nonces : ∀ atom ∈ goldAtoms, isNonce atom = true)
    (content : Content) : ∃ result, scoreResponse F content goldAtoms = .ok result := by
  have noBad : ¬∃ atom ∈ goldAtoms, isNonce atom = false := by
    rintro ⟨atom, held, bad⟩
    rw [nonces atom held] at bad
    cases bad
  have values (decision : Str) (values : List Str) (raw : List Decoding.Byte) :
      ∃ result, scoreValues decision values raw goldAtoms = .ok result := by
    unfold scoreValues
    rw [if_neg noBad]
    split_ifs <;> exact ⟨_, rfl⟩
  have object (payload : Dict F) (raw : List Decoding.Byte) :
      ∃ result, scoreObject payload raw goldAtoms = .ok result := by
    unfold scoreObject
    split
    · exact ⟨_, rfl⟩
    · split
      · exact ⟨_, rfl⟩
      · split
        · exact ⟨_, rfl⟩
        · split
          · exact ⟨_, rfl⟩
          · exact values _ _ _
  unfold scoreResponse
  split
  · exact ⟨_, rfl⟩
  · split
    · exact ⟨_, rfl⟩
    · split
      · exact ⟨_, rfl⟩
      · split
        · exact object _ _
        · exact ⟨_, rfl⟩

/-! ## Abstaining -/

/-- A text whose bytes are ASCII is the text of these. -/
theorem eq_of_flatMap_encodeChar
    {text ascii : Str}
    (small : ∀ c ∈ ascii, c.toNat < 128)
    (same : text.flatMap Decoding.encodeChar = ascii.map Char.toNat) : text = ascii := by
  induction text generalizing ascii with
  | nil => exact (List.map_eq_nil_iff.mp same.symm).symm
  | cons c text inductionHypothesis =>
      rw [List.flatMap_cons] at same
      unfold Decoding.encodeChar at same
      dsimp only at same
      cases ascii with
      | nil =>
          split at same
          · cases same
          · split at same
            · cases same
            · split at same <;> cases same
      | cons first rest =>
          obtain ⟨isSmall, small⟩ := List.forall_mem_cons.mp small
          rw [List.map_cons] at same
          split at same
          · obtain ⟨head, tail⟩ := List.cons_eq_cons.mp same
            rw [Char.toNat_inj.mp head, inductionHypothesis small tail]
          · split at same
            · have head : 0xC0 + c.toNat / 64 = first.toNat := (List.cons_eq_cons.mp same).1
              omega
            · split at same
              · have head : 0xE0 + c.toNat / 4096 = first.toNat := (List.cons_eq_cons.mp same).1
                omega
              · have head : 0xF0 + c.toNat / 262144 = first.toNat :=
                  (List.cons_eq_cons.mp same).1
                omega

/-- The bytes that abstain are those of one text. -/
theorem eq_canonicalAbstention
    {content : Content}
    {text : Str}
    (isText : content.strictUtf8 = some (text, canonicalAbstentionBytes)) :
    text = canonicalAbstention := by
  cases content with
  | text held =>
      obtain ⟨rfl, same⟩ := Prod.mk.inj (Option.some.inj isText)
      exact eq_of_flatMap_encodeChar (by decide) same
  | bytes held =>
      obtain ⟨decoded, isDecoded, same⟩ := Option.map_eq_some_iff.mp isText
      obtain ⟨rfl, rfl⟩ := Prod.mk.inj same
      have whole : Decoding.decodeUtf8 canonicalAbstentionBytes = some canonicalAbstention := by
        decide
      rw [whole] at isDecoded
      exact (Option.some.inj isDecoded).symm

section Written

variable [ReadableFloats F]

/-- An object with the two keys is read back. -/
theorem readValue_answer
    {payload : Dict F}
    {decision : Str}
    {values : List Str}
    (same : payload.Perm (answerEntries decision values))
    (ascii : Bool) :
    readValue strict (2 * (dumps (inOrder ascii) (.dict payload)).length + 2)
      (dumps (inOrder ascii) (.dict payload)) = some (.dict payload, []) := by
  have distinct : (payload.map (·.1)).Nodup := by
    refine ((same.map _).nodup_iff).mpr ?_
    simp [answerEntries]
  have strings (texts : List Str) : everywhereItems (isFinite (F := F))
      (fun keys => decide keys.Nodup) (texts.map .str) = true := by
    induction texts with
    | nil => rfl
    | cons text texts inductionHypothesis => exact inductionHypothesis
  have isReadable : readable (.dict payload) = true := by
    unfold readable everywhere
    rw [decide_eq_true distinct, Bool.true_and, everywhereEntries_eq_all, List.all_eq_true]
    intro entry held
    have isEntry := same.mem_iff.mp held
    simp only [answerEntries, List.mem_cons, List.not_mem_nil, or_false] at isEntry
    rcases isEntry with rfl | rfl
    · rfl
    · exact strings values
  have back := readValue_dumps strict ascii (.dict payload) isReadable
    (Nat.le_add_right (2 * (dumps (inOrder ascii) (.dict payload)).length) 2)
    (show EndsNumber [] from fun _ held => absurd held (Option.not_mem_none _))
  rwa [List.append_nil] at back

/-- The text that abstains is read as an object that abstains. -/
theorem readValue_canonicalAbstention :
    readValue strict (2 * canonicalAbstention.length + 2) canonicalAbstention =
      some (.dict (answerEntries (F := F) "abstain".toList []), []) := by
  have written : dumps (inOrder false) (.dict (answerEntries (F := F) "abstain".toList [])) =
      canonicalAbstention := rfl
  rw [← written]
  exact readValue_answer (List.Perm.refl _) false

/-! ## Grades -/

variable (F) in
/-- How answers are graded where some codes are expected. -/
structure Graded (goldAtoms : Finset Str) : Prop where
  /-- Where none are, only the bytes that abstain are correct. -/
  abstains : goldAtoms = ∅ → ∀ content : Content, IsCorrect F content goldAtoms ↔
    ∃ text, content.strictUtf8 = some (text, canonicalAbstentionBytes)
  /-- Elsewhere a correct answer is one object that names each of them once. -/
  answers : goldAtoms ≠ ∅ → ∀ content : Content, IsCorrect F content goldAtoms ↔
    ∃ (text : Str) (raw : List Decoding.Byte) (payload : Dict F) (values : List Str),
      content.strictUtf8 = some (text, raw) ∧
        readValue strict (2 * text.length + 2) text = some (.dict payload, []) ∧
          payload.Perm (answerEntries "answer".toList values) ∧ values.Nodup ∧
            values.toFinset = goldAtoms
  /-- Every list of them, written in any order of the keys, is correct. -/
  written : goldAtoms ≠ ∅ → ∀ (values : List Str) (payload : Dict F) (ascii : Bool),
    values.Nodup → values.toFinset = goldAtoms →
      payload.Perm (answerEntries "answer".toList values) →
        IsCorrect F (.text (dumps (inOrder ascii) (.dict payload))) goldAtoms
  /-- An answer is correct for one set of codes only. -/
  exclusive : ∀ (content : Content) (otherAtoms : Finset Str),
    (∀ atom ∈ otherAtoms, isNonce atom = true) → IsCorrect F content goldAtoms →
      IsCorrect F content otherAtoms → goldAtoms = otherAtoms

/-- Answers are correct where nothing is expected when they are the bytes that abstain. -/
theorem isCorrect_empty_iff (content : Content) :
    IsCorrect F content ∅ ↔
      ∃ text, content.strictUtf8 = some (text, canonicalAbstentionBytes) := by
  constructor
  · intro correct
    obtain ⟨text, raw, payload, decision, values, isText, isRead, same, known, result, scored,
      correct⟩ := isCorrect_iff.mp correct
    refine ⟨text, ?_⟩
    unfold scoreValues at scored
    split at scored
    · cases scored
      cases correct
    · split at scored
      · cases scored
        cases correct
      · rw [if_pos rfl] at scored
        split at scored
        · rename_i isCanonical
          rw [isText, isCanonical]
        · cases scored
          cases correct
  · rintro ⟨text, isText⟩
    obtain rfl := eq_canonicalAbstention isText
    exact isCorrect_iff.mpr ⟨_, _, _, _, [], isText, readValue_canonicalAbstention,
      List.Perm.refl _, by simp, ⟨true, true, none, some "abstain".toList, [], false⟩, rfl, rfl⟩

omit [ReadableFloats F] in
/-- Answers are correct where codes are expected when they name these. -/
theorem isCorrect_answer_iff
    {goldAtoms : Finset Str}
    (expected : goldAtoms ≠ ∅)
    (nonces : ∀ atom ∈ goldAtoms, isNonce atom = true)
    (content : Content) :
    IsCorrect F content goldAtoms ↔
      ∃ (text : Str) (raw : List Decoding.Byte) (payload : Dict F) (values : List Str),
        content.strictUtf8 = some (text, raw) ∧
          readValue strict (2 * text.length + 2) text = some (.dict payload, []) ∧
            payload.Perm (answerEntries "answer".toList values) ∧ values.Nodup ∧
              values.toFinset = goldAtoms := by
  rw [isCorrect_iff]
  simp only [scoreValues_correct_iff expected nonces]
  constructor
  · rintro ⟨text, raw, payload, decision, values, isText, isRead, same, -, rfl, distinct, named⟩
    exact ⟨text, raw, payload, values, isText, isRead, same, distinct, named⟩
  · rintro ⟨text, raw, payload, values, isText, isRead, same, distinct, named⟩
    exact ⟨text, raw, payload, _, values, isText, isRead, same, List.mem_cons_self, rfl,
      distinct, named⟩


/-- Where codes are expected, answers are graded by them. -/
theorem graded
    {goldAtoms : Finset Str}
    (nonces : ∀ atom ∈ goldAtoms, isNonce atom = true) : Graded F goldAtoms where
  abstains := by
    rintro rfl content
    exact isCorrect_empty_iff content
  answers := fun expected content => isCorrect_answer_iff expected nonces content
  written := by
    intro expected values payload ascii distinct named same
    exact (isCorrect_answer_iff expected nonces _).mpr
      ⟨_, _, payload, values, rfl, readValue_answer same ascii, same, distinct, named⟩
  exclusive := by
    have apart {content : Content} {atoms : Finset Str} (expected : atoms ≠ ∅)
        (areNonces : ∀ atom ∈ atoms, isNonce atom = true)
        (abstains : IsCorrect F content ∅) (answers : IsCorrect F content atoms) : False := by
      obtain ⟨text, isText⟩ := (isCorrect_empty_iff content).mp abstains
      obtain ⟨other, raw, payload, values, isOther, isRead, same, -, -⟩ :=
        (isCorrect_answer_iff expected areNonces content).mp answers
      obtain rfl := eq_canonicalAbstention isText
      rw [isText] at isOther
      cases isOther
      rw [readValue_canonicalAbstention] at isRead
      cases isRead
      have isDecision := same.mem_iff.mpr (List.mem_cons_self)
      revert isDecision
      simp [answerEntries]
    intro content otherAtoms otherNonces correct otherCorrect
    by_cases expected : goldAtoms = ∅
    · subst expected
      by_contra different
      exact apart (Ne.symm different) otherNonces correct otherCorrect
    · by_cases otherExpected : otherAtoms = ∅
      · subst otherExpected
        exact (apart expected nonces otherCorrect correct).elim
      · obtain ⟨text, raw, payload, values, isText, isRead, same, -, rfl⟩ :=
          (isCorrect_answer_iff expected nonces content).mp correct
        obtain ⟨text', raw', payload', values', isText', isRead', same', -, rfl⟩ :=
          (isCorrect_answer_iff otherExpected otherNonces content).mp otherCorrect
        rw [isText] at isText'
        cases isText'
        rw [isRead] at isRead'
        cases isRead'
        have isValues := (same.symm.trans same').mem_iff.mp
          (List.mem_cons_of_mem _ (List.mem_singleton_self _))
        have lists : values = values' := by
          simpa [answerEntries, List.map_inj_right] using isValues
        rw [lists]

end Written

end Scoring

/-- With one code expected, an answer that names it is correct although its keys come in the
other order, and one that abstains is not. -/
theorem graded_atlas :
    let gold : Finset Str := {"ATLAS_CURRENT_00".toList}
    Graded Empty gold ∧
      IsCorrect Empty
        (.text "\x7b\"values\":[\"ATLAS_CURRENT_00\"], \"decision\":\"answer\"\x7d".toList) gold ∧
      ¬IsCorrect Empty (.text canonicalAbstention) gold := by
  intro gold
  have answered : scoreResponse Empty
      (.text "\x7b\"values\":[\"ATLAS_CURRENT_00\"], \"decision\":\"answer\"\x7d".toList) gold =
        .ok ⟨true, true, none, some "answer".toList, ["ATLAS_CURRENT_00".toList], false⟩ := by
    decide +kernel
  have abstained : scoreResponse Empty (.text canonicalAbstention) gold =
      .ok (incorrect "incorrect_answer" true (some "abstain".toList) []) := by
    decide +kernel
  refine ⟨graded (by decide), ⟨_, answered, rfl⟩, ?_⟩
  rintro ⟨result, scored, correct⟩
  obtain rfl := Except.ok.inj (scored.symm.trans abstained)
  cases correct

end LongContext
end ChatPlatform
