import ChatPlatform.EventLog.Events
import ChatPlatform.Foundation.Growth

/-!
# The chain of a log

A log that verifies is a chain: every event fits the ones before it. An append writes
one line, the line is read back as the event that was returned, and the log with it
verifies.
-/

namespace ChatPlatform
namespace EventLog

open Json Growth

/-! ## Lines -/

/-- The lines of a text are the text. -/
private theorem flatten_linesFrom (line text : Str) :
    (linesFrom line text).flatten = line ++ text := by
  induction text generalizing line with
  | nil =>
      unfold linesFrom
      by_cases empty : line = []
      · simp [empty]
      · simp [empty]
  | cons c text inductionHypothesis =>
      unfold linesFrom
      by_cases isEnd : c = '\n'
      · rw [if_pos isEnd, List.flatten_cons, inductionHypothesis]
        simp
      · rw [if_neg isEnd, inductionHypothesis]
        simp

/-- After a line that has ended the lines are those of the rest. -/
private theorem linesFrom_append
    {line text : Str}
    (ended : line ++ text = [] ∨ text.getLast? = some '\n')
    (rest : Str) :
    linesFrom line (text ++ rest) = linesFrom line text ++ linesFrom [] rest := by
  induction text generalizing line with
  | nil =>
      rcases ended with empty | ended
      · rw [List.append_nil] at empty
        subst empty
        rfl
      · cases ended
  | cons c text inductionHypothesis =>
      rw [List.cons_append, linesFrom, linesFrom]
      have later : ∀ started : Str, text ≠ [] ∨ started = [] →
          started ++ text = [] ∨ text.getLast? = some '\n' := by
        intro started reason
        rcases ended with empty | ended
        · exact absurd empty (by simp)
        · cases text with
          | nil => exact Or.inl (by simpa using reason)
          | cons d text => exact Or.inr (by simpa [List.getLast?_cons_cons] using ended)
      by_cases isEnd : c = '\n'
      · rw [if_pos isEnd, if_pos isEnd, inductionHypothesis (later [] (Or.inr rfl)),
          List.cons_append]
      · rw [if_neg isEnd, if_neg isEnd]
        have more : text ≠ [] := by
          rintro rfl
          rcases ended with empty | ended
          · exact absurd empty (by simp)
          · exact isEnd (by simpa using ended)
        exact inductionHypothesis (later _ (Or.inl more))

/-- A text without line breaks and the end of its line are one line. -/
private theorem linesFrom_line
    {line text : Str}
    (noBreak : '\n' ∉ text) :
    linesFrom line (text ++ ['\n']) = [line ++ (text ++ ['\n'])] := by
  induction text generalizing line with
  | nil => simp [linesFrom]
  | cons c text inductionHypothesis =>
      have apart : c ≠ '\n' := fun same => noBreak (same ▸ List.mem_cons_self)
      rw [List.cons_append, linesFrom, if_neg apart,
        inductionHypothesis fun held => noBreak (List.mem_cons_of_mem _ held)]
      simp

/-- Line breaks do not change across the beginning of a line. -/
private theorem universalNewlines_append
    (log : Str)
    {text : Str}
    (apart : text.head? ≠ some '\n') :
    universalNewlines (log ++ text) = universalNewlines log ++ universalNewlines text := by
  induction log using universalNewlines.induct with
  | case1 => rfl
  | case2 rest inductionHypothesis =>
      simp only [List.cons_append, universalNewlines, inductionHypothesis]
  | case3 c rest notPair inductionHypothesis =>
      have stillNotPair : ∀ after, c = '\r' → rest ++ text = '\n' :: after → False := by
        intro after isReturn same
        cases rest with
        | nil =>
            rw [List.nil_append] at same
            rw [same] at apart
            exact apart rfl
        | cons d rest => exact notPair rest isReturn (by rw [(List.cons.inj same).1])
      rw [List.cons_append, universalNewlines.eq_3 _ _ stillNotPair,
        universalNewlines.eq_3 _ _ notPair, inductionHypothesis, List.cons_append]

/-- A text without carriage returns is read as it is. -/
theorem universalNewlines_self
    {text : Str}
    (noReturn : '\r' ∉ text) : universalNewlines text = text := by
  induction text with
  | nil => rfl
  | cons c text inductionHypothesis =>
      have apart : c ≠ '\r' := fun same => noReturn (same ▸ List.mem_cons_self)
      rw [universalNewlines.eq_3 _ _ (fun _ isReturn _ => apart isReturn), if_neg apart,
        inductionHypothesis fun held => noReturn (List.mem_cons_of_mem _ held)]

/-- The lines of a log with one more line. -/
private theorem fileLines_append
    {log line : Str}
    (ended : ∀ earlier ∈ fileLines log, earlier.getLast? = some '\n')
    (printable : ∀ c ∈ line, Printable c)
    (nonempty : line ≠ []) :
    fileLines (log ++ (line ++ ['\n'])) = fileLines log ++ [line ++ ['\n']] := by
  have noBreak : '\n' ∉ line := fun held => absurd (printable _ held) (by decide)
  have noReturn : '\r' ∉ line ++ ['\n'] := by
    intro held
    rcases List.mem_append.mp held with held | held
    · exact absurd (printable _ held) (by decide)
    · exact absurd (List.mem_singleton.mp held) (by decide)
  have front : (line ++ ['\n']).head? ≠ some '\n' := by
    cases line with
    | nil => exact absurd rfl nonempty
    | cons c line => exact fun same => noBreak (Option.some.inj same ▸ List.mem_cons_self)
  have whole : universalNewlines log = [] ∨ (universalNewlines log).getLast? = some '\n' := by
    have flat := flatten_linesFrom [] (universalNewlines log)
    rw [List.nil_append] at flat
    rcases List.eq_nil_or_concat (linesFrom [] (universalNewlines log)) with
      none | ⟨early, last, isLast⟩
    · rw [none] at flat
      exact Or.inl flat.symm
    · have endsLine := ended last (by
        unfold fileLines
        rw [isLast]
        simp)
      rw [isLast, List.concat_eq_append, List.flatten_append, List.flatten_singleton] at flat
      rw [← flat, List.getLast?_append, endsLine]
      exact Or.inr rfl
  unfold fileLines
  rw [universalNewlines_append log front, universalNewlines_self noReturn,
    linesFrom_append (by simpa using whole), linesFrom_line noBreak]
  rfl

/-! ## A written line is read back -/

variable {F : Type} [FloatOps F]

/-- The fields of an event as its line holds them. -/
private def lineFields (event : Event F) : Dict F :=
  [("hash".toList, .str event.hash),
    ("payload".toList, .dict (arrangeDict event.payload)),
    ("previous".toList, .str event.previous),
    ("schema_version".toList, .str schemaVersion),
    ("seq".toList, .int event.seq),
    ("type".toList, .str event.type)]

omit [FloatOps F] in
/-- The fields of an event in the order of their keys. -/
private theorem arrange_record (event : Event F) :
    arrange (.dict event.record) = .dict (lineFields event) := by
  rw [arrange_dict]
  rfl

/-- An event whose fields are what they should be. -/
structure WellFormed (event : Event F) : Prop where
  /-- Its type is one. -/
  type : isEventType event.type = true
  /-- The digest before it is one. -/
  previous : isSha256 event.previous = true
  /-- Its digest is one. -/
  hash : isSha256 event.hash = true
  /-- What it says is finite. -/
  finite : Json.finite (.dict event.payload) = true
  /-- What it says has distinct keys. -/
  keyed : wellKeyed (.dict event.payload) = true

/-- The line of an event can be read. -/
private theorem readable_record
    {event : Event F}
    (wellFormed : WellFormed event) : readable (.dict event.record) = true := by
  have payload : readable (.dict event.payload) = true := by
    rw [readable_eq, wellFormed.finite, wellFormed.keyed]
    rfl
  unfold readable at payload ⊢
  have keys : ((event.record).map (·.1)).Nodup := by
    show ["schema_version".toList, "seq".toList, "type".toList, "payload".toList,
      "previous".toList, "hash".toList].Nodup
    decide
  rw [everywhere, decide_eq_true keys, Bool.true_and]
  simp only [Event.record, hashed, List.cons_append, List.nil_append, everywhereEntries]
  simp only [everywhere, Bool.true_and, Bool.and_true]
  simpa only [everywhere] using payload

/-- The line of an event is read as the event, with what it says arranged. -/
theorem parse_line
    [ReadableFloats F]
    {event : Event F}
    (wellFormed : WellFormed event)
    (lineNo : Nat) :
    parse (dumps ⟨true, false⟩ (.dict event.record) ++ ['\n']) lineNo =
      .ok { event with payload := arrangeDict event.payload } := by
  have ends : EndsNumber ['\n'] := by
    intro c isHead
    cases isHead
    rfl
  unfold parse
  rw [loads_canonical_append ⟨true, true⟩ false (readable_record wellFormed) ends rfl,
    arrange_record]
  dsimp only
  unfold parseFields
  have keys : Dict.hasKeySet (lineFields event) lineKeys = true := rfl
  have version : Dict.getStr (lineFields event) "schema_version".toList =
      some schemaVersion := rfl
  have seq : Dict.get (lineFields event) "seq".toList = some (.int event.seq) := rfl
  have type : Dict.getStr (lineFields event) "type".toList = some event.type := rfl
  have payload : Dict.getDict (lineFields event) "payload".toList =
      some (arrangeDict event.payload) := rfl
  have previous : Dict.getStr (lineFields event) "previous".toList =
      some event.previous := rfl
  have hash : Dict.getStr (lineFields event) "hash".toList = some event.hash := rfl
  rw [keys, version, seq, type, payload, previous, hash,
    Option.filter_some_pos wellFormed.type, Option.filter_some_pos wellFormed.previous,
    Option.filter_some_pos wellFormed.hash]
  simp only [Bool.not_true, Bool.false_eq_true, if_false, ne_eq, not_true_eq_false]

/-- The line of an event is printable. -/
private theorem printable_line
    [ReadableFloats F]
    {event : Event F}
    (wellFormed : WellFormed event) :
    ∀ c ∈ dumps ⟨true, false⟩ (.dict event.record), Printable c :=
  printable_canonical false (readable_record wellFormed)

/-! ## Chains -/

section Digest

variable (sha256 : Str → Fin (2 ^ 256))

/-- A digest has the form of one. -/
theorem isSha256_sha256Hex (data : Str) : isSha256 (sha256Hex sha256 data) = true := by
  unfold isSha256 sha256Hex
  rw [Bool.and_eq_true]
  refine ⟨decide_eq_true (Numeral.hexText_length 64 _), ?_⟩
  refine List.all_eq_true.mpr fun c held => ?_
  exact List.contains_iff_mem.mpr (Numeral.mem_hexAlphabet_of_mem_hexText held)

/-- An event fits the ones before it. -/
structure Linked (before : List (Event F)) (event : Event F) : Prop where
  /-- It has the next number. -/
  seq : event.seq = before.length
  /-- It names the digest of the last one. -/
  previous : event.previous = expectedPrevious before
  /-- It has its own digest. -/
  hash : eventHash sha256 event.seq event.type event.payload event.previous = .ok event.hash

/-- The check of an event says that it fits. -/
theorem checkEvent_iff
    {lineNo : Nat}
    {before : List (Event F)}
    {event : Event F} :
    checkEvent sha256 lineNo before event = .ok () ↔ Linked sha256 before event := by
  unfold checkEvent
  constructor
  · intro accepted
    split at accepted
    · cases accepted
    · rename_i seq
      split at accepted
      · cases accepted
      · rename_i previous
        split at accepted
        · cases accepted
        · rename_i recomputed isHash
          split at accepted
          · cases accepted
          · rename_i same
            exact ⟨not_not.mp seq, not_not.mp previous, by rw [isHash, not_not.mp same]⟩
  · intro linked
    rw [if_neg (not_not.mpr linked.seq), if_neg (not_not.mpr linked.previous), linked.hash]
    simp

/-- A line that verifies is the line of an event that fits. -/
theorem verifyLine_eq_ok
    {lineNo : Nat}
    {before events : List (Event F)}
    {line : Str}
    (accepted : verifyLine sha256 lineNo before line = .ok events) :
    ∃ event, line.getLast? = some '\n' ∧ parse line lineNo = .ok event ∧
      Linked sha256 before event ∧ events = before ++ [event] := by
  unfold verifyLine at accepted
  split at accepted
  · cases accepted
  · rename_i ended
    cases parsed : parse (F := F) line lineNo with
    | error refusal =>
        rw [parsed] at accepted
        cases accepted
    | ok event =>
        rw [parsed] at accepted
        dsimp only at accepted
        cases checked : checkEvent sha256 lineNo before event with
        | error refusal =>
            rw [checked] at accepted
            cases accepted
        | ok _ =>
            rw [checked] at accepted
            cases accepted
            exact ⟨event, not_not.mp ended, rfl, (checkEvent_iff sha256).mp checked, rfl⟩

/-- A line of an event that fits verifies. -/
theorem verifyLine_of_linked
    {lineNo : Nat}
    {before : List (Event F)}
    {event : Event F}
    {line : Str}
    (ended : line.getLast? = some '\n')
    (parsed : parse line lineNo = .ok event)
    (linked : Linked sha256 before event) :
    verifyLine sha256 lineNo before line = .ok (before ++ [event]) := by
  unfold verifyLine
  rw [if_neg (not_not.mpr ended), parsed]
  dsimp only
  rw [(checkEvent_iff sha256).mpr linked]

/-- Lines that verify keep what every line that verifies keeps. -/
theorem verifyLines_grown
    {lineNo : Nat}
    {before events : List (Event F)}
    {lines : List Str}
    (grown : Grown (Linked sha256) before)
    (accepted : verifyLines sha256 lineNo before lines = .ok events) :
    Grown (Linked sha256) events ∧ ∀ line ∈ lines, line.getLast? = some '\n' := by
  induction lines generalizing lineNo before with
  | nil =>
      cases accepted
      exact ⟨grown, fun _ held => absurd held List.not_mem_nil⟩
  | cons line lines inductionHypothesis =>
      unfold verifyLines at accepted
      cases verified : verifyLine sha256 lineNo before line with
      | error refusal =>
          rw [verified] at accepted
          cases accepted
      | ok next =>
          rw [verified] at accepted
          obtain ⟨event, ended, -, linked, rfl⟩ := verifyLine_eq_ok sha256 verified
          obtain ⟨allGrown, others⟩ :=
            inductionHypothesis (grown_snoc.mpr ⟨grown, linked⟩) accepted
          exact ⟨allGrown, List.forall_mem_cons.mpr ⟨ended, others⟩⟩

/-- One more line is checked after all the others. -/
theorem verifyLines_snoc
    {lineNo : Nat}
    {before events : List (Event F)}
    {lines : List Str}
    (line : Str)
    (accepted : verifyLines sha256 lineNo before lines = .ok events) :
    verifyLines sha256 lineNo before (lines ++ [line]) =
      verifyLine sha256 (lineNo + lines.length) events line := by
  induction lines generalizing lineNo before with
  | nil =>
      cases accepted
      rw [List.nil_append, verifyLines, List.length_nil, Nat.add_zero]
      cases verifyLine sha256 lineNo events line <;> rfl
  | cons first lines inductionHypothesis =>
      unfold verifyLines at accepted
      rw [List.cons_append, verifyLines]
      cases verified : verifyLine sha256 lineNo before first with
      | error refusal =>
          rw [verified] at accepted
          cases accepted
      | ok next =>
          rw [verified] at accepted
          dsimp only
          rw [inductionHypothesis accepted, List.length_cons, Nat.add_right_comm, Nat.add_assoc]

/-- A log that verifies is a chain. -/
theorem grown_of_verify
    {log : Str}
    {events : List (Event F)}
    (verified : verify sha256 log = .ok events) : Grown (Linked sha256) events :=
  (verifyLines_grown sha256 grown_nil verified).1

/-- The text the digest of an event is taken over. -/
def hashedText (event : Event F) : Str :=
  dumps ⟨true, false⟩ (.dict (hashed event.seq event.type event.payload event.previous))

/-- A digest is taken of what is finite. -/
theorem eventHash_eq_ok
    {event : Event F}
    {digest : Str}
    (isHash : eventHash sha256 event.seq event.type event.payload event.previous =
      .ok digest) :
    Json.finite (.dict (hashed event.seq event.type event.payload event.previous)) = true ∧
      digest = sha256Hex sha256 (hashedText event) := by
  unfold eventHash canonicalBytes at isHash
  by_cases isFinite :
      Json.finite (.dict (hashed event.seq event.type event.payload event.previous)) = true
  · rw [if_pos isFinite] at isHash
    exact ⟨isFinite, (Except.ok.inj isHash).symm⟩
  · rw [if_neg isFinite] at isHash
    exact nomatch isHash

/-- The digest of an event has the form of one. -/
theorem Linked.isSha256_hash
    {before : List (Event F)}
    {event : Event F}
    (linked : Linked sha256 before event) : isSha256 event.hash = true := by
  rw [(eventHash_eq_ok sha256 linked.hash).2]
  exact isSha256_sha256Hex sha256 _

/-- The digest the next event has to name has the form of one. -/
theorem isSha256_expectedPrevious
    {events : List (Event F)}
    (grown : Grown (Linked sha256) events) : isSha256 (expectedPrevious events) = true := by
  unfold expectedPrevious
  cases isLast : events.getLast? with
  | none =>
      show isSha256 genesisPrevious = true
      decide
  | some event =>
      obtain ⟨before, same⟩ := List.getLast?_eq_some_iff.mp isLast
      exact (grown before event [] same).isSha256_hash sha256

/-! ## Appending -/

/-- What an append of an event does to a log that verifies. -/
structure Appended
    (log log' : Str)
    (events : List (Event F))
    (eventType : Str)
    (payload : Dict F)
    (event : Event F) : Prop where
  /-- The event has the next number. -/
  seq : event.seq = events.length
  /-- The event has the type. -/
  type : event.type = eventType
  /-- The event says what it was given. -/
  payload : event.payload = arrangeDict payload
  /-- The log is extended. -/
  extended : log <+: log'
  /-- The log with the event verifies. -/
  verified : verify sha256 log' = .ok (events ++ [event])

/-- What is appended to a log that verifies is written and read back, or nothing
changes. -/
theorem append_cases
    [ReadableFloats F]
    {log : Str}
    {events : List (Event F)}
    (verified : verify sha256 log = .ok events)
    (eventType : Str)
    {payload : Dict F}
    (keyed : wellKeyed (.dict payload) = true) :
    (∃ refusal, append sha256 log eventType payload = (.error refusal, log)) ∨
      ∃ event log', append sha256 log eventType payload = (.ok event, log') ∧
        Appended sha256 log log' events eventType payload event := by
  unfold append
  by_cases isType : isEventType eventType = true
  · rw [isType]
    simp only [Bool.not_true, Bool.false_eq_true, if_false]
    unfold canonicalBytes
    by_cases isFinite : Json.finite (.dict payload) = true
    · right
      have isReadable : readable (.dict payload) = true := by
        rw [readable_eq, isFinite, keyed]
        rfl
      rw [if_pos isFinite]
      dsimp only
      rw [loads_canonical ⟨true, true⟩ false isReadable, arrange_dict]
      dsimp only
      rw [verified]
      dsimp only
      have grown := grown_of_verify sha256 verified
      have copyFinite : Json.finite (.dict (arrangeDict payload)) = true := by
        rw [← arrange_dict, finite_arrange]
        exact isFinite
      have copyKeyed : wellKeyed (.dict (arrangeDict payload)) = true := by
        rw [← arrange_dict, wellKeyed_arrange]
        exact keyed
      have again : arrangeDict (arrangeDict payload) = arrangeDict payload := by
        have twice := arrange_arrange (.dict payload)
        rw [arrange_dict, arrange_dict] at twice
        exact Value.dict.inj twice
      have hashFinite : ∀ seq : Int, Json.finite (.dict (hashed seq eventType
          (arrangeDict payload) (expectedPrevious events))) = true := by
        intro seq
        simp only [Json.finite, hashed, everywhere, everywhereEntries, Bool.true_and,
          Bool.and_true]
        simpa only [Json.finite, everywhere, Bool.true_and] using copyFinite
      have isHash : eventHash sha256 events.length eventType (arrangeDict payload)
          (expectedPrevious events) = .ok (sha256Hex sha256 (dumps ⟨true, false⟩ (.dict
            (hashed events.length eventType (arrangeDict payload)
              (expectedPrevious events))))) := by
        unfold eventHash canonicalBytes
        rw [if_pos (hashFinite _)]
        rfl
      generalize digest : sha256Hex sha256 _ = hash at isHash
      let event : Event F :=
        { seq := events.length, type := eventType, payload := arrangeDict payload,
          previous := expectedPrevious events, hash }
      have isDigest : isSha256 hash = true := by
        rw [← digest]
        exact isSha256_sha256Hex sha256 _
      have wellFormed : WellFormed event :=
        ⟨isType, isSha256_expectedPrevious sha256 grown, isDigest, copyFinite, copyKeyed⟩
      have recordFinite : Json.finite (.dict event.record) = true := by
        have isRecord := readable_record wellFormed
        rw [readable_eq, Bool.and_eq_true] at isRecord
        exact isRecord.1
      have parsed : ∀ lineNo, parse (dumps ⟨true, false⟩ (.dict event.record) ++ ['\n'])
          lineNo = .ok event := by
        intro lineNo
        rw [parse_line wellFormed lineNo]
        exact congrArg Except.ok (by rw [again])
      have linked : Linked sha256 events event := ⟨rfl, rfl, isHash⟩
      have ended := (verifyLines_grown sha256 grown_nil verified).2
      refine ⟨event, log ++ (dumps ⟨true, false⟩ (.dict event.record) ++ ['\n']), ?_, ?_⟩
      · unfold extend
        dsimp only
        rw [isHash]
        dsimp only
        unfold canonicalBytes
        rw [if_pos recordFinite]
      · refine ⟨rfl, rfl, rfl, List.prefix_append _ _, ?_⟩
        have nonempty : dumps ⟨true, false⟩ (.dict event.record) ≠ [] := by
          rw [dumps]
          exact List.cons_ne_nil _ _
        unfold verify
        rw [fileLines_append ended (printable_line wellFormed) nonempty,
          verifyLines_snoc sha256 _ verified]
        exact verifyLine_of_linked sha256 (by simp) (parsed _) linked
    · left
      rw [if_neg isFinite]
      exact ⟨_, rfl⟩
  · left
    rw [Bool.not_eq_true] at isType
    rw [isType]
    exact ⟨_, rfl⟩

end Digest

end EventLog
end ChatPlatform
