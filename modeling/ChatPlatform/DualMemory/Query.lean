import ChatPlatform.DualMemory.Compose
import ChatPlatform.Foundation.Occurrences
import ChatPlatform.Foundation.PrefixCode

/-!
# Memory queries

The text of a query names each message of the recent events with its place in its event, its
author and the number of its bytes, so that the contents can be told apart whatever they imitate.
Events are left out from the first one on until the text fits the budget.
-/

namespace ChatPlatform
namespace DualMemory

open Numeral PrefixCode Recall Text

/-! ## Building a query -/

/-- A query. -/
structure MemoryQuery where
  /-- How it was built. -/
  variant : Str
  /-- Its text. -/
  text : Str
  /-- The recent events that it has. -/
  recentEventIds : List Str
  /-- The estimate of its text. -/
  estimatedTokens : Nat
  deriving DecidableEq

/-- The elements of a list from a start on, which counts from the end when it is negative. -/
def sliceFrom
    {α : Type}
    (start : Int)
    (entries : List α) : List α :=
  entries.drop (if start < 0 then entries.length + start else start).toNat

/-- The first line of a query. -/
def openingLine : Str := "MEMORY_QUERY_V1".toList

/-- What announces the number of the events. -/
def countWord : Str := "RECENT_COUNT ".toList

/-- What announces a message. -/
def messageWord : Str := "MESSAGE ".toList

/-- What announces the current message. -/
def currentWord : Str := "CURRENT user ".toList

/-- The last line of a query. -/
def closingLine : Str := "END_MEMORY_QUERY".toList

/-- The lines of a message, with its place in its event. -/
def queryMessageLines (entry : TranscriptMessage × Nat) : List Str :=
  let content := normalizeLineEndings entry.1.content
  [messageWord ++ decimal entry.2 ++ [' '] ++ entry.1.role ++ [' '] ++
    decimal (utf8Length content), content]

/-- The lines of an event. -/
def queryEventLines (event : ConversationEvent) : List Str :=
  (event.messages.zipIdx 1).flatMap queryMessageLines

/-- The text of a query. -/
def queryText
    (currentUser : TranscriptMessage)
    (recent : List ConversationEvent) : Str :=
  let current := normalizeLineEndings currentUser.content
  join ['\n']
    ([openingLine, countWord ++ decimal recent.length] ++ recent.flatMap queryEventLines ++
      [currentWord ++ decimal (utf8Length current), current, closingLine])

/-- Whether the text of a query is within the budget. -/
def QueryFits
    (currentUser : TranscriptMessage)
    (maxTokens : Int)
    (recent : List ConversationEvent) : Prop :=
  (estimatedTokens (queryText currentUser recent) : Int) ≤ maxTokens

instance
    (currentUser : TranscriptMessage)
    (maxTokens : Int)
    (recent : List ConversationEvent) : Decidable (QueryFits currentUser maxTokens recent) :=
  inferInstanceAs (Decidable (_ ≤ _))

/-- The events that are left when the text fits. -/
def fittingEvents
    (currentUser : TranscriptMessage)
    (maxTokens : Int) : List ConversationEvent → Option (List ConversationEvent)
  | [] => if QueryFits currentUser maxTokens [] then some [] else none
  | event :: rest =>
      if QueryFits currentUser maxTokens (event :: rest) then some (event :: rest)
      else fittingEvents currentUser maxTokens rest

/-- A query is built. -/
def buildQuery
    (variant : Str)
    (currentUser : TranscriptMessage)
    (events : List ConversationEvent)
    (recentEventCount maxTokens : Int) : Except Str MemoryQuery :=
  if currentUser.role ≠ "user".toList then
    .error "current request must have user role".toList
  else if variant = "Q1".toList then
    if (estimatedTokens currentUser.content : Int) > maxTokens then
      .error "current request exceeds memory query budget".toList
    else .ok ⟨variant, currentUser.content, [], estimatedTokens currentUser.content⟩
  else if variant ≠ "Q2-TEXT".toList then .error "unsupported memory query variant".toList
  else
    match fittingEvents currentUser maxTokens (sliceFrom (-recentEventCount) events) with
    | none => .error "current request exceeds memory query budget".toList
    | some recent =>
        .ok ⟨variant, queryText currentUser recent, recent.map (·.eventId),
          estimatedTokens (queryText currentUser recent)⟩

/-! ## The longest suffix that fits -/

/-- Nothing fits when no events are left. -/
theorem fittingEvents_eq_none
    (currentUser : TranscriptMessage)
    (maxTokens : Int)
    (events : List ConversationEvent)
    (none : fittingEvents currentUser maxTokens events = none) :
    ∀ suffix, suffix <:+ events → ¬QueryFits currentUser maxTokens suffix := by
  induction events with
  | nil =>
      intro suffix isSuffix
      obtain rfl := List.suffix_nil.mp isSuffix
      rw [fittingEvents] at none
      split at none
      · cases none
      · assumption
  | cons event rest ih =>
      rw [fittingEvents] at none
      split at none
      case isTrue => cases none
      case isFalse unfit =>
        intro suffix isSuffix
        obtain rfl | within := List.suffix_cons_iff.mp isSuffix
        · exact unfit
        · exact ih none suffix within

/-- What is left is the longest suffix that fits. -/
theorem fittingEvents_eq_some
    (currentUser : TranscriptMessage)
    (maxTokens : Int)
    (events recent : List ConversationEvent)
    (found : fittingEvents currentUser maxTokens events = some recent) :
    recent <:+ events ∧ QueryFits currentUser maxTokens recent ∧
      ∀ suffix, suffix <:+ events → QueryFits currentUser maxTokens suffix →
        suffix.length ≤ recent.length := by
  induction events with
  | nil =>
      rw [fittingEvents] at found
      split at found
      case isTrue fits =>
        obtain rfl := Option.some.inj found
        exact ⟨List.suffix_rfl, fits, fun suffix isSuffix _ => isSuffix.length_le⟩
      case isFalse => cases found
  | cons event rest ih =>
      rw [fittingEvents] at found
      split at found
      case isTrue fits =>
        obtain rfl := Option.some.inj found
        exact ⟨List.suffix_rfl, fits, fun suffix isSuffix _ => isSuffix.length_le⟩
      case isFalse unfit =>
        obtain ⟨isSuffix, fits, longest⟩ := ih found
        refine ⟨isSuffix.trans (List.suffix_cons _ _), fits, fun suffix within others => ?_⟩
        obtain rfl | later := List.suffix_cons_iff.mp within
        · exact absurd others unfit
        · exact longest suffix later others

/-- The last events. -/
theorem sliceFrom_neg
    {α : Type}
    (count : Int)
    (entries : List α)
    (countPositive : 1 ≤ count) :
    sliceFrom (-count) entries = entries.drop (entries.length - count.toNat) := by
  rw [sliceFrom, if_pos (by omega)]
  congr 1
  omega

/-! ## Reading a query -/

/-- An event with messages, whose authors are the user and the assistant. -/
structure Spoken (event : ConversationEvent) : Prop where
  /-- There is a message. -/
  nonempty : event.messages ≠ []
  /-- The authors. -/
  roles : ∀ message ∈ event.messages,
    message.role = "user".toList ∨ message.role = "assistant".toList

/-- The authors and the contents of an event. -/
def ConversationEvent.contents (event : ConversationEvent) : List (Str × Str) :=
  event.messages.map fun message => (message.role, normalizeLineEndings message.content)

/-- The text of a message in a query. -/
def recordText (record : (Str × Str) × Nat) : Str :=
  messageWord ++ (decimal record.2 ++ ' ' :: (record.1.1 ++ ' ' ::
    (decimal (utf8Length record.1.2) ++ '\n' :: (record.1.2 ++ ['\n']))))

/-- The numbered messages of events. -/
def numbered (recent : List ConversationEvent) : List ((Str × Str) × Nat) :=
  (recent.map ConversationEvent.contents).flatMap (·.zipIdx 1)

/-- The lines of a message, each with a line end. -/
theorem queryMessageLines_newline (entry : TranscriptMessage × Nat) :
    (queryMessageLines entry).flatMap (· ++ ['\n']) =
      recordText ((entry.1.role, normalizeLineEndings entry.1.content), entry.2) := by
  simp only [queryMessageLines, recordText, List.flatMap_cons, List.flatMap_nil,
    List.append_assoc, List.append_nil, List.cons_append, List.nil_append]

/-- The lines of the events, each with a line end. -/
theorem queryEventLines_newline (recent : List ConversationEvent) :
    (recent.flatMap queryEventLines).flatMap (· ++ ['\n']) =
      (numbered recent).flatMap recordText := by
  rw [numbered, List.flatMap_assoc, List.flatMap_assoc, List.flatMap_map]
  refine List.flatMap_congr fun event _ => ?_
  rw [queryEventLines, List.flatMap_assoc, ConversationEvent.contents, List.zipIdx_map,
    List.flatMap_map]
  exact List.flatMap_congr fun entry _ => queryMessageLines_newline entry

/-- The text of a query, part by part. -/
theorem queryText_newline
    (currentUser : TranscriptMessage)
    (recent : List ConversationEvent) :
    queryText currentUser recent ++ ['\n'] =
      openingLine ++ '\n' :: (countWord ++ (decimal recent.length ++ '\n' ::
        ((numbered recent).flatMap recordText ++ (currentWord ++
          (decimal (utf8Length (normalizeLineEndings currentUser.content)) ++ '\n' ::
            (normalizeLineEndings currentUser.content ++ '\n' :: (closingLine ++ ['\n']))))))) := by
  rw [queryText, join_append_separator _ (by simp), List.flatMap_append, List.flatMap_append,
    queryEventLines_newline]
  simp only [List.flatMap_cons, List.flatMap_nil, List.append_assoc, List.append_nil,
    List.cons_append, List.nil_append]

/-- Two contents that are announced by their lengths are the same. -/
theorem announced_inj
    {content content' rest rest' : Str}
    (same : decimal (utf8Length content) ++ '\n' :: (content ++ rest) =
      decimal (utf8Length content') ++ '\n' :: (content' ++ rest')) :
    content = content' ∧ rest = rest' := by
  obtain ⟨lengths, later⟩ := append_mark_inj (notMem_decimal _ '\n' (by decide))
    (notMem_decimal _ '\n' (by decide)) same
  exact append_weight_inj Char.utf8Size Char.utf8Size_pos (decimal_inj lengths) later

/-- Messages whose authors have no space can be told apart. -/
theorem readable_recordText :
    Readable fun record : {record : (Str × Str) × Nat // ' ' ∉ record.1.1} =>
      recordText record.1 := by
  rintro ⟨⟨⟨role, content⟩, ordinal⟩, plain⟩ ⟨⟨⟨role', content'⟩, ordinal'⟩, plain'⟩ rest rest'
  intro same
  simp only [recordText, List.append_assoc, List.cons_append] at same
  obtain ⟨ordinals, afterOrdinal⟩ := append_mark_inj (notMem_decimal _ ' ' (by decide))
    (notMem_decimal _ ' ' (by decide)) (List.append_cancel_left same)
  obtain ⟨rfl, afterRole⟩ := append_mark_inj plain plain' afterOrdinal
  obtain ⟨rfl, afterContent⟩ := announced_inj afterRole
  obtain rfl := decimal_inj ordinals
  exact ⟨rfl, (List.cons.inj afterContent).2⟩

/-- The authors of numbered messages have no space. -/
theorem role_of_mem_numbered
    (recent : List ConversationEvent)
    (spoken : ∀ event ∈ recent, Spoken event) :
    ∀ record ∈ numbered recent, ' ' ∉ record.1.1 := by
  intro record held
  obtain ⟨contents, isContents, inside⟩ := List.mem_flatMap.mp held
  obtain ⟨event, isEvent, rfl⟩ := List.mem_map.mp isContents
  have member : record.1 ∈ event.contents := List.fst_mem_of_mem_zipIdx inside
  obtain ⟨message, isMessage, isRecord⟩ := List.mem_map.mp member
  rw [← isRecord]
  obtain isUser | isAssistant := (spoken event isEvent).roles message isMessage
  · simp only [isUser]
    decide
  · simp only [isAssistant]
    decide

/-- Messages that are followed by the current one can be told apart. -/
theorem numbered_inj
    (recent recent' : List ConversationEvent)
    (spoken : ∀ event ∈ recent, Spoken event)
    (spoken' : ∀ event ∈ recent', Spoken event)
    {rest rest' : Str}
    (same : (numbered recent).flatMap recordText ++ (currentWord ++ rest) =
      (numbered recent').flatMap recordText ++ (currentWord ++ rest')) :
    numbered recent = numbered recent' ∧ rest = rest' := by
  have attached : ∀ records : List ((Str × Str) × Nat),
      ∀ plain : ∀ record ∈ records, ' ' ∉ record.1.1,
        records.flatMap recordText =
          (records.attachWith _ plain).flatMap fun record => recordText record.1 := by
    intro records plain
    rw [← List.flatMap_map (f := Subtype.val), List.attachWith_map_subtype_val]
  have starts : ∀ record : {record : (Str × Str) × Nat // ' ' ∉ record.1.1},
      ∃ first word, recordText record.1 = first :: word ∧ first ≠ 'C' :=
    fun record => ⟨'M', _, rfl, by decide⟩
  have closed := readable_recordText.flatMap_closed starts
  obtain ⟨word, isWord⟩ : ∃ word, currentWord = 'C' :: word := ⟨_, rfl⟩
  simp only [isWord, List.cons_append] at same
  have toStop : ∀ front back : Str, front ++ 'C' :: back = front ++ ['C'] ++ back :=
    fun front back => List.append_cons front 'C' back
  rw [toStop _ (word ++ rest), toStop _ (word ++ rest')] at same
  rw [attached _ (role_of_mem_numbered recent spoken),
    attached _ (role_of_mem_numbered recent' spoken')] at same
  obtain ⟨records, left⟩ := closed same
  refine ⟨?_, List.append_cancel_left left⟩
  have values := congrArg (List.map Subtype.val) records
  rwa [List.attachWith_map_subtype_val, List.attachWith_map_subtype_val] at values

/-- Equal texts have the same contents, event by event, and the same current message. -/
theorem queryText_inj
    (currentUser currentUser' : TranscriptMessage)
    (recent recent' : List ConversationEvent)
    (spoken : ∀ event ∈ recent, Spoken event)
    (spoken' : ∀ event ∈ recent', Spoken event)
    (same : queryText currentUser recent = queryText currentUser' recent') :
    recent.map ConversationEvent.contents = recent'.map ConversationEvent.contents ∧
      normalizeLineEndings currentUser.content = normalizeLineEndings currentUser'.content := by
  have ended := congrArg (· ++ ['\n']) same
  simp only [queryText_newline] at ended
  have afterOpening := (List.cons.inj (List.append_cancel_left ended)).2
  obtain ⟨-, afterCount⟩ := append_mark_inj (notMem_decimal _ '\n' (by decide))
    (notMem_decimal _ '\n' (by decide)) (List.append_cancel_left afterOpening)
  obtain ⟨messages, afterMessages⟩ := numbered_inj recent recent' spoken spoken' afterCount
  obtain ⟨current, -⟩ := announced_inj afterMessages
  have nonempty : ∀ events : List ConversationEvent, (∀ event ∈ events, Spoken event) →
      ∀ contents ∈ events.map ConversationEvent.contents, contents ≠ [] := by
    intro events allSpoken contents held
    obtain ⟨event, isEvent, rfl⟩ := List.mem_map.mp held
    rw [ConversationEvent.contents, ne_eq, List.map_eq_nil_iff]
    exact (allSpoken event isEvent).nonempty
  exact ⟨flatMap_zipIdx_inj _ _ (nonempty recent spoken) (nonempty recent' spoken') messages,
    current⟩

/-! ## Decodable and maximal -/

/-- The events that a query has. -/
def includedEvents
    (currentUser : TranscriptMessage)
    (events : List ConversationEvent)
    (recentEventCount maxTokens : Int) : List ConversationEvent :=
  (fittingEvents currentUser maxTokens (sliceFrom (-recentEventCount) events)).getD []

/-- A query has some of the events. -/
theorem includedEvents_subset
    (currentUser : TranscriptMessage)
    (events : List ConversationEvent)
    (recentEventCount maxTokens : Int) :
    includedEvents currentUser events recentEventCount maxTokens ⊆ events := by
  rw [includedEvents]
  cases found : fittingEvents currentUser maxTokens (sliceFrom (-recentEventCount) events) with
  | none => exact List.nil_subset _
  | some recent =>
      have isSuffix := (fittingEvents_eq_some currentUser maxTokens _ recent found).1
      exact fun event held => (List.drop_suffix _ _).subset (isSuffix.subset held)

/-- The text of a query is that of the events it has. -/
theorem text_of_buildQuery
    (currentUser : TranscriptMessage)
    (events : List ConversationEvent)
    (recentEventCount maxTokens : Int)
    (query : MemoryQuery)
    (built : buildQuery "Q2-TEXT".toList currentUser events recentEventCount maxTokens =
      .ok query) :
    query.text =
      queryText currentUser (includedEvents currentUser events recentEventCount maxTokens) := by
  rw [buildQuery, if_neg (by decide : ¬"Q2-TEXT".toList = "Q1".toList),
    if_neg (by decide : ¬"Q2-TEXT".toList ≠ "Q2-TEXT".toList)] at built
  rw [includedEvents]
  split at built
  · cases built
  · split at built
    case h_1 => cases built
    case h_2 recent found =>
      rw [found]
      obtain rfl := Except.ok.inj built
      rfl

/-- A query either cannot be built since the current message alone is too long, or has the longest
suffix of the last events that fits; and its text determines what it has. -/
theorem buildQuery_decodable
    (currentUser : TranscriptMessage)
    (events : List ConversationEvent)
    (recentEventCount maxTokens : Int)
    (isUser : currentUser.role = "user".toList)
    (spoken : ∀ event ∈ events, Spoken event)
    (countPositive : 1 ≤ recentEventCount) :
    ((buildQuery "Q2-TEXT".toList currentUser events recentEventCount maxTokens =
          .error "current request exceeds memory query budget".toList ∧
        ¬QueryFits currentUser maxTokens []) ∨
      ∃ recent, recent <:+ events.drop (events.length - recentEventCount.toNat) ∧
        QueryFits currentUser maxTokens recent ∧
        (∀ other, other <:+ events.drop (events.length - recentEventCount.toNat) →
          QueryFits currentUser maxTokens other → other.length ≤ recent.length) ∧
        includedEvents currentUser events recentEventCount maxTokens = recent ∧
        buildQuery "Q2-TEXT".toList currentUser events recentEventCount maxTokens =
          .ok ⟨"Q2-TEXT".toList, queryText currentUser recent, recent.map (·.eventId),
            estimatedTokens (queryText currentUser recent)⟩) ∧
    ∀ otherUser otherEvents otherCount otherTokens query otherQuery,
      (∀ event ∈ otherEvents, Spoken event) →
      buildQuery "Q2-TEXT".toList currentUser events recentEventCount maxTokens = .ok query →
      buildQuery "Q2-TEXT".toList otherUser otherEvents otherCount otherTokens = .ok otherQuery →
      query.text = otherQuery.text →
        (includedEvents currentUser events recentEventCount maxTokens).map
            ConversationEvent.contents =
          (includedEvents otherUser otherEvents otherCount otherTokens).map
            ConversationEvent.contents ∧
        normalizeLineEndings currentUser.content = normalizeLineEndings otherUser.content := by
  constructor
  · rw [buildQuery, if_neg (not_not.mpr isUser), includedEvents,
      if_neg (by decide : ¬"Q2-TEXT".toList = "Q1".toList),
      if_neg (by decide : ¬"Q2-TEXT".toList ≠ "Q2-TEXT".toList), ← sliceFrom_neg _ _ countPositive]
    cases found : fittingEvents currentUser maxTokens (sliceFrom (-recentEventCount) events) with
    | none =>
        refine .inl ⟨rfl, ?_⟩
        exact fittingEvents_eq_none currentUser maxTokens _ found [] (List.nil_suffix)
    | some recent =>
        obtain ⟨isSuffix, fits, longest⟩ :=
          fittingEvents_eq_some currentUser maxTokens _ recent found
        exact .inr ⟨recent, isSuffix, fits, longest, rfl, rfl⟩
  · intro otherUser otherEvents otherCount otherTokens query otherQuery otherSpoken built otherBuilt
      sameText
    rw [text_of_buildQuery _ _ _ _ _ built, text_of_buildQuery _ _ _ _ _ otherBuilt] at sameText
    exact queryText_inj currentUser otherUser _ _
      (fun event held => spoken event (includedEvents_subset _ _ _ _ held))
      (fun event held => otherSpoken event (includedEvents_subset _ _ _ _ held)) sameText

/-- An event whose first message imitates the lines of a query. -/
def imitatingEvent : ConversationEvent where
  eventId := "e1".toList
  messages := [⟨"user".toList, "a\r\nMESSAGE 2 assistant 1\nb".toList⟩, ⟨"assistant".toList, []⟩]

/-- The query of the imitating event and a message that imitates the last line. -/
def imitatingQuery : MemoryQuery where
  variant := "Q2-TEXT".toList
  text :=
    ("MEMORY_QUERY_V1\nRECENT_COUNT 1\nMESSAGE 1 user 25\na\nMESSAGE 2 assistant 1\nb\n" ++
      "MESSAGE 2 assistant 0\n\nCURRENT user 16\nEND_MEMORY_QUERY\nEND_MEMORY_QUERY").toList
  recentEventIds := ["e1".toList]
  estimatedTokens := 37

/-- Of two events the second one fits next to the current message. Every query with the same
text is of the same contents, whatever they imitate. -/
theorem buildQuery_decodable_sample :
    let currentUser : TranscriptMessage := ⟨"user".toList, "END_MEMORY_QUERY".toList⟩
    let events := [imitatingEvent, imitatingEvent]
    buildQuery "Q2-TEXT".toList currentUser events 2 40 = .ok imitatingQuery ∧
      (∀ other, other <:+ events → QueryFits currentUser 40 other → other.length ≤ 1) ∧
      ∀ otherUser otherEvents otherCount otherTokens otherQuery,
        (∀ event ∈ otherEvents, Spoken event) →
        buildQuery "Q2-TEXT".toList otherUser otherEvents otherCount otherTokens =
          .ok otherQuery →
        otherQuery.text = imitatingQuery.text →
          (includedEvents otherUser otherEvents otherCount otherTokens).map
              ConversationEvent.contents = [imitatingEvent.contents] ∧
            normalizeLineEndings otherUser.content = "END_MEMORY_QUERY".toList := by
  intro currentUser events
  have spoken : ∀ event ∈ events, Spoken event := by
    intro event held
    obtain rfl : event = imitatingEvent := by simpa [events] using held
    exact ⟨List.cons_ne_nil _ _, by simp [imitatingEvent]⟩
  have built : buildQuery "Q2-TEXT".toList currentUser events 2 40 = .ok imitatingQuery := by
    decide +kernel
  have unchanged : normalizeLineEndings currentUser.content = "END_MEMORY_QUERY".toList := by
    decide +kernel
  obtain ⟨outcome, decodable⟩ :=
    buildQuery_decodable currentUser events 2 40 rfl spoken (by decide)
  obtain ⟨failed, -⟩ | ⟨recent, isSuffix, -, longest, included, -⟩ := outcome
  · exact nomatch failed.symm.trans built
  have single : recent.length = 1 := included ▸ (by decide +kernel)
  rw [single] at longest
  refine ⟨built, longest, ?_⟩
  intro otherUser otherEvents otherCount otherTokens otherQuery otherSpoken otherBuilt text
  obtain ⟨contents, current⟩ :=
    decodable _ _ _ _ _ _ otherSpoken built otherBuilt text.symm
  obtain rfl : recent = [imitatingEvent] := by
    rw [List.suffix_iff_eq_drop.mp isSuffix, single]
    rfl
  rw [included] at contents
  exact ⟨contents.symm, current.symm.trans unchanged⟩

end DualMemory
end ChatPlatform
