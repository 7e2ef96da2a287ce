import ChatPlatform.Foundation.JsonCanonical
import ChatPlatform.Foundation.JsonLexing
import ChatPlatform.Providers.OpenAi

/-!
# Decoding the OpenAI event stream

The decoder takes the lines of the body one by one. The lines are those of the built-in
line splitting, which breaks at more characters than an event stream and a JSON text do.
What a server sends is decoded to exactly the events it stands for if and only if no JSON
text holds one of these further breaks.
-/

namespace ChatPlatform
namespace OpenAi

variable {F : Type} [FloatOps F]

/-! ## The decoder -/

/-- The failure of an event whose data is no JSON object. -/
def streamParseError : ProviderError :=
  { kind := .unknown, message := "provider stream parse error".toList }

/-- The event of some data lines, if they stand for one. -/
def parseSseEvent
    (eventName : Option Str)
    (dataLines : List Str) : Except ProviderError (Option (StreamEvent F)) :=
  if dataLines = [] then .ok none
  else
    let rawData := Text.strip (Text.join ['\n'] dataLines)
    if rawData = [] ∨ rawData = "[DONE]".toList then .ok none
    else
      match Json.loads ⟨true, true⟩ rawData with
      | some (.dict payload) => .ok (some (eventName, payload))
      | _ => .error streamParseError

/-- The event being collected. -/
structure SseState where
  /-- Its name, if one was given. -/
  eventName : Option Str := none
  /-- Its data lines. -/
  dataLines : List Str := []
  deriving DecidableEq, Repr

/-- Take in one line: the events it completes and the event being collected after it. -/
def takeLine
    (state : SseState)
    (rawLine : Str) : Except ProviderError (List (StreamEvent F) × SseState) :=
  let line := Text.strip rawLine
  if line = [] then
    (parseSseEvent state.eventName state.dataLines).map fun event => (event.toList, {})
  else if ":".toList.isPrefixOf line then .ok ([], state)
  else if "event:".toList.isPrefixOf line then
    let name := Text.strip (line.drop 6)
    .ok ([], { state with eventName := if name = [] then none else some name })
  else if "data:".toList.isPrefixOf line then
    .ok ([], { state with
      dataLines := state.dataLines ++ [(line.drop 5).dropWhile Text.isSpace] })
  else .ok ([], state)

/-- The events of some lines, and the failure that ended the reading of them. -/
def iterSseEvents (state : SseState) :
    List Str → List (StreamEvent F) × Option ProviderError
  | [] =>
      match parseSseEvent (F := F) state.eventName state.dataLines with
      | .error error => ([], some error)
      | .ok event => (event.toList, none)
  | rawLine :: rest =>
      match takeLine (F := F) state rawLine with
      | .error error => ([], some error)
      | .ok (events, next) =>
          let after := iterSseEvents next rest
          (events ++ after.1, after.2)

/-- The call that reads a body. -/
def streamCall (body model : Str) (latencyMs : Int) : StreamCall F where
  events := (iterSseEvents {} (Text.splitlines body)).1
  interruption := (iterSseEvents (F := F) {} (Text.splitlines body)).2
  model
  latencyMs

/-! ## The server -/

/-- Lines written one after another, each ended by a line feed or by a carriage return and
a line feed. -/
inductive Written : List Str → Str → Prop
  /-- No line. -/
  | nil : Written [] []
  /-- A line and its end. -/
  | line {lines : List Str} {body : Str} (text ending : Str) :
      ending = ['\n'] ∨ ending = ['\r', '\n'] →
      Written lines body →
      Written (text :: lines) (text ++ (ending ++ body))

/-- A comment line. -/
def commentLine (comment : Str) : Str := ':' :: comment

/-- White space within a line of JSON. -/
def IsPadding (s : Str) : Prop := ∀ c ∈ s, c = ' ' ∨ c = '\t'

/-- An event as a server writes it: its name, if it has one, one line of data that holds
the JSON text of its payload, and comment lines in between. -/
structure Frame (F : Type) [FloatOps F] where
  /-- The name of the event. -/
  name : Option Str
  /-- The payload. -/
  payload : Dict F
  /-- The JSON text of the payload. -/
  json : Str
  /-- White space before the JSON text. -/
  lead : Str
  /-- White space after the JSON text. -/
  trail : Str
  /-- The name is written before the data. -/
  nameFirst : Bool
  /-- There is a space before the name. -/
  nameSpace : Bool
  /-- The comments before the fields. -/
  before : List Str
  /-- The comments between the fields. -/
  between : List Str
  /-- The comments after the fields. -/
  after : List Str
  /-- A name is not empty and holds no white space. -/
  plainName : ∀ given ∈ name, given ≠ [] ∧ ∀ c ∈ given, Text.isSpace c = false
  /-- The JSON text stands for the payload. -/
  reads : Json.loads ⟨true, true⟩ json = some (.dict payload)
  /-- The JSON text begins and ends without white space. -/
  trimmed : Text.IsTrimmed json
  /-- The JSON text is on one line. -/
  oneLine : Text.OneLine json
  /-- The white space before it is on the same line. -/
  leadPadding : IsPadding lead
  /-- So is the white space after it. -/
  trailPadding : IsPadding trail
  /-- A comment is on one line. -/
  commentsOneLine : ∀ comment ∈ before ++ between ++ after, Text.OneLine comment

/-- The line of a name. -/
def Frame.nameLine (frame : Frame F) (given : Str) : Str :=
  "event:".toList ++ ((if frame.nameSpace then [' '] else []) ++ given)

/-- The line of the data. -/
def Frame.dataLine (frame : Frame F) : Str :=
  "data:".toList ++ (frame.lead ++ (frame.json ++ frame.trail))

/-- The lines of the fields. -/
def Frame.fieldLines (frame : Frame F) : List Str :=
  match frame.name with
  | none => frame.between.map commentLine ++ [frame.dataLine]
  | some given =>
      if frame.nameFirst then
        frame.nameLine given :: (frame.between.map commentLine ++ [frame.dataLine])
      else frame.dataLine :: (frame.between.map commentLine ++ [frame.nameLine given])

/-- The lines of an event, with the blank line that ends it. -/
def Frame.lines (frame : Frame F) : List Str :=
  frame.before.map commentLine ++
    (frame.fieldLines ++ (frame.after.map commentLine ++ [[]]))

/-- The event that a server writes. -/
def Frame.event (frame : Frame F) : StreamEvent F := (frame.name, frame.payload)

/-- The end of a stream as a server writes it: the mark that closes it, and comment lines
around the mark. -/
structure Closing where
  /-- The comments before the mark. -/
  before : List Str
  /-- The comments after the mark. -/
  after : List Str
  /-- There is a space before the mark. -/
  markSpace : Bool
  /-- A blank line ends the stream. -/
  closed : Bool
  /-- A comment is on one line. -/
  commentsOneLine : ∀ comment ∈ before ++ after, Text.OneLine comment

/-- The line of the mark. -/
def Closing.markLine (closing : Closing) : Str :=
  "data:".toList ++ ((if closing.markSpace then [' '] else []) ++ "[DONE]".toList)

/-- The lines of the end. -/
def Closing.lines (closing : Closing) : List Str :=
  closing.before.map commentLine ++ (closing.markLine ::
    (closing.after.map commentLine ++ if closing.closed then [[]] else []))

/-- A body as a server writes it: some events and the end of the stream. -/
structure Served (F : Type) [FloatOps F] where
  /-- The events. -/
  frames : List (Frame F)
  /-- The end. -/
  closing : Closing
  /-- The body. -/
  body : Str
  /-- The body holds the lines of the events and of the end. -/
  written : Written (frames.flatMap Frame.lines ++ closing.lines) body

/-- The comments of a body. -/
def Served.comments (served : Served F) : List Str :=
  served.frames.flatMap (fun frame => frame.before ++ frame.between ++ frame.after) ++
    (served.closing.before ++ served.closing.after)

/-- The decoder yields exactly the events of the server, without a failure. -/
def Served.Decodes (served : Served F) : Prop :=
  iterSseEvents {} (Text.splitlines served.body) = (served.frames.map Frame.event, none)

/-! ## The condition -/

/-- The breaks that a JSON string may hold as they are. -/
def isSeparator (c : Char) : Bool := c.toNat = 0x85 || c.toNat = 0x2028 || c.toNat = 0x2029

/-- No JSON text holds a break. -/
def Served.Unseparated (served : Served F) : Prop :=
  ∀ frame ∈ served.frames, ∀ c ∈ frame.json, isSeparator c = false

/-- A line that changes nothing: it is neither blank nor a name or data line. -/
def isInert (line : Str) : Bool :=
  !(Text.strip line).isEmpty && !"event:".toList.isPrefixOf (Text.strip line) &&
    !"data:".toList.isPrefixOf (Text.strip line)

/-- No comment is cut into a piece that changes anything. -/
def Tame (comments : List Str) : Prop :=
  ∀ comment ∈ comments, ∀ piece ∈ Text.cut (commentLine comment), isInert piece = true

/-! ## Lines of a body -/

/-- The lines of a body are the pieces of the lines that were written. -/
theorem splitlines_of_written
    {lines : List Str}
    {body : Str}
    (written : Written lines body)
    (oneLine : ∀ line ∈ lines, Text.OneLine line) :
    Text.splitlines body = lines.flatMap Text.cut := by
  induction written with
  | nil => rfl
  | line text ending isEnding _ inductionHypothesis =>
      rw [Text.splitlines_append (oneLine text List.mem_cons_self) isEnding,
        inductionHypothesis fun line present => oneLine line (List.mem_cons_of_mem _ present)]
      rfl

/-- A text put together from texts on one line is on one line. -/
private theorem oneLine_append
    {front back : Str}
    (frontOneLine : Text.OneLine front)
    (backOneLine : Text.OneLine back) : Text.OneLine (front ++ back) := by
  intro c present
  rcases List.mem_append.mp present with inFront | inBack
  · exact frontOneLine c inFront
  · exact backOneLine c inBack

/-- A text without white space is on one line. -/
private theorem oneLine_of_no_space
    {s : Str}
    (noSpace : ∀ c ∈ s, Text.isSpace c = false) : Text.OneLine s := by
  intro c present
  have isGap : ∀ d, d = '\r' ∨ d = '\n' → Text.isSpace d = true := by
    rintro d (rfl | rfl) <;> decide
  constructor
  · intro same
    exact Bool.noConfusion ((noSpace c present).symm.trans (isGap c (Or.inl same)))
  · intro same
    exact Bool.noConfusion ((noSpace c present).symm.trans (isGap c (Or.inr same)))

/-- White space within a line of JSON is on one line. -/
private theorem oneLine_of_isPadding {s : Str} (padding : IsPadding s) : Text.OneLine s := by
  intro c present
  rcases padding c present with rfl | rfl <;> decide

/-- White space within a line of JSON holds no break. -/
private theorem unbroken_of_isPadding {s : Str} (padding : IsPadding s) : Text.Unbroken s := by
  intro c present
  rcases padding c present with rfl | rfl <;> decide

/-- A comment line is on one line when its comment is. -/
private theorem oneLine_commentLine
    {comment : Str}
    (oneLine : Text.OneLine comment) : Text.OneLine (commentLine comment) := by
  have mark : Text.OneLine [':'] := by decide
  exact oneLine_append mark oneLine

/-- The line of a name is on one line. -/
private theorem Frame.oneLine_nameLine
    (frame : Frame F)
    {given : Str}
    (isName : given ∈ frame.name) : Text.OneLine (frame.nameLine given) := by
  refine oneLine_append (by decide) (oneLine_append ?_ ?_)
  · split <;> decide
  · exact oneLine_of_no_space (frame.plainName given isName).2

/-- The line of the data is on one line. -/
private theorem Frame.oneLine_dataLine (frame : Frame F) : Text.OneLine frame.dataLine :=
  oneLine_append (by decide) (oneLine_append (oneLine_of_isPadding frame.leadPadding)
    (oneLine_append frame.oneLine (oneLine_of_isPadding frame.trailPadding)))

/-- What is among the lines of an event. -/
private theorem Frame.mem_lines
    {frame : Frame F}
    {line : Str}
    (present : line ∈ frame.lines) :
    (∃ comment ∈ frame.before ++ frame.between ++ frame.after, line = commentLine comment) ∨
      (∃ given ∈ frame.name, line = frame.nameLine given) ∨ line = frame.dataLine ∨
        line = [] := by
  have ofComments : ∀ comments : List Str,
      (∀ comment ∈ comments, comment ∈ frame.before ++ frame.between ++ frame.after) →
        line ∈ comments.map commentLine →
          ∃ comment ∈ frame.before ++ frame.between ++ frame.after,
            line = commentLine comment := by
    intro comments among inComments
    obtain ⟨comment, held, rfl⟩ := List.mem_map.mp inComments
    exact ⟨comment, among comment held, rfl⟩
  have early := ofComments frame.before fun comment held => by simp [held]
  have middle := ofComments frame.between fun comment held => by simp [held]
  have late := ofComments frame.after fun comment held => by simp [held]
  rcases List.mem_append.mp present with inBefore | inRest
  · exact Or.inl (early inBefore)
  · rcases List.mem_append.mp inRest with inFields | inEnd
    · unfold Frame.fieldLines at inFields
      split at inFields
      · rcases List.mem_append.mp inFields with inBetween | isData
        · exact Or.inl (middle inBetween)
        · exact Or.inr (Or.inr (Or.inl (List.mem_singleton.mp isData)))
      · rename_i given isName
        split at inFields
        · rcases List.mem_cons.mp inFields with isNameLine | inOthers
          · exact Or.inr (Or.inl ⟨given, isName, isNameLine⟩)
          · rcases List.mem_append.mp inOthers with inBetween | isData
            · exact Or.inl (middle inBetween)
            · exact Or.inr (Or.inr (Or.inl (List.mem_singleton.mp isData)))
        · rcases List.mem_cons.mp inFields with isData | inOthers
          · exact Or.inr (Or.inr (Or.inl isData))
          · rcases List.mem_append.mp inOthers with inBetween | isNameLine
            · exact Or.inl (middle inBetween)
            · exact Or.inr (Or.inl ⟨given, isName, List.mem_singleton.mp isNameLine⟩)
    · rcases List.mem_append.mp inEnd with inAfter | isBlank
      · exact Or.inl (late inAfter)
      · exact Or.inr (Or.inr (Or.inr (List.mem_singleton.mp isBlank)))

/-- The data line is among the lines of an event. -/
theorem Frame.dataLine_mem_lines (frame : Frame F) : frame.dataLine ∈ frame.lines := by
  unfold Frame.lines
  refine List.mem_append_right _ (List.mem_append_left _ ?_)
  unfold Frame.fieldLines
  split
  · exact List.mem_append_right _ List.mem_cons_self
  · split
    · exact List.mem_cons_of_mem _ (List.mem_append_right _ List.mem_cons_self)
    · exact List.mem_cons_self

/-- Every line of an event is on one line. -/
private theorem Frame.oneLine_lines
    {frame : Frame F}
    {line : Str}
    (present : line ∈ frame.lines) : Text.OneLine line := by
  rcases Frame.mem_lines present with ⟨comment, held, rfl⟩ | ⟨given, isName, rfl⟩ | rfl | rfl
  · exact oneLine_commentLine (frame.commentsOneLine comment held)
  · exact frame.oneLine_nameLine isName
  · exact frame.oneLine_dataLine
  · decide

/-- Every line of the end is on one line. -/
private theorem Closing.oneLine_lines
    {closing : Closing}
    {line : Str}
    (present : line ∈ closing.lines) : Text.OneLine line := by
  have ofComments : ∀ comments : List Str,
      (∀ comment ∈ comments, comment ∈ closing.before ++ closing.after) →
        line ∈ comments.map commentLine → Text.OneLine line := by
    intro comments among inComments
    obtain ⟨comment, held, rfl⟩ := List.mem_map.mp inComments
    exact oneLine_commentLine (closing.commentsOneLine comment (among comment held))
  rcases List.mem_append.mp present with inBefore | inRest
  · exact ofComments closing.before (fun comment held => by simp [held]) inBefore
  · rcases List.mem_cons.mp inRest with rfl | inEnd
    · refine oneLine_append (by decide) (oneLine_append ?_ (by decide))
      split <;> decide
    · rcases List.mem_append.mp inEnd with inAfter | isBlank
      · exact ofComments closing.after (fun comment held => by simp [held]) inAfter
      · split at isBlank
        · rw [List.mem_singleton.mp isBlank]
          decide
        · exact absurd isBlank List.not_mem_nil

/-- The lines of a body, piece by piece. -/
theorem Served.splitlines_body (served : Served F) :
    Text.splitlines served.body =
      served.frames.flatMap (fun frame => frame.lines.flatMap Text.cut) ++
        served.closing.lines.flatMap Text.cut := by
  rw [splitlines_of_written served.written, List.flatMap_append, List.flatMap_assoc]
  · intro line present
    rcases List.mem_append.mp present with inFrames | inClosing
    · obtain ⟨frame, -, held⟩ := List.mem_flatMap.mp inFrames
      exact Frame.oneLine_lines held
    · exact Closing.oneLine_lines inClosing

/-! ## What one line does -/

/-- An inert line changes nothing. -/
theorem takeLine_of_isInert
    {line : Str}
    (inert : isInert line = true)
    (state : SseState) : takeLine (F := F) state line = .ok ([], state) := by
  unfold isInert at inert
  simp only [Bool.and_eq_true, Bool.not_eq_true'] at inert
  obtain ⟨⟨notBlank, notName⟩, notData⟩ := inert
  have held : Text.strip line ≠ [] := fun blank => by simp [blank] at notBlank
  unfold takeLine
  dsimp only
  rw [if_neg held, notName, notData]
  split <;> rfl

/-- A name line gives its name. -/
theorem Frame.takeLine_nameLine
    (frame : Frame F)
    {given : Str}
    (isName : given ∈ frame.name)
    (state : SseState) :
    takeLine (F := F) state (frame.nameLine given) =
      .ok ([], { state with eventName := some given }) := by
  obtain ⟨held, noSpace⟩ := frame.plainName given isName
  have trimmed : Text.IsTrimmed given := by
    constructor
    · exact fun c isHead => noSpace c (List.mem_of_head? isHead)
    · exact fun c isLast => noSpace c (List.mem_of_getLast? isLast)
  have stripped : Text.strip given = given := (Text.strip_eq_self_iff given).mpr trimmed
  let gap : Str := if frame.nameSpace then [' '] else []
  have back : (gap ++ given).rdropWhile Text.isSpace = gap ++ given := by
    rw [List.rdropWhile_eq_self_iff]
    intro nonempty
    rw [List.getLast_append_of_ne_nil _ held,
      noSpace _ (List.getLast_mem held)]
    exact Bool.false_ne_true
  have line : Text.strip (frame.nameLine given) = "event:".toList ++ (gap ++ given) := by
    show Text.strip ("event:".toList ++ (gap ++ given)) = _
    rw [Text.strip_append ((Text.strip_eq_self_iff "event:".toList).mp rfl)
      (by decide), back]
  have name : Text.strip (gap ++ given) = given := by
    show Text.strip ((if frame.nameSpace then [' '] else []) ++ given) = _
    split
    · exact stripped
    · exact stripped
  unfold takeLine
  dsimp only
  rw [line, if_neg (by simp), if_neg (by simp), if_pos (by simp)]
  have dropped : ("event:".toList ++ (gap ++ given)).drop 6 = gap ++ given := rfl
  rw [dropped, name, if_neg held]

/-- A data line adds its data, without the white space around it. -/
theorem takeLine_data (s : Str) (state : SseState) :
    takeLine (F := F) state ("data:".toList ++ s) =
      .ok ([], { state with dataLines := state.dataLines ++
        [(s.rdropWhile Text.isSpace).dropWhile Text.isSpace] }) := by
  have line : Text.strip ("data:".toList ++ s) = "data:".toList ++ s.rdropWhile Text.isSpace :=
    Text.strip_append ((Text.strip_eq_self_iff _).mp rfl) (by decide) s
  unfold takeLine
  dsimp only
  rw [line, if_neg (by simp), if_neg (by simp), if_neg (by simp), if_pos (by simp)]
  rfl

/-- White space after a text is removed. -/
private theorem rdropWhile_append_space
    {s back : Str}
    (gap : ∀ c ∈ back, Text.isSpace c = true) :
    (s ++ back).rdropWhile Text.isSpace = s.rdropWhile Text.isSpace := by
  induction back using List.reverseRecOn with
  | nil => rw [List.append_nil]
  | append_singleton back c inductionHypothesis =>
      rw [← List.append_assoc, List.rdropWhile_concat_pos _ _ _ (gap c (by simp))]
      exact inductionHypothesis fun d present => gap d (List.mem_append_left _ present)

/-- The padding of a line is white space. -/
private theorem isSpace_of_isPadding
    {s : Str}
    (padding : IsPadding s) : ∀ c ∈ s, Text.isSpace c = true := by
  intro c present
  rcases padding c present with rfl | rfl <;> decide

/-- A JSON text is not empty. -/
theorem Frame.json_ne_nil (frame : Frame F) : frame.json ≠ [] := by
  intro empty
  have reads := frame.reads
  rw [empty] at reads
  cases reads

/-- The data line of an event adds its JSON text. -/
theorem Frame.takeLine_dataLine (frame : Frame F) (state : SseState) :
    takeLine (F := F) state frame.dataLine =
      .ok ([], { state with dataLines := state.dataLines ++ [frame.json] }) := by
  have data : (((frame.lead ++ (frame.json ++ frame.trail)).rdropWhile Text.isSpace).dropWhile
      Text.isSpace) = frame.json := by
    obtain ⟨noFront, noBack⟩ := frame.trimmed
    have ends : (frame.lead ++ frame.json).rdropWhile Text.isSpace = frame.lead ++ frame.json := by
      rw [List.rdropWhile_eq_self_iff]
      intro nonempty
      rw [List.getLast_append_of_ne_nil _ frame.json_ne_nil,
        noBack _ (List.getLast?_eq_some_getLast frame.json_ne_nil)]
      exact Bool.false_ne_true
    rw [← List.append_assoc, rdropWhile_append_space (isSpace_of_isPadding frame.trailPadding),
      ends, List.dropWhile_append_of_pos (isSpace_of_isPadding frame.leadPadding)]
    cases held : frame.json with
    | nil => exact absurd held frame.json_ne_nil
    | cons c rest =>
        exact List.dropWhile_cons_of_neg (by simp [noFront c (by rw [held]; rfl)])
  show takeLine (F := F) state ("data:".toList ++ _) = _
  rw [takeLine_data, data]

/-- The JSON text of an event stands for it. -/
theorem Frame.parseSseEvent_json (frame : Frame F) (eventName : Option Str) :
    parseSseEvent eventName [frame.json] = .ok (some (eventName, frame.payload)) := by
  have stripped : Text.strip frame.json = frame.json :=
    (Text.strip_eq_self_iff _).mpr frame.trimmed
  have notMark : frame.json ≠ "[DONE]".toList := by
    intro same
    have reads := frame.reads
    rw [same] at reads
    cases reads
  unfold parseSseEvent
  rw [if_neg (List.cons_ne_nil _ _), Text.join_singleton, stripped]
  dsimp only
  rw [if_neg (not_or.mpr ⟨frame.json_ne_nil, notMark⟩), frame.reads]

/-! ## What a body does -/

/-- A line that completes nothing only changes the event being collected. -/
theorem iterSseEvents_cons
    {state next : SseState}
    {line : Str}
    (taken : takeLine (F := F) state line = .ok ([], next))
    (rest : List Str) :
    iterSseEvents (F := F) state (line :: rest) = iterSseEvents next rest := by
  rw [iterSseEvents, taken]
  rfl

/-- Inert lines change nothing. -/
theorem iterSseEvents_inert
    {lines : List Str}
    (inert : ∀ line ∈ lines, isInert line = true)
    (state : SseState)
    (rest : List Str) :
    iterSseEvents (F := F) state (lines ++ rest) = iterSseEvents state rest := by
  induction lines with
  | nil => rfl
  | cons line lines inductionHypothesis =>
      rw [List.cons_append,
        iterSseEvents_cons (takeLine_of_isInert (inert line List.mem_cons_self) state),
        inductionHypothesis fun other present => inert other (List.mem_cons_of_mem _ present)]

/-- Tame comments change nothing. -/
theorem iterSseEvents_comments
    {comments : List Str}
    (tame : Tame comments)
    (state : SseState)
    (rest : List Str) :
    iterSseEvents (F := F) state ((comments.map commentLine).flatMap Text.cut ++ rest) =
      iterSseEvents state rest := by
  refine iterSseEvents_inert (fun piece present => ?_) state rest
  obtain ⟨line, isLine, held⟩ := List.mem_flatMap.mp present
  obtain ⟨comment, isComment, rfl⟩ := List.mem_map.mp isLine
  exact tame comment isComment piece held

/-- A text without white space holds no break, nor do texts put together from such. -/
private theorem unbroken_append
    {front back : Str}
    (frontUnbroken : Text.Unbroken front)
    (backUnbroken : Text.Unbroken back) : Text.Unbroken (front ++ back) := by
  intro c present
  rcases List.mem_append.mp present with inFront | inBack
  · exact frontUnbroken c inFront
  · exact backUnbroken c inBack

/-- The line of a name is its only piece. -/
theorem Frame.cut_nameLine
    (frame : Frame F)
    {given : Str}
    (isName : given ∈ frame.name) : Text.cut (frame.nameLine given) = [frame.nameLine given] := by
  refine Text.cut_of_unbroken (unbroken_append (by decide) (unbroken_append ?_ ?_))
  · split <;> decide
  · exact Text.Unbroken.of_no_space (frame.plainName given isName).2

/-- The data line of an event whose JSON text holds no break is its only piece. -/
theorem Frame.cut_dataLine
    {frame : Frame F}
    (unbroken : Text.Unbroken frame.json) : Text.cut frame.dataLine = [frame.dataLine] :=
  Text.cut_of_unbroken (unbroken_append (by decide)
    (unbroken_append (unbroken_of_isPadding frame.leadPadding)
      (unbroken_append unbroken (unbroken_of_isPadding frame.trailPadding))))

/-- A blank line completes the event that was collected. -/
theorem Frame.iterSseEvents_blank (frame : Frame F) (rest : List Str) :
    iterSseEvents (F := F) ⟨frame.name, [frame.json]⟩ ([] :: rest) =
      (frame.event :: (iterSseEvents (F := F) {} rest).1,
        (iterSseEvents (F := F) {} rest).2) := by
  have taken : takeLine (F := F) ⟨frame.name, [frame.json]⟩ [] =
      .ok ([frame.event], {}) := by
    unfold takeLine
    dsimp only
    rw [if_pos (by decide), frame.parseSseEvent_json]
    rfl
  rw [iterSseEvents, taken]
  rfl

/-- The lines of an event complete it. -/
theorem Frame.iterSseEvents_lines
    {frame : Frame F}
    (tame : Tame (frame.before ++ frame.between ++ frame.after))
    (unbroken : Text.Unbroken frame.json)
    (rest : List Str) :
    iterSseEvents (F := F) {} (frame.lines.flatMap Text.cut ++ rest) =
      (frame.event :: (iterSseEvents (F := F) {} rest).1,
        (iterSseEvents (F := F) {} rest).2) := by
  have early : Tame frame.before := fun comment held => tame comment (by simp [held])
  have middle : Tame frame.between := fun comment held => tame comment (by simp [held])
  have late : Tame frame.after := fun comment held => tame comment (by simp [held])
  have data : Text.cut frame.dataLine = [frame.dataLine] := Frame.cut_dataLine unbroken
  have fields : ∀ others, iterSseEvents (F := F) {}
      (frame.fieldLines.flatMap Text.cut ++ others) =
        iterSseEvents ⟨frame.name, [frame.json]⟩ others := by
    intro others
    unfold Frame.fieldLines
    split
    · rename_i noName
      rw [List.flatMap_append, List.flatMap_singleton, data, List.append_assoc,
        iterSseEvents_comments middle, List.singleton_append,
        iterSseEvents_cons (frame.takeLine_dataLine ..), noName]
      rfl
    · rename_i given isName
      have name : Text.cut (frame.nameLine given) = [frame.nameLine given] :=
        frame.cut_nameLine isName
      split
      · rw [List.flatMap_cons, List.flatMap_append, List.flatMap_singleton, data, name,
          List.append_assoc, List.append_assoc, List.singleton_append,
          iterSseEvents_cons (frame.takeLine_nameLine isName _), iterSseEvents_comments middle,
          List.singleton_append, iterSseEvents_cons (frame.takeLine_dataLine ..), isName]
        rfl
      · rw [List.flatMap_cons, List.flatMap_append, List.flatMap_singleton, data, name,
          List.append_assoc, List.append_assoc, List.singleton_append,
          iterSseEvents_cons (frame.takeLine_dataLine ..), iterSseEvents_comments middle,
          List.singleton_append, iterSseEvents_cons (frame.takeLine_nameLine isName _), isName]
        rfl
  unfold Frame.lines
  rw [List.flatMap_append, List.flatMap_append, List.flatMap_append, List.append_assoc,
    List.append_assoc, List.append_assoc, iterSseEvents_comments early, fields,
    iterSseEvents_comments late]
  exact frame.iterSseEvents_blank rest

/-- The end of a stream yields nothing. -/
theorem Closing.iterSseEvents_lines
    {closing : Closing}
    (tame : Tame (closing.before ++ closing.after)) :
    iterSseEvents (F := F) {} (closing.lines.flatMap Text.cut) = ([], none) := by
  have early : Tame closing.before := fun comment held => tame comment (by simp [held])
  have late : Tame closing.after := fun comment held => tame comment (by simp [held])
  have mark : Text.cut closing.markLine = [closing.markLine] := by
    unfold Closing.markLine
    cases closing.markSpace <;> decide
  have taken : takeLine (F := F) {} closing.markLine =
      .ok ([], { dataLines := ["[DONE]".toList] }) := by
    unfold Closing.markLine
    rw [takeLine_data]
    cases closing.markSpace <;> rfl
  unfold Closing.lines
  rw [List.flatMap_append, List.flatMap_cons, List.flatMap_append, mark,
    iterSseEvents_comments early, List.singleton_append, iterSseEvents_cons taken,
    iterSseEvents_comments late]
  cases closing.closed <;> rfl

/-- A separator is a break. -/
theorem isLineBreak_of_isSeparator
    {c : Char}
    (isSeparated : isSeparator c = true) : Text.isLineBreak c = true := by
  unfold isSeparator at isSeparated
  unfold Text.isLineBreak
  simp only [Bool.or_eq_true, Bool.and_eq_true, decide_eq_true_eq, beq_iff_eq] at isSeparated ⊢
  omega

/-- A break on one line is no white space between tokens. -/
private theorem not_isBlank_of_isLineBreak
    {c : Char}
    (isBreak : Text.isLineBreak c = true)
    (oneLine : c ≠ '\r' ∧ c ≠ '\n') : Json.isBlank c = false := by
  have apart : ∀ d, d = ' ' ∨ d = '\t' → Text.isLineBreak d = false := by
    rintro d (rfl | rfl) <;> decide
  have notSpace : c ≠ ' ' := fun same =>
    Bool.noConfusion (isBreak.symm.trans (apart c (Or.inl same)))
  have notTab : c ≠ '\t' := fun same =>
    Bool.noConfusion (isBreak.symm.trans (apart c (Or.inr same)))
  simp [Json.isBlank, notSpace, notTab, oneLine.1, oneLine.2]

/-- A JSON text without separators holds no break at all. -/
theorem Frame.unbroken_of_unseparated
    {frame : Frame F}
    (unseparated : ∀ c ∈ frame.json, isSeparator c = false) : Text.Unbroken frame.json := by
  intro c present
  by_contra held
  have isBreak : Text.isLineBreak c = true := by simpa using held
  obtain ⟨start, rest, same⟩ := List.append_of_mem present
  have scanned := Json.lex_of_loads frame.reads
  rw [same] at scanned
  obtain ⟨-, visible⟩ := Json.open_before_break isBreak
    (not_isBlank_of_isLineBreak isBreak (frame.oneLine c present)) scanned
  have isSeparated : isSeparator c = true := by
    unfold Text.isLineBreak at isBreak
    unfold isSeparator
    simp only [Bool.or_eq_true, Bool.and_eq_true, decide_eq_true_eq, beq_iff_eq] at isBreak ⊢
    omega
  rw [unseparated c present] at isSeparated
  cases isSeparated

/-- Without separators and with tame comments the decoder yields the events. -/
theorem Served.decodes_of_unseparated
    {served : Served F}
    (tame : Tame served.comments)
    (unseparated : served.Unseparated) : served.Decodes := by
  have run : ∀ frames : List (Frame F), (∀ frame ∈ frames, frame ∈ served.frames) →
      iterSseEvents (F := F) {} (frames.flatMap (fun frame => frame.lines.flatMap Text.cut) ++
        served.closing.lines.flatMap Text.cut) = (frames.map Frame.event, none) := by
    intro frames among
    induction frames with
    | nil =>
        exact Closing.iterSseEvents_lines fun comment held =>
          tame comment (List.mem_append_right _ held)
    | cons frame frames inductionHypothesis =>
        have isFrame := among frame List.mem_cons_self
        have tail := inductionHypothesis fun other held =>
          among other (List.mem_cons_of_mem _ held)
        have own : Tame (frame.before ++ frame.between ++ frame.after) := fun comment held =>
          tame comment (List.mem_append_left _ (List.mem_flatMap.mpr ⟨frame, isFrame, held⟩))
        rw [List.flatMap_cons, List.append_assoc, Frame.iterSseEvents_lines own
          (Frame.unbroken_of_unseparated (unseparated frame isFrame)), tail]
        rfl
  unfold Served.Decodes
  rw [served.splitlines_body]
  exact run served.frames fun frame held => held

/-! ## What a separator does -/

/-- A string is open at the end of a text. -/
def LeavesOpen (s : Str) : Prop := Json.lex .outside s = some .inside

/-- Data lines that complete an event, or none, leave no string open. -/
theorem not_leavesOpen_of_parseSseEvent
    {eventName : Option Str}
    {dataLines : List Str}
    {event : Option (StreamEvent F)}
    (unbroken : ∀ line ∈ dataLines, Text.Unbroken line)
    (parsed : parseSseEvent eventName dataLines = .ok event) :
    ∀ line ∈ dataLines, ¬LeavesOpen line := by
  have fits : ∀ c ∈ Text.join ['\n'] dataLines,
      Text.isLineBreak c = false ∨ Json.isBlank c = true := by
    intro c present
    rcases Text.mem_of_mem_join present with isEnd | ⟨line, held, inside⟩
    · rw [List.mem_singleton.mp isEnd]
      exact Or.inr (by decide)
    · exact Or.inl (unbroken line held c inside)
  unfold parseSseEvent at parsed
  split at parsed
  · rename_i none
    rw [none]
    exact fun _ present => absurd present List.not_mem_nil
  · dsimp only at parsed
    have scanned : Json.lex .outside (Text.strip (Text.join ['\n'] dataLines)) =
        some .outside := by
      split at parsed
      · rename_i skipped
        rcases skipped with blank | mark
        · rw [blank]
          rfl
        · rw [mark]
          rfl
      · split at parsed
        · exact Json.lex_of_loads ‹_›
        · cases parsed
    exact Json.not_open_of_lex_join (Json.lex_of_lex_strip fits scanned)

/-- Every data line of a state is on one line. -/
def SseState.Unbroken (state : SseState) : Prop := ∀ line ∈ state.dataLines, Text.Unbroken line

/-- A part of a text without breaks holds none. -/
private theorem unbroken_of_subset
    {s part : Str}
    (unbroken : Text.Unbroken s)
    (among : part ⊆ s) : Text.Unbroken part := fun c present => unbroken c (among present)

/-- Taking in a line keeps the data lines, unless it is blank and completes an event, and
it adds no break. -/
theorem takeLine_keeps
    {state next : SseState}
    {line : Str}
    {events : List (StreamEvent F)}
    (unbroken : state.Unbroken)
    (lineUnbroken : Text.Unbroken line)
    (taken : takeLine state line = .ok (events, next)) :
    next.Unbroken ∧ (state.dataLines ⊆ next.dataLines ∨
      ∀ held ∈ state.dataLines, ¬LeavesOpen held) := by
  have stripped : Text.Unbroken (Text.strip line) :=
    unbroken_of_subset lineUnbroken (Text.strip_infix line).subset
  unfold takeLine at taken
  dsimp only at taken
  split at taken
  · cases parsed : parseSseEvent (F := F) state.eventName state.dataLines with
    | error error =>
        rw [parsed] at taken
        cases taken
    | ok event =>
        rw [parsed] at taken
        cases taken
        exact ⟨fun _ present => absurd present List.not_mem_nil,
          Or.inr (not_leavesOpen_of_parseSseEvent unbroken parsed)⟩
  · split at taken
    · cases taken
      exact ⟨unbroken, Or.inl fun _ present => present⟩
    · split at taken
      · cases taken
        exact ⟨unbroken, Or.inl fun _ present => present⟩
      · split at taken
        · cases taken
          refine ⟨fun held present => ?_, Or.inl (List.subset_append_left _ _)⟩
          rcases List.mem_append.mp present with early | added
          · exact unbroken held early
          · rw [List.mem_singleton.mp added]
            exact unbroken_of_subset stripped fun c inside =>
              (List.drop_suffix _ _).subset ((List.dropWhile_suffix _).subset inside)
        · cases taken
          exact ⟨unbroken, Or.inl fun _ present => present⟩

/-- A data line that leaves a string open is a failure in the end. -/
theorem iterSseEvents_fails_of_leavesOpen
    {state : SseState}
    {opening : Str}
    (unbroken : state.Unbroken)
    (held : opening ∈ state.dataLines)
    (leavesOpen : LeavesOpen opening)
    {lines : List Str}
    (linesUnbroken : ∀ line ∈ lines, Text.Unbroken line) :
    (iterSseEvents (F := F) state lines).2 ≠ none := by
  induction lines generalizing state with
  | nil =>
      rw [iterSseEvents]
      cases parsed : parseSseEvent (F := F) state.eventName state.dataLines with
      | error error => exact nofun
      | ok event =>
          exact absurd leavesOpen (not_leavesOpen_of_parseSseEvent unbroken parsed opening held)
  | cons line lines inductionHypothesis =>
      rw [iterSseEvents]
      cases taken : takeLine (F := F) state line with
      | error error => exact nofun
      | ok result =>
          obtain ⟨events, next⟩ := result
          obtain ⟨nextUnbroken, kept⟩ :=
            takeLine_keeps unbroken (linesUnbroken line List.mem_cons_self) taken
          rcases kept with kept | closed
          · exact inductionHypothesis nextUnbroken (kept held)
              fun other present => linesUnbroken other (List.mem_cons_of_mem _ present)
          · exact absurd leavesOpen (closed opening held)

/-- A line among others that adds data which leaves a string open is a failure in the end. -/
theorem iterSseEvents_fails
    {before after : List Str}
    {s : Str}
    (leavesOpen : LeavesOpen s)
    (unbroken : ∀ line ∈ before ++ ("data:".toList ++ s) :: after, Text.Unbroken line)
    {state : SseState}
    (stateUnbroken : state.Unbroken) :
    (iterSseEvents (F := F) state (before ++ ("data:".toList ++ s) :: after)).2 ≠ none := by
  induction before generalizing state with
  | nil =>
      have adds := takeLine_data (F := F) s state
      have kept := (takeLine_keeps stateUnbroken (unbroken _ List.mem_cons_self) adds).1
      rw [List.nil_append, iterSseEvents_cons adds]
      refine iterSseEvents_fails_of_leavesOpen kept
        (List.mem_append_right _ List.mem_cons_self)
        (Json.lex_dropWhile_isSpace (Json.lex_rdropWhile_isSpace leavesOpen)) ?_
      exact fun other present => unbroken other (List.mem_cons_of_mem _ present)
  | cons line before inductionHypothesis =>
      rw [List.cons_append, iterSseEvents]
      cases taken : takeLine (F := F) state line with
      | error error => exact nofun
      | ok result =>
          obtain ⟨events, next⟩ := result
          exact inductionHypothesis
            (fun other present => unbroken other (List.mem_cons_of_mem _ present))
            (takeLine_keeps stateUnbroken (unbroken line List.mem_cons_self) taken).1

/-- The data line of an event whose JSON text holds a separator is cut within a string. -/
theorem Frame.cut_dataLine_of_separator
    {frame : Frame F}
    {c : Char}
    (present : c ∈ frame.json)
    (isSeparated : isSeparator c = true) :
    ∃ s pieces, LeavesOpen s ∧ Text.cut frame.dataLine = ("data:".toList ++ s) :: pieces := by
  have broken : ¬Text.Unbroken frame.json := by
    intro unbroken
    have isBreak := isLineBreak_of_isSeparator isSeparated
    rw [unbroken c present] at isBreak
    cases isBreak
  obtain ⟨start, d, rest, same, unbroken, isBreak⟩ := Text.exists_first_break broken
  have isOneLine := frame.oneLine d (by rw [same]; exact List.mem_append_right _ List.mem_cons_self)
  have scanned := Json.lex_of_loads frame.reads
  rw [same] at scanned
  obtain ⟨isOpen, -⟩ := Json.open_before_break isBreak
    (not_isBlank_of_isLineBreak isBreak isOneLine) scanned
  have padding : ∀ e ∈ frame.lead, Json.lexChar .outside e = some .outside := by
    intro e inLead
    rcases frame.leadPadding e inLead with rfl | rfl <;> decide
  refine ⟨frame.lead ++ start, Text.cutFrom [] (rest ++ frame.trail), ?_, ?_⟩
  · unfold LeavesOpen
    rw [Json.lex_append_of_kept padding]
    exact isOpen
  · have front : Text.Unbroken ("data:".toList ++ (frame.lead ++ start)) :=
      unbroken_append (by decide)
        (unbroken_append (unbroken_of_isPadding frame.leadPadding) unbroken)
    have line : frame.dataLine = ("data:".toList ++ (frame.lead ++ start)) ++
        d :: (rest ++ frame.trail) := by
      unfold Frame.dataLine
      rw [same]
      simp only [List.append_assoc, List.cons_append]
    rw [Text.cut, line, Text.cutFrom_append_unbroken front, List.nil_append,
      Text.cutFrom_cons_of_break isBreak]

/-- An event is decoded only when no JSON text holds a separator. -/
theorem Served.unseparated_of_decodes
    {served : Served F}
    (decodes : served.Decodes) : served.Unseparated := by
  intro frame isFrame c present
  by_contra separated
  have isSeparated : isSeparator c = true := by simpa using separated
  obtain ⟨s, pieces, leavesOpen, cutLine⟩ := Frame.cut_dataLine_of_separator present isSeparated
  have isLine : ("data:".toList ++ s) ∈ Text.splitlines served.body := by
    rw [served.splitlines_body]
    refine List.mem_append_left _ (List.mem_flatMap.mpr ⟨frame, isFrame, ?_⟩)
    refine List.mem_flatMap.mpr ⟨frame.dataLine, ?_, ?_⟩
    · exact frame.dataLine_mem_lines
    · rw [cutLine]
      exact List.mem_cons_self
  obtain ⟨before, after, same⟩ := List.append_of_mem isLine
  have unbroken : ∀ line ∈ Text.splitlines served.body, Text.Unbroken line :=
    fun line held => Text.unbroken_of_mem_splitlines held
  unfold Served.Decodes at decodes
  rw [same] at decodes unbroken
  refine iterSseEvents_fails leavesOpen unbroken ?_ (congrArg Prod.snd decodes)
  exact fun _ held => absurd held List.not_mem_nil

/-! ## Deltas -/

/-- The text deltas of some events, up to the first that reports a failure. -/
def textDeltas (events : List (StreamEvent F)) : List Str :=
  ((events.takeWhile fun event => (extractStreamError event.2).isNone).map
    extractStreamDelta).filter (· ≠ [])

/-- Reading events collects their text deltas. -/
theorem contentParts_readEvents (progress : StreamProgress F) (events : List (StreamEvent F)) :
    (readEvents progress events).1.contentParts =
      progress.contentParts ++ textDeltas events := by
  induction events generalizing progress with
  | nil => exact (List.append_nil _).symm
  | cons event events inductionHypothesis =>
      rw [readEvents]
      cases reported : extractStreamError event.2 with
      | some error =>
          have none : textDeltas (event :: events) = [] := by
            unfold textDeltas
            rw [List.takeWhile_cons_of_neg (by simp [reported])]
            rfl
          rw [none, List.append_nil]
      | none =>
          have more : textDeltas (event :: events) =
              (if extractStreamDelta event = [] then [] else [extractStreamDelta event]) ++
                textDeltas events := by
            unfold textDeltas
            rw [List.takeWhile_cons_of_pos (by simp [reported]), List.map_cons]
            by_cases empty : extractStreamDelta event = []
            · rw [if_pos empty, List.filter_cons_of_neg (by simp [empty])]
              rfl
            · rw [if_neg empty, List.filter_cons_of_pos (by simp [empty])]
              rfl
          dsimp only
          rw [inductionHypothesis, more, ← List.append_assoc]
          congr 1
          unfold observe
          dsimp only
          split
          · rw [List.append_nil]
          · rfl

/-- A call on a body that is decoded to some events delivers their text deltas. -/
theorem Served.chunks_of_decodes
    {served : Served F}
    (decodes : served.Decodes)
    (model : Str)
    (latencyMs : Int) :
    (consumeStream (streamCall (F := F) served.body model latencyMs)).chunks =
      textDeltas (served.frames.map Frame.event) := by
  unfold Served.Decodes at decodes
  show (readEvents {} (iterSseEvents (F := F) {} (Text.splitlines served.body)).1).1.contentParts
    = _
  rw [decodes, contentParts_readEvents]
  rfl

/-- What a server writes is decoded to exactly its events if and only if no JSON text holds
a separator, as long as no comment is cut into a piece that changes anything; with any
comments it is decoded so only if no JSON text holds a separator. What is decoded so
delivers every text delta. -/
theorem Served.decodes_iff_unseparated (served : Served F) :
    (Tame served.comments → (served.Decodes ↔ served.Unseparated)) ∧
      (served.Decodes → served.Unseparated) ∧
      (served.Decodes → ∀ model latencyMs,
        (consumeStream (streamCall (F := F) served.body model latencyMs)).chunks =
          textDeltas (served.frames.map Frame.event)) := by
  refine ⟨fun tame => ⟨Served.unseparated_of_decodes, Served.decodes_of_unseparated tame⟩,
    Served.unseparated_of_decodes, ?_⟩
  exact fun decodes model latencyMs => Served.chunks_of_decodes decodes model latencyMs

/-! ## A delta -/

/-- The payload of a delta. -/
def deltaPayload (text : Str) : Dict Empty :=
  [("delta".toList, .str text), ("type".toList, .str "response.output_text.delta".toList)]

/-- The JSON text of the payload of a delta. -/
def deltaJson (text : Str) : Str := Json.dumps ⟨true, false⟩ (.dict (deltaPayload text))

/-- The payload of a delta is read back. -/
theorem loads_deltaJson (text : Str) :
    Json.loads ⟨true, true⟩ (deltaJson text) = some (.dict (deltaPayload text)) := by
  have isReadable : Json.readable (F := Empty) (.dict (deltaPayload text)) = true := rfl
  have arranged : Json.arrange (F := Empty) (.dict (deltaPayload text)) =
      .dict (deltaPayload text) := rfl
  rw [deltaJson, Json.loads_canonical ⟨true, true⟩ false isReadable, arranged]

/-- The JSON text of a delta begins and ends with a brace. -/
theorem isTrimmed_deltaJson (text : Str) : Text.IsTrimmed (deltaJson text) := by
  have braces : ∃ inner, deltaJson text = '\x7b' :: inner ++ ['\x7d'] := ⟨_, rfl⟩
  obtain ⟨inner, same⟩ := braces
  rw [same]
  constructor
  · rintro c ⟨⟩
    decide
  · intro c isLast
    rw [List.getLast?_concat] at isLast
    cases isLast
    decide

/-- An event that is a delta, without a name and without comments. -/
def deltaFrame (text : Str) (oneLine : Text.OneLine (deltaJson text)) : Frame Empty where
  name := none
  payload := deltaPayload text
  json := deltaJson text
  lead := [' ']
  trail := []
  nameFirst := false
  nameSpace := false
  before := []
  between := []
  after := []
  plainName := nofun
  reads := loads_deltaJson text
  trimmed := isTrimmed_deltaJson text
  oneLine
  leadPadding := fun _ present => Or.inl (List.mem_singleton.mp present)
  trailPadding := fun _ present => absurd present List.not_mem_nil
  commentsOneLine := fun _ held => absurd held List.not_mem_nil

/-- The end of a stream, without comments. -/
def plainClosing : Closing where
  before := []
  after := []
  markSpace := true
  closed := true
  commentsOneLine := fun _ held => absurd held List.not_mem_nil

/-- A body that holds one delta. -/
def servedDelta (text : Str) (oneLine : Text.OneLine (deltaJson text)) : Served Empty where
  frames := [deltaFrame text oneLine]
  closing := plainClosing
  body :=
    (deltaFrame text oneLine).dataLine ++ (['\n'] ++ ([] ++ (['\n'] ++
      (plainClosing.markLine ++ (['\n'] ++ ([] ++ (['\n'] ++ [])))))))
  written :=
    .line _ _ (Or.inl rfl) (.line _ _ (Or.inl rfl)
      (.line _ _ (Or.inl rfl) (.line _ _ (Or.inl rfl) .nil)))

/-- The body of a plain delta is decoded to that delta. -/
theorem Served.decodes_iff_unseparated_plain :
    (servedDelta "Hi".toList (by decide)).Decodes :=
  ((Served.decodes_iff_unseparated _).1 (fun comment held => absurd held List.not_mem_nil)).mpr
    (by
      intro frame isFrame
      rw [List.mem_singleton.mp isFrame]
      decide)

/-- The body of a delta whose text holds a line separator is not decoded to that delta. -/
theorem separatedDelta_not_decodes :
    ¬(servedDelta "a\u2028b".toList (by decide)).Decodes := by
  intro decodes
  have unseparated := Served.unseparated_of_decodes decodes _ List.mem_cons_self
    (Char.ofNat 0x2028) (by decide)
  exact absurd unseparated (by decide)

end OpenAi
end ChatPlatform
