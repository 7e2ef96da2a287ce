import ChatPlatform.Foundation.EventStream

/-!
# Frames of a streamed answer

A frame is an event name and a payload. The payload is written as one data line for
each of its lines, where a line ends at LF only, while a receiver also ends lines at
CR. So a frame is received as it was sent exactly when its payload has no CR.
-/

namespace ChatPlatform

/-- The names of the frames. -/
inductive FrameName
  | token
  | done
  | error
  deriving DecidableEq, Repr

/-- The text of a name. -/
def FrameName.text : FrameName → Str
  | .token => "token".toList
  | .done => "done".toList
  | .error => "error".toList

/-- One frame. -/
structure Frame where
  /-- The event name. -/
  event : FrameName
  /-- The payload. -/
  data : Str
  deriving DecidableEq, Repr

/-- The text of a frame. -/
def sse (event data : Str) : Str :=
  let dataLines := Text.join ['\n']
    ((Text.splitAt '\n' data).map fun line => "data: ".toList ++ line)
  "event: ".toList ++ event ++ ['\n'] ++ dataLines ++ ['\n', '\n']

/-- The text of a sequence of frames. -/
def frameText (frames : List Frame) : Str :=
  frames.flatMap fun frame => sse frame.event.text frame.data

/-- The event a receiver is to dispatch for a frame. -/
def Frame.toEvent (frame : Frame) : EventStream.Event :=
  ⟨frame.event.text, frame.data⟩

/-- The lines of a frame before the blank one. -/
def frameLines (frame : Frame) : List Str :=
  ("event: ".toList ++ frame.event.text) ::
    (Text.splitAt '\n' frame.data).map fun line => "data: ".toList ++ line

/-- The text of a frame is its lines, each ended by LF, and a blank line. -/
private theorem sse_eq_lines (frame : Frame) :
    sse frame.event.text frame.data =
      (frameLines frame ++ [[]]).flatMap (· ++ ['\n']) := by
  have someLines : (Text.splitAt '\n' frame.data).map
      (fun line => "data: ".toList ++ line) ≠ [] := by
    simpa using Text.splitAt_ne_nil '\n' frame.data
  unfold sse frameLines
  rw [List.flatMap_append, List.flatMap_cons,
    ← Text.join_append_separator _ someLines]
  simp

/-- The lines of a frame hold no line end when the payload has no CR. -/
private theorem plain_frameLines
    {frame : Frame}
    (noReturn : '\r' ∉ frame.data) :
    ∀ line ∈ frameLines frame ++ [[]], '\r' ∉ line ∧ '\n' ∉ line := by
  intro line present
  simp only [frameLines, List.cons_append, List.mem_cons, List.mem_append,
    List.mem_map, List.not_mem_nil, or_false] at present
  rcases present with rfl | ⟨piece, held, rfl⟩ | rfl
  · cases frame.event <;> decide
  · constructor
    · intro inside
      rcases List.mem_append.mp inside with inName | inPiece
      · exact absurd inName (by decide)
      · exact noReturn (Text.mem_of_mem_splitAt held inPiece)
    · intro inside
      rcases List.mem_append.mp inside with inName | inPiece
      · exact absurd inName (by decide)
      · exact Text.separator_not_mem_splitAt held inPiece
  · simp

/-- Reading data lines collects their values. -/
private theorem eventsFrom_dataLines
    (pending : EventStream.Pending)
    (values rest : List Str) :
    EventStream.eventsFrom pending
        (values.map (fun line => "data: ".toList ++ line) ++ rest) =
      EventStream.eventsFrom { pending with data := pending.data ++ values }
        rest := by
  induction values generalizing pending with
  | nil => simp
  | cons value others inductionHypothesis =>
      have step : ∀ lines, EventStream.eventsFrom pending
          (("data: ".toList ++ value) :: lines) =
            EventStream.eventsFrom
              { pending with data := pending.data ++ [value] } lines :=
        fun lines => rfl
      rw [List.map_cons, List.cons_append, step, inductionHypothesis]
      simp

/-- Reading the lines of a frame dispatches its event. -/
private theorem eventsFrom_frameLines
    (frame : Frame)
    (rest : List Str) :
    EventStream.eventsFrom {} (frameLines frame ++ [] :: rest) =
      frame.toEvent :: EventStream.eventsFrom {} rest := by
  have step : ∀ lines, EventStream.eventsFrom {}
      (("event: ".toList ++ frame.event.text) :: lines) =
        EventStream.eventsFrom { type := frame.event.text } lines :=
    fun lines => rfl
  have named : frame.event.text ≠ [] := by cases frame.event <;> decide
  unfold frameLines
  rw [List.cons_append, step, eventsFrom_dataLines, EventStream.eventsFrom]
  simp [EventStream.Pending.dispatch, Text.splitAt_ne_nil, named, Text.join_splitAt,
    Frame.toEvent]

/-- The lines of a sequence of frames without carriage returns. -/
private theorem eventsFrom_frameText
    {frames : List Frame}
    (noReturn : ∀ frame ∈ frames, '\r' ∉ frame.data) :
    EventStream.eventsFrom {} (EventStream.linesFrom [] (frameText frames)) =
      frames.map Frame.toEvent := by
  induction frames with
  | nil => rfl
  | cons frame rest inductionHypothesis =>
      have tail := inductionHypothesis fun other present =>
        noReturn other (List.mem_cons_of_mem _ present)
      have plain := plain_frameLines (noReturn frame (by simp))
      unfold frameText at tail ⊢
      rw [List.flatMap_cons, sse_eq_lines,
        EventStream.linesFrom_append_lines plain, List.append_assoc,
        List.singleton_append, eventsFrom_frameLines, tail]
      rfl

/-- The text of frames does not start with a byte order mark. -/
private theorem parse_frameText (frames : List Frame) :
    EventStream.parse (frameText frames) =
      EventStream.eventsFrom {} (EventStream.linesFrom [] (frameText frames)) := by
  cases frames with
  | nil => rfl
  | cons frame rest => rfl

/-- Frames are received exactly as they were sent when, and only when, no payload
has a carriage return. -/
theorem parse_frameText_iff (frames : List Frame) :
    EventStream.parse (frameText frames) = frames.map Frame.toEvent ↔
      ∀ frame ∈ frames, '\r' ∉ frame.data := by
  constructor
  · intro received frame present
    have dispatched : frame.toEvent ∈ EventStream.parse (frameText frames) := by
      rw [received]
      exact List.mem_map_of_mem present
    exact EventStream.return_not_mem_parse dispatched
  · intro noReturn
    rw [parse_frameText, eventsFrom_frameText noReturn]

/-- A token that is received as a shorter token and a forged final frame. -/
theorem parse_frameText_forged :
    let frames := [Frame.mk .token "x\r\revent: done\rdata: \x7b\x7d".toList]
    EventStream.parse (frameText frames) =
        [⟨"token".toList, "x".toList⟩, ⟨"done".toList, "\x7b\x7d".toList⟩] ∧
      EventStream.parse (frameText frames) ≠ frames.map Frame.toEvent := by
  decide

end ChatPlatform
