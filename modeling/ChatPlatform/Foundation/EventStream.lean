import ChatPlatform.Foundation.Text

/-!
# The event-stream grammar

A stream is a sequence of lines, each ended by CR, LF or both in this order. A
line is a field or a comment, and a blank line dispatches the event collected so
far. An unfinished line or event at the end is discarded.
-/

namespace ChatPlatform
namespace EventStream

/-- The lines of a stream, where `line` holds the characters read so far of the
line in progress. -/
def linesFrom (line : Str) : Str → List Str
  | [] => []
  | '\r' :: '\n' :: rest => line :: linesFrom [] rest
  | '\r' :: rest => line :: linesFrom [] rest
  | '\n' :: rest => line :: linesFrom [] rest
  | c :: rest => linesFrom (line ++ [c]) rest

/-- A dispatched event. -/
structure Event where
  /-- Its type. -/
  type : Str
  /-- Its data. -/
  data : Str
  deriving DecidableEq, Repr

/-- The event being collected. -/
structure Pending where
  /-- The type, empty when none was given. -/
  type : Str := []
  /-- The data lines. -/
  data : List Str := []
  deriving DecidableEq, Repr

/-- The name of a field line: what is before the first colon. -/
def fieldName (line : Str) : Str := line.takeWhile (· ≠ ':')

/-- The text after a colon, with one space at its start dropped. -/
def afterColon : Str → Str
  | [] => []
  | _ :: ' ' :: value => value
  | _ :: value => value

/-- The value of a field line: what is after the first colon. -/
def fieldValue (line : Str) : Str := afterColon (line.dropWhile (· ≠ ':'))

/-- Take in a line that is not blank. Comments and unknown fields change
nothing. -/
def Pending.takeField (pending : Pending) (line : Str) : Pending :=
  if fieldName line = "event".toList then { pending with type := fieldValue line }
  else if fieldName line = "data".toList then
    { pending with data := pending.data ++ [fieldValue line] }
  else pending

/-- What a blank line dispatches: nothing without data. -/
def Pending.dispatch (pending : Pending) : List Event :=
  if pending.data = [] then []
  else
    [⟨if pending.type = [] then "message".toList else pending.type,
      Text.join ['\n'] pending.data⟩]

/-- The events of a sequence of lines. -/
def eventsFrom (pending : Pending) : List Str → List Event
  | [] => []
  | [] :: rest => pending.dispatch ++ eventsFrom {} rest
  | line :: rest => eventsFrom (pending.takeField line) rest

/-- The events of a stream; a byte order mark at its start is dropped. -/
def parse (stream : Str) : List Event :=
  match stream with
  | '\uFEFF' :: rest => eventsFrom {} (linesFrom [] rest)
  | stream => eventsFrom {} (linesFrom [] stream)

/-! ## Lines -/

/-- A line that ends with LF is read as it is. -/
theorem linesFrom_append_line
    {text : Str}
    (noReturn : '\r' ∉ text)
    (noFeed : '\n' ∉ text)
    (line rest : Str) :
    linesFrom line (text ++ '\n' :: rest) = (line ++ text) :: linesFrom [] rest := by
  induction text generalizing line with
  | nil => simp [linesFrom]
  | cons c text inductionHypothesis =>
      simp only [List.mem_cons, not_or] at noReturn noFeed
      have step : linesFrom line (c :: (text ++ '\n' :: rest)) =
          linesFrom (line ++ [c]) (text ++ '\n' :: rest) := by
        rw [linesFrom]
        · exact fun tail equal _ => noReturn.1 equal.symm
        · exact fun equal => noReturn.1 equal.symm
        · exact fun equal => noFeed.1 equal.symm
      rw [List.cons_append, step, inductionHypothesis noReturn.2 noFeed.2]
      simp

/-- Reading several lines that end with LF. -/
theorem linesFrom_append_lines
    {texts : List Str}
    (plain : ∀ text ∈ texts, '\r' ∉ text ∧ '\n' ∉ text)
    (rest : Str) :
    linesFrom [] (texts.flatMap (· ++ ['\n']) ++ rest) =
      texts ++ linesFrom [] rest := by
  induction texts with
  | nil => rfl
  | cons text others inductionHypothesis =>
      obtain ⟨noReturn, noFeed⟩ := plain text (by simp)
      have tail := inductionHypothesis fun other present =>
        plain other (List.mem_cons_of_mem _ present)
      rw [List.flatMap_cons, List.append_assoc, List.append_assoc,
        List.singleton_append, linesFrom_append_line noReturn noFeed, tail]
      rfl

/-- No line holds a carriage return. -/
theorem return_not_mem_linesFrom
    {stream line text : Str}
    (noReturn : '\r' ∉ line)
    (present : text ∈ linesFrom line stream) : '\r' ∉ text := by
  induction line, stream using linesFrom.induct with
  | case1 line => simp [linesFrom] at present
  | case2 line rest inductionHypothesis =>
      rw [linesFrom, List.mem_cons] at present
      rcases present with rfl | inRest
      · exact noReturn
      · exact inductionHypothesis (by simp) inRest
  | case3 line rest notFeed inductionHypothesis =>
      rw [linesFrom, List.mem_cons] at present
      · rcases present with rfl | inRest
        · exact noReturn
        · exact inductionHypothesis (by simp) inRest
      · exact notFeed
  | case4 line rest inductionHypothesis =>
      rw [linesFrom, List.mem_cons] at present
      rcases present with rfl | inRest
      · exact noReturn
      · exact inductionHypothesis (by simp) inRest
  | case5 line c rest notBoth notReturn notFeed inductionHypothesis =>
      rw [linesFrom] at present
      · refine inductionHypothesis ?_ present
        simp only [List.mem_append, List.mem_singleton, not_or]
        exact ⟨noReturn, fun equal => notReturn equal.symm⟩
      · exact notBoth
      · exact notReturn
      · exact notFeed

/-! ## Events -/

private theorem mem_of_mem_afterColon
    {text : Str}
    {c : Char}
    (present : c ∈ afterColon text) : c ∈ text := by
  unfold afterColon at present
  split at present
  · simp at present
  · exact List.mem_cons_of_mem _ (List.mem_cons_of_mem _ present)
  · exact List.mem_cons_of_mem _ present

private theorem mem_of_mem_fieldValue
    {line : Str}
    {c : Char}
    (present : c ∈ fieldValue line) : c ∈ line :=
  (List.dropWhile_suffix _).subset (mem_of_mem_afterColon present)

/-- No data holds a carriage return when no line does. -/
theorem return_not_mem_eventsFrom
    {lines : List Str}
    {pending : Pending}
    {event : Event}
    (plain : ∀ line ∈ lines, '\r' ∉ line)
    (plainData : ∀ line ∈ pending.data, '\r' ∉ line)
    (present : event ∈ eventsFrom pending lines) : '\r' ∉ event.data := by
  induction pending, lines using eventsFrom.induct with
  | case1 pending => simp [eventsFrom] at present
  | case2 pending rest inductionHypothesis =>
      rw [eventsFrom, List.mem_append] at present
      rcases present with dispatched | later
      · unfold Pending.dispatch at dispatched
        split at dispatched
        · simp at dispatched
        · rw [List.mem_singleton] at dispatched
          subst dispatched
          intro inside
          rcases Text.mem_of_mem_join inside with inFeed | ⟨line, held, inLine⟩
          · exact absurd inFeed (by decide)
          · exact plainData line held inLine
      · exact inductionHypothesis
          (fun line held => plain line (List.mem_cons_of_mem _ held))
          (by simp) later
  | case3 pending line rest notBlank inductionHypothesis =>
      rw [eventsFrom] at present
      · refine inductionHypothesis
          (fun other held => plain other (List.mem_cons_of_mem _ held)) ?_ present
        unfold Pending.takeField
        split
        · exact plainData
        · split
          · intro other held
            rcases List.mem_append.mp held with inData | isValue
            · exact plainData other inData
            · rw [List.mem_singleton.mp isValue]
              exact fun inside =>
                plain line (by simp) (mem_of_mem_fieldValue inside)
          · exact plainData
      · exact notBlank

/-- Whatever a stream is, no event it gives has a carriage return in its data. -/
theorem return_not_mem_parse
    {stream : Str}
    {event : Event}
    (present : event ∈ parse stream) : '\r' ∉ event.data := by
  unfold parse at present
  split at present <;>
    exact return_not_mem_eventsFrom
      (fun line held => return_not_mem_linesFrom (by simp) held) (by simp) present

end EventStream
end ChatPlatform
