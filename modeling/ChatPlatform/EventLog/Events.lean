import ChatPlatform.Foundation.JsonPrintable

/-!
# The event log

An append-only log of events, one line each, every event with the digest of the one
before it. Reading the log recomputes the whole chain; appending verifies it first.
-/

namespace ChatPlatform
namespace EventLog

open Json

/-- The predecessor of the first event. -/
def genesisPrevious : Str := List.replicate 64 '0'

/-- The version of the schema. -/
def schemaVersion : Str := "orq39-events-v1".toList

/-- The keys of a line. -/
def lineKeys : List Str :=
  ["schema_version".toList, "seq".toList, "type".toList, "payload".toList,
    "previous".toList, "hash".toList]

/-- A lower-case letter, then at most 63 lower-case letters, digits and underscores. -/
def isEventType : Str → Bool
  | [] => false
  | c :: rest =>
      c.isLower && rest.length ≤ 63 && rest.all fun c => c.isLower || c.isDigit || c = '_'

/-- Sixty-four hexadecimal digits. -/
def isSha256 (text : Str) : Bool :=
  text.length = 64 && text.all fun c => Numeral.hexAlphabet.contains c

/-- What reading and appending raise. -/
inductive EventLogError
  /-- The log is malformed or its chain does not verify. -/
  | log (message : Str)
  /-- A number is not finite. -/
  | value
  /-- A text is not JSON. -/
  | decode
  deriving DecidableEq, Repr

/-- What is wrong with a line. -/
def lineError (lineNo : Nat) (problem : String) : EventLogError :=
  .log ("line ".toList ++ (toString lineNo).toList ++ ": ".toList ++ problem.toList)

variable {F : Type} [FloatOps F]

/-- The one serialization every digest is taken over. -/
def canonicalBytes (value : Value F) : Except EventLogError Str :=
  if finite value then .ok (dumps ⟨true, false⟩ value) else .error .value

/-- An event. -/
structure Event (F : Type) where
  /-- Its place. -/
  seq : Int
  /-- Its type. -/
  type : Str
  /-- What it says. -/
  payload : Dict F
  /-- The digest of the event before it. -/
  previous : Str
  /-- Its digest. -/
  hash : Str

/-- What the digest of an event is taken over. -/
def hashed (seq : Int) (type : Str) (payload : Dict F) (previous : Str) : Dict F :=
  [("schema_version".toList, .str schemaVersion), ("seq".toList, .int seq),
    ("type".toList, .str type), ("payload".toList, .dict payload),
    ("previous".toList, .str previous)]

/-- What a line says. -/
def Event.record (event : Event F) : Dict F :=
  hashed event.seq event.type event.payload event.previous ++
    [("hash".toList, .str event.hash)]

/-! ## Reading -/

/-- The event of the fields of a line. -/
def parseFields (raw : Dict F) (lineNo : Nat) : Except EventLogError (Event F) :=
  let seq : Option Int :=
    match Dict.get raw "seq".toList with
    | some (.int seq) => some seq
    | _ => none
  if !Dict.hasKeySet raw lineKeys then .error (lineError lineNo "unexpected keys")
  else if Dict.getStr raw "schema_version".toList ≠ some schemaVersion then
    .error (lineError lineNo "unknown schema_version")
  else
    match seq, (Dict.getStr raw "type".toList).filter isEventType,
        Dict.getDict raw "payload".toList,
        (Dict.getStr raw "previous".toList).filter isSha256,
        (Dict.getStr raw "hash".toList).filter isSha256 with
    | none, _, _, _, _ => .error (lineError lineNo "seq is not an integer")
    | some _, none, _, _, _ => .error (lineError lineNo "invalid event type")
    | some _, some _, none, _, _ => .error (lineError lineNo "payload is not an object")
    | some _, some _, some _, none, _ => .error (lineError lineNo "invalid previous hash")
    | some _, some _, some _, some _, none => .error (lineError lineNo "invalid hash")
    | some seq, some type, some payload, some previous, some hash =>
        .ok { seq, type, payload, previous, hash }

/-- The event of a line. -/
def parse (line : Str) (lineNo : Nat) : Except EventLogError (Event F) :=
  match loads ⟨true, true⟩ line with
  | none => .error (lineError lineNo "not JSON")
  | some (.dict raw) => parseFields raw lineNo
  | some _ => .error (lineError lineNo "unexpected keys")

/-- Every line break as a file opened as text shows it. -/
def universalNewlines : Str → Str
  | [] => []
  | '\r' :: '\n' :: rest => '\n' :: universalNewlines rest
  | c :: rest => (if c = '\r' then '\n' else c) :: universalNewlines rest

/-- The lines of a text with their ends, after the beginning of one. -/
def linesFrom (line : Str) : Str → List Str
  | [] => if line = [] then [] else [line]
  | c :: rest =>
      if c = '\n' then (line ++ [c]) :: linesFrom [] rest else linesFrom (line ++ [c]) rest

/-- The lines of a file. -/
def fileLines (log : Str) : List Str := linesFrom [] (universalNewlines log)

/-- The digest the next event has to name. -/
def expectedPrevious (events : List (Event F)) : Str :=
  match events.getLast? with
  | some event => event.hash
  | none => genesisPrevious

section Digest

variable (sha256 : Str → Fin (2 ^ 256))

/-- The hexadecimal digest of a text. -/
def sha256Hex (data : Str) : Str := Numeral.hexText 64 (sha256 data)

/-- The digest of an event. -/
def eventHash (seq : Int) (type : Str) (payload : Dict F) (previous : Str) :
    Except EventLogError Str :=
  (canonicalBytes (.dict (hashed seq type payload previous))).map (sha256Hex sha256)

/-- Check an event against the ones before it. -/
def checkEvent (lineNo : Nat) (events : List (Event F)) (event : Event F) :
    Except EventLogError Unit :=
  if event.seq ≠ events.length then .error (lineError lineNo "sequence gap")
  else if event.previous ≠ expectedPrevious events then
    .error (lineError lineNo "chain broken")
  else
    match eventHash sha256 event.seq event.type event.payload event.previous with
    | .error refusal => .error refusal
    | .ok recomputed =>
        if recomputed ≠ event.hash then .error (lineError lineNo "hash mismatch") else .ok ()

/-- The event of a line, checked against the ones before it. -/
def verifyLine (lineNo : Nat) (events : List (Event F)) (line : Str) :
    Except EventLogError (List (Event F)) :=
  if line.getLast? ≠ some '\n' then .error (lineError lineNo "truncated write")
  else
    match parse line lineNo with
    | .error refusal => .error refusal
    | .ok event =>
        match checkEvent sha256 lineNo events event with
        | .error refusal => .error refusal
        | .ok () => .ok (events ++ [event])

/-- The events of some lines after others. -/
def verifyLines (lineNo : Nat) (events : List (Event F)) :
    List Str → Except EventLogError (List (Event F))
  | [] => .ok events
  | line :: rest =>
      match verifyLine sha256 lineNo events line with
      | .error refusal => .error refusal
      | .ok events => verifyLines (lineNo + 1) events rest

/-- Every event of a log, after recomputing the entire chain. -/
def verify (log : Str) : Except EventLogError (List (Event F)) :=
  verifyLines sha256 1 [] (fileLines log)

/-! ## Appending -/

/-- Write the next event: what it is, and the log with it. -/
def extend (log : Str) (events : List (Event F)) (eventType : Str) (payload : Dict F) :
    Except EventLogError (Event F) × Str :=
  let seq : Int := events.length
  let previous := expectedPrevious events
  match eventHash sha256 seq eventType payload previous with
  | .error refusal => (.error refusal, log)
  | .ok hash =>
      let event : Event F := { seq, type := eventType, payload, previous, hash }
      match canonicalBytes (.dict event.record) with
      | .error refusal => (.error refusal, log)
      | .ok line => (.ok event, log ++ (line ++ ['\n']))

/-- Verify the log, then append one event: what is returned or raised, and the log
afterwards. -/
def append (log : Str) (eventType : Str) (payload : Dict F) :
    Except EventLogError (Event F) × Str :=
  if !isEventType eventType then (.error (.log "invalid event type".toList), log)
  else
    match canonicalBytes (.dict payload) with
    | .error refusal => (.error refusal, log)
    | .ok text =>
        match loads ⟨true, true⟩ text with
        | some (.dict copy) =>
            match verify sha256 log with
            | .error refusal => (.error refusal, log)
            | .ok events => extend sha256 log events eventType copy
        | _ => (.error .decode, log)

end Digest

end EventLog
end ChatPlatform
