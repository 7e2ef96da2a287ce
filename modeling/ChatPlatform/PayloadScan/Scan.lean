import ChatPlatform.Foundation.Decoding
import ChatPlatform.PayloadScan.Patterns

/-!
# The scan of a payload

A text is composed, scanned and decoded, and what it decodes to is scanned in the same way,
up to a depth. What is decoded is bounded, and a scan that could not finish raises.
-/

namespace ChatPlatform
namespace PayloadScan

open Pattern Decoding Spans

/-- How deep encodings are followed. -/
def maxDecodeDepth : Nat := 3

/-- Bound of the decoded characters, as a multiple of the input. -/
def maxExpansionFactor : Nat := 4

/-- Bound of the decoded characters. -/
def maxExpansionChars : Nat := 1000000

/-- Bound of the input. -/
def maxInputChars : Nat := 2000000

/-- What is found. -/
inductive Kind where
  | openaiKey
  | awsKey
  | secretAssignment
  | localPath
  | email
  | phone
  | cardNumber
  | iban
  | opaqueEncodedBlob
  deriving DecidableEq

/-- The name of what is found. -/
def Kind.text : Kind → Str
  | openaiKey => "openai_key".toList
  | awsKey => "aws_key".toList
  | secretAssignment => "secret_assignment".toList
  | localPath => "local_path".toList
  | email => "email".toList
  | phone => "phone".toList
  | cardNumber => "card_number".toList
  | iban => "iban".toList
  | opaqueEncodedBlob => "opaque_encoded_blob".toList

/-- The kinds that are looked for, in order. -/
def plainKinds : List Kind :=
  [.openaiKey, .awsKey, .secretAssignment, .localPath, .email, .phone, .cardNumber, .iban]

/-- The kinds in the order of their names. -/
def kindsByName : List Kind :=
  [.awsKey, .cardNumber, .email, .iban, .localPath, .openaiKey, .opaqueEncodedBlob, .phone,
    .secretAssignment]

/-- A finding. -/
structure Finding where
  /-- What is found. -/
  kind : Kind
  /-- How deep it is encoded. -/
  depth : Nat
  /-- Where it begins. -/
  start : Nat
  /-- Where it ends. -/
  stop : Nat
  deriving DecidableEq

/-- What a scan raises. -/
inductive ScanError where
  /-- A limit is exceeded. -/
  | limit (message : Str)
  /-- Something is found. -/
  | value (message : Str)
  deriving DecidableEq

/-! ## One layer -/

/-- Where synthetic tokens are. -/
def syntheticSpans (text : Str) : List (Nat × Nat) := finditer syntheticProhibitedRe text

/-- Whether a span lies in a synthetic token. -/
def insideSynthetic (span : Nat × Nat) (allowed : List (Nat × Nat)) : Bool :=
  allowed.any fun token => token.1 ≤ span.1 && span.2 ≤ token.2

/-- A text whose characters at some spans are spaces. -/
def blankOut (spans : List (Nat × Nat)) (text : Str) : Str :=
  text.zipIdx.map fun entry =>
    if spans.any (fun span => decide (Within entry.2 span)) then ' ' else entry.1

/-- A text without its identifiers, which numbers are looked for in. -/
def numericView (text : Str) : Str := blankOut (finditer uuidRe text) text

section Scan

variable (unicode : Unicode)

/-- Whether a candidate is a card number. -/
def isCardNumber (candidate : Str) : Bool :=
  let digits := candidate.filterMap unicode.digit
  13 ≤ digits.length && digits.length ≤ 19 && luhnValid digits

/-- Where something may be found, synthetic tokens included. -/
def spansOf (text : Str) : Kind → List (Nat × Nat)
  | .openaiKey => finditer (openaiKeyRe unicode) text
  | .awsKey => finditer (awsKeyRe unicode) text
  | .secretAssignment => (scan (secretAssignment unicode) text).map fun found =>
      shift found.1.1 found.2
  | .localPath => finditer (localPathRe unicode) text
  | .email => finditer emailRe text
  | .phone => finditer (phoneRe unicode) (numericView text)
  | .cardNumber => (finditer (cardCandidateRe unicode) (numericView text)).filter fun span =>
      isCardNumber unicode (slice (numericView text) span)
  | .iban => (finditer (ibanCandidateRe unicode) (numericView text)).filter fun span =>
      ibanValid unicode (slice (numericView text) span)
  | .opaqueEncodedBlob => []

/-- The findings in a layer. -/
def scanPlain (text : Str) (depth : Nat) : List Finding :=
  plainKinds.flatMap fun kind =>
    ((spansOf unicode text kind).filter fun span => !insideSynthetic span (syntheticSpans text)).map
      fun span => ⟨kind, depth, span.1, span.2⟩

/-- Whether a token is no encoding: a digest, an identifier or an ordinary word. -/
def isDecodingExempt (token : Str) : Bool :=
  fullmatch hexTokenRe token || fullmatch uuidRe token ||
    !(token.any Char.isUpper && token.any Char.isLower &&
      token.any fun c => c.isDigit || c = '+' || c = '/' || c = '_' || c = '-' || c = '=')

/-- Where encodings are. -/
def candidates (layer : Str) : List (Nat × Nat) :=
  (finditer base64CandidateRe layer).filter fun span =>
    !isDecodingExempt (slice layer span) && !insideSynthetic span (syntheticSpans layer)

/-- Whether there is a percent escape. -/
def hasPercent (layer : Str) : Bool := !(finditer percentRe layer).isEmpty

/-! ## Layers -/

/-- What a visit returns: the findings, and how many characters are examined. -/
abbrev Visit := Except ScanError (List Finding × Nat)

/-- Visit what some bytes stand for, or find that they stand for nothing. -/
def visitBytes
    (visitLayer : Str → Nat → Visit)
    (opaqueBlob : Finding)
    (bytes : List Byte)
    (examined : Nat) : Visit :=
  match decodeUtf8 bytes with
  | none => .ok ([opaqueBlob], examined)
  | some text => visitLayer text examined

/-- Visit what each encoding stands for. -/
def visitCandidates
    (visitLayer : Str → Nat → Visit)
    (layer : Str)
    (depth : Nat)
    (examined : Nat) : List (Nat × Nat) → Visit
  | [] => .ok ([], examined)
  | span :: rest =>
      match decodeBase64 (slice layer span) with
      | none => visitCandidates visitLayer layer depth examined rest
      | some bytes => do
          let (findings, examined) ← visitBytes visitLayer
            ⟨.opaqueEncodedBlob, depth + 1, span.1, span.2⟩ bytes examined
          let (later, examined) ← visitCandidates visitLayer layer depth examined rest
          .ok (findings ++ later, examined)

/-- Visit a layer, where `levels` more may be decoded. -/
def visit (budget : Nat) : (levels : Nat) → Str → Nat → Visit
  | levels, text, examined => do
      let depth := maxDecodeDepth - levels
      let layer := unicode.nfkc text
      let examined := if depth > 0 then examined + layer.length else examined
      if depth > 0 ∧ examined > budget then
        .error (.limit "decoded expansion exceeds the declared limit".toList)
      else
        let findings := scanPlain unicode layer depth
        match levels with
        | 0 =>
            if hasPercent layer || (candidates layer).any fun span =>
                (decodeBase64 (slice layer span)).isSome then
              .error (.limit "encoding nested deeper than MAX_DECODE_DEPTH".toList)
            else .ok (findings, examined)
        | levels + 1 => do
            let (percent, examined) ←
              if hasPercent layer then
                visitBytes (visit budget levels)
                  ⟨.opaqueEncodedBlob, depth + 1, 0, layer.length⟩ (unquoteToBytes layer) examined
              else .ok ([], examined)
            let (encoded, examined) ←
              visitCandidates (visit budget levels) layer depth examined (candidates layer)
            .ok (findings ++ percent ++ encoded, examined)

/-- All findings in a text, including inside nested encodings. -/
def scanText (text : Str) : Except ScanError (List Finding) :=
  if text.length > maxInputChars then .error (.limit "input exceeds MAX_INPUT_CHARS".toList)
  else do
    let budget := min maxExpansionChars (maxExpansionFactor * max text.length 1)
    let (findings, _) ← visit unicode budget maxDecodeDepth text 0
    .ok findings

/-- Raise unless a text is free of findings. -/
def assertClean (text : Str) : Except ScanError Unit := do
  let findings ← scanText unicode text
  if findings = [] then .ok ()
  else
    let kinds := kindsByName.filter fun kind => findings.any fun finding => finding.kind = kind
    .error (.value ("payload scan failed: ".toList ++
      Text.join ", ".toList (kinds.map Kind.text)))

end Scan

/-! ## The tables of ASCII -/

/-- The tables of a language whose letters are those of ASCII. -/
def ascii : Unicode where
  nfkc := id
  isWord c := c.isAlphanum || c = '_'
  digit c := if c.isDigit then some (c.toNat - 48) else none
  nfkc_nil := rfl
  nfkc_gap _ _ _ _ := rfl
  word_ascii _ := rfl
  digit_ascii _ := rfl

end PayloadScan
end ChatPlatform
