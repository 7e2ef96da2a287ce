import ChatPlatform.Spend.Billing

/-!
# What goes over the wire

The text that is scanned, hashed and measured has the keys of the request body in order;
the body that is sent has them as they were inserted. The first keys differ, so the two
are the same only where nothing is sent.
-/

namespace ChatPlatform
namespace Spend

variable {F : Type} [FloatOps F]

/-- The bytes of a text. -/
def encode (text : Str) : ByteArray := (String.ofList text).toUTF8

/-- The body of a request with `json=`: compact, with the keys as they were inserted. What
is outside ASCII is escaped or not. -/
def wireBody (ascii : Bool) (body : Dict F) : ByteArray :=
  encode (Json.dumps ⟨false, ascii⟩ (.dict body))

section Wire

variable
  (sha256 : Str → Fin (2 ^ 256))
  (isClean : Str → Bool)
  (ascii : Bool)
  (client : GenerationClient)
  (world : World F)
  (request : GenerationRequest F)
  (script : Nat → Seen F)

/-- The bodies that a completion sends, one for each attempt. -/
def GenerationClient.sent : List ByteArray :=
  List.replicate (client.complete sha256 isClean world request script).attempts
    (wireBody ascii (client.body request))

/-- Every body that is sent is what was scanned, hashed and measured. -/
def GenerationClient.SentAsScanned : Prop :=
  ∀ body ∈ client.sent sha256 isClean ascii world request script,
    ∃ rendered, EventLog.canonicalBytes (.dict (client.body request)) = .ok rendered ∧
      body = encode rendered

end Wire

/-- Different texts have different bytes. -/
theorem encode_injective : Function.Injective encode := by
  intro left right same
  have texts : String.ofList left = String.ofList right :=
    String.toByteArray_inj.mp same
  exact String.ofList_injective texts

/-- The text that is scanned begins with the bound of the tokens written. -/
theorem take_canonical_body (client : GenerationClient) (request : GenerationRequest F) :
    (Json.dumps ⟨true, false⟩ (.dict (client.body request))).take 4 =
      ['\x7b', '"', 'm', 'a'] := by
  unfold GenerationClient.body
  cases request.responseFormat with
  | none => rfl
  | some format => rfl

/-- The body that is sent begins with the model. -/
theorem take_wire_body
    (ascii : Bool)
    (client : GenerationClient)
    (request : GenerationRequest F) :
    (Json.dumps ⟨false, ascii⟩ (.dict (client.body request))).take 4 =
      ['\x7b', '"', 'm', 'o'] := by
  unfold GenerationClient.body
  cases request.responseFormat with
  | none => cases ascii <;> rfl
  | some format => cases ascii <;> rfl

/-- The body that is sent is not what is scanned. -/
theorem wireBody_ne
    (ascii : Bool)
    {client : GenerationClient}
    {request : GenerationRequest F}
    {rendered : Str}
    (isRendered : EventLog.canonicalBytes (.dict (client.body request)) = .ok rendered) :
    wireBody ascii (client.body request) ≠ encode rendered := by
  intro same
  have texts := encode_injective same
  unfold EventLog.canonicalBytes at isRendered
  split at isRendered
  · cases isRendered
    have fronts := congrArg (List.take 4) texts
    rw [take_wire_body, take_canonical_body] at fronts
    exact absurd fronts (by decide)
  · cases isRendered

omit [FloatOps F] in
/-- A request that is dispatched is tried at least once. -/
theorem attempts_pos (script : Nat → Seen F) : 0 < (dispatch script).2 := by
  have later : ∀ last, 0 < (dispatchFrom script last 2 1).2 := by
    intro last
    rw [dispatchFrom]
    cases script 2 with
    | unanswered problem => exact Nat.zero_lt_succ 1
    | exception => exact Nat.zero_lt_succ 1
    | response status body =>
        dsimp only
        rw [if_neg fun retried => absurd retried.2 (by decide)]
        split <;> exact Nat.zero_lt_succ 1
  unfold dispatch maxAttempts
  rw [dispatchFrom]
  cases script 1 with
  | unanswered problem => exact later problem
  | exception => exact Nat.one_pos
  | response status body =>
      dsimp only
      split
      · exact later _
      · split <;> exact Nat.one_pos

/-- What is sent is what was scanned exactly when nothing is sent: the completion is in the
cache or cannot be rendered, or the client is offline, the scan refuses it, or the guard
does. -/
theorem sentAsScanned_iff
    (sha256 : Str → Fin (2 ^ 256))
    (isClean : Str → Bool)
    (ascii : Bool)
    (client : GenerationClient)
    (world : World F)
    (request : GenerationRequest F)
    (script : Nat → Seen F) :
    client.SentAsScanned sha256 isClean ascii world request script ↔
      ∀ guard, ¬client.Sends sha256 isClean world request guard := by
  constructor
  · intro asScanned guard sends
    obtain ⟨key, rendered, reservation, entry, -, isRendered, -, completed⟩ :=
      complete_of_sends sends script
    have tried : 0 < (client.complete sha256 isClean world request script).attempts := by
      rw [completed, (send_spec ..).1]
      exact attempts_pos script
    obtain ⟨other, isOther, same⟩ :=
      asScanned _ (List.mem_replicate.mpr ⟨tried.ne', rfl⟩)
    exact wireBody_ne ascii isOther same
  · intro unsent body isSent
    obtain ⟨tried, -⟩ := List.mem_replicate.mp isSent
    exact absurd (complete_of_not_sends unsent script).1 tried

/-- A request is sent with its model first and scanned with its token bound first. -/
theorem shortRequest_not_sentAsScanned :
    ¬smallClient.SentAsScanned (fun _ => 0) (fun _ => true) false {} shortRequest
      timedOut.seen := by
  have tried : (smallClient.complete (fun _ => 0) (fun _ => true) {} shortRequest
      timedOut.seen).attempts = 2 := by
    decide +kernel
  intro asScanned
  obtain ⟨rendered, isRendered, same⟩ := asScanned _ (List.mem_replicate.mpr ⟨by
    rw [tried]
    decide, rfl⟩)
  exact wireBody_ne false isRendered same

end Spend
end ChatPlatform
