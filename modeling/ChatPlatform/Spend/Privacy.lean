import ChatPlatform.PayloadScan.Quotations
import ChatPlatform.Spend.Billing

/-!
# What a completion refuses to send

A body is scanned as it is rendered. A request with a content that has a finding as JSON
writes it is refused before anything is reserved or sent, and so is one that is stopped anyway;
one whose findings are lost in the writing is not.
-/

namespace ChatPlatform
namespace Spend

open PayloadScan

variable {F : Type} [FloatOps F]

/-- Whether the scan lets a text pass. -/
def cleared (unicode : Unicode) (text : Str) : Bool :=
  match assertClean unicode text with
  | .ok () => true
  | .error _ => false

/-- A text that alarms does not pass. -/
private theorem cleared_of_alarms
    {unicode : Unicode}
    {text : Str}
    (alarms : Alarms (scanText unicode text)) : cleared unicode text = false := by
  unfold cleared assertClean
  cases scanned : scanText unicode text with
  | error limit => rfl
  | ok findings =>
      have held := alarms findings scanned
      show (match (if findings = [] then Except.ok () else _ : Except ScanError Unit) with
        | .ok () => true
        | .error _ => false) = false
      rw [if_neg held]

/-- A content of a message of a request. -/
def GenerationRequest.HasContent (request : GenerationRequest F) (content : Str) : Prop :=
  ∃ message ∈ request.messages, ("content".toList, content) ∈ message

/-- The literal of a content is part of the body. -/
private theorem quote_infix_body
    (client : GenerationClient)
    {request : GenerationRequest F}
    {content : Str}
    (held : request.HasContent content) :
    Json.quote Json.compact content <:+: Json.dumps Json.compact (.dict (client.body request)) := by
  obtain ⟨message, isMessage, isField⟩ := held
  have isEntry : (("content".toList, .str content) : Str × Value F) ∈
      message.map fun field => (field.1, .str field.2) :=
    List.mem_map.mpr ⟨_, isField, rfl⟩
  have isItem : (.dict (message.map fun field => (field.1, .str field.2)) : Value F) ∈
      request.messages.map fun message =>
        (.dict (message.map fun field => (field.1, .str field.2)) : Value F) :=
    List.mem_map.mpr ⟨_, isMessage, rfl⟩
  have inBody : ("messages".toList, .list (request.messages.map fun message =>
      (.dict (message.map fun field => (field.1, .str field.2)) : Value F))) ∈
        client.body request :=
    List.mem_append_left _ (List.mem_cons_of_mem _ List.mem_cons_self)
  exact ((Json.dumps_infix_dict Json.compact isEntry).trans
    (Json.dumps_infix_list Json.compact isItem)).trans (Json.dumps_infix_dict Json.compact inBody)

/-- A completion raises before anything is reserved or sent. -/
def GenerationClient.Refuses
    (sha256 : Str → Fin (2 ^ 256))
    (unicode : Unicode)
    (client : GenerationClient)
    (world : World F)
    (request : GenerationRequest F)
    (script : Nat → Seen F) : Prop :=
  ∃ raised, client.complete sha256 (cleared unicode) world request script =
    ⟨.error raised, world, 0⟩

/-- A completion is not in the cache. -/
def GenerationClient.Misses
    (sha256 : Str → Fin (2 ^ 256))
    (client : GenerationClient)
    (world : World F)
    (request : GenerationRequest F) : Prop :=
  ∀ key, client.key sha256 request = .ok key → world.cache key = none

/-- The text of a body. -/
def GenerationClient.rendered (client : GenerationClient) (request : GenerationRequest F) : Str :=
  Json.dumps Json.compact (.dict (client.body request))

/-- A completion that is not in the cache is stopped whatever the contents are: the client is
offline, or has no guard or no key, or a number is not finite, or the guard refuses the call. -/
def GenerationClient.Stops
    (sha256 : Str → Fin (2 ^ 256))
    (client : GenerationClient)
    (world : World F)
    (request : GenerationRequest F) : Prop :=
  client.offline = true ∨ client.apiKey.all (· = []) = true ∨
    Json.finite (.dict (client.body request)) = false ∨
      ∀ guard, client.guard = some guard →
        ∀ key, ∃ refusal, guard.decision world.ledger
          (callOf sha256 request key (client.rendered request)) = .error refusal

/-- A completion raises before anything is reserved or sent, unless it passes every check on
the way: then the guard has to refuse it. -/
private theorem refuses_of_unreserved
    {sha256 : Str → Fin (2 ^ 256)}
    {unicode : Unicode}
    {client : GenerationClient}
    {world : World F}
    {request : GenerationRequest F}
    (misses : client.Misses sha256 world request)
    (unreserved : ¬client.offline = true →
      Json.finite (.dict (client.body request)) = true →
        cleared unicode (client.rendered request) = true →
          ¬client.apiKey.all (· = []) = true →
            ∀ guard, client.guard = some guard →
              ∀ key, ∃ refusal, guard.decision world.ledger
                (callOf sha256 request key (client.rendered request)) = .error refusal)
    (script : Nat → Seen F) : client.Refuses sha256 unicode world request script := by
  unfold GenerationClient.Refuses GenerationClient.complete
  split
  · exact ⟨_, rfl⟩
  · rename_i key isKey
    rw [misses key isKey]
    dsimp only
    split
    · exact ⟨_, rfl⟩
    · rename_i online
      split
      · exact ⟨_, rfl⟩
      · rename_i rendered isRendered
        unfold EventLog.canonicalBytes at isRendered
        split at isRendered
        · rename_i isFinite
          cases isRendered
          split
          · exact ⟨_, rfl⟩
          · rename_i isCleared
            split
            · exact ⟨_, rfl⟩
            · rename_i guard isGuard
              split
              · exact ⟨_, rfl⟩
              · rename_i hasKey
                have passes : cleared unicode
                    (Json.dumps ⟨true, false⟩ (.dict (client.body request))) = true := by
                  simpa only [Bool.not_eq_true', Bool.not_eq_false] using isCleared
                obtain ⟨refusal, isRefusal⟩ :=
                  unreserved online isFinite passes hasKey guard isGuard key
                unfold SpendGuard.reserve
                have same : guard.decision world.ledger (callOf sha256 request key
                    (Json.dumps ⟨true, false⟩ (.dict (client.body request)))) =
                      .error refusal := isRefusal
                rw [same]
                exact ⟨_, rfl⟩
        · cases isRendered

/-- A completion that is stopped raises before anything is reserved or sent. -/
private theorem refuses_of_stops
    {sha256 : Str → Fin (2 ^ 256)}
    {unicode : Unicode}
    {client : GenerationClient}
    {world : World F}
    {request : GenerationRequest F}
    (stops : client.Stops sha256 world request)
    (misses : client.Misses sha256 world request)
    (script : Nat → Seen F) : client.Refuses sha256 unicode world request script := by
  refine refuses_of_unreserved misses ?_ script
  intro online isFinite _ hasKey
  rcases stops with offline | noKey | infinite | refused
  · exact absurd offline online
  · exact absurd noKey hasKey
  · rw [isFinite] at infinite
    cases infinite
  · exact refused

/-- A completion whose body is not cleared raises before anything is reserved or sent. -/
private theorem refuses_of_alarms
    {sha256 : Str → Fin (2 ^ 256)}
    {unicode : Unicode}
    {client : GenerationClient}
    {world : World F}
    {request : GenerationRequest F}
    (alarms : Alarms (scanText unicode (client.rendered request)))
    (misses : client.Misses sha256 world request)
    (script : Nat → Seen F) : client.Refuses sha256 unicode world request script := by
  refine refuses_of_unreserved misses ?_ script
  intro _ _ passes
  rw [cleared_of_alarms alarms] at passes
  cases passes

/-- A request with a content that the scan does not pass is refused, if some words of what JSON
writes for the content have a finding that the others leave alone or an encoding that is nested
too deep, if its body exceeds a limit of the scan, or if it is stopped anyway. -/
theorem refuses_of_showsRendered
    (sha256 : Str → Fin (2 ^ 256))
    (unicode : Unicode)
    {client : GenerationClient}
    {world : World F}
    {request : GenerationRequest F}
    {content : Str}
    (held : request.HasContent content)
    (shows : Alarms (scanText unicode content) → ShowsRendered unicode content ∨
      Exceeds unicode (client.rendered request) ∨ client.Stops sha256 world request)
    (alarms : Alarms (scanText unicode content))
    (misses : client.Misses sha256 world request)
    (script : Nat → Seen F) : client.Refuses sha256 unicode world request script := by
  rcases shows alarms with shows | exceeds | stops
  · exact refuses_of_alarms (alarms_of_showsRendered shows (quote_infix_body client held)) misses
      script
  · exact refuses_of_alarms (alarms_of_exceeds unicode exceeds) misses script
  · exact refuses_of_stops stops misses script

/-- A request with an address after a line feed and a space. -/
def addressRequest : GenerationRequest Empty :=
  { shortRequest with
    messages := [[("role".toList, "user".toList),
      ("content".toList, "mail\n a@b.co".toList)]] }

/-- A request with an address is refused. -/
theorem addressRequest_refused :
    smallClient.Refuses (fun _ => 0) ascii {} addressRequest timedOut.seen := by
  have found : HasFinding ascii (written "mail\n a@b.co".toList) :=
    ⟨[⟨.email, 0, 7, 13⟩], by decide +kernel, List.cons_ne_nil _ _⟩
  have scanned : scanText ascii "mail\n a@b.co".toList = .ok [⟨.email, 0, 6, 12⟩] := by
    decide +kernel
  have alarms : Alarms (scanText ascii "mail\n a@b.co".toList) := by
    intro findings isScanned
    cases scanned.symm.trans isScanned
    exact List.cons_ne_nil _ _
  exact refuses_of_showsRendered (fun _ => 0) ascii
    ⟨_, List.mem_singleton_self _, List.mem_cons_of_mem _ (List.mem_singleton_self _)⟩
    (fun _ => Or.inl (showsRendered_of_written found)) alarms (fun _ _ => rfl) _

/-- A request whose content begins with a line feed and a key. -/
def keyRequest : GenerationRequest Empty :=
  { shortRequest with
    messages := [[("role".toList, "user".toList),
      ("content".toList, "\nsk-aaaaaaaaaaaaaaaaaaaaaaaa".toList)]] }

/-- A key after a line feed is sent. -/
theorem not_refuses_of_alarms :
    ¬ ∀ (sha256 : Str → Fin (2 ^ 256)) (unicode : Unicode) (client : GenerationClient)
        (world : World Empty) (request : GenerationRequest Empty) (content : Str),
      request.HasContent content → Alarms (scanText unicode content) →
        client.Misses sha256 world request →
          ∀ script, client.Refuses sha256 unicode world request script := by
  intro refuses
  have scanned : scanText ascii "\nsk-aaaaaaaaaaaaaaaaaaaaaaaa".toList =
      .ok [⟨.openaiKey, 0, 1, 28⟩] := by decide +kernel
  have alarms : Alarms (scanText ascii "\nsk-aaaaaaaaaaaaaaaaaaaaaaaa".toList) := by
    intro findings isScanned
    cases scanned.symm.trans isScanned
    exact List.cons_ne_nil _ _
  have tried : (smallClient.complete (fun _ => 0) (cleared ascii) {} keyRequest
      timedOut.seen).attempts = 2 := by
    decide +kernel
  obtain ⟨raised, refused⟩ := refuses (fun _ => 0) ascii smallClient {} keyRequest _
    ⟨_, List.mem_singleton_self _, List.mem_cons_of_mem _ (List.mem_singleton_self _)⟩ alarms
    (fun _ _ => rfl) timedOut.seen
  rw [refused] at tried
  cases tried

end Spend
end ChatPlatform
