import ChatPlatform.Foundation.Dynamic
import ChatPlatform.Foundation.Text
import ChatPlatform.Spend.Guard
import Mathlib.Logic.Function.Basic

/-!
# The generation client

A completion is looked up in the cache, scanned, reserved, requested and settled. A
request is tried twice when the endpoint does not answer or answers that it may be
tried again; the call is settled with the usage of the answer, if there is one.
-/

namespace ChatPlatform
namespace Spend

variable {F : Type} [FloatOps F]

/-- How often a request is tried. -/
def maxAttempts : Nat := 2

/-- The statuses after which a request is tried again. -/
def retryableStatus : List Int := [408, 409, 429, 500, 502, 503, 504]

/-- The version of the cache. -/
def cacheSchema : Str := "orq39-generation-cache-v1".toList

/-- What a completion raises. -/
inductive ClientError
  /-- The call failed. -/
  | generation (message : Str)
  /-- The cache does not hold a completion. -/
  | offlineCacheMiss
  /-- The guard refused. -/
  | guard (refusal : SpendError)
  /-- The payload is not clean. -/
  | scan
  /-- A number is not finite. -/
  | log (refusal : EventLog.EventLogError)
  /-- An answer is not JSON. -/
  | decode
  /-- An answer lacks what is read from it. -/
  | lookup (fault : ValueFault)
  /-- A list of an answer is too short. -/
  | index
  /-- Any other exception of a request. -/
  | transport
  deriving DecidableEq

/-! ## Requests -/

/-- One logical attempt. -/
structure GenerationRequest (F : Type) where
  /-- The messages. -/
  messages : List (List (Str × Str))
  /-- The tenant. -/
  tenantId : Str
  /-- The conversation. -/
  conversationId : Str
  /-- What the call is for. -/
  kind : Str
  /-- Where it comes from. -/
  label : Str
  /-- Bound of the tokens written. -/
  maxOutputTokens : Int
  /-- The temperature. -/
  temperature : Value F
  /-- The format of the answer. -/
  responseFormat : Option (Dict F)

/-- What a completion returns. -/
structure GenerationResult (F : Type) where
  /-- The text, as the answer has it. -/
  text : Value F
  /-- The reported usage. -/
  usage : Option (Dict F)
  /-- Whether it comes from the cache. -/
  cached : Bool
  /-- The model. -/
  model : Str

/-- How a client is set up. -/
structure GenerationClient where
  /-- The guard of its calls. -/
  guard : Option SpendGuard
  /-- The model. -/
  model : Str
  /-- The key of the endpoint. -/
  apiKey : Option Str
  /-- Whether only the cache is used. -/
  offline : Bool

/-- A completion in the cache. -/
structure CachedCompletion (F : Type) where
  /-- The model. -/
  model : Str
  /-- Digest of the payload. -/
  payloadSha256 : Str
  /-- The text. -/
  text : Value F
  /-- The reported usage. -/
  usage : Option (Dict F)

/-- What a client works on. -/
structure World (F : Type) where
  /-- The cache by key. -/
  cache : Str → Option (CachedCompletion F) := fun _ => none
  /-- The ledger. -/
  ledger : List (Entry F) := []
  /-- The number of calls. -/
  calls : Nat := 0
  /-- The number of completions found in the cache. -/
  cacheHits : Nat := 0

/-! ## The endpoint -/

/-- What a client sees of a request. -/
inductive Seen (F : Type)
  /-- A timeout or another transport error. -/
  | unanswered (problem : Str)
  /-- Any other exception. -/
  | exception
  /-- A status and a body, if the body is JSON. -/
  | response (status : Int) (body : Option (Value F))

/-- The first item of a value. -/
def firstItem : Value F → Except ClientError (Value F)
  | .list [] => .error .index
  | .list (item :: _) => .ok item
  | .str [] => .error .index
  | .str (c :: _) => .ok (.str [c])
  | .dict _ => .error (.lookup .keyError)
  | _ => .error (.lookup .typeError)

/-- The item of a value under a key. -/
def item (value : Value F) (key : Str) : Except ClientError (Value F) :=
  match Value.getItem value key with
  | .ok item => .ok item
  | .error fault => .error (.lookup fault)

/-- The text and the usage of an answer. -/
def readAnswer (body : Option (Value F)) :
    Except ClientError (Value F × Option (Dict F)) :=
  match body with
  | none => .error .decode
  | some payload => do
      let choices ← item payload "choices".toList
      let choice ← firstItem choices
      let message ← item choice "message".toList
      let content ← item message "content".toList
      match payload with
      | .dict fields => return (content, Dict.getDict fields "usage".toList)
      | _ => .error (.lookup .attributeError)

/-- Try a request: what is returned or raised, and how often it was tried. -/
def dispatchFrom (script : Nat → Seen F) (last : Str) (attempt : Nat) :
    Nat → Except ClientError (Value F × Option (Dict F)) × Nat
  | 0 =>
      (.error (.generation ("dispatch failed after ".toList ++
        Numeral.decimal maxAttempts ++ " attempts: ".toList ++ last)), attempt - 1)
  | remaining + 1 =>
      match script attempt with
      | .unanswered problem => dispatchFrom script problem (attempt + 1) remaining
      | .exception => (.error .transport, attempt)
      | .response status body =>
          if status ∈ retryableStatus ∧ attempt < maxAttempts then
            dispatchFrom script ("retryable status ".toList ++ Numeral.decimal status)
              (attempt + 1) remaining
          else if status ≠ 200 then
            (.error (.generation ("status ".toList ++ Numeral.decimal status)), attempt)
          else (readAnswer body, attempt)

/-- Request a completion: what is returned or raised, and how often it was tried. -/
def dispatch (script : Nat → Seen F) :
    Except ClientError (Value F × Option (Dict F)) × Nat :=
  dispatchFrom script "None".toList 1 maxAttempts

/-! ## Completions -/

/-- The body of a request. -/
def GenerationClient.body (client : GenerationClient) (request : GenerationRequest F) :
    Dict F :=
  [("model".toList, .str client.model),
    ("messages".toList, .list (request.messages.map fun message =>
      .dict (message.map fun field => (field.1, .str field.2)))),
    ("temperature".toList, request.temperature),
    ("max_tokens".toList, .int request.maxOutputTokens)] ++
    match request.responseFormat with
    | none => []
    | some format => [("response_format".toList, .dict format)]

/-- What a completion did. -/
structure Completion (F : Type) where
  /-- What is returned or raised. -/
  result : Except ClientError (GenerationResult F)
  /-- What the client works on afterwards. -/
  world : World F
  /-- How often a request was sent. -/
  attempts : Nat

section Complete

variable (sha256 : Str → Fin (2 ^ 256)) (isClean : Str → Bool)

/-- The key of a request. -/
def GenerationClient.key (client : GenerationClient) (request : GenerationRequest F) :
    Except EventLog.EventLogError Str :=
  (EventLog.canonicalBytes (.dict [("schema".toList, .str cacheSchema),
    ("tenant_id".toList, .str request.tenantId),
    ("conversation_id".toList, .str request.conversationId),
    ("kind".toList, .str request.kind),
    ("body".toList, .dict (client.body request))])).map (EventLog.sha256Hex sha256)

/-- The call that is reserved for a rendered body. -/
def callOf (request : GenerationRequest F) (key rendered : Str) : Call where
  kind := request.kind
  maxInputTokens := Text.utf8Length rendered
  maxOutputTokens := request.maxOutputTokens
  attempts := maxAttempts
  payloadSha256 := EventLog.sha256Hex sha256 rendered
  logicalAttempt := key

/-- Request a completion that is reserved, and settle it. -/
def GenerationClient.send
    (client : GenerationClient)
    (guard : SpendGuard)
    (world : World F)
    (script : Nat → Seen F)
    (key rendered : Str)
    (reservation : Reservation) : Completion F :=
  match dispatch script with
  | (.error raised, attempts) =>
      match guard.settle world.ledger reservation "failed".toList none with
      | (.error refusal, ledger) => ⟨.error (.guard refusal), { world with ledger }, attempts⟩
      | (.ok _, ledger) => ⟨.error raised, { world with ledger }, attempts⟩
  | (.ok (text, usage), attempts) =>
      match guard.settle world.ledger reservation "ok".toList usage with
      | (.error refusal, ledger) => ⟨.error (.guard refusal), { world with ledger }, attempts⟩
      | (.ok _, ledger) =>
          let completion : CachedCompletion F :=
            { model := client.model
              payloadSha256 := EventLog.sha256Hex sha256 rendered
              text := text
              usage := usage.filter fun usage => !usage.isEmpty }
          ⟨.ok ⟨text, usage, false, client.model⟩,
            { world with
              ledger
              calls := world.calls + 1
              cache := Function.update world.cache key (some completion) }, attempts⟩

/-- Complete a request. -/
def GenerationClient.complete
    (client : GenerationClient)
    (world : World F)
    (request : GenerationRequest F)
    (script : Nat → Seen F) : Completion F :=
  match client.key sha256 request with
  | .error refusal => ⟨.error (.log refusal), world, 0⟩
  | .ok key =>
      match world.cache key with
      | some cached =>
          ⟨.ok ⟨cached.text, cached.usage, true, cached.model⟩,
            { world with cacheHits := world.cacheHits + 1 }, 0⟩
      | none =>
          if client.offline then ⟨.error .offlineCacheMiss, world, 0⟩
          else
            match EventLog.canonicalBytes (.dict (client.body request)) with
            | .error refusal => ⟨.error (.log refusal), world, 0⟩
            | .ok rendered =>
                if !isClean rendered then ⟨.error .scan, world, 0⟩
                else
                  match client.guard with
                  | none =>
                      ⟨.error (.guard (.guard
                        "a spend guard is required for a live dispatch".toList)), world, 0⟩
                  | some guard =>
                      if client.apiKey.all (· = []) then
                        ⟨.error (.guard (.guard
                          "no API key: refusing to dispatch".toList)), world, 0⟩
                      else
                        match guard.reserve world.ledger
                            (callOf sha256 request key rendered) with
                        | (.error refusal, ledger) =>
                            ⟨.error (.guard refusal), { world with ledger }, 0⟩
                        | (.ok reservation, ledger) =>
                            client.send sha256 guard { world with ledger } script key
                              rendered reservation

end Complete

end Spend
end ChatPlatform
