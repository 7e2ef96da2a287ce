import ChatPlatform.Foundation.Alignment
import ChatPlatform.Ingest.Steps
import ChatPlatform.Providers.Port
import ChatPlatform.Providers.Retry
import ChatPlatform.Retrieval.Reranker

/-!
# The OpenAI embedding provider

Texts are sent in one request and the vectors are read off the items of the response in
the order in which they stand; the number that each item carries is not looked at. So the
vectors belong to their texts exactly when the response is in order already.
-/

namespace ChatPlatform
namespace OpenAiEmbedding

open ChatPlatform.Alignment Retry

/-! ## Errors -/

/-- The classes of exceptions of a request that the provider tells apart. -/
inductive HttpxFault
  /-- `TimeoutException`. -/
  | timeout
  /-- `RequestError` and its other subclasses. -/
  | request
  /-- Any other exception. -/
  | other
  deriving DecidableEq, Repr

/-- The normalized failure of an exception. -/
def mapHttpxExc : HttpxFault → ProviderError
  | .timeout =>
      { kind := .timeout, message := "embedding provider timeout".toList
        provider := "openai".toList }
  | .request =>
      { kind := .upstream, message := "embedding provider upstream error".toList
        provider := "openai".toList }
  | .other =>
      { kind := .unknown, message := "embedding provider unknown error".toList
        provider := "openai".toList }

/-- The normalized failure of an HTTP status. -/
def mapHttpStatus (statusCode : Int) : ProviderError :=
  let failure (kind : ProviderErrorKind) (message : Str) (retryable : Bool) : ProviderError :=
    { kind, message, provider := "openai".toList, httpStatus := some statusCode, retryable }
  if statusCode = 400 then
    failure .badRequest "embedding request failed".toList false
  else if statusCode = 401 ∨ statusCode = 403 then
    failure .auth "embedding auth failed".toList false
  else if statusCode = 429 then
    failure .rateLimit "embedding provider rate limited".toList true
  else if 500 ≤ statusCode ∧ statusCode ≤ 599 then
    failure .upstream "embedding provider upstream error".toList true
  else failure .unknown "embedding request failed".toList false

/-- Whether an exception is worth another attempt. -/
def shouldRetry : ProviderException → Bool
  | .provider error =>
      error.kind = .rateLimit || error.kind = .upstream || error.kind = .timeout
  | .other _ _ => false

/-! ## Requests -/

/-- The configuration of the provider. -/
structure Config where
  /-- The model. -/
  model : Str := "text-embedding-3-small".toList
  /-- Length of a vector. -/
  dimensions : Int := 1536
  /-- Most attempts. -/
  maxAttempts : Int := 3
  /-- Delay after the first attempt, in milliseconds. -/
  backoffBaseMs : Int := 200
  /-- Longest delay, in milliseconds. -/
  backoffMaxMs : Int := 2000

/-- The body of a request. -/
structure Payload where
  /-- The model. -/
  model : Str
  /-- The texts. -/
  input : List Str
  /-- Length of a vector. -/
  dimensions : Int
  deriving DecidableEq

variable {F C : Type}

/-- A response of the endpoint. -/
structure Response (F : Type) where
  /-- The HTTP status. -/
  statusCode : Int
  /-- The body, when it is JSON. -/
  json : Option (Value F)

/-- What the endpoint, the sleeps and the random numbers do, attempt by attempt. -/
structure Client (F C : Type) where
  /-- The answer to a request. -/
  post : Payload → Nat → Except (Raised HttpxFault C) (Response F)
  /-- The sleep after an attempt. -/
  sleep : Nat → Except (Raised ProviderException C) Unit
  /-- A random number from zero to a bound, drawn after an attempt. -/
  randint : Nat → (bound : Nat) → Fin (bound + 1)

/-- One attempt: exceptions and failing statuses are normalized. -/
def attempt
    (client : Client F C)
    (payload : Payload)
    (number : Nat) : Except (Raised ProviderException C) (Response F) :=
  match client.post payload number with
  | .error (.exception fault) => .error (.exception (.provider (mapHttpxExc fault)))
  | .error (.cancellation cancellation) => .error (.cancellation cancellation)
  | .ok response =>
      if 400 ≤ response.statusCode then
        .error (.exception (.provider (mapHttpStatus response.statusCode)))
      else .ok response

/-- The attempts for a request. -/
def attempts (client : Client F C) (payload : Payload) :
    Script (Response F) ProviderException C where
  op := attempt client payload
  shouldRetry := shouldRetry
  sleep := client.sleep
  randint := client.randint
  assertionError := .other "AssertionError".toList []

/-- How often to try: at least once. -/
def Config.policy (config : Config) : RetryPolicy where
  maxAttempts := max 1 config.maxAttempts
  baseDelayMs := config.backoffBaseMs
  maxDelayMs := config.backoffMaxMs

/-- The request for some texts. -/
def Config.payload (config : Config) (texts : List Str) : Payload where
  model := config.model
  input := texts
  dimensions := config.dimensions

/-- What asking for embeddings may raise. -/
inductive EmbeddingFault (C : Type) where
  /-- What the last attempt or a sleep raised. -/
  | call (raised : Raised ProviderException C)
  /-- The body is not JSON. -/
  | json
  /-- The body is not as expected. -/
  | value (fault : ValueFault)

/-- The vectors for some texts. -/
structure EmbeddingResult (F : Type) where
  /-- The vectors. -/
  vectors : List (Value F)
  /-- The model. -/
  model : Str
  /-- Length of a vector. -/
  dimensions : Int

/-- The vector of an item. -/
def embeddingOf (item : Value F) : Except ValueFault (Value F) :=
  item.getItem "embedding".toList

/-- The vectors of a body, in the order of its items. -/
def decodeVectors (body : Value F) : Except ValueFault (List (Value F)) := do
  let data ← body.getItem "data".toList
  let items ← Retrieval.iterate data
  items.mapM embeddingOf

/-- The vectors for some texts. -/
def embedMany
    (config : Config)
    (client : Client F C)
    (texts : List Str) : Except (EmbeddingFault C) (EmbeddingResult F) :=
  if texts = [] then .ok ⟨[], config.model, config.dimensions⟩
  else
    match (retryAsync (attempts client (config.payload texts)) config.policy).1 with
    | .error raised => .error (.call raised)
    | .ok response =>
        match response.json with
        | none => .error .json
        | some body =>
            match decodeVectors body with
            | .error fault => .error (.value fault)
            | .ok vectors => .ok ⟨vectors, config.model, config.dimensions⟩

/-! ## Items and texts -/

/-- The endpoint answered some texts with items that carry numbers. -/
structure Answered
    (config : Config)
    (client : Client F C)
    (texts : List Str)
    (items : List (Value F))
    (numbers : List Int) : Prop where
  /-- The attempts end with a response whose body holds the items. -/
  data : ∃ response body,
    (retryAsync (attempts client (config.payload texts)) config.policy).1 = .ok response ∧
      response.json = some body ∧ body.getItem "data".toList = .ok (.list items)
  /-- Each item has its number. -/
  numbered : List.Forall₂
    (fun item number => item.getItem "index".toList = .ok (.int number)) items numbers

/-- There is a vector for each text: that of the only item with its number. -/
def OwnVectors
    (texts : List Str)
    (items : List (Value F))
    (numbers : List Int)
    (vectors : List (Value F)) : Prop :=
  Aligned texts.length numbers (items.map embeddingOf) (vectors.map .ok)

variable {config : Config} {client : Client F C} {texts : List Str} {items : List (Value F)}
  {numbers : List Int}

/-- A successful traversal has a result for every item. -/
theorem map_embeddingOf
    {vectors : List (Value F)}
    (read : items.mapM embeddingOf = .ok vectors) :
    items.map embeddingOf = vectors.map .ok :=
  (Traversal.map_eq_of_forall₂ (fun _ _ isResult => isResult.symm)
    (Traversal.forall₂_of_mapM read)).symm

/-- What asking for the vectors of some texts gives when the endpoint answered them. -/
theorem embedMany_eq_ok_iff
    (held : texts ≠ [])
    (answered : Answered config client texts items numbers)
    (result : EmbeddingResult F) :
    embedMany config client texts = .ok result ↔
      items.mapM embeddingOf = .ok result.vectors ∧ result.model = config.model ∧
        result.dimensions = config.dimensions := by
  obtain ⟨response, body, responds, isJson, hasItems⟩ := answered.data
  have decoded : decodeVectors body = items.mapM embeddingOf := by
    simp only [decodeVectors, hasItems, Retrieval.iterate, bind, Except.bind]
  unfold embedMany
  rw [if_neg held, responds]
  dsimp only
  rw [isJson]
  dsimp only
  rw [decoded]
  cases items.mapM embeddingOf with
  | error fault => exact iff_of_false nofun fun ⟨impossible, _⟩ => nomatch impossible
  | ok vectors =>
      obtain ⟨resultVectors, model, dimensions⟩ := result
      simp only [Except.ok.injEq, EmbeddingResult.mk.injEq]
      constructor
      · rintro ⟨rfl, rfl, rfl⟩
        exact ⟨rfl, rfl, rfl⟩
      · rintro ⟨rfl, rfl, rfl⟩
        exact ⟨rfl, rfl, rfl⟩

/-- Whenever the endpoint answers with numbered items, either nothing is returned or there
is a vector for each text, that of the item with its number, exactly when there are no
texts, an item has no vector, or the numbers are those of the texts and sorting by them
leaves the vectors of the items as they are. -/
theorem embedMany_ownVectors_iff
    (config : Config)
    (client : Client F C)
    (texts : List Str)
    (items : List (Value F))
    (numbers : List Int)
    (answered : Answered config client texts items numbers) :
    (∀ result, embedMany config client texts = .ok result →
        OwnVectors texts items numbers result.vectors) ↔
      texts = [] ∨ (∃ item ∈ items, ∀ vector, embeddingOf item ≠ .ok vector) ∨
        numbers.Perm (questionNumbers texts.length) ∧
          sortedAnswers numbers (items.map embeddingOf) = items.map embeddingOf := by
  by_cases none : texts = []
  · refine iff_of_true (fun result returned => ?_) (Or.inl none)
    subst none
    cases returned
    exact ⟨rfl, fun number inside => absurd inside (Nat.not_lt_zero number)⟩
  · have paired : numbers.length = (items.map embeddingOf).length := by
      rw [List.length_map, answered.numbered.length_eq]
    rw [or_iff_right none, ← aligned_iff paired]
    cases read : items.mapM embeddingOf with
    | error fault =>
        refine iff_of_true (fun result returned => ?_) (Or.inl ?_)
        · rw [embedMany_eq_ok_iff none answered, read] at returned
          cases returned.1
        · by_contra complete
          push Not at complete
          obtain ⟨vectors, isRead⟩ := Traversal.exists_mapM_eq_ok complete
          rw [read] at isRead
          cases isRead
    | ok vectors =>
        have mapped := map_embeddingOf read
        have complete : ¬∃ item ∈ items, ∀ vector, embeddingOf item ≠ .ok vector := by
          rintro ⟨item, present, lacks⟩
          have inMapped := List.mem_map_of_mem (f := embeddingOf) present
          rw [mapped] at inMapped
          obtain ⟨vector, _, isVector⟩ := List.mem_map.mp inMapped
          exact lacks vector isVector.symm
        rw [or_iff_right complete]
        constructor
        · intro own
          have returned := own ⟨vectors, config.model, config.dimensions⟩
            ((embedMany_eq_ok_iff none answered _).mpr ⟨read, rfl, rfl⟩)
          unfold OwnVectors at returned
          rw [← mapped] at returned
          exact returned
        · intro own result returned
          obtain ⟨isRead, _⟩ := (embedMany_eq_ok_iff none answered result).mp returned
          unfold OwnVectors
          rw [← map_embeddingOf isRead]
          exact own

/-! ## Items out of order -/

/-- An item with a number and a vector. -/
def sampleItem (number : Int) (vector : List (Value Empty)) : Value Empty :=
  .dict [("index".toList, .int number), ("embedding".toList, .list vector)]

/-- An endpoint that answers with some items in its first attempt. -/
def sampleClient (items : List (Value Empty)) : Client Empty Unit where
  post _ _ := .ok ⟨200, some (.dict [("data".toList, .list items)])⟩
  sleep _ := .ok ()
  randint _ bound := ⟨0, Nat.succ_pos bound⟩

/-- Two texts. -/
def sampleTexts : List Str := ["first".toList, "second".toList]

/-- The items for the two texts in their order. -/
def orderedItems : List (Value Empty) := [sampleItem 0 [.int 1], sampleItem 1 [.int 2]]

/-- The items for the two texts, the second one first. -/
def swappedItems : List (Value Empty) := [sampleItem 1 [.int 2], sampleItem 0 [.int 1]]

theorem answered_orderedItems :
    Answered {} (sampleClient orderedItems) sampleTexts orderedItems [0, 1] :=
  ⟨⟨_, _, rfl, rfl, rfl⟩, .cons rfl (.cons rfl .nil)⟩

theorem answered_swappedItems :
    Answered {} (sampleClient swappedItems) sampleTexts swappedItems [1, 0] :=
  ⟨⟨_, _, rfl, rfl, rfl⟩, .cons rfl (.cons rfl .nil)⟩

/-- Items in their order give each text its vector. -/
theorem embedMany_ownVectors_ordered :
    ∃ result, embedMany {} (sampleClient orderedItems) sampleTexts = .ok result ∧
      OwnVectors sampleTexts orderedItems [0, 1] result.vectors :=
  ⟨_, rfl, (embedMany_ownVectors_iff {} _ _ _ _ answered_orderedItems).mpr
    (Or.inr (Or.inr ⟨List.Perm.refl _, rfl⟩)) _ rfl⟩

/-- Items out of order give each of the two texts the vector of the other one. -/
theorem not_embedMany_ownVectors :
    Answered {} (sampleClient swappedItems) sampleTexts swappedItems [1, 0] ∧
      ∃ result, embedMany {} (sampleClient swappedItems) sampleTexts = .ok result ∧
        ¬OwnVectors sampleTexts swappedItems [1, 0] result.vectors := by
  refine ⟨answered_swappedItems, _, rfl, ?_⟩
  rintro ⟨_, own⟩
  obtain ⟨place, answer, atPlace, _, answerAt, resultAt⟩ := own 0 (by decide)
  cases place with
  | zero => cases atPlace
  | succ place =>
      cases place with
      | zero =>
          cases answerAt
          cases resultAt
      | succ place => cases atPlace

/-! ## What is stored -/

open Ingest in
/-- Where the vectors for the search texts of a document belong to them, the vector that is
stored with a chunk is that of the item with the number of the chunk. -/
theorem stored_of_ownVectors
    {V W : Type}
    {job : Job}
    {services : Services (Value F) V W}
    {document : LoadedDocument}
    {rawChunks : List RawChunk}
    {positioned : RawChunk × Nat}
    {row : ChunkRow V W}
    (isChunk : IsChunkAt job services document rawChunks positioned row)
    (own : OwnVectors (searchTextsOf job services document rawChunks) items numbers
      (services.embedMany document (searchTextsOf job services document rawChunks))) :
    ∃ (place : Nat) (item vector : Value F),
      numbers[place]? = some (row.ordinal : Int) ∧ items[place]? = some item ∧
        embeddingOf item = .ok vector ∧
        services.server.castVector vector = some row.embedding := by
  obtain ⟨vector, atOrdinal, stored⟩ := isChunk.embedding
  obtain ⟨isCount, ownAt⟩ := own
  have inside : positioned.2 < (searchTextsOf job services document rawChunks).length := by
    rw [← isCount, List.length_map]
    exact (List.getElem?_eq_some_iff.mp atOrdinal).1
  obtain ⟨place, answer, atPlace, _, answerAt, resultAt⟩ := ownAt positioned.2 inside
  rw [List.getElem?_map, atOrdinal] at resultAt
  cases resultAt
  rw [List.getElem?_map, Option.map_eq_some_iff] at answerAt
  obtain ⟨item, itemAt, isVector⟩ := answerAt
  exact ⟨place, item, vector, by rw [isChunk.ordinal, atPlace], itemAt, isVector, stored⟩

end OpenAiEmbedding
end ChatPlatform
