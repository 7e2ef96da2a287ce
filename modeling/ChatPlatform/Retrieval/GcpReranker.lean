import ChatPlatform.Retrieval.Reranker

/-!
# The GCP reranker

An access token is obtained from the application-default credentials, the ranking
service is called over HTTP and its response is read. Exceptions the code does not
name pass through.
-/

namespace ChatPlatform
namespace Retrieval

/-- Why a body could not be read as JSON. -/
inductive BodyFault
  /-- A `ValueError`. -/
  | notJson
  /-- Any other exception. -/
  | other (name : Str)
  deriving DecidableEq

/-- A response of an HTTP request. -/
structure HttpResponse (F : Type) where
  /-- The status. -/
  statusCode : Int
  /-- The body read as JSON. -/
  json : Except BodyFault (Value F)

/-- Why a request got no response. -/
inductive PostFault
  /-- `httpx.RequestError`. -/
  | requestError
  /-- Any other exception. -/
  | other (name : Str)
  deriving DecidableEq

/-- A request and the closing of the client that was made for it. -/
structure HttpExchange (F : Type) where
  /-- The response, or why there is none. -/
  response : Except PostFault (HttpResponse F)
  /-- The exception closing the client raises, if any. -/
  closing : Option Str := none

/-- Why the credentials could not be read. -/
inductive CredentialsFault
  /-- `OSError` or `JSONDecodeError`. -/
  | unavailable
  /-- Any other exception. -/
  | other (name : Str)
  deriving DecidableEq

/-- What the token provider meets. -/
structure AdcAccessTokenProvider (F : Type) where
  /-- A token of an earlier call that is still valid. -/
  cachedToken : Option Str := none
  /-- The credentials file. -/
  credentials : Except CredentialsFault (Value F)
  /-- The token exchange. -/
  exchange : Dict F → HttpExchange F

/-- A call of the ranking service; the URL and the headers are made of the project,
the location and the token. -/
structure GcpCall (F : Type) where
  /-- The project. -/
  project : Str
  /-- The location. -/
  location : Str
  /-- The access token. -/
  token : Str
  /-- The payload. -/
  payload : Dict F

/-- The adapter. -/
structure GcpReranker (F : Type) where
  /-- The project; empty when none is configured. -/
  projectId : Str
  /-- The location. -/
  location : Str := "global".toList
  /-- The model. -/
  model : Str := "semantic-ranker-default-004".toList
  /-- The token provider. -/
  accessTokenProvider : AdcAccessTokenProvider F
  /-- The ranking service. -/
  post : GcpCall F → HttpExchange F

namespace GcpReranker

/-- Name of the backend. -/
def backend : Str := "gcp".toList

variable {F : Type}

/-- Run a request: a request error becomes transient, and closing the client comes
last. -/
def finishExchange
    (transportFailed : Str)
    (exchange : HttpExchange F) : Except RerankException (HttpResponse F) :=
  match exchange.closing with
  | some name => .error (.other name)
  | none =>
      match exchange.response with
      | .ok response => .ok response
      | .error .requestError => .error (.transient ⟨transportFailed, backend, none⟩)
      | .error (.other name) => .error (.other name)

/-- Refuse a status that reports a failure. -/
def checkStatus
    (unavailable rejected : Str)
    (statusCode : Int) : Except RerankException Unit :=
  let code := some (Numeral.decimal statusCode)
  if 500 ≤ statusCode ∨ statusCode = 429 then
    .error (.transient ⟨unavailable, backend, code⟩)
  else if 400 ≤ statusCode then .error (.terminal ⟨rejected, backend, code⟩)
  else .ok ()

variable [FloatOps F] (shown : Value F → Str)

/-- The token of a response with its lifetime. -/
def tokenOfBody (body : Value F) : Except ValueFault (Str × Int) := do
  let token ← body.getItem "access_token".toList
  let expires ← body.getAttribute "expires_in".toList
  let expiresIn ← (expires.getD (.int 3600)).asInt
  .ok (token.asText shown, expiresIn)

/-- Obtain an access token. -/
def accessToken (provider : AdcAccessTokenProvider F) :
    Except RerankException Str :=
  match provider.cachedToken with
  | some token => .ok token
  | none =>
      match provider.credentials with
      | .error .unavailable =>
          .error (.terminal
            ⟨"GCP ADC credentials are unavailable".toList, backend, none⟩)
      | .error (.other name) => .error (.other name)
      | .ok (.dict credentials) =>
          if !((Dict.get credentials "type".toList).getD .none).equal
              (.str "authorized_user".toList) then
            .error (.terminal
              ⟨"GCP ADC must use host-level authorized-user credentials".toList,
                backend, none⟩)
          else if ["client_id", "client_secret", "refresh_token"].any fun name =>
              !((Dict.get credentials name.toList).getD .none).truthy then
            .error (.terminal
              ⟨"GCP ADC credentials are incomplete".toList, backend, none⟩)
          else do
            let response ← finishExchange "GCP ADC token exchange failed".toList
              (provider.exchange credentials)
            checkStatus "GCP ADC token service is unavailable".toList
              "GCP ADC token exchange was rejected".toList response.statusCode
            match response.json with
            | .error (.other name) => .error (.other name)
            | .error .notJson =>
                .error (.terminal
                  ⟨"GCP ADC token response is invalid".toList, backend, none⟩)
            | .ok body =>
                match tokenOfBody shown body with
                | .error .keyError | .error .typeError | .error .valueError =>
                    .error (.terminal
                      ⟨"GCP ADC token response is invalid".toList, backend, none⟩)
                | .error fault => .error (.other (faultName fault))
                | .ok (token, expiresIn) =>
                    match FloatOps.ofInt (F := F) expiresIn with
                    | none => .error (.other (faultName .overflowError))
                    | some _ => .ok token
      | .ok _ => .error (.other (faultName .attributeError))

/-- The payload of a request. -/
def payload (gcp : GcpReranker F) (request : RerankRequest) (topN : Int) : Dict F :=
  [("model".toList, .str gcp.model),
    ("query".toList, .str request.query),
    ("records".toList, .list (request.documents.mapIdx fun index document =>
      .dict [("id".toList, .str (Numeral.decimal index)),
        ("content".toList, .str document)])),
    ("topN".toList, .int topN),
    ("ignoreRecordDetailsInResponse".toList, .bool true)]

/-- The results of a response. -/
def decode (response : Value F) : Except ValueFault (List (RankedDocument F)) :=
  decodeResults "records".toList "id".toList "score".toList response

/-- Rerank. -/
def rerank (gcp : GcpReranker F) (request : RerankRequest) :
    Except RerankException (List (RankedDocument F)) := do
  let topN ← validateRequest backend (some 200) request
  if request.documents = [] then .ok []
  else if gcp.projectId = [] then
    .error (.terminal ⟨"GCP project is required".toList, backend, none⟩)
  else do
    let token ← accessToken shown gcp.accessTokenProvider
    let response ← finishExchange "GCP reranker transport failed".toList
      (gcp.post ⟨gcp.projectId, gcp.location, token, payload gcp request topN⟩)
    checkStatus "GCP reranker is temporarily unavailable".toList
      "GCP reranker request was rejected".toList response.statusCode
    match response.json with
    | .error (.other name) => .error (.other name)
    | .error .notJson =>
        .error (.terminal ⟨"GCP reranker response is invalid".toList, backend, none⟩)
    | .ok body =>
        acceptResults backend "GCP reranker response is invalid".toList
          "GCP reranker returned an invalid document index".toList request
          (decode body)

end GcpReranker
end Retrieval
end ChatPlatform
