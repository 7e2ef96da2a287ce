import ChatPlatform.Retrieval.Reranker

/-!
# The AWS reranker

The request is checked, a client is built, the client is called in a thread and the
response is read. Failures of the call are normalized; building the client is not
covered.
-/

namespace ChatPlatform
namespace Retrieval

/-- A call of the AWS client. -/
structure AwsCall where
  /-- The query. -/
  query : Str
  /-- The documents. -/
  documents : List Str
  /-- The model. -/
  modelArn : Str
  /-- Number of results wanted. -/
  numberOfResults : Int
  deriving DecidableEq

/-- An exception of a call of the client. -/
inductive AwsFault
  /-- `ClientError`, with its code. -/
  | clientError (code : Str)
  /-- `BotoCoreError`. -/
  | botoCoreError
  /-- Any other exception. -/
  | other (name : Str)
  deriving DecidableEq

/-- A client: what a call returns or raises. -/
abbrev AwsClient (F : Type) := AwsCall → Except AwsFault (Value F)

/-- The adapter. -/
structure AwsReranker (F : Type) where
  /-- The region. -/
  region : Str := "ca-central-1".toList
  /-- The model, by name or by ARN. -/
  model : Str := "amazon.rerank-v1:0".toList
  /-- The client given at construction; absent in production. -/
  client : Option (AwsClient F) := none
  /-- What `boto3.client` does: a client, or an exception by class name. -/
  boto3Client : Except Str (AwsClient F)

namespace AwsReranker

/-- Name of the backend. -/
def backend : Str := "aws".toList

/-- Error codes that may be retried. -/
def transientCodes : List Str :=
  ["InternalServerException".toList, "ModelNotReadyException".toList,
    "ServiceQuotaExceededException".toList, "ServiceUnavailableException".toList,
    "ThrottlingException".toList, "TooManyRequestsException".toList]

/-- Normalize an exception of a call. -/
def normalizeAwsError : AwsFault → RerankException
  | .clientError code =>
      let error : RerankerError :=
        ⟨"AWS reranker request failed".toList, backend, some code⟩
      if code ∈ transientCodes then .transient error else .terminal error
  | .botoCoreError =>
      .transient ⟨"AWS reranker transport failed".toList, backend, none⟩
  | .other _ => .terminal ⟨"AWS reranker failed".toList, backend, none⟩

variable {F : Type} [FloatOps F] (aws : AwsReranker F)

/-- The client: the given one or a new one. -/
def buildClient : Except Str (AwsClient F) :=
  match aws.client with
  | some client => .ok client
  | none => aws.boto3Client

/-- The call for a request. -/
def awsCall (request : RerankRequest) (topN : Int) : AwsCall where
  query := request.query
  documents := request.documents
  modelArn :=
    if "arn:".toList.isPrefixOf aws.model then aws.model
    else
      "arn:aws:bedrock:".toList ++ aws.region ++ "::foundation-model/".toList ++
        aws.model
  numberOfResults := topN

/-- The results of a response. -/
def decode (response : Value F) : Except ValueFault (List (RankedDocument F)) :=
  decodeResults "results".toList "index".toList "relevanceScore".toList response

/-- Rerank. -/
def rerank (request : RerankRequest) :
    Except RerankException (List (RankedDocument F)) := do
  let topN ← validateRequest backend none request
  if request.documents = [] then .ok []
  else
    match aws.buildClient with
    | .error name => .error (.other name)
    | .ok client =>
        match client (aws.awsCall request topN) with
        | .error fault => .error (normalizeAwsError fault)
        | .ok response =>
            acceptResults backend "AWS reranker response is invalid".toList
              "AWS reranker returned an invalid document index".toList request
              (decode response)

end AwsReranker
end Retrieval
end ChatPlatform
