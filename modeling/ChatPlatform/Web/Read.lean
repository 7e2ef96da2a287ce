import ChatPlatform.Foundation.UrlParse

/-!
# Reading web pages

The service checks the requested address against its settings, fetches it with a
client that follows redirects, checks the address the response came from, and
extracts a bounded text. The client and the remote side are given by the exchange
they have: the redirects that were followed and how the exchange ended.
-/

namespace ChatPlatform
namespace Web

/-- The settings of the service. -/
structure WebReadSettings where
  /-- Whether the service is on. -/
  enabled : Bool
  /-- Whether addresses without transport security are allowed. -/
  allowHttp : Bool
  /-- The allowed domains. -/
  allowedDomains : List Str
  /-- Validation drops empty entries. -/
  domains_nonempty : [] ∉ allowedDomains
  /-- Most octets read of a body. -/
  maxBytes : Int
  /-- Most characters returned. -/
  maxChars : Int

/-- How reading a page fails. -/
inductive WebReadFault
  | blocked (message : Str)
  | fetch (message : Str)
  /-- An exception of the address parser or of the client, not turned into an
  error of the service. -/
  | raised
  deriving DecidableEq, Repr

/-- What reading a page gives. -/
structure WebReadResult where
  /-- The requested address. -/
  url : Str
  /-- The address the response came from. -/
  finalUrl : Str
  /-- The media type. -/
  contentType : Str
  /-- The title, if there is one. -/
  title : Option Str
  /-- The text. -/
  text : Str
  /-- Whether octets or characters were cut off. -/
  truncated : Bool
  deriving DecidableEq, Repr

/-! ## Extracting the text -/

/-- What the page parser reports. -/
inductive HtmlEvent
  | startTag (tag : Str)
  | endTag (tag : Str)
  | data (text : Str)
  deriving DecidableEq, Repr

/-- What the service takes from the standard library. -/
structure Tools extends UrlParse.Tables where
  /-- Decode octets, with replacement of what is malformed. -/
  decode : List UInt8 → Str
  /-- Decode character references. -/
  unescape : Str → Str
  /-- What the page parser reports while it is fed a text. -/
  feed : Str → List HtmlEvent

/-- The state of the text extractor. -/
structure HtmlTextExtractor where
  /-- The texts found. -/
  parts : List Str
  /-- The texts found in a title. -/
  titleParts : List Str
  /-- How many elements without visible text are open. -/
  skipDepth : Nat
  /-- Whether a title is open. -/
  inTitle : Bool
  deriving DecidableEq, Repr

namespace HtmlTextExtractor

/-- The extractor before the first event. -/
def init : HtmlTextExtractor := ⟨[], [], 0, false⟩

/-- Whether an element has no visible text. -/
def isSkipped (lowered : Str) : Bool :=
  lowered == ['s', 'c', 'r', 'i', 'p', 't'] || lowered == ['s', 't', 'y', 'l', 'e']

/-- Whether an element is the title. -/
def isTitle (lowered : Str) : Bool := lowered == ['t', 'i', 't', 'l', 'e']

/-- Take one event of the parser. -/
def handle
    (lower : Str → Str)
    (state : HtmlTextExtractor) : HtmlEvent → HtmlTextExtractor
  | .startTag tag =>
      { state with
        skipDepth := state.skipDepth + if isSkipped (lower tag) then 1 else 0
        inTitle := state.inTitle || isTitle (lower tag) }
  | .endTag tag =>
      { state with
        skipDepth := state.skipDepth - if isSkipped (lower tag) then 1 else 0
        inTitle := state.inTitle && !isTitle (lower tag) }
  | .data text =>
      let value := Text.join [' '] (Text.words text)
      if 0 < state.skipDepth ∨ value = [] then state
      else
        { state with
          parts := state.parts ++ [value]
          titleParts := state.titleParts ++ if state.inTitle then [value] else [] }

/-- The text found. -/
def text (state : HtmlTextExtractor) : Str :=
  Text.strip (Text.join [' '] state.parts)

/-- The title found. -/
def title (state : HtmlTextExtractor) : Option Str :=
  let title := Text.strip (Text.join [' '] state.titleParts)
  if title = [] then none else some title

end HtmlTextExtractor

/-- The media type of plain text. -/
def textPlain : Str := "text/plain".toList

/-- The media type of a page. -/
def textHtml : Str := "text/html".toList

/-- Title and text of a body. -/
def extractText
    (tools : Tools)
    (content : List UInt8)
    (contentType : Str) : Option Str × Str :=
  let text := tools.decode content
  if contentType = textPlain then
    (none, Text.join [' '] (Text.words (tools.unescape text)))
  else
    let parser := (tools.feed text).foldl (HtmlTextExtractor.handle tools.lower)
      HtmlTextExtractor.init
    (parser.title, tools.unescape parser.text)

/-! ## Checking addresses -/

/-- A host is allowed when it is an allowed domain or lies under one. -/
def isAllowedHost (settings : WebReadSettings) (host : Str) : Bool :=
  settings.allowedDomains.any fun domain =>
    host == domain || ('.' :: domain).isSuffixOf host

/-- The scheme without transport security. -/
def http : Str := ['h', 't', 't', 'p']

/-- The scheme with transport security. -/
def https : Str := ['h', 't', 't', 'p', 's']

/-- Check an address against the settings. -/
def validateUrl
    (tables : UrlParse.Tables)
    (settings : WebReadSettings)
    (url : Str) : Except WebReadFault Unit :=
  match UrlParse.urlparse tables url with
  | none => .error .raised
  | some parsed =>
      let scheme := tables.lower parsed.scheme
      let host := tables.lower (parsed.hostname tables)
      if scheme ≠ http ∧ scheme ≠ https then
        .error (.blocked "only http and https URLs are allowed".toList)
      else if scheme = http ∧ settings.allowHttp = false then
        .error (.blocked "only https is allowed".toList)
      else if host = [] then .error (.blocked "host is required".toList)
      else if isAllowedHost settings host = false then
        .error (.blocked "domain is not allowed".toList)
      else .ok ()

/-! ## Fetching -/

/-- A response that is not a redirect. -/
structure Reply where
  /-- The status. -/
  status : Nat
  /-- The header that names the media type, empty when it is missing. -/
  contentType : Str
  /-- The octets in the order in which they arrive. -/
  chunks : List (List UInt8)
  /-- The error that ends the body, if one does. -/
  broken : Option Str

/-- What comes of a request. A redirect that the client does not follow is a
failure. -/
inductive Exchange
  | redirect (target : Str) (next : Exchange)
  | reply (reply : Reply)
  | failure (message : Str)

/-- The redirect targets that are followed. -/
def Exchange.targets : Exchange → List Str
  | .redirect target next => target :: next.targets
  | .reply _ | .failure _ => []

/-- What the service takes from the client. -/
structure HttpClient where
  /-- Whether an address can be requested at all. -/
  accepts : Str → Bool
  /-- What the client says of an address that it cannot request, such as one of another
  protocol; nothing when it is no address to the client, which raises another exception. -/
  refusal : Str → Option Str
  /-- The address of a response as text, from the address requested. -/
  responseUrl : Str → Str

/-- Send a request and follow redirects: the addresses to which requests go, and
the address and response at the end, or the error of the client. -/
def follow (url : Str) : Exchange → List Str × Except Str (Str × Reply)
  | .redirect target next => (url :: (follow target next).1, (follow target next).2)
  | .reply reply => ([url], .ok (url, reply))
  | .failure message => ([url], .error message)

/-- The loop over the body: its octets up to the bound, and whether some were cut
off. -/
def readChunks
    (maxBytes : Int)
    (content : List UInt8) : List (List UInt8) → List UInt8 × Bool
  | [] => (content, false)
  | chunk :: rest =>
      let remaining := maxBytes - content.length
      if remaining ≤ 0 then (content, true)
      else if remaining < chunk.length then
        (content ++ chunk.take remaining.toNat, true)
      else readChunks maxBytes (content ++ chunk) rest

/-- Read a response: its octets, its media type and whether octets were cut
off. -/
def readReply
    (tools : Tools)
    (settings : WebReadSettings)
    (reply : Reply) : Except WebReadFault (List UInt8 × Str × Bool) :=
  if reply.status < 200 ∨ 300 ≤ reply.status then
    .error (.fetch ("upstream returned ".toList ++ (toString reply.status).toList))
  else
    let contentType := tools.lower
      (Text.strip (UrlParse.before ';' reply.contentType))
    let read := readChunks settings.maxBytes [] reply.chunks
    match read.2, reply.broken with
    | false, some message => .error (.fetch message)
    | truncated, _ => .ok (read.1, contentType, truncated)

/-- Fetch an address: the addresses to which requests go, and what was read. -/
def fetch
    (tools : Tools)
    (client : HttpClient)
    (settings : WebReadSettings)
    (url : Str)
    (exchange : Exchange) :
    List Str × Except WebReadFault (List UInt8 × Str × Str × Bool) :=
  if client.accepts url = false then
    match client.refusal url with
    | some message => ([], .error (.fetch message))
    | none => ([], .error .raised)
  else
    let followed := follow url exchange
    (followed.1,
      match followed.2 with
      | .error message => .error (.fetch message)
      | .ok (last, reply) =>
          (readReply tools settings reply).map fun read =>
            (read.1, client.responseUrl last, read.2.1, read.2.2))

/-- Check and cut what was fetched. -/
def present
    (tools : Tools)
    (settings : WebReadSettings)
    (url : Str)
    (content : List UInt8)
    (finalUrl contentType : Str)
    (truncated : Bool) : Except WebReadFault WebReadResult := do
  validateUrl tools.toTables settings finalUrl
  if contentType ≠ textHtml ∧ contentType ≠ textPlain then
    .error (.blocked "unsupported content type".toList)
  else
    let extracted := extractText tools content contentType
    .ok
      { url
        finalUrl
        contentType
        title := extracted.1
        text := Text.sliceTo extracted.2 settings.maxChars
        truncated := truncated ||
          settings.maxChars < (extracted.2.length : Int) }

/-- Read a page: the addresses to which requests go, and the result. -/
def readUrl
    (tools : Tools)
    (client : HttpClient)
    (settings : WebReadSettings)
    (url : Str)
    (exchange : Exchange) : List Str × Except WebReadFault WebReadResult :=
  if settings.enabled = false then
    ([], .error (.blocked "web read is disabled".toList))
  else
    match validateUrl tools.toTables settings url with
    | .error fault => ([], .error fault)
    | .ok () =>
        let fetched := fetch tools client settings url exchange
        (fetched.1,
          fetched.2.bind fun read =>
            present tools settings url read.1 read.2.1 read.2.2.1 read.2.2.2)

end Web
end ChatPlatform
