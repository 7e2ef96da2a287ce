import ChatPlatform.Web.Read

/-!
# Which hosts a page read contacts

A refused address causes no request. The addresses checked are the first one and
the one at the end; the client sends a request to every redirect target before the
service sees where the exchange ended. All hosts contacted are allowed exactly when
the remote side names allowed targets only.
-/

namespace ChatPlatform
namespace Web

/-- A request to the address goes to an allowed host by an allowed scheme. -/
structure Permitted
    (tables : UrlParse.Tables)
    (settings : WebReadSettings)
    (url : Str)
    (parsed : UrlParse.ParsedUrl) : Prop where
  /-- The parts of the address. -/
  parts : UrlParse.urlparse tables url = some parsed
  /-- The scheme is allowed. -/
  scheme : tables.lower parsed.scheme = https ∨
    tables.lower parsed.scheme = http ∧ settings.allowHttp = true
  /-- The host is allowed. -/
  host : isAllowedHost settings (tables.lower (parsed.hostname tables)) = true

/-- The service refuses to read an address. -/
def Refused
    (tables : UrlParse.Tables)
    (settings : WebReadSettings)
    (url : Str) : Prop :=
  settings.enabled = false ∨ validateUrl tables settings url ≠ .ok ()

/-- All requests go to allowed hosts by allowed schemes, and there is none for a
refused address. -/
structure Contained
    (tables : UrlParse.Tables)
    (settings : WebReadSettings)
    (url : Str)
    (requests : List Str) : Prop where
  /-- Every request is permitted. -/
  permitted : ∀ request ∈ requests, ∃ parsed, Permitted tables settings request parsed
  /-- A refused address causes no request. -/
  silent : Refused tables settings url → requests = []

/-- An allowed host has a name, since allowed domains do. -/
theorem ne_nil_of_isAllowedHost
    {settings : WebReadSettings}
    {host : Str}
    (allowed : isAllowedHost settings host = true) : host ≠ [] := by
  rintro rfl
  obtain ⟨domain, listed, matching⟩ := List.any_eq_true.mp allowed
  rw [Bool.or_eq_true] at matching
  rcases matching with same | below
  · apply settings.domains_nonempty
    rwa [eq_of_beq same]
  · have suffix := List.isSuffixOf_iff_suffix.mp below
    exact absurd (List.suffix_nil.mp suffix) (List.cons_ne_nil _ _)

/-- The check of an address lets exactly the permitted requests pass. -/
theorem validateUrl_eq_ok_iff
    (tables : UrlParse.Tables)
    (settings : WebReadSettings)
    (url : Str) :
    validateUrl tables settings url = .ok () ↔
      ∃ parsed, Permitted tables settings url parsed := by
  unfold validateUrl
  cases parts : UrlParse.urlparse tables url with
  | none =>
      constructor
      · intro passed
        cases passed
      · rintro ⟨parsed, permitted⟩
        rw [permitted.parts] at parts
        cases parts
  | some parsed =>
      dsimp only
      constructor
      · intro passed
        split at passed
        · cases passed
        · rename_i knownScheme
          split at passed
          · cases passed
          · rename_i secure
            split at passed
            · cases passed
            · split at passed
              · cases passed
              · rename_i allowed
                refine ⟨parsed, parts, ?_, by simpa using allowed⟩
                by_cases isHttps : tables.lower parsed.scheme = https
                · exact Or.inl isHttps
                · have isHttp : tables.lower parsed.scheme = http := by
                    by_contra notHttp
                    exact knownScheme ⟨notHttp, isHttps⟩
                  refine Or.inr ⟨isHttp, ?_⟩
                  by_contra notAllowed
                  exact secure ⟨isHttp, by simpa using notAllowed⟩
      · rintro ⟨other, permitted⟩
        rw [permitted.parts] at parts
        cases parts
        have different : https ≠ http := by decide
        have knownScheme : ¬(tables.lower parsed.scheme ≠ http ∧
            tables.lower parsed.scheme ≠ https) := by
          rintro ⟨notHttp, notHttps⟩
          rcases permitted.scheme with isHttps | ⟨isHttp, _⟩
          · exact notHttps isHttps
          · exact notHttp isHttp
        have secure : ¬(tables.lower parsed.scheme = http ∧
            settings.allowHttp = false) := by
          rintro ⟨isHttp, notAllowed⟩
          rcases permitted.scheme with isHttps | ⟨_, allowed⟩
          · exact different (isHttps.symm.trans isHttp)
          · rw [allowed] at notAllowed
            cases notAllowed
        rw [if_neg knownScheme, if_neg secure,
          if_neg (ne_nil_of_isAllowedHost permitted.host), permitted.host,
          if_neg Bool.noConfusion]

/-- A request is sent to the first address and to every target followed. -/
theorem follow_requests (url : Str) (exchange : Exchange) :
    (follow url exchange).1 = url :: exchange.targets := by
  induction exchange generalizing url with
  | redirect target next inductionHypothesis =>
      unfold follow Exchange.targets
      rw [inductionHypothesis]
  | reply reply => rfl
  | failure message => rfl

/-- The requests of a page read: none for a refused address. -/
theorem readUrl_requests_of_refused
    {tools : Tools}
    {settings : WebReadSettings}
    {url : Str}
    (client : HttpClient)
    (exchange : Exchange)
    (refused : Refused tools.toTables settings url) :
    (readUrl tools client settings url exchange).1 = [] := by
  unfold readUrl
  split
  · rfl
  · rename_i enabled
    rcases refused with disabled | invalid
    · exact absurd disabled enabled
    · cases outcome : validateUrl tools.toTables settings url with
      | error fault => rfl
      | ok => exact absurd outcome invalid

/-- The requests of a page read: the first address and every target followed. -/
theorem readUrl_requests_of_accepted
    {tools : Tools}
    {client : HttpClient}
    {settings : WebReadSettings}
    {url : Str}
    (exchange : Exchange)
    (accepted : ¬Refused tools.toTables settings url)
    (requestable : client.accepts url = true) :
    (readUrl tools client settings url exchange).1 = url :: exchange.targets := by
  unfold Refused at accepted
  push Not at accepted
  unfold readUrl fetch
  rw [if_neg accepted.1, accepted.2]
  dsimp only
  rw [requestable, if_neg Bool.noConfusion]
  exact follow_requests url exchange

/-- For every address, every settings and every exchange with the remote side: only
allowed hosts are contacted, and none for a refused address, exactly when no request
is sent at all or every redirect target passes the check of the first address. -/
theorem contained_iff
    (tools : Tools)
    (client : HttpClient)
    (settings : WebReadSettings)
    (url : Str)
    (exchange : Exchange) :
    Contained tools.toTables settings url
        (readUrl tools client settings url exchange).1 ↔
      settings.enabled = false ∨
        validateUrl tools.toTables settings url ≠ .ok () ∨
        client.accepts url = false ∨
        ∀ target ∈ exchange.targets,
          validateUrl tools.toTables settings target = .ok () := by
  by_cases refused : Refused tools.toTables settings url
  · rw [readUrl_requests_of_refused client exchange refused]
    constructor
    · intro _
      rcases refused with disabled | invalid
      · exact Or.inl disabled
      · exact Or.inr (Or.inl invalid)
    · intro _
      exact ⟨fun request held => absurd held List.not_mem_nil, fun _ => rfl⟩
  · have accepted := refused
    unfold Refused at accepted
    push Not at accepted
    cases requestable : client.accepts url with
    | false =>
        have noRequests : (readUrl tools client settings url exchange).1 = [] := by
          unfold readUrl fetch
          rw [if_neg accepted.1, accepted.2]
          dsimp only
          rw [if_pos requestable]
          cases client.refusal url <;> rfl
        rw [noRequests]
        constructor
        · intro _
          exact Or.inr (Or.inr (Or.inl rfl))
        · intro _
          exact ⟨fun request held => absurd held List.not_mem_nil, fun _ => rfl⟩
    | true =>
        rw [readUrl_requests_of_accepted exchange refused requestable]
        constructor
        · intro contained
          refine Or.inr (Or.inr (Or.inr ?_))
          intro target followed
          apply (validateUrl_eq_ok_iff _ _ _).mpr
          exact contained.permitted target (List.mem_cons_of_mem _ followed)
        · rintro (disabled | invalid | notRequestable | allowed)
          · exact absurd disabled accepted.1
          · exact absurd accepted.2 invalid
          · cases notRequestable
          · refine ⟨?_, fun isRefused => absurd isRefused refused⟩
            intro request sent
            apply (validateUrl_eq_ok_iff _ _ _).mp
            rcases List.mem_cons.mp sent with rfl | followed
            · exact accepted.2
            · exact allowed request followed

/-! ## A detour over another host -/

/-- Tools for plain ASCII texts. -/
def plainTools : Tools where
  lower := Text.lower
  rejectsNetloc := fun _ => false
  decode := fun octets => octets.map fun octet => Char.ofNat octet.toNat
  unescape := id
  feed := fun text => [.data text]

/-- A client that requests every address and reports it unchanged. -/
def plainClient : HttpClient where
  accepts := fun _ => true
  refusal := fun _ => none
  responseUrl := id

/-- Settings that allow one domain. -/
def oneDomain : WebReadSettings where
  enabled := true
  allowHttp := false
  allowedDomains := [['a', '.', 'b']]
  domains_nonempty := by decide
  maxBytes := 1024
  maxChars := 200

/-- An address under the allowed domain. -/
def allowedUrl : Str := https ++ [':', '/', '/', 'a', '.', 'b', '/']

/-- An address elsewhere. -/
def foreignUrl : Str := https ++ [':', '/', '/', 'e', '.', 'f', '/']

/-- A redirect to another host and back. -/
def detour : Exchange :=
  .redirect foreignUrl (.redirect allowedUrl (.reply ⟨200, textPlain, [], none⟩))

/-- The read that is redirected to another host and back succeeds, and has
contacted that host. -/
theorem detour_not_contained :
    (readUrl plainTools plainClient oneDomain allowedUrl detour).2.isOk = true ∧
      foreignUrl ∈ (readUrl plainTools plainClient oneDomain allowedUrl detour).1 ∧
      ¬Contained plainTools.toTables oneDomain allowedUrl
        (readUrl plainTools plainClient oneDomain allowedUrl detour).1 := by
  have contacted : foreignUrl ∈
      (readUrl plainTools plainClient oneDomain allowedUrl detour).1 := by
    decide
  refine ⟨by decide, contacted, ?_⟩
  intro contained
  obtain ⟨parsed, permitted⟩ := contained.permitted foreignUrl contacted
  have passed := (validateUrl_eq_ok_iff plainTools.toTables oneDomain foreignUrl).mpr
    ⟨parsed, permitted⟩
  exact absurd passed (by decide)

end Web
end ChatPlatform
