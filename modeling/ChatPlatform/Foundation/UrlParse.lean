import ChatPlatform.Foundation.Text

/-!
# Splitting addresses

Scheme, authority and host name of an address, as the standard library of the
modelled language reads them. What depends on the character tables of the
language is given: the lower case of a string, and whether the parser rejects an
authority (a bracketed host that is no IP address, or a character that normalizes
to a separator).
-/

namespace ChatPlatform
namespace UrlParse

/-- What the parser takes from the character tables of the language. -/
structure Tables where
  /-- The lower case of a string. -/
  lower : Str → Str
  /-- Whether an authority is rejected for its characters. -/
  rejectsNetloc : Str → Bool

/-- The parts of an address that are read here. -/
structure ParsedUrl where
  /-- The scheme, in lower case. -/
  scheme : Str
  /-- User information, host and port. -/
  netloc : Str
  deriving DecidableEq, Repr

/-- A letter of the ASCII alphabet. -/
def isLetter (c : Char) : Bool :=
  ('a' ≤ c && c ≤ 'z') || ('A' ≤ c && c ≤ 'Z')

/-- Characters that a scheme may hold. -/
def isSchemeChar (c : Char) : Bool :=
  isLetter c || ('0' ≤ c && c ≤ '9') || c == '+' || c == '-' || c == '.'

/-- Control characters and the space, removed at the front. -/
def isControlOrSpace (c : Char) : Bool := c.toNat ≤ 0x20

/-- Characters removed wherever they stand. -/
def isUnsafe (c : Char) : Bool := c == '\t' || c == '\r' || c == '\n'

/-- The string before the first occurrence of a character. -/
def before (separator : Char) (s : Str) : Str := s.takeWhile (· ≠ separator)

/-- The string after the first occurrence of a character. -/
def after (separator : Char) (s : Str) : Str :=
  (s.dropWhile (· ≠ separator)).drop 1

/-- The string after the last occurrence of a character. -/
def afterLast (separator : Char) (s : Str) : Str :=
  (s.reverse.takeWhile (· ≠ separator)).reverse

/-- Whether the part before the first colon is a scheme. -/
def hasScheme (url : Str) : Bool :=
  ':' ∈ url && (url.head?.any isLetter) && (before ':' url).all isSchemeChar

/-- Split an address; `none` stands for the error raised on a malformed
authority. -/
def urlparse (tables : Tables) (url : Str) : Option ParsedUrl :=
  let cleaned := (url.dropWhile isControlOrSpace).filter (!isUnsafe ·)
  let scheme := if hasScheme cleaned then tables.lower (before ':' cleaned) else []
  let rest := if hasScheme cleaned then after ':' cleaned else cleaned
  let netloc :=
    if ['/', '/'].isPrefixOf rest then
      (rest.drop 2).takeWhile fun c => !(c == '/' || c == '?' || c == '#')
    else []
  if ('[' ∈ netloc) ≠ (']' ∈ netloc) ∨ tables.rejectsNetloc netloc = true then none
  else some ⟨scheme, netloc⟩

/-- The host name, without user information, brackets and port; empty when there
is none. -/
def ParsedUrl.hostname (tables : Tables) (parsed : ParsedUrl) : Str :=
  let hostinfo := afterLast '@' parsed.netloc
  let name :=
    if '[' ∈ hostinfo then before ']' (after '[' hostinfo)
    else before ':' hostinfo
  tables.lower (before '%' name) ++ name.dropWhile (· ≠ '%')

end UrlParse
end ChatPlatform
