import GridRules.Assoc
import GridRules.Text.Lowercase
/-!
Headers of requests. Those that carry credentials are masked wherever they are shown. They are
told by their names: as a whole, or by a word in them, so that `X-Author` and `Monkey` are no
credentials.
-/

namespace GridRules

/-- What is shown instead of a credential. -/
def redactedText : String := "<redacted>"

def credentialHeaders : List String :=
  ["authorization", "proxy-authorization", "cookie", "x-api-key", "api-key", "x-auth-token",
    "x-access-token"]

def credentialWords : List String :=
  ["auth", "apikey", "key", "secret", "token", "password", "credential"]

def isLowerAlphanumeric (c : Char) : Bool :=
  c.isDigit || ('a' ≤ c && c ≤ 'z')

/-- The runs of characters that `p` accepts. -/
def runsOf (p : Char → Bool) (cs : List Char) : List (List Char) :=
  (cs.foldr (fun c (runs : List (List Char)) =>
    if p c then
      match runs with
      | run :: rest => (c :: run) :: rest
      | [] => [[c]]
    else [] :: runs) [[]]).filter fun run => !run.isEmpty

/-- Whether a header is likely to carry a credential. -/
def isCredentialHeader (name : String) : Bool :=
  let lower := lowerText name
  credentialHeaders.contains lower ||
    (runsOf isLowerAlphanumeric lower.toList).any fun word =>
      credentialWords.contains (String.ofList word)

/-- Headers as they may be shown. -/
def redactHeaders (headers : Assoc String) : Assoc String :=
  headers.map fun header =>
    (header.1, if isCredentialHeader header.1 then redactedText else header.2)

/-- Whether there is a header of a name that is written in lower case. -/
def hasHeader (headers : Assoc String) (name : String) : Bool :=
  headers.any fun header => lowerText header.1 == name

/-- The headers that are sent for a client with a name of its own. -/
def withUserAgent (userAgent : String) (headers : Assoc String) : Assoc String :=
  if userAgent = "" || hasHeader headers "user-agent" then headers
  else headers.put "User-Agent" userAgent

end GridRules
