import GridRules.Url.Host
/-!
URLs in normal form: the host in lower case, no port that the scheme implies, no dots in the path,
and escapes for what cannot stand by itself.
-/

namespace GridRules

structure Url where
  scheme : List Char
  userInfo : List Char
  host : List Char
  port : Option Int
  path : List Char
  query : Option (List Char)
  fragment : Option (List Char)
  deriving DecidableEq

namespace Url

def maxLength : Nat := 65536

/-- The default port of a scheme. -/
def defaultPort? (scheme : List Char) : Option Int :=
  let ports : List (String × Int) :=
    [("ftp", 21), ("http", 80), ("https", 443), ("ws", 80), ("wss", 443)]
  ports.lookup (String.ofList scheme)

/-- Printable ASCII apart from some marks. -/
def isSafeBut (marks : String) (c : Char) : Bool :=
  0x20 ≤ c.toNat && c.toNat < 0x7F && !marks.toList.contains c

def isFragmentSafe : Char → Bool := isSafeBut " \"<>`"

def isQuerySafe : Char → Bool := isSafeBut " \"#<>"

def isPathSafe : Char → Bool := isSafeBut " \"#<>?`\x7b\x7d"

def isUserInfoSafe : Char → Bool := isSafeBut " \"#<>?`\x7b\x7d/;=@[\\]^|"

/-- Drops single dots from a path, and double dots together with the piece before them. -/
def dropDots (path : List Char) : List Char :=
  let pieces := splitAt '/' path
  if !pieces.contains ['.'] && !pieces.contains ['.', '.'] then path
  else
    joinWith '/' (pieces.foldl (fun kept piece =>
      if piece == ['.'] then kept
      else if piece == ['.', '.'] then if kept == [[]] then kept else kept.dropLast
      else kept ++ [piece]) [])

/-- A port; an empty one and the default port of the scheme are no port. The outer option is empty
if the text is no number. -/
def readPort (scheme port : List Char) : Option (Option Int) :=
  if port.isEmpty then some none
  else (Numeral.integer? (String.ofList port)).map fun n =>
    if some n == defaultPort? scheme then none else some n

/-- User information, host and port of an authority. -/
def splitAuthority (authority : List Char) : List Char × List Char × List Char :=
  let behind := (authority.reverse.takeWhile (· != '@')).reverse
  let userInfo := (authority.take (authority.length - behind.length)).dropLast
  let host :=
    if behind.head? == some '[' && behind.contains ']' then
      (behind.reverse.dropWhile (· != ']')).reverse
    else behind.takeWhile (· != ':')
  let port := behind.drop host.length
  (userInfo, host, if port.head? == some ':' then port.tail else port)

/-- Whether a path fits what stands before it. -/
def pathFits (hasScheme hasAuthority : Bool) (path : List Char) : Bool :=
  if hasAuthority then path.isEmpty || path.head? == some '/'
  else hasScheme || !("//".toList.isPrefixOf path || path.head? == some ':')

/-- The normal form of the parts of a URL, if they make one. -/
def ofParts (scheme authority path : List Char) (query fragment : Option (List Char)) :
    Option Url := do
  let (userInfo, host, port) := splitAuthority authority
  let lowerScheme := scheme.map Char.toLower
  let userInfo := escape isUserInfoSafe userInfo
  let host ← encodeHost host
  let port ← readPort scheme port
  let hasScheme := !scheme.isEmpty
  let hasAuthority := !userInfo.isEmpty || !host.isEmpty || port.isSome
  if !pathFits hasScheme hasAuthority path then none
  let path := if hasScheme || hasAuthority then dropDots path else path
  return {
    scheme := lowerScheme
    userInfo := userInfo
    host := host
    port := port
    path := escape isPathSafe path
    query := query.map (escape isQuerySafe)
    fragment := fragment.map (escape isFragmentSafe) }

def isControl (c : Char) : Bool :=
  c.toNat < 0x20 || c.toNat == 0x7F

/-- The scheme in front of a colon, and what follows. -/
def cutScheme (cs : List Char) : List Char × List Char :=
  match cutAt (· == ':') cs with
  | ([], some behind) => ([], behind)
  | (c :: rest, some behind) =>
    if c.isAlpha && rest.all fun d => d.isAlphanum || d == '+' || d == '-' || d == '.' then
      (c :: rest, behind)
    else ([], cs)
  | (_, none) => ([], cs)

/-- Reads a URL; there is none if it is too long, has control characters in it, or has an address
or port that is none. -/
def parse? (cs : List Char) : Option Url :=
  if maxLength < cs.length || cs.any isControl then none
  else
    let (scheme, rest) := cutScheme cs
    let (authority, rest) :=
      match rest with
      | '/' :: '/' :: rest =>
        let authority := rest.takeWhile fun c => c != '/' && c != '?' && c != '#'
        (authority, rest.drop authority.length)
      | rest => ([], rest)
    let (rest, fragment) := cutAt (· == '#') rest
    let (path, query) := cutAt (· == '?') rest
    ofParts scheme authority path query fragment

def portText (port : Option Int) : List Char :=
  match port with
  | some n => ':' :: (toString n).toList
  | none => []

def authority (url : Url) : List Char :=
  (if url.userInfo.isEmpty then [] else url.userInfo ++ ['@']) ++
    (if url.host.contains ':' then '[' :: url.host ++ [']'] else url.host) ++ portText url.port

def text (url : Url) : String :=
  String.ofList (
    (if url.scheme.isEmpty then [] else url.scheme ++ [':']) ++
    (if url.authority.isEmpty then [] else '/' :: '/' :: url.authority) ++ url.path ++
    (match url.query with | some query => '?' :: query | none => []) ++
    (match url.fragment with | some fragment => '#' :: fragment | none => []))

/-- Host and port as lists of allowed hosts name them. -/
def hostAndPort? (url : Url) : Option String :=
  (shownHost url.host).map fun host => String.ofList (host ++ portText url.port)

/-- The URL with one value for a name in its query. -/
def setParam? (url : Url) (name value : String) : Option Url :=
  let query := encodeQuery (setPair (decodeQuery (url.query.getD [])) name value)
  let parts := [url.scheme, url.authority, url.path, query, url.fragment.getD []]
  if parts.any fun part => maxLength < part.length then none
  else ofParts url.scheme url.authority url.path (some query) url.fragment

end Url

end GridRules
