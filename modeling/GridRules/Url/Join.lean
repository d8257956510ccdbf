import GridRules.Url.Escape
/-!
Joining a base URL and a reference. The reference is resolved against the path of the base; empty
pieces inside the path are dropped.
-/

namespace GridRules

namespace Url

/-- The parts of a reference as they are written. -/
structure Reference where
  scheme : List Char
  authority : List Char
  path : List Char
  /-- What stands behind a semicolon in the last piece of the path. -/
  params : List Char
  query : List Char
  fragment : List Char

/-- Schemes whose references are resolved. -/
def isHierarchical (scheme : List Char) : Bool :=
  scheme == "http".toList || scheme == "https".toList

def isSchemeChar (c : Char) : Bool :=
  c.isAlphanum || c == '+' || c == '-' || c == '.'

/-- Drops tabs and line ends. -/
def dropLineBreaks (cs : List Char) : List Char :=
  cs.filter fun c => c != '\t' && c != '\r' && c != '\n'

/-- The scheme of a reference in lower case, and what follows it. -/
def splitScheme (default cs : List Char) : List Char × List Char :=
  match cutAt (· == ':') cs with
  | (c :: rest, some behind) =>
    if c.isAlpha && rest.all isSchemeChar then ((c :: rest).map Char.toLower, behind)
    else (default, cs)
  | _ => (default, cs)

/-- Characters that look like delimiters once they are normalized. -/
def delimiterLookalikes : List Nat := [
  0x2047, 0x2048, 0x2049, 0x2100, 0x2101, 0x2105, 0x2106, 0x2A74, 0xFE13, 0xFE16, 0xFE55, 0xFE56,
  0xFE5F, 0xFE6B, 0xFF03, 0xFF0F, 0xFF1A, 0xFF1F, 0xFF20]

/-- Brackets come in pairs, and nothing in the authority can be taken for a delimiter. -/
def isPlainAuthority (cs : List Char) : Bool :=
  cs.contains '[' == cs.contains ']' && cs.all fun c => !delimiterLookalikes.contains c.toNat

/-- Splits off what stands behind a semicolon in the last piece of a path. -/
def splitParams (path : List Char) : List Char × List Char :=
  let last := (path.reverse.takeWhile (· != '/')).reverse
  let (kept, params) := cutAt (· == ';') last
  (path.take (path.length - last.length) ++ kept, params.getD [])

/-- Splits the parts that follow a scheme; there are none if the authority is unreadable. -/
def splitRest (scheme cs : List Char) : Option Reference :=
  let (authority, rest) :=
    match cs with
    | '/' :: '/' :: rest =>
      let authority := rest.takeWhile fun c => c != '/' && c != '?' && c != '#'
      (authority, rest.drop authority.length)
    | cs => ([], cs)
  if isPlainAuthority authority then
    let (rest, fragment) := cutAt (· == '#') rest
    let (path, query) := cutAt (· == '?') rest
    let (path, params) := if isHierarchical scheme then splitParams path else (path, [])
    some ⟨scheme, authority, path, params, query.getD [], fragment.getD []⟩
  else none

def splitReference (default url : List Char) : Option Reference :=
  let (scheme, rest) := splitScheme default (dropLineBreaks url)
  splitRest scheme rest

/-- The parts put together again; a query or fragment that is empty is left out. -/
def Reference.text (ref : Reference) : List Char :=
  let path := if ref.params.isEmpty then ref.path else ref.path ++ ';' :: ref.params
  let rooted := if path.isEmpty || path.head? == some '/' then path else '/' :: path
  ref.scheme ++ "://".toList ++ ref.authority ++ rooted ++
    (if ref.query.isEmpty then [] else '?' :: ref.query) ++
    (if ref.fragment.isEmpty then [] else '#' :: ref.fragment)

/-- Whether a piece of a path stands for the directory itself or for the one above. -/
def isDots (piece : List Char) : Bool :=
  piece == ['.'] || piece == ['.', '.']

/-- The pieces of a path without dots. -/
def resolveDots (pieces : List (List Char)) : List (List Char) :=
  let kept := pieces.foldl (fun kept piece =>
    if piece == ['.', '.'] then kept.dropLast
    else if piece == ['.'] then kept
    else kept ++ [piece]) []
  if (pieces.getLast?).any isDots then kept ++ [[]] else kept

/-- Drops the empty pieces that are neither first nor last. -/
def dropEmptyInside (pieces : List (List Char)) : List (List Char) :=
  match pieces with
  | [] => []
  | first :: rest =>
    first :: rest.dropLast.filter (!·.isEmpty) ++ rest.getLast?.toList

/-- A path resolved against the path of the base. -/
def resolvePath (base path : List Char) : List Char :=
  let pieces :=
    if path.head? == some '/' then splitAt '/' path
    else
      let basePieces := splitAt '/' base
      let folder :=
        if basePieces.getLast? == some [] then basePieces else basePieces.dropLast
      dropEmptyInside (folder ++ splitAt '/' path)
  match joinWith '/' (resolveDots pieces) with
  | [] => ['/']
  | resolved => resolved

/-- The parts of a reference resolved against those of a base with the same scheme. -/
def Reference.resolve (base ref : Reference) : Reference :=
  if !ref.authority.isEmpty then ref
  else if ref.path.isEmpty && ref.params.isEmpty then
    { ref with
      authority := base.authority
      path := base.path
      params := base.params
      query := if ref.query.isEmpty then base.query else ref.query }
  else { ref with authority := base.authority, path := resolvePath base.path ref.path }

/-- The URL that a reference means relative to a base; none if one of them is unreadable. -/
def join (base url : List Char) : Option (List Char) :=
  if base.isEmpty then some url
  else if url.isEmpty then some base
  else do
    let baseRef ← splitReference [] base
    let ref ← splitReference baseRef.scheme url
    if ref.scheme != baseRef.scheme || !isHierarchical ref.scheme then return url
    return (baseRef.resolve ref).text

end Url

end GridRules
