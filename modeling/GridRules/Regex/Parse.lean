import GridRules.Number.Numeral
import GridRules.Regex.Basic
/-!
Reading regular expressions. The pattern is first cut into plain and escaped characters; each
parsing function then works on what is left of them.
-/

namespace GridRules

namespace Regex

/-- Why a pattern is refused. -/
inductive Refusal where
  | malformed
  | countTooLarge
  /-- The pattern asks for ASCII characters only and for all characters at once. -/
  | charsetClash
  deriving DecidableEq

/-- A character of a pattern, a character behind a backslash, or a backslash at the end. -/
inductive Token where
  | plain (c : Char)
  | escaped (c : Char)
  | dangling
  deriving DecidableEq

def tokens : List Char → List Token
  | [] => []
  | ['\\'] => [.dangling]
  | '\\' :: c :: rest => .escaped c :: tokens rest
  | c :: rest => .plain c :: tokens rest

/-- What has been read so far: options for the whole pattern, the widths of the groups (none while
a group is open), their names, and the groups that conditionals ask for. Inside a look behind,
`settled` is the number of groups before it. -/
structure Reading where
  rest : List Token
  options : Options
  widths : List (Option (Nat × Nat))
  names : List (String × Nat)
  asked : List Nat
  settled : Option Nat

abbrev Parser := StateT Reading (Except Refusal)

/-- A repetition count is less than this. -/
def countLimit : Nat := 4294967295

def refuse {α : Type} : Parser α := throw .malformed

def peek : Parser (Option Token) := return (← get).rest.head?

/-- Moves on; a backslash at the end is refused as soon as it comes next. -/
def advance : Parser Unit := do
  let s ← get
  let rest := s.rest.drop 1
  if rest.head? = some .dangling then refuse
  set { s with rest := rest }

def next : Parser (Option Token) := do
  let token ← peek
  advance
  return token

/-- Moves past `c` if it comes next. -/
def accept (c : Char) : Parser Bool := do
  if (← peek) = some (.plain c) then
    advance
    return true
  return false

def expect (c : Char) : Parser Unit := do
  if !(← accept c) then refuse

/-- Up to `n` plain characters with the property. -/
def takeUpTo (p : Char → Bool) : Nat → Parser (List Char)
  | 0 => return []
  | n + 1 => do
    match ← peek with
    | some (.plain c) =>
      if p c then
        advance
        return c :: (← takeUpTo p n)
      return []
    | _ => return []

/-- All plain characters with the property. -/
def takeAll (p : Char → Bool) : Parser (List Char) := do
  takeUpTo p (← get).rest.length

/-- The text before `stop`, which must come and must not come at once. -/
def takeUntil (stop : Char) : Nat → List Char → Parser String
  | 0, _ => refuse
  | fuel + 1, taken => do
    match ← next with
    | none | some .dangling => refuse
    | some (.plain c) =>
      if c = stop then
        if taken.isEmpty then refuse
        return String.ofList taken
      takeUntil stop fuel (taken ++ [c])
    | some (.escaped c) => takeUntil stop fuel (taken ++ ['\\', c])

def takeName (stop : Char) : Parser String := do
  takeUntil stop ((← get).rest.length + 1) []

def isOctal (c : Char) : Bool := '0' ≤ c && c ≤ '7'

def isHex (c : Char) : Bool := (Numeral.digitValue? c).isSome

def ofBase (base : Nat) (cs : List Char) : Nat :=
  cs.foldl (fun n c => base * n + (Numeral.digitValue? c).getD 0) 0

def literal (code : Nat) : Regex := .oneOf false [.range code code]

/-- Escapes with a fixed meaning both inside and outside a set. -/
def controlCode? (c : Char) : Option Nat :=
  match c with
  | 'a' => some 7
  | 'f' => some 12
  | 'n' => some 10
  | 'r' => some 13
  | 't' => some 9
  | 'v' => some 11
  | '\\' => some 92
  | _ => none

def category? (c : Char) : Option SetItem :=
  match c with
  | 'd' => some (.category .digit false)
  | 'D' => some (.category .digit true)
  | 's' => some (.category .space false)
  | 'S' => some (.category .space true)
  | 'w' => some (.category .word false)
  | 'W' => some (.category .word true)
  | _ => none

def anchor? (c : Char) : Option Anchor :=
  match c with
  | 'A' => some .textStart
  | 'Z' => some .textEnd
  | 'b' => some .boundary
  | 'B' => some .noBoundary
  | _ => none

/-- A code point in exactly `n` hexadecimal digits. -/
def hexCode (n : Nat) : Parser Nat := do
  let digits ← takeUpTo isHex n
  let code := ofBase 16 digits
  if digits.length = n && code < 0x110000 then return code
  refuse

/-- A code point in up to two more octal digits. -/
def octalCode (c : Char) : Parser Nat := do
  let digits ← takeUpTo isOctal 2
  return ofBase 8 (c :: digits)

/-- A letter or an unassigned escape stands for nothing, any other character for itself. -/
def selfEscape (c : Char) : Parser Nat := do
  if c.isAlphanum then refuse
  return c.toNat

/-- The escaped character of a set, its backslash already read. -/
def setEscape (c : Char) : Parser SetItem := do
  if c = 'b' then return .range 8 8
  match controlCode? c, category? c with
  | some code, _ => return .range code code
  | none, some item => return item
  | none, none =>
    let code ←
      if c = 'x' then hexCode 2
      else if c = 'u' then hexCode 4
      else if c = 'U' then hexCode 8
      else if isOctal c then do
        let code ← octalCode c
        if 0o377 < code then refuse else pure code
      else selfEscape c
    return .range code code

/-- The members of a set up to its closing bracket. -/
def setItems : Nat → List SetItem → Parser (List SetItem)
  | 0, _ => refuse
  | fuel + 1, items => do
    let one (token : Option Token) : Parser SetItem :=
      match token with
      | some (.plain c) => return .range c.toNat c.toNat
      | some (.escaped c) => setEscape c
      | _ => refuse
    let token ← next
    if token = some (.plain ']') && !items.isEmpty then return items
    let first ← one token
    if ← accept '-' then
      let token ← next
      if token = some (.plain ']') then return items ++ [first, .range 45 45]
      let last ← one token
      match first, last with
      | .range a _, .range b _ =>
        if b < a then refuse
        setItems fuel (items ++ [.range a b])
      | _, _ => refuse
    else setItems fuel (items ++ [first])

/-- Whether the group has been opened and closed. -/
def Reading.isClosed (s : Reading) (index : Nat) : Bool :=
  0 < index && (match s.widths[index - 1]? with
    | some (some _) => true
    | _ => false)

/-- Inside a look behind only groups that were closed before it may be asked for. -/
def checkSettled (index : Nat) : Parser Unit := do
  let s ← get
  match s.settled with
  | none => return
  | some count => if !s.isClosed index || count < index then refuse

def backReference (index : Nat) : Parser Regex := do
  let s ← get
  if !s.isClosed index then refuse
  checkSettled index
  return .reference index

/-- The number behind a backslash: an octal code of three digits, else a group. -/
def numberEscape (c : Char) : Parser Regex := do
  match ← peek with
  | some (.plain d) =>
    if !d.isDigit then backReference (ofBase 10 [c])
    else
      advance
      match ← peek with
      | some (.plain e) =>
        if isOctal c && isOctal d && isOctal e then
          advance
          let code := ofBase 8 [c, d, e]
          if 0o377 < code then refuse
          return literal code
        backReference (ofBase 10 [c, d])
      | _ => backReference (ofBase 10 [c, d])
  | _ => backReference (ofBase 10 [c])

/-- The escaped character outside a set, its backslash already read. -/
def escape (c : Char) : Parser Regex := do
  match anchor? c, category? c, controlCode? c with
  | some kind, _, _ => return .anchor kind
  | none, some item, _ => return .oneOf false [item]
  | none, none, some code => return literal code
  | none, none, none =>
    if c = 'x' then return literal (← hexCode 2)
    if c = 'u' then return literal (← hexCode 4)
    if c = 'U' then return literal (← hexCode 8)
    if c = '0' then return literal (← octalCode c)
    if c.isDigit then numberEscape c
    else return literal (← selfEscape c)

def isIdentifier (s : String) : Bool :=
  match s.toList with
  | [] => false
  | c :: rest =>
    isWordChar c && !isDigitLike c && rest.all fun d => isWordChar d

def option? (c : Char) : Option Options :=
  match c with
  | 'i' => some { Options.none with ignoreCase := true }
  | 'm' => some { Options.none with multiline := true }
  | 's' => some { Options.none with dotAll := true }
  | 'x' => some { Options.none with verbose := true }
  | 'a' => some { Options.none with ascii := true }
  | 'u' => some { Options.none with unicode := true }
  | 't' => some { Options.none with template := true }
  | _ => none

/-- Options switched on, up to the character behind them. -/
def optionsOn : Nat → Options → Char → Parser (Options × Char)
  | 0, _, _ => refuse
  | fuel + 1, on, c => do
    match option? c with
    | none => refuse
    | some o =>
      let on := on.union o
      if on.ascii && on.unicode then refuse
      match ← next with
      | some (.plain d) =>
        if d = ')' || d = '-' || d = ':' then return (on, d)
        optionsOn fuel on d
      | _ => refuse

/-- Options switched off, up to the colon; the character set cannot be switched off. -/
def optionsOff : Nat → Options → Char → Parser Options
  | 0, _, _ => refuse
  | fuel + 1, off, c => do
    match option? c with
    | none => refuse
    | some o =>
      if o.ascii || o.unicode then refuse
      let off := off.union o
      match ← next with
      | some (.plain d) =>
        if d = ':' then return off
        optionsOff fuel off d
      | _ => refuse

/-- The options at the head of a group, from the character `c` on; none if they were meant for the
whole pattern and have been added to its options. -/
def groupOptions (c : Char) : Parser (Option (Options × Options)) := do
  let fuel := (← get).rest.length + 1
  let (on, stop) ← if c = '-' then pure (Options.none, '-') else optionsOn fuel Options.none c
  if stop = ')' then
    modify fun s => { s with options := s.options.union on }
    return none
  if on.template then refuse
  if stop = ':' then return some (on, Options.none)
  match ← next with
  | some (.plain d) =>
    let off ← optionsOff fuel Options.none d
    if off.template || on.meets off then refuse
    return some (on, off)
  | _ => refuse

def openGroup (name : Option String) : Parser Nat := do
  let s ← get
  let index := s.widths.length + 1
  match name with
  | none => set { s with widths := s.widths ++ [none] }
  | some n =>
    if (s.names.lookup n).isSome then refuse
    set { s with widths := s.widths ++ [none], names := (n, index) :: s.names }
  return index

/-- The widths of the closed groups. -/
def Reading.captured (s : Reading) (index : Nat) : Nat × Nat :=
  ((s.widths[index - 1]?).join).getD (0, 0)

def closeGroup (index : Nat) (body : Regex) : Parser Unit :=
  modify fun s => { s with widths := s.widths.set (index - 1) (some (body.width s.captured)) }

/-- The least and greatest number of repetitions behind an opening brace; none if the brace is an
ordinary character. -/
def braces : Parser (Option (Nat × Option Nat)) := do
  let before ← get
  if (← peek) = some (.plain '\x7d') then return none
  let least ← takeAll Char.isDigit
  let most ← if ← accept ',' then takeAll Char.isDigit else pure least
  if !(← accept '\x7d') then
    set before
    return none
  let low := ofBase 10 least
  let high := ofBase 10 most
  if countLimit ≤ low then throw .countTooLarge
  if most.isEmpty then return some (low, none)
  if countLimit ≤ high then throw .countTooLarge
  if high < low then refuse
  return some (low, some high)

/-- Puts a quantifier on the last item. -/
def quantify (items : List Regex) (least : Nat) (most : Option Nat) : Parser (List Regex) := do
  match items with
  | [] => refuse
  | .anchor _ :: _ => refuse
  | .repeated .. :: _ => refuse
  | item :: rest =>
    let greed ←
      if ← accept '?' then pure Greed.lazy
      else if ← accept '+' then pure Greed.possessive
      else pure Greed.greedy
    return .repeated greed least most item :: rest

/-- The group that a conditional asks for: a name, or a number that may be yet to come. -/
def conditionGroup : Parser Nat := do
  let name ← takeName ')'
  let s ← get
  if isIdentifier name then
    match s.names.lookup name with
    | some index => return index
    | none => refuse
  else
    match Numeral.integer? name with
    | some n =>
      if n ≤ 0 then refuse
      set { s with asked := n.toNat :: s.asked }
      return n.toNat
    | none => refuse

/-- Skips a comment up to the closing parenthesis. -/
def skipComment : Nat → Parser Unit
  | 0 => refuse
  | fuel + 1 => do
    match ← next with
    | none => refuse
    | some (.plain ')') => return
    | some _ => skipComment fuel

/-- Skips the rest of a line. -/
def skipLine : Nat → Parser Unit
  | 0 => return
  | fuel + 1 => do
    match ← next with
    | none | some (.plain '\n') => return
    | some _ => skipLine fuel

/-- Items stand latest first. -/
def sequence (items : List Regex) : Regex :=
  items.foldl (fun all item => match all with
    | .empty => item
    | _ => .seq item all) .empty

/-- Runs a parser inside a look behind. -/
def lookingBehind (body : Parser Regex) : Parser Regex := do
  let before := (← get).settled
  if before.isNone then modify fun s => { s with settled := some s.widths.length }
  let r ← body
  if before.isNone then modify fun s => { s with settled := none }
  return r

mutual

/-- Alternatives up to a closing parenthesis or the end. -/
def alternatives : Nat → Bool → Bool → Bool → Parser Regex
  | 0, _, _, _ => refuse
  | fuel + 1, verbose, nested, first => do
    let items ← itemsFrom fuel verbose (first && !nested) []
    let one := sequence items
    if ← accept '|' then
      let overall := (← get).options.verbose
      let verbose := if nested then verbose else overall
      return .alt one (← alternatives fuel verbose nested false)
    return one

/-- Items up to a bar, a closing parenthesis or the end. -/
def itemsFrom : Nat → Bool → Bool → List Regex → Parser (List Regex)
  | 0, _, _, _ => refuse
  | fuel + 1, verbose, first, items => do
    match ← peek with
    | none => return items
    | some (.plain '|') => return items
    | some (.plain ')') => return items
    | some .dangling => refuse
    | some (.escaped c) =>
      advance
      itemsFrom fuel verbose first ((← escape c) :: items)
    | some (.plain c) =>
      advance
      let go (items : List Regex) : Parser (List Regex) := itemsFrom fuel verbose first items
      if verbose && (c == ' ' || (9 ≤ c.toNat && c.toNat ≤ 13)) then go items
      else if verbose && c == '#' then
        skipLine ((← get).rest.length + 1)
        go items
      else
        match c with
        | '[' =>
          let complement ← accept '^'
          let members ← setItems ((← get).rest.length + 1) []
          go (.oneOf complement members :: items)
        | '.' => go (.any :: items)
        | '^' => go (.anchor .lineStart :: items)
        | '$' => go (.anchor .lineEnd :: items)
        | '?' => go (← quantify items 0 (some 1))
        | '*' => go (← quantify items 0 none)
        | '+' => go (← quantify items 1 none)
        | '\x7b' =>
          match ← braces with
          | none => go (literal c.toNat :: items)
          | some (least, most) => go (← quantify items least most)
        | '(' =>
          if ← accept '?' then
            match ← next with
            | some (.plain kind) =>
              if kind = '#' then
                skipComment ((← get).rest.length + 1)
                go items
              else if (option? kind).isSome || kind = '-' then
                match ← groupOptions kind with
                | none =>
                  if !first || !items.isEmpty then refuse
                  itemsFrom fuel (← get).options.verbose first items
                | some (on, off) =>
                  let inner := (verbose || on.verbose) && !off.verbose
                  let body ← alternatives fuel inner true false
                  expect ')'
                  go (.scoped on off body :: items)
              else go ((← specialGroup fuel verbose kind) :: items)
            | _ => refuse
          else
            let index ← openGroup none
            let body ← alternatives fuel verbose true false
            expect ')'
            closeGroup index body
            go (.group index body :: items)
        | _ => go (literal c.toNat :: items)

/-- A group whose kind is told by the character behind its question mark. -/
def specialGroup : Nat → Bool → Char → Parser Regex
  | 0, _, _ => refuse
  | fuel + 1, verbose, kind => do
    match kind with
    | ':' =>
      let body ← alternatives fuel verbose true false
      expect ')'
      return .scoped Options.none Options.none body
    | '>' =>
      let body ← alternatives fuel verbose true false
      expect ')'
      return .atomic body
    | '=' =>
      let body ← alternatives fuel verbose true false
      expect ')'
      return .look false false body
    | '!' =>
      let body ← alternatives fuel verbose true false
      expect ')'
      return .look false true body
    | '<' =>
      match ← next with
      | some (.plain '=') =>
        let body ← lookingBehind (alternatives fuel verbose true false)
        expect ')'
        return .look true false body
      | some (.plain '!') =>
        let body ← lookingBehind (alternatives fuel verbose true false)
        expect ')'
        return .look true true body
      | _ => refuse
    | '(' =>
      let index ← conditionGroup
      checkSettled index
      let present := sequence (← itemsFrom fuel verbose false [])
      let absent ←
        if ← accept '|' then
          pure (sequence (← itemsFrom fuel verbose false []))
        else pure .empty
      expect ')'
      return .conditional index present absent
    | 'P' =>
      if ← accept '<' then
        let name ← takeName '>'
        if !isIdentifier name then refuse
        let index ← openGroup (some name)
        let body ← alternatives fuel verbose true false
        expect ')'
        closeGroup index body
        return .group index body
      else if ← accept '=' then
        let name ← takeName ')'
        if !isIdentifier name then refuse
        match (← get).names.lookup name with
        | some index => backReference index
        | none => refuse
      else refuse
    | _ => refuse

end

/-- An expression that is ready to match, with the widths of its groups. -/
structure Compiled where
  regex : Regex
  options : Options
  captured : Nat → Nat × Nat

/-- Reads a pattern under the options given beside it. -/
def compile (pattern : String) (options : Options) : Except Refusal Compiled := do
  let all := tokens pattern.toList
  if all.head? = some .dangling then throw .malformed
  let start : Reading := ⟨all, options, [], [], [], none⟩
  let (regex, s) ← (alternatives (4 * all.length + 8) options.verbose false true).run start
  if s.options.ascii && s.options.unicode then throw .charsetClash
  if !s.rest.isEmpty then throw .malformed
  if s.asked.any fun index => s.widths.length < index then throw .malformed
  if !regex.compiles s.captured s.options then throw .malformed
  return ⟨regex, s.options, s.captured⟩

end Regex

end GridRules
