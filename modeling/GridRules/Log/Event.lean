import GridRules.Value.Basic
import GridRules.Options.Headers
/-!
Log events. An event has a level, the name of who reports it, a word for what happened and fields.
What looks like a credential is masked before an event is written.
-/

namespace GridRules

inductive LogLevel where
  | debug
  | info
  | warning
  | error
  | critical
  deriving DecidableEq

namespace LogLevel

def name : LogLevel → String
  | .debug => "debug"
  | .info => "info"
  | .warning => "warning"
  | .error => "error"
  | .critical => "critical"

def rank : LogLevel → Nat
  | .debug => 10
  | .info => 20
  | .warning => 30
  | .error => 40
  | .critical => 50

def all : List LogLevel := [.debug, .info, .warning, .error, .critical]

/-- Other names of levels. A log without a level hears all that there is to hear. -/
def aliases : Assoc LogLevel :=
  [("warn", .warning), ("fatal", .critical), ("notset", .debug)]

/-- The level of a name in whatever case. -/
def ofName? (name : String) : Option LogLevel :=
  (all.find? fun level => level.name == lowerText name).or (aliases.get? (lowerText name))

end LogLevel

structure LogEvent where
  level : LogLevel
  source : String
  event : String
  fields : Entries
  deriving DecidableEq

/-- What a log writes: the least level, and fields that every event gets. -/
structure LogSetup where
  level : LogLevel
  context : Entries

namespace LogEvent

/-- Words at the end of a key whose value is a credential. -/
def credentialKeys : List String :=
  ["secret", "token", "password", "authorization", "api_key"]

/-- Whether a key ends in a word, by itself or behind an underscore. -/
def endsInWord (key word : List Char) : Bool :=
  key == word || ('_' :: word).isSuffixOf key

/-- Whether a key is one of a credential; a line end behind it does not count. -/
def isCredentialKey (key : String) : Bool :=
  let cs := (lowerText key).toList
  let line := if cs.getLast? == some '\n' then cs.dropLast else cs
  credentialKeys.any fun word => endsInWord cs word.toList || endsInWord line word.toList

/-- Masks the values of credentials. -/
def redact (fields : Entries) : Entries :=
  fields.map fun field =>
    (field.1, if isCredentialKey field.1 then .str redactedText else field.2)

/-- Reporters that are heard from warnings on, whatever the level of the log. -/
def noisySources : List String := ["httpx", "httpcore", "asyncio"]

/-- Whether a reporter belongs to another. -/
def isUnder (root source : String) : Bool :=
  source == root || (root.toList ++ ['.']).isPrefixOf source.toList

/-- The least level at which a reporter is heard. -/
def leastRank (setup : LogSetup) (source : String) : Nat :=
  if noisySources.any fun root => isUnder root source then
    max setup.level.rank LogLevel.warning.rank
  else setup.level.rank

/-- The entries that are written for an event, if it is written at all. -/
def written? (setup : LogSetup) (e : LogEvent) : Option Entries :=
  if leastRank setup e.source ≤ e.level.rank then
    let fields : Entries := setup.context.putAll e.fields
    some (redact (fields.putAll [
      ("event", .str e.event), ("level", .str e.level.name), ("logger", .str e.source)]))
  else none

end LogEvent

end GridRules
