import GridRules.Cli.Run
import Std.Time.DateTime.Timestamp
/-!
The command line. Everything that is decided is decided in `Cli`; here files, variables and the time
are read, and results are printed.
-/

namespace GridRules

namespace Cli

/-- What is found under a path. -/
def readPath (path : String) : IO FileContent := do
  try
    let bytes ← IO.FS.readBinFile path
    return match String.fromUTF8? bytes with
      | some text => .text text
      | none => .unreadable
  catch
    | .noFileOrDirectory .. => return .missing
    | _ => return .unreadable

/-- A variable and its value, as they stand together. -/
def variableOf? (text : String) : Option (String × String) :=
  match splitAtEquals text with
  | (name, some value) => some (name, value)
  | (_, none) => none

/-- The variables of this process. -/
def readEnvironment : IO (Assoc String) := do
  match ← readPath "/proc/self/environ" with
  | .text text => return (text.splitToList (· == Char.ofNat 0)).filterMap variableOf?
  | _ => return []

def readTime : IO Instant := do
  let now ← Std.Time.Timestamp.now
  return ⟨now.toNanosecondsSinceUnixEpoch.val / 1000⟩

/-- The line of an event. -/
def eventText (asJson : Bool) (now : Instant) (fields : Entries) : String :=
  let timed : Entries := fields.put "timestamp" (.str now.text)
  if asJson then Json.write false (.object timed)
  else String.intercalate " " (timed.map fun entry => entry.1 ++ "=" ++ entry.2.plain)

def panelText (panel : ErrorPanel) : String :=
  String.intercalate "\n" ([panel.title ++ ": " ++ panel.message] ++
    panel.details.map (fun detail => "  - " ++ detail) ++
    panel.hint.toList.map fun hint => "Hint: " ++ hint)

def noticeText (asJson : Bool) (now : Instant) : Notice → String
  | .warning text => "Warning: " ++ text
  | .error text => "Error: " ++ text
  | .panel panel => panelText panel
  | .event fields => eventText asJson now fields

/-- Whether events are written as JSON. -/
def Invocation.logsJson : Invocation → Bool
  | .command common _ => common.jsonLogs
  | _ => false

end Cli

end GridRules

open GridRules Cli in
def main (words : List String) : IO UInt32 := do
  let invocation := Invocation.ofWords words
  let contents ← invocation.paths.mapM fun path => do return (path, ← readPath path)
  let now ← readTime
  let outcome := invocation.perform
    { read := fun path => (Assoc.get? contents path).getD .missing
      environment := ← readEnvironment
      now := now }
  for notice in outcome.notices do
    IO.eprintln (noticeText invocation.logsJson now notice)
  if outcome.status = usageStatus then
    IO.eprintln "Usage: trackerflow [OPTIONS] COMMAND [ARGS]..."
  IO.print outcome.output
  return outcome.status.toUInt32
