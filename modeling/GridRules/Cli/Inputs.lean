import GridRules.Assoc
import GridRules.Cli.Arguments
import GridRules.Cli.Outcome
import GridRules.Json.Read
import GridRules.Settings.Load
import GridRules.Time.Instant
import GridRules.Tracker.Basic
/-!
What commands take in: documents and settings from files, which are found by their paths, and rows
and arguments from options. What is wrong with them is shown in a panel and ends the command.
-/

namespace GridRules

namespace Cli

inductive FileContent where
  | text (text : String)
  | missing
  /-- There is something, but no text. -/
  | unreadable

/-- The pieces of a path that lead anywhere. -/
def pathPieces (path : String) : List String :=
  (path.splitToList (· == '/')).filter fun piece => piece != "" && piece != "."

/-- A path without the pieces that lead nowhere. -/
def plainPath (path : String) : String :=
  let pieces := pathPieces path
  if path.startsWith "/" then "/" ++ String.intercalate "/" pieces
  else if pieces.isEmpty then "."
  else String.intercalate "/" pieces

/-- The last piece of a path. -/
def fileName (path : String) : String :=
  ((pathPieces path).getLast?).getD ""

/-- What a command finds around it. -/
structure Surroundings where
  /-- The files of the paths that the command names. -/
  read : String → FileContent
  environment : Assoc String
  now : Instant

/-- Runs a part of a command whose failure is not foreseen. -/
def orCrash {ε α : Type} : Except ε α → Script α
  | .ok a => Script.done a
  | .error _ => Script.exit 1

/-- The document in a JSON file. -/
def readJson (around : Surroundings) (path what : String) : Script Value :=
  match around.read path with
  | .missing =>
    Script.refuse "File Not Found" (what ++ " file does not exist: " ++ plainPath path) []
      (some "Check the path.")
  | .unreadable => Script.exit 1
  | .text text =>
    match Json.read text with
    | .ok v => pure v
    | .error .integerTooLong => Script.exit 1
    | .error e =>
      Script.refuse "Invalid JSON" ("Failed to parse " ++ fileName path) [e.message text] none

def loadTracker (around : Surroundings) (path : String) : Script Tracker := do
  match Tracker.ofValue (← readJson around path "Tracker") with
  | .ok tracker => return tracker
  | .error e =>
    Script.refuse "Invalid Tracker" (fileName path ++ " is not a valid tracker document")
      (e.firstLine :: e.details) none

/-- The settings file of a path. -/
def settingsFile (around : Surroundings) (path : String) : Script SettingsFile :=
  match around.read path with
  | .missing => pure ⟨plainPath path, none⟩
  | .unreadable => Script.exit 1
  | .text text => pure ⟨plainPath path, some text⟩

def loadSettings (around : Surroundings) (path : Option String) : Script Settings := do
  let file ← path.mapM (settingsFile around)
  match Settings.load file around.environment with
  | .ok settings => return settings
  | .error e =>
    Script.refuse "Configuration Error" e.message e.details
      (some "Check field names, types, and required values.")

/-- A text as JSON, or as it is if it is none. -/
def parseValue (raw : String) : Script Value :=
  match Json.read raw with
  | .ok v => pure v
  | .error .integerTooLong => Script.exit 1
  | .error _ => pure (.str raw)

/-- The row that an option gives; without the option the row is empty. -/
def parseRow : Option String → Script Entries
  | none => pure []
  | some raw =>
    match Json.read raw with
    | .ok (.object row) => pure row
    | .ok _ => Script.refuse "Invalid Option" "--row must be a JSON object" [] none
    | .error .integerTooLong => Script.exit 1
    | .error _ => Script.refuse "Invalid Option" "--row must be valid JSON" [raw] none

/-- The arguments of a function, each given as a key and a value. -/
def parseArgs (args : Entries) : List String → Script Entries
  | [] => pure args
  | item :: rest => do
    match splitAtEquals item with
    | ("", _) | (_, none) =>
      Script.refuse "Invalid Option" ("--arg must be key=value, got " ++ quoted item) [] none
    | (key, some raw) => parseArgs (args.put key (← parseValue raw)) rest

end Cli

end GridRules
