import GridRules.Settings.Basic
import GridRules.Settings.Environment
import GridRules.Settings.Yaml
/-!
Loading settings from a file and from environment variables, which go over the file.
-/

namespace GridRules

/-- A settings file; one that does not exist has no text. -/
structure SettingsFile where
  path : String
  text : Option String

inductive SettingsError where
  | missingFile (path : String)
  | notYaml (path : String)
  | faulty (problems : List Problem)

namespace SettingsError

def message : SettingsError → String
  | .missingFile path => "Config file not found: " ++ path
  | .notYaml path => "Invalid YAML in " ++ path
  | .faulty problems => "Invalid settings: " ++ Decode.heading Settings.model problems

def details : SettingsError → List String
  | .faulty problems => problems.map Problem.line
  | _ => []

end SettingsError

namespace Settings

/-- What a file says, with keys in lower case; without a file nothing is said. -/
def readFile : Option SettingsFile → Except SettingsError Entries
  | none => .ok []
  | some file =>
    match file.text with
    | none => .error (.missingFile file.path)
    | some text =>
      match Yaml.read? text with
      | some entries => .ok (lowerEntries [] entries)
      | none => .error (.notYaml file.path)

def load (file : Option SettingsFile) (environment : Assoc String) :
    Except SettingsError Settings := do
  let config := withEnvironment (← readFile file) environment
  match decode (.object config) with
  | .ok settings => return settings
  | .failed problems => throw (.faulty problems)

end Settings

end GridRules
