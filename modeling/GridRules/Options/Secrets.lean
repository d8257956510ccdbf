import GridRules.Options.Headers
/-!
Secrets from environment variables. Connectors name a secret; its value stands in the variable of
that name behind a prefix, or in the variable of the name as it is written.
-/

namespace GridRules

/-- The variable of a secret: the letters and digits of its name in upper case, with underscores
for all that stands between them. -/
def secretVariable (start refId : String) : String :=
  start ++ String.intercalate "_"
    ((runsOf Char.isAlphanum refId.toList).map fun run => String.ofList (run.map Char.toUpper))

/-- The value of a variable that is set and not empty. -/
def variableValue? (environment : Assoc String) (name : String) : Option String :=
  (environment.get? name).filter fun value => value != ""

/-- The value of a secret in an environment. -/
def secretFrom (environment : Assoc String) (start refId : String) : Option String :=
  (variableValue? environment (secretVariable start refId)).or (variableValue? environment refId)

end GridRules
