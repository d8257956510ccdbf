import GridRules.Decode.Basic
import GridRules.Text.Alphanumeric
/-!
Settings: the limits of caches, of requests and of option lists. Every setting has a default, so a
document names only what it changes.
-/

namespace GridRules

structure CacheSettings where
  validationPlanLimit : Positive
  calculationPlanLimit : Positive
  graphPlanLimit : Positive
  resultLimit : Positive
  resultTtlSeconds : Positive

structure HttpSettings where
  timeoutSeconds : Binary64
  maxResponseBytes : Positive
  userAgent : String

structure OptionsSettings where
  maxItems : Positive
  aiMaxRows : Positive
  secretEnvPrefix : String

structure Settings where
  cache : CacheSettings
  http : HttpSettings
  options : OptionsSettings

namespace CacheSettings

def default : CacheSettings :=
  ⟨⟨2000, by decide⟩, ⟨100, by decide⟩, ⟨1000, by decide⟩, ⟨500, by decide⟩, ⟨300, by decide⟩⟩

def decode : Value → Decoded CacheSettings :=
  Decode.closed "CacheSettings" ["validation_plan_limit", "calculation_plan_limit",
    "graph_plan_limit", "result_limit", "result_ttl_seconds"] fun es =>
    let limit key fallback := Decode.field es key fallback Decode.positiveInteger
    CacheSettings.mk
      <$> limit "validation_plan_limit" default.validationPlanLimit
      <*> limit "calculation_plan_limit" default.calculationPlanLimit
      <*> limit "graph_plan_limit" default.graphPlanLimit
      <*> limit "result_limit" default.resultLimit
      <*> limit "result_ttl_seconds" default.resultTtlSeconds

def toValue (settings : CacheSettings) : Value :=
  .object [
    ("validation_plan_limit", .int settings.validationPlanLimit.1),
    ("calculation_plan_limit", .int settings.calculationPlanLimit.1),
    ("graph_plan_limit", .int settings.graphPlanLimit.1),
    ("result_limit", .int settings.resultLimit.1),
    ("result_ttl_seconds", .int settings.resultTtlSeconds.1)]

end CacheSettings

namespace HttpSettings

def default : HttpSettings :=
  ⟨.ofInt 10, ⟨1000000, by decide⟩, "trackerflow-dynamic-options"⟩

def decode : Value → Decoded HttpSettings :=
  Decode.closed "HttpSettings" ["timeout_seconds", "max_response_bytes", "user_agent"] fun es =>
    HttpSettings.mk
      <$> Decode.field es "timeout_seconds" default.timeoutSeconds Decode.positiveNumber
      <*> Decode.field es "max_response_bytes" default.maxResponseBytes Decode.positiveInteger
      <*> Decode.field es "user_agent" default.userAgent Decode.text

def toValue (settings : HttpSettings) : Value :=
  .object [
    ("timeout_seconds", .float settings.timeoutSeconds),
    ("max_response_bytes", .int settings.maxResponseBytes.1),
    ("user_agent", .str settings.userAgent)]

end HttpSettings

namespace OptionsSettings

def default : OptionsSettings :=
  ⟨⟨500, by decide⟩, ⟨200, by decide⟩, "DYNAMIC_OPTION_SECRET_"⟩

/-- Why a text cannot start the names of environment variables. -/
def envPrefixProblem (start : String) : Option String :=
  let letters := start.toList.filter (· != '_')
  if start = "" || (!letters.isEmpty && letters.all isAlphanumeric) then none
  else some ("secret_env_prefix must be alphanumeric/underscore, got " ++ quoted start)

def decode : Value → Decoded OptionsSettings :=
  Decode.closed "OptionsSettings" ["max_items", "ai_max_rows", "secret_env_prefix"] fun es =>
    OptionsSettings.mk
      <$> Decode.field es "max_items" default.maxItems Decode.positiveInteger
      <*> Decode.field es "ai_max_rows" default.aiMaxRows Decode.positiveInteger
      <*> Decode.field es "secret_env_prefix" default.secretEnvPrefix
        fun v => (Decode.text v).check envPrefixProblem

def toValue (settings : OptionsSettings) : Value :=
  .object [
    ("max_items", .int settings.maxItems.1),
    ("ai_max_rows", .int settings.aiMaxRows.1),
    ("secret_env_prefix", .str settings.secretEnvPrefix)]

end OptionsSettings

namespace Settings

/-- What messages call a settings document. -/
def model : String := "TrackerflowSettings"

def default : Settings :=
  ⟨.default, .default, .default⟩

def decode : Value → Decoded Settings :=
  Decode.closed model ["cache", "http", "options"] fun es =>
    Settings.mk
      <$> Decode.field es "cache" .default CacheSettings.decode
      <*> Decode.field es "http" .default HttpSettings.decode
      <*> Decode.field es "options" .default OptionsSettings.decode

def toValue (settings : Settings) : Value :=
  .object [
    ("cache", settings.cache.toValue),
    ("http", settings.http.toValue),
    ("options", settings.options.toValue)]

end Settings

end GridRules
