import GridRules.Options.GraphSpec
/-!
Definitions of option functions and of the connectors they reach remote services through. A
function is a flat pipeline or a graph, never both.
-/

namespace GridRules

structure CacheSpec where
  ttlSeconds : Option Positive
  /-- Whether the strategy is named. -/
  namesStrategy : Bool
  deriving DecidableEq

/-- A source, the transforms of its rows, and the mapping of rows to options. -/
structure Pipeline where
  /-- Whether the definition names its engine. -/
  namesEngine : Bool
  source : Source
  transforms : List Transform
  output : OutputMapping
  deriving DecidableEq

inductive FunctionBody where
  | flat (pipeline : Pipeline)
  | graph (spec : GraphSpec)
  deriving DecidableEq

structure FunctionDefinition where
  id : String
  name : String
  description : Option String
  version : Positive
  cache : Option CacheSpec
  enabled : Bool
  body : FunctionBody
  deriving DecidableEq

inductive Auth where
  | none
  | secret (refId : String)
  deriving DecidableEq

structure Connector where
  id : String
  name : Option String
  baseUrl : String
  auth : Auth
  defaultHeaders : Assoc String
  allowHosts : Option (List String)
  deriving DecidableEq

structure OptionDefinitions where
  functions : Assoc FunctionDefinition
  connectors : Assoc Connector
  deriving DecidableEq

namespace CacheSpec

def decode : Value → Decoded CacheSpec :=
  Decode.closed "CacheSpec" ["ttlSeconds", "strategy"] fun es =>
    (fun ttl (strategy : Option Unit) => CacheSpec.mk ttl strategy.isSome)
      <$> Decode.optional es "ttlSeconds" Decode.positiveInteger
      <*> Decode.optional es "strategy" (Decode.oneOf [("ttl", ())])

def toValue (full : Bool) (spec : CacheSpec) : Value :=
  modelValue full [
    ("ttlSeconds", optionalValue (fun n : Positive => .int n.1) spec.ttlSeconds),
    ("strategy", if spec.namesStrategy then .str "ttl" else .null)]

end CacheSpec

inductive OptionsEngine where
  | flat
  | graph
  deriving DecidableEq

namespace OptionsEngine

def name : OptionsEngine → String
  | .flat => "dsl_v1"
  | .graph => "graph_v1"

def decode : Value → Decoded OptionsEngine :=
  Decode.oneOf [(name .flat, .flat), (name .graph, .graph)]

end OptionsEngine

namespace FunctionBody

/-- The body that the given parts make up, or why they make up none. -/
def ofParts (engine : Option OptionsEngine) (source : Option Source)
    (transforms : List Transform) (output : Option OutputMapping) (graph : Option GraphSpec) :
    Except String FunctionBody :=
  match engine, graph with
  | some .graph, none => .error "graph_v1 functions require 'graph'"
  | some .graph, some spec =>
    if source.isSome || output.isSome || !transforms.isEmpty then
      .error "graph_v1 functions cannot declare source, transforms or output"
    else .ok (.graph spec)
  | _, some _ => .error "'graph' requires engine 'graph_v1'"
  | engine, none =>
    match source, output with
    | some source, some output => .ok (.flat ⟨engine.isSome, source, transforms, output⟩)
    | _, _ => .error "flat functions require both 'source' and 'output'"

def isGraph : FunctionBody → Bool
  | .graph _ => true
  | .flat _ => false

def engine : FunctionBody → Option OptionsEngine
  | .flat pipeline => if pipeline.namesEngine then some .flat else none
  | .graph _ => some .graph

def source : FunctionBody → Option Source
  | .flat pipeline => some pipeline.source
  | .graph _ => none

def transforms : FunctionBody → List Transform
  | .flat pipeline => pipeline.transforms
  | .graph _ => []

def output : FunctionBody → Option OutputMapping
  | .flat pipeline => some pipeline.output
  | .graph _ => none

def graphSpec : FunctionBody → Option GraphSpec
  | .flat _ => none
  | .graph spec => some spec

end FunctionBody

namespace FunctionDefinition

def isGraph (definition : FunctionDefinition) : Bool :=
  definition.body.isGraph

/-- What messages call a definition. -/
def model : String := "FunctionDefinition"

def fields : List String :=
  ["id", "name", "description", "version", "cache", "enabled", "engine", "source", "transforms",
    "output", "graph"]

/-- The parts of a definition before they are put together. -/
def decodeParts (es : Entries) : Decoded (Except String FunctionDefinition) :=
  (fun id name description version cache enabled engine source transforms output graph =>
      (FunctionBody.ofParts engine source transforms output graph).map
        (FunctionDefinition.mk id name description version cache enabled))
    <$> Decode.required es "id" Decode.nonEmpty
    <*> Decode.required es "name" Decode.nonEmpty
    <*> Decode.optional es "description" Decode.text
    <*> Decode.field es "version" ⟨1, by decide⟩ Decode.positiveInteger
    <*> Decode.optional es "cache" CacheSpec.decode
    <*> Decode.field es "enabled" true Decode.boolean
    <*> Decode.optional es "engine" OptionsEngine.decode
    <*> Decode.optional es "source" Source.decode
    <*> Decode.field es "transforms" [] (Decode.list Transform.decode)
    <*> Decode.optional es "output" OutputMapping.decode
    <*> Decode.optional es "graph" GraphSpec.decode

def decode (v : Value) : Decoded FunctionDefinition :=
  (Decode.closed model fields decodeParts v).refine fun parts => parts

def toValue (full : Bool) (definition : FunctionDefinition) : Value :=
  let body := definition.body
  modelValue full [
    ("id", .str definition.id),
    ("name", .str definition.name),
    ("description", optionalValue .str definition.description),
    ("version", .int definition.version.1),
    ("cache", optionalValue (CacheSpec.toValue full) definition.cache),
    ("enabled", .bool definition.enabled),
    ("engine", optionalValue (fun e => .str e.name) body.engine),
    ("source", optionalValue (Source.toValue full) body.source),
    ("transforms", .list (body.transforms.map (Transform.toValue full))),
    ("output", optionalValue (OutputMapping.toValue full) body.output),
    ("graph", optionalValue (GraphSpec.toValue full) body.graphSpec)]

/-- A definition from a whole document. -/
def ofValue (v : Value) : Except DocumentError FunctionDefinition :=
  decodeDocument model model decode v

end FunctionDefinition

namespace Auth

def decodeNone : Value → Decoded Unit :=
  Decode.closed "NoAuth" ["type"] fun es =>
    Decode.required es "type" (Decode.oneOf [("none", ())])

def decodeSecret : Value → Decoded String :=
  Decode.closed "SecretRefAuth" ["type", "secretRefId"] fun es =>
    (fun _ refId => refId)
      <$> Decode.required es "type" (Decode.oneOf [("secret_ref", ())])
      <*> Decode.required es "secretRefId" Decode.nonEmpty

def decode : Value → Decoded Auth :=
  Decode.tagged "type" [
    ("none", fun v => (decodeNone v).map fun _ => .none),
    ("secret_ref", fun v => (decodeSecret v).map .secret)]

def toValue (full : Bool) : Auth → Value
  | .none => modelValue full [("type", .str "none")]
  | .secret refId => modelValue full [("type", .str "secret_ref"), ("secretRefId", .str refId)]

end Auth

namespace Connector

/-- Why a text cannot be the base of requests. -/
def baseUrlProblem (url : String) : Option String :=
  if url.startsWith "http://" || url.startsWith "https://" then none
  else some ("baseUrl must be an absolute http(s) URL, got " ++ quoted url)

def decode : Value → Decoded Connector :=
  Decode.closed "Connector"
      ["id", "name", "type", "baseUrl", "auth", "defaultHeaders", "allowHosts"] fun es =>
    (fun id name _ => Connector.mk id name)
      <$> Decode.required es "id" Decode.nonEmpty
      <*> Decode.optional es "name" Decode.text
      <*> Decode.field es "type" () (Decode.oneOf [("rest", ())])
      <*> Decode.required es "baseUrl" (fun v => (Decode.nonEmpty v).check baseUrlProblem)
      <*> Decode.field es "auth" .none Auth.decode
      <*> Decode.field es "defaultHeaders" [] (Decode.dictionary Decode.text)
      <*> Decode.optional es "allowHosts" (Decode.list Decode.nonEmpty)

def toValue (full : Bool) (connector : Connector) : Value :=
  modelValue full [
    ("id", .str connector.id),
    ("name", optionalValue .str connector.name),
    ("type", .str "rest"),
    ("baseUrl", .str connector.baseUrl),
    ("auth", connector.auth.toValue full),
    ("defaultHeaders", textsValue connector.defaultHeaders),
    ("allowHosts", optionalValue (fun hosts => .list (hosts.map .str)) connector.allowHosts)]

end Connector

namespace OptionDefinitions

def empty : OptionDefinitions := ⟨[], []⟩

def decode : Value → Decoded OptionDefinitions :=
  Decode.closed "DynamicOptionsDefinitions" ["functions", "connectors"] fun es =>
    OptionDefinitions.mk
      <$> Decode.field es "functions" [] (Decode.dictionary FunctionDefinition.decode)
      <*> Decode.field es "connectors" [] (Decode.dictionary Connector.decode)

def toValue (full : Bool) (definitions : OptionDefinitions) : Value :=
  modelValue full [
    ("functions", .object (definitions.functions.map fun entry =>
      (entry.1, entry.2.toValue full))),
    ("connectors", .object (definitions.connectors.map fun entry =>
      (entry.1, entry.2.toValue full)))]

end OptionDefinitions

end GridRules
