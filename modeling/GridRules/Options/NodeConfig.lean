import GridRules.Options.GraphSpec
/-!
What nodes of a graph can be, and the configuration that belongs to each kind.
-/

namespace GridRules

/-- Which parts of the context a node gives. -/
structure CurrentContextConfig where
  includeRowValues : Bool
  includeFieldMetadata : Bool
  includeLayoutMetadata : Bool
  deriving DecidableEq

structure AiExtractConfig where
  prompt : String
  /-- Where in the input the text is. -/
  inputPath : Option String
  maxRows : Option Positive
  deriving DecidableEq

/-- A node with the configuration of its kind. -/
inductive NodeConfig where
  | start
  | gridRows (gridId : String)
  | currentContext (config : CurrentContextConfig)
  | layoutFields (source : LayoutFieldsSource)
  | httpGet (source : HttpGetSource)
  | transform (step : Transform)
  | aiExtract (config : AiExtractConfig)
  | output (mapping : OutputMapping)
  deriving DecidableEq

inductive NodeKind where
  | start
  | gridRows
  | currentContext
  | layoutFields
  | httpGet
  | filter
  | mapFields
  | unique
  | sort
  | limit
  | flattenPath
  | aiExtract
  | output
  deriving DecidableEq

/-- What goes along an edge. -/
inductive PortType where
  | object
  | rows
  | options
  | any
  deriving DecidableEq

namespace PortType

def name : PortType → String
  | .object => "object"
  | .rows => "rows"
  | .options => "options"
  | .any => "any"

/-- Whether what one node gives can be what the next node takes. -/
def fits (given taken : PortType) : Bool :=
  given == .any || taken == .any || given == taken

end PortType

namespace NodeKind

def name : NodeKind → String
  | .start => "control.start"
  | .gridRows => "source.grid_rows"
  | .currentContext => "source.current_context"
  | .layoutFields => "source.layout_fields"
  | .httpGet => "source.http_get"
  | .filter => "transform.filter"
  | .mapFields => "transform.map_fields"
  | .unique => "transform.unique"
  | .sort => "transform.sort"
  | .limit => "transform.limit"
  | .flattenPath => "transform.flatten_path"
  | .aiExtract => "ai.extract_options"
  | .output => "output.options"

def all : List NodeKind :=
  [.start, .gridRows, .currentContext, .layoutFields, .httpGet, .filter, .mapFields, .unique,
    .sort, .limit, .flattenPath, .aiExtract, .output]

def ofName? (name : String) : Option NodeKind :=
  all.find? fun kind => kind.name == name

/-- Whether nodes of the kind need the network or a model. -/
def isRemote : NodeKind → Bool
  | .httpGet | .aiExtract => true
  | _ => false

/-- What nodes of the kind give. What a request gives is only known when it is made. -/
def gives : NodeKind → PortType
  | .start | .currentContext => .object
  | .httpGet => .any
  | .output => .options
  | .gridRows | .layoutFields | .filter | .mapFields | .unique | .sort | .limit | .flattenPath
  | .aiExtract => .rows

/-- What nodes of the kind take; the start takes nothing. -/
def takes : NodeKind → Option PortType
  | .start => none
  | .gridRows | .currentContext | .layoutFields | .httpGet => some .object
  | .flattenPath | .aiExtract => some .any
  | .filter | .mapFields | .unique | .sort | .limit | .output => some .rows

/-- The kind that a configuration names where other uses of it need one. -/
def configTag : NodeKind → Option String
  | .start | .currentContext | .aiExtract | .output => none
  | .gridRows => some "grid_rows"
  | .layoutFields => some "layout_fields"
  | .httpGet => some "http_get"
  | .filter => some "filter"
  | .mapFields => some "map_fields"
  | .unique => some "unique"
  | .sort => some "sort"
  | .limit => some "limit"
  | .flattenPath => some "flatten_path"

end NodeKind

namespace CurrentContextConfig

def decode : Value → Decoded CurrentContextConfig :=
  Decode.closed "CurrentContextConfig"
      ["includeRowValues", "includeFieldMetadata", "includeLayoutMetadata"] fun es =>
    CurrentContextConfig.mk
      <$> Decode.field es "includeRowValues" true Decode.boolean
      <*> Decode.field es "includeFieldMetadata" true Decode.boolean
      <*> Decode.field es "includeLayoutMetadata" true Decode.boolean

def toValue (full : Bool) (config : CurrentContextConfig) : Value :=
  modelValue full [
    ("includeRowValues", .bool config.includeRowValues),
    ("includeFieldMetadata", .bool config.includeFieldMetadata),
    ("includeLayoutMetadata", .bool config.includeLayoutMetadata)]

end CurrentContextConfig

namespace AiExtractConfig

def decode : Value → Decoded AiExtractConfig :=
  Decode.closed "AiExtractConfig" ["prompt", "inputPath", "maxRows"] fun es =>
    AiExtractConfig.mk
      <$> Decode.required es "prompt" Decode.nonEmpty
      <*> Decode.optional es "inputPath" Decode.text
      <*> Decode.optional es "maxRows" Decode.positiveInteger

def toValue (full : Bool) (config : AiExtractConfig) : Value :=
  modelValue full [
    ("prompt", .str config.prompt),
    ("inputPath", optionalValue .str config.inputPath),
    ("maxRows", optionalValue (fun n : Positive => .int n.1) config.maxRows)]

end AiExtractConfig

namespace NodeConfig

def decodeStart : Value → Decoded Unit :=
  Decode.closed "StartConfig" [] fun _ => .ok ()

def decodeOutput : Value → Decoded OutputMapping :=
  Decode.closed "OutputNodeConfig" ["mapping"] fun es =>
    Decode.required es "mapping" OutputMapping.decode

/-- A node spells out the path of its request. -/
def decodeHttpGet : Value → Decoded HttpGetSource :=
  Source.decodeHttpGetWith fun es => Decode.required es "path" Decode.text

/-- Decodes the configuration of a kind. -/
def decode (kind : NodeKind) (v : Value) : Decoded NodeConfig :=
  match kind with
  | .start => (decodeStart v).map fun _ => .start
  | .gridRows => (Source.decodeGridRows v).map .gridRows
  | .currentContext => (CurrentContextConfig.decode v).map .currentContext
  | .layoutFields => (Source.decodeLayoutFields v).map .layoutFields
  | .httpGet => (decodeHttpGet v).map .httpGet
  | .filter => (Transform.decodeFilter v).map (.transform ∘ .filter)
  | .mapFields => (Transform.decodeMapFields v).map (.transform ∘ .mapFields)
  | .unique => (Transform.decodeUnique v).map (.transform ∘ .unique)
  | .sort => (Transform.decodeSort v).map (.transform ∘ .sort)
  | .limit => (Transform.decodeLimit v).map (.transform ∘ .limit)
  | .flattenPath => (Transform.decodeFlattenPath v).map (.transform ∘ .flattenPath)
  | .aiExtract => (AiExtractConfig.decode v).map .aiExtract
  | .output => (decodeOutput v).map .output

/-- The configuration as it is given, with the kind put in where one is needed. -/
def tagged (kind : NodeKind) (config : Option Entries) : Value :=
  let es := config.getD []
  match kind.configTag with
  | none => .object es
  | some tag => .object (es.put "kind" (.str tag))

/-- What is wrong with the configuration of a node. -/
def problemText (kind : NodeKind) (problem : Problem) : String :=
  let heading := kind.name ++ " config"
  if problem.place.isEmpty then heading ++ ": " ++ problem.complaint.message
  else heading ++ " " ++ problem.line

def outputValue (full : Bool) (mapping : OutputMapping) : Value :=
  modelValue full [("mapping", mapping.toValue full)]

def kind : NodeConfig → NodeKind
  | .start => .start
  | .gridRows _ => .gridRows
  | .currentContext _ => .currentContext
  | .layoutFields _ => .layoutFields
  | .httpGet _ => .httpGet
  | .transform (.filter _) => .filter
  | .transform (.mapFields _) => .mapFields
  | .transform (.unique _) => .unique
  | .transform (.sort _) => .sort
  | .transform (.limit _) => .limit
  | .transform (.flattenPath _) => .flattenPath
  | .aiExtract _ => .aiExtract
  | .output _ => .output

def toValue (full : Bool) : NodeConfig → Value
  | .start => .object []
  | .gridRows gridId => Source.gridRowsValue full gridId
  | .currentContext config => config.toValue full
  | .layoutFields source => Source.layoutFieldsValue full source
  | .httpGet source => Source.httpGetValue full source
  | .transform step => step.toValue full
  | .aiExtract config => config.toValue full
  | .output mapping => outputValue full mapping

end NodeConfig

end GridRules
