import GridRules.Decode.Basic
/-!
Sources: where the rows of an option list come from.
-/

namespace GridRules

structure LayoutFieldsSource where
  includeHidden : Bool
  excludeSharedTab : Bool
  deriving DecidableEq

/-- A request through a connector. Values of the query and of headers may hold placeholders. -/
structure HttpGetSource where
  connectorId : String
  path : String
  query : Assoc String
  headers : Assoc String
  /-- Where in the response the rows are. -/
  responsePath : Option String
  deriving DecidableEq

inductive Source where
  | builtin (functionId : String)
  | gridRows (gridId : String)
  | layoutFields (source : LayoutFieldsSource)
  | httpGet (source : HttpGetSource)
  deriving DecidableEq

/-- The kind that an object must name. -/
def decodeKind (es : Entries) (kind : String) : Decoded Unit :=
  Decode.required es "kind" (Decode.oneOf [(kind, ())])

namespace Source

def decodeBuiltin : Value → Decoded String :=
  Decode.closed "BuiltinRefSource" ["kind", "functionId"] fun es =>
    (fun _ functionId => functionId)
      <$> decodeKind es "builtin_ref"
      <*> Decode.required es "functionId" Decode.nonEmpty

def decodeGridRows : Value → Decoded String :=
  Decode.closed "GridRowsSource" ["kind", "gridId"] fun es =>
    (fun _ gridId => gridId)
      <$> decodeKind es "grid_rows"
      <*> Decode.required es "gridId" Decode.nonEmpty

def decodeLayoutFields : Value → Decoded LayoutFieldsSource :=
  Decode.closed "LayoutFieldsSource" ["kind", "includeHidden", "excludeSharedTab"] fun es =>
    (fun _ hidden shared => LayoutFieldsSource.mk hidden shared)
      <$> decodeKind es "layout_fields"
      <*> Decode.field es "includeHidden" false Decode.boolean
      <*> Decode.field es "excludeSharedTab" true Decode.boolean

/-- A request; `path` decodes the field of that name, which some have to spell out. -/
def decodeHttpGetWith (path : Entries → Decoded String) : Value → Decoded HttpGetSource :=
  Decode.closed "HttpGetSource"
      ["kind", "connectorId", "path", "query", "headers", "responsePath"] fun es =>
    (fun _ => HttpGetSource.mk)
      <$> decodeKind es "http_get"
      <*> Decode.required es "connectorId" Decode.nonEmpty
      <*> path es
      <*> Decode.field es "query" [] (Decode.dictionary Decode.text)
      <*> Decode.field es "headers" [] (Decode.dictionary Decode.text)
      <*> Decode.optional es "responsePath" Decode.text

def decodeHttpGet : Value → Decoded HttpGetSource :=
  decodeHttpGetWith fun es => Decode.field es "path" "" Decode.text

def decode : Value → Decoded Source :=
  Decode.tagged "kind" [
    ("builtin_ref", fun v => (decodeBuiltin v).map .builtin),
    ("grid_rows", fun v => (decodeGridRows v).map .gridRows),
    ("layout_fields", fun v => (decodeLayoutFields v).map .layoutFields),
    ("http_get", fun v => (decodeHttpGet v).map .httpGet)]

end Source

/-- Texts under keys, written back. -/
def textsValue (texts : Assoc String) : Value :=
  .object (texts.map fun entry => (entry.1, .str entry.2))

namespace Source

def builtinValue (full : Bool) (functionId : String) : Value :=
  modelValue full [("kind", .str "builtin_ref"), ("functionId", .str functionId)]

def gridRowsValue (full : Bool) (gridId : String) : Value :=
  modelValue full [("kind", .str "grid_rows"), ("gridId", .str gridId)]

def layoutFieldsValue (full : Bool) (source : LayoutFieldsSource) : Value :=
  modelValue full [
    ("kind", .str "layout_fields"),
    ("includeHidden", .bool source.includeHidden),
    ("excludeSharedTab", .bool source.excludeSharedTab)]

def httpGetValue (full : Bool) (source : HttpGetSource) : Value :=
  modelValue full [
    ("kind", .str "http_get"),
    ("connectorId", .str source.connectorId),
    ("path", .str source.path),
    ("query", textsValue source.query),
    ("headers", textsValue source.headers),
    ("responsePath", optionalValue .str source.responsePath)]

def toValue (full : Bool) : Source → Value
  | .builtin functionId => builtinValue full functionId
  | .gridRows gridId => gridRowsValue full gridId
  | .layoutFields source => layoutFieldsValue full source
  | .httpGet source => httpGetValue full source

/-- Whether the source needs the network. -/
def isRemote : Source → Bool
  | .httpGet _ => true
  | _ => false

end Source

end GridRules
