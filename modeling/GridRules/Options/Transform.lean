import GridRules.Options.Selector
import GridRules.Options.Source
import GridRules.Value.Compare
/-!
Transforms: the steps that rows go through before they become options.
-/

namespace GridRules

/-- A test of one field. What it is compared with comes from an argument, from the context or from
the predicate itself, the first that is there. -/
structure FilterPredicate where
  field : String
  op : Comparison
  value : Value
  valueFromArg : Option String
  valueFromContext : Option String
  deriving DecidableEq

/-- Keeps the rows that all predicates accept, or any of them; an expression goes before them. -/
structure FilterSpec where
  anyMatches : Bool
  predicates : List FilterPredicate
  expr : Option Entries
  deriving DecidableEq

structure SortSpec where
  key : String
  descending : Bool
  byNumber : Bool
  deriving DecidableEq

inductive Transform where
  | filter (spec : FilterSpec)
  | mapFields (mappings : Assoc Selector)
  | unique (key : String)
  | sort (spec : SortSpec)
  | limit (count : Positive)
  | flattenPath (path : String)
  deriving DecidableEq

namespace FilterPredicate

def decode : Value → Decoded FilterPredicate :=
  Decode.closed "FilterPredicate" ["field", "op", "value", "valueFromArg", "valueFromContext"]
    fun es =>
    FilterPredicate.mk
      <$> Decode.required es "field" Decode.nonEmpty
      <*> Decode.required es "op" (Decode.oneOf (Comparison.all.map fun op => (op.name, op)))
      <*> Decode.field es "value" .null Decode.any
      <*> Decode.optional es "valueFromArg" Decode.nonEmpty
      <*> Decode.optional es "valueFromContext" Decode.nonEmpty

def toValue (full : Bool) (predicate : FilterPredicate) : Value :=
  modelValue full [
    ("field", .str predicate.field),
    ("op", .str predicate.op.name),
    ("value", predicate.value),
    ("valueFromArg", optionalValue .str predicate.valueFromArg),
    ("valueFromContext", optionalValue .str predicate.valueFromContext)]

end FilterPredicate

namespace Transform

def decodeFilter : Value → Decoded FilterSpec :=
  Decode.closed "FilterTransform" ["kind", "mode", "predicates", "expr"] fun es =>
    (fun _ => FilterSpec.mk)
      <$> decodeKind es "filter"
      <*> Decode.field es "mode" false (Decode.oneOf [("and", false), ("or", true)])
      <*> Decode.field es "predicates" [] (Decode.list FilterPredicate.decode)
      <*> Decode.optional es "expr" Decode.rawObject

def decodeMapFields : Value → Decoded (Assoc Selector) :=
  Decode.closed "MapFieldsTransform" ["kind", "mappings"] fun es =>
    (fun _ mappings => mappings)
      <$> decodeKind es "map_fields"
      <*> Decode.required es "mappings" (Decode.dictionary Selector.decode)

def decodeUnique : Value → Decoded String :=
  Decode.closed "UniqueTransform" ["kind", "by"] fun es =>
    (fun _ key => key)
      <$> decodeKind es "unique"
      <*> Decode.required es "by" Decode.nonEmpty

def decodeSort : Value → Decoded SortSpec :=
  Decode.closed "SortTransform" ["kind", "by", "direction", "valueType"] fun es =>
    (fun _ => SortSpec.mk)
      <$> decodeKind es "sort"
      <*> Decode.required es "by" Decode.nonEmpty
      <*> Decode.field es "direction" false (Decode.oneOf [("asc", false), ("desc", true)])
      <*> Decode.field es "valueType" false (Decode.oneOf [("string", false), ("number", true)])

def decodeLimit : Value → Decoded Positive :=
  Decode.closed "LimitTransform" ["kind", "count"] fun es =>
    (fun _ count => count)
      <$> decodeKind es "limit"
      <*> Decode.required es "count" Decode.positiveInteger

def decodeFlattenPath : Value → Decoded String :=
  Decode.closed "FlattenPathTransform" ["kind", "path"] fun es =>
    (fun _ path => path)
      <$> decodeKind es "flatten_path"
      <*> Decode.required es "path" Decode.nonEmpty

/-- How transforms of each kind are decoded. -/
def kinds : List (String × (Value → Decoded Transform)) := [
  ("filter", fun v => (decodeFilter v).map .filter),
  ("map_fields", fun v => (decodeMapFields v).map .mapFields),
  ("unique", fun v => (decodeUnique v).map .unique),
  ("sort", fun v => (decodeSort v).map .sort),
  ("limit", fun v => (decodeLimit v).map .limit),
  ("flatten_path", fun v => (decodeFlattenPath v).map .flattenPath)]

def decode : Value → Decoded Transform :=
  Decode.tagged "kind" kinds

def toValue (full : Bool) : Transform → Value
  | .filter spec => modelValue full [
      ("kind", .str "filter"),
      ("mode", .str (if spec.anyMatches then "or" else "and")),
      ("predicates", .list (spec.predicates.map (FilterPredicate.toValue full))),
      ("expr", optionalValue .object spec.expr)]
  | .mapFields mappings => modelValue full [
      ("kind", .str "map_fields"),
      ("mappings", selectorsValue full mappings)]
  | .unique key => modelValue full [("kind", .str "unique"), ("by", .str key)]
  | .sort spec => modelValue full [
      ("kind", .str "sort"),
      ("by", .str spec.key),
      ("direction", .str (if spec.descending then "desc" else "asc")),
      ("valueType", .str (if spec.byNumber then "number" else "string"))]
  | .limit count => modelValue full [("kind", .str "limit"), ("count", .int count.1)]
  | .flattenPath path => modelValue full [("kind", .str "flatten_path"), ("path", .str path)]

end Transform

end GridRules
