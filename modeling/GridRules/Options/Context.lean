import GridRules.Json.Canonical
import GridRules.Options.Rows
import GridRules.Tracker.Basic
/-!
The context of a field that needs options: the tracker, the rows of its grids, and where the field
is.
-/

namespace GridRules

/-- Where options are needed. -/
structure RuntimeContext where
  gridId : Option String
  fieldId : Option String
  rowIndex : Option Int
  row : Option Entries
  deriving DecidableEq

structure OptionsContext where
  tracker : Tracker
  gridData : Entries
  runtime : RuntimeContext
  deriving DecidableEq

namespace RuntimeContext

def nowhere : RuntimeContext := ⟨none, none, none, none⟩

def toValue (runtime : RuntimeContext) : Value :=
  .object [
    ("currentGridId", optionalValue .str runtime.gridId),
    ("currentFieldId", optionalValue .str runtime.fieldId),
    ("rowIndex", optionalValue .int runtime.rowIndex),
    ("currentRow", .object (runtime.row.getD []))]

end RuntimeContext

namespace OptionsContext

def functions (context : OptionsContext) : Assoc FunctionDefinition :=
  context.tracker.options.functions

def connectors (context : OptionsContext) : Assoc Connector :=
  context.tracker.options.connectors

/-- The rows of a grid as they are given; what is no list is no rows. -/
def gridRows (context : OptionsContext) (gridId : String) : List Value :=
  ((context.gridData.getD gridId).list?).getD []

/-- The context as one value for dotted paths. -/
def lookup (context : OptionsContext) : Value :=
  .object (context.tracker.layoutEntries ++ [
    ("gridData", .object context.gridData),
    ("runtime", context.runtime.toValue)])

/-- What tells contexts apart. -/
def observed (context : OptionsContext) : Value :=
  let tracker := context.tracker
  let texts {α : Type} (f : α → String) (items : List α) : Value :=
    .list (items.map fun item => .str (f item))
  .object [
    ("grids", texts TrackerGrid.id tracker.grids),
    ("fields", texts (fun field => field.id ++ ":" ++ field.dataType) tracker.fields),
    ("layoutNodes", texts LayoutNode.path tracker.layoutNodes),
    ("sections", texts (fun place =>
      place.id ++ ":" ++ (optionalValue .str place.tabId).display) tracker.sections),
    ("gridData", .object context.gridData),
    ("runtime", context.runtime.toValue)]

/-- The signature of what tells contexts apart. -/
def version (context : OptionsContext) : String :=
  Canonical.signature context.observed

end OptionsContext

end GridRules
