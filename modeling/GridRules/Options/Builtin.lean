import GridRules.Options.Item
import GridRules.Tracker.Basic
import GridRules.Value.Compare
/-!
Builtin option functions. They are answered from the tracker document alone.
-/

namespace GridRules

inductive Builtin where
  | fieldPaths
  | fieldPathsWithShared
  | grids
  | operators
  | actions
  | ruleSetValues
  deriving DecidableEq

namespace Builtin

def name : Builtin → String
  | .fieldPaths => "all_field_paths"
  | .fieldPathsWithShared => "all_field_paths_including_shared"
  | .grids => "all_grids"
  | .operators => "all_operators"
  | .actions => "all_actions"
  | .ruleSetValues => "all_rule_set_values"

def all : List Builtin :=
  [.fieldPaths, .fieldPathsWithShared, .grids, .operators, .actions, .ruleSetValues]

def ofName? (name : String) : Option Builtin :=
  all.find? fun builtin => builtin.name == name

/-- The option for a placed field, unless it is hidden or its grid or field does not exist. -/
def placedField? (tracker : Tracker) (withoutShared : Bool) (node : LayoutNode) :
    Option OptionItem :=
  match tracker.grid? node.gridId, tracker.field? node.fieldId with
  | some grid, some field =>
    let shared := grid.sectionId.any fun id =>
      tracker.sections.any fun place => place.id == id && place.isShared
    if field.isHidden || (withoutShared && shared) then none
    else some (.plain (grid.title ++ " → " ++ field.label) (.str node.path) node.path)
  | _, _ => none

def placedFields (tracker : Tracker) (withoutShared : Bool) : List OptionItem :=
  tracker.layoutNodes.filterMap (placedField? tracker withoutShared)

/-- The options of a builtin function. -/
def options (tracker : Tracker) : Builtin → List OptionItem
  | .fieldPaths => placedFields tracker true
  | .fieldPathsWithShared => placedFields tracker false
  | .grids => tracker.grids.map fun grid => .plain grid.title (.str grid.id) grid.id
  | .operators => Comparison.all.map fun op => .ofText op.name
  | .actions => ["isHidden", "isRequired", "isDisabled"].map .ofText
  | .ruleSetValues => [.plain "True" (.str "true") "true", .plain "False" (.str "false") "false"]

end Builtin

/-- Whether a function id is that of a builtin function. -/
def isBuiltin (functionId : String) : Bool :=
  (Builtin.ofName? functionId).isSome

/-- The options of a function if it is builtin, else none. -/
def builtinOptions (functionId : String) (tracker : Tracker) : List OptionItem :=
  match Builtin.ofName? functionId with
  | some builtin => builtin.options tracker
  | none => []

end GridRules
