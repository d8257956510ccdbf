import GridRules.Tracker.Basic
/-!
The fields of a tracker as rows: one for each placed field, or one for each field if none is placed.
-/

namespace GridRules

namespace Tracker

/-- Whether a field is left out because it is hidden. -/
def leavesOut (source : LayoutFieldsSource) (field : TrackerField) : Bool :=
  field.isHidden && !source.includeHidden

def fieldRow (field : TrackerField) : Entries := [
  ("fieldId", .str field.id),
  ("fieldLabel", optionalValue .str field.uiLabel),
  ("dataType", .str field.dataType),
  ("isHidden", .bool field.isHidden)]

/-- The section of a grid, if it has one. -/
def sectionOf? (tracker : Tracker) (grid : TrackerGrid) : Option TrackerSection :=
  grid.sectionId.bind fun id => if id = "" then none else tracker.section? id

def placedRow (grid : TrackerGrid) (place : Option TrackerSection) (field : TrackerField) :
    Entries := [
  ("gridId", .str grid.id),
  ("gridName", .str grid.name),
  ("sectionId", optionalValue (fun s : TrackerSection => .str s.id) place),
  ("tabId", optionalValue .str (place.bind TrackerSection.tabId)),
  ("fieldId", .str field.id),
  ("fieldLabel", optionalValue .str field.uiLabel),
  ("dataType", .str field.dataType),
  ("path", .str (grid.id ++ "." ++ field.id)),
  ("isHidden", .bool field.isHidden)]

/-- The row of a placed field, unless it is left out or its grid or field does not exist. -/
def placedRow? (tracker : Tracker) (source : LayoutFieldsSource) (node : LayoutNode) :
    Option Entries :=
  match tracker.grid? node.gridId, tracker.field? node.fieldId with
  | some grid, some field =>
    let place := tracker.sectionOf? grid
    if leavesOut source field || (source.excludeSharedTab && place.any TrackerSection.isShared)
    then none
    else some (placedRow grid place field)
  | _, _ => none

def layoutRows (tracker : Tracker) (source : LayoutFieldsSource) : List Entries :=
  if tracker.layoutNodes.isEmpty then
    (tracker.fields.filter fun field => !leavesOut source field).map fieldRow
  else tracker.layoutNodes.filterMap (tracker.placedRow? source)

end Tracker

end GridRules
