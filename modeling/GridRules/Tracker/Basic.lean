import GridRules.Options.Definition
/-!
Tracker documents: grids and fields, how fields are placed in grids, the rules of fields and the
option functions. Keys that mean nothing here are left alone, and rules stay as they are written,
so that a check of the document can report what is wrong with them.
-/

namespace GridRules

/-- The tab whose sections all other tabs share. -/
def sharedTabId : String := "shared_tab"

structure TrackerTab where
  id : String
  name : String
  deriving DecidableEq

structure TrackerSection where
  id : String
  name : String
  tabId : Option String
  deriving DecidableEq

structure TrackerGrid where
  id : String
  name : String
  sectionId : Option String
  type : Option String
  deriving DecidableEq

structure TrackerField where
  id : String
  dataType : String
  uiLabel : Option String
  config : Entries
  deriving DecidableEq

/-- A field placed in a grid. -/
structure LayoutNode where
  gridId : String
  fieldId : String
  order : Option Int
  deriving DecidableEq

structure Tracker where
  tabs : List TrackerTab
  sections : List TrackerSection
  grids : List TrackerGrid
  fields : List TrackerField
  layoutNodes : List LayoutNode
  validations : Entries
  calculations : Entries
  options : OptionDefinitions
  deriving DecidableEq

namespace TrackerTab

def decode : Value → Decoded TrackerTab :=
  Decode.lenient "TrackerTab" fun es =>
    TrackerTab.mk
      <$> Decode.required es "id" Decode.text
      <*> Decode.field es "name" "" Decode.text

def toValue (tab : TrackerTab) : Value :=
  .object [("id", .str tab.id), ("name", .str tab.name)]

end TrackerTab

namespace TrackerSection

def decode : Value → Decoded TrackerSection :=
  Decode.lenient "TrackerSection" fun es =>
    TrackerSection.mk
      <$> Decode.required es "id" Decode.text
      <*> Decode.field es "name" "" Decode.text
      <*> Decode.optional es "tabId" Decode.text

def toValue (section_ : TrackerSection) : Value :=
  .object [
    ("id", .str section_.id),
    ("name", .str section_.name),
    ("tabId", optionalValue .str section_.tabId)]

/-- Whether the section is on the shared tab. -/
def isShared (section_ : TrackerSection) : Bool :=
  section_.tabId == some sharedTabId

end TrackerSection

namespace TrackerGrid

def decode : Value → Decoded TrackerGrid :=
  Decode.lenient "TrackerGrid" fun es =>
    TrackerGrid.mk
      <$> Decode.required es "id" Decode.text
      <*> Decode.field es "name" "" Decode.text
      <*> Decode.optional es "sectionId" Decode.text
      <*> Decode.optional es "type" Decode.text

def toValue (grid : TrackerGrid) : Value :=
  .object [
    ("id", .str grid.id),
    ("name", .str grid.name),
    ("sectionId", optionalValue .str grid.sectionId),
    ("type", optionalValue .str grid.type)]

/-- The name of the grid, or its id if it has none. -/
def title (grid : TrackerGrid) : String :=
  if grid.name = "" then grid.id else grid.name

end TrackerGrid

namespace TrackerField

def decodeUi : Value → Decoded (Option String) :=
  Decode.lenient "FieldUi" fun es => Decode.optional es "label" Decode.text

def decode : Value → Decoded TrackerField :=
  Decode.lenient "TrackerField" fun es =>
    TrackerField.mk
      <$> Decode.required es "id" Decode.text
      <*> Decode.field es "dataType" "string" Decode.text
      <*> Decode.field es "ui" none decodeUi
      <*> Decode.field es "config" [] Decode.rawObject

def toValue (field : TrackerField) : Value :=
  .object [
    ("id", .str field.id),
    ("dataType", .str field.dataType),
    ("ui", .object [("label", optionalValue .str field.uiLabel)]),
    ("config", .object field.config)]

/-- The label of the field, or its id if it has none. -/
def label (field : TrackerField) : String :=
  match field.uiLabel with
  | some text => if text = "" then field.id else text
  | none => field.id

def isHidden (field : TrackerField) : Bool :=
  field.config.getD "isHidden" = .bool true

end TrackerField

namespace LayoutNode

def decode : Value → Decoded LayoutNode :=
  Decode.lenient "LayoutNode" fun es =>
    LayoutNode.mk
      <$> Decode.required es "gridId" Decode.text
      <*> Decode.required es "fieldId" Decode.text
      <*> Decode.optional es "order" Decode.integer

def toValue (node : LayoutNode) : Value :=
  .object [
    ("gridId", .str node.gridId),
    ("fieldId", .str node.fieldId),
    ("order", optionalValue .int node.order)]

/-- The path of the placed field. -/
def path (node : LayoutNode) : String :=
  node.gridId ++ "." ++ node.fieldId

end LayoutNode

namespace Tracker

/-- What messages call a tracker document. -/
def model : String := "TrackerSchema"

def decode : Value → Decoded Tracker :=
  Decode.lenient model fun es =>
    Tracker.mk
      <$> Decode.field es "tabs" [] (Decode.list TrackerTab.decode)
      <*> Decode.field es "sections" [] (Decode.list TrackerSection.decode)
      <*> Decode.field es "grids" [] (Decode.list TrackerGrid.decode)
      <*> Decode.field es "fields" [] (Decode.list TrackerField.decode)
      <*> Decode.field es "layoutNodes" [] (Decode.list LayoutNode.decode)
      <*> Decode.field es "validations" [] Decode.rawObject
      <*> Decode.field es "calculations" [] Decode.rawObject
      <*> Decode.field es "dynamicOptions" .empty OptionDefinitions.decode

/-- A tracker from a whole document. -/
def ofValue (v : Value) : Except DocumentError Tracker :=
  decodeDocument "tracker" model decode v

/-- The layout of the tracker, written back without rules and option functions. -/
def layoutEntries (tracker : Tracker) : Entries := [
  ("tabs", .list (tracker.tabs.map TrackerTab.toValue)),
  ("sections", .list (tracker.sections.map TrackerSection.toValue)),
  ("grids", .list (tracker.grids.map TrackerGrid.toValue)),
  ("fields", .list (tracker.fields.map TrackerField.toValue)),
  ("layoutNodes", .list (tracker.layoutNodes.map LayoutNode.toValue))]

def toValue (tracker : Tracker) : Value :=
  .object (tracker.layoutEntries ++ [
    ("validations", .object tracker.validations),
    ("calculations", .object tracker.calculations),
    ("dynamicOptions", tracker.options.toValue true)])

/-- Items under their ids; of two with one id the later one counts. -/
def byId {α : Type} (id : α → String) (items : List α) : Assoc α :=
  Assoc.putAll [] (items.map fun item => (id item, item))

def gridsById (tracker : Tracker) : Assoc TrackerGrid :=
  byId TrackerGrid.id tracker.grids

def fieldsById (tracker : Tracker) : Assoc TrackerField :=
  byId TrackerField.id tracker.fields

def sectionsById (tracker : Tracker) : Assoc TrackerSection :=
  byId TrackerSection.id tracker.sections

def grid? (tracker : Tracker) (id : String) : Option TrackerGrid :=
  tracker.gridsById.get? id

def field? (tracker : Tracker) (id : String) : Option TrackerField :=
  tracker.fieldsById.get? id

def section? (tracker : Tracker) (id : String) : Option TrackerSection :=
  tracker.sectionsById.get? id

/-- The paths of all placed fields. -/
def fieldPaths (tracker : Tracker) : List String :=
  tracker.layoutNodes.map LayoutNode.path

end Tracker

end GridRules
