import GridRules.Options.Item
import GridRules.Options.Selector
import GridRules.Json.Write
import GridRules.Path.Lookup
/-!
Rows, and how they become options. Selectors read from a row, from the arguments of a call or from
the context of the field.
-/

namespace GridRules

/-- What a call gives to selectors and templates. -/
structure Inputs where
  args : Entries
  context : Value

/-- A list item as a row; what is no object stands under `value`. -/
def rowOf : Value → Entries
  | .object entries => entries
  | v => [("value", v)]

/-- A value as rows; what is no list has none. -/
def normalizeRows : Value → List Entries
  | .list items => items.map rowOf
  | _ => []

namespace Selector

/-- The value that a selector stands for. -/
def read (selector : Selector) (row : Entries) (inputs : Inputs) : Except Fault Value :=
  match selector with
  | .path p => (Value.object row).lookupD p
  | .const value => .ok value
  | .arg name => .ok (inputs.args.getD name)
  | .context p => inputs.context.lookupD p

/-- The values of selectors under their keys. -/
def readAll (selectors : Assoc Selector) (row : Entries) (inputs : Inputs) :
    Except Fault Entries :=
  selectors.mapM fun entry => (entry.2.read row inputs).map fun value => (entry.1, value)

end Selector

namespace OutputMapping

/-- The id of an option: the value that the mapping selects for it, or else that of the option. -/
def readId (mapping : OutputMapping) (value : Value) (row : Entries) (inputs : Inputs) :
    Except Fault String :=
  match mapping.id with
  | none => .ok value.plain
  | some selector => do
    match ← selector.read row inputs with
    | .null => return value.plain
    | id => return id.plain

def readExtra (mapping : OutputMapping) (row : Entries) (inputs : Inputs) :
    Except Fault (Option Entries) :=
  match mapping.extra with
  | none | some [] => .ok none
  | some selectors => (Selector.readAll selectors row inputs).map some

/-- The option of a row; a row without a label or without a value has none. -/
def option? (mapping : OutputMapping) (inputs : Inputs) (row : Entries) :
    Except Fault (Option OptionItem) := do
  let label ← mapping.label.read row inputs
  let value ← mapping.value.read row inputs
  if label.isNull || value.isNull then return none
  let id ← mapping.readId value row inputs
  let extra ← mapping.readExtra row inputs
  return some ⟨label.plain, value, id, extra⟩

/-- The options of rows. -/
def options (mapping : OutputMapping) (rows : List Entries) (inputs : Inputs) :
    Except Fault (List OptionItem) :=
  (rows.mapM (mapping.option? inputs)).map fun found => found.filterMap fun item => item

end OutputMapping

end GridRules
