import GridRules.Value.Basic
/-! Options: what a field can be set to, with the label that is shown for it. -/

namespace GridRules

structure OptionItem where
  label : String
  value : Value
  id : String
  extra : Option Entries
  deriving DecidableEq

namespace OptionItem

/-- An option without extra values. -/
def plain (label : String) (value : Value) (id : String) : OptionItem :=
  ⟨label, value, id, none⟩

/-- An option that is shown as the text it stands for. -/
def ofText (text : String) : OptionItem :=
  plain text (.str text) text

/-- The entries of an option; extra values are left out if there are none. -/
def entries (item : OptionItem) : Entries :=
  [("label", .str item.label), ("value", item.value), ("id", .str item.id)] ++
    match item.extra with
    | some (entry :: rest) => [("extra", .object (entry :: rest))]
    | _ => []

def toValue (item : OptionItem) : Value :=
  .object item.entries

end OptionItem

end GridRules
