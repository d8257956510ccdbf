import GridRules.Decode.Basic
/-!
Selectors say where a value comes from, and an output mapping says with selectors how a row becomes
an option.
-/

namespace GridRules

inductive Selector where
  /-- A dotted path into the row. -/
  | path (path : String)
  | const (value : Value)
  | arg (name : String)
  /-- A dotted path into the context. -/
  | context (path : String)
  deriving DecidableEq

namespace Selector

def decodePath (v : Value) : Decoded Selector :=
  (Decode.text v).map .path

def decodeConst : Value → Decoded Selector :=
  Decode.closed "ConstSelector" ["const"] fun es =>
    Selector.const <$> Decode.required es "const" Decode.any

def decodeArg : Value → Decoded Selector :=
  Decode.closed "ArgSelector" ["fromArg"] fun es =>
    Selector.arg <$> Decode.required es "fromArg" Decode.nonEmpty

def decodeContext : Value → Decoded Selector :=
  Decode.closed "ContextSelector" ["fromContext"] fun es =>
    Selector.context <$> Decode.required es "fromContext" Decode.nonEmpty

def decode : Value → Decoded Selector :=
  Decode.anyOf [("str", decodePath), ("ConstSelector", decodeConst), ("ArgSelector", decodeArg),
    ("ContextSelector", decodeContext)]

def toValue (full : Bool) : Selector → Value
  | .path p => .str p
  | .const value => modelValue full [("const", value)]
  | .arg name => modelValue full [("fromArg", .str name)]
  | .context p => modelValue full [("fromContext", .str p)]

end Selector

/-- Selectors under keys, written back. -/
def selectorsValue (full : Bool) (selectors : Assoc Selector) : Value :=
  .object (selectors.map fun entry => (entry.1, entry.2.toValue full))

structure OutputMapping where
  label : Selector
  value : Selector
  id : Option Selector
  extra : Option (Assoc Selector)
  deriving DecidableEq

namespace OutputMapping

def decode : Value → Decoded OutputMapping :=
  Decode.closed "OutputMapping" ["label", "value", "id", "extra"] fun es =>
    OutputMapping.mk
      <$> Decode.required es "label" Selector.decode
      <*> Decode.required es "value" Selector.decode
      <*> Decode.optional es "id" Selector.decode
      <*> Decode.optional es "extra" (Decode.dictionary Selector.decode)

def toValue (full : Bool) (mapping : OutputMapping) : Value :=
  modelValue full [
    ("label", mapping.label.toValue full),
    ("value", mapping.value.toValue full),
    ("id", optionalValue (Selector.toValue full) mapping.id),
    ("extra", optionalValue (selectorsValue full) mapping.extra)]

end OutputMapping

end GridRules
