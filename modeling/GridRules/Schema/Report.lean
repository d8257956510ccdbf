/-! Reports on documents: errors make a document unusable, warnings do not. -/

namespace GridRules

structure ValidationReport where
  errors : List String
  warnings : List String
  deriving DecidableEq

namespace ValidationReport

def empty : ValidationReport := ⟨[], []⟩

def valid (report : ValidationReport) : Bool :=
  report.errors.isEmpty

def merge (report more : ValidationReport) : ValidationReport :=
  ⟨report.errors ++ more.errors, report.warnings ++ more.warnings⟩

end ValidationReport

end GridRules
