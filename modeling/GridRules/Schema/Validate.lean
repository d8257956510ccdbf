import GridRules.Schema.Calculations
import GridRules.Schema.OptionFunctions
import GridRules.Schema.Report
import GridRules.Schema.Rules
import GridRules.Tracker.Basic
/-!
The check of a whole tracker document. What grids, sections and placed fields refer to has to exist;
and rules that are ignored when they are applied are reported here instead.
-/

namespace GridRules

namespace Tracker

def nodeProblems (tracker : Tracker) (node : LayoutNode) : List String :=
  (if (tracker.grid? node.gridId).isSome then []
    else ["layoutNode references missing gridId \"" ++ node.gridId ++ "\""]) ++
  (if (tracker.field? node.fieldId).isSome then []
    else ["layoutNode references missing fieldId \"" ++ node.fieldId ++ "\""])

def sectionProblem? (tracker : Tracker) (place : TrackerSection) : Option String :=
  place.tabId.bind fun tabId =>
    if tracker.tabs.any fun tab => tab.id == tabId then none
    else some ("section \"" ++ place.id ++ "\" references missing tabId \"" ++ tabId ++ "\"")

def gridProblem? (tracker : Tracker) (grid : TrackerGrid) : Option String :=
  grid.sectionId.bind fun sectionId =>
    if (tracker.section? sectionId).isSome then none
    else some ("grid \"" ++ grid.id ++ "\" references missing sectionId \"" ++ sectionId ++ "\"")

def checkLayout (tracker : Tracker) : ValidationReport :=
  ⟨tracker.layoutNodes.flatMap tracker.nodeProblems ++
    tracker.sections.filterMap tracker.sectionProblem? ++
    tracker.grids.filterMap tracker.gridProblem?, []⟩

/-- The reports of all checks. -/
def validate (tracker : Tracker) : Except Fault ValidationReport := do
  let calculations ← tracker.checkCalculations
  let rules ← tracker.checkRules
  return ((tracker.checkLayout.merge calculations).merge rules).merge
    tracker.checkOptionFunctions

end Tracker

/-- Checks a document that need not be a tracker; what keeps it from being one is one error. -/
def validateDocument (v : Value) : Except Fault ValidationReport :=
  match Tracker.ofValue v with
  | .ok tracker => tracker.validate
  | .error e => .ok ⟨[e.firstLine], []⟩

end GridRules
