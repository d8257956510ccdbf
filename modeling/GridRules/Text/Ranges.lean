/-!
Properties of characters given as tables: sorted ranges of code points, and runs of code points
whose images lie at one distance.
-/

namespace GridRules

/-- Whether the code point lies in one of the ranges, both ends included. -/
def inRanges (ranges : List (Nat × Nat)) (code : Nat) : Bool :=
  ranges.any fun range => range.1 ≤ code && code ≤ range.2

/-- Every `step`-th code point from `first` to `last`, sent to `target` and on at equal distance. -/
structure CaseRun where
  first : Nat
  last : Nat
  step : Nat
  target : Nat

def CaseRun.contains (run : CaseRun) (code : Nat) : Bool :=
  run.first ≤ code && code ≤ run.last && (code - run.first) % run.step == 0

def CaseRun.image (run : CaseRun) (code : Nat) : Nat :=
  run.target + (code - run.first)

/-- The code points that the run sends to `code`. -/
def CaseRun.preimage (run : CaseRun) (code : Nat) : Option Nat :=
  if run.target ≤ code && run.contains (run.first + (code - run.target)) then
    some (run.first + (code - run.target))
  else none

end GridRules
