import GridRules.Json.Write
import GridRules.Number.Numeral
import GridRules.Value.Equality
/-!
The loose comparisons of filters. Values also count as equal if their texts in labels are equal,
and the order of two values is asked only if both are finite numbers or spell one.
-/

namespace GridRules

/-- Whether `part` stands somewhere in `whole`. -/
def occursWithin (part : List Char) : List Char → Bool
  | [] => part.isEmpty
  | c :: rest => part.isPrefixOf (c :: rest) || occursWithin part rest

inductive Comparison where
  | eq
  | neq
  | gt
  | gte
  | lt
  | lte
  | isIn
  | notIn
  | contains
  | notContains
  | isEmpty
  | notEmpty
  | startsWith
  | endsWith
  deriving DecidableEq

namespace Comparison

def name : Comparison → String
  | .eq => "eq"
  | .neq => "neq"
  | .gt => "gt"
  | .gte => "gte"
  | .lt => "lt"
  | .lte => "lte"
  | .isIn => "in"
  | .notIn => "not_in"
  | .contains => "contains"
  | .notContains => "not_contains"
  | .isEmpty => "is_empty"
  | .notEmpty => "not_empty"
  | .startsWith => "starts_with"
  | .endsWith => "ends_with"

/-- All comparisons, in the order in which they are listed to authors. -/
def all : List Comparison :=
  [.eq, .neq, .gt, .gte, .lt, .lte, .isIn, .notIn, .contains, .notContains, .isEmpty, .notEmpty,
    .startsWith, .endsWith]

def ofName? (name : String) : Option Comparison :=
  all.find? fun c => c.name == name

end Comparison

namespace Value

/-- The finite number a value is or spells. The test fails on an integer beyond the range of
doubles. -/
def finiteNumber? (v : Value) : Option (Option Number) :=
  match v with
  | .str s =>
    match Numeral.lenient? s with
    | some x => some (if x.isFinite then some (.float x) else none)
    | none => some none
  | _ =>
    match v.number? with
    | some n => n.finiteTest?.map fun finite => if finite then some n else none
    | none => some none

def looseEq (a b : Value) : Bool :=
  (a.sameKind b && a.eqv b) || a.plain == b.plain

/-- Whether a list has an item equal to `v`, or a text has the text of `v` in it. -/
def holds (container v : Value) : Bool :=
  match container with
  | .list items => v.memOf items
  | .str s => occursWithin v.plain.toList s.toList
  | _ => false

/-- Whether `v` is loosely equal to an item of a list, or to the value itself if it is no list. -/
def isAmong (v candidates : Value) : Bool :=
  match candidates with
  | .list items => items.any fun item => item.looseEq v
  | other => other.looseEq v

def orderTest (test : Number → Number → Bool) (a b : Value) : Option Bool := do
  let m ← a.finiteNumber?
  let n ← b.finiteNumber?
  match m, n with
  | some m, some n => return test m n
  | _, _ => return false

/-- Whether `actual` meets a comparison with `expected`; there is no result if an order is asked
of an integer beyond the range of doubles. -/
def meets? (actual : Value) (comparison : Comparison) (expected : Value) : Option Bool :=
  match comparison with
  | .eq => some (actual.looseEq expected)
  | .neq => some (!actual.looseEq expected)
  | .gt => orderTest (fun m n => n.lt m) actual expected
  | .gte => orderTest (fun m n => n.le m) actual expected
  | .lt => orderTest Number.lt actual expected
  | .lte => orderTest Number.le actual expected
  | .isIn => some (actual.isAmong expected)
  | .notIn => some (!actual.isAmong expected)
  | .contains => some (actual.holds expected)
  | .notContains => some (!actual.holds expected)
  | .isEmpty => some actual.isEmpty
  | .notEmpty => some (!actual.isEmpty)
  | .startsWith => some (expected.plain.toList.isPrefixOf actual.plain.toList)
  | .endsWith => some (expected.plain.toList.isSuffixOf actual.plain.toList)

end Value

end GridRules
