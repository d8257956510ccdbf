import GridRules.Expr.Evaluate
import GridRules.Options.Rows
import GridRules.Options.Transform
import GridRules.Text.Casefold
import GridRules.Value.Coerce
/-! Applying transforms to rows. -/

namespace GridRules

namespace FilterPredicate

/-- What the field is compared with. -/
def expected (predicate : FilterPredicate) (inputs : Inputs) : Except Fault Value :=
  match predicate.valueFromArg, predicate.valueFromContext with
  | some name, _ => .ok (inputs.args.getD name)
  | none, some path => inputs.context.lookupD path
  | none, none => .ok predicate.value

def accepts (predicate : FilterPredicate) (row : Entries) (inputs : Inputs) :
    Except Fault Bool := do
  let actual ← (Value.object row).lookupD predicate.field
  let expected ← predicate.expected inputs
  orTooLarge (actual.meets? predicate.op expected)

end FilterPredicate

namespace FilterSpec

/-- Whether a row passes predicates one by one; the first that decides ends the test. -/
def passes (anyMatches : Bool) (row : Entries) (inputs : Inputs) :
    List FilterPredicate → Except Fault Bool
  | [] => .ok !anyMatches
  | predicate :: rest => do
    if (← predicate.accepts row inputs) = anyMatches then return anyMatches
    passes anyMatches row inputs rest

/-- Whether a filter keeps a row. -/
def keeps (spec : FilterSpec) (inputs : Inputs) (row : Entries) : Except Fault Bool :=
  match spec.expr with
  | some node => do orTooLarge (← evaluate? (.object node) row).truthy?
  | none =>
    if spec.predicates.isEmpty then .ok true
    else passes spec.anyMatches row inputs spec.predicates

end FilterSpec

/-- The rows that a test keeps. -/
def keepRows (test : Entries → Except Fault Bool) : List Entries → Except Fault (List Entries)
  | [] => .ok []
  | row :: rest => do
    let kept ← test row
    let others ← keepRows test rest
    return if kept then row :: others else others

/-- Rows with the key that they are compared by. -/
def keyedRows {κ : Type} (key : Entries → Except Fault κ) (rows : List Entries) :
    Except Fault (List (κ × Entries)) :=
  rows.mapM fun row => (key row).map fun k => (k, row)

/-- The first row of each key. -/
def firstOfEach (keyed : List (String × Entries)) : List String → List Entries :=
  match keyed with
  | [] => fun _ => []
  | (key, row) :: rest => fun seen =>
    if seen.contains key then firstOfEach rest seen
    else row :: firstOfEach rest (key :: seen)

def uniqueRows (path : String) (rows : List Entries) : Except Fault (List Entries) := do
  let keyed ← keyedRows (fun row => ((Value.object row).lookupD path).map Value.stableKey) rows
  return firstOfEach keyed []

/-- The number that a row is sorted by; none stands for what is no number. -/
def numberKey (path : String) (row : Entries) : Except Fault (Option Binary64) := do
  let n ← orTooLarge (← (Value.object row).lookupD path).toNumber?
  let x ← orTooLarge n.toFloat?
  return if x.isNaN then none else some x

/-- Whether one number comes before another; what is no number comes first. -/
def numberBefore : Option Binary64 → Option Binary64 → Bool
  | none, none => false
  | none, some _ => true
  | some _, none => false
  | some x, some y => (Number.float x).lt (.float y)

/-- The texts that a row is sorted by: without regard to case, then with it. -/
def textKey (path : String) (row : Entries) : Except Fault (String × String) := do
  let text := (← (Value.object row).lookupD path).plain
  return (casefold text, text)

def textBefore (a b : String × String) : Bool :=
  decide (a.1 < b.1) || (a.1 == b.1 && decide (a.2 < b.2))

/-- Sorts rows by their keys; rows whose keys are equal keep their order. -/
def sortKeyed {κ : Type} (before : κ → κ → Bool) (descending : Bool)
    (keyed : List (κ × Entries)) : List Entries :=
  (keyed.mergeSort fun a b =>
    if descending then !before a.1 b.1 else !before b.1 a.1).map (·.2)

def sortRows (spec : SortSpec) (rows : List Entries) : Except Fault (List Entries) :=
  if spec.byNumber then
    (keyedRows (numberKey spec.key) rows).map (sortKeyed numberBefore spec.descending)
  else (keyedRows (textKey spec.key) rows).map (sortKeyed textBefore spec.descending)

/-- The row of a child: its entries over those of the parent, or the child under a key. -/
def childRow (key : String) (row : Entries) : Value → Entries
  | .object entries => row.putAll entries
  | child => row.put key child

/-- The key of children that are no objects: the last piece of the path. -/
def childKey (path : String) : String :=
  match (pathPieces path).getLast? with
  | some piece => if piece = "" then "value" else piece
  | none => "value"

/-- The rows of the children that a row has at a path; a row without a list there stays. -/
def expandRow (path : String) (row : Entries) : Except Fault (List Entries) := do
  match ← (Value.object row).lookupD path with
  | .list children => return children.map (childRow (childKey path) row)
  | _ => return [row]

def flattenRows (path : String) (v : Value) : Except Fault (List Entries) :=
  match v with
  | .list _ => ((normalizeRows v).mapM (expandRow path)).map List.flatten
  | _ => (v.lookupD path).map normalizeRows

namespace Transform

/-- The rows that a transform makes of a value. -/
def apply (step : Transform) (v : Value) (inputs : Inputs) : Except Fault (List Entries) :=
  let rows := normalizeRows v
  match step with
  | .filter spec => keepRows (spec.keeps inputs) rows
  | .mapFields mappings => rows.mapM fun row =>
      (Selector.readAll mappings row inputs).map row.putAll
  | .unique path => uniqueRows path rows
  | .sort spec => sortRows spec rows
  | .limit count => .ok (rows.take count.1)
  | .flattenPath path => flattenRows path v

/-- Applies transforms one behind the other. -/
def applyAll (steps : List Transform) (rows : List Entries) (inputs : Inputs) :
    Except Fault (List Entries) :=
  match steps with
  | [] => .ok rows
  | step :: rest => do
    let rows ← step.apply (.list (rows.map .object)) inputs
    applyAll rest rows inputs

end Transform

end GridRules
