import GridRules.Assoc
import GridRules.Number.Basic
/-!
The values a document is made of. An object keeps its entries in the order they were written; a
lookup finds the first entry of a key.
-/

namespace GridRules

inductive Value where
  | null
  | bool (b : Bool)
  | int (n : Int)
  | float (x : Binary64)
  | str (s : String)
  | list (items : List Value)
  | object (entries : List (String × Value))

namespace Value

mutual

def decEq : (a b : Value) → Decidable (a = b)
  | .null, b => match b with
    | .null => isTrue rfl
    | .bool _ | .int _ | .float _ | .str _ | .list _ | .object _ => isFalse nofun
  | .bool x, b => match b with
    | .bool y => decidable_of_iff (x = y) (by simp)
    | .null | .int _ | .float _ | .str _ | .list _ | .object _ => isFalse nofun
  | .int x, b => match b with
    | .int y => decidable_of_iff (x = y) (by simp)
    | .null | .bool _ | .float _ | .str _ | .list _ | .object _ => isFalse nofun
  | .float x, b => match b with
    | .float y => decidable_of_iff (x = y) (by simp)
    | .null | .bool _ | .int _ | .str _ | .list _ | .object _ => isFalse nofun
  | .str x, b => match b with
    | .str y => decidable_of_iff (x = y) (by simp)
    | .null | .bool _ | .int _ | .float _ | .list _ | .object _ => isFalse nofun
  | .list xs, b => match b with
    | .list ys => match decEqItems xs ys with
      | isTrue h => isTrue (by rw [h])
      | isFalse h => isFalse fun e => h (by injection e)
    | .null | .bool _ | .int _ | .float _ | .str _ | .object _ => isFalse nofun
  | .object xs, b => match b with
    | .object ys => match decEqEntries xs ys with
      | isTrue h => isTrue (by rw [h])
      | isFalse h => isFalse fun e => h (by injection e)
    | .null | .bool _ | .int _ | .float _ | .str _ | .list _ => isFalse nofun

def decEqItems : (xs ys : List Value) → Decidable (xs = ys)
  | [], [] => isTrue rfl
  | [], _ :: _ => isFalse nofun
  | _ :: _, [] => isFalse nofun
  | x :: xs, y :: ys =>
    match decEq x y, decEqItems xs ys with
    | isTrue h, isTrue hs => isTrue (by rw [h, hs])
    | isFalse h, _ => isFalse fun e => h (by injection e)
    | _, isFalse hs => isFalse fun e => hs (by injection e)

def decEqEntries : (xs ys : List (String × Value)) → Decidable (xs = ys)
  | [], [] => isTrue rfl
  | [], _ :: _ => isFalse nofun
  | _ :: _, [] => isFalse nofun
  | (k, x) :: xs, (l, y) :: ys =>
    match decEq x y, decEqEntries xs ys with
    | isTrue h, isTrue hs =>
      if hk : k = l then isTrue (by rw [hk, h, hs])
      else isFalse fun e => hk (by injection e with e1 _; injection e1)
    | isFalse h, _ => isFalse fun e => h (by injection e with e1 _; injection e1)
    | _, isFalse hs => isFalse fun e => hs (by injection e)

end

instance : DecidableEq Value := decEq

end Value

/-- The entries of an object, or the columns of a row. -/
abbrev Entries := Assoc Value

/-- The value under a key, null if there is none. -/
def Entries.getD (entries : Entries) (key : String) : Value :=
  (entries.get? key).getD .null

namespace Value

instance : Inhabited Value := ⟨.null⟩

def ofNumber : Number → Value
  | .int n => .int n
  | .float x => .float x

/-- The number a value is; truth values are no numbers. -/
def number? : Value → Option Number
  | .int n => some (.int n)
  | .float x => some (.float x)
  | _ => none

def isNumber (v : Value) : Bool :=
  v.number?.isSome

def isNaN : Value → Bool
  | .float x => x.isNaN
  | _ => false

def isNull : Value → Bool
  | .null => true
  | _ => false

def string? : Value → Option String
  | .str s => some s
  | _ => none

def list? : Value → Option (List Value)
  | .list items => some items
  | _ => none

def object? : Value → Option Entries
  | .object entries => some entries
  | _ => none

/-- The value under a key of an object; null where there is no object or no such key. -/
def field (v : Value) (key : String) : Value :=
  match v with
  | .object entries => Entries.getD entries key
  | _ => .null

/-- Null, the empty text and the empty list are empty. -/
def isEmpty : Value → Bool
  | .null => true
  | .str s => s == ""
  | .list items => items.isEmpty
  | _ => false

end Value

end GridRules
