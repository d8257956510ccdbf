/-!
Maps from texts as lists of entries in the order they were written. A lookup finds the first entry
of a key; setting a key keeps its place, and a new key goes behind all others.
-/

namespace GridRules

abbrev Assoc (α : Type) := List (String × α)

namespace Assoc

variable {α : Type}

def get? (entries : Assoc α) (key : String) : Option α :=
  entries.lookup key

def has (entries : Assoc α) (key : String) : Bool :=
  (entries.get? key).isSome

def keys (entries : Assoc α) : List String :=
  entries.map (·.1)

def put (entries : Assoc α) (key : String) (value : α) : Assoc α :=
  match entries with
  | [] => [(key, value)]
  | (k, v) :: rest => if k = key then (key, value) :: rest else (k, v) :: Assoc.put rest key value

def putAll (entries more : Assoc α) : Assoc α :=
  more.foldl (fun all entry => all.put entry.1 entry.2) entries

@[simp] theorem get?_nil (key : String) : get? ([] : Assoc α) key = none := rfl

theorem get?_cons (k : String) (v : α) (rest : Assoc α) (key : String) :
    get? ((k, v) :: rest) key = if key = k then some v else get? rest key := by
  by_cases h : key = k
  · simp [get?, h]
  · simp [get?, List.lookup_cons, h, show (key == k) = false from beq_false_of_ne h]

theorem get?_put (entries : Assoc α) (key other : String) (value : α) :
    (entries.put key value).get? other =
      if other = key then some value else entries.get? other := by
  induction entries with
  | nil => simp [put, get?_cons]
  | cons entry rest ih =>
    obtain ⟨k, v⟩ := entry
    by_cases h : k = key
    · subst h
      by_cases ho : other = k <;> simp [put, get?_cons, ho]
    · by_cases ho : other = k
      · subst ho
        simp [put, get?_cons, h]
      · simp [put, get?_cons, h, ho, ih]

end Assoc

end GridRules
