import GridRules.Options.Apply
import GridRules.Proofs.DistinctKeys
import GridRules.Proofs.FieldReferences
import GridRules.Proofs.NumberRanges
import GridRules.Proofs.Results

namespace GridRules

/-- The computation comes to a result with the property. -/
def Gives {ε α : Type} (Q : α → Prop) (x : Except ε α) : Prop :=
  ∃ a, x = .ok a ∧ Q a

namespace Gives

variable {ε α β : Type} {Q : α → Prop} {R : β → Prop} {x : Except ε α}

theorem ok {a : α} (h : Q a) : Gives Q (.ok a : Except ε α) := ⟨a, rfl, h⟩

theorem mono {Q' : α → Prop} (h : Gives Q x) (hQ : ∀ a, Q a → Q' a) : Gives Q' x := by
  obtain ⟨a, hx, ha⟩ := h
  exact ⟨a, hx, hQ a ha⟩

theorem bind {f : α → Except ε β} (h : Gives Q x) (hf : ∀ a, Q a → Gives R (f a)) :
    Gives R (x >>= f) := by
  obtain ⟨a, rfl, ha⟩ := h
  exact hf a ha

theorem map {f : α → β} (h : Gives Q x) (hf : ∀ a, Q a → R (f a)) : Gives R (x.map f) := by
  obtain ⟨a, rfl, ha⟩ := h
  exact ok (hf a ha)

theorem mapM {items : List α} {f : α → Except ε β} (h : ∀ a ∈ items, Gives R (f a)) :
    Gives (fun results => ∀ b ∈ results, R b) (items.mapM f) := by
  induction items with
  | nil => exact ok nofun
  | cons a items ih =>
    rw [List.mapM_cons]
    refine (h a List.mem_cons_self).bind fun b hb => ?_
    refine (ih fun c hc => h c (List.mem_cons_of_mem a hc)).bind fun rest hrest => ok ?_
    exact List.forall_mem_cons.mpr ⟨hb, hrest⟩

theorem orTooLarge {o : Option α} (h : o.isSome = true) :
    Gives (fun a => o = some a) (GridRules.orTooLarge o) := by
  obtain ⟨a, rfl⟩ := Option.isSome_iff_exists.mp h
  exact ok rfl

end Gives

namespace Value

mutual

/-- Whether no number in a value, nor a text in it that spells one, is beyond the range of
doubles. -/
def allInRange : Value → Bool
  | .list items => itemsInRange items
  | .object entries => entriesInRange entries
  | v => decide v.InRange

def itemsInRange : List Value → Bool
  | [] => true
  | v :: rest => allInRange v && itemsInRange rest

def entriesInRange : List (String × Value) → Bool
  | [] => true
  | (_, v) :: rest => allInRange v && entriesInRange rest

end

/-- Fit for use: no integer in the value is too long to be written, and where numbers are measured
at all, all in the value are within range. -/
structure Suits (measuring : Prop) (v : Value) : Prop where
  printable : v.printable = true
  ranged : measuring → v.allInRange = true

variable {measuring : Prop}

theorem itemsPrintable_iff {items : List Value} :
    itemsPrintable items = true ↔ ∀ v ∈ items, v.printable = true := by
  induction items with
  | nil => simp [itemsPrintable]
  | cons v rest ih => simp [itemsPrintable, ih]

theorem entriesPrintable_iff {entries : Entries} :
    entriesPrintable entries = true ↔ ∀ entry ∈ entries, entry.2.printable = true := by
  induction entries with
  | nil => simp [entriesPrintable]
  | cons entry rest ih => simp [entriesPrintable, ih]

theorem itemsInRange_iff {items : List Value} :
    itemsInRange items = true ↔ ∀ v ∈ items, v.allInRange = true := by
  induction items with
  | nil => simp [itemsInRange]
  | cons v rest ih => simp [itemsInRange, ih]

theorem entriesInRange_iff {entries : Entries} :
    entriesInRange entries = true ↔ ∀ entry ∈ entries, entry.2.allInRange = true := by
  induction entries with
  | nil => simp [entriesInRange]
  | cons entry rest ih => simp [entriesInRange, ih]

theorem suits_list {items : List Value} :
    (Value.list items).Suits measuring ↔ ∀ v ∈ items, v.Suits measuring := by
  constructor
  · intro h v hv
    exact ⟨itemsPrintable_iff.mp h.printable v hv, fun hm => itemsInRange_iff.mp (h.ranged hm) v hv⟩
  · intro h
    exact ⟨itemsPrintable_iff.mpr fun v hv => (h v hv).printable,
      fun hm => itemsInRange_iff.mpr fun v hv => (h v hv).ranged hm⟩

theorem suits_object {entries : Entries} :
    (Value.object entries).Suits measuring ↔ ∀ entry ∈ entries, entry.2.Suits measuring := by
  constructor
  · intro h e he
    exact ⟨entriesPrintable_iff.mp h.printable e he,
      fun hm => entriesInRange_iff.mp (h.ranged hm) e he⟩
  · intro h
    exact ⟨entriesPrintable_iff.mpr fun e he => (h e he).printable,
      fun hm => entriesInRange_iff.mpr fun e he => (h e he).ranged hm⟩

theorem suits_null : Value.null.Suits measuring := ⟨rfl, fun _ => rfl⟩

/-- Of a value that is fit, the value itself is within range. -/
theorem Suits.inRange {v : Value} (h : v.Suits measuring) (measured : measuring) : v.InRange := by
  have hv := h.ranged measured
  cases v with
  | list | object => exact nofun
  | null | bool | int | float | str => simpa [allInRange] using hv

theorem Suits.get? {entries : Entries} {key : String} {v : Value}
    (h : (Value.object entries).Suits measuring) (hget : entries.get? key = some v) :
    v.Suits measuring :=
  suits_object.mp h (key, v) (Assoc.mem_of_get? hget)

theorem Suits.getD {entries : Entries} (h : (Value.object entries).Suits measuring)
    (key : String) : (entries.getD key).Suits measuring := by
  unfold Entries.getD
  cases hget : entries.get? key with
  | none => exact suits_null
  | some v => exact h.get? hget

theorem Suits.put {entries : Entries} {v : Value} (h : (Value.object entries).Suits measuring)
    (hv : v.Suits measuring) (key : String) :
    (Value.object (entries.put key v)).Suits measuring := by
  induction entries with
  | nil => exact suits_object.mpr (by simpa [Assoc.put] using hv)
  | cons entry rest ih =>
    obtain ⟨k, w⟩ := entry
    obtain ⟨hw, hrest⟩ := List.forall_mem_cons.mp (suits_object.mp h)
    unfold Assoc.put
    split
    · exact suits_object.mpr (List.forall_mem_cons.mpr ⟨hv, hrest⟩)
    · exact suits_object.mpr
        (List.forall_mem_cons.mpr ⟨hw, suits_object.mp (ih (suits_object.mpr hrest))⟩)

theorem Suits.putAll {entries more : Entries} (h : (Value.object entries).Suits measuring)
    (hmore : (Value.object more).Suits measuring) :
    (Value.object (entries.putAll more)).Suits measuring := by
  induction more generalizing entries with
  | nil => exact h
  | cons entry rest ih =>
    obtain ⟨hentry, hrest⟩ := List.forall_mem_cons.mp (suits_object.mp hmore)
    exact ih (h.put hentry entry.1) (suits_object.mpr hrest)

end Value

/-- A piece of a path that looks like an index is one: a decimal that is not too long. -/
def IndexReads (piece : String) : Prop :=
  piece.toList.all isDigitLike = true →
    piece.toList.all isDecimal = true ∧ piece.toList.length ≤ maxIndexDigits

instance (piece : String) : Decidable (IndexReads piece) :=
  inferInstanceAs (Decidable (_ → _))

/-- All pieces of a path that look like an index are one. -/
def Readable (path : String) : Prop :=
  ∀ piece ∈ pathPieces path, IndexReads piece

instance (path : String) : Decidable (Readable path) :=
  inferInstanceAs (Decidable (∀ piece ∈ pathPieces path, IndexReads piece))

theorem IndexReads.gives {piece : String} (h : IndexReads piece) :
    Gives (fun _ => True) (readIndex piece) := by
  unfold readIndex
  dsimp only
  split
  · exact .ok trivial
  · rename_i hlike
    simp only [Bool.or_eq_true, Bool.not_eq_true', not_or, Bool.not_eq_false] at hlike
    obtain ⟨hdecimal, hlength⟩ := h hlike.2
    rw [if_pos (by simp [hdecimal, hlength])]
    exact .ok trivial

namespace Value

variable {measuring : Prop}

theorem gives_step {v : Value} {piece : String} (h : v.Suits measuring)
    (readable : IndexReads piece) :
    Gives (fun found => ∀ w ∈ found, w.Suits measuring) (v.step piece) := by
  cases v with
  | list items =>
    refine readable.gives.bind fun index _ => ?_
    cases index with
    | none => exact .ok nofun
    | some i => exact .ok fun w hw => suits_list.mp h w (List.mem_of_getElem? hw)
  | object entries => exact .ok fun w hw => h.get? hw
  | null | bool | int | float | str => exact .ok nofun

theorem gives_follow {v : Value} {pieces : List String} (h : v.Suits measuring)
    (readable : ∀ piece ∈ pieces, IndexReads piece) :
    Gives (fun found => ∀ w ∈ found, w.Suits measuring) (v.follow pieces) := by
  induction pieces generalizing v with
  | nil => exact .ok fun w hw => Option.some.inj hw ▸ h
  | cons piece pieces ih =>
    obtain ⟨hpiece, hpieces⟩ := List.forall_mem_cons.mp readable
    refine (gives_step h hpiece).bind fun found hfound => ?_
    cases found with
    | none => exact .ok nofun
    | some w => exact ih (hfound w rfl) hpieces

/-- A readable path leads to a value or to none, and not beyond the range that the value has. -/
theorem gives_lookupD {v : Value} {path : String} (h : v.Suits measuring)
    (readable : Readable path) : Gives (·.Suits measuring) (v.lookupD path) := by
  refine (gives_follow h fun piece hp => readable piece (List.mem_of_mem_filter hp)).map ?_
  intro found hfound
  cases found with
  | none => exact suits_null
  | some w => exact hfound w rfl

theorem suits_rowOf {v : Value} (h : v.Suits measuring) :
    (Value.object (rowOf v)).Suits measuring := by
  cases v with
  | object entries => exact h
  | null | bool | int | float | str | list => exact suits_object.mpr (by simpa [rowOf] using h)

theorem suits_normalizeRows {v : Value} (h : v.Suits measuring) :
    ∀ row ∈ normalizeRows v, (Value.object row).Suits measuring := by
  cases v with
  | list items =>
    intro row hrow
    obtain ⟨item, hitem, rfl⟩ := List.mem_map.mp hrow
    exact suits_rowOf (suits_list.mp h item hitem)
  | null | bool | int | float | str | object => exact nofun

theorem suits_ofRows {rows : List Entries}
    (h : ∀ row ∈ rows, (Value.object row).Suits measuring) :
    (Value.list (rows.map .object)).Suits measuring := by
  refine suits_list.mpr fun v hv => ?_
  obtain ⟨row, hrow, rfl⟩ := List.mem_map.mp hv
  exact h row hrow

/-- One piece further along a path: an empty piece leads nowhere else, and one that leads nowhere
leads to null. -/
def stepD (v : Value) (piece : String) : Except Fault Value :=
  if piece.isEmpty then .ok v else (v.step piece).map (·.getD .null)

theorem foldlM_stepD_null (pieces : List String) : pieces.foldlM stepD .null = .ok .null := by
  induction pieces with
  | nil => rfl
  | cons piece pieces ih =>
    have hstay : stepD .null piece = .ok .null := by
      unfold stepD
      split <;> rfl
    rw [List.foldlM_cons, hstay]
    exact ih

/-- The pieces are gone through one by one, on from null as well. -/
theorem lookupD_eq_foldlM (v : Value) (path : String) :
    v.lookupD path = (pathPieces path).foldlM stepD v := by
  rw [lookupD, lookup]
  generalize pathPieces path = pieces
  induction pieces generalizing v with
  | nil => rfl
  | cons piece pieces ih =>
    rw [List.foldlM_cons, stepD]
    by_cases hempty : piece.isEmpty = true
    · rw [if_pos hempty, List.filter_cons_of_neg (by simp [hempty])]
      exact ih v
    · rw [if_neg hempty, List.filter_cons_of_pos (by simp [hempty]), follow]
      cases v.step piece with
      | error e => rfl
      | ok found =>
        cases found with
        | none => exact (foldlM_stepD_null pieces).symm
        | some w => exact ih w

/-- Looking up two paths with a dot between them is looking up the one and then, from where it
leads to, the other: the value, null if there is none, or the fault is the same. A path is looked up
by the steps that its pieces make. -/
theorem lookupD_append (v : Value) (front back : String) :
    v.lookupD (front ++ "." ++ back) = (v.lookupD front >>= fun w => w.lookupD back) ∧
      v.lookupD front = (pathPieces front).foldlM stepD v := by
  refine ⟨?_, lookupD_eq_foldlM v front⟩
  rw [lookupD_eq_foldlM, pathPieces_append, List.foldlM_append, ← lookupD_eq_foldlM]
  simp only [← lookupD_eq_foldlM]

end Value

end GridRules
