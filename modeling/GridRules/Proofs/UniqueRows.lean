import GridRules.Proofs.KeyOrder
import GridRules.Proofs.Lists
import GridRules.Proofs.SortedRows
import Mathlib.Data.List.Induction
/-!
One row for each key. The rows that are kept are those whose key does not stand at an earlier row,
and they are the same rows when keys of objects at the path are written in another order.
-/

namespace GridRules

section Positions

variable {α κ : Type}

/-- No earlier position has the key of this one. -/
def StandsFirst (keys : List κ) (i : Nat) : Prop :=
  ∀ j < i, keys[j]? ≠ keys[i]?

theorem standsFirst_concat_iff_of_lt {keys : List κ} {i : Nat} (hi : i < keys.length) (key : κ) :
    StandsFirst (keys ++ [key]) i ↔ StandsFirst keys i := by
  refine forall₂_congr fun j hj => ?_
  rw [List.getElem?_append_left hi, List.getElem?_append_left (hj.trans hi)]

theorem standsFirst_last_iff (keys : List κ) (key : κ) :
    StandsFirst (keys ++ [key]) keys.length ↔ key ∉ keys := by
  have last : (keys ++ [key])[keys.length]? = some key := List.getElem?_concat_length
  rw [StandsFirst, last, List.mem_iff_getElem?]
  constructor
  · rintro h ⟨j, hj⟩
    have hlt : j < keys.length := (List.getElem?_eq_some_iff.mp hj).1
    exact h j hlt ((List.getElem?_append_left hlt).trans hj)
  · intro h j hlt he
    exact h ⟨j, (List.getElem?_append_left hlt).symm.trans he⟩

variable [DecidableEq κ]

instance (keys : List κ) (i : Nat) : Decidable (StandsFirst keys i) :=
  inferInstanceAs (Decidable (∀ j < i, keys[j]? ≠ keys[i]?))

/-- The positions at which keys stand first. -/
def firstPositions (keys : List κ) : List Nat :=
  (List.range keys.length).filter fun i => StandsFirst keys i

theorem firstPositions_concat (keys : List κ) (key : κ) :
    firstPositions (keys ++ [key]) =
      firstPositions keys ++ if key ∈ keys then [] else [keys.length] := by
  rw [firstPositions, List.length_append, List.length_singleton, List.range_succ,
    List.filter_append]
  congr 1
  · refine List.filter_congr fun i hi => ?_
    rw [decide_eq_decide, standsFirst_concat_iff_of_lt (List.mem_range.mp hi)]
  · have hlast := standsFirst_last_iff keys key
    by_cases hk : key ∈ keys <;> simp [hlast, hk]

theorem lt_of_mem_firstPositions {keys : List κ} {i : Nat} (h : i ∈ firstPositions keys) :
    i < keys.length :=
  List.mem_range.mp (List.mem_of_mem_filter h)

/-- The items at some positions. -/
def itemsAt (items : List α) (positions : List Nat) : List α :=
  positions.filterMap (items[·]?)

theorem itemsAt_concat {items : List α} {positions : List Nat}
    (within : ∀ i ∈ positions, i < items.length) (item : α) :
    itemsAt (items ++ [item]) positions = itemsAt items positions :=
  List.filterMap_congr fun i hi => List.getElem?_append_left (within i hi)

end Positions

section FirstRows

variable (key : Entries → String)

/-- The first row of each key. -/
def firstRows (rows : List Entries) : List Entries :=
  firstOfEach (rows.map fun row => (key row, row)) []

theorem firstOfEach_concat (keyed : List (String × Entries)) (k : String) (row : Entries)
    (seen : List String) :
    firstOfEach (keyed ++ [(k, row)]) seen =
      firstOfEach keyed seen ++ if k ∈ seen ∨ k ∈ keyed.map (·.1) then [] else [row] := by
  induction keyed generalizing seen with
  | nil => by_cases hk : k ∈ seen <;> simp [firstOfEach, hk]
  | cons pair keyed ih =>
    obtain ⟨l, other⟩ := pair
    rw [List.cons_append, firstOfEach, firstOfEach]
    dsimp only
    by_cases hl : l ∈ seen
    · have hsame : (k ∈ seen ∨ k ∈ (l :: keyed.map (·.1))) ↔ k ∈ seen ∨ k ∈ keyed.map (·.1) := by
        rw [List.mem_cons]
        constructor
        · rintro (hk | rfl | hk)
          · exact .inl hk
          · exact .inl hl
          · exact .inr hk
        · rintro (hk | hk)
          · exact .inl hk
          · exact .inr (.inr hk)
      have hc : seen.contains l = true := List.contains_iff_mem.mpr hl
      rw [if_pos hc, if_pos hc, ih, List.map_cons]
      simp only [hsame]
    · have hc : ¬ seen.contains l = true := mt List.contains_iff_mem.mp hl
      have hsame : (k ∈ l :: seen ∨ k ∈ keyed.map (·.1)) ↔ k ∈ seen ∨ k ∈ (l :: keyed.map (·.1)) := by
        simp only [List.mem_cons]
        tauto
      rw [if_neg hc, if_neg hc, ih, List.map_cons, List.cons_append]
      simp only [hsame]

theorem firstRows_concat (rows : List Entries) (row : Entries) :
    firstRows key (rows ++ [row]) =
      firstRows key rows ++ if key row ∈ rows.map key then [] else [row] := by
  have hkeys : (rows.map fun row => (key row, row)).map (·.1) = rows.map key := by
    rw [List.map_map]
    rfl
  rw [firstRows, List.map_append, List.map_singleton, firstOfEach_concat, hkeys]
  simp [firstRows]

theorem firstRows_subset (rows : List Entries) : firstRows key rows ⊆ rows := by
  intro row hm
  have h := firstOfEach_subset _ [] hm
  rw [List.map_map] at h
  obtain ⟨other, hother, rfl⟩ := List.mem_map.mp h
  exact hother

/-- What the loop keeps is what stands at the first position of its key. -/
theorem firstRows_eq (rows : List Entries) :
    firstRows key rows = itemsAt rows (firstPositions (rows.map key)) := by
  induction rows using List.reverseRecOn with
  | nil => rfl
  | append_singleton rows row ih =>
    have within : ∀ i ∈ firstPositions (rows.map key), i < rows.length := fun i hi => by
      simpa using lt_of_mem_firstPositions hi
    rw [firstRows_concat, List.map_append, List.map_singleton, firstPositions_concat, itemsAt,
      List.filterMap_append, ← itemsAt, itemsAt_concat within, ih]
    by_cases hk : key row ∈ rows.map key <;> simp [hk]

theorem mem_keys_firstRows {rows : List Entries} {k : String} :
    k ∈ (firstRows key rows).map key ↔ k ∈ rows.map key := by
  induction rows using List.reverseRecOn with
  | nil => rfl
  | append_singleton rows row ih =>
    rw [firstRows_concat, List.map_append, List.map_append, List.mem_append, List.mem_append, ih]
    by_cases hk : key row ∈ rows.map key
    · rw [if_pos hk]
      constructor
      · rintro (h | h)
        · exact .inl h
        · simp at h
      · rintro (h | h)
        · exact .inl h
        · exact .inl (List.mem_singleton.mp h ▸ hk)
    · rw [if_neg hk]

theorem nodup_keys_firstRows (rows : List Entries) : ((firstRows key rows).map key).Nodup := by
  induction rows using List.reverseRecOn with
  | nil => exact List.nodup_nil
  | append_singleton rows row ih =>
    rw [firstRows_concat, List.map_append]
    by_cases hk : key row ∈ rows.map key
    · simpa [hk] using ih
    · rw [if_neg hk]
      exact nodup_concat ih (mt (mem_keys_firstRows key).mp hk)

/-- Rows with keys of their own are all kept. -/
theorem firstRows_of_nodup {rows : List Entries} (h : (rows.map key).Nodup) :
    firstRows key rows = rows := by
  induction rows using List.reverseRecOn with
  | nil => rfl
  | append_singleton rows row ih =>
    rw [List.map_append, List.map_singleton] at h
    have hnew : key row ∉ rows.map key := not_mem_front h
    rw [firstRows_concat, if_neg hnew, ih (List.nodup_append.mp h).1]

end FirstRows

section Unique

variable {path : String} {rows : List Entries}

/-- The key of a row for the value that it has at a path; that of null if the path cannot be
read. -/
def keyAt (path : String) (row : Entries) : String :=
  match (Value.object row).lookupD path with
  | .ok v => v.stableKey
  | .error _ => Value.null.stableKey

theorem keyedRows_eq_map {κ : Type} {key : Entries → Except Fault κ} {k : Entries → κ}
    (h : ∀ row ∈ rows, key row = .ok (k row)) :
    keyedRows key rows = .ok (rows.map fun row => (k row, row)) := by
  rw [keyedRows]
  induction rows with
  | nil => rfl
  | cons row rows ih =>
    obtain ⟨hrow, hrows⟩ := List.forall_mem_cons.mp h
    rw [List.mapM_cons, hrow, ih hrows]
    rfl

theorem uniqueRows_eq (readable : ∀ row ∈ rows, ∃ v, (Value.object row).lookupD path = .ok v) :
    uniqueRows path rows = .ok (firstRows (keyAt path) rows) := by
  have hkeys : ∀ row ∈ rows,
      ((Value.object row).lookupD path).map Value.stableKey = .ok (keyAt path row) := by
    intro row hm
    obtain ⟨v, hv⟩ := readable row hm
    rw [keyAt, hv]
    rfl
  rw [uniqueRows, keyedRows_eq_map hkeys]
  rfl

/-- The values that two rows have at a path are the same but for the order of keys. -/
def ReorderedAt (path : String) (row other : Entries) : Prop :=
  ∃ v w, (Value.object row).lookupD path = .ok v ∧ (Value.object other).lookupD path = .ok w ∧
    v.Keyed ∧ w.Keyed ∧ v.Reordered w

theorem ReorderedAt.keyAt_eq {row other : Entries} (h : ReorderedAt path row other) :
    keyAt path row = keyAt path other := by
  obtain ⟨v, w, hv, hw, keyed, keyed', reordered⟩ := h
  rw [keyAt, keyAt, hv, hw]
  exact Value.stableKey_eq_of_reordered keyed keyed' reordered

theorem readable_of_reorderedAt {others : List Entries}
    (h : List.Forall₂ (ReorderedAt path) rows others) :
    ∀ other ∈ others, ∃ w, (Value.object other).lookupD path = .ok w := by
  induction h with
  | nil => exact nofun
  | cons hpair _ ih =>
    obtain ⟨v, w, -, hw, -⟩ := hpair
    exact List.forall_mem_cons.mpr ⟨⟨w, hw⟩, ih⟩

/-- Where all rows can be read at the path, those are kept whose key no earlier row has. Their keys
are distinct and are all that there are, a second run changes nothing, and the same positions are
kept where the values have their keys in another order. -/
theorem uniqueRows_keeps_first (path : String) {rows : List Entries}
    (readable : ∀ row ∈ rows, ∃ v, (Value.object row).lookupD path = .ok v) :
    ∃ kept, uniqueRows path rows = .ok kept ∧
      kept = itemsAt rows (firstPositions (rows.map (keyAt path))) ∧
      (kept.map (keyAt path)).Nodup ∧
      (∀ row ∈ rows, keyAt path row ∈ kept.map (keyAt path)) ∧
      uniqueRows path kept = .ok kept ∧
      ∀ others, List.Forall₂ (ReorderedAt path) rows others →
        uniqueRows path others =
          .ok (itemsAt others (firstPositions (rows.map (keyAt path)))) := by
  have distinct := nodup_keys_firstRows (keyAt path) rows
  have kept := firstRows_eq (keyAt path) rows
  refine ⟨_, uniqueRows_eq readable, kept, distinct, fun row hm => ?_, ?_, fun others h => ?_⟩
  · exact (mem_keys_firstRows _).mpr (List.mem_map_of_mem hm)
  · have again : ∀ row ∈ firstRows (keyAt path) rows,
        ∃ v, (Value.object row).lookupD path = .ok v :=
      fun row hm => readable row (firstRows_subset _ rows hm)
    rw [uniqueRows_eq again, firstRows_of_nodup _ distinct]
  · have hkeys : rows.map (keyAt path) = others.map (keyAt path) := by
      exact map_eq_map_iff_forall₂.mpr (h.imp fun _ _ => ReorderedAt.keyAt_eq)
    rw [uniqueRows_eq (readable_of_reorderedAt h), firstRows_eq, hkeys]

/-- Rows with boxes; the first and the third box are the same but for the order of keys. -/
def boxRows : List Entries :=
  [[("box", .object [("wide", .int 1), ("high", .null)])], [("box", .str "x")],
    [("box", .object [("high", .null), ("wide", .int 1)])], [], [("box", .str ""), ("n", .int 2)]]

/-- The same with the keys of both boxes in the other order. -/
def turnedBoxRows : List Entries :=
  [[("box", .object [("high", .null), ("wide", .int 1)])], [("box", .str "x")],
    [("box", .object [("wide", .int 1), ("high", .null)])], [], [("box", .str ""), ("n", .int 2)]]

theorem uniqueRows_keeps_first_boxes :
    (∀ row ∈ boxRows, ∃ v, (Value.object row).lookupD "box" = .ok v) ∧
      List.Forall₂ (ReorderedAt "box") boxRows turnedBoxRows ∧
      uniqueRows "box" boxRows =
        .ok [[("box", .object [("wide", .int 1), ("high", .null)])], [("box", .str "x")], []] ∧
      uniqueRows "box" turnedBoxRows =
        .ok [[("box", .object [("high", .null), ("wide", .int 1)])], [("box", .str "x")], []] := by
  have readable : ∀ row ∈ boxRows, ∃ v, (Value.object row).lookupD "box" = .ok v := by
    simp only [boxRows, List.forall_mem_cons]
    exact ⟨⟨_, rfl⟩, ⟨_, rfl⟩, ⟨_, rfl⟩, ⟨_, rfl⟩, ⟨_, rfl⟩, nofun⟩
  have number : (Value.int 1).Keyed := .scalar rfl
  have nothing : Value.null.Keyed := .scalar rfl
  have keyed : (Value.object [("wide", .int 1), ("high", .null)]).Keyed := by
    simp [Value.keyed_object_iff, Assoc.keys, number, nothing]
  have keyed' : (Value.object [("high", .null), ("wide", .int 1)]).Keyed := by
    simp [Value.keyed_object_iff, Assoc.keys, number, nothing]
  have swapped : ReorderedAt "box" [("box", .object [("wide", .int 1), ("high", .null)])]
      [("box", .object [("high", .null), ("wide", .int 1)])] :=
    ⟨_, _, rfl, rfl, keyed, keyed', .swap (by decide) (.scalar rfl) (.scalar rfl)⟩
  have turned : List.Forall₂ (ReorderedAt "box") boxRows turnedBoxRows :=
    .cons swapped <|
      .cons ⟨.str "x", .str "x", rfl, rfl, .scalar rfl, .scalar rfl, .scalar rfl⟩ <|
      .cons ⟨_, _, rfl, rfl, keyed', keyed, .swap (by decide) (.scalar rfl) (.scalar rfl)⟩ <|
      .cons ⟨.null, .null, rfl, rfl, .scalar rfl, .scalar rfl, .scalar rfl⟩ <|
      .cons ⟨.str "", .str "", rfl, rfl, .scalar rfl, .scalar rfl, .scalar rfl⟩ .nil
  have positions : firstPositions (boxRows.map (keyAt "box")) = [0, 1, 3] := by
    have hordered : keyAt "box" [("box", .object [("high", .null), ("wide", .int 1)])] =
        "\x7b\"high\":null,\"wide\":1\x7d" := by
      change Json.write true _ = _
      rw [Json.write, if_pos rfl, List.mergeSort_of_pairwise (by decide)]
      decide
    have hswapped : keyAt "box" [("box", .object [("wide", .int 1), ("high", .null)])] =
        "\x7b\"high\":null,\"wide\":1\x7d" := swapped.keyAt_eq.trans hordered
    rw [boxRows]
    simp only [List.map_cons, List.map_nil, hordered, hswapped]
    decide
  obtain ⟨kept, hrun, hkept, -, -, -, same⟩ := uniqueRows_keeps_first "box" readable
  rw [positions] at hkept same
  exact ⟨readable, turned, hrun.trans (congrArg _ hkept), same _ turned⟩

end Unique

end GridRules
