import GridRules.Calculation.Apply
import GridRules.Proofs.ExpressionReads
import GridRules.Proofs.PlanDependencies

namespace GridRules

/-- What a row holds is the same as itself, be it a list or an object. -/
theorem Held.unchanged_self (held : Held) : held.unchanged held = true := by
  simp [unchanged]

theorem HeldRow.getD_entries (row : HeldRow) (key : String) :
    Entries.getD row.entries key = (row.getD key).value := by
  rw [Entries.getD, HeldRow.getD, HeldRow.entries, Assoc.get?_map_values]
  cases row.get? key <;> rfl

theorem HeldRow.getD_congr {row other : HeldRow} {key key' : String}
    (h : row.get? key = other.get? key') : row.getD key = other.getD key' := by
  rw [HeldRow.getD, HeldRow.getD, h]

namespace Expr

/-- On rows that hold the same under the references of a complete expression, it comes to the same
value in the same place. -/
theorem hold_eq_of_refs {e : Expr} {row other : HeldRow} (hw : e.wellFormed = true)
    (same : ∀ ref ∈ e.refs, row.getD ref = other.getD ref) (constant : List Bool → Place) :
    e.hold row constant = e.hold other constant := by
  have hvalue : ∀ ref, row.getD ref = other.getD ref →
      Entries.getD row.entries ref = Entries.getD other.entries ref := by
    intro ref h
    rw [HeldRow.getD_entries, HeldRow.getD_entries, h]
  have halike : e.attempt row.entries = e.attempt other.entries ∧
      ∀ constant : List Bool → Place, e.place row constant = e.place other constant := by
    apply @field_induction
      (fun e => e.attempt row.entries = e.attempt other.entries ∧
        ∀ constant : List Bool → Place, e.place row constant = e.place other constant)
      (fun ref => row.getD ref = other.getD ref) _ e
      (fun ref h => same ref (mem_refs_of_within hw h))
    intro e below own
    refine ⟨attempt_eq_of_operands (fun arg ha => (below arg ha).1)
      fun ref he => hvalue ref (own ref he), fun constant => ?_⟩
    cases e with
    | field ref =>
      cases ref with
      | none => rfl
      | some ref => rw [place, place, own ref rfl]
    | cond test yes no =>
      have htest : test.branch? row.entries = test.branch? other.entries := by
        rw [branch?, branch?, evaluate?, evaluate?, (below test (by simp [operands])).1]
      have hyes := (below yes (by simp [operands])).2
      have hno := (below no (by simp [operands])).2
      rw [place, place, htest]
      simp only [hyes, hno]
    | _ => rfl
  rw [hold, hold, evaluate?, evaluate?, halike.1, halike.2 constant]

end Expr

/-- A row that has every field once and under its id alone. -/
structure KeyedRow (row : HeldRow) : Prop where
  distinct : row.keys.Nodup
  ids : ∀ key ∈ row.keys, IsFieldId key

theorem KeyedRow.get?_of_not_id {row : HeldRow} (keyed : KeyedRow row) {key : String}
    (hk : ¬ IsFieldId key) : row.get? key = none :=
  Assoc.get?_eq_none_iff.mpr fun hm => hk (keyed.ids key hm)

namespace CalculationPlan

section Values

variable {row : HeldRow} {gridId : String}

theorem get?_rowValues_of_ne {key : String} (h : ∀ field, key ≠ FieldPath.inGrid gridId field) :
    (rowValues gridId row).get? key = row.get? key :=
  Assoc.get?_foldl_put_of_ne (fun field _ => h field) row

theorem get?_rowValues_of_no_dot {key : String} (h : hasDot key = false) :
    (rowValues gridId row).get? key = row.get? key := by
  apply get?_rowValues_of_ne
  rintro field rfl
  simp [hasDot_inGrid] at h

/-- A field is also found under its path in the grid, and stands before an entry that has that path
for its key. -/
theorem get?_rowValues_path (distinct : row.keys.Nodup) (field : String) :
    (rowValues gridId row).get? (FieldPath.inGrid gridId field) =
      (row.get? field).or (row.get? (FieldPath.inGrid gridId field)) := by
  by_cases hm : field ∈ row.keys
  · obtain ⟨v, hv⟩ := Assoc.exists_get?_of_mem_keys hm
    rw [rowValues, Assoc.get?_foldl_put_name distinct (inGrid_injective gridId) hm row, hv]
    rfl
  · have hne : ∀ other ∈ row.keys,
        FieldPath.inGrid gridId field ≠ FieldPath.inGrid gridId other := fun other ho he =>
      hm (inGrid_injective gridId he ▸ ho)
    rw [rowValues, Assoc.get?_foldl_put_of_ne hne, Assoc.get?_eq_none_iff.mpr hm]
    rfl

theorem not_isFieldId_inGrid (field : String) : ¬ IsFieldId (FieldPath.inGrid gridId field) := by
  simp [IsFieldId, hasDot_inGrid]

theorem get?_rowValues_inGrid (keyed : KeyedRow row) (field : String) :
    (rowValues gridId row).get? (FieldPath.inGrid gridId field) = row.get? field := by
  rw [get?_rowValues_path keyed.distinct, keyed.get?_of_not_id (not_isFieldId_inGrid field),
    Option.or_none]

/-- Writing a field and its path keeps the two in step. -/
theorem get?_rowValues_put (distinct : row.keys.Nodup) {target : String} (ht : IsFieldId target)
    (v : Held) (key : String) :
    (rowValues gridId (row.put target v)).get? key =
      (((rowValues gridId row).put target v).put (FieldPath.inGrid gridId target) v).get? key := by
  rw [Assoc.get?_put, Assoc.get?_put]
  by_cases hpath : ∃ field, key = FieldPath.inGrid gridId field
  · obtain ⟨field, rfl⟩ := hpath
    have hne : FieldPath.inGrid gridId field ≠ target := fun he =>
      not_isFieldId_inGrid field (he ▸ ht)
    rw [get?_rowValues_path (Assoc.keys_put_nodup distinct target v), Assoc.get?_put,
      Assoc.get?_put, if_neg hne, if_neg hne, get?_rowValues_path distinct]
    by_cases hf : field = target
    · simp [hf]
    · simp [hf, (inGrid_injective gridId).eq_iff]
  · have hne : ∀ field, key ≠ FieldPath.inGrid gridId field := fun field he => hpath ⟨field, he⟩
    rw [get?_rowValues_of_ne hne, Assoc.get?_put, if_neg (hne target), get?_rowValues_of_ne hne]

/-- What a reference reads is decided by the field that it means and by the entries whose keys are
no ids, which no target ever writes. -/
theorem get?_rowValues_eq {other : HeldRow} (distinct : row.keys.Nodup)
    (distinct' : other.keys.Nodup) (hg : IsFieldId gridId)
    (rest : ∀ key, ¬ IsFieldId key → row.get? key = other.get? key) {ref : String}
    (hb : isBlankText ref = false)
    (same : ∀ field, localFieldId? ref gridId = some field → row.get? field = other.get? field) :
    (rowValues gridId row).get? ref = (rowValues gridId other).get? ref := by
  cases hd : hasDot ref with
  | false =>
    rw [get?_rowValues_of_no_dot hd, get?_rowValues_of_no_dot hd]
    exact same ref (localFieldId?_of_no_dot hb hd gridId)
  | true =>
    have hid : ¬ IsFieldId ref := by simp [IsFieldId, hd]
    by_cases hpath : ∃ field, ref = FieldPath.inGrid gridId field
    · obtain ⟨field, rfl⟩ := hpath
      rw [get?_rowValues_path distinct, get?_rowValues_path distinct', rest _ hid]
      by_cases hf : IsFieldId field
      · rw [same field (localFieldId?_inGrid hg hf)]
      · rw [rest field hf]
    · have hne : ∀ field, ref ≠ FieldPath.inGrid gridId field := fun field he => hpath ⟨field, he⟩
      rw [get?_rowValues_of_ne hne, get?_rowValues_of_ne hne, rest ref hid]

end Values

/-- What the rule of a target comes to on a row; null without a rule. -/
def ruleOutcome (plan : CalculationPlan) (row : HeldRow) (target : String) : Except Fault Held :=
  match plan.rules.get? target with
  | some rule => rule.hold (rowValues plan.gridId row) (plan.constantPlace target)
  | none => .ok ⟨.null, .none⟩

/-- A rule comes to the same on rows that agree on the fields it reads and on all keys that are no
ids. -/
theorem ruleOutcome_eq_of_reads {plan : CalculationPlan} (compiled : plan.Compiled)
    {row other : HeldRow} (distinct : row.keys.Nodup) (distinct' : other.keys.Nodup)
    (rest : ∀ key, ¬ IsFieldId key → row.get? key = other.get? key) {target : String}
    (same : ∀ field ∈ plan.reads target, row.get? field = other.get? field) :
    plan.ruleOutcome row target = plan.ruleOutcome other target := by
  unfold ruleOutcome
  cases hr : plan.rules.get? target with
  | none => rfl
  | some rule =>
    have hw := compiled.complete target rule hr
    have hg : IsFieldId plan.gridId := by
      have hm : target ∈ plan.targets := Assoc.mem_keys.mpr ⟨rule, Assoc.mem_of_get? hr⟩
      exact (compiled.target_ids target hm).1
    apply Expr.hold_eq_of_refs hw
    intro ref href
    apply HeldRow.getD_congr
    apply get?_rowValues_eq distinct distinct' hg rest (Expr.not_blank_of_mem_refs hw href)
    intro field hf
    apply same
    rw [reads_of_rule hr]
    exact mem_localRefs.mpr ⟨ref, href, hf⟩

end CalculationPlan

end GridRules
