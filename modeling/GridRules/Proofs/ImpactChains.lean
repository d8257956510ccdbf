import GridRules.Proofs.Impact
import GridRules.Proofs.ReferencedFields
import GridRules.Proofs.ReferenceSpellings

namespace GridRules

namespace CalculationPlan

/-- The rule of the target refers, somewhere in its expression, to what is the field in the grid of
the plan. -/
def ReadBy (plan : CalculationPlan) (field target : String) : Prop :=
  ∃ expr ref, plan.rules.get? target = some (Expr.ofValue expr) ∧ expr.RefersTo ref ∧
    localFieldId? ref plan.gridId = some field

/-- The ids of changed fields in a grid; what has none stays as it is written. -/
def reducedIds (gridId : String) (changed : List String) : List String :=
  changed.map fun id => (localFieldId? id gridId).getD id

/-- The target is one of the fields, or a chain of readers leads from one of them to it. -/
def ReachedFrom (plan : CalculationPlan) (fields : List String) (target : String) : Prop :=
  target ∈ fields ∨ ∃ field ∈ fields, Relation.TransGen plan.ReadBy field target

theorem localFieldId?_empty (gridId : String) : localFieldId? "" gridId = none :=
  if_pos rfl

/-- A field that a reference can mean has no dot in its id. -/
theorem hasDot_of_localFieldId? {ref gridId field : String}
    (h : localFieldId? ref gridId = some field) : hasDot field = false := by
  cases hd : hasDot ref with
  | true => exact (isFieldId_of_localFieldId? h hd).2.2
  | false =>
    have hb := not_blank_of_localFieldId? h
    have heq := (localFieldId?_of_no_dot hb hd gridId).symm.trans h
    exact Option.some.inj heq ▸ hd

section Build

variable {gridId : String} {calculations : Entries} {field t : String}

/-- Every rule of a plan is the expression of a calculation. -/
theorem exists_expr_of_rule {rule : Expr}
    (h : (build gridId calculations).rules.get? t = some rule) :
    ∃ expr, rule = Expr.ofValue expr := by
  obtain ⟨entry, _, he⟩ := List.mem_filterMap.mp (mem_rulesIn_of_get? h).1
  rw [ruleIn?_eq] at he
  split at he
  next =>
    obtain ⟨_, _, hr⟩ := Option.map_eq_some_iff.mp he
    exact ⟨_, (Prod.mk.inj hr).2.symm⟩
  next => simp at he

theorem readBy_iff : (build gridId calculations).ReadBy field t ↔
    field ∈ (build gridId calculations).reads t := by
  constructor
  · rintro ⟨expr, ref, hrule, hrefers, hl⟩
    have hne : ref ≠ "" := by
      rintro rfl
      simp [localFieldId?_empty] at hl
    rw [reads_of_rule hrule]
    exact mem_localRefs.mpr ⟨ref, mem_fieldRefs_iff.mpr ⟨hne, hrefers⟩, hl⟩
  · intro h
    cases hrule : (build gridId calculations).rules.get? t with
    | none => simp [reads, hrule] at h
    | some rule =>
      obtain ⟨expr, rfl⟩ := exists_expr_of_rule hrule
      rw [reads_of_rule hrule] at h
      obtain ⟨ref, hr, hl⟩ := mem_localRefs.mp h
      exact ⟨expr, ref, hrule, (mem_fieldRefs_iff.mp hr).2, hl⟩

theorem touched_iff {fields : List String} : (build gridId calculations).Touched fields t ↔
    t ∈ (build gridId calculations).targets ∧ (build gridId calculations).ReachedFrom fields t := by
  constructor
  · intro h
    induction h with
    | changed hf ht => exact ⟨ht, Or.inl hf⟩
    | reader hf hr => exact ⟨target_of_reads hr, Or.inr ⟨_, hf, .single (readBy_iff.mpr hr)⟩⟩
    | spread _ hr ih =>
      have hstep := readBy_iff.mpr hr
      refine ⟨target_of_reads hr, Or.inr ?_⟩
      rcases ih.2 with hu | ⟨field, hf, chain⟩
      · exact ⟨_, hu, .single hstep⟩
      · exact ⟨field, hf, chain.tail hstep⟩
  · rintro ⟨ht, hf | ⟨field, hf, chain⟩⟩
    · exact .changed hf ht
    · clear ht
      induction chain with
      | single hstep => exact .reader hf (readBy_iff.mp hstep)
      | tail _ hstep ih => exact .spread ih (readBy_iff.mp hstep)

theorem mem_impacted_build_iff {changed : List String} (hne : changed ≠ []) :
    t ∈ (build gridId calculations).impacted changed ↔
      t ∈ (build gridId calculations).targets ∧
        (build gridId calculations).ReachedFrom (reducedIds gridId changed) t := by
  have hfields : ∀ f, f ∈ changedFields gridId changed ↔ f ∈ reducedIds gridId changed := by
    intro f
    rw [changedFields, mem_foldl_addNew]
    simp [reducedIds]
  rw [mem_impacted_iff (build_compiled gridId calculations) hne, touched_iff]
  refine and_congr_right fun _ => ?_
  rw [ReachedFrom, ReachedFrom, show (build gridId calculations).gridId = gridId from rfl, hfields]
  simp only [hfields]

/-- Nothing is reached from fields with dots in their ids. -/
theorem not_reachedFrom_of_dots {fields : List String}
    (ht : t ∈ (build gridId calculations).targets) (dots : ∀ f ∈ fields, hasDot f = true) :
    ¬ (build gridId calculations).ReachedFrom fields t := by
  rintro (hm | ⟨start, hm, chain⟩)
  · have hid := ((build_compiled gridId calculations).target_ids t ht).2
    exact absurd (dots t hm) (by simp [hid.2])
  · obtain ⟨_, ⟨_, _, _, _, hl⟩, _⟩ := Relation.TransGen.head'_iff.mp chain
    exact absurd (dots start hm) (by simp [hasDot_of_localFieldId? hl])

end Build

theorem reachedFrom_append {plan : CalculationPlan} {fields more : List String} {t : String} :
    plan.ReachedFrom (fields ++ more) t ↔
      plan.ReachedFrom fields t ∨ plan.ReachedFrom more t := by
  simp only [ReachedFrom, List.mem_append, or_and_right, exists_or]
  exact or_or_or_comm

theorem ReachedFrom.of_subset {plan : CalculationPlan} {fields more : List String} {t : String}
    (h : plan.ReachedFrom fields t) (hs : fields ⊆ more) : plan.ReachedFrom more t :=
  h.imp (fun hm => hs hm) fun ⟨field, hf, chain⟩ => ⟨field, hs hf, chain⟩

/-- The path of a field in another grid. -/
def LiesElsewhere (gridId id : String) : Prop :=
  ∃ other field, FieldPath.parse? id = some ⟨some other, field⟩ ∧ other ≠ gridId

theorem hasDot_of_parse? {path gridId field : String}
    (h : FieldPath.parse? path = some ⟨some gridId, field⟩) : hasDot path = true := by
  by_contra hn
  have hd : hasDot path = false := by simpa using hn
  have hpieces : pathPieces path = [path] := by
    rw [pathPieces, splitDots_of_not_mem (hasDot_eq_false_iff.mp hd), List.map_singleton,
      String.ofList_toList]
  simp [FieldPath.parse?, hpieces] at h

/-- The path of a field in another grid is no id of this grid, and stays as it is written. -/
theorem LiesElsewhere.getD_localFieldId? {gridId id : String} (h : LiesElsewhere gridId id) :
    (localFieldId? id gridId).getD id = id ∧ hasDot id = true := by
  obtain ⟨other, field, hp, hne⟩ := h
  have hd := hasDot_of_parse? hp
  refine ⟨?_, hd⟩
  simp [localFieldId?, hd, hp, hne]

theorem dots_of_liesElsewhere {gridId : String} {foreign : List String}
    (elsewhere : ∀ id ∈ foreign, LiesElsewhere gridId id) :
    ∀ f ∈ reducedIds gridId foreign, hasDot f = true := by
  intro f hf
  obtain ⟨id, hid, rfl⟩ := List.mem_map.mp hf
  have h := (elsewhere id hid).getD_localFieldId?
  rw [h.1]
  exact h.2

/-- What a change impacts is, each target once, what chains of readers lead to from the changed
fields. So only the set of the changed ids counts, not their order, repetition or spelling, and
fields of other grids count for nothing. -/
theorem impacted_eq_closure (gridId : String) (calculations : Entries) {changed : List String}
    (hne : changed ≠ []) :
    let plan := build gridId calculations
    (plan.impacted changed).Nodup ∧
      (∀ t, t ∈ plan.impacted changed ↔
        t ∈ plan.targets ∧ plan.ReachedFrom (reducedIds gridId changed) t) ∧
      (∀ other, other ≠ [] →
        (∀ f, f ∈ reducedIds gridId other ↔ f ∈ reducedIds gridId changed) →
        (plan.impacted other).Perm (plan.impacted changed)) ∧
      ∀ foreign, (∀ id ∈ foreign, LiesElsewhere gridId id) →
        (plan.impacted (changed ++ foreign)).Perm (plan.impacted changed) ∧
          (foreign ≠ [] → plan.impacted foreign = []) := by
  intro plan
  have distinct {ids : List String} (h : ids ≠ []) : (plan.impacted ids).Nodup :=
    impacted_nodup (build_compiled gridId calculations) h
  have mem {ids : List String} (h : ids ≠ []) (t : String) : t ∈ plan.impacted ids ↔
      t ∈ plan.targets ∧ plan.ReachedFrom (reducedIds gridId ids) t := mem_impacted_build_iff h
  refine ⟨distinct hne, mem hne, ?_, ?_⟩
  · intro other hother same
    apply (List.perm_ext_iff_of_nodup (distinct hother) (distinct hne)).mpr
    intro t
    rw [mem hother, mem hne]
    refine and_congr_right fun _ => ⟨fun h => ?_, fun h => ?_⟩
    · exact h.of_subset fun f => (same f).mp
    · exact h.of_subset fun f => (same f).mpr
  · intro foreign elsewhere
    have dots := dots_of_liesElsewhere elsewhere
    have unreached {t : String} (ht : t ∈ plan.targets) :
        ¬ plan.ReachedFrom (reducedIds gridId foreign) t := not_reachedFrom_of_dots ht dots
    constructor
    · have hboth : changed ++ foreign ≠ [] := List.append_ne_nil_of_left_ne_nil hne foreign
      apply (List.perm_ext_iff_of_nodup (distinct hboth) (distinct hne)).mpr
      intro t
      rw [mem hboth, mem hne, reducedIds, List.map_append, reachedFrom_append]
      exact and_congr_right fun ht => or_iff_left (unreached ht)
    · intro hforeign
      apply List.eq_nil_iff_forall_not_mem.mpr
      intro t ht
      obtain ⟨htarget, hr⟩ := (mem hforeign t).mp ht
      exact unreached htarget hr

/-- A net amount that is read from itself, a total and a tax that are read from each other, and a
note that is read from another grid, with references in three spellings. -/
def loopingRules : Entries :=
  let field (id : String) : Value := .object [("op", .str "field"), ("fieldId", .str id)]
  let rule (expr : Value) : Value := .object [("expr", expr)]
  let total : Value :=
    .object [("op", .str "add"), ("left", field "net"), ("right", field "sales.tax")]
  [("sales.net", rule (field "net")), ("sales.total", rule total),
    ("tab.sales.tax", rule (field "tab.sales.total")), ("sales.note", rule (field "stock.net"))]

theorem impacted_eq_closure_looping :
    let plan := build "sales" loopingRules
    let changed := ["sales.net", "stock.net"]
    changed ≠ [] ∧ (plan.impacted changed).Nodup ∧
      (∀ t, t ∈ plan.impacted changed ↔
        t ∈ plan.targets ∧ plan.ReachedFrom (reducedIds "sales" changed) t) ∧
      (∀ other, other ≠ [] →
        (∀ f, f ∈ reducedIds "sales" other ↔ f ∈ reducedIds "sales" changed) →
        (plan.impacted other).Perm (plan.impacted changed)) ∧
      ∀ foreign, (∀ id ∈ foreign, LiesElsewhere "sales" id) →
        (plan.impacted (changed ++ foreign)).Perm (plan.impacted changed) ∧
          (foreign ≠ [] → plan.impacted foreign = []) := by
  intro plan changed
  have hne : changed ≠ [] := by decide
  exact ⟨hne, impacted_eq_closure "sales" loopingRules hne⟩

example : (build "sales" loopingRules).impacted ["sales.net", "stock.net"] =
    ["net", "total", "tax"] := by
  decide

end CalculationPlan

end GridRules
