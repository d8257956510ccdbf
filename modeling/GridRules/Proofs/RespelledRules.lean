import GridRules.Proofs.ReferenceSpellings
import GridRules.Proofs.RespelledPlans

namespace GridRules

/-- One field reference in the rule of one calculation is spelled in another way. -/
inductive RespelledRule (spelling : String → String → Prop) : Entries → Entries → Prop
  | rule {front back path fields expr} : Respelled spelling (Entries.getD fields "expr") expr →
      RespelledRule spelling (front ++ (path, .object fields) :: back)
        (front ++ (path, .object (fields.put "expr" expr)) :: back)

namespace CalculationPlan

section Harmless

variable {gridId : String} {spelling : String → String → Prop} {spell : String → String}
  {calculations calculations' : Entries}

theorem ruleIn?_spelled (path : String) {rule rule' : Value}
    (h : spelledExpr spell (rule.field "expr") = spelledExpr spell (rule'.field "expr")) :
    (ruleIn? gridId path rule).map (fun r => (r.1, r.2.mapRefs spell)) =
      (ruleIn? gridId path rule').map (fun r => (r.1, r.2.mapRefs spell)) := by
  have hnode : (Expr.ofValue (rule.field "expr")).isNode =
      (Expr.ofValue (rule'.field "expr")).isNode := by
    rw [← Expr.isNode_mapRefs, ← Expr.isNode_mapRefs (Expr.ofValue (rule'.field "expr"))]
    exact congrArg Expr.isNode h
  have hmap : ∀ v : Value, Option.map (fun r => (r.1, r.2.mapRefs spell))
      ((targetIn? gridId path).map fun t => (t, Expr.ofValue v)) =
        (targetIn? gridId path).map fun t => (t, spelledExpr spell v) :=
    fun v => by rw [Option.map_map]; rfl
  rw [ruleIn?_eq, ruleIn?_eq, hnode]
  split
  next => rw [hmap, hmap, h]
  next => rfl

theorem rulesIn_respelled (hs : ∀ ref id, spelling ref id → spell ref = spell id)
    (h : RespelledRule spelling calculations calculations') :
    (rulesIn gridId calculations).map (fun r => (r.1, r.2.mapRefs spell)) =
      (rulesIn gridId calculations').map (fun r => (r.1, r.2.mapRefs spell)) := by
  obtain @⟨front, back, path, fields, expr, hexpr⟩ := h
  have hfield : spelledExpr spell ((Value.object fields).field "expr") =
      spelledExpr spell ((Value.object (fields.put "expr" expr)).field "expr") := by
    rw [Value.field, Value.field, getD_put, if_pos rfl]
    exact hexpr.spelledExpr_eq hs
  rw [rulesIn, rulesIn, List.map_filterMap, List.map_filterMap]
  simp only [List.filterMap_append, List.filterMap_cons, ruleIn?_spelled path hfield]

/-- Ids in the place of plain paths leave what applying the rules gives. -/
theorem apply_respelled
    (plain : ∀ ref id, spelling ref id →
      localFieldId? ref gridId = some id ∧ PlainlySpelled gridId ref id)
    (h : RespelledRule spelling calculations calculations') {row : HeldRow} (keyed : KeyedRow row)
    (changed : List String) :
    (build gridId calculations').apply row changed =
      (build gridId calculations).apply row changed := by
  have hs : ∀ ref id, spelling ref id → bareSpelling gridId ref = bareSpelling gridId id :=
    fun ref id hr => bareSpelling_of_plain (plain ref id hr).1 (plain ref id hr).2
  have hplan : ∀ calcs, (build gridId calcs).mapRefs (bareSpelling gridId) = ofRules gridId
      ((rulesIn gridId calcs).map fun r => (r.1, r.2.mapRefs (bareSpelling gridId))) :=
    fun calcs => ofRules_mapRefs (isBlankText_bareSpelling gridId) (bareSpelling_eq_empty gridId)
      (localFieldId?_bareSpelling gridId) (rulesIn gridId calcs)
  rw [← apply_mapRefs (build_compiled gridId calculations) keyed,
    ← apply_mapRefs (build_compiled gridId calculations') keyed]
  change ((build gridId calculations').mapRefs (bareSpelling gridId)).apply row changed =
    ((build gridId calculations).mapRefs (bareSpelling gridId)).apply row changed
  rw [hplan, hplan, rulesIn_respelled hs h]

end Harmless

section Copies

variable {gridId target ref id : String} {row : HeldRow}

/-- On a row that is keyed by ids a reference to a field of the grid leads to the field if it is
the id of the field or its path, and to nothing in any other spelling. -/
theorem getD_rowValues_local (keyed : KeyedRow row) (h : localFieldId? ref gridId = some id) :
    (rowValues gridId row).getD ref =
      if ref = id ∨ ref = FieldPath.inGrid gridId id then row.getD id else ⟨.null, .none⟩ := by
  cases hd : hasDot ref with
  | false =>
    have hid : ref = id := Option.some.inj
      ((localFieldId?_of_no_dot (not_blank_of_localFieldId? h) hd gridId).symm.trans h)
    rw [if_pos (Or.inl hid), HeldRow.getD, get?_rowValues_of_no_dot hd, hid, HeldRow.getD]
  | true =>
    obtain ⟨hg, hid⟩ := isFieldId_of_localFieldId? h hd
    have hne : ref ≠ id := fun he => by simp [← he, IsFieldId, hd] at hid
    have hnone : row.get? ref = none := keyed.get?_of_not_id (by simp [IsFieldId, hd])
    by_cases hpath : ref = FieldPath.inGrid gridId id
    · rw [if_pos (Or.inr hpath), HeldRow.getD, HeldRow.getD, hpath,
        foundTwice_rowValues keyed id hid, get?_rowValues_of_no_dot hid.2]
    · have hvalues : (rowValues gridId row).get? ref = none := by
        by_cases hother : ∃ field, ref = FieldPath.inGrid gridId field
        · obtain ⟨field, rfl⟩ := hother
          have hfield : ¬ IsFieldId field := fun hf => hpath (by
            rw [Option.some.inj ((localFieldId?_inGrid hg hf).symm.trans h)])
          rw [get?_rowValues_path keyed.distinct, hnone, keyed.get?_of_not_id hfield]
          rfl
        · rw [get?_rowValues_of_ne fun field he => hother ⟨field, he⟩, hnone]
      rw [if_neg (by simp [hne, hpath]), HeldRow.getD, hvalues]
      rfl

/-- The calculation of a target that is a copy of what a reference leads to. -/
def copyRule (gridId target ref : String) : Entries :=
  [(FieldPath.inGrid gridId target,
    .object [("expr", .object [("op", .str "field"), ("fieldId", .str ref)])])]

theorem rulesIn_copyRule (hg : IsFieldId gridId) (ht : IsFieldId target) (ref : String) :
    rulesIn gridId (copyRule gridId target ref) = [(target, .field (some ref))] := by
  have hexpr : Expr.ofValue (.object [("op", .str "field"), ("fieldId", .str ref)]) =
      .field (some ref) := rfl
  have hfield : (Value.object [("expr", .object [("op", .str "field"),
      ("fieldId", .str ref)])]).field "expr" =
        .object [("op", .str "field"), ("fieldId", .str ref)] := rfl
  simp [rulesIn, copyRule, ruleIn?, hfield, hexpr, Expr.isNode, FieldPath.parse?_inGrid hg ht]

theorem localRefs_field (hl : localFieldId? ref gridId = some id) :
    localRefs gridId (.field (some ref)) = [id] := by
  have hne : ref ≠ "" := by
    rintro rfl
    exact absurd (not_blank_of_localFieldId? hl) (by decide)
  simp [localRefs_eq, Expr.allRefs, hne, hl, addNew]

theorem build_copyRule (hg : IsFieldId gridId) (ht : IsFieldId target)
    (hl : localFieldId? ref gridId = some id) (hne : id ≠ target) :
    build gridId (copyRule gridId target ref) =
      { gridId := gridId
        ruleSet := 0
        rules := [(target, .field (some ref))]
        dependsOn := [(target, [])]
        readers := [(id, [target])]
        skipped := [] } := by
  simp [build_eq_ofRules, rulesIn_copyRule hg ht, ofRules, Expr.wellFormed,
    not_blank_of_localFieldId? hl, localRefs_field hl, Assoc.putAll, Assoc.put, Assoc.has,
    Assoc.get?_cons, hne, readersOf, addReader, addNew]

/-- The only target is written with what the reference leads to. -/
theorem apply_copyRule (hg : IsFieldId gridId) (ht : IsFieldId target)
    (hl : localFieldId? ref gridId = some id) (hne : id ≠ target) (row : HeldRow) :
    (build gridId (copyRule gridId target ref)).apply row [] = .ok
      (if (row.getD target).unchanged ((rowValues gridId row).getD ref) then ⟨row, [], []⟩
      else ⟨row.put target ((rowValues gridId row).getD ref), [target], []⟩) := by
  have hbuild := build_copyRule hg ht hl hne
  have horder : evaluationOrder (build gridId (copyRule gridId target ref)) [target] =
      ([target], []) := by
    simp [hbuild, evaluationOrder, meet, visit, dependencies, Assoc.get?_cons, Visit.finish,
      Visit.start]
  have himpacted : impacted (build gridId (copyRule gridId target ref)) [] = [target] := by
    simp [hbuild, impacted, targets, Assoc.keys]
  have houtcome : (build gridId (copyRule gridId target ref)).ruleOutcome row target =
      .ok ((rowValues gridId row).getD ref) := by
    have hrule : (build gridId (copyRule gridId target ref)).rules.get? target =
        some (.field (some ref)) := by
      simp [hbuild, Assoc.get?_cons]
    rw [ruleOutcome, hrule]
    dsimp only
    rw [Expr.hold, Expr.evaluate?, Expr.attempt, HeldRow.getD_entries]
    rfl
  have hmem : target ∈ (build gridId (copyRule gridId target ref)).targets := by
    simp [hbuild, targets, Assoc.keys]
  have inStep : (Progress.start gridId row).InStep (build gridId (copyRule gridId target ref)) :=
    fun _ => rfl
  have hcomputed : (build gridId (copyRule gridId target ref)).computed row [target] =
      .ok ((Progress.start gridId row).take gridId target ((rowValues gridId row).getD ref)) := by
    rw [← List.nil_append [target],
      computed_concat_of_ok (build_compiled gridId _) inStep rfl hmem]
    exact congrArg (Except.map _) houtcome
  have hrow : (Progress.start gridId row).row = row := rfl
  rw [apply_eq, himpacted, horder, hcomputed, Except.map, Progress.take, hrow]
  cases (row.getD target).unchanged ((rowValues gridId row).getD ref) <;> rfl

/-- A reference that is blank is incomplete, and so is the rule. -/
theorem apply_copyRule_of_blank (hg : IsFieldId gridId) (ht : IsFieldId target)
    (hb : isBlankText ref = true) (row : HeldRow) :
    (build gridId (copyRule gridId target ref)).apply row [] = .ok ⟨row, [], []⟩ := by
  have hrules : (build gridId (copyRule gridId target ref)).rules = [] := by
    simp [build, targetRules, rulesIn_copyRule hg ht, Expr.wellFormed, hb, Assoc.putAll]
  have himpacted : impacted (build gridId (copyRule gridId target ref)) [] = [] := by
    simp [impacted, targets, hrules, Assoc.keys]
  rw [apply_eq, himpacted]
  rfl

theorem respelled_copyRule {spelling : String → String → Prop} (h : spelling ref id) :
    RespelledRule spelling (copyRule gridId target ref) (copyRule gridId target id) :=
  @RespelledRule.rule spelling [] [] _ _ _ (Respelled.field rfl rfl h)

/-- Where a reference is not spelled plainly, a rule that copies what it leads to does not do what
the rule with the id does. -/
theorem exists_copyRule_ne (hl : localFieldId? ref gridId = some id)
    (hplain : ¬ PlainlySpelled gridId ref id) :
    ∃ target row, KeyedRow row ∧
      (build gridId (copyRule gridId target id)).apply row [] ≠
        (build gridId (copyRule gridId target ref)).apply row [] := by
  have hd : hasDot ref = true := by
    by_contra hd
    have hb := not_blank_of_localFieldId? hl
    have hid : ref = id := Option.some.inj
      ((localFieldId?_of_no_dot hb (by simpa using hd) gridId).symm.trans hl)
    exact hplain ⟨Or.inl hid, hid ▸ hb⟩
  obtain ⟨hg, hid⟩ := isFieldId_of_localFieldId? hl hd
  obtain ⟨target, ht, hne⟩ : ∃ target, IsFieldId target ∧ id ≠ target := by
    by_cases hx : id = "x"
    · exact ⟨"y", by decide, by simp [hx]⟩
    · exact ⟨"x", by decide, hx⟩
  let held (b : Bool) (name : String) : Held := ⟨.bool b, .given name⟩
  have keyed : KeyedRow [(id, held true id), (target, held false target)] :=
    ⟨by simp [Assoc.keys, hne], by simp [Assoc.keys, hid, ht]⟩
  refine ⟨target, _, keyed, fun he => ?_⟩
  have htarget : HeldRow.getD [(id, held true id), (target, held false target)] target =
      held false target := by
    simp [HeldRow.getD, Assoc.get?_cons, hne.symm]
  have hfield : HeldRow.getD [(id, held true id), (target, held false target)] id =
      held true id := by
    simp [HeldRow.getD, Assoc.get?_cons]
  have htrue : (held false target).unchanged (held true id) = false := by
    simp [held, Held.unchanged, Value.sameScalar]
  have hnull : (held false target).unchanged ⟨.null, .none⟩ = false := by
    simp [held, Held.unchanged, Value.sameScalar, Value.number?]
  rw [apply_copyRule hg ht hl hne, getD_rowValues_local keyed hl, htarget, hfield] at he
  -- A blank id is no complete rule, so the target is not written; any other id reads the field,
  -- while the reference reads nothing.
  cases hb : isBlankText id with
  | true =>
    rw [apply_copyRule_of_blank hg ht hb] at he
    have hupdated := congrArg CalculationResult.updated (Except.ok.inj he)
    split at hupdated <;> simp [htrue, hnull] at hupdated
  | false =>
    have hother : ¬ (ref = id ∨ ref = FieldPath.inGrid gridId id) := fun h => hplain ⟨h, hb⟩
    have hl' : localFieldId? id gridId = some id := localFieldId?_of_no_dot hb hid.2 gridId
    rw [apply_copyRule hg ht hl' hne, getD_rowValues_local keyed hl', htarget, hfield,
      if_pos (Or.inl rfl), if_neg hother, htrue, hnull] at he
    have hrow := congrArg (fun result => result.row.get? target) (Except.ok.inj he)
    simp [Assoc.get?_put, held] at hrow

end Copies

/-- To replace references by the ids of the fields that they mean is harmless for those that are
spelled as the id or as the path of a field, and for no others. -/
theorem respelling_harmless_iff (gridId : String) (chosen : String → Prop) :
    (∀ calculations calculations',
      Relation.ReflTransGen
        (RespelledRule fun ref id => chosen ref ∧ localFieldId? ref gridId = some id)
        calculations calculations' →
      ∀ row, KeyedRow row → ∀ changed,
        (build gridId calculations').apply row changed =
          (build gridId calculations).apply row changed) ↔
      ∀ ref id, chosen ref → localFieldId? ref gridId = some id →
        PlainlySpelled gridId ref id := by
  constructor
  · intro harmless ref id hc hl
    by_contra hplain
    obtain ⟨target, row, keyed, hne⟩ := exists_copyRule_ne hl hplain
    exact hne (harmless _ _ (.single (respelled_copyRule ⟨hc, hl⟩)) row keyed [])
  · intro plain calculations calculations' h row keyed changed
    induction h with
    | refl => rfl
    | tail _ step ih =>
      rw [← ih]
      exact apply_respelled (fun ref id hr => ⟨hr.2, plain ref id hr.1 hr.2⟩) step keyed changed

/-- A path with a tab counts as a dependency on the field but does not read it. -/
theorem tab_path_reads_nothing :
    RespelledRule (fun ref id => localFieldId? ref "g" = some id)
        (copyRule "g" "a" "t.g.b") (copyRule "g" "a" "b") ∧
      KeyedRow (.given [("b", .int 5)]) ∧
      ((build "g" (copyRule "g" "a" "t.g.b")).apply (.given [("b", .int 5)]) []).map
        (·.updated) = .ok [] ∧
      ((build "g" (copyRule "g" "a" "b")).apply (.given [("b", .int 5)]) []).map
        (·.updated) = .ok ["a"] :=
  ⟨respelled_copyRule (by decide), ⟨by decide, by decide⟩, by decide +kernel, by decide +kernel⟩

end CalculationPlan

end GridRules
