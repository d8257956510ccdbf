import GridRules.Proofs.ExpressionReads
import GridRules.Proofs.OperandShapes
import GridRules.Proofs.PlanDependencies

namespace GridRules

namespace Expr

mutual

/-- The expression with its references spelled in another way. -/
def mapRefs (spell : String → String) : Expr → Expr
  | .invalid => .invalid
  | .unknown => .unknown
  | .const v => .const v
  | .field ref => .field (ref.map spell)
  | .variadic op args => .variadic op (mapRefsAll spell args)
  | .binary op left right => .binary op (left.mapRefs spell) (right.mapRefs spell)
  | .unpaired op => .unpaired op
  | .connective op args => .connective op (mapRefsAll spell args)
  | .not arg => .not (arg.mapRefs spell)
  | .cond test yes no => .cond (test.mapRefs spell) (yes.mapRefs spell) (no.mapRefs spell)
  | .regex subject pattern flags => .regex (subject.mapRefs spell) pattern flags

def mapRefsAll (spell : String → String) : List Expr → List Expr
  | [] => []
  | e :: rest => e.mapRefs spell :: mapRefsAll spell rest

end

section Spelling

variable {spell : String → String}

theorem mapRefsAll_eq_map (es : List Expr) : mapRefsAll spell es = es.map (mapRefs spell) := by
  induction es with
  | nil => rfl
  | cons e es ih => rw [mapRefsAll, ih, List.map_cons]

theorem isNode_mapRefs (e : Expr) : (e.mapRefs spell).isNode = e.isNode := by
  cases e <;> rfl

theorem all_wellFormed_mapRefs {args : List Expr}
    (h : ∀ arg ∈ args, (arg.mapRefs spell).wellFormed = arg.wellFormed) :
    (args.map (mapRefs spell)).all wellFormed = args.all wellFormed := by
  rw [List.all_map, Bool.eq_iff_iff, List.all_eq_true, List.all_eq_true]
  exact forall₂_congr fun arg ha => by rw [Function.comp_apply, h arg ha]

theorem wellFormed_mapRefs (blank : ∀ ref, isBlankText (spell ref) = isBlankText ref) (e : Expr) :
    (e.mapRefs spell).wellFormed = e.wellFormed := by
  induction e using operand_induction with
  | step e ih =>
    cases e with
    | field ref => cases ref <;> simp [mapRefs, wellFormed, blank]
    | variadic op args =>
      have hargs : (args.map (mapRefs spell)).all wellFormed = args.all wellFormed :=
        all_wellFormed_mapRefs ih
      rw [mapRefs, wellFormed, wellFormed, mapRefsAll_eq_map, allWellFormed_eq_all,
        allWellFormed_eq_all, hargs, List.isEmpty_map]
    | connective op args =>
      have hargs : (args.map (mapRefs spell)).all wellFormed = args.all wellFormed :=
        all_wellFormed_mapRefs ih
      rw [mapRefs, wellFormed, wellFormed, mapRefsAll_eq_map, allWellFormed_eq_all,
        allWellFormed_eq_all, hargs, List.isEmpty_map]
    | binary op left right =>
      rw [mapRefs, wellFormed, wellFormed, ih left (by simp [operands]),
        ih right (by simp [operands])]
    | not arg => rw [mapRefs, wellFormed, wellFormed, ih arg (by simp [operands])]
    | cond test yes no =>
      rw [mapRefs, wellFormed, wellFormed, ih test (by simp [operands]),
        ih yes (by simp [operands]), ih no (by simp [operands])]
    | regex subject pattern flags =>
      rw [mapRefs, wellFormed, wellFormed, ih subject (by simp [operands])]
    | _ => rfl

theorem allRefs_mapRefs (empty : ∀ ref, spell ref = "" ↔ ref = "") (e : Expr) :
    (e.mapRefs spell).allRefs = e.allRefs.map spell := by
  induction e using operand_induction with
  | step e ih =>
    cases e with
    | field ref =>
      cases ref with
      | none => rfl
      | some ref => by_cases h : ref = "" <;> simp [mapRefs, allRefs, h, empty]
    | variadic op args =>
      simp only [mapRefs, allRefs, mapRefsAll_eq_map, allRefsOf_eq_flatMap, List.flatMap_map,
        List.map_flatMap]
      exact List.flatMap_congr ih
    | connective op args =>
      simp only [mapRefs, allRefs, mapRefsAll_eq_map, allRefsOf_eq_flatMap, List.flatMap_map,
        List.map_flatMap]
      exact List.flatMap_congr ih
    | binary op left right =>
      rw [mapRefs, allRefs, allRefs, ih left (by simp [operands]),
        ih right (by simp [operands]), List.map_append]
    | not arg => rw [mapRefs, allRefs, allRefs, ih arg (by simp [operands])]
    | cond test yes no =>
      rw [mapRefs, allRefs, allRefs, ih test (by simp [operands]),
        ih yes (by simp [operands]), ih no (by simp [operands]), List.map_append,
        List.map_append]
    | regex subject pattern flags =>
      rw [mapRefs, allRefs, allRefs, ih subject (by simp [operands])]
    | _ => rfl

/-- Where both spellings of every reference lead to one value, so does the whole expression. -/
theorem attempt_mapRefs {row : Entries} (same : ∀ ref, row.getD (spell ref) = row.getD ref)
    (e : Expr) : (e.mapRefs spell).attempt row = e.attempt row := by
  induction e using operand_induction with
  | step e ih =>
    have all {args : List Expr}
        (h : ∀ arg ∈ args, (arg.mapRefs spell).attempt row = arg.attempt row) :
        args.map (evaluate? row ∘ mapRefs spell) = args.map (evaluate? row) :=
      List.map_congr_left fun arg ha => congrArg contain (h arg ha)
    cases e with
    | field ref =>
      cases ref with
      | none => rfl
      | some ref => exact congrArg Except.ok (same ref)
    | variadic op args =>
      have hargs : args.map (evaluate? row ∘ mapRefs spell) = args.map (evaluate? row) := all ih
      rw [mapRefs, attempt_variadic, attempt_variadic, mapRefsAll_eq_map, List.map_map, hargs]
    | connective op args =>
      have hargs : args.map (evaluate? row ∘ mapRefs spell) = args.map (evaluate? row) := all ih
      rw [mapRefs, attempt_connective, attempt_connective, mapRefsAll_eq_map, List.map_map, hargs]
    | binary op left right =>
      rw [mapRefs, attempt, attempt, ih left (by simp [operands]), ih right (by simp [operands])]
    | not arg => rw [mapRefs, attempt, attempt, isNode_mapRefs, ih arg (by simp [operands])]
    | cond test yes no =>
      rw [mapRefs, attempt, attempt, isNode_mapRefs, isNode_mapRefs, isNode_mapRefs,
        ih test (by simp [operands]), ih yes (by simp [operands]), ih no (by simp [operands])]
    | regex subject pattern flags =>
      cases pattern with
      | none => rfl
      | some p => rw [mapRefs, attempt, attempt, isNode_mapRefs, ih subject (by simp [operands])]
    | _ => rfl

end Spelling

end Expr

/-- To leave out repetitions before a translation that leaves out repetitions makes no
difference. -/
theorem foldl_addNew_filterMap (f : String → Option String) (items seen : List String) :
    ((items.foldl addNew seen).filterMap f).foldl addNew [] =
      (items.filterMap f).foldl addNew ((seen.filterMap f).foldl addNew []) := by
  induction items generalizing seen with
  | nil => rfl
  | cons x items ih =>
    rw [List.foldl_cons, ih, List.filterMap_cons]
    by_cases hx : x ∈ seen
    · have hseen : addNew seen x = seen := by simp [addNew, hx]
      rw [hseen]
      cases hf : f x with
      | none => rfl
      | some y =>
        have hy : y ∈ (seen.filterMap f).foldl addNew [] :=
          mem_foldl_addNew.mpr (Or.inr (List.mem_filterMap.mpr ⟨x, hx, hf⟩))
        simp [addNew, hy]
    · have hseen : addNew seen x = seen ++ [x] := by simp [addNew, hx]
      rw [hseen, List.filterMap_append, List.foldl_append]
      cases hf : f x <;> simp [hf]

theorem localRefs_eq (gridId : String) (e : Expr) :
    CalculationPlan.localRefs gridId e =
      (e.allRefs.filterMap (localFieldId? · gridId)).foldl addNew [] :=
  foldl_addNew_filterMap (localFieldId? · gridId) e.allRefs []

/-- A reference to a field of the grid that is spelled as the path of the field, or as its id. -/
def PlainlySpelled (gridId ref id : String) : Prop :=
  (ref = id ∨ ref = FieldPath.inGrid gridId id) ∧ isBlankText id = false

/-- The id in place of the path of a field of the grid; all other references stay. -/
def bareSpelling (gridId ref : String) : String :=
  match localFieldId? ref gridId with
  | some id => if ref = FieldPath.inGrid gridId id ∧ isBlankText id = false then id else ref
  | none => ref

section Spelling

variable {gridId ref id : String}

theorem not_blank_of_localFieldId? (h : localFieldId? ref gridId = some id) :
    isBlankText ref = false := by
  cases hb : isBlankText ref with
  | false => rfl
  | true => simp [localFieldId?, hb] at h

theorem isFieldId_of_localFieldId? (h : localFieldId? ref gridId = some id)
    (hd : hasDot ref = true) : IsFieldId gridId ∧ IsFieldId id := by
  rw [CalculationPlan.localFieldId?_of_dot (not_blank_of_localFieldId? h) hd] at h
  exact CalculationPlan.isFieldId_of_targetIn? h

/-- A reference is left as it is, or it is the path of a field and becomes its id. -/
theorem bareSpelling_cases (gridId ref : String) :
    bareSpelling gridId ref = ref ∨
      ∃ id, bareSpelling gridId ref = id ∧ ref = FieldPath.inGrid gridId id ∧ IsFieldId id ∧
        isBlankText id = false ∧ localFieldId? ref gridId = some id := by
  unfold bareSpelling
  cases h : localFieldId? ref gridId with
  | none => exact Or.inl rfl
  | some id =>
    by_cases hplain : ref = FieldPath.inGrid gridId id ∧ isBlankText id = false
    · have hid := (isFieldId_of_localFieldId? h (by rw [hplain.1, hasDot_inGrid])).2
      exact Or.inr ⟨id, if_pos hplain, hplain.1, hid, hplain.2, rfl⟩
    · exact Or.inl (if_neg hplain)

theorem isBlankText_bareSpelling (gridId ref : String) :
    isBlankText (bareSpelling gridId ref) = isBlankText ref := by
  rcases bareSpelling_cases gridId ref with he | ⟨id, he, _, _, hb, hl⟩
  · rw [he]
  · rw [he, hb, not_blank_of_localFieldId? hl]

theorem bareSpelling_eq_empty (gridId ref : String) : bareSpelling gridId ref = "" ↔ ref = "" := by
  rcases bareSpelling_cases gridId ref with he | ⟨id, he, hr, hid, _, _⟩
  · rw [he]
  · rw [he]
    refine ⟨fun h => absurd h hid.1, ?_⟩
    rintro rfl
    exact absurd (hr ▸ hasDot_inGrid gridId id) (by decide)

theorem localFieldId?_bareSpelling (gridId ref : String) :
    localFieldId? (bareSpelling gridId ref) gridId = localFieldId? ref gridId := by
  rcases bareSpelling_cases gridId ref with he | ⟨id, he, _, hid, hb, hl⟩
  · rw [he]
  · rw [he, hl, localFieldId?_of_no_dot hb hid.2]

theorem bareSpelling_of_plain (h : localFieldId? ref gridId = some id)
    (plain : PlainlySpelled gridId ref id) : bareSpelling gridId ref = bareSpelling gridId id := by
  obtain ⟨rfl | hpath, hb⟩ := plain
  · rfl
  · have hid := (isFieldId_of_localFieldId? h (by rw [hpath, hasDot_inGrid])).2
    have hstays : bareSpelling gridId id = id := by
      rcases bareSpelling_cases gridId id with he | ⟨other, _, hr, _, _, _⟩
      · exact he
      · exact absurd (hr ▸ hid.2) (by simp [hasDot_inGrid])
    rw [hstays, bareSpelling, h]
    exact if_pos ⟨hpath, hb⟩

end Spelling

/-- One field reference, somewhere in an expression as it is written, is spelled in another way.
Under `spelling ref id` the reference `ref` may become `id`. -/
inductive Respelled (spelling : String → String → Prop) : Value → Value → Prop
  | field {node ref id} : Node.operator? node = some .field → node.getD "fieldId" = .str ref →
      spelling ref id →
      Respelled spelling (.object node) (.object (node.put "fieldId" (.str id)))
  | operand {node op key child} : Node.operator? node = some op → key ∈ op.operandKeys →
      Respelled spelling (node.getD key) child →
      Respelled spelling (.object node) (.object (node.put key child))
  | item {front back v w} : Respelled spelling v w →
      Respelled spelling (.list (front ++ v :: back)) (.list (front ++ w :: back))

/-- The expression that a value is once its references are spelled alike. -/
def spelledExpr (spell : String → String) (v : Value) : Expr :=
  (Expr.ofValue v).mapRefs spell

theorem Expr.mapRefs_compositional (spell : String → String) : Compositional (mapRefs spell) where
  variadic op args args' h := by
    rw [mapRefs, mapRefs, mapRefsAll_eq_map, mapRefsAll_eq_map, h]
  binary op left left' right right' hl hr := by rw [mapRefs, mapRefs, hl, hr]
  connective op args args' h := by
    rw [mapRefs, mapRefs, mapRefsAll_eq_map, mapRefsAll_eq_map, h]
  not h := by rw [mapRefs, mapRefs, h]
  cond ht hy hn := by rw [mapRefs, mapRefs, ht, hy, hn]
  regex pattern flags h := by rw [mapRefs, mapRefs, h]

namespace Respelled

variable {spelling : String → String → Prop} {spell : String → String}

theorem put_field {node : Entries} {ref id : String} (ho : Node.operator? node = some .field)
    (hr : node.getD "fieldId" = .str ref) (hs : spell ref = spell id) :
    spelledExpr spell (.object node) =
      spelledExpr spell (.object (node.put "fieldId" (.str id))) := by
  have ho' : Node.operator? (node.put "fieldId" (.str id)) = some .field := by
    rw [← ho, Node.operator?, Node.operator?, Node.opText?, Node.opText?, getD_put,
      if_neg (by decide)]
  rw [spelledExpr, spelledExpr, Expr.ofValue_of_operator ho, Expr.ofValue_of_operator ho']
  simp [Expr.ofNode, Expr.mapRefs, hr, getD_put, Value.string?, hs]

/-- A reference that is spelled in another way is the only difference. -/
theorem sameShape (hs : ∀ ref id, spelling ref id → spell ref = spell id) {v w : Value}
    (h : Respelled spelling v w) : SameShape (Expr.mapRefs spell) v w := by
  induction h with
  | field ho hr hspelling =>
    exact ⟨congrArg (Prod.mk false) (put_field ho hr (hs _ _ hspelling)), rfl⟩
  | operand ho hk _ ih => exact ih.put_operand (Expr.mapRefs_compositional spell) ho hk
  | item _ ih => exact ih.item

theorem spelledExpr_eq (hs : ∀ ref id, spelling ref id → spell ref = spell id) {v w : Value}
    (h : Respelled spelling v w) : spelledExpr spell v = spelledExpr spell w :=
  (h.sameShape hs).expr_eq

end Respelled

end GridRules
