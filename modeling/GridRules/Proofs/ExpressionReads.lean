import GridRules.Expr.References
import GridRules.Proofs.Lists
import GridRules.Proofs.Operands

namespace GridRules

namespace Expr

theorem allRefsOf_eq_flatMap (es : List Expr) : allRefsOf es = es.flatMap allRefs := by
  induction es with
  | nil => rfl
  | cons e es ih => rw [allRefsOf, ih, List.flatMap_cons]

theorem allWellFormed_eq_all (es : List Expr) : allWellFormed es = es.all wellFormed := by
  induction es with
  | nil => rfl
  | cons e es ih => rw [allWellFormed, ih, List.all_cons]

theorem mem_refs {e : Expr} {ref : String} : ref ∈ e.refs ↔ ref ∈ e.allRefs := by
  have h : ref ∈ e.refs ↔ ref ∈ [] ∨ ref ∈ e.allRefs := mem_foldl_addNew
  simpa using h

/-- A reference is the one of a field, or one of an operand. -/
theorem mem_allRefs {e : Expr} {ref : String} :
    ref ∈ e.allRefs ↔
      e = .field (some ref) ∧ ref ≠ "" ∨ ∃ arg ∈ e.operands, ref ∈ arg.allRefs := by
  cases e with
  | variadic op args => simp [allRefs, operands, allRefsOf_eq_flatMap]
  | connective op args => simp [allRefs, operands, allRefsOf_eq_flatMap]
  | field given =>
    cases given with
    | none => simp [allRefs, operands]
    | some name =>
      by_cases h : name = ""
      · simp [allRefs, operands, h]
      · simp only [allRefs, operands, h]
        grind
  | _ => simp [allRefs, operands]

theorem wellFormed_operand {arg e : Expr} (hw : e.wellFormed = true) (h : arg ∈ e.operands) :
    arg.wellFormed = true := by
  cases e with
  | variadic op args =>
    simp only [wellFormed, allWellFormed_eq_all, Bool.and_eq_true, List.all_eq_true] at hw
    exact hw.2 arg h
  | connective op args =>
    simp only [wellFormed, allWellFormed_eq_all, Bool.and_eq_true, List.all_eq_true] at hw
    exact hw.2 arg h
  | binary op left right =>
    simp only [wellFormed, Bool.and_eq_true] at hw
    simp only [operands, List.mem_cons, List.not_mem_nil, or_false] at h
    rcases h with rfl | rfl
    · exact hw.1
    · exact hw.2
  | not e =>
    obtain rfl : arg = e := by simpa [operands] using h
    exact hw
  | cond test yes no =>
    simp only [wellFormed, Bool.and_eq_true] at hw
    simp only [operands, List.mem_cons, List.not_mem_nil, or_false] at h
    rcases h with rfl | rfl | rfl
    · exact hw.1.1
    · exact hw.1.2
    · exact hw.2
  | regex subject pattern flags =>
    obtain rfl : arg = subject := by simpa [operands] using h
    simp only [wellFormed, Bool.and_eq_true] at hw
    exact hw.2
  | _ => simp [operands] at h

theorem attempt_eq_of_operands {e : Expr} {row other : Entries}
    (below : ∀ arg ∈ e.operands, arg.attempt row = arg.attempt other)
    (own : ∀ ref, e = .field (some ref) → row.getD ref = other.getD ref) :
    e.attempt row = e.attempt other := by
  have all {args : List Expr} (h : ∀ arg ∈ args, arg.attempt row = arg.attempt other) :
      args.map (evaluate? row) = args.map (evaluate? other) :=
    List.map_congr_left fun arg ha => congrArg contain (h arg ha)
  cases e with
  | variadic op args =>
    have hargs : args.map (evaluate? row) = args.map (evaluate? other) := all below
    rw [attempt_variadic, attempt_variadic, hargs]
  | connective op args =>
    have hargs : args.map (evaluate? row) = args.map (evaluate? other) := all below
    rw [attempt_connective, attempt_connective, hargs]
  | binary op left right =>
    rw [attempt, attempt, below left (by simp [operands]), below right (by simp [operands])]
  | not arg => rw [attempt, attempt, below arg (by simp [operands])]
  | cond test yes no =>
    rw [attempt, attempt, below test (by simp [operands]), below yes (by simp [operands]),
      below no (by simp [operands])]
  | regex subject pattern flags =>
    cases pattern with
    | none => rfl
    | some p => rw [attempt, attempt, below subject (by simp [operands])]
  | field ref =>
    cases ref with
    | none => rfl
    | some ref => exact congrArg Except.ok (own ref rfl)
  | _ => rfl

theorem not_blank_of_mem_refs {e : Expr} {ref : String} (hw : e.wellFormed = true)
    (hr : ref ∈ e.refs) : isBlankText ref = false := by
  rw [mem_refs] at hr
  induction e using operand_induction with
  | step e ih =>
    rcases mem_allRefs.mp hr with ⟨rfl, _⟩ | ⟨arg, ha, hr⟩
    · simpa [wellFormed] using hw
    · exact ih arg ha (wellFormed_operand hw ha) hr

/-- The references of an expression are those of the fields that stand in it, unless they are
empty. -/
theorem mem_refs_iff {e : Expr} {ref : String} :
    ref ∈ e.refs ↔ ref ≠ "" ∧ Within (.field (some ref)) e := by
  rw [mem_refs]
  constructor
  · intro h
    induction e using operand_induction with
    | step e ih =>
      rcases mem_allRefs.mp h with ⟨rfl, hne⟩ | ⟨arg, ha, hr⟩
      · exact ⟨hne, .self _⟩
      · obtain ⟨hne, hw⟩ := ih arg ha hr
        exact ⟨hne, .operand ha hw⟩
  · rintro ⟨hne, hw⟩
    induction hw with
    | self => exact mem_allRefs.mpr (Or.inl ⟨rfl, hne⟩)
    | operand ha _ ih => exact mem_allRefs.mpr (Or.inr ⟨_, ha, ih⟩)

/-- What is right for all references of fields in an expression carries over to the expression. -/
theorem field_induction {motive : Expr → Prop} {right : String → Prop}
    (step : ∀ e : Expr, (∀ arg ∈ e.operands, motive arg) →
      (∀ ref, e = .field (some ref) → right ref) → motive e)
    (e : Expr) (fields : ∀ ref, Within (.field (some ref)) e → right ref) : motive e := by
  induction e using operand_induction with
  | step e ih =>
    apply step e
    · exact fun arg ha => ih arg ha fun ref hw => fields ref (.operand ha hw)
    · rintro ref rfl
      exact fields ref (.self _)

theorem wellFormed_of_within {inner e : Expr} (hw : e.wellFormed = true) (h : Within inner e) :
    inner.wellFormed = true := by
  induction h with
  | self => exact hw
  | operand ha _ ih => exact ih (wellFormed_operand hw ha)

/-- The references of a complete expression are those of all fields that stand in it. -/
theorem mem_refs_of_within {e : Expr} {ref : String} (hw : e.wellFormed = true)
    (h : Within (.field (some ref)) e) : ref ∈ e.refs := by
  refine mem_refs_iff.mpr ⟨?_, h⟩
  rintro rfl
  simpa [wellFormed, isBlankText] using wellFormed_of_within hw h

end Expr

end GridRules
