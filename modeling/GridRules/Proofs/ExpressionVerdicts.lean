import GridRules.Proofs.CheckedPatterns
import GridRules.Proofs.Lists

namespace GridRules

/-- An error about a pattern that cannot be compiled, or about flags that are no text. -/
inductive AboutPattern : String → Prop
  | malformed (path : String) : AboutPattern (path ++ ".pattern is not a valid regex")
  | flags (path : String) : AboutPattern (path ++ ".flags must be a string when provided")

namespace AboutPattern

variable {message : String}

theorem getLast?_mem (h : AboutPattern message) :
    message.toList.getLast? ∈ [some 'x', some 'd'] := by
  cases h with
  | malformed path =>
    rw [getLast?_toList_append (c := 'x') rfl]
    decide
  | flags path =>
    rw [getLast?_toList_append (c := 'd') rfl]
    decide

theorem not_of_getLast? {c : Char} (h : message.toList.getLast? = some c)
    (other : some c ∉ [some 'x', some 'd']) : ¬ AboutPattern message :=
  fun about => other (h ▸ about.getLast?_mem)

end AboutPattern

theorem forall_patternProblems_iff {path : String} {pattern : Option String} {flags : Value}
    {found : List String} (h : patternProblems path pattern flags = .ok found) :
    (∀ message ∈ found, AboutPattern message) ↔ pattern.isSome = true := by
  cases pattern with
  | none =>
    obtain rfl := Except.ok.inj h
    have other : ¬ AboutPattern (path ++ ".pattern must be a string") :=
      AboutPattern.not_of_getLast? (getLast?_toList_append (c := 'g') rfl) (by decide)
    simpa using other
  | some p =>
    refine iff_of_true ?_ rfl
    unfold patternProblems at h
    dsimp only at h
    split at h
    next => obtain rfl := Except.ok.inj h; simp
    next =>
      obtain rfl := Except.ok.inj h
      simpa using AboutPattern.malformed path
    next => simp at h
    next => simp at h

theorem aboutPattern_of_mem_flagsProblems {path message : String} {flags : Value}
    (h : message ∈ flagsProblems path flags) : AboutPattern message := by
  cases flags with
  | null => simp [flagsProblems] at h
  | str text => simp [flagsProblems] at h
  | _ =>
    obtain rfl := List.mem_singleton.mp h
    exact .flags path

namespace Expr

variable {checkRef : String → String → List String}

theorem forall_argProblems_iff {args : List Expr}
    (each : ∀ arg ∈ args, ∀ {place path found}, arg.problems checkRef place path = .ok found →
      ((∀ message ∈ found, AboutPattern message) ↔ arg.wellFormed = true))
    {path : String} {i : Nat} {found : List String}
    (h : argProblems checkRef path i args = .ok found) :
    (∀ message ∈ found, AboutPattern message) ↔ ∀ arg ∈ args, arg.wellFormed = true := by
  induction args generalizing i found with
  | nil =>
    obtain rfl := Except.ok.inj h
    simp
  | cons e rest ih =>
    obtain ⟨first, others⟩ := List.forall_mem_cons.mp each
    rw [argProblems] at h
    obtain ⟨own, ho, h⟩ := bind_eq_ok_iff.mp h
    obtain ⟨behind, hb, h⟩ := bind_eq_ok_iff.mp h
    obtain rfl := pure_eq_ok_iff.mp h
    rw [List.forall_mem_append, first ho, ih others hb, List.forall_mem_cons]

/-- Where the check accepts all references, it has nothing to say but about patterns and flags
exactly if the expression is complete. -/
theorem forall_problems_iff (accepts : ∀ ref path, checkRef ref path = []) (e : Expr) :
    ∀ {place path found}, e.problems checkRef place path = .ok found →
      ((∀ message ∈ found, AboutPattern message) ↔ e.wellFormed = true) := by
  induction e using operand_induction with
  | step e ih =>
    intro place path found h
    -- a single error at the node itself, told apart from those on patterns by its last character
    have refused {front text : String} {c : Char} (hc : text.toList.getLast? = some c)
        (other : some c ∉ [some 'x', some 'd']) (hw : e.wellFormed = false)
        (h : Except.ok [front ++ text] = Except.ok (ε := Fault) found) :
        (∀ message ∈ found, AboutPattern message) ↔ e.wellFormed = true := by
      obtain rfl := Except.ok.inj h
      have := AboutPattern.not_of_getLast? (getLast?_toList_append (s := front) hc) other
      simpa [hw] using this
    cases e with
    | invalid => exact refused rfl (by decide) rfl h
    | unknown => exact refused rfl (by decide) rfl h
    | const value =>
      obtain rfl := Except.ok.inj h
      simp [wellFormed]
    | field ref =>
      cases ref with
      | none => exact refused rfl (by decide) rfl h
      | some ref =>
        rw [problems] at h
        split at h
        next hb => exact refused rfl (by decide) (by simpa [wellFormed] using hb) h
        next hb =>
          obtain rfl := Except.ok.inj h
          simpa [accepts, wellFormed] using hb
    | variadic op args =>
      rw [problems] at h
      split at h
      next he => exact refused rfl (by decide) (by simp [wellFormed, he]) h
      next he =>
        rw [forall_argProblems_iff ih h]
        simp [wellFormed, allWellFormed_eq_all, he, operands]
    | connective op args =>
      rw [problems] at h
      split at h
      next he => exact refused rfl (by decide) (by simp [wellFormed, he]) h
      next he =>
        rw [forall_argProblems_iff ih h]
        simp [wellFormed, allWellFormed_eq_all, he, operands]
    | binary op left right =>
      rw [problems] at h
      obtain ⟨first, hf, h⟩ := bind_eq_ok_iff.mp h
      obtain ⟨second, hs, h⟩ := bind_eq_ok_iff.mp h
      obtain rfl := pure_eq_ok_iff.mp h
      rw [List.forall_mem_append, ih left (by simp [operands]) hf,
        ih right (by simp [operands]) hs, wellFormed, Bool.and_eq_true]
    | unpaired op => exact refused rfl (by decide) rfl h
    | not arg => exact ih arg (by simp [operands]) h
    | cond test yes no =>
      rw [problems] at h
      obtain ⟨first, hf, h⟩ := bind_eq_ok_iff.mp h
      obtain ⟨second, hs, h⟩ := bind_eq_ok_iff.mp h
      obtain ⟨third, ht, h⟩ := bind_eq_ok_iff.mp h
      obtain rfl := pure_eq_ok_iff.mp h
      rw [List.forall_mem_append, List.forall_mem_append, ih test (by simp [operands]) hf,
        ih yes (by simp [operands]) hs, ih no (by simp [operands]) ht, wellFormed,
        Bool.and_eq_true, Bool.and_eq_true]
    | regex subject pattern flags =>
      rw [problems] at h
      obtain ⟨inner, hi, h⟩ := bind_eq_ok_iff.mp h
      obtain ⟨own, ho, h⟩ := bind_eq_ok_iff.mp h
      obtain rfl := pure_eq_ok_iff.mp h
      have onFlags : ∀ message ∈ flagsProblems path flags, AboutPattern message :=
        fun _ => aboutPattern_of_mem_flagsProblems
      rw [List.forall_mem_append, List.forall_mem_append, ih subject (by simp [operands]) hi,
        forall_patternProblems_iff ho, and_iff_left onFlags, and_comm, wellFormed,
        Bool.and_eq_true]

end Expr

/-- The check of a node and the test for completeness agree: where all references are accepted and
every pattern can be compiled or is found malformed, the check comes to an end, and it finds no
errors but those about patterns and flags exactly if the node is complete. -/
theorem problems_iff_isWellFormed {checkRef : String → String → List String}
    (accepts : ∀ ref path, checkRef ref path = []) {node : Value} (path : String)
    (decided : (Expr.ofValue node).PatternsDecided) :
    ∃ errors, (Expr.ofValue node).problems checkRef path path = .ok errors ∧
      ((∀ message ∈ errors, AboutPattern message) ↔ isWellFormed node = true) := by
  obtain ⟨errors, he⟩ := (Expr.problems_returns_iff _ path path).mpr decided
  exact ⟨errors, he, Expr.forall_problems_iff accepts _ he⟩

/-- A sum written as a pair: a search for a pattern that lacks its end, with flags that are no text,
and what a comparison by symbol chooses. -/
def brokenSearch : Value :=
  let field (ref : String) : Value := .object [("op", .str "field"), ("fieldId", .str ref)]
  .object [("op", .str "add"),
    ("left", .object [("op", .str "regex"), ("value", field "code"), ("pattern", .str "[0-9"),
      ("flags", .int 1)]),
    ("right", .object [("op", .str "if"),
      ("cond", .object [("op", .str "==="), ("args", .list [field "g.a", field "t.g.b"])]),
      ("then", field "a"), ("else", .object [("op", .str "const")])])]

/-- The two errors that are found in a complete node are about its pattern and its flags. -/
theorem problems_iff_isWellFormed_brokenSearch :
    let checkRef := fun _ _ : String => ([] : List String)
    (∀ ref path, checkRef ref path = []) ∧ (Expr.ofValue brokenSearch).PatternsDecided ∧
      isWellFormed brokenSearch = true ∧
      (Expr.ofValue brokenSearch).problems checkRef "rule" "rule" =
        .ok ["rule.args[0].pattern is not a valid regex",
          "rule.args[0].flags must be a string when provided"] ∧
      ∃ errors, (Expr.ofValue brokenSearch).problems checkRef "rule" "rule" = .ok errors ∧
        ((∀ message ∈ errors, AboutPattern message) ↔ isWellFormed brokenSearch = true) := by
  intro checkRef
  have accepts : ∀ ref path, checkRef ref path = [] := fun _ _ => rfl
  have found : (Expr.ofValue brokenSearch).problems checkRef "rule" "rule" =
      .ok ["rule.args[0].pattern is not a valid regex",
        "rule.args[0].flags must be a string when provided"] := by decide +kernel
  have decided : (Expr.ofValue brokenSearch).PatternsDecided :=
    (Expr.problems_returns_iff _ "rule" "rule").mp ⟨_, found⟩
  exact ⟨accepts, decided, by decide, found, problems_iff_isWellFormed accepts "rule" decided⟩

end GridRules
