import GridRules.Proofs.ExpressionReads
import GridRules.Proofs.Results
import GridRules.Schema.Expressions

namespace GridRules

namespace Expr

variable {checkRef : String → String → List String}

/-- Two checks one behind the other find nothing if neither does. -/
theorem both_find_nothing_iff {first second : Except Fault (List String)} :
    (do let x ← first; let y ← second; return x ++ y) = .ok [] ↔
      first = .ok [] ∧ second = .ok [] := by
  cases first with
  | error e => simp [bind, Except.bind]
  | ok x => cases second <;> simp [bind, Except.bind, pure, Except.pure]

theorem problems_of_mem_args {path : String} {i : Nat} {args : List Expr}
    (h : argProblems checkRef path i args = .ok []) :
    ∀ arg ∈ args, ∃ place, arg.problems checkRef place place = .ok [] := by
  induction args generalizing i with
  | nil => simp
  | cons e rest ih =>
    rw [argProblems] at h
    obtain ⟨hfirst, hrest⟩ := both_find_nothing_iff.mp h
    intro arg ha
    rcases List.mem_cons.mp ha with rfl | ha
    · exact ⟨_, hfirst⟩
    · exact ih hrest arg ha

/-- What is found at the operands of an expression in which nothing is wrong: nothing either. -/
theorem problems_of_mem_operands {e : Expr} {place path : String}
    (h : e.problems checkRef place path = .ok []) :
    ∀ arg ∈ e.operands, ∃ place path, arg.problems checkRef place path = .ok [] := by
  intro arg ha
  cases e with
  | variadic op args =>
    rw [problems] at h
    split at h
    next => simp at h
    next =>
      obtain ⟨at_, hat⟩ := problems_of_mem_args h arg ha
      exact ⟨at_, at_, hat⟩
  | connective op args =>
    rw [problems] at h
    split at h
    next => simp at h
    next =>
      obtain ⟨at_, hat⟩ := problems_of_mem_args h arg ha
      exact ⟨at_, at_, hat⟩
  | binary op left right =>
    rw [problems] at h
    obtain ⟨hl, hr⟩ := both_find_nothing_iff.mp h
    rcases List.mem_pair.mp ha with rfl | rfl
    · exact ⟨_, _, hl⟩
    · exact ⟨_, _, hr⟩
  | not inner =>
    obtain rfl : arg = inner := by simpa [operands] using ha
    exact ⟨_, _, h⟩
  | cond test yes no =>
    rw [problems] at h
    obtain ⟨first, hf, h⟩ := bind_eq_ok_iff.mp h
    obtain ⟨second, hs, h⟩ := bind_eq_ok_iff.mp h
    obtain ⟨third, ht, h⟩ := bind_eq_ok_iff.mp h
    obtain ⟨rfl, rfl, rfl⟩ : first = [] ∧ second = [] ∧ third = [] := by
      simpa using pure_eq_ok_iff.mp h
    simp only [operands, List.mem_cons, List.not_mem_nil, or_false] at ha
    rcases ha with rfl | rfl | rfl
    · exact ⟨_, _, hf⟩
    · exact ⟨_, _, hs⟩
    · exact ⟨_, _, ht⟩
  | regex subject pattern flags =>
    obtain rfl : arg = subject := by simpa [operands] using ha
    rw [problems] at h
    obtain ⟨inner, hi, h⟩ := bind_eq_ok_iff.mp h
    obtain ⟨own, _, h⟩ := bind_eq_ok_iff.mp h
    obtain ⟨rfl, _⟩ : inner = [] ∧ own = [] ∧ flagsProblems path flags = [] := by
      simpa using pure_eq_ok_iff.mp h
    exact ⟨_, _, hi⟩
  | _ => simp [operands] at ha

/-- An expression in which nothing is wrong has an operator that exists and the operands that it
needs. -/
theorem wellFormed_of_problems {e : Expr} {place path : String}
    (h : e.problems checkRef place path = .ok [])
    (below : ∀ arg ∈ e.operands, arg.wellFormed = true) : e.wellFormed = true := by
  cases e with
  | invalid => simp [problems] at h
  | unknown => simp [problems] at h
  | const value => rfl
  | field ref =>
    cases ref with
    | none => simp [problems] at h
    | some ref =>
      rw [problems] at h
      split at h
      next => simp at h
      next hb => simpa [wellFormed] using hb
  | variadic op args =>
    rw [problems] at h
    split at h
    next => simp at h
    next hne => simpa [wellFormed, allWellFormed_eq_all, hne, operands] using below
  | connective op args =>
    rw [problems] at h
    split at h
    next => simp at h
    next hne => simpa [wellFormed, allWellFormed_eq_all, hne, operands] using below
  | binary op left right => simpa [wellFormed, operands] using below
  | unpaired op => simp [problems] at h
  | not arg => simpa [wellFormed, operands] using below
  | cond test yes no => simpa [wellFormed, operands, and_assoc] using below
  | regex subject pattern flags =>
    rw [problems] at h
    obtain ⟨inner, hi, h⟩ := bind_eq_ok_iff.mp h
    obtain ⟨own, ho, h⟩ := bind_eq_ok_iff.mp h
    obtain ⟨_, rfl, _⟩ : inner = [] ∧ own = [] ∧ flagsProblems path flags = [] := by
      simpa using pure_eq_ok_iff.mp h
    have hp : pattern.isSome = true := by
      cases pattern with
      | none => simp [patternProblems] at ho
      | some p => rfl
    simpa [wellFormed, operands, hp] using below

theorem checkRef_of_field {ref place path : String}
    (h : (field (some ref)).problems checkRef place path = .ok []) : checkRef ref path = [] := by
  rw [problems] at h
  split at h
  next => simp at h
  next => exact Except.ok.inj h

/-- An expression in which nothing is wrong is complete, and the check of references accepts all
its references. -/
theorem clean_of_problems (e : Expr) : ∀ place path, e.problems checkRef place path = .ok [] →
    e.wellFormed = true ∧ ∀ ref ∈ e.allRefs, ∃ path, checkRef ref path = [] := by
  induction e using operand_induction with
  | step e ih =>
    intro place path h
    have below : ∀ arg ∈ e.operands,
        arg.wellFormed = true ∧ ∀ ref ∈ arg.allRefs, ∃ path, checkRef ref path = [] := by
      intro arg ha
      obtain ⟨_, _, hp⟩ := problems_of_mem_operands h arg ha
      exact ih arg ha _ _ hp
    refine ⟨wellFormed_of_problems h fun arg ha => (below arg ha).1, ?_⟩
    intro ref hr
    rcases mem_allRefs.mp hr with ⟨rfl, _⟩ | ⟨arg, ha, hr⟩
    · exact ⟨path, checkRef_of_field h⟩
    · exact (below arg ha).2 ref hr

end Expr

end GridRules
