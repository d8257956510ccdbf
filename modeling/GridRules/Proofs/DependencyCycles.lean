import GridRules.Proofs.AcceptedCalculations
import GridRules.Proofs.CheckedPatterns
import GridRules.Proofs.ReferencedFields
/-!
What the check of calculations says about cycles. Its errors on single calculations begin with where
they are, so none of them is taken for an error on a cycle; and there is one error on a cycle for
each elementary cycle of what the calculations that are checked read of each other.
-/

namespace GridRules

section Beginnings

variable {front text path : String}

theorem beginsWith_of_mem_patternProblems {pattern : Option String} {flags : Value}
    {found : List String} (h : patternProblems path pattern flags = .ok found)
    (hp : BeginsWith front path) : ∀ message ∈ found, BeginsWith front message := by
  cases pattern with
  | none =>
    obtain rfl := Except.ok.inj h
    simpa using hp.append _
  | some p =>
    unfold patternProblems at h
    dsimp only at h
    split at h
    next => obtain rfl := Except.ok.inj h; simp
    next =>
      obtain rfl := Except.ok.inj h
      simpa using hp.append _
    next => simp at h
    next => simp at h

theorem beginsWith_of_mem_flagsProblems {flags : Value} (hp : BeginsWith front path) :
    ∀ message ∈ flagsProblems path flags, BeginsWith front message := by
  cases flags with
  | null => simp [flagsProblems]
  | str text => simp [flagsProblems]
  | _ => simpa [flagsProblems] using hp.append _

namespace Expr

variable {checkRef : String → String → List String}

theorem beginsWith_of_mem_argProblems {args : List Expr}
    (each : ∀ arg ∈ args, ∀ {place path found}, BeginsWith front place → BeginsWith front path →
      arg.problems checkRef place path = .ok found → ∀ message ∈ found, BeginsWith front message)
    {i : Nat} {found : List String} (hp : BeginsWith front path)
    (h : argProblems checkRef path i args = .ok found) :
    ∀ message ∈ found, BeginsWith front message := by
  induction args generalizing i found with
  | nil =>
    obtain rfl := Except.ok.inj h
    simp
  | cons e rest ih =>
    obtain ⟨first, others⟩ := List.forall_mem_cons.mp each
    rw [argProblems] at h
    obtain ⟨own, ho, h⟩ := bind_eq_ok_iff.mp h
    obtain ⟨behind, hb, h⟩ := bind_eq_ok_iff.mp h
    obtain rfl := pure_eq_ok_iff.mp h
    have hplace := ((hp.append ".args[").append (toString i)).append "]"
    exact List.forall_mem_append.mpr ⟨first hplace hplace ho, ih others hb⟩

/-- Every problem of an expression names the place in it where it is. -/
theorem beginsWith_of_mem_problems
    (refs : ∀ ref path, BeginsWith front path → ∀ message ∈ checkRef ref path,
      BeginsWith front message) (e : Expr) :
    ∀ {place path found}, BeginsWith front place → BeginsWith front path →
      e.problems checkRef place path = .ok found → ∀ message ∈ found, BeginsWith front message := by
  induction e using operand_induction with
  | step e ih =>
    intro place path found hplace hp h
    have at_path {text : String} (h : Except.ok [path ++ text] = Except.ok (ε := Fault) found) :
        ∀ message ∈ found, BeginsWith front message := by
      obtain rfl := Except.ok.inj h
      simpa using hp.append text
    cases e with
    | invalid =>
      obtain rfl := Except.ok.inj h
      simpa using hplace.append _
    | unknown => exact at_path h
    | unpaired op => exact at_path h
    | const value =>
      obtain rfl := Except.ok.inj h
      simp
    | field ref =>
      cases ref with
      | none => exact at_path h
      | some ref =>
        rw [problems] at h
        split at h
        next => exact at_path h
        next =>
          obtain rfl := Except.ok.inj h
          exact refs ref path hp
    | variadic op args =>
      rw [problems] at h
      split at h
      next => exact at_path h
      next => exact beginsWith_of_mem_argProblems ih hp h
    | connective op args =>
      rw [problems] at h
      split at h
      next => exact at_path h
      next => exact beginsWith_of_mem_argProblems ih hp h
    | binary op left right =>
      rw [problems] at h
      obtain ⟨first, hf, h⟩ := bind_eq_ok_iff.mp h
      obtain ⟨second, hs, h⟩ := bind_eq_ok_iff.mp h
      obtain rfl := pure_eq_ok_iff.mp h
      exact List.forall_mem_append.mpr
        ⟨ih left (by simp [operands]) (hp.append _) (hp.append _) hf,
          ih right (by simp [operands]) (hp.append _) (hp.append _) hs⟩
    | not arg => exact ih arg (by simp [operands]) (hp.append _) (hp.append _) h
    | cond test yes no =>
      rw [problems] at h
      obtain ⟨first, hf, h⟩ := bind_eq_ok_iff.mp h
      obtain ⟨second, hs, h⟩ := bind_eq_ok_iff.mp h
      obtain ⟨third, ht, h⟩ := bind_eq_ok_iff.mp h
      obtain rfl := pure_eq_ok_iff.mp h
      exact List.forall_mem_append.mpr ⟨List.forall_mem_append.mpr
        ⟨ih test (by simp [operands]) (hp.append _) (hp.append _) hf,
          ih yes (by simp [operands]) (hp.append _) (hp.append _) hs⟩,
          ih no (by simp [operands]) (hp.append _) (hp.append _) ht⟩
    | regex subject pattern flags =>
      rw [problems] at h
      obtain ⟨inner, hi, h⟩ := bind_eq_ok_iff.mp h
      obtain ⟨own, ho, h⟩ := bind_eq_ok_iff.mp h
      obtain rfl := pure_eq_ok_iff.mp h
      exact List.forall_mem_append.mpr ⟨List.forall_mem_append.mpr
        ⟨ih subject (by simp [operands]) (hp.append _) (hp.append _) hi,
          beginsWith_of_mem_patternProblems ho hp⟩, beginsWith_of_mem_flagsProblems hp⟩

end Expr

theorem beginsWith_of_mem_calculationRefProblems {fieldPaths : List String} {gridId ref : String}
    (hp : BeginsWith front path) :
    ∀ message ∈ calculationRefProblems fieldPaths gridId ref path, BeginsWith front message := by
  have hnamed := ((hp.append ".fieldId \"").append ref).append "\""
  unfold calculationRefProblems
  dsimp only
  split
  next => simpa using hp.append _
  next =>
    split
    next => simpa using hnamed.append _
    next =>
      split
      next => simpa using ((hp.append _).append ref).append "\""
      next =>
        split
        next => simpa using ((hnamed.append _).append gridId).append "\""
        next => simp

end Beginnings

namespace Tracker

variable {tracker : Tracker} {key : String} {rule : Value}

theorem OnCalculation.ne_cycleError {message : String} (h : OnCalculation message)
    (cycle : List String) : message ≠ cycleError cycle := by
  rintro rfl
  have hc : BeginsWith "calculations contain a dependency cycle: " (cycleError cycle) := ⟨_, rfl⟩
  rcases h with h | h
  · exact absurd (List.prefix_or_prefix_of_prefix h.isPrefix hc.isPrefix) (by decide)
  · exact absurd (List.prefix_or_prefix_of_prefix h.isPrefix hc.isPrefix) (by decide)

/-- The calculation under the key is checked, and its expression refers to the other calculation. -/
def Reads (tracker : Tracker) (key other : String) : Prop :=
  ∃ rule, (key, rule) ∈ tracker.calculations ∧ tracker.ChecksRule key rule ∧
    other ∈ fieldRefs (rule.field "expr") ∧ other ∈ tracker.calculations.keys

theorem checkCalculation_spec {checked : CheckedCalculation}
    (h : tracker.checkCalculation key rule = .ok checked) :
    (∀ message ∈ checked.errors, OnCalculation message) ∧
      ∀ deps, checked.dependencies = some deps ↔
        tracker.ChecksRule key rule ∧ deps = tracker.calculationsRead rule := by
  rcases checkCalculation_cases h with
    ⟨unread, message, on, rfl⟩ | ⟨checks, gridId, fieldId, problems, hq, hp, rfl⟩
  · exact ⟨by simpa using on, by simp [unread]⟩
  · have path : BeginsWith "calculations." ("calculations." ++ key ++ ".expr") :=
      ⟨key ++ ".expr", String.append_assoc⟩
    have found := Expr.beginsWith_of_mem_problems
      (fun _ _ hpath => beginsWith_of_mem_calculationRefProblems hpath) _ path path hp
    refine ⟨List.forall_mem_append.mpr ⟨fun message hm => .inr (found message hm), ?_⟩, ?_⟩
    · split
      · have own : OnCalculation ("calculations." ++ key ++ ".expr" ++ _) :=
          .inr (path.append " must not reference itself")
        simpa using own
      · simp
    · simp [checks, eq_comm]

theorem checkCalculation_returns_iff_checked :
    (∃ checked, tracker.checkCalculation key rule = .ok checked) ↔
      (tracker.ChecksRule key rule → (calculationExpr rule).PatternsDecided) := by
  rw [checkCalculation_returns_iff]
  constructor
  · rintro returns ⟨placed, ⟨gridId, fieldId, hq, hg⟩, node⟩
    cases rule with
    | object entries => exact returns gridId fieldId hq hg placed entries rfl
    | _ => cases node
  · rintro decided gridId fieldId hq hg placed entries rfl
    cases hn : (calculationExpr (.object entries)).isNode with
    | true => exact decided ⟨placed, ⟨gridId, fieldId, hq, hg⟩, hn⟩
    | false => exact Expr.patternsDecided_of_no_node hn

/-- What the calculations that are checked read of each other, with the keys in the order of the
calculations. -/
structure Links (tracker : Tracker) (entries : Entries) (links : Assoc (List String)) : Prop where
  keys : links.keys.Sublist (Assoc.keys entries)
  mem_iff : ∀ key deps, (key, deps) ∈ links ↔ ∃ rule, (key, rule) ∈ entries ∧
    tracker.ChecksRule key rule ∧ deps = tracker.calculationsRead rule

theorem links_of_checked {entries : Entries} {checked : Assoc CheckedCalculation}
    (each : List.Forall₂ (fun entry result =>
      (tracker.checkCalculation entry.1 entry.2).map (fun c => (entry.1, c)) = .ok result)
      entries checked) :
    (∀ message ∈ checked.flatMap (fun entry => entry.2.errors), OnCalculation message) ∧
      tracker.Links entries
        (checked.filterMap fun entry => entry.2.dependencies.map fun deps => (entry.1, deps)) := by
  induction each with
  | nil => exact ⟨by simp, .slnil, by simp⟩
  | @cons entry result entries rest hresult _ ih =>
    obtain ⟨key, rule⟩ := entry
    obtain ⟨c, hcheck, rfl⟩ := map_eq_ok_iff.mp hresult
    obtain ⟨own, deps⟩ := checkCalculation_spec hcheck
    obtain ⟨others, keys, mem_iff⟩ := ih
    refine ⟨List.forall_mem_append.mpr ⟨own, others⟩, ?_, ?_⟩
    · cases hd : c.dependencies with
      | none => simpa [Assoc.keys, hd] using keys.cons key
      | some found => simpa [Assoc.keys, hd] using keys.cons_cons key
    · intro other found
      have first : (∃ deps, c.dependencies = some deps ∧ (key, deps) = (other, found)) ↔
          other = key ∧ tracker.ChecksRule key rule ∧ found = tracker.calculationsRead rule := by
        rw [← deps]
        constructor
        · rintro ⟨_, hd, ⟨⟩⟩
          exact ⟨rfl, hd⟩
        · rintro ⟨rfl, hd⟩
          exact ⟨found, hd, rfl⟩
      have rest := mem_iff other found
      simp only [List.mem_filterMap, Option.map_eq_some_iff, List.exists_mem_cons_iff] at rest ⊢
      rw [first, rest]
      constructor
      · rintro (⟨rfl, hr⟩ | ⟨rule, hm, hr⟩)
        · exact ⟨rule, List.mem_cons_self, hr⟩
        · exact ⟨rule, List.mem_cons_of_mem _ hm, hr⟩
      · rintro ⟨rule, hm, hr⟩
        rcases List.mem_cons.mp hm with he | hm
        · obtain ⟨rfl, rfl⟩ := Prod.mk.inj he
          exact Or.inl ⟨rfl, hr⟩
        · exact Or.inr ⟨rule, hm, hr⟩

namespace Links

variable {links : Assoc (List String)}

theorem keys_nodup (h : tracker.Links tracker.calculations links)
    (distinct : tracker.calculations.keys.Nodup) : links.keys.Nodup :=
  distinct.sublist h.keys

theorem dependenciesOf_nodup (h : tracker.Links tracker.calculations links) (key : String) :
    (dependenciesOf links key).Nodup := by
  rw [dependenciesOf]
  cases hd : links.get? key with
  | none => exact .nil
  | some deps =>
    obtain ⟨rule, -, -, rfl⟩ := (h.mem_iff key deps).mp (Assoc.mem_of_get? hd)
    exact (foldl_addNew_nodup .nil _).filter _

theorem dependsOn_iff (h : tracker.Links tracker.calculations links)
    (distinct : tracker.calculations.keys.Nodup) {key other : String} :
    DependsOn links key other ↔ tracker.Reads key other := by
  have read_iff (rule : Value) : other ∈ tracker.calculationsRead rule ↔
      other ∈ fieldRefs (rule.field "expr") ∧ other ∈ tracker.calculations.keys := by
    rw [calculationsRead, List.mem_filter, Assoc.has_iff]
    rfl
  constructor
  · intro hd
    obtain ⟨deps, hdeps⟩ := Assoc.exists_get?_of_mem_keys (mem_keys_of_dependsOn hd)
    obtain ⟨rule, hm, checks, rfl⟩ := (h.mem_iff key deps).mp (Assoc.mem_of_get? hdeps)
    rw [DependsOn, dependenciesOf, hdeps, Option.getD_some] at hd
    exact ⟨rule, hm, checks, (read_iff rule).mp hd⟩
  · rintro ⟨rule, hm, checks, hr⟩
    have hl := (h.mem_iff key _).mpr ⟨rule, hm, checks, rfl⟩
    rw [DependsOn, dependenciesOf, Assoc.get?_of_mem (h.keys_nodup distinct) hl, Option.getD_some]
    exact (read_iff rule).mpr hr

theorem listing (h : tracker.Links tracker.calculations links)
    (distinct : tracker.calculations.keys.Nodup) :
    CycleListing tracker.Reads (elementaryCycles links) := by
  have same : DependsOn links = tracker.Reads :=
    funext₂ fun _ _ => propext (h.dependsOn_iff distinct)
  exact same ▸ elementaryCycles_listing (h.keys_nodup distinct) h.dependenciesOf_nodup

end Links

/-- The check of calculations comes to an end if the patterns in the expressions that it goes
through are decided. It then reports exactly the elementary cycles of what the calculations that are
checked read of each other, each of them once, from its least key on, and in order; in what order
the links are found makes no difference. -/
theorem checkCalculations_reports_cycles (distinct : tracker.calculations.keys.Nodup) :
    ((∃ report, tracker.checkCalculations = .ok report) ↔
      ∀ key rule, (key, rule) ∈ tracker.calculations → tracker.ChecksRule key rule →
        (calculationExpr rule).PatternsDecided) ∧
    ∀ report, tracker.checkCalculations = .ok report → ∃ others cycles,
      report.errors = others ++ cycles.map cycleError ∧
      (∀ message ∈ others, ∀ cycle, message ≠ cycleError cycle) ∧
      CycleListing tracker.Reads cycles ∧
      ∀ links : Assoc (List String), links.keys.Nodup →
        (∀ key, (dependenciesOf links key).Nodup) →
        (∀ key other, DependsOn links key other ↔ tracker.Reads key other) →
        elementaryCycles links = cycles := by
  constructor
  · rw [checkCalculations_returns_iff]
    simp only [checkCalculation_returns_iff_checked, Prod.forall]
  · intro report h
    obtain ⟨checked, hc, h⟩ := bind_eq_ok_iff.mp h
    obtain rfl := pure_eq_ok_iff.mp h
    obtain ⟨others, links⟩ := links_of_checked (forall₂_of_mapM_ok hc)
    have listing := links.listing distinct
    refine ⟨_, _, rfl, fun message hm cycle => (others message hm).ne_cycleError cycle, listing, ?_⟩
    intro given keys each same
    have hs : DependsOn given = tracker.Reads := funext₂ fun _ _ => propext (same _ _)
    exact (hs ▸ elementaryCycles_listing keys each : CycleListing tracker.Reads _).unique listing

/-- Three fields of a grid that read each other in two cycles with one field in common, a third one
that reads itself, and a field that is read but not placed. -/
def knots : Tracker :=
  let field (ref : String) : Value := .object [("op", .str "field"), ("fieldId", .str ref)]
  let sum (refs : List String) : Value :=
    .object [("expr", .object [("op", .str "add"), ("args", .list (refs.map field))])]
  { tabs := []
    sections := []
    grids := [⟨"g", "Grid", none, none⟩]
    fields := ["a", "b", "c"].map fun id => ⟨id, "number", none, []⟩
    layoutNodes := ["a", "b", "c"].map fun id => ⟨"g", id, none⟩
    validations := []
    calculations := [("g.b", sum ["g.c", "g.a"]), ("g.d", sum ["g.a"]), ("g.c", sum ["g.b", "g.c"]),
      ("g.a", sum ["g.b", "g.d"])]
    options := .empty }

/-- The field that is not placed is on no cycle, for its calculation is not gone through. -/
theorem checkCalculations_reports_cycles_knots :
    knots.calculations.keys.Nodup ∧ ∃ report, knots.checkCalculations = .ok report ∧
      report.errors = [
        "calculations key \"g.d\": field path \"g.d\" not found " ++
          "(field must be placed in layout for that grid)",
        "calculations.g.c.expr must not reference itself",
        "calculations.g.a.expr.args[1].fieldId references missing field path \"g.d\"",
        "calculations contain a dependency cycle: g.a -> g.b",
        "calculations contain a dependency cycle: g.b -> g.c",
        "calculations contain a dependency cycle: g.c"] ∧
      ∃ others cycles, report.errors = others ++ cycles.map cycleError ∧
        (∀ message ∈ others, ∀ cycle, message ≠ cycleError cycle) ∧
        CycleListing knots.Reads cycles := by
  have distinct : knots.calculations.keys.Nodup := by decide
  let links : Assoc (List String) :=
    [("g.b", ["g.c", "g.a"]), ("g.c", ["g.b", "g.c"]), ("g.a", ["g.b", "g.d"])]
  let unplaced := "calculations key \"g.d\": field path \"g.d\" not found " ++
    "(field must be placed in layout for that grid)"
  let itself := "calculations.g.c.expr must not reference itself"
  let missing := "calculations.g.a.expr.args[1].fieldId references missing field path \"g.d\""
  have checked : knots.checkedCalculations = .ok [("g.b", ⟨[], some ["g.c", "g.a"]⟩),
      ("g.d", ⟨[unplaced], none⟩), ("g.c", ⟨[itself], some ["g.b", "g.c"]⟩),
      ("g.a", ⟨[missing], some ["g.b", "g.d"]⟩)] := by rfl
  have found : links.keys.flatMap (cyclesFrom links) =
      [["g.b", "g.c"], ["g.c"], ["g.a", "g.b"]] := by decide +kernel
  have cycles : elementaryCycles links = [["g.a", "g.b"], ["g.b", "g.c"], ["g.c"]] := by
    rw [elementaryCycles, found]
    cbv
  have reported : knots.checkCalculations =
      .ok ⟨[unplaced, itself, missing] ++ (elementaryCycles links).map cycleError, []⟩ := by
    rw [checkCalculations, checked]
    rfl
  rw [cycles] at reported
  obtain ⟨others, listed, he, apart, listing, _⟩ :=
    (checkCalculations_reports_cycles distinct).2 _ reported
  exact ⟨distinct, _, reported, rfl, others, listed, he, apart, listing⟩

end Tracker

end GridRules
