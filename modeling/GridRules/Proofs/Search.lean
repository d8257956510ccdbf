import GridRules.Calculation.Order
import GridRules.Proofs.Lists
import Mathlib.Data.List.Chain
import Mathlib.Logic.Relation

namespace GridRules

namespace CalculationPlan

/-- A dependency of one target on another one, both of them among the given targets. -/
def Link (plan : CalculationPlan) (among : List String) (target dep : String) : Prop :=
  target ∈ among ∧ dep ∈ among ∧ dep ∈ plan.dependencies target

/-- The target lies on a directed cycle of dependencies among the given targets. -/
def OnCycle (plan : CalculationPlan) (among : List String) (target : String) : Prop :=
  Relation.TransGen (plan.Link among) target target

/-- The search for an order, without a fuel parameter. Dealing with `deps` at the end of a path
leads from one state to another; the record has every target that is entered on the way, with the
targets that were finished by then. -/
inductive Search (plan : CalculationPlan) (impacted : List String) :
    List String → List String → Visit → List (String × List String) → Visit → Prop
  | stop {path s} : Search plan impacted path [] s [] s
  | skip {path dep deps s record s'} : (dep ∈ impacted → dep ∈ s.visited) →
      Search plan impacted path deps s record s' →
      Search plan impacted path (dep :: deps) s record s'
  | close {path dep deps s record s'} : dep ∈ impacted → dep ∉ s.visited → dep ∈ path →
      Search plan impacted path deps (s.report path dep) record s' →
      Search plan impacted path (dep :: deps) s record s'
  | enter {path dep deps s inner s₁ record s'} : dep ∈ impacted → dep ∉ s.visited → dep ∉ path →
      Search plan impacted (path ++ [dep]) (plan.dependencies dep) s inner s₁ →
      Search plan impacted path deps (s₁.finish dep) record s' →
      Search plan impacted path (dep :: deps) s ((dep, s.visited) :: (inner ++ record)) s'

theorem meet_of_passed {impacted path : List String} {enter : String → Visit → Visit} {s : Visit}
    {dep : String} (h : dep ∈ impacted → dep ∈ s.visited) :
    meet impacted path enter s dep = s := by
  unfold meet
  rw [if_neg]
  simpa using h

theorem meet_of_on_path {impacted path : List String} {enter : String → Visit → Visit} {s : Visit}
    {dep : String} (hi : dep ∈ impacted) (hv : dep ∉ s.visited) (hp : dep ∈ path) :
    meet impacted path enter s dep = s.report path dep := by
  simp [meet, hi, hv, hp]

theorem meet_of_new {impacted path : List String} {enter : String → Visit → Visit} {s : Visit}
    {dep : String} (hi : dep ∈ impacted) (hv : dep ∉ s.visited) (hp : dep ∉ path) :
    meet impacted path enter s dep = enter dep s := by
  simp [meet, hi, hv, hp]

/-- A path without repetitions among the impacted targets leaves room for a new one. -/
theorem path_length_lt {path impacted : List String} {dep : String} (hn : path.Nodup)
    (hs : path ⊆ impacted) (hi : dep ∈ impacted) (hp : dep ∉ path) :
    path.length < impacted.length := by
  have hnodup : (dep :: path).Nodup := List.nodup_cons.mpr ⟨hp, hn⟩
  exact hnodup.length_le_of_subset (List.cons_subset.mpr ⟨hi, hs⟩)

/-- The fuel is a proved bound: with as many steps as there are impacted targets left, the search
comes to its end. -/
theorem search_of_fuel (plan : CalculationPlan) {impacted : List String} (fuel : Nat)
    {path : List String} (hn : path.Nodup) (hs : path ⊆ impacted)
    (hf : impacted.length ≤ fuel + path.length) (deps : List String) (s : Visit) :
    ∃ record, plan.Search impacted path deps s record
      (deps.foldl (meet impacted path (plan.visit impacted fuel path)) s) := by
  induction fuel generalizing path deps s with
  | zero =>
    induction deps generalizing s with
    | nil => exact ⟨[], .stop⟩
    | cons dep deps ih =>
      rw [List.foldl_cons]
      by_cases passed : dep ∈ impacted → dep ∈ s.visited
      · obtain ⟨record, hr⟩ := ih s
        rw [meet_of_passed passed]
        exact ⟨record, .skip passed hr⟩
      · obtain ⟨hi, hv⟩ := Classical.not_imp.mp passed
        have hp : dep ∈ path := by
          by_contra hp
          have := path_length_lt hn hs hi hp
          omega
        obtain ⟨record, hr⟩ := ih (s.report path dep)
        rw [meet_of_on_path hi hv hp]
        exact ⟨record, .close hi hv hp hr⟩
  | succ fuel below =>
    induction deps generalizing s with
    | nil => exact ⟨[], .stop⟩
    | cons dep deps ih =>
      rw [List.foldl_cons]
      by_cases passed : dep ∈ impacted → dep ∈ s.visited
      · obtain ⟨record, hr⟩ := ih s
        rw [meet_of_passed passed]
        exact ⟨record, .skip passed hr⟩
      · obtain ⟨hi, hv⟩ := Classical.not_imp.mp passed
        by_cases hp : dep ∈ path
        · obtain ⟨record, hr⟩ := ih (s.report path dep)
          rw [meet_of_on_path hi hv hp]
          exact ⟨record, .close hi hv hp hr⟩
        · have hs' : path ++ [dep] ⊆ impacted :=
            List.append_subset.mpr ⟨hs, by simpa using hi⟩
          have hf' : impacted.length ≤ fuel + (path ++ [dep]).length := by
            simp only [List.length_append, List.length_singleton]
            omega
          obtain ⟨inner, hin⟩ := below (nodup_concat hn hp) hs' hf' (plan.dependencies dep) s
          obtain ⟨record, hr⟩ := ih (plan.visit impacted (fuel + 1) path dep s)
          rw [meet_of_new hi hv hp]
          exact ⟨(dep, s.visited) :: (inner ++ record), .enter hi hv hp hin hr⟩

theorem evaluationOrder_search (plan : CalculationPlan) (impacted : List String) :
    ∃ record s, plan.Search impacted [] impacted .start record s ∧
      plan.evaluationOrder impacted = (s.order, s.cyclic) := by
  obtain ⟨record, h⟩ := plan.search_of_fuel impacted.length List.nodup_nil
    (List.nil_subset impacted) (Nat.le_add_right _ _) impacted .start
  exact ⟨record, _, h, rfl⟩

theorem dropWhile_ne_of_mem {path : List String} {dep : String} (h : dep ∈ path) :
    ∃ front back, path = front ++ dep :: back ∧ path.dropWhile (· != dep) = dep :: back := by
  induction path with
  | nil => simp at h
  | cons t path ih =>
    by_cases he : t = dep
    · subst t
      exact ⟨[], path, rfl, by simp⟩
    · obtain ⟨front, back, hp, hd⟩ := ih ((List.mem_cons.mp h).resolve_left (Ne.symm he))
      exact ⟨t :: front, back, by simp [hp], by simpa [List.dropWhile_cons, he] using hd⟩

theorem mem_of_mem_dropWhile {path : List String} {p : String → Bool} {t : String}
    (h : t ∈ path.dropWhile p) : t ∈ path :=
  (List.dropWhile_sublist p).subset h

theorem mem_dropWhile_concat {path : List String} {dep last t : String}
    (h : t ∈ path.dropWhile (· != dep)) : t ∈ (path ++ [last]).dropWhile (· != dep) := by
  rw [List.dropWhile_append]
  split
  next he => simp [List.isEmpty_iff.mp he] at h
  next => exact List.mem_append_left _ h

/-- The end of a path belongs to every cycle that is closed there. -/
theorem last_mem_dropWhile {path : List String} {dep last : String} (h : dep ∈ path ++ [last]) :
    last ∈ (path ++ [last]).dropWhile (· != dep) := by
  obtain ⟨front, back, hp, hd⟩ := dropWhile_ne_of_mem h
  rw [hd]
  have hl : (path ++ [last]).getLast? = some last := by simp
  rw [hp, List.getLast?_append_of_ne_nil _ (by simp)] at hl
  exact List.mem_of_getLast? hl

theorem mem_report_cyclic {s : Visit} {path : List String} {dep t : String} :
    t ∈ (s.report path dep).cyclic ↔ t ∈ s.cyclic ∨ t ∈ path.dropWhile (· != dep) :=
  mem_foldl_addNew

@[simp] theorem mem_finish_visited {s : Visit} {target t : String} :
    t ∈ (s.finish target).visited ↔ t ∈ s.visited ∨ t = target := by
  simp [Visit.finish]

theorem finish_order_of_cyclic {s : Visit} {target : String} (h : target ∈ s.cyclic) :
    (s.finish target).order = s.order := by
  simp [Visit.finish, h]

theorem finish_order_of_not_cyclic {s : Visit} {target : String} (h : target ∉ s.cyclic) :
    (s.finish target).order = s.order ++ [target] := by
  simp [Visit.finish, h]

/-- What is finished or reported stays so. -/
structure Visit.Extends (s s' : Visit) : Prop where
  visited : s.visited ⊆ s'.visited
  cyclic : s.cyclic ⊆ s'.cyclic

theorem Visit.Extends.trans {s s₁ s' : Visit} (h : s.Extends s₁) (h' : s₁.Extends s') :
    s.Extends s' :=
  ⟨fun _ ht => h'.visited (h.visited ht), fun _ ht => h'.cyclic (h.cyclic ht)⟩

theorem report_extends (s : Visit) (path : List String) (dep : String) :
    s.Extends (s.report path dep) :=
  ⟨fun _ ht => ht, fun _ ht => mem_report_cyclic.mpr (Or.inl ht)⟩

theorem finish_extends (s : Visit) (target : String) : s.Extends (s.finish target) :=
  ⟨fun _ ht => mem_finish_visited.mpr (Or.inl ht), fun _ ht => ht⟩

section Runs

variable {plan : CalculationPlan} {impacted path deps : List String} {s s' : Visit}
  {record : List (String × List String)}

theorem Search.extends (h : plan.Search impacted path deps s record s') : s.Extends s' := by
  induction h with
  | stop => exact ⟨fun _ ht => ht, fun _ ht => ht⟩
  | skip _ _ ih => exact ih
  | close _ _ _ _ ih => exact (report_extends _ _ _).trans ih
  | enter _ _ _ _ _ ihin ih => exact ihin.trans ((finish_extends _ _).trans ih)

theorem fresh_concat {dep : String} (fresh : ∀ t ∈ path, t ∉ s.visited) (hv : dep ∉ s.visited) :
    ∀ t ∈ path ++ [dep], t ∉ s.visited := by
  intro t ht
  rcases mem_concat.mp ht with ht | rfl
  · exact fresh t ht
  · exact hv

theorem fresh_finish {dep : String} (fresh : ∀ t ∈ path ++ [dep], t ∉ s.visited) (hp : dep ∉ path) :
    ∀ t ∈ path, t ∉ (s.finish dep).visited := by
  intro t ht hf
  rcases mem_finish_visited.mp hf with hf | rfl
  · exact fresh t (List.mem_append_left _ ht) hf
  · exact hp ht

/-- The search never finishes a target of the path it starts from. -/
theorem Search.path_unfinished (h : plan.Search impacted path deps s record s')
    (fresh : ∀ t ∈ path, t ∉ s.visited) : ∀ t ∈ path, t ∉ s'.visited := by
  induction h with
  | stop => exact fresh
  | skip _ _ ih => exact ih fresh
  | close _ _ _ _ ih => exact ih fresh
  | @enter path dep deps s inner s₁ record s' hi hv hp _ _ ihin ih =>
    exact ih (fresh_finish (ihin (fresh_concat fresh hv)) hp)

/-- A dependency at the end of a path has been dealt with: it is finished, or it is on the path
and everything from there on is reported. -/
def Visit.Met (s : Visit) (path : List String) (dep : String) : Prop :=
  dep ∈ s.visited ∨ dep ∈ path ∧ ∀ t ∈ path.dropWhile (· != dep), t ∈ s.cyclic

theorem Visit.Met.mono {dep : String} (h : s.Met path dep) (he : s.Extends s') :
    s'.Met path dep := by
  rcases h with hv | ⟨hp, hc⟩
  · exact Or.inl (he.visited hv)
  · exact Or.inr ⟨hp, fun t ht => he.cyclic (hc t ht)⟩

/-- Once the end of a path is finished, what was met there is met one target earlier. -/
theorem Visit.Met.shorten {dep last : String} (h : s.Met (path ++ [last]) dep)
    (he : s.Extends s') (hl : last ∈ s'.visited) : s'.Met path dep := by
  rcases h with hv | ⟨hp, hc⟩
  · exact Or.inl (he.visited hv)
  · rcases mem_concat.mp hp with hp | rfl
    · exact Or.inr ⟨hp, fun t ht => he.cyclic (hc t (mem_dropWhile_concat ht))⟩
    · exact Or.inl hl

theorem Search.met (h : plan.Search impacted path deps s record s') {dep : String}
    (hd : dep ∈ deps) (hi : dep ∈ impacted) : s'.Met path dep := by
  induction h with
  | stop => simp at hd
  | skip passed h ih =>
    rcases List.mem_cons.mp hd with rfl | hd
    · exact Or.inl (h.extends.visited (passed hi))
    · exact ih hd
  | @close path _ _ s _ _ _ _ hp h ih =>
    rcases List.mem_cons.mp hd with rfl | hd
    · have hr : (s.report path dep).Met path dep :=
        Or.inr ⟨hp, fun t ht => mem_report_cyclic.mpr (Or.inr ht)⟩
      exact hr.mono h.extends
    · exact ih hd
  | enter _ _ _ _ h _ ih =>
    rcases List.mem_cons.mp hd with rfl | hd
    · exact Or.inl (h.extends.visited (mem_finish_visited.mpr (Or.inr rfl)))
    · exact ih hd

/-- All dependencies of a target that the search finishes have been dealt with. -/
theorem Search.closed (h : plan.Search impacted path deps s record s') {t : String}
    (ht : t ∈ s'.visited) (hn : t ∉ s.visited) {dep : String}
    (hd : dep ∈ plan.dependencies t) (hi : dep ∈ impacted) : s'.Met path dep := by
  induction h with
  | stop => exact absurd ht hn
  | skip _ _ ih => exact ih ht hn
  | close _ _ _ _ ih => exact ih ht hn
  | @enter path entered deps s inner s₁ record s' _ _ _ hin h ihin ih =>
    have hs := (finish_extends s₁ entered).trans h.extends
    have he : entered ∈ s'.visited := h.extends.visited (mem_finish_visited.mpr (Or.inr rfl))
    by_cases hf : t ∈ (s₁.finish entered).visited
    · rcases mem_finish_visited.mp hf with hf | rfl
      · exact (ihin hf hn).shorten hs he
      · exact (hin.met hd hi).shorten hs he
    · exact ih ht hf

end Runs

end CalculationPlan

end GridRules
