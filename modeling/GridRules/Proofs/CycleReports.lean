import GridRules.Proofs.EvaluationOrder

namespace GridRules

namespace CalculationPlan

section Runs

variable {plan : CalculationPlan} {impacted path deps : List String} {s s' : Visit}
  {record : List (String × List String)}

/-- The search leaves no choice: its record and its end are determined by where it begins. -/
theorem Search.unique {other : List (String × List String)} {s'' : Visit}
    (h : plan.Search impacted path deps s record s')
    (h' : plan.Search impacted path deps s other s'') : record = other ∧ s' = s'' := by
  induction h generalizing other s'' with
  | stop =>
    cases h'
    exact ⟨rfl, rfl⟩
  | skip passed _ ih =>
    cases h' with
    | skip _ h' => exact ih h'
    | close hi hv _ _ => exact absurd (passed hi) hv
    | enter hi hv _ _ _ => exact absurd (passed hi) hv
  | close hi hv hp _ ih =>
    cases h' with
    | skip passed _ => exact absurd (passed hi) hv
    | close _ _ _ h' => exact ih h'
    | enter _ _ hn _ _ => exact absurd hp hn
  | enter hi hv hn _ _ ihin ih =>
    cases h' with
    | skip passed _ => exact absurd (passed hi) hv
    | close _ _ hp _ => exact absurd hp hn
    | enter _ _ _ hin' h' =>
      obtain ⟨rfl, rfl⟩ := ihin hin'
      obtain ⟨rfl, rfl⟩ := ih h'
      exact ⟨rfl, rfl⟩

/-- Every target that the search finishes has been entered. -/
theorem Search.recorded (h : plan.Search impacted path deps s record s') {t : String}
    (ht : t ∈ s'.visited) (hn : t ∉ s.visited) : ∃ finished, (t, finished) ∈ record := by
  induction h with
  | stop => exact absurd ht hn
  | skip _ _ ih => exact ih ht hn
  | close _ _ _ _ ih => exact ih ht hn
  | @enter path dep deps s inner s₁ record s' _ _ _ _ _ ihin ih =>
    by_cases hf : t ∈ (s₁.finish dep).visited
    · rcases mem_finish_visited.mp hf with hf | rfl
      · obtain ⟨finished, hm⟩ := ihin hf hn
        exact ⟨finished, List.mem_cons_of_mem _ (List.mem_append_left _ hm)⟩
      · exact ⟨s.visited, List.mem_cons_self⟩
    · obtain ⟨finished, hm⟩ := ih ht hf
      exact ⟨finished, List.mem_cons_of_mem _ (List.mem_append_right _ hm)⟩

/-- Every target that the search enters is new then and finished in the end. -/
theorem Search.recorded_visited (h : plan.Search impacted path deps s record s') {t : String}
    {finished : List String} (hm : (t, finished) ∈ record) :
    t ∉ s.visited ∧ t ∈ s'.visited := by
  induction h with
  | stop => simp at hm
  | skip _ _ ih => exact ih hm
  | close _ _ _ _ ih => exact ih hm
  | @enter path dep deps s inner s₁ record s' _ hv _ hin h ihin ih =>
    have hs := (finish_extends s₁ dep).trans h.extends
    rcases List.mem_cons.mp hm with he | hm
    · obtain ⟨rfl, -⟩ := Prod.mk.inj he
      exact ⟨hv, h.extends.visited (mem_finish_visited.mpr (Or.inr rfl))⟩
    · rcases List.mem_append.mp hm with hm | hm
      · exact ⟨(ihin hm).1, hs.visited (ihin hm).2⟩
      · obtain ⟨hn, hv'⟩ := ih hm
        exact ⟨fun ht => hn ((hin.extends.trans (finish_extends s₁ dep)).visited ht), hv'⟩

/-- No target is entered twice. -/
theorem Search.record_unique (h : plan.Search impacted path deps s record s')
    (fresh : ∀ t ∈ path, t ∉ s.visited) {t : String} {finished other : List String}
    (hm : (t, finished) ∈ record) (hm' : (t, other) ∈ record) : finished = other := by
  induction h with
  | stop => simp at hm
  | skip _ _ ih => exact ih fresh hm hm'
  | close _ _ _ _ ih => exact ih fresh hm hm'
  | @enter path dep deps s inner s₁ record s' _ hv hp hin h ihin ih =>
    have freshDep := fresh_concat fresh hv
    have fresh₁ := hin.path_unfinished freshDep
    have notInner : ∀ done, (dep, done) ∉ inner := fun done hd =>
      fresh₁ dep (by simp) (hin.recorded_visited hd).2
    have notLater : ∀ u done, u ∈ (s₁.finish dep).visited → (u, done) ∉ record :=
      fun u done hu hd => (h.recorded_visited hd).1 hu
    have hdep : dep ∈ (s₁.finish dep).visited := mem_finish_visited.mpr (Or.inr rfl)
    have hinner : ∀ done, (t, done) ∈ inner → t ∈ (s₁.finish dep).visited := fun done hd =>
      mem_finish_visited.mpr (Or.inl (hin.recorded_visited hd).2)
    simp only [List.mem_cons, List.mem_append, Prod.mk.injEq] at hm hm'
    rcases hm with ⟨rfl, rfl⟩ | hm | hm
    · rcases hm' with ⟨_, rfl⟩ | hm' | hm'
      · rfl
      · exact absurd hm' (notInner other)
      · exact absurd hm' (notLater t other hdep)
    · rcases hm' with ⟨rfl, rfl⟩ | hm' | hm'
      · exact absurd hm (notInner finished)
      · exact ihin freshDep hm hm'
      · exact absurd hm' (notLater t other (hinner finished hm))
    · rcases hm' with ⟨rfl, rfl⟩ | hm' | hm'
      · exact absurd hm (notLater t finished hdep)
      · exact absurd hm (notLater t finished (hinner other hm'))
      · exact ih (fresh_finish fresh₁ hp) hm hm'

/-- From a target that is not reported every walk through unfinished targets stays within what is
finished before it, so it never leads back. -/
theorem Search.walk_finished {target u : String}
    (h : plan.Search impacted (path ++ [target]) (plan.dependencies target) s record s')
    (hr : target ∉ s'.cyclic)
    (walk : Relation.TransGen (plan.Link (unfinished impacted s.visited)) target u) :
    u ∈ s'.visited := by
  have visited_of_met : ∀ dep, s'.Met (path ++ [target]) dep → dep ∈ s'.visited := by
    intro dep hm
    rcases hm with hv | ⟨hp, hall⟩
    · exact hv
    · exact absurd (hall target (last_mem_dropWhile hp)) hr
  induction walk with
  | single hl =>
    exact visited_of_met _ (h.met hl.2.2 (mem_unfinished.mp hl.2.1).1)
  | tail _ hl ih =>
    have hn := (mem_unfinished.mp hl.1).2
    exact visited_of_met _ (h.closed ih hn hl.2.2 (mem_unfinished.mp hl.2.1).1)

/-- A target is reported exactly if it lies on a cycle of targets that were unfinished when it was
entered. -/
theorem Search.reported_iff (h : plan.Search impacted path deps s record s')
    (trail : plan.Trail impacted path deps) (fresh : ∀ t ∈ path, t ∉ s.visited)
    (hc : plan.Consistent impacted path s) {t : String} {finished : List String}
    (hm : (t, finished) ∈ record) :
    t ∈ s'.cyclic ↔ plan.OnCycle (unfinished impacted finished) t := by
  induction h with
  | stop => simp at hm
  | skip _ _ ih => exact ih trail.next fresh hc hm
  | @close _ dep _ _ _ _ _ _ _ _ ih => exact ih trail.next fresh (hc.report fresh dep) hm
  | @enter path dep deps s inner s₁ record s' hi hv hp hin h ihin ih =>
    have freshDep := fresh_concat fresh hv
    have fresh₁ := hin.path_unfinished freshDep
    have hc₁ := hin.consistent freshDep (hc.enter dep)
    have hcF := hc₁.finish hi (fresh₁ dep (by simp)) fun d hd hdi => hin.met hd hdi
    have keeps : ∀ u, u ∈ (s₁.finish dep).visited → (u ∈ s'.cyclic ↔ u ∈ s₁.cyclic) := by
      intro u hu
      refine ⟨fun hr => ?_, fun hr => h.extends.cyclic hr⟩
      rcases h.new_cyclic trail.next (fresh_finish fresh₁ hp) hr with hr | ⟨hn, _⟩
      · exact hr
      · exact absurd hu hn
    rcases List.mem_cons.mp hm with he | hm
    · obtain ⟨rfl, rfl⟩ := Prod.mk.inj he
      rw [keeps t (mem_finish_visited.mpr (Or.inr rfl))]
      constructor
      · intro hr
        rcases hin.new_cyclic (trail.enter hi) freshDep hr with hs | ⟨_, hcycle⟩
        · rcases hc.cyclic_reached t hs with hs | hs
          · exact absurd hs hv
          · exact absurd hs hp
        · exact hcycle
      · intro hcycle
        by_contra hr
        exact fresh₁ t (by simp) (hin.walk_finished hr hcycle)
    · rcases List.mem_append.mp hm with hm | hm
      · have hv₁ := (hin.recorded_visited hm).2
        rw [keeps t (mem_finish_visited.mpr (Or.inl hv₁))]
        exact ihin (trail.enter hi) freshDep (hc.enter dep) hm
      · exact ih trail.next (fresh_finish fresh₁ hp) hcF hm

end Runs

/-- The search enters the target when it has finished the given ones. -/
def EnteredAfter (plan : CalculationPlan) (impacted : List String) (target : String)
    (finished : List String) : Prop :=
  ∃ record s, plan.Search impacted [] impacted .start record s ∧ (target, finished) ∈ record

theorem exists_enteredAfter (plan : CalculationPlan) {impacted : List String} {t : String}
    (ht : t ∈ impacted) : ∃ finished, plan.EnteredAfter impacted t finished := by
  obtain ⟨record, s, h, _⟩ := plan.evaluationOrder_search impacted
  have hc := h.consistent (fresh_nil _) (consistent_start plan impacted)
  have hv : t ∈ s.visited := by
    rcases h.met ht ht with hv | ⟨hp, _⟩
    · exact hv
    · simp at hp
  obtain ⟨finished, hm⟩ := h.recorded hv (by simp [Visit.start])
  exact ⟨finished, record, s, h, hm⟩

theorem reported_iff_of_enteredAfter {plan : CalculationPlan} {impacted : List String}
    {t : String} {finished : List String} (h : plan.EnteredAfter impacted t finished) :
    t ∈ (plan.evaluationOrder impacted).2 ↔ plan.OnCycle (unfinished impacted finished) t := by
  obtain ⟨record, s, h, hm⟩ := h
  obtain ⟨other, s', h', he⟩ := plan.evaluationOrder_search impacted
  obtain ⟨-, rfl⟩ := h.unique h'
  rw [he]
  exact h.reported_iff (Trail.nil plan impacted impacted) (fresh_nil _)
    (consistent_start plan impacted) hm

theorem EnteredAfter.unique {plan : CalculationPlan} {impacted : List String} {t : String}
    {finished other : List String} (h : plan.EnteredAfter impacted t finished)
    (h' : plan.EnteredAfter impacted t other) : other = finished := by
  obtain ⟨record, s, h, hm⟩ := h
  obtain ⟨record', s', h', hm'⟩ := h'
  obtain ⟨rfl, -⟩ := h.unique h'
  exact h.record_unique (fresh_nil _) hm' hm

/-- A target is reported and left out of the order exactly if it lies on a cycle of targets that
were unfinished when it was entered; a cycle through finished targets goes unnoticed. No cycle goes
unnoticed altogether: one of its targets is reported. -/
theorem reported_iff_cycle_unfinished_on_entry (plan : CalculationPlan) (impacted : List String) :
    (∀ t ∈ impacted, ∃ finished,
      (∀ other, plan.EnteredAfter impacted t other ↔ other = finished) ∧
      (t ∈ (plan.evaluationOrder impacted).2 ∧ t ∉ (plan.evaluationOrder impacted).1 ↔
        plan.OnCycle (unfinished impacted finished) t)) ∧
    ∀ among ⊆ impacted, ∀ t, plan.OnCycle among t →
      ∃ u ∈ among, u ∈ (plan.evaluationOrder impacted).2 ∧
        u ∉ (plan.evaluationOrder impacted).1 := by
  obtain ⟨record, s, h, he⟩ := plan.evaluationOrder_search impacted
  have hc := h.consistent (fresh_nil _) (consistent_start plan impacted)
  have left_out : ∀ t ∈ s.cyclic, t ∉ s.order := fun t hr ho => hc.order_not_cyclic t ho hr
  constructor
  · intro t ht
    obtain ⟨finished, hf⟩ := exists_enteredAfter plan ht
    refine ⟨finished, fun other => ⟨hf.unique, fun heq => heq ▸ hf⟩, ?_⟩
    rw [← reported_iff_of_enteredAfter hf, he]
    exact ⟨fun hr => hr.1, fun hr => ⟨hr, left_out t hr⟩⟩
  · intro among hs t hcycle
    obtain ⟨u, hu, hr⟩ := h.reported_of_onCycle hs hcycle
    rw [he]
    exact ⟨u, hu, hr, left_out u hr⟩

/-- The rules `a = b + c`, `b = a + 1` and `c = b + 1`, two cycles that share `a` and `b`. -/
def overlappingCycles : Entries :=
  let field (id : String) : Value := .object [("op", .str "field"), ("fieldId", .str id)]
  let sum (first second : Value) : Value :=
    .object [("expr", .object [("op", .str "add"), ("args", .list [first, second])])]
  let one : Value := .object [("op", .str "const"), ("value", .int 1)]
  [("g.a", sum (field "b") (field "c")), ("g.b", sum (field "a") one),
    ("g.c", sum (field "b") one)]

/-- The target `c` is on the cycle of `a`, `c` and `b`, but `b` is finished when it is entered. -/
theorem overlapping_cycle_missed :
    (build "g" overlappingCycles).OnCycle ["a", "b", "c"] "c" ∧
      (build "g" overlappingCycles).evaluationOrder ["a", "b", "c"] = (["c"], ["a", "b"]) := by
  have hcb : (build "g" overlappingCycles).Link ["a", "b", "c"] "c" "b" :=
    ⟨by simp, by simp, by decide +kernel⟩
  have hba : (build "g" overlappingCycles).Link ["a", "b", "c"] "b" "a" :=
    ⟨by simp, by simp, by decide +kernel⟩
  have hac : (build "g" overlappingCycles).Link ["a", "b", "c"] "a" "c" :=
    ⟨by simp, by simp, by decide +kernel⟩
  constructor
  · exact ((Relation.TransGen.single hcb).tail hba).tail hac
  · decide +kernel

end CalculationPlan

end GridRules
