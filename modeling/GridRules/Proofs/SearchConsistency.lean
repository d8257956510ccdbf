import GridRules.Proofs.Search

namespace GridRules

namespace CalculationPlan

/-- The targets that are not among the finished ones. -/
def unfinished (impacted finished : List String) : List String :=
  impacted.filter fun t => !finished.contains t

theorem mem_unfinished {impacted finished : List String} {t : String} :
    t ∈ unfinished impacted finished ↔ t ∈ impacted ∧ t ∉ finished := by
  simp [unfinished]

theorem unfinished_subset {impacted finished more : List String} (h : finished ⊆ more) :
    unfinished impacted more ⊆ unfinished impacted finished := by
  intro t ht
  obtain ⟨hi, hf⟩ := mem_unfinished.mp ht
  exact mem_unfinished.mpr ⟨hi, fun hm => hf (h hm)⟩

theorem OnCycle.mono {plan : CalculationPlan} {among more : List String} {t : String}
    (h : plan.OnCycle among t) (hs : among ⊆ more) : plan.OnCycle more t := by
  have hl : plan.Link among ≤ plan.Link more := fun _ _ hl => ⟨hs hl.1, hs hl.2.1, hl.2.2⟩
  exact Relation.TransGen.mono hl t t h

/-- A chain whose end leads back to its start has all its members on one cycle. -/
theorem transGen_of_closed_chain {α : Type} {r : α → α → Prop} {first last : α} {rest : List α}
    (chain : (first :: rest).IsChain r) (hl : (first :: rest).getLast? = some last)
    (back : r last first) : ∀ t ∈ first :: rest, Relation.TransGen r t t := by
  have pairs : (first :: rest).Pairwise (Relation.TransGen r) :=
    List.isChain_iff_pairwise.mp (chain.imp fun _ _ h => Relation.TransGen.single h)
  intro t ht
  have from_first : Relation.ReflTransGen r first t := by
    rcases List.mem_cons.mp ht with rfl | hr
    · exact Relation.ReflTransGen.refl
    · exact ((List.pairwise_cons.mp pairs).1 t hr).to_reflTransGen
  have to_last : Relation.ReflTransGen r t last := by
    obtain ⟨front, he⟩ := List.getLast?_eq_some_iff.mp hl
    rw [he] at pairs ht
    rcases mem_concat.mp ht with hf | rfl
    · exact ((List.pairwise_append.mp pairs).2.2 t hf last (by simp)).to_reflTransGen
    · exact Relation.ReflTransGen.refl
  exact (Relation.TransGen.tail' to_last back).trans_left from_first

/-- A back edge to a path of unfinished targets closes a cycle of unfinished targets. -/
theorem onCycle_of_back_edge {plan : CalculationPlan} {impacted path : List String} {s : Visit}
    {dep : String} (linked : path.IsChain (plan.Link impacted))
    (fresh : ∀ t ∈ path, t ∉ s.visited) (hi : dep ∈ impacted) (hp : dep ∈ path)
    (reads : ∀ last ∈ path.getLast?, last ∈ impacted ∧ dep ∈ plan.dependencies last) :
    ∀ t ∈ path.dropWhile (· != dep), plan.OnCycle (unfinished impacted s.visited) t := by
  obtain ⟨front, back, he, hd⟩ := dropWhile_ne_of_mem hp
  have hsub : ∀ t ∈ dep :: back, t ∉ s.visited := by
    intro t ht
    exact fresh t (he ▸ List.mem_append_right front ht)
  have chain : (dep :: back).IsChain (plan.Link (unfinished impacted s.visited)) := by
    have hc : (dep :: back).IsChain (plan.Link impacted) :=
      (he ▸ linked : (front ++ dep :: back).IsChain _).right_of_append
    apply List.IsChain.imp_of_mem_imp _ hc
    intro t u ht hu hl
    exact ⟨mem_unfinished.mpr ⟨hl.1, hsub t ht⟩, mem_unfinished.mpr ⟨hl.2.1, hsub u hu⟩, hl.2.2⟩
  obtain ⟨last, hlast⟩ : ∃ last, (dep :: back).getLast? = some last :=
    ⟨_, List.getLast?_eq_some_getLast (by simp)⟩
  have hpl : path.getLast? = some last := by
    rw [he, List.getLast?_append_of_ne_nil _ (by simp), hlast]
  obtain ⟨hil, hr⟩ := reads last hpl
  have hlv := hsub last (List.mem_of_getLast? hlast)
  rw [hd]
  exact transGen_of_closed_chain chain hlast
    ⟨mem_unfinished.mpr ⟨hil, hlv⟩, mem_unfinished.mpr ⟨hi, hsub dep (by simp)⟩, hr⟩

/-- The path a search stands on: consecutive dependencies, whose end reads all that is still to be
dealt with. -/
structure Trail (plan : CalculationPlan) (impacted path deps : List String) : Prop where
  linked : path.IsChain (plan.Link impacted)
  within : path ⊆ impacted
  reads : ∀ last ∈ path.getLast?, deps ⊆ plan.dependencies last

theorem Trail.nil (plan : CalculationPlan) (impacted deps : List String) :
    plan.Trail impacted [] deps :=
  ⟨.nil, List.nil_subset impacted, by simp⟩

theorem Trail.next {plan : CalculationPlan} {impacted path deps : List String} {dep : String}
    (h : plan.Trail impacted path (dep :: deps)) : plan.Trail impacted path deps :=
  ⟨h.linked, h.within, fun last hl => (List.cons_subset.mp (h.reads last hl)).2⟩

theorem Trail.enter {plan : CalculationPlan} {impacted path deps : List String} {dep : String}
    (h : plan.Trail impacted path (dep :: deps)) (hi : dep ∈ impacted) :
    plan.Trail impacted (path ++ [dep]) (plan.dependencies dep) := by
  refine ⟨?_, List.append_subset.mpr ⟨h.within, by simpa using hi⟩, by simp⟩
  apply List.isChain_append.mpr
  refine ⟨h.linked, by simp, ?_⟩
  intro last hl next hn
  have heq : next = dep := by simpa using hn.symm
  have hm := h.within (List.mem_of_getLast? hl)
  exact heq ▸ ⟨hm, hi, (List.cons_subset.mp (h.reads last hl)).1⟩

section Runs

variable {plan : CalculationPlan} {impacted path deps : List String} {s s' : Visit}
  {record : List (String × List String)}

/-- What a search reports lies on a cycle of targets that were unfinished when it began. -/
theorem Search.new_cyclic (h : plan.Search impacted path deps s record s')
    (trail : plan.Trail impacted path deps) (fresh : ∀ t ∈ path, t ∉ s.visited) {t : String}
    (ht : t ∈ s'.cyclic) :
    t ∈ s.cyclic ∨ t ∉ s.visited ∧ plan.OnCycle (unfinished impacted s.visited) t := by
  induction h with
  | stop => exact Or.inl ht
  | skip _ _ ih => exact ih trail.next fresh ht
  | @close path dep deps s record s' hi hv hp _ ih =>
    rcases ih trail.next fresh ht with hr | hn
    · rcases mem_report_cyclic.mp hr with hc | hd
      · exact Or.inl hc
      · have reads : ∀ last ∈ path.getLast?, last ∈ impacted ∧ dep ∈ plan.dependencies last :=
          fun last hl => ⟨trail.within (List.mem_of_getLast? hl),
            (List.cons_subset.mp (trail.reads last hl)).1⟩
        exact Or.inr ⟨fresh t (mem_of_mem_dropWhile hd),
          onCycle_of_back_edge trail.linked fresh hi hp reads t hd⟩
    · exact Or.inr hn
  | @enter path dep deps s inner s₁ record s' hi hv hp hin h ihin ih =>
    have fresh₁ := hin.path_unfinished (fresh_concat fresh hv)
    have hsub : s.visited ⊆ (s₁.finish dep).visited :=
      (hin.extends.trans (finish_extends s₁ dep)).visited
    rcases ih trail.next (fresh_finish fresh₁ hp) ht with hc | ⟨hn, hcycle⟩
    · exact ihin (trail.enter hi) (fresh_concat fresh hv) hc
    · exact Or.inr ⟨fun hm => hn (hsub hm), hcycle.mono (unfinished_subset hsub)⟩

end Runs

/-- The first target stands somewhere in front of the second one. -/
def Before (order : List String) (first second : String) : Prop :=
  ∃ front back, order = front ++ second :: back ∧ first ∈ front

theorem Before.concat {order : List String} {first second : String}
    (h : Before order first second) (last : String) : Before (order ++ [last]) first second := by
  obtain ⟨front, back, he, hf⟩ := h
  exact ⟨front, back ++ [last], by simp [he], hf⟩

theorem before_last {order : List String} {first : String} (h : first ∈ order) (last : String) :
    Before (order ++ [last]) first last :=
  ⟨order, [], rfl, h⟩

/-- What holds of a state while the search stands at the end of a path: the finished targets are
divided into ordered and reported ones, only the path can hold further reported ones, and every
ordered target stands behind the dependencies that are not reported. -/
structure Consistent (plan : CalculationPlan) (impacted path : List String) (s : Visit) : Prop where
  order_distinct : s.order.Nodup
  cyclic_distinct : s.cyclic.Nodup
  visited_within : s.visited ⊆ impacted
  order_visited : s.order ⊆ s.visited
  settled : ∀ t ∈ s.visited, t ∈ s.order ∨ t ∈ s.cyclic
  order_not_cyclic : ∀ t ∈ s.order, t ∉ s.cyclic
  cyclic_reached : ∀ t ∈ s.cyclic, t ∈ s.visited ∨ t ∈ path
  behind : ∀ t ∈ s.order, ∀ dep ∈ plan.dependencies t, dep ∈ impacted →
    Before s.order dep t ∨ dep ∈ s.cyclic

theorem consistent_start (plan : CalculationPlan) (impacted : List String) :
    plan.Consistent impacted [] .start := by
  constructor <;> simp [Visit.start]

section Steps

variable {plan : CalculationPlan} {impacted path : List String} {s : Visit} {target : String}

theorem Consistent.report (h : plan.Consistent impacted path s)
    (fresh : ∀ t ∈ path, t ∉ s.visited) (dep : String) :
    plan.Consistent impacted path (s.report path dep) where
  order_distinct := h.order_distinct
  cyclic_distinct := foldl_addNew_nodup h.cyclic_distinct _
  visited_within := h.visited_within
  order_visited := h.order_visited
  settled t ht := (h.settled t ht).imp_right fun hc => mem_report_cyclic.mpr (Or.inl hc)
  order_not_cyclic t ht hc := by
    rcases mem_report_cyclic.mp hc with hc | hd
    · exact h.order_not_cyclic t ht hc
    · exact fresh t (mem_of_mem_dropWhile hd) (h.order_visited ht)
  cyclic_reached t hc := by
    rcases mem_report_cyclic.mp hc with hc | hd
    · exact h.cyclic_reached t hc
    · exact Or.inr (mem_of_mem_dropWhile hd)
  behind t ht d hd hi := (h.behind t ht d hd hi).imp_right fun hc =>
    mem_report_cyclic.mpr (Or.inl hc)

theorem Consistent.enter (h : plan.Consistent impacted path s) (target : String) :
    plan.Consistent impacted (path ++ [target]) s := by
  have hr : ∀ t ∈ s.cyclic, t ∈ s.visited ∨ t ∈ path ++ [target] := by
    intro t ht
    exact (h.cyclic_reached t ht).imp_right (List.mem_append_left [target])
  exact { h with cyclic_reached := hr }

theorem Consistent.finish_within (h : plan.Consistent impacted path s) (hi : target ∈ impacted) :
    (s.finish target).visited ⊆ impacted := by
  intro t ht
  rcases mem_finish_visited.mp ht with ht | rfl
  · exact h.visited_within ht
  · exact hi

theorem Consistent.finish_reached (h : plan.Consistent impacted (path ++ [target]) s) :
    ∀ t ∈ s.cyclic, t ∈ (s.finish target).visited ∨ t ∈ path := by
  intro t ht
  rcases h.cyclic_reached t ht with ht | ht
  · exact Or.inl (mem_finish_visited.mpr (Or.inl ht))
  · rcases mem_concat.mp ht with ht | ht
    · exact Or.inr ht
    · exact Or.inl (mem_finish_visited.mpr (Or.inr ht))

theorem Consistent.finish_reported (h : plan.Consistent impacted (path ++ [target]) s)
    (hi : target ∈ impacted) (hc : target ∈ s.cyclic) :
    plan.Consistent impacted path (s.finish target) := by
  have ho := finish_order_of_cyclic hc
  refine ⟨ho ▸ h.order_distinct, h.cyclic_distinct, h.finish_within hi, ?_, ?_, ?_,
    h.finish_reached, ?_⟩
  · intro t ht
    exact mem_finish_visited.mpr (Or.inl (h.order_visited (ho ▸ ht)))
  · intro t ht
    rcases mem_finish_visited.mp ht with ht | rfl
    · exact ho ▸ h.settled t ht
    · exact Or.inr hc
  · intro t ht
    exact h.order_not_cyclic t (ho ▸ ht)
  · intro t ht
    rw [ho] at ht ⊢
    exact h.behind t ht

/-- A target that is not reported has met only finished dependencies, so it may be ordered. -/
theorem Consistent.finish_ordered (h : plan.Consistent impacted (path ++ [target]) s)
    (hi : target ∈ impacted) (hv : target ∉ s.visited) (hc : target ∉ s.cyclic)
    (met : ∀ dep ∈ plan.dependencies target, dep ∈ impacted → s.Met (path ++ [target]) dep) :
    plan.Consistent impacted path (s.finish target) := by
  have ho := finish_order_of_not_cyclic hc
  have hno : target ∉ s.order := fun hm => hv (h.order_visited hm)
  refine ⟨ho ▸ nodup_concat h.order_distinct hno, h.cyclic_distinct, h.finish_within hi, ?_, ?_,
    ?_, h.finish_reached, ?_⟩
  · intro t ht
    rw [ho] at ht
    rcases mem_concat.mp ht with ht | ht
    · exact mem_finish_visited.mpr (Or.inl (h.order_visited ht))
    · exact mem_finish_visited.mpr (Or.inr ht)
  · intro t ht
    rw [ho]
    rcases mem_finish_visited.mp ht with ht | rfl
    · exact (h.settled t ht).imp_left (List.mem_append_left [target])
    · exact Or.inl (by simp)
  · intro t ht
    rw [ho] at ht
    rcases mem_concat.mp ht with ht | rfl
    · exact h.order_not_cyclic t ht
    · exact hc
  · intro t ht dep hd hdi
    rw [ho] at ht ⊢
    rcases mem_concat.mp ht with ht | rfl
    · exact (h.behind t ht dep hd hdi).imp_left fun hb => hb.concat target
    · rcases met dep hd hdi with hdv | ⟨hp, hall⟩
      · exact (h.settled dep hdv).imp_left fun hdo => before_last hdo t
      · exact absurd (hall t (last_mem_dropWhile hp)) hc

theorem Consistent.finish (h : plan.Consistent impacted (path ++ [target]) s)
    (hi : target ∈ impacted) (hv : target ∉ s.visited)
    (met : ∀ dep ∈ plan.dependencies target, dep ∈ impacted → s.Met (path ++ [target]) dep) :
    plan.Consistent impacted path (s.finish target) := by
  by_cases hc : target ∈ s.cyclic
  · exact h.finish_reported hi hc
  · exact h.finish_ordered hi hv hc met

end Steps

theorem Search.consistent {plan : CalculationPlan} {impacted path deps : List String}
    {s s' : Visit} {record : List (String × List String)}
    (h : plan.Search impacted path deps s record s') (fresh : ∀ t ∈ path, t ∉ s.visited)
    (hc : plan.Consistent impacted path s) : plan.Consistent impacted path s' := by
  induction h with
  | stop => exact hc
  | skip _ _ ih => exact ih fresh hc
  | @close _ dep _ _ _ _ _ _ _ _ ih => exact ih fresh (hc.report fresh dep)
  | @enter path dep deps s inner s₁ record s' hi hv hp hin _ ihin ih =>
    have fresh₁ := hin.path_unfinished (fresh_concat fresh hv)
    have hc₁ := ihin (fresh_concat fresh hv) (hc.enter dep)
    apply ih (fresh_finish fresh₁ hp)
    exact hc₁.finish hi (fresh₁ dep (by simp)) fun d hd hdi => hin.met hd hdi

end CalculationPlan

end GridRules
