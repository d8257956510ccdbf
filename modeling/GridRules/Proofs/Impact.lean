import GridRules.Calculation.Order
import GridRules.Proofs.PlanDependencies

namespace GridRules

namespace CalculationPlan

/-- How far the spread of a change has come: the targets that are done and those in the queue are
all that was discovered, and every reader of a target that is done is among them. -/
structure Discovered (plan : CalculationPlan) (done queue : List String) : Prop where
  distinct : (done ++ queue).Nodup
  within : done ++ queue ⊆ plan.targets
  closed : ∀ source ∈ done, plan.readersOfField source ⊆ done ++ queue

theorem target_of_reads {plan : CalculationPlan} {field t : String} (h : field ∈ plan.reads t) :
    t ∈ plan.targets := by
  by_contra hn
  simp [reads, Assoc.get?_eq_none_iff.mpr hn] at h

theorem Compiled.readers_within {plan : CalculationPlan} (compiled : plan.Compiled)
    (field : String) : plan.readersOfField field ⊆ plan.targets :=
  fun t ht => target_of_reads ((compiled.mem_readers field t).mp ht)

theorem Discovered.step {plan : CalculationPlan} (compiled : plan.Compiled) {source : String}
    {done queue : List String} (h : plan.Discovered done (source :: queue)) :
    ∃ found, (plan.readersOfField source).foldl addNew (done ++ source :: queue) =
        done ++ source :: queue ++ found ∧
      plan.Discovered (done ++ [source]) (queue ++ found) := by
  obtain ⟨found, hf⟩ := foldl_addNew_prefix (done ++ source :: queue) (plan.readersOfField source)
  have all : done ++ [source] ++ (queue ++ found) =
      (plan.readersOfField source).foldl addNew (done ++ source :: queue) := by
    rw [← hf]
    simp
  refine ⟨found, hf.symm, ?_⟩
  constructor
  · rw [all]
    exact foldl_addNew_nodup h.distinct _
  · rw [all]
    intro t ht
    rcases mem_foldl_addNew.mp ht with ht | ht
    · exact h.within ht
    · exact compiled.readers_within source ht
  · rw [all]
    intro u hu t ht
    apply mem_foldl_addNew.mpr
    rcases mem_concat.mp hu with hu | rfl
    · exact Or.inl (h.closed u hu ht)
    · exact Or.inr ht

/-- With more fuel than there are targets left to be done the spread comes to its end. -/
theorem Discovered.spread {plan : CalculationPlan} (compiled : plan.Compiled) {fuel : Nat}
    {done queue : List String} (h : plan.Discovered done queue)
    (enough : plan.targets.length < fuel + done.length) :
    done ++ queue ⊆ plan.spread fuel (done ++ queue) queue ∧
      plan.Discovered (plan.spread fuel (done ++ queue) queue) [] := by
  induction fuel generalizing done queue with
  | zero =>
    have hle := h.distinct.length_le_of_subset h.within
    rw [List.length_append] at hle
    omega
  | succ fuel ih =>
    cases queue with
    | nil =>
      simp only [CalculationPlan.spread, List.append_nil]
      exact ⟨List.Subset.refl done, h⟩
    | cons source queue =>
      obtain ⟨found, hf, hstep⟩ := h.step compiled
      have hall : done ++ source :: queue ++ found = done ++ [source] ++ (queue ++ found) := by simp
      have hrun : plan.spread (fuel + 1) (done ++ source :: queue) (source :: queue) =
          plan.spread fuel (done ++ [source] ++ (queue ++ found)) (queue ++ found) := by
        rw [CalculationPlan.spread, hf, List.drop_left, hall]
      rw [hrun]
      obtain ⟨hsub, hend⟩ := ih hstep (by simp; omega)
      refine ⟨fun t ht => hsub ?_, hend⟩
      rw [← hall]
      exact List.mem_append_left found ht

/-- The targets among `affected` are all that a change can touch: the changed targets themselves,
and whatever reads a changed field or a target that is touched. -/
structure Covers (plan : CalculationPlan) (changed affected : List String) : Prop where
  within : affected ⊆ plan.targets
  changed_target : ∀ t ∈ changed, t ∈ plan.targets → t ∈ affected
  reader_of_changed : ∀ field ∈ changed, ∀ t, field ∈ plan.reads t → t ∈ affected
  reader_of_affected : ∀ u ∈ affected, ∀ t, u ∈ plan.reads t → t ∈ affected

theorem mem_changedFields {changed : List String} (ids : ∀ id ∈ changed, hasDot id = false)
    {gridId field : String} : field ∈ changedFields gridId changed ↔ field ∈ changed := by
  have same : (changed.map fun id => (localFieldId? id gridId).getD id) = changed := by
    conv_rhs => rw [← List.map_id changed]
    exact List.map_congr_left fun id hid => localFieldId?_getD_of_no_dot (ids id hid) gridId
  rw [changedFields, same, mem_foldl_addNew]
  simp

theorem mem_reachedAtOnce {plan : CalculationPlan} (compiled : plan.Compiled) {field t : String} :
    t ∈ plan.reachedAtOnce field ↔ t = field ∧ t ∈ plan.targets ∨ field ∈ plan.reads t := by
  rw [reachedAtOnce, List.mem_append, compiled.mem_readers, targets, ← Assoc.has_iff]
  apply or_congr_left
  cases h : plan.rules.has field with
  | true => simpa using fun he => he ▸ h
  | false => simpa using fun he => he ▸ h

theorem impacted_eq_spread (plan : CalculationPlan) {changed : List String} (hne : changed ≠ []) :
    ∃ first, plan.impacted changed = plan.spread (plan.rules.length + 1) first first ∧
      first.Nodup ∧ ∀ t, t ∈ first ↔
        ∃ field ∈ changedFields plan.gridId changed, t ∈ plan.reachedAtOnce field := by
  refine ⟨((changedFields plan.gridId changed).flatMap plan.reachedAtOnce).foldl addNew [],
    by rw [impacted, if_neg (by simpa using hne)], foldl_addNew_nodup List.nodup_nil _, ?_⟩
  intro t
  rw [mem_foldl_addNew, List.mem_flatMap]
  simp

/-- When the spread has come to its end, all that is impacted is discovered, with everything that
the changed fields reach at once. -/
theorem impacted_discovered {plan : CalculationPlan} (compiled : plan.Compiled)
    {changed : List String} (hne : changed ≠ []) :
    plan.Discovered (plan.impacted changed) [] ∧
      ∀ field ∈ changedFields plan.gridId changed,
        plan.reachedAtOnce field ⊆ plan.impacted changed := by
  obtain ⟨first, himpacted, hnodup, hm⟩ := plan.impacted_eq_spread hne
  have hstart : plan.Discovered [] first := by
    constructor
    · rwa [List.nil_append]
    · intro t ht
      obtain ⟨field, _, h⟩ := (hm t).mp ht
      rcases (mem_reachedAtOnce compiled).mp h with ⟨_, h⟩ | h
      · exact h
      · exact target_of_reads h
    · simp
  have enough : plan.targets.length < plan.rules.length + 1 + ([] : List String).length := by
    simp [targets, Assoc.keys]
  obtain ⟨hsub, hend⟩ := hstart.spread compiled enough
  rw [List.nil_append, ← himpacted] at hsub hend
  exact ⟨hend, fun field hf t ht => hsub ((hm t).mpr ⟨field, hf, ht⟩)⟩

theorem impacted_nodup {plan : CalculationPlan} (compiled : plan.Compiled)
    {changed : List String} (hne : changed ≠ []) : (plan.impacted changed).Nodup := by
  simpa using (impacted_discovered compiled hne).1.distinct

theorem impacted_covers_fields {plan : CalculationPlan} (compiled : plan.Compiled)
    {changed : List String} (hne : changed ≠ []) :
    plan.Covers (changedFields plan.gridId changed) (plan.impacted changed) := by
  obtain ⟨hend, hfirst⟩ := impacted_discovered compiled hne
  simp only [List.subset_def, mem_reachedAtOnce compiled] at hfirst
  constructor
  · simpa using hend.within
  · exact fun t ht htarget => hfirst t ht (Or.inl ⟨rfl, htarget⟩)
  · exact fun field hf t hr => hfirst field hf (Or.inr hr)
  · intro u hu t hr
    simpa using hend.closed u hu ((compiled.mem_readers u t).mpr hr)

theorem impacted_covers {plan : CalculationPlan} (compiled : plan.Compiled) {changed : List String}
    (hne : changed ≠ []) (ids : ∀ id ∈ changed, hasDot id = false) :
    plan.Covers changed (plan.impacted changed) := by
  have covers := impacted_covers_fields compiled hne
  constructor
  · exact covers.within
  · exact fun t ht => covers.changed_target t ((mem_changedFields ids).mpr ht)
  · exact fun field hf => covers.reader_of_changed field ((mem_changedFields ids).mpr hf)
  · exact covers.reader_of_affected

theorem impacted_within {plan : CalculationPlan} (compiled : plan.Compiled)
    (changed : List String) : plan.impacted changed ⊆ plan.targets := by
  by_cases hne : changed = []
  · rw [hne]
    exact List.Subset.refl plan.targets
  · exact (impacted_covers_fields compiled hne).within

/-- A change of the fields reaches the target: it is one of them, or it reads one of them or a
target that is reached. -/
inductive Touched (plan : CalculationPlan) (fields : List String) : String → Prop
  | changed {t} : t ∈ fields → t ∈ plan.targets → Touched plan fields t
  | reader {field t} : field ∈ fields → field ∈ plan.reads t → Touched plan fields t
  | spread {u t} : Touched plan fields u → u ∈ plan.reads t → Touched plan fields t

theorem touched_of_mem_spread {plan : CalculationPlan} (compiled : plan.Compiled)
    {fields : List String} (fuel : Nat) {reached queue : List String} (hq : queue ⊆ reached)
    (touched : ∀ t ∈ reached, plan.Touched fields t) :
    ∀ t ∈ plan.spread fuel reached queue, plan.Touched fields t := by
  induction fuel generalizing reached queue with
  | zero => exact touched
  | succ fuel ih =>
    cases queue with
    | nil => exact touched
    | cons source queue =>
      obtain ⟨hsource, hqueue⟩ := List.cons_subset.mp hq
      have hkept := foldl_addNew_prefix reached (plan.readersOfField source)
      rw [spread]
      apply ih
      · exact List.append_subset.mpr ⟨fun t ht => hkept.subset (hqueue ht), List.drop_subset _ _⟩
      · intro t ht
        rcases mem_foldl_addNew.mp ht with ht | ht
        · exact touched t ht
        · exact .spread (touched source hsource) ((compiled.mem_readers source t).mp ht)

/-- What is impacted is exactly what the changed fields reach. -/
theorem mem_impacted_iff {plan : CalculationPlan} (compiled : plan.Compiled)
    {changed : List String} (hne : changed ≠ []) {t : String} :
    t ∈ plan.impacted changed ↔ plan.Touched (changedFields plan.gridId changed) t := by
  constructor
  · obtain ⟨first, himpacted, _, hm⟩ := plan.impacted_eq_spread hne
    rw [himpacted]
    apply touched_of_mem_spread compiled _ (List.Subset.refl first)
    intro u hu
    obtain ⟨field, hf, hu⟩ := (hm u).mp hu
    rcases (mem_reachedAtOnce compiled).mp hu with ⟨rfl, htarget⟩ | hr
    · exact .changed hf htarget
    · exact .reader hf hr
  · have covers := impacted_covers_fields compiled hne
    intro h
    induction h with
    | changed hf ht => exact covers.changed_target _ hf ht
    | reader hf hr => exact covers.reader_of_changed _ hf _ hr
    | spread _ hr ih => exact covers.reader_of_affected _ ih _ hr

end CalculationPlan

end GridRules
