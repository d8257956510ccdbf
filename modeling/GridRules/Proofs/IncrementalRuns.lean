import GridRules.Proofs.EvaluatedRows
import GridRules.Proofs.Impact

namespace GridRules

namespace CalculationPlan

/-- Without cycles the order has all impacted targets. -/
theorem computeOrder_of_acyclic {plan : CalculationPlan} (compiled : plan.Compiled)
    {impacted : List String} (within : impacted ⊆ plan.targets)
    (acyclic : ∀ t, ¬ plan.OnCycle plan.targets t) :
    ∃ order, plan.evaluationOrder impacted = (order, []) ∧ plan.ComputeOrder order ∧
      ∀ t, t ∈ order ↔ t ∈ impacted := by
  obtain ⟨order, he, hm⟩ :=
    evaluationOrder_of_acyclic fun t hcycle => acyclic t (hcycle.mono within)
  have ordered := computeOrder_evaluationOrder compiled within
  rw [he] at ordered
  exact ⟨order, he, ordered, hm⟩

/-- A compiled plan without cycles. -/
structure Orderly (plan : CalculationPlan) : Prop where
  compiled : plan.Compiled
  acyclic : ∀ t, ¬ plan.OnCycle plan.targets t

/-- The rules come to what all targets hold. -/
def Settled (plan : CalculationPlan) (row : HeldRow) : Prop :=
  ∀ t ∈ plan.targets, ∃ held, plan.ruleOutcome row t = .ok held ∧
    (row.getD t).unchanged held = true

section Apply

variable {plan : CalculationPlan} {before after row : HeldRow} {among updated : List String}

/-- A target that is not updated holds the very thing that it held before. -/
theorem Evaluated.get?_of_not_updated (h : plan.Evaluated among before after updated) {t : String}
    (ht : t ∉ updated) : after.get? t = before.get? t := by
  by_cases hm : t ∈ among
  · obtain ⟨held, _, hrow⟩ := h.computed t hm
    have hu : (before.getD t).unchanged held = true := by
      by_contra hu
      refine ht ((h.mem_updated t).mpr ⟨hm, ?_⟩)
      rw [HeldRow.getD, HeldRow.getD, hrow, unchanged_getD_renewed]
      exact Bool.eq_false_iff.mpr hu
    rw [hrow]
    exact if_pos hu
  · exact h.other t hm

theorem apply_impacted_evaluated (orderly : plan.Orderly) (distinct : row.keys.Nodup)
    {changed : List String} {result : CalculationResult}
    (returned : plan.apply row changed = .ok result) :
    plan.Evaluated (plan.impacted changed) row result.row result.updated := by
  obtain ⟨order, he, _, hm⟩ := computeOrder_of_acyclic orderly.compiled
    (impacted_within orderly.compiled changed) orderly.acyclic
  have h := apply_evaluated orderly.compiled distinct returned
  rw [he] at h
  exact h.congr hm

theorem apply_of_impacted_evaluated (orderly : plan.Orderly) (distinct : row.keys.Nodup)
    {changed : List String} (h : plan.Evaluated (plan.impacted changed) row after updated) :
    ∃ result, plan.apply row changed = .ok result ∧
      (∀ id, after.get? id = result.row.get? id) ∧ ∀ id, id ∈ updated ↔ id ∈ result.updated := by
  obtain ⟨order, he, _, hm⟩ := computeOrder_of_acyclic orderly.compiled
    (impacted_within orderly.compiled changed) orderly.acyclic
  apply apply_of_evaluated orderly.compiled distinct
  rw [he]
  exact h.congr fun t => (hm t).symm

theorem Settled.evaluated (h : plan.Settled row) (distinct : row.keys.Nodup) :
    plan.Evaluated plan.targets row row [] where
  distinct := distinct
  other _ _ := rfl
  computed t ht := by
    obtain ⟨held, ho, hu⟩ := h t ht
    exact ⟨held, ho, (if_pos hu).symm⟩
  mem_updated t := by simp [Held.unchanged_self]

/-- A full application reports no updates exactly on a settled row. -/
theorem updates_none_iff (orderly : plan.Orderly) (distinct : row.keys.Nodup) :
    (plan.apply row []).map (·.updated) = .ok [] ↔ plan.Settled row := by
  constructor
  · intro hnone
    obtain ⟨result, returned, hnil⟩ := map_eq_ok_iff.mp hnone
    have h : plan.Evaluated plan.targets row result.row result.updated :=
      apply_impacted_evaluated orderly distinct returned
    have same : ∀ id, result.row.get? id = row.get? id := fun id =>
      h.get?_of_not_updated (by simp [hnil])
    intro t ht
    obtain ⟨held, ho, hu⟩ := h.settled ht
    refine ⟨held, ?_, HeldRow.getD_congr (same t) ▸ hu⟩
    rw [← ho]
    exact ruleOutcome_eq_of_reads orderly.compiled distinct h.distinct
      (fun key _ => (same key).symm) fun field _ => (same field).symm
  · intro settled
    obtain ⟨result, returned, _, hupdated⟩ :=
      @apply_of_impacted_evaluated plan row row [] orderly distinct [] (settled.evaluated distinct)
    have hnil : result.updated = [] :=
      List.eq_nil_iff_forall_not_mem.mpr fun id hid => by simpa using (hupdated id).mpr hid
    rw [returned, Except.map, hnil]

end Apply

/-- An edit: the changed fields are set or removed, and all others stay. -/
structure Edited (changed : List String) (row edited : HeldRow) : Prop where
  nonempty : changed ≠ []
  ids : ∀ id ∈ changed, IsFieldId id
  distinct : edited.keys.Nodup
  other : ∀ id, id ∉ changed → edited.get? id = row.get? id

section Untouched

variable {plan : CalculationPlan} {changed affected updated : List String}
  {row edited after : HeldRow} {t : String}

/-- Where a target and all that it reads are untouched by an edit, its rule comes to what the target
holds, as before the edit. -/
theorem ruleOutcome_untouched (orderly : plan.Orderly) (distinct : row.keys.Nodup)
    (settled : plan.Settled row) (edit : Edited changed row edited)
    (covers : plan.Covers changed affected) (distinct' : after.keys.Nodup)
    (rest : ∀ key, ¬ IsFieldId key → after.get? key = edited.get? key) (ht : t ∈ plan.targets)
    (hn : t ∉ affected)
    (same : ∀ field ∈ plan.reads t, field ∉ affected → after.get? field = edited.get? field) :
    ∃ held, plan.ruleOutcome after t = .ok held ∧ (edited.getD t).unchanged held = true := by
  have hc : t ∉ changed := fun hc => hn (covers.changed_target t hc ht)
  have hv : plan.ruleOutcome after t = plan.ruleOutcome row t := by
    apply ruleOutcome_eq_of_reads orderly.compiled distinct' distinct
    · intro key hk
      rw [rest key hk, edit.other key fun hm => hk (edit.ids key hm)]
    · intro field hr
      have hfield : field ∉ affected := fun hm => hn (covers.reader_of_affected field hm t hr)
      have hchanged : field ∉ changed := fun hm => hn (covers.reader_of_changed field hm t hr)
      rw [same field hr hfield, edit.other field hchanged]
  rw [hv, HeldRow.getD_congr (edit.other t hc)]
  exact settled t ht

/-- Targets that an edit does not touch need not be computed. -/
theorem Evaluated.widen (orderly : plan.Orderly) (distinct : row.keys.Nodup)
    (settled : plan.Settled row) (edit : Edited changed row edited)
    (covers : plan.Covers changed affected)
    (h : plan.Evaluated affected edited after updated) :
    plan.Evaluated plan.targets edited after updated where
  distinct := h.distinct
  other id hid := h.other id fun hm => hid (covers.within hm)
  computed t ht := by
    by_cases hm : t ∈ affected
    · exact h.computed t hm
    · obtain ⟨held, ho, hu⟩ := ruleOutcome_untouched orderly distinct settled edit covers h.distinct
        (fun key hk => h.get?_of_not_id orderly.compiled covers.within hk) ht hm
        fun field _ hfield => h.other field hfield
      exact ⟨held, ho, (h.other t hm).trans (if_pos hu).symm⟩
  mem_updated t := by
    rw [h.mem_updated]
    refine ⟨fun ⟨hm, hw⟩ => ⟨covers.within hm, hw⟩, fun ⟨ht, hw⟩ => ⟨?_, hw⟩⟩
    by_contra hm
    rw [HeldRow.getD_congr (h.other t hm), Held.unchanged_self] at hw
    exact Bool.noConfusion hw

/-- Where all targets are computed after an edit, those that it does not touch keep what they
hold. -/
theorem Evaluated.narrow (orderly : plan.Orderly) (distinct : row.keys.Nodup)
    (settled : plan.Settled row) (edit : Edited changed row edited)
    (covers : plan.Covers changed affected)
    (h : plan.Evaluated plan.targets edited after updated) :
    plan.Evaluated affected edited after updated := by
  obtain ⟨order, _, ordered, hm⟩ := computeOrder_of_acyclic orderly.compiled
    (List.Subset.refl plan.targets) orderly.acyclic
  -- An untouched target reads untouched fields, which are computed in front of it or not at all.
  have untouched : ∀ t ∈ order, t ∉ affected → after.get? t = edited.get? t := by
    refine ordered.induction (motive := fun t => t ∉ affected → after.get? t = edited.get? t) ?_
    intro t ht below hn
    have ht := (hm t).mp ht
    obtain ⟨held, ho, hu⟩ := ruleOutcome_untouched orderly distinct settled edit covers h.distinct
      (fun key hk => h.get?_of_not_id orderly.compiled (List.Subset.refl _) hk) ht hn
      fun field hr hfield => by
        by_cases hf : field ∈ plan.targets
        · exact below field hr ((hm field).mpr hf) hfield
        · exact h.other field hf
    obtain ⟨held', ho', hrow⟩ := h.computed t ht
    obtain rfl : held' = held := Except.ok.inj (ho'.symm.trans ho)
    exact hrow.trans (if_pos hu)
  have other : ∀ id, id ∉ affected → after.get? id = edited.get? id := by
    intro id hid
    by_cases ht : id ∈ plan.targets
    · exact untouched id ((hm id).mpr ht) hid
    · exact h.other id ht
  refine ⟨h.distinct, other, fun t ht => h.computed t (covers.within ht), fun t => ?_⟩
  rw [h.mem_updated]
  refine ⟨fun ⟨_, hw⟩ => ⟨?_, hw⟩, fun ⟨ht, hw⟩ => ⟨covers.within ht, hw⟩⟩
  by_contra hn
  rw [HeldRow.getD_congr (other t hn), Held.unchanged_self] at hw
  exact Bool.noConfusion hw

end Untouched

/-- The rows of a run: after each edit the row is brought up to date from the changed fields. -/
inductive Reached (plan : CalculationPlan) (start : HeldRow) : HeldRow → Prop
  | start : Reached plan start start
  | edit {row edited : HeldRow} {changed : List String} {result : CalculationResult} :
      Reached plan start row → Edited changed row edited →
      plan.apply edited changed = .ok result → Reached plan start result.row

section Runs

variable {plan : CalculationPlan} {changed : List String} {row edited : HeldRow}
  {result : CalculationResult}

theorem apply_edited_evaluated (orderly : plan.Orderly) (distinct : row.keys.Nodup)
    (settled : plan.Settled row) (edit : Edited changed row edited)
    (returned : plan.apply edited changed = .ok result) :
    plan.Evaluated plan.targets edited result.row result.updated :=
  (apply_impacted_evaluated orderly edit.distinct returned).widen orderly distinct settled edit
    (impacted_covers orderly.compiled edit.nonempty fun id hid => (edit.ids id hid).2)

theorem Reached.settled (orderly : plan.Orderly) {start : HeldRow} (distinct : start.keys.Nodup)
    (settled : plan.Settled start) (h : plan.Reached start row) :
    row.keys.Nodup ∧ plan.Settled row := by
  induction h with
  | start => exact ⟨distinct, settled⟩
  | edit _ edit returned ih =>
    have h := apply_edited_evaluated orderly ih.1 ih.2 edit returned
    exact ⟨h.distinct, fun t ht => h.settled ht⟩

end Runs

/-- Bringing a row up to date from the changed fields comes to what computing all targets comes to,
at every edit of every run from a settled row, and breaks off where that does; a row that is brought
up to date is settled. -/
theorem apply_changed_eq_apply_all {plan : CalculationPlan} {gridId : String}
    {calculations : Entries} {ruleSet : Nat} (hplan : plan = build gridId calculations ruleSet)
    (acyclic : ∀ t, ¬ plan.OnCycle plan.targets t) {start : HeldRow}
    (distinct : start.keys.Nodup) (settled : (plan.apply start []).map (·.updated) = .ok [])
    {row : HeldRow} (reached : plan.Reached start row) {changed : List String} {edited : HeldRow}
    (edit : Edited changed row edited) :
    SameOutcome (plan.apply edited changed) (plan.apply edited []) ∧
      ∀ result, plan.apply edited changed = .ok result →
        (plan.apply result.row []).map (·.updated) = .ok [] := by
  have orderly : plan.Orderly := ⟨hplan ▸ build_compiled gridId calculations ruleSet, acyclic⟩
  obtain ⟨hdistinct, hsettled⟩ :=
    reached.settled orderly distinct ((updates_none_iff orderly distinct).mp settled)
  have covers := impacted_covers orderly.compiled edit.nonempty fun id hid => (edit.ids id hid).2
  refine ⟨.of_returned ?_ ?_, ?_⟩
  · intro result returned
    have h := apply_edited_evaluated orderly hdistinct hsettled edit returned
    obtain ⟨result', returned', hrow, hupdated⟩ :=
      @apply_of_impacted_evaluated plan _ edited _ orderly edit.distinct [] h
    exact ⟨result', returned', hrow, hupdated⟩
  · intro result' returned'
    have h : plan.Evaluated plan.targets edited result'.row result'.updated :=
      apply_impacted_evaluated orderly edit.distinct returned'
    have hnarrow := h.narrow orderly hdistinct hsettled edit covers
    obtain ⟨result, returned, _⟩ := apply_of_impacted_evaluated orderly edit.distinct hnarrow
    exact ⟨result, returned⟩
  · intro result returned
    have h := apply_edited_evaluated orderly hdistinct hsettled edit returned
    exact (updates_none_iff orderly h.distinct).mpr fun t ht => h.settled ht

/-- A price list: the cost is the price times the count, and the label says `high` for a cost above
100 and is the note otherwise. -/
def priceList : Entries :=
  let const (v : Value) : Value := .object [("op", .str "const"), ("value", v)]
  let field (ref : String) : Value := .object [("op", .str "field"), ("fieldId", .str ref)]
  let high : Value :=
    .object [("op", .str ">"), ("left", field "cost"), ("right", const (.int 100))]
  let label : Value := .object [("op", .str "if"), ("cond", high), ("then", const (.str "high")),
    ("else", field "note")]
  let cost : Value :=
    .object [("op", .str "mul"), ("args", .list [field "price", field "g.count"])]
  [("g.label", .object [("expr", label)]), ("g.cost", .object [("expr", cost)])]

/-- After the count was removed and the cost brought up to date, the cost is overwritten and a note
is added. -/
theorem apply_changed_eq_apply_all_priceList :
    let plan := build "g" priceList
    let start : HeldRow :=
      .given [("price", .int 4), ("count", .int 30), ("cost", .int 120), ("label", .str "high")]
    let row : HeldRow :=
      [("price", ⟨.int 4, .given "price"⟩), ("cost", ⟨.int 0, .none⟩), ("label", ⟨.null, .none⟩)]
    let edited : HeldRow :=
      [("price", ⟨.int 4, .given "price"⟩), ("cost", ⟨.int 7, .given "cost"⟩),
        ("label", ⟨.null, .none⟩), ("note", ⟨.list [.str "sold"], .given "note"⟩)]
    (∀ t, ¬ plan.OnCycle plan.targets t) ∧ start.keys.Nodup ∧
      (plan.apply start []).map (·.updated) = .ok [] ∧ plan.Reached start row ∧
      Edited ["cost", "note"] row edited ∧
      (plan.apply edited ["cost", "note"]).map (·.updated) = .ok ["cost", "label"] ∧
      SameOutcome (plan.apply edited ["cost", "note"]) (plan.apply edited []) ∧
      ∀ result, plan.apply edited ["cost", "note"] = .ok result →
        (plan.apply result.row []).map (·.updated) = .ok [] := by
  intro plan start row edited
  have acyclic : ∀ t, ¬ plan.OnCycle plan.targets t :=
    acyclic_of_none_reported (by decide +kernel)
  have distinct : start.keys.Nodup := by decide
  have settled : (plan.apply start []).map (·.updated) = .ok [] := by decide +kernel
  let removed : HeldRow :=
    .given [("price", .int 4), ("cost", .int 120), ("label", .str "high")]
  have removal : Edited ["count"] start removed := by
    refine ⟨by decide, by decide, by decide, ?_⟩
    intro id hid
    simp only [List.mem_singleton] at hid
    simp [start, removed, HeldRow.given, Assoc.get?_cons, hid]
  have reached : plan.Reached start row := by
    have hrow : (plan.apply removed ["count"]).map (·.row) = .ok row := by decide +kernel
    obtain ⟨result, returned, hresult⟩ := map_eq_ok_iff.mp hrow
    exact hresult ▸ .edit .start removal returned
  have edit : Edited ["cost", "note"] row edited := by
    refine ⟨by decide, by decide, by decide, ?_⟩
    intro id hid
    simp only [List.mem_cons, List.not_mem_nil, or_false, not_or] at hid
    simp [row, edited, Assoc.get?_cons, hid]
  exact ⟨acyclic, distinct, settled, reached, edit, by decide +kernel,
    apply_changed_eq_apply_all rfl acyclic distinct settled reached edit⟩

end CalculationPlan

end GridRules
