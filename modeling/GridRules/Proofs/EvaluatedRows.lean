import GridRules.Proofs.ContainedFaults
import GridRules.Proofs.EvaluationOrder
import GridRules.Proofs.Impact
import GridRules.Proofs.Results
import GridRules.Proofs.RuleValues

namespace GridRules

namespace CalculationPlan

/-- No target of the order reads one that stands behind it, nor itself. -/
structure ComputeOrder (plan : CalculationPlan) (order : List String) : Prop where
  distinct : order.Nodup
  within : order ⊆ plan.targets
  settled : ∀ done t rest, order = done ++ t :: rest → ∀ u ∈ done ++ [t], t ∉ plan.reads u

/-- With or without cycles, the targets that are ordered do not read what comes behind them: an
impacted target that they read is in front of them or reported. -/
theorem computeOrder_evaluationOrder {plan : CalculationPlan} (compiled : plan.Compiled)
    {impacted : List String} (within : impacted ⊆ plan.targets) :
    plan.ComputeOrder (plan.evaluationOrder impacted).1 := by
  obtain ⟨record, s, h, he⟩ := plan.evaluationOrder_search impacted
  have hc := h.consistent (fresh_nil _) (consistent_start plan impacted)
  have himpacted : s.order ⊆ impacted := fun t ht => h.mem_divided.mp (Or.inl ht)
  rw [he]
  refine ⟨hc.order_distinct, fun t ht => within (himpacted ht), ?_⟩
  intro done t rest hsplit u hu hr
  have hsplit : s.order = done ++ t :: rest := hsplit
  have ht : t ∈ s.order := by simp [hsplit]
  have huo : u ∈ s.order := by
    rw [hsplit, List.append_cons]
    exact List.mem_append_left rest hu
  have hdep := (compiled.mem_dependencies u t).mpr ⟨hr, within (himpacted ht)⟩
  rcases hc.behind u huo t hdep (himpacted ht) with hb | hreported
  · exact not_before_of_split hc.order_distinct hsplit hu hb
  · exact hc.order_not_cyclic t ht hreported

section Order

variable {plan : CalculationPlan} {order done rest : List String}

theorem ComputeOrder.front (ordered : plan.ComputeOrder order) (hsplit : order = done ++ rest) :
    plan.ComputeOrder done where
  distinct := (hsplit ▸ ordered.distinct).of_append_left
  within t ht := ordered.within (by simp [hsplit, ht])
  settled front t back hdone :=
    ordered.settled front t (back ++ rest) (by simp [hsplit, hdone])

theorem ComputeOrder.read_in_front (ordered : plan.ComputeOrder order)
    (hsplit : order = done ++ rest) {t field : String} (ht : t ∈ done) (hr : field ∈ plan.reads t)
    (hm : field ∈ order) : field ∈ done := by
  rw [hsplit] at hm
  refine (List.mem_append.mp hm).resolve_right fun hm => ?_
  obtain ⟨front, back, hback⟩ := List.append_of_mem hm
  have hlater : order = done ++ front ++ field :: back := by simp [hsplit, hback]
  exact ordered.settled _ field back hlater t (by simp [ht]) hr

/-- What carries over to a target from the targets that it reads holds of all targets of an
order. -/
theorem ComputeOrder.induction {motive : String → Prop} (ordered : plan.ComputeOrder order)
    (step : ∀ t ∈ order, (∀ field ∈ plan.reads t, field ∈ order → motive field) → motive t) :
    ∀ t ∈ order, motive t := by
  induction order using List.reverseRecOn with
  | nil => simp
  | append_singleton done last ih =>
    have unread : ∀ t ∈ done ++ [last], last ∉ plan.reads t := ordered.settled done last [] rfl
    have front : ∀ t ∈ done, motive t := by
      apply ih (ordered.front rfl)
      intro t ht below
      have ht : t ∈ done ++ [last] := List.mem_append_left _ ht
      refine step t ht fun field hr hm => below field hr ((mem_concat.mp hm).resolve_right ?_)
      rintro rfl
      exact unread t ht hr
    intro t ht
    rcases mem_concat.mp ht with ht | rfl
    · exact front t ht
    · refine step t (by simp) fun field hr hm => front field ((mem_concat.mp hm).resolve_right ?_)
      rintro rfl
      exact unread field (by simp) hr

end Order

/-- What a target holds once its rule came to something: what it held before, if that is no
change. -/
def renewed (previous : Option Held) (held : Held) : Option Held :=
  if (previous.getD ⟨.null, .none⟩).unchanged held then previous else some held

theorem unchanged_renewed (previous : Option Held) (held : Held) :
    ((renewed previous held).getD ⟨.null, .none⟩).unchanged held = true := by
  unfold renewed
  split
  next hu => exact hu
  next => exact held.unchanged_self

theorem unchanged_getD_renewed (previous : Option Held) (held : Held) :
    (previous.getD ⟨.null, .none⟩).unchanged ((renewed previous held).getD ⟨.null, .none⟩) =
      (previous.getD ⟨.null, .none⟩).unchanged held := by
  unfold renewed
  split
  next hu => rw [hu, Held.unchanged_self]
  next => rfl

/-- The row after some targets were computed: each of them holds what its rule comes to on the very
row that results, or what it held before if that is no change. -/
structure Evaluated (plan : CalculationPlan) (among : List String) (before after : HeldRow)
    (updated : List String) : Prop where
  distinct : after.keys.Nodup
  other : ∀ id, id ∉ among → after.get? id = before.get? id
  computed : ∀ t ∈ among, ∃ held, plan.ruleOutcome after t = .ok held ∧
    after.get? t = renewed (before.get? t) held
  mem_updated : ∀ t, t ∈ updated ↔ t ∈ among ∧ (before.getD t).unchanged (after.getD t) = false

theorem evaluated_nil (plan : CalculationPlan) {row : HeldRow} (distinct : row.keys.Nodup) :
    plan.Evaluated [] row row [] := by
  constructor <;> simp [distinct]

section Evaluated

variable {plan : CalculationPlan} {among among' updated : List String} {before row : HeldRow}

theorem Evaluated.congr (h : plan.Evaluated among before row updated)
    (hm : ∀ t, t ∈ among ↔ t ∈ among') : plan.Evaluated among' before row updated where
  distinct := h.distinct
  other id hid := h.other id fun hid' => hid ((hm id).mp hid')
  computed t ht := h.computed t ((hm t).mpr ht)
  mem_updated t := by rw [h.mem_updated, hm]

/-- A computed target would not be changed by its rule again. -/
theorem Evaluated.settled (h : plan.Evaluated among before row updated) {t : String}
    (ht : t ∈ among) :
    ∃ held, plan.ruleOutcome row t = .ok held ∧ (row.getD t).unchanged held = true := by
  obtain ⟨held, ho, hrow⟩ := h.computed t ht
  refine ⟨held, ho, ?_⟩
  rw [HeldRow.getD, hrow]
  exact unchanged_renewed _ held

/-- Targets are fields, so computing them leaves every entry whose key is no id. -/
theorem Evaluated.get?_of_not_id (compiled : plan.Compiled) (within : among ⊆ plan.targets)
    (h : plan.Evaluated among before row updated) {key : String} (hk : ¬ IsFieldId key) :
    row.get? key = before.get? key :=
  h.other key fun hm => hk (compiled.target_ids key (within hm)).2

end Evaluated

section Uniqueness

variable {plan : CalculationPlan} {order done rest updated updated' : List String}
  {before row row' : HeldRow}

/-- What the targets in front hold is settled, whether or not the ones behind them are computed. -/
theorem Evaluated.agree_in_front (compiled : plan.Compiled) (ordered : plan.ComputeOrder order)
    (hsplit : order = done ++ rest) (h : plan.Evaluated done before row updated)
    (h' : plan.Evaluated order before row' updated') {id : String} (hid : id ∈ done ∨ id ∉ order) :
    row.get? id = row'.get? id := by
  have front : done ⊆ order := fun t ht => by simp [hsplit, ht]
  have outside : ∀ id, id ∉ order → row.get? id = row'.get? id := fun id hid => by
    rw [h.other id fun hm => hid (front hm), h'.other id hid]
  refine hid.elim (fun hid => ?_) (outside id)
  have inside : ∀ t ∈ done, row.get? t = row'.get? t := by
    refine (ordered.front hsplit).induction (motive := fun t => row.get? t = row'.get? t) ?_
    intro t ht below
    have houtcome : plan.ruleOutcome row t = plan.ruleOutcome row' t := by
      apply ruleOutcome_eq_of_reads compiled h.distinct h'.distinct
      · intro key hk
        rw [h.get?_of_not_id compiled (ordered.front hsplit).within hk,
          h'.get?_of_not_id compiled ordered.within hk]
      · intro field hr
        by_cases hm : field ∈ order
        · exact below field hr (ordered.read_in_front hsplit ht hr hm)
        · exact outside field hm
    obtain ⟨held, ho, hrow⟩ := h.computed t ht
    obtain ⟨held', ho', hrow'⟩ := h'.computed t (front ht)
    obtain rfl : held = held' := Except.ok.inj (ho.symm.trans (houtcome.trans ho'))
    rw [hrow, hrow']
  exact inside id hid

/-- There is one way only to compute the targets of an order, whatever the order. -/
theorem Evaluated.unique (compiled : plan.Compiled) (ordered : plan.ComputeOrder order)
    (h : plan.Evaluated order before row updated)
    (h' : plan.Evaluated order before row' updated') (id : String) :
    row.get? id = row'.get? id :=
  h.agree_in_front compiled ordered (List.append_nil order).symm h' (em (id ∈ order))

theorem Evaluated.updated_unique (compiled : plan.Compiled) (ordered : plan.ComputeOrder order)
    (h : plan.Evaluated order before row updated)
    (h' : plan.Evaluated order before row' updated') (id : String) :
    id ∈ updated ↔ id ∈ updated' := by
  rw [h.mem_updated, h'.mem_updated, HeldRow.getD_congr (h.unique compiled ordered h' id)]

end Uniqueness

section Run

variable {plan : CalculationPlan} {done : List String} {before : HeldRow} {state : Progress}
  {target : String} {held : Held}

/-- What a rule sees while targets are computed is the row at that time. -/
def Progress.InStep (plan : CalculationPlan) (state : Progress) : Prop :=
  ∀ key, state.values.get? key = (rowValues plan.gridId state.row).get? key

theorem Progress.get?_take (gridId id : String) :
    (state.take gridId target held).row.get? id =
      if id = target then renewed (state.row.get? target) held else state.row.get? id := by
  unfold take renewed HeldRow.getD
  split
  next =>
    split
    next he => rw [he]
    next => rfl
  next => rw [write, Assoc.get?_put]

theorem Progress.keys_take (gridId : String) (distinct : state.row.keys.Nodup) :
    (state.take gridId target held).row.keys.Nodup := by
  unfold take
  split
  next => exact distinct
  next => exact Assoc.keys_put_nodup distinct target held

theorem Progress.mem_updated_take (gridId id : String) :
    id ∈ (state.take gridId target held).updated ↔
      id ∈ state.updated ∨ id = target ∧ (state.row.getD target).unchanged held = false := by
  unfold take
  split
  next hu => simp [hu]
  next hu => simp [hu, write]

theorem Progress.InStep.take (inStep : state.InStep plan) (distinct : state.row.keys.Nodup)
    (ht : IsFieldId target) : (state.take plan.gridId target held).InStep plan := by
  unfold Progress.take
  split
  next => exact inStep
  next =>
    intro key
    rw [write, get?_rowValues_put distinct ht]
    simp only [Assoc.get?_put, inStep key]

theorem hold_of_inStep (compiled : plan.Compiled) (inStep : state.InStep plan) {rule : Expr}
    (hr : plan.rules.get? target = some rule) :
    rule.hold state.values (plan.constantPlace target) = plan.ruleOutcome state.row target := by
  unfold ruleOutcome
  rw [hr]
  exact Expr.hold_eq_of_refs (compiled.complete target rule hr)
    (fun ref _ => HeldRow.getD_congr (inStep ref)) _

theorem computeTarget_eq (compiled : plan.Compiled) (inStep : state.InStep plan)
    (ht : target ∈ plan.targets) :
    plan.computeTarget state target =
      (plan.ruleOutcome state.row target).map (state.take plan.gridId target) := by
  obtain ⟨rule, hr⟩ := Assoc.exists_get?_of_mem_keys ht
  rw [computeTarget, hr, ← hold_of_inStep compiled inStep hr]
  dsimp only
  cases rule.hold state.values (plan.constantPlace target) <;> rfl

/-- To take over what the rule of a target came to leaves what the others were computed from, if
none of them reads the target. -/
theorem Evaluated.take (compiled : plan.Compiled)
    (h : plan.Evaluated done before state.row state.updated) (ht : IsFieldId target)
    (hd : target ∉ done) (unread : ∀ t ∈ done ++ [target], target ∉ plan.reads t)
    (ho : plan.ruleOutcome state.row target = .ok held) :
    plan.Evaluated (done ++ [target]) before (state.take plan.gridId target held).row
      (state.take plan.gridId target held).updated := by
  have old : ∀ id, id ≠ target →
      (state.take plan.gridId target held).row.get? id = state.row.get? id :=
    fun id hid => by rw [Progress.get?_take, if_neg hid]
  have new : (state.take plan.gridId target held).row.get? target =
      renewed (before.get? target) held := by
    rw [Progress.get?_take, if_pos rfl, h.other target hd]
  have distinct : (state.take plan.gridId target held).row.keys.Nodup :=
    Progress.keys_take plan.gridId h.distinct
  have same : ∀ t ∈ done ++ [target],
      plan.ruleOutcome (state.take plan.gridId target held).row t = plan.ruleOutcome state.row t :=
    fun t hm => ruleOutcome_eq_of_reads compiled distinct h.distinct
      (fun key hk => old key fun he => hk (he ▸ ht))
      fun field hf => old field fun he => unread t hm (he ▸ hf)
  constructor
  · exact distinct
  · intro id hid
    obtain ⟨hdone, hne⟩ := not_or.mp (mt mem_concat.mpr hid)
    rw [old id hne, h.other id hdone]
  · intro t hm
    rw [same t hm]
    rcases mem_concat.mp hm with hm | rfl
    · rw [old t fun he => hd (he ▸ hm)]
      exact h.computed t hm
    · exact ⟨held, ho, new⟩
  · intro t
    rw [Progress.mem_updated_take, h.mem_updated, mem_concat]
    by_cases he : t = target
    · subst t
      have hnew : (before.getD target).unchanged
          ((state.take plan.gridId target held).row.getD target) =
            (before.getD target).unchanged held := by
        rw [HeldRow.getD, HeldRow.getD, new]
        exact unchanged_getD_renewed _ held
      rw [hnew, HeldRow.getD_congr (h.other target hd)]
      simp [hd]
    · rw [HeldRow.getD_congr (old t he)]
      simp [he]

/-- The state after some targets were computed one after the other, unless a rule breaks off. -/
def computed (plan : CalculationPlan) (row : HeldRow) (done : List String) :
    Except Fault Progress :=
  done.foldlM plan.computeTarget (.start plan.gridId row)

theorem computed_concat (plan : CalculationPlan) (row : HeldRow) (done : List String)
    (target : String) :
    plan.computed row (done ++ [target]) =
      (plan.computed row done >>= fun state => plan.computeTarget state target) := by
  simp [computed, List.foldlM_append]

/-- One target more, from a state that was computed. -/
theorem computed_concat_of_ok (compiled : plan.Compiled) (inStep : state.InStep plan)
    (hdone : plan.computed before done = .ok state) (ht : target ∈ plan.targets) :
    plan.computed before (done ++ [target]) =
      (plan.ruleOutcome state.row target).map (state.take plan.gridId target) := by
  rw [computed_concat, hdone]
  exact computeTarget_eq compiled inStep ht

theorem computed_evaluated (compiled : plan.Compiled) {order : List String}
    (ordered : plan.ComputeOrder order) (distinct : before.keys.Nodup)
    (hcomputed : plan.computed before order = .ok state) :
    plan.Evaluated order before state.row state.updated ∧ state.InStep plan := by
  induction order using List.reverseRecOn generalizing state with
  | nil =>
    obtain rfl := Except.ok.inj hcomputed
    exact ⟨evaluated_nil plan distinct, fun _ => rfl⟩
  | append_singleton done target ih =>
    have ht : target ∈ plan.targets := ordered.within (by simp)
    have hid := (compiled.target_ids target ht).2
    rw [computed_concat] at hcomputed
    obtain ⟨front, hfront, hnext⟩ := bind_eq_ok_iff.mp hcomputed
    obtain ⟨h, inStep⟩ := ih (ordered.front rfl) hfront
    rw [computeTarget_eq compiled inStep ht] at hnext
    obtain ⟨held, ho, rfl⟩ := map_eq_ok_iff.mp hnext
    have unread := ordered.settled done target [] rfl
    exact ⟨h.take compiled hid (not_mem_front ordered.distinct) unread ho,
      inStep.take h.distinct hid⟩

/-- Where there is a row with the targets of an order computed, computing them does not break
off. -/
theorem computed_of_evaluated (compiled : plan.Compiled) {order rest updated : List String}
    {row : HeldRow} (ordered : plan.ComputeOrder order) (distinct : before.keys.Nodup)
    (h : plan.Evaluated order before row updated) (hsplit : order = done ++ rest) :
    ∃ state, plan.computed before done = .ok state := by
  induction done using List.reverseRecOn generalizing rest with
  | nil => exact ⟨_, rfl⟩
  | append_singleton done target ih =>
    have hfront : order = done ++ target :: rest := by simp [hsplit]
    have ht : target ∈ order := by simp [hfront]
    obtain ⟨state, hdone⟩ := ih hfront
    obtain ⟨hstate, inStep⟩ := computed_evaluated compiled (ordered.front hfront) distinct hdone
    have houtcome : plan.ruleOutcome state.row target = plan.ruleOutcome row target := by
      apply ruleOutcome_eq_of_reads compiled hstate.distinct h.distinct
      · intro key hk
        rw [hstate.get?_of_not_id compiled (ordered.front hfront).within hk,
          h.get?_of_not_id compiled ordered.within hk]
      · intro field hr
        apply hstate.agree_in_front compiled ordered hfront h
        by_cases hm : field ∈ order
        · have hd := ordered.read_in_front hsplit (by simp) hr hm
          refine Or.inl ((mem_concat.mp hd).resolve_right ?_)
          rintro rfl
          exact ordered.settled done field rest hfront field (by simp) hr
        · exact Or.inr hm
    obtain ⟨held, ho, _⟩ := h.computed target ht
    rw [computed_concat_of_ok compiled inStep hdone (ordered.within ht), houtcome, ho]
    exact ⟨_, rfl⟩

end Run

section Apply

variable {plan : CalculationPlan} {row : HeldRow} {result : CalculationResult}

theorem apply_eq (plan : CalculationPlan) (row : HeldRow) (changed : List String) :
    plan.apply row changed =
      (plan.computed row (plan.evaluationOrder (plan.impacted changed)).1).map fun state =>
        ⟨state.row, state.updated, (plan.evaluationOrder (plan.impacted changed)).2⟩ := by
  unfold apply computed
  obtain ⟨order, cyclic⟩ := plan.evaluationOrder (plan.impacted changed)
  dsimp only
  cases order.foldlM plan.computeTarget (.start plan.gridId row) <;> rfl

theorem computeOrder_impacted (compiled : plan.Compiled) (changed : List String) :
    plan.ComputeOrder (plan.evaluationOrder (plan.impacted changed)).1 :=
  computeOrder_evaluationOrder compiled (impacted_within compiled changed)

theorem skippedCyclic_of_apply {changed : List String}
    (returned : plan.apply row changed = .ok result) :
    result.skippedCyclic = (plan.evaluationOrder (plan.impacted changed)).2 := by
  rw [apply_eq] at returned
  obtain ⟨state, _, rfl⟩ := map_eq_ok_iff.mp returned
  rfl

/-- Applying a plan computes the targets of its order, whatever the row holds. -/
theorem apply_evaluated (compiled : plan.Compiled) (distinct : row.keys.Nodup)
    {changed : List String} (returned : plan.apply row changed = .ok result) :
    plan.Evaluated (plan.evaluationOrder (plan.impacted changed)).1 row result.row
      result.updated := by
  rw [apply_eq] at returned
  obtain ⟨state, hcomputed, rfl⟩ := map_eq_ok_iff.mp returned
  exact (computed_evaluated compiled (computeOrder_impacted compiled changed) distinct hcomputed).1

/-- Applying a plan does not break off where there is a row with the targets computed, and gives
that row. -/
theorem apply_of_evaluated (compiled : plan.Compiled) (distinct : row.keys.Nodup)
    {changed updated : List String} {after : HeldRow}
    (h : plan.Evaluated (plan.evaluationOrder (plan.impacted changed)).1 row after updated) :
    ∃ result, plan.apply row changed = .ok result ∧
      (∀ id, after.get? id = result.row.get? id) ∧ ∀ id, id ∈ updated ↔ id ∈ result.updated := by
  have ordered := computeOrder_impacted compiled changed
  obtain ⟨state, hcomputed⟩ :=
    computed_of_evaluated compiled ordered distinct h (List.append_nil _).symm
  obtain ⟨result, returned⟩ : ∃ result, plan.apply row changed = .ok result := by
    rw [apply_eq, hcomputed]
    exact ⟨_, rfl⟩
  have hresult := apply_evaluated compiled distinct returned
  exact ⟨result, returned, h.unique compiled ordered hresult,
    h.updated_unique compiled ordered hresult⟩

end Apply

/-- The rows hold the same under every key, and the same targets are updated. -/
structure SameResult (result result' : CalculationResult) : Prop where
  row : ∀ id, result.row.get? id = result'.row.get? id
  updated : ∀ id, id ∈ result.updated ↔ id ∈ result'.updated

/-- A regular expression breaks off, at character sets that clash or at an integer that is too long
to be written. -/
inductive BreaksOff : Fault → Prop
  | clash : BreaksOff .charsetClash
  | unwritable : BreaksOff .unwritableInteger

/-- Two applications of plans come to the same result, or a regular expression breaks both off. -/
inductive SameOutcome : Except Fault CalculationResult → Except Fault CalculationResult → Prop
  | returned {result result'} : SameResult result result' →
      SameOutcome (.ok result) (.ok result')
  | broken {fault fault'} : BreaksOff fault → BreaksOff fault' →
      SameOutcome (.error fault) (.error fault')

section Outcomes

variable {plan : CalculationPlan} {row : HeldRow}

theorem hold_breaksOff (row : HeldRow) (constant : List Bool → Place) (e : Expr) :
    OnlyFaults BreaksOff (e.hold row constant) := by
  refine OnlyFaults.bind ?_ fun v => .ok _
  intro fault h
  cases e.evaluate?_onlyFaults row.entries fault h with
  | clash _ => exact .clash
  | unwritable _ => exact .unwritable

theorem computeTarget_breaksOff (plan : CalculationPlan) (state : Progress) (target : String) :
    OnlyFaults BreaksOff (plan.computeTarget state target) := by
  unfold computeTarget
  split
  next => exact .ok state
  next rule _ => exact (hold_breaksOff _ _ rule).bind fun held => .ok _

theorem apply_breaksOff (plan : CalculationPlan) (row : HeldRow) (changed : List String) :
    OnlyFaults BreaksOff (plan.apply row changed) :=
  (OnlyFaults.foldlM plan.computeTarget_breaksOff _ _).bind fun _ => .ok _

/-- Two applications come to the same if either of them has, where it returns, what the other one
returns as well. -/
theorem SameOutcome.of_returned {plan plan' : CalculationPlan} {row row' : HeldRow}
    {changed changed' : List String}
    (there : ∀ result, plan.apply row changed = .ok result →
      ∃ result', plan'.apply row' changed' = .ok result' ∧ SameResult result result')
    (back : ∀ result', plan'.apply row' changed' = .ok result' →
      ∃ result, plan.apply row changed = .ok result) :
    SameOutcome (plan.apply row changed) (plan'.apply row' changed') := by
  cases h : plan.apply row changed with
  | ok result =>
    obtain ⟨result', h', same⟩ := there result h
    exact h' ▸ .returned same
  | error fault =>
    cases h' : plan'.apply row' changed' with
    | ok result' =>
      obtain ⟨result, hresult⟩ := back result' h'
      simp [h] at hresult
    | error fault' =>
      exact .broken (apply_breaksOff plan row changed fault h)
        (apply_breaksOff plan' row' changed' fault' h')

end Outcomes

section Shared

variable {plan plan' : CalculationPlan}

/-- The targets have the same rules in both plans, or none in both. -/
structure SameRules (plan plan' : CalculationPlan) (among : List String) : Prop where
  gridId : plan.gridId = plan'.gridId
  ruleSet : plan.ruleSet = plan'.ruleSet
  rules : ∀ t ∈ among, plan.rules.get? t = plan'.rules.get? t

variable {among : List String} {t : String}

theorem SameRules.symm (h : SameRules plan plan' among) : SameRules plan' plan among :=
  ⟨h.gridId.symm, h.ruleSet.symm, fun t ht => (h.rules t ht).symm⟩

theorem SameRules.reads_eq (h : SameRules plan plan' among) (ht : t ∈ among) :
    plan.reads t = plan'.reads t := by
  rw [reads, reads, h.gridId, h.rules t ht]

theorem SameRules.ruleOutcome_eq (h : SameRules plan plan' among) (ht : t ∈ among)
    (row : HeldRow) : plan.ruleOutcome row t = plan'.ruleOutcome row t := by
  rw [ruleOutcome, ruleOutcome, constantPlace, constantPlace, h.gridId, h.ruleSet, h.rules t ht]

theorem SameRules.mem_targets (h : SameRules plan plan' among) (ht : t ∈ among) :
    t ∈ plan.targets ↔ t ∈ plan'.targets := by
  rw [targets, targets, ← Assoc.has_iff, ← Assoc.has_iff, Assoc.has, Assoc.has, h.rules t ht]

theorem SameRules.onCycle (h : SameRules plan plan' among) (compiled : plan.Compiled)
    (compiled' : plan'.Compiled) (hcycle : plan.OnCycle among t) : plan'.OnCycle among t := by
  have hl : plan.Link among ≤ plan'.Link among := by
    rintro a b ⟨ha, hb, hd⟩
    obtain ⟨hr, ht⟩ := (compiled.mem_dependencies a b).mp hd
    exact ⟨ha, hb, (compiled'.mem_dependencies a b).mpr
      ⟨h.reads_eq ha ▸ hr, (h.mem_targets hb).mp ht⟩⟩
  exact Relation.TransGen.mono hl t t hcycle

theorem SameRules.evaluated (h : SameRules plan plan' among) {before row : HeldRow}
    {updated : List String} (he : plan.Evaluated among before row updated) :
    plan'.Evaluated among before row updated where
  distinct := he.distinct
  other := he.other
  computed t ht := h.ruleOutcome_eq ht row ▸ he.computed t ht
  mem_updated := he.mem_updated

/-- Two plans that compute the same targets by the same rules come to the same on a row, whatever
the order in which each of them computes the targets. -/
theorem SameRules.apply_same (compiled : plan.Compiled) (compiled' : plan'.Compiled) {row : HeldRow}
    (distinct : row.keys.Nodup) {changed changed' : List String}
    (h : SameRules plan plan' (plan.evaluationOrder (plan.impacted changed)).1)
    (hm : ∀ t, t ∈ (plan.evaluationOrder (plan.impacted changed)).1 ↔
      t ∈ (plan'.evaluationOrder (plan'.impacted changed')).1) :
    SameOutcome (plan.apply row changed) (plan'.apply row changed') := by
  have h' : SameRules plan' plan (plan'.evaluationOrder (plan'.impacted changed')).1 :=
    ⟨h.gridId.symm, h.ruleSet.symm, fun t ht => (h.rules t ((hm t).mpr ht)).symm⟩
  apply SameOutcome.of_returned
  · intro result returned
    have he := (h.evaluated (apply_evaluated compiled distinct returned)).congr hm
    obtain ⟨result', returned', hrow, hupdated⟩ := apply_of_evaluated compiled' distinct he
    exact ⟨result', returned', hrow, hupdated⟩
  · intro result' returned'
    have he := (h'.evaluated (apply_evaluated compiled' distinct returned')).congr
      fun t => (hm t).symm
    obtain ⟨result, returned, _⟩ := apply_of_evaluated compiled distinct he
    exact ⟨result, returned⟩

end Shared

end CalculationPlan

end GridRules
