import GridRules.Proofs.ReadablePaths

namespace GridRules

/-- Whether a comparison asks for the order of two numbers. -/
def Comparison.isOrder : Comparison → Bool
  | .gt | .gte | .lt | .lte => true
  | _ => false

namespace Value

theorem isSome_finiteNumber? {v : Value} (h : v.InRange) : v.finiteNumber?.isSome = true := by
  have htest {n : Number} (hn : n.InRange) : n.finiteTest?.isSome = true := by
    rw [Number.finiteTest?, Option.isSome_map]
    exact hn
  cases v with
  | str s =>
    unfold finiteNumber?
    dsimp only
    split <;> rfl
  | int n =>
    unfold finiteNumber?
    simpa [number?] using htest ((inRange_int n).mp h)
  | float x => rfl
  | null | bool | list | object => rfl

theorem isSome_orderTest {a b : Value} (ha : a.InRange) (hb : b.InRange)
    (test : Number → Number → Bool) : (orderTest test a b).isSome = true := by
  obtain ⟨m, hm⟩ := Option.isSome_iff_exists.mp (isSome_finiteNumber? ha)
  obtain ⟨n, hn⟩ := Option.isSome_iff_exists.mp (isSome_finiteNumber? hb)
  unfold orderTest
  rw [hm, hn]
  cases m <;> cases n <;> rfl

/-- A comparison breaks off only if it asks for the order of a number beyond range. -/
theorem isSome_meets? {a b : Value} {comparison : Comparison}
    (h : comparison.isOrder = true → a.InRange ∧ b.InRange) :
    (a.meets? comparison b).isSome = true := by
  cases comparison with
  | gt | gte | lt | lte => exact isSome_orderTest (h rfl).1 (h rfl).2 _
  | eq | neq | isIn | notIn | contains | notContains | isEmpty | notEmpty | startsWith
  | endsWith => rfl

theorem exists_toNumber? {v : Value} (h : v.InRange) :
    ∃ n, v.toNumber? = some n ∧ n.InRange := by
  cases v with
  | null => exact ⟨_, rfl, by decide +kernel⟩
  | int n => exact ⟨_, rfl, (inRange_int n).mp h⟩
  | float x => exact ⟨_, rfl, Number.inRange_float x⟩
  | str s =>
    unfold toNumber?
    dsimp only
    split
    · exact ⟨_, rfl, by decide +kernel⟩
    · obtain ⟨x, hx⟩ := Option.isSome_iff_exists.mp h
      exact ⟨_, by rw [hx]; rfl, Number.inRange_float x⟩
  | bool | list | object => exact ⟨_, rfl, Number.inRange_float _⟩

end Value

/-- The arguments and the context are fit for use. -/
structure Inputs.Suits (measuring : Prop) (inputs : Inputs) : Prop where
  args : (Value.object inputs.args).Suits measuring
  context : inputs.context.Suits measuring

/-- What a selector says can be read, and is fit for use. -/
def Selector.Sound (measuring : Prop) : Selector → Prop
  | .path p | .context p => Readable p
  | .const v => v.Suits measuring
  | .arg _ => True

structure OutputMapping.Sound (measuring : Prop) (mapping : OutputMapping) : Prop where
  label : mapping.label.Sound measuring
  value : mapping.value.Sound measuring
  id : ∀ selector ∈ mapping.id, selector.Sound measuring
  extra : ∀ selectors ∈ mapping.extra, ∀ entry ∈ selectors, entry.2.Sound measuring

structure FilterPredicate.Sound (measuring : Prop) (predicate : FilterPredicate) : Prop where
  field : Readable predicate.field
  context : ∀ path ∈ predicate.valueFromContext, Readable path
  value : predicate.value.Suits measuring
  /-- The order of values is asked only where numbers are measured. -/
  order : predicate.op.isOrder = true → measuring

/-- A transform whose paths can be read, whose constants are fit for use, and which measures
numbers only where that is done; an expression comes to a value on every row that is fit for use,
and that value is no number beyond range. -/
def Transform.Sound (measuring : Prop) : Transform → Prop
  | .filter spec =>
    match spec.expr with
    | some node => ∀ row, (Value.object row).Suits measuring →
        ∃ v, evaluate? (.object node) row = .ok v ∧ v.NumberInRange
    | none => ∀ predicate ∈ spec.predicates, predicate.Sound measuring
  | .mapFields mappings => ∀ mapping ∈ mappings, mapping.2.Sound measuring
  | .unique path | .flattenPath path => Readable path
  | .sort spec => Readable spec.key ∧ (spec.byNumber = true → measuring)
  | .limit _ => True

section Reading

variable {measuring : Prop} {row : Entries} {inputs : Inputs}

theorem Selector.gives_read {selector : Selector} (sound : selector.Sound measuring)
    (hrow : (Value.object row).Suits measuring) (hinputs : inputs.Suits measuring) :
    Gives (·.Suits measuring) (selector.read row inputs) := by
  cases selector with
  | path p => exact Value.gives_lookupD hrow sound
  | const v => exact .ok sound
  | arg name => exact .ok (hinputs.args.getD name)
  | context p => exact Value.gives_lookupD hinputs.context sound

theorem Selector.gives_readAll {selectors : Assoc Selector}
    (sound : ∀ entry ∈ selectors, entry.2.Sound measuring)
    (hrow : (Value.object row).Suits measuring) (hinputs : inputs.Suits measuring) :
    Gives (fun entries => (Value.object entries).Suits measuring)
      (Selector.readAll selectors row inputs) := by
  obtain ⟨entries, hentries, hsuits⟩ := Gives.mapM fun entry hentry =>
    (Selector.gives_read (sound entry hentry) hrow hinputs).map (f := fun v => (entry.1, v))
      (R := fun found : String × Value => found.2.Suits measuring) fun _ hv => hv
  exact ⟨entries, hentries, Value.suits_object.mpr hsuits⟩

theorem OutputMapping.gives_options {mapping : OutputMapping} {rows : List Entries}
    (sound : mapping.Sound measuring) (hrows : ∀ row ∈ rows, (Value.object row).Suits measuring)
    (hinputs : inputs.Suits measuring) : Gives (fun _ => True) (mapping.options rows inputs) := by
  have hid (value : Value) {row : Entries} (hrow : (Value.object row).Suits measuring) :
      Gives (fun _ => True) (mapping.readId value row inputs) := by
    unfold readId
    cases hm : mapping.id with
    | none => exact .ok trivial
    | some selector =>
      refine (Selector.gives_read (sound.id selector hm) hrow hinputs).bind fun v _ => ?_
      cases v <;> exact .ok trivial
  have hextra {row : Entries} (hrow : (Value.object row).Suits measuring) :
      Gives (fun _ => True) (mapping.readExtra row inputs) := by
    unfold readExtra
    cases hm : mapping.extra with
    | none => exact .ok trivial
    | some selectors =>
      cases selectors with
      | nil => exact .ok trivial
      | cons entry rest =>
        exact (Selector.gives_readAll (sound.extra _ hm) hrow hinputs).map fun _ _ => trivial
  refine (Gives.mapM (R := fun _ => True) fun row hm => ?_).map fun _ _ => trivial
  have hrow := hrows row hm
  refine (Selector.gives_read sound.label hrow hinputs).bind fun label _ => ?_
  refine (Selector.gives_read sound.value hrow hinputs).bind fun value _ => ?_
  split
  · exact .ok trivial
  · exact (hid value hrow).bind fun _ _ => (hextra hrow).bind fun _ _ => .ok trivial

end Reading

section Steps

variable {measuring : Prop} {row : Entries} {rows : List Entries} {inputs : Inputs}

theorem FilterPredicate.gives_accepts {predicate : FilterPredicate}
    (sound : predicate.Sound measuring) (hrow : (Value.object row).Suits measuring)
    (hinputs : inputs.Suits measuring) :
    Gives (fun _ => True) (predicate.accepts row inputs) := by
  have hexpected : Gives (·.Suits measuring) (predicate.expected inputs) := by
    unfold expected
    split
    next name _ => exact .ok (hinputs.args.getD name)
    next path _ hpath => exact Value.gives_lookupD hinputs.context (sound.context path hpath)
    next => exact .ok sound.value
  refine (Value.gives_lookupD hrow sound.field).bind fun actual hactual => ?_
  refine hexpected.bind fun expected hexpected => ?_
  have hmeets : (actual.meets? predicate.op expected).isSome = true := Value.isSome_meets?
    fun order => ⟨hactual.inRange (sound.order order), hexpected.inRange (sound.order order)⟩
  exact (Gives.orTooLarge hmeets).mono fun _ _ => trivial

theorem FilterSpec.gives_passes {predicates : List FilterPredicate} (anyMatches : Bool)
    (sound : ∀ predicate ∈ predicates, predicate.Sound measuring)
    (hrow : (Value.object row).Suits measuring) (hinputs : inputs.Suits measuring) :
    Gives (fun _ => True) (FilterSpec.passes anyMatches row inputs predicates) := by
  induction predicates with
  | nil => exact .ok trivial
  | cons predicate rest ih =>
    obtain ⟨hfirst, hrest⟩ := List.forall_mem_cons.mp sound
    refine (FilterPredicate.gives_accepts hfirst hrow hinputs).bind fun accepted _ => ?_
    split
    · exact .ok trivial
    · exact ih hrest

theorem gives_keepRows {test : Entries → Except Fault Bool}
    (h : ∀ row ∈ rows, Gives (fun _ => True) (test row)) :
    Gives (· ⊆ rows) (keepRows test rows) := by
  induction rows with
  | nil => exact .ok fun _ hm => hm
  | cons row rest ih =>
    refine (h row List.mem_cons_self).bind fun kept _ => ?_
    refine (ih fun other hm => h other (List.mem_cons_of_mem row hm)).bind fun others hothers => ?_
    cases kept with
    | false => exact .ok (List.subset_cons_of_subset row hothers)
    | true => exact .ok (List.cons_subset_cons row hothers)

theorem gives_keyedRows {κ : Type} {key : Entries → Except Fault κ}
    (h : ∀ row ∈ rows, Gives (fun _ => True) (key row)) :
    Gives (fun keyed => ∀ pair ∈ keyed, pair.2 ∈ rows) (keyedRows key rows) :=
  Gives.mapM fun row hm => (h row hm).map fun _ _ => hm

theorem firstOfEach_subset (keyed : List (String × Entries)) (seen : List String) :
    firstOfEach keyed seen ⊆ keyed.map (·.2) := by
  induction keyed generalizing seen with
  | nil => exact fun _ hm => hm
  | cons pair rest ih =>
    rw [firstOfEach]
    dsimp only
    split
    · exact List.subset_cons_of_subset _ (ih seen)
    · exact List.cons_subset_cons _ (ih _)

theorem gives_uniqueRows {path : String} (readable : Readable path)
    (hrows : ∀ row ∈ rows, (Value.object row).Suits measuring) :
    Gives (· ⊆ rows) (uniqueRows path rows) := by
  refine (gives_keyedRows fun row hm => ?_).bind fun keyed hkeyed => .ok fun row hm => ?_
  · exact (Value.gives_lookupD (hrows row hm) readable).map fun _ _ => trivial
  obtain ⟨pair, hpair, rfl⟩ := List.mem_map.mp (firstOfEach_subset keyed [] hm)
  exact hkeyed pair hpair

theorem sortKeyed_subset {κ : Type} (before : κ → κ → Bool) (descending : Bool)
    (keyed : List (κ × Entries)) : sortKeyed before descending keyed ⊆ keyed.map (·.2) :=
  List.map_subset _ (List.mergeSort_perm keyed _).subset

theorem gives_sortRows {spec : SortSpec} (readable : Readable spec.key)
    (byNumber : spec.byNumber = true → measuring)
    (hrows : ∀ row ∈ rows, (Value.object row).Suits measuring) :
    Gives (· ⊆ rows) (sortRows spec rows) := by
  have sorted {κ : Type} {key : Entries → Except Fault κ} (before : κ → κ → Bool)
      (h : ∀ row ∈ rows, Gives (fun _ => True) (key row)) :
      Gives (· ⊆ rows) ((keyedRows key rows).map (sortKeyed before spec.descending)) := by
    refine (gives_keyedRows h).map fun keyed hkeyed row hm => ?_
    obtain ⟨pair, hpair, rfl⟩ := List.mem_map.mp (sortKeyed_subset before spec.descending keyed hm)
    exact hkeyed pair hpair
  unfold sortRows
  split
  next h =>
    refine sorted numberBefore fun row hm => ?_
    refine (Value.gives_lookupD (hrows row hm) readable).bind fun v hv => ?_
    obtain ⟨n, hn, hrange⟩ := Value.exists_toNumber? (hv.inRange (byNumber h))
    obtain ⟨x, hx⟩ := Option.isSome_iff_exists.mp hrange
    rw [hn]
    refine Gives.bind (Q := (· = n)) (.ok rfl) fun _ hm => ?_
    rw [hm, hx]
    exact .ok trivial
  next =>
    exact sorted textBefore fun row hm =>
      (Value.gives_lookupD (hrows row hm) readable).bind fun _ _ => .ok trivial

theorem gives_flattenRows {path : String} {v : Value} (readable : Readable path)
    (hv : v.Suits measuring) :
    Gives (fun rows => ∀ row ∈ rows, (Value.object row).Suits measuring)
      (flattenRows path v) := by
  have hchild {row : Entries} {child : Value} (hrow : (Value.object row).Suits measuring)
      (hc : child.Suits measuring) :
      (Value.object (childRow (childKey path) row child)).Suits measuring := by
    cases child with
    | object entries => exact hrow.putAll hc
    | null | bool | int | float | str | list => exact hrow.put hc _
  have hexpand {row : Entries} (hrow : (Value.object row).Suits measuring) :
      Gives (fun rows => ∀ row ∈ rows, (Value.object row).Suits measuring)
        (expandRow path row) := by
    refine (Value.gives_lookupD hrow readable).bind fun found hfound => ?_
    cases found with
    | list children =>
      refine .ok fun other hm => ?_
      obtain ⟨child, hc, rfl⟩ := List.mem_map.mp hm
      exact hchild hrow (Value.suits_list.mp hfound child hc)
    | null | bool | int | float | str | object =>
      exact .ok fun other hm => List.mem_singleton.mp hm ▸ hrow
  cases v with
  | list items =>
    refine (Gives.mapM fun row hm => hexpand (Value.suits_normalizeRows hv row hm)).map ?_
    intro groups hgroups row hm
    obtain ⟨group, hg, hrow⟩ := List.mem_flatten.mp hm
    exact hgroups group hg row hrow
  | null | bool | int | float | str | object =>
    exact (Value.gives_lookupD hv readable).map fun _ hfound => Value.suits_normalizeRows hfound

/-- A sound transform comes to rows, which are fit for use if what it takes is. -/
theorem Transform.gives_apply {step : Transform} {v : Value} (sound : step.Sound measuring)
    (hv : v.Suits measuring) (hinputs : inputs.Suits measuring) :
    Gives (fun rows => ∀ row ∈ rows, (Value.object row).Suits measuring)
      (step.apply v inputs) := by
  have hrows := Value.suits_normalizeRows hv
  have hkept {result : Except Fault (List Entries)}
      (h : Gives (· ⊆ normalizeRows v) result) :
      Gives (fun rows => ∀ row ∈ rows, (Value.object row).Suits measuring) result := by
    obtain ⟨rows, hresult, hsubset⟩ := h
    exact ⟨rows, hresult, fun row hm => hrows row (hsubset hm)⟩
  cases step with
  | filter spec =>
    refine hkept (gives_keepRows fun row hm => ?_)
    unfold FilterSpec.keeps
    unfold Sound at sound
    cases hexpr : spec.expr with
    | some node =>
      simp only [hexpr] at sound
      obtain ⟨v, hv, hrange⟩ := sound row (hrows row hm)
      have htruthy := (Value.isSome_truthy? v).mpr hrange
      simp only [hv]
      exact (Gives.orTooLarge htruthy).mono fun _ _ => trivial
    | none =>
      simp only [hexpr] at sound
      dsimp only
      split
      · exact .ok trivial
      · exact FilterSpec.gives_passes spec.anyMatches sound (hrows row hm) hinputs
  | mapFields mappings =>
    exact Gives.mapM fun row hm => (Selector.gives_readAll sound (hrows row hm) hinputs).map
      fun _ hfound => (hrows row hm).putAll hfound
  | unique path => exact hkept (gives_uniqueRows sound hrows)
  | sort spec => exact hkept (gives_sortRows sound.1 sound.2 hrows)
  | limit count => exact .ok fun row hm => hrows row (List.mem_of_mem_take hm)
  | flattenPath path => exact gives_flattenRows sound hv

theorem Transform.gives_applyAll {steps : List Transform}
    (sound : ∀ step ∈ steps, step.Sound measuring)
    (hrows : ∀ row ∈ rows, (Value.object row).Suits measuring)
    (hinputs : inputs.Suits measuring) :
    Gives (fun rows => ∀ row ∈ rows, (Value.object row).Suits measuring)
      (Transform.applyAll steps rows inputs) := by
  induction steps generalizing rows with
  | nil => exact .ok hrows
  | cons step rest ih =>
    obtain ⟨hstep, hrest⟩ := List.forall_mem_cons.mp sound
    exact (Transform.gives_apply hstep (Value.suits_ofRows hrows) hinputs).bind
      fun _ hfound => ih hrest hfound

end Steps

end GridRules
