import GridRules.Graph.Basic
import GridRules.Proofs.DistinctKeys
import GridRules.Proofs.Paths
import Mathlib.Data.Finset.Max
import Mathlib.Data.List.Cycle
import Mathlib.Data.List.Lex
import Mathlib.Data.String.Basic
/-!
Listings of the cycles of a graph. An elementary cycle is a round of links that passes no node
twice, wherever it is said to begin; a listing has it once, from its least node on.
-/

namespace GridRules

/-- Links lead from each node of the cycle to the next one, and no node comes twice. -/
structure ElementaryCycle (r : String → String → Prop) (cycle : Cycle String) : Prop where
  nonempty : cycle ≠ Cycle.nil
  distinct : cycle.Nodup
  chain : cycle.Chain r

theorem elementaryCycle_cons_iff {r : String → String → Prop} {start : String}
    {rest : List String} :
    ElementaryCycle r ↑(start :: rest) ↔
      (start :: rest ++ [start]).IsChain r ∧ (start :: rest).Nodup := by
  constructor
  · rintro ⟨-, distinct, chain⟩
    exact ⟨(Cycle.chain_coe_cons r start rest).mp chain, Cycle.nodup_coe_iff.mp distinct⟩
  · rintro ⟨chain, distinct⟩
    exact ⟨by simp, Cycle.nodup_coe_iff.mpr distinct,
      (Cycle.chain_coe_cons r start rest).mpr chain⟩

/-- The list begins with its least node. -/
def FromLeast : List String → Prop
  | [] => False
  | start :: rest => ∀ x ∈ rest, start < x

/-- A cycle has no two beginnings that are least. -/
theorem FromLeast.eq_of_rotated {a b : List String} (ha : FromLeast a) (hb : FromLeast b)
    (rotated : (a : Cycle String) = b) : a = b := by
  obtain ⟨n, hn, rfl⟩ := List.isRotated_iff_mod.mp (Cycle.coe_eq_coe.mp rotated)
  rw [List.rotate_eq_drop_append_take hn] at hb ⊢
  -- the one list begins where the other goes on, so each beginning would be less than the other
  have parts := List.take_append_drop n a
  generalize a.take n = front at hb parts ⊢
  generalize a.drop n = back at hb parts ⊢
  subst parts
  cases front with
  | nil => simp
  | cons s front =>
    cases back with
    | nil => simp
    | cons t back => exact absurd (ha t (by simp)) (hb s (by simp)).asymm

theorem exists_fromLeast {cycle : Cycle String} (nonempty : cycle ≠ Cycle.nil)
    (distinct : cycle.Nodup) : ∃ listed, FromLeast listed ∧ (listed : Cycle String) = cycle := by
  cases cycle using Cycle.induction_on with
  | nil => exact absurd rfl nonempty
  | cons a l =>
    obtain ⟨start, hs, least⟩ := Finset.exists_min_image (a :: l).toFinset id ⟨a, by simp⟩
    obtain ⟨front, back, he⟩ := List.append_of_mem (List.mem_toFinset.mp hs)
    rw [he] at least distinct ⊢
    have rotated : (start :: back ++ front) ~r (front ++ start :: back) :=
      List.isRotated_append
    have unique := List.nodup_cons.mp (rotated.nodup_iff.mpr (Cycle.nodup_coe_iff.mp distinct))
    refine ⟨start :: (back ++ front), ?_, Cycle.coe_eq_coe.mpr rotated⟩
    intro x hx
    have hle : start ≤ x := least x (by rcases List.mem_append.mp hx with h | h <;> simp [h])
    exact lt_of_le_of_ne hle fun h => unique.1 (h ▸ hx)

/-- The cycles are all elementary cycles of a graph: in order, and each of them once, from its
least node on. -/
structure CycleListing (r : String → String → Prop) (cycles : List (List String)) : Prop where
  sorted : cycles.Pairwise (· < ·)
  fromLeast : ∀ cycle ∈ cycles, FromLeast cycle
  elementary : ∀ cycle ∈ cycles, ElementaryCycle r cycle
  complete : ∀ cycle, ElementaryCycle r cycle →
    ∃! listed, listed ∈ cycles ∧ (listed : Cycle String) = cycle

namespace CycleListing

variable {r : String → String → Prop} {cycles others : List (List String)}

theorem mem_iff (h : CycleListing r cycles) {cycle : List String} :
    cycle ∈ cycles ↔ FromLeast cycle ∧ ElementaryCycle r cycle := by
  constructor
  · exact fun hm => ⟨h.fromLeast cycle hm, h.elementary cycle hm⟩
  · rintro ⟨least, elementary⟩
    obtain ⟨listed, ⟨hm, he⟩, -⟩ := h.complete cycle elementary
    exact (h.fromLeast listed hm).eq_of_rotated least he ▸ hm

/-- What leads to what decides on the listing, in whatever order it is found out. -/
theorem unique (h : CycleListing r cycles) (h' : CycleListing r others) : cycles = others := by
  have distinct : cycles.Nodup := h.sorted.imp fun hlt => ne_of_lt hlt
  have distinct' : others.Nodup := h'.sorted.imp fun hlt => ne_of_lt hlt
  have perm := (List.perm_ext_iff_of_nodup distinct distinct').mpr fun _ =>
    h.mem_iff.trans h'.mem_iff.symm
  exact perm.eq_of_pairwise (fun _ _ _ _ hlt hgt => absurd hgt hlt.asymm) h.sorted h'.sorted

end CycleListing

/-- One node depends on another one. -/
def DependsOn (dependsOn : Assoc (List String)) (a b : String) : Prop :=
  b ∈ dependenciesOf dependsOn a

section Cycles

variable {dependsOn : Assoc (List String)} {start : String}

theorem mem_keys_of_dependsOn {a b : String} (h : DependsOn dependsOn a b) :
    a ∈ dependsOn.keys := by
  by_contra hn
  simp [DependsOn, dependenciesOf, Assoc.get?_eq_none_iff.mpr hn] at h

theorem mem_dependentsOf_of_dependsOn {a b : String} (h : DependsOn dependsOn a b) :
    a ∈ dependentsOf dependsOn b := by
  obtain ⟨deps, hd⟩ := Assoc.exists_get?_of_mem_keys (mem_keys_of_dependsOn h)
  have hb : b ∈ deps := by simpa [DependsOn, dependenciesOf, hd] using h
  exact List.mem_map.mpr ⟨(a, deps), by simpa [hb] using Assoc.mem_of_get? hd, rfl⟩

/-- The nodes lead on from a path and back to the start, inside `within` and past no node twice. -/
structure WayBack (dependsOn : Assoc (List String)) (start : String) (within path : List String)
    (current : String) (rest : List String) : Prop where
  chain : (current :: rest ++ [start]).IsChain (DependsOn dependsOn)
  distinct : rest.Nodup
  within : rest ⊆ within
  fresh : ∀ x ∈ rest, x ∉ path

section Ways

variable {within path rest : List String} {current next : String}

theorem wayBack_nil_iff :
    WayBack dependsOn start within path current [] ↔ start ∈ dependenciesOf dependsOn current := by
  constructor
  · rintro ⟨chain, -, -, -⟩
    simpa [DependsOn] using chain
  · intro back
    exact ⟨by simpa [DependsOn] using back, .nil, List.nil_subset within, by simp⟩

/-- The nodes that the search goes on to are those that a way back may begin with. -/
theorem wayBack_cons_iff :
    WayBack dependsOn start within path current (next :: rest) ↔
      next ∈ ((dependenciesOf dependsOn current).filter
        fun node => within.contains node && !path.contains node) ∧
      WayBack dependsOn start within (path ++ [next]) next rest := by
  constructor
  · rintro ⟨chain, distinct, hw, fresh⟩
    obtain ⟨hstep, hchain⟩ := List.isChain_cons_cons.mp chain
    obtain ⟨hn, hrest⟩ := List.nodup_cons.mp distinct
    obtain ⟨hnw, hrw⟩ := List.cons_subset.mp hw
    obtain ⟨hnp, hrp⟩ := List.forall_mem_cons.mp fresh
    have hd : next ∈ dependenciesOf dependsOn current := hstep
    refine ⟨by simp [hd, hnw, hnp], hchain, hrest, hrw, ?_⟩
    intro x hx hm
    exact (mem_concat.mp hm).elim (hrp x hx) fun he => hn (he ▸ hx)
  · rintro ⟨hn, chain, distinct, hw, fresh⟩
    obtain ⟨hstep, hnw, hnp⟩ : next ∈ dependenciesOf dependsOn current ∧ next ∈ within ∧
      next ∉ path := by simpa using hn
    have hrest : next ∉ rest := fun hm => fresh next hm (by simp)
    refine ⟨List.isChain_cons_cons.mpr ⟨hstep, chain⟩, List.nodup_cons.mpr ⟨hrest, distinct⟩,
      List.cons_subset.mpr ⟨hnw, hw⟩, List.forall_mem_cons.mpr ⟨hnp, ?_⟩⟩
    exact fun x hx hm => fresh x hx (List.mem_append_left [next] hm)

/-- The search along a path finds the ways back to the start, one step more for each node on
them. -/
theorem mem_cyclesAlong_iff {fuel : Nat} {cycle : List String} :
    cycle ∈ cyclesAlong dependsOn start within fuel path current ↔
      ∃ rest, cycle = path ++ rest ∧ WayBack dependsOn start within path current rest ∧
        rest.length < fuel := by
  induction fuel generalizing path current with
  | zero => simp [cyclesAlong]
  | succ fuel ih =>
    simp only [cyclesAlong, List.mem_append, List.mem_flatMap, ih]
    constructor
    · rintro (hm | ⟨next, hn, rest, rfl, way, hf⟩)
      · split at hm
        next back =>
          obtain rfl := List.mem_singleton.mp hm
          exact ⟨[], by simp, wayBack_nil_iff.mpr (by simpa using back), by simp⟩
        next => simp at hm
      · exact ⟨next :: rest, by simp, wayBack_cons_iff.mpr ⟨hn, way⟩, by simpa using hf⟩
    · rintro ⟨rest, rfl, way, hf⟩
      cases rest with
      | nil =>
        have back := wayBack_nil_iff.mp way
        exact Or.inl (by simp [back])
      | cons next rest =>
        obtain ⟨hn, way⟩ := wayBack_cons_iff.mp way
        exact Or.inr ⟨next, hn, rest, by simp, way, by simpa using hf⟩

/-- No way back is found twice. -/
theorem cyclesAlong_nodup (distinct : ∀ a, (dependenciesOf dependsOn a).Nodup) {fuel : Nat} :
    (cyclesAlong dependsOn start within fuel path current).Nodup := by
  induction fuel generalizing path current with
  | zero => exact .nil
  | succ fuel ih =>
    have longer {next : String} {cycle : List String}
        (h : cycle ∈ cyclesAlong dependsOn start within fuel (path ++ [next]) next) :
        ∃ rest, cycle = path ++ next :: rest := by
      obtain ⟨rest, rfl, -, -⟩ := mem_cyclesAlong_iff.mp h
      exact ⟨rest, by simp⟩
    rw [cyclesAlong]
    refine List.nodup_append.mpr ⟨by split <;> simp, List.nodup_flatMap.mpr ⟨fun _ _ => ih, ?_⟩, ?_⟩
    · -- ways that go on differently are different
      refine ((distinct current).filter _).imp fun {next other} hne cycle hn ho => ?_
      obtain ⟨rest, rfl⟩ := longer hn
      obtain ⟨rest', he⟩ := longer ho
      exact hne (List.cons.inj (List.append_cancel_left he)).1
    · -- and so are those that go on and the one that goes back at once
      rintro cycle hm _ hl rfl
      obtain ⟨next, -, hn⟩ := List.mem_flatMap.mp hl
      obtain ⟨rest, rfl⟩ := longer hn
      split at hm <;> simp at hm

end Ways

/-- All that a chain of greater nodes leads to the start from is among the nodes of cycles from
there. -/
theorem mem_cycleNodes {rest : List String}
    (hs : start ∈ dependsOn.keys) (chain : (rest ++ [start]).IsChain (DependsOn dependsOn))
    (greater : ∀ x ∈ rest, start < x) : rest ⊆ cycleNodes dependsOn start := by
  let back := fun node => (dependentsOf dependsOn node).filter fun other => decide (start < other)
  have within : ∀ a ∈ dependsOn.keys, back a ⊆ dependsOn.keys := by
    intro a _ x hx
    obtain ⟨entry, he, rfl⟩ := List.mem_map.mp (List.mem_filter.mp hx).1
    exact List.mem_map_of_mem (List.mem_filter.mp he).1
  have reached : ∀ x ∈ rest, Relation.ReflTransGen (StepAlong back) start x := by
    induction rest with
    | nil => simp
    | cons y rest ih =>
      have ih := ih chain.tail fun x hx => greater x (List.mem_cons_of_mem y hx)
      intro x hx
      rcases List.mem_cons.mp hx with rfl | hx
      · obtain ⟨z, hz, hxz⟩ : ∃ z, Relation.ReflTransGen (StepAlong back) start z ∧
            DependsOn dependsOn x z := by
          cases rest with
          | nil => exact ⟨start, .refl, by simpa using chain⟩
          | cons z rest => exact ⟨z, ih z (by simp), (List.isChain_cons_cons.mp chain).1⟩
        have hstep : StepAlong back z x :=
          List.mem_filter.mpr
            ⟨mem_dependentsOf_of_dependsOn hxz, by simpa using greater x (by simp)⟩
        exact hz.tail hstep
      · exact ih x hx
  intro x hx
  have hm : x ∈ closure back dependsOn.length [start] :=
    (mem_closure_iff within (by simp [Assoc.keys]) hs).mpr (reached x hx)
  obtain ⟨tail, ht⟩ : [start] <+: closure back dependsOn.length [start] := isPrefix_closure _ _
  rw [cycleNodes]
  rw [← ht] at hm ⊢
  exact (List.mem_cons.mp hm).resolve_left (ne_of_gt (greater x hx))

/-- The nodes of cycles from a start are all greater. -/
theorem lt_of_mem_cycleNodes {x : String} (h : x ∈ cycleNodes dependsOn start) : start < x := by
  obtain ⟨added, ha, stepped⟩ := exists_added_closure
    (fun node => (dependentsOf dependsOn node).filter fun other => decide (start < other))
    dependsOn.length [start]
  rw [cycleNodes, ha] at h
  obtain ⟨a, hx⟩ := stepped x h
  exact of_decide_eq_true (List.mem_filter.mp hx).2

/-- From a node the elementary cycles are found that it is the least node of. -/
theorem mem_cyclesFrom_iff (hs : start ∈ dependsOn.keys) {cycle : List String} :
    cycle ∈ cyclesFrom dependsOn start ↔
      cycle.head? = some start ∧ FromLeast cycle ∧ ElementaryCycle (DependsOn dependsOn) cycle := by
  rw [cyclesFrom, mem_cyclesAlong_iff]
  constructor
  · rintro ⟨rest, rfl, ⟨chain, distinct, hw, fresh⟩, -⟩
    have hn : start ∉ rest := fun hm => fresh start hm (by simp)
    exact ⟨rfl, fun x hx => lt_of_mem_cycleNodes (hw hx),
      elementaryCycle_cons_iff.mpr ⟨chain, List.nodup_cons.mpr ⟨hn, distinct⟩⟩⟩
  · rintro ⟨hstart, greater, elementary⟩
    cases cycle with
    | nil => cases hstart
    | cons first rest =>
      obtain rfl := Option.some.inj hstart
      obtain ⟨chain, hn⟩ := elementaryCycle_cons_iff.mp elementary
      obtain ⟨hn, distinct⟩ := List.nodup_cons.mp hn
      have hw := mem_cycleNodes hs chain.tail greater
      refine ⟨rest, rfl, ⟨chain, distinct, hw, ?_⟩,
        Nat.lt_succ_of_le (distinct.length_le_of_subset hw)⟩
      rintro x hx hm
      exact hn (List.mem_singleton.mp hm ▸ hx)

theorem mem_elementaryCycles_iff {cycle : List String} :
    cycle ∈ elementaryCycles dependsOn ↔
      FromLeast cycle ∧ ElementaryCycle (DependsOn dependsOn) cycle := by
  rw [elementaryCycles, List.mem_mergeSort, List.mem_flatMap]
  constructor
  · rintro ⟨start, hs, hm⟩
    exact ((mem_cyclesFrom_iff hs).mp hm).2
  · rintro ⟨least, elementary⟩
    cases cycle with
    | nil => exact least.elim
    | cons start rest =>
      obtain ⟨next, hnext⟩ : ∃ next, DependsOn dependsOn start next := by
        have chain := (elementaryCycle_cons_iff.mp elementary).1
        cases rest with
        | nil => exact ⟨start, (List.isChain_cons_cons.mp chain).1⟩
        | cons next rest => exact ⟨next, (List.isChain_cons_cons.mp chain).1⟩
      have hs := mem_keys_of_dependsOn hnext
      exact ⟨start, hs, (mem_cyclesFrom_iff hs).mpr ⟨rfl, least, elementary⟩⟩

theorem elementaryCycles_nodup (keys : dependsOn.keys.Nodup)
    (distinct : ∀ a, (dependenciesOf dependsOn a).Nodup) :
    (elementaryCycles dependsOn).Nodup := by
  rw [elementaryCycles, (List.mergeSort_perm _ _).nodup_iff, List.nodup_flatMap]
  refine ⟨fun _ _ => cyclesAlong_nodup distinct, ?_⟩
  refine keys.imp_of_mem fun {start other} hs ho hne cycle hm hm' => hne ?_
  have first := ((mem_cyclesFrom_iff hs).mp hm).1
  exact Option.some.inj (first.symm.trans ((mem_cyclesFrom_iff ho).mp hm').1)

theorem elementaryCycles_sorted : (elementaryCycles dependsOn).Pairwise fun a b => ¬ b < a := by
  have le_iff (a b : List String) : (!b.lex a) = true ↔ ¬ b < a := by
    rw [Bool.not_eq_true', ← Bool.not_eq_true, List.lex_eq_true_iff_lt]
  have sorted := @List.pairwise_mergeSort _ (fun a b : List String => !b.lex a)
    (fun a b c => by
      simp only [le_iff, not_lt]
      exact le_trans)
    (fun a b => by
      simp only [Bool.or_eq_true, le_iff, not_lt]
      exact le_total a b)
  exact (sorted _).imp fun h => (le_iff _ _).mp h

/-- All elementary cycles of a graph are listed. -/
theorem elementaryCycles_listing (keys : dependsOn.keys.Nodup)
    (distinct : ∀ a, (dependenciesOf dependsOn a).Nodup) :
    CycleListing (DependsOn dependsOn) (elementaryCycles dependsOn) where
  sorted := elementaryCycles_sorted.imp₂ (fun _ _ hle hne => lt_of_le_of_ne (not_lt.mp hle) hne)
    (elementaryCycles_nodup keys distinct)
  fromLeast := fun _ hm => (mem_elementaryCycles_iff.mp hm).1
  elementary := fun _ hm => (mem_elementaryCycles_iff.mp hm).2
  complete := by
    intro cycle elementary
    obtain ⟨listed, least, rfl⟩ := exists_fromLeast elementary.nonempty elementary.distinct
    refine ⟨listed, ⟨mem_elementaryCycles_iff.mpr ⟨least, elementary⟩, rfl⟩, ?_⟩
    rintro other ⟨hm, he⟩
    exact (mem_elementaryCycles_iff.mp hm).1.eq_of_rotated least he

/-- A graph with a directed cycle has an elementary one that is listed. -/
theorem elementaryCycles_ne_nil {node : String}
    (cycle : Relation.TransGen (DependsOn dependsOn) node node) :
    elementaryCycles dependsOn ≠ [] := by
  obtain ⟨next, hnext, hback⟩ := Relation.TransGen.head'_iff.mp cycle
  obtain ⟨path, hfirst, hlast, chain, distinct⟩ := exists_nodup_path hback
  obtain ⟨rest, rfl⟩ := List.getLast?_eq_some_iff.mp hlast
  have closed : (node :: rest ++ [node]).IsChain (DependsOn dependsOn) := by
    refine List.isChain_cons.mpr ⟨?_, chain⟩
    intro x hx
    obtain rfl : next = x := by simpa [hfirst] using hx
    exact hnext
  have elementary : ElementaryCycle (DependsOn dependsOn) ↑(node :: rest) :=
    elementaryCycle_cons_iff.mpr ⟨closed, by simpa using List.nodup_middle.mp distinct⟩
  obtain ⟨listed, least, he⟩ := exists_fromLeast elementary.nonempty elementary.distinct
  exact List.ne_nil_of_mem (mem_elementaryCycles_iff.mpr ⟨least, he ▸ elementary⟩)

end Cycles

end GridRules
