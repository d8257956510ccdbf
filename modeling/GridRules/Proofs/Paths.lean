import GridRules.Graph.Basic
import GridRules.Proofs.Lists
import Mathlib.Data.List.Chain
import Mathlib.Data.List.Perm.Subperm
import Mathlib.Logic.Relation

namespace GridRules

section Paths

variable {α : Type} {r : α → α → Prop} {a b : α}

/-- What can be reached can be reached without passing anything twice. -/
theorem exists_nodup_path (h : Relation.ReflTransGen r a b) :
    ∃ path : List α, path.head? = some a ∧ path.getLast? = some b ∧ path.IsChain r ∧
      path.Nodup := by
  induction h using Relation.ReflTransGen.head_induction_on with
  | refl => exact ⟨[b], rfl, rfl, List.isChain_singleton b, List.nodup_singleton b⟩
  | @head a c hac _ ih =>
    obtain ⟨path, hfirst, hlast, chain, distinct⟩ := ih
    by_cases hm : a ∈ path
    · obtain ⟨front, back, rfl⟩ := List.append_of_mem hm
      refine ⟨a :: back, rfl, ?_, chain.right_of_append, distinct.of_append_right⟩
      rwa [List.getLast?_append_of_ne_nil _ (by simp)] at hlast
    · cases path with
      | nil => simp at hfirst
      | cons d path =>
        obtain rfl : d = c := by simpa using hfirst
        exact ⟨a :: d :: path, rfl, hlast, List.isChain_cons_cons.mpr ⟨hac, chain⟩,
          List.nodup_cons.mpr ⟨hm, distinct⟩⟩

variable {path : List α}

theorem pairwise_transGen_of_isChain (chain : path.IsChain r) :
    path.Pairwise (Relation.TransGen r) :=
  List.isChain_iff_pairwise.mp (chain.imp fun _ _ h => Relation.TransGen.single h)

theorem reflTransGen_of_mem_path (chain : path.IsChain r)
    (hfirst : path.head? = some a) (hlast : path.getLast? = some b) {x : α} (hx : x ∈ path) :
    Relation.ReflTransGen r a x ∧ Relation.ReflTransGen r x b := by
  have pairs := pairwise_transGen_of_isChain chain
  constructor
  · cases path with
    | nil => simp at hx
    | cons c rest =>
      obtain rfl : c = a := by simpa using hfirst
      rcases List.mem_cons.mp hx with rfl | hx
      · exact .refl
      · exact ((List.pairwise_cons.mp pairs).1 x hx).to_reflTransGen
  · obtain ⟨front, rfl⟩ := List.getLast?_eq_some_iff.mp hlast
    rcases mem_concat.mp hx with hx | rfl
    · exact ((List.pairwise_append.mp pairs).2.2 x hx b (by simp)).to_reflTransGen
    · exact .refl

/-- Where nothing comes before the start and no more than one thing before anything else, all that
leads to the end of a path is on it. -/
theorem mem_path_of_reflTransGen (chain : path.IsChain r) (hfirst : path.head? = some a)
    (hlast : path.getLast? = some b) (source : ∀ x, ¬ r x a)
    (unique : ∀ {x y z}, r x z → r y z → x = y) {x : α} (h : Relation.ReflTransGen r x b) :
    x ∈ path := by
  induction h using Relation.ReflTransGen.head_induction_on with
  | refl => exact List.mem_of_getLast? hlast
  | @head x y hxy _ hy =>
    -- what leads to `y` is the one thing before it on the path
    obtain ⟨front, back, rfl⟩ := List.append_of_mem hy
    rcases List.eq_nil_or_concat front with rfl | ⟨front, z, rfl⟩
    · obtain rfl : y = a := by simpa using hfirst
      exact absurd hxy (source x)
    · rw [List.concat_eq_append, List.append_assoc, List.singleton_append,
        List.isChain_append_cons_cons] at chain
      obtain rfl := unique hxy chain.2.1
      simp

theorem not_transGen_self (h : Acc r a) : ¬ Relation.TransGen r a a := by
  have acc := h.transGen
  clear h
  induction acc with
  | intro a _ ih => exact fun h => ih a h h

/-- A path on which nothing comes after itself passes nothing twice. -/
theorem nodup_of_isChain (chain : path.IsChain r) (acyclic : ∀ x ∈ path, Acc r x) :
    path.Nodup := by
  refine (pairwise_transGen_of_isChain chain).imp_of_mem ?_
  rintro x y hx _ h rfl
  exact not_transGen_self (acyclic x hx) h

/-- A path is the only way to list what is on it in an order that never goes back. -/
theorem eq_path_of_perm (chain : path.IsChain r) (acyclic : ∀ x ∈ path, Acc r x) {order : List α}
    (ordered : order.Pairwise fun x y => ¬ Relation.TransGen r y x) (perm : order.Perm path) :
    order = path := by
  have pairs := pairwise_transGen_of_isChain chain
  have forward : path.Pairwise fun x y => ¬ Relation.TransGen r y x := by
    refine pairs.imp_of_mem fun {x y} hx _ h back => ?_
    exact not_transGen_self (acyclic x hx) (h.trans back)
  refine List.Perm.eq_of_pairwise ?_ ordered forward perm
  intro x y hx hy hxy hyx
  by_contra hne
  have either : path.Pairwise fun x y => Relation.TransGen r x y ∨ Relation.TransGen r y x :=
    pairs.imp .inl
  have : Std.Symm fun x y => Relation.TransGen r x y ∨ Relation.TransGen r y x :=
    ⟨fun _ _ => Or.symm⟩
  exact (either.forall (perm.subset hx) hy hne).elim hyx hxy

end Paths

theorem nodup_eraseDups (items : List String) : items.eraseDups.Nodup := by
  match items with
  | [] => simp
  | x :: rest =>
    rw [List.eraseDups_cons]
    apply List.nodup_cons.mpr
    refine ⟨?_, nodup_eraseDups (rest.filter fun y => !y == x)⟩
    simp [List.mem_eraseDups]
termination_by items.length
decreasing_by
  have := List.length_filter_le (fun y => !y == x) rest
  simp only [List.length_cons]
  omega

section Closure

variable {next : String → List String}

/-- One step along `next`. -/
def StepAlong (next : String → List String) (a b : String) : Prop :=
  b ∈ next a

/-- The nodes that one more round of a closure adds. -/
theorem mem_new_nodes {reached : List String} {x : String} :
    x ∈ ((reached.flatMap next).filter fun node => !reached.contains node) ↔
      x ∉ reached ∧ ∃ a ∈ reached, x ∈ next a := by
  simp [and_comm]

/-- What a closure adds is one step behind something. -/
theorem exists_added_closure (next : String → List String) (fuel : Nat) (reached : List String) :
    ∃ added, closure next fuel reached = reached ++ added ∧ ∀ x ∈ added, ∃ a, x ∈ next a := by
  induction fuel generalizing reached with
  | zero => exact ⟨[], by simp [closure], by simp⟩
  | succ fuel ih =>
    rw [closure]
    split
    next => exact ⟨[], by simp, by simp⟩
    next =>
      obtain ⟨added, ha, stepped⟩ := ih (reached ++ (List.eraseDups _))
      refine ⟨_, ha.trans (List.append_assoc _ _ _), ?_⟩
      intro x hx
      rcases List.mem_append.mp hx with hx | hx
      · obtain ⟨_, a, _, hxa⟩ := mem_new_nodes.mp (List.mem_eraseDups.mp hx)
        exact ⟨a, hxa⟩
      · exact stepped x hx

theorem isPrefix_closure (fuel : Nat) (reached : List String) :
    reached <+: closure next fuel reached := by
  obtain ⟨added, ha, _⟩ := exists_added_closure next fuel reached
  exact ⟨added, ha.symm⟩

theorem exists_path_of_mem_closure {fuel : Nat} {reached : List String} {x : String}
    (h : x ∈ closure next fuel reached) :
    ∃ a ∈ reached, Relation.ReflTransGen (StepAlong next) a x := by
  induction fuel generalizing reached with
  | zero => exact ⟨x, h, .refl⟩
  | succ fuel ih =>
    rw [closure] at h
    split at h
    next => exact ⟨x, h, .refl⟩
    next =>
      obtain ⟨a, ha, hp⟩ := ih h
      rcases List.mem_append.mp ha with ha | ha
      · exact ⟨a, ha, hp⟩
      · obtain ⟨_, b, hb, hs⟩ := mem_new_nodes.mp (List.mem_eraseDups.mp ha)
        exact ⟨b, hb, .head hs hp⟩

/-- The fuel is a proved bound: every round but the last adds a node, so with one round for each
node that is not yet reached the closure is closed. -/
theorem closure_closed {nodes : List String} (within : ∀ a ∈ nodes, next a ⊆ nodes) (fuel : Nat)
    {reached : List String} (distinct : reached.Nodup) (hs : reached ⊆ nodes)
    (hf : nodes.length ≤ fuel + reached.length) :
    ∀ a ∈ closure next fuel reached, next a ⊆ closure next fuel reached := by
  induction fuel generalizing reached with
  | zero =>
    have full : nodes ⊆ reached :=
      ((List.subperm_of_subset distinct hs).perm_of_length_le (by omega)).symm.subset
    exact fun a ha => List.Subset.trans (within a (hs ha)) full
  | succ fuel ih =>
    rw [closure]
    split
    next none =>
      -- nothing is new, so a step from what is reached stays there
      intro a ha b hb
      by_contra hn
      have hm := mem_new_nodes.mpr ⟨hn, a, ha, hb⟩
      rw [List.isEmpty_iff.mp none] at hm
      simp at hm
    next some =>
      apply ih
      · refine List.nodup_append.mpr ⟨distinct, nodup_eraseDups _, ?_⟩
        rintro x hx y hy rfl
        exact (mem_new_nodes.mp (List.mem_eraseDups.mp hy)).1 hx
      · refine List.append_subset.mpr ⟨hs, fun x hx => ?_⟩
        obtain ⟨_, a, ha, hxa⟩ := mem_new_nodes.mp (List.mem_eraseDups.mp hx)
        exact within a (hs ha) hxa
      · have hne : ((reached.flatMap next).filter fun node => !reached.contains node).eraseDups ≠
            [] := by
          obtain ⟨x, hx⟩ := List.exists_mem_of_ne_nil _ (mt List.isEmpty_iff.mpr some)
          exact List.ne_nil_of_mem (List.mem_eraseDups.mpr hx)
        have := List.length_pos_of_ne_nil hne
        rw [List.length_append]
        omega

/-- As many rounds as there are nodes lead to all that can be reached, and to nothing else. -/
theorem mem_closure_iff {nodes : List String} (within : ∀ a ∈ nodes, next a ⊆ nodes) {fuel : Nat}
    (hf : nodes.length ≤ fuel) {start x : String} (hs : start ∈ nodes) :
    x ∈ closure next fuel [start] ↔ Relation.ReflTransGen (StepAlong next) start x := by
  constructor
  · intro h
    obtain ⟨a, ha, hp⟩ := exists_path_of_mem_closure h
    exact List.mem_singleton.mp ha ▸ hp
  · intro h
    have closed := closure_closed within fuel (List.nodup_singleton start) (by simpa using hs)
      (by rw [List.length_singleton]; omega)
    induction h with
    | refl => exact (isPrefix_closure fuel [start]).subset (by simp)
    | tail _ hs ih => exact closed _ ih hs

end Closure

end GridRules
