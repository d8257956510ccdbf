import GridRules.Options.Apply
import GridRules.Proofs.SoundTransforms
import GridRules.Proofs.Results
import Mathlib.Data.Prod.Lex
import Mathlib.Data.String.Basic
import Mathlib.Order.WithBot
/-!
Sorting rows. Either kind of sort is a stable sort by a rank, ascending or descending. Texts are
ranked without regard to case and then with it. Numbers are ranked by the doubles next to them, so
that the sort is one by their values exactly where the order of the rows does not tell apart what
the doubles do not.
-/

namespace GridRules

namespace Number

/-- The ranks of numbers: a lowest one, and those of places on the number line. -/
def Rank : Type := WithBot (ℤ ×ₗ ℤ)

instance : LinearOrder Rank := inferInstanceAs (LinearOrder (WithBot (ℤ ×ₗ ℤ)))

namespace Rank

def lowest : Rank := (⊥ : WithBot (ℤ ×ₗ ℤ))

def ofPlace (place : Int × Int) : Rank := ((toLex place : ℤ ×ₗ ℤ) : WithBot (ℤ ×ₗ ℤ))

theorem not_lt_lowest (r : Rank) : ¬ r < lowest := WithBot.not_lt_bot _

theorem lowest_lt_ofPlace (place : Int × Int) : lowest < ofPlace place := WithBot.bot_lt_coe _

theorem ofPlace_lt_iff {p q : Int × Int} :
    ofPlace p < ofPlace q ↔ p.1 < q.1 ∨ p.1 = q.1 ∧ p.2 < q.2 :=
  WithBot.coe_lt_coe.trans Prod.Lex.toLex_lt_toLex

theorem ofPlace_inj {p q : Int × Int} : ofPlace p = ofPlace q ↔ p = q :=
  WithBot.coe_inj.trans toLex_inj

/-- The rank of the double next to a number of a rank. -/
def rounded : Rank → Rank :=
  WithBot.map fun p => toLex ((ofLex p).1, Binary64.roundedUnits (ofLex p).2)

theorem rounded_ofPlace (sign units : Int) :
    rounded (ofPlace (sign, units)) = ofPlace (sign, Binary64.roundedUnits units) := rfl

/-- Rounding does not turn the order of two numbers around. -/
theorem rounded_mono : Monotone rounded := by
  refine WithBot.monotone_map_iff.mpr fun p q h => ?_
  rw [Prod.Lex.toLex_le_toLex]
  rcases Prod.Lex.le_iff.mp h with hlt | ⟨heq, hle⟩
  · exact .inl hlt
  · exact .inr ⟨heq, Binary64.roundedUnits_mono hle⟩

end Rank

/-- Where a number stands: NaN below all others, and the others in the order of their values. -/
def rank (a : Number) : Rank :=
  if a.isNaN then .lowest else .ofPlace a.place

theorem rank_of_isNaN {a : Number} (ha : a.isNaN = true) : a.rank = .lowest := by
  rw [rank, if_pos ha]

theorem rank_of_not_isNaN {a : Number} (ha : a.isNaN = false) : a.rank = .ofPlace a.place := by
  rw [rank, if_neg (Bool.eq_false_iff.mp ha)]

theorem rank_lt_iff {a b : Number} :
    a.rank < b.rank ↔ b.isNaN = false ∧ (a.isNaN = true ∨ a.lt b = true) := by
  cases hb : b.isNaN with
  | true => simp [rank_of_isNaN hb, Rank.not_lt_lowest]
  | false =>
    rw [rank_of_not_isNaN hb]
    cases ha : a.isNaN with
    | true => simp [rank_of_isNaN ha, Rank.lowest_lt_ofPlace]
    | false => simp [rank_of_not_isNaN ha, Rank.ofPlace_lt_iff, lt, ha, hb]

theorem rank_eq_iff (a b : Number) : a.rank = b.rank ↔ a.same b = true := by
  cases ha : a.isNaN with
  | true =>
    rw [rank_of_isNaN ha]
    cases hb : b.isNaN with
    | true => simp [rank_of_isNaN hb, same, ha, hb]
    | false => simp [rank_of_not_isNaN hb, same, eqv, ha, hb, (Rank.lowest_lt_ofPlace _).ne]
  | false =>
    rw [rank_of_not_isNaN ha]
    cases hb : b.isNaN with
    | true => simp [rank_of_isNaN hb, same, eqv, ha, hb, (Rank.lowest_lt_ofPlace _).ne']
    | false => simp [rank_of_not_isNaN hb, Rank.ofPlace_inj, same, eqv, ha, hb]

theorem rank_toFloat? {a : Number} {x : Binary64} (h : a.toFloat? = some x) :
    (float x).rank = a.rank.rounded := by
  cases a with
  | int n =>
    rw [toFloat?] at h
    have hx := isFinite_of_floatOfInt? h
    obtain rfl := ofInt_of_floatOfInt? h
    have hnan : (float (Binary64.ofInt n)).isNaN = false := by
      rw [isNaN]
      exact Binary64.isNaN_of_isFinite hx
    have hplace : (int n).place = (0, n * (Binary64.one : Int)) := rfl
    rw [rank_of_not_isNaN hnan, place_float hx, rank_of_not_isNaN (a := int n) rfl, hplace,
      Binary64.roundedUnits_ofInt hx, Rank.rounded_ofPlace]
  | float y =>
    obtain rfl := Option.some.inj h
    cases y with
    | nan => rfl
    | infinite negative =>
      rw [rank_of_not_isNaN rfl, place, Rank.rounded_ofPlace, Binary64.roundedUnits_zero]
    | finite negative m e fits =>
      have hx : (Binary64.finite negative m e fits).isFinite = true := rfl
      rw [rank_of_not_isNaN rfl, place_float hx, Rank.rounded_ofPlace,
        Binary64.roundedUnits_units hx]

end Number

section Ranks

variable {α L M : Type} [LinearOrder L] [LinearOrder M]

/-- Whether something of one rank may stand before something of another. -/
def InOrder (descending : Bool) (r s : L) : Prop :=
  if descending then s ≤ r else r ≤ s

instance (descending : Bool) (r s : L) : Decidable (InOrder descending r s) := by
  unfold InOrder
  infer_instance

theorem inOrder_refl (descending : Bool) (r : L) : InOrder descending r r := by
  cases descending <;> exact le_rfl

theorem inOrder_trans {descending : Bool} {r s t : L} (h : InOrder descending r s)
    (h' : InOrder descending s t) : InOrder descending r t := by
  cases descending with
  | false => exact le_trans (a := r) h h'
  | true => exact le_trans (a := t) h' h

theorem inOrder_total (descending : Bool) (r s : L) :
    InOrder descending r s ∨ InOrder descending s r := by
  cases descending with
  | false => exact le_total r s
  | true => exact le_total s r

/-- What is in order as it is coarsely ranked is so as it is finely ranked, unless the coarse ranks
are the same. -/
theorem inOrder_of_coarser {f : L → M} (hf : Monotone f) {descending : Bool} {r s : L}
    (h : InOrder descending (f r) (f s)) : f r = f s ∨ InOrder descending r s := by
  cases descending with
  | false =>
    have hle : f r ≤ f s := h
    exact (le_iff_eq_or_lt.mp hle).imp_right fun hlt => (hf.reflect_lt hlt).le
  | true =>
    have hle : f s ≤ f r := h
    exact (le_iff_eq_or_lt.mp hle).imp Eq.symm fun hlt => (hf.reflect_lt hlt).le

/-- A stable sort by a rank: the same items, in the order of their ranks, and those of one rank in
the order that they had. -/
structure SortedBy (rank : α → L) (descending : Bool) (items sorted : List α) : Prop where
  perm : sorted.Perm items
  ordered : sorted.Pairwise fun a b => InOrder descending (rank a) (rank b)
  stable : ∀ r, sorted.filter (rank · = r) = items.filter (rank · = r)

section

variable (rank : α → L) (descending : Bool)

/-- Whether one item may stand before another. -/
def mayPrecede (a b : α) : Bool :=
  decide (InOrder descending (rank a) (rank b))

theorem mayPrecede_iff {a b : α} :
    mayPrecede rank descending a b = true ↔ InOrder descending (rank a) (rank b) :=
  decide_eq_true_iff

theorem mayPrecede_trans (a b c : α) (h : mayPrecede rank descending a b = true)
    (h' : mayPrecede rank descending b c = true) : mayPrecede rank descending a c = true := by
  rw [mayPrecede_iff] at h h' ⊢
  exact inOrder_trans h h'

theorem mayPrecede_total (a b : α) :
    (mayPrecede rank descending a b || mayPrecede rank descending b a) = true := by
  rw [Bool.or_eq_true, mayPrecede_iff, mayPrecede_iff]
  exact inOrder_total descending (rank a) (rank b)

/-- The items sorted by a rank. -/
def sortBy (items : List α) : List α :=
  items.mergeSort (mayPrecede rank descending)

theorem sortBy_perm (items : List α) : (sortBy rank descending items).Perm items :=
  List.mergeSort_perm items _

theorem sortBy_pairwise (items : List α) :
    (sortBy rank descending items).Pairwise fun a b => InOrder descending (rank a) (rank b) :=
  (List.pairwise_mergeSort (mayPrecede_trans rank descending) (mayPrecede_total rank descending)
    items).imp (mayPrecede_iff rank descending).mp

/-- What is in order already is left as it is. -/
theorem sortBy_of_pairwise {items : List α}
    (h : items.Pairwise fun a b => InOrder descending (rank a) (rank b)) :
    sortBy rank descending items = items :=
  List.mergeSort_of_pairwise (h.imp (mayPrecede_iff rank descending).mpr)

/-- Items that may stand as they do are not turned around. -/
theorem sublist_sortBy {items part : List α}
    (h : part.Pairwise fun a b => InOrder descending (rank a) (rank b))
    (hsub : part.Sublist items) : part.Sublist (sortBy rank descending items) :=
  List.sublist_mergeSort (mayPrecede_trans rank descending) (mayPrecede_total rank descending)
    (h.imp (mayPrecede_iff rank descending).mpr) hsub

/-- Items that have one rank keep their order, whichever of them are looked at. -/
theorem filter_sortBy (items : List α) {p : α → Bool}
    (alike : ∀ a b, p a = true → p b = true → rank a = rank b) :
    (sortBy rank descending items).filter p = items.filter p := by
  have ordered : (items.filter p).Pairwise fun a b => InOrder descending (rank a) (rank b) := by
    refine List.pairwise_filter.mpr (List.pairwise_of_forall fun a b ha hb => ?_)
    rw [alike a b ha hb]
    exact inOrder_refl descending _
  have kept : (items.filter p).Sublist ((sortBy rank descending items).filter p) := by
    simpa using (sublist_sortBy rank descending ordered List.filter_sublist).filter p
  exact (kept.eq_of_length ((sortBy_perm rank descending items).filter p).length_eq.symm).symm

/-- Sorting by a coarser rank is sorting by the rank exactly if items that the coarser rank does not
tell apart are in order from the beginning. -/
theorem sortedBy_sortBy_comp_iff {f : L → M} (hf : Monotone f) (items : List α) :
    SortedBy rank descending items (sortBy (f ∘ rank) descending items) ↔
      items.Pairwise fun a b =>
        f (rank a) = f (rank b) → InOrder descending (rank a) (rank b) := by
  constructor
  · intro h
    refine List.pairwise_iff_forall_sublist.mpr fun {a b} hab heq => ?_
    have hpair : [a, b].Pairwise fun a b => InOrder descending (f (rank a)) (f (rank b)) := by
      simp [heq, inOrder_refl]
    exact List.pairwise_iff_forall_sublist.mp h.ordered
      (sublist_sortBy (f ∘ rank) descending hpair hab)
  · intro h
    refine ⟨sortBy_perm _ descending items, ?_, fun r => ?_⟩
    · refine List.pairwise_iff_forall_sublist.mpr fun {a b} hab => ?_
      have hcoarse := List.pairwise_iff_forall_sublist.mp
        (sortBy_pairwise (f ∘ rank) descending items) hab
      rcases inOrder_of_coarser hf hcoarse with heq | hin
      · -- they are of one coarse rank, so they stand as they stood at the beginning
        have kept := hab.filter fun c => f (rank c) = f (rank a)
        rw [filter_sortBy (f ∘ rank) descending items fun c d hc hd => by simp_all] at kept
        simp only [List.filter_cons, heq, decide_true, if_true, List.filter_nil] at kept
        exact List.pairwise_iff_forall_sublist.mp h (kept.trans List.filter_sublist) heq
      · exact hin
    · refine filter_sortBy (f ∘ rank) descending items fun a b ha hb => ?_
      rw [decide_eq_true_iff] at ha hb
      exact congrArg f (ha.trans hb.symm)

end

end Ranks

section Rows

variable {κ L : Type} [LinearOrder L] {key : Entries → Except Fault κ} {rows : List Entries}

theorem keyedRows_eq_ok {keyed : List (κ × Entries)} (h : keyedRows key rows = .ok keyed) :
    keyed.map (·.2) = rows ∧ ∀ pair ∈ keyed, key pair.2 = .ok pair.1 := by
  have pairs := forall₂_of_mapM_ok h
  clear h
  induction pairs with
  | nil => simp
  | cons hpair _ ih =>
    obtain ⟨k, hk, rfl⟩ := map_eq_ok_iff.mp hpair
    exact ⟨congrArg _ ih.1, List.forall_mem_cons.mpr ⟨hk, ih.2⟩⟩

/-- Where keys are compared as the ranks of their rows are, rows with keys are sorted by rank. -/
theorem sortKeyed_keyedRows {before : κ → κ → Bool} {rank : Entries → L}
    (keys : ∀ row ∈ rows, ∃ k, key row = .ok k)
    (ranked : ∀ p q k l, key p = .ok k → key q = .ok l →
      (before k l = true ↔ rank p < rank q)) (descending : Bool) :
    (keyedRows key rows).map (sortKeyed before descending) =
      .ok (sortBy rank descending rows) := by
  obtain ⟨keyed, hkeyed, -⟩ := gives_keyedRows fun row hm => by
    obtain ⟨k, hk⟩ := keys row hm
    exact ⟨k, hk, trivial⟩
  obtain ⟨hrows, hkeys⟩ := keyedRows_eq_ok hkeyed
  have same : ∀ a ∈ keyed, ∀ b ∈ keyed,
      (if descending then !before a.1 b.1 else !before b.1 a.1) =
        mayPrecede rank descending a.2 b.2 := by
    intro a ha b hb
    rw [Bool.eq_iff_iff, mayPrecede_iff]
    have hab := ranked _ _ _ _ (hkeys a ha) (hkeys b hb)
    have hba := ranked _ _ _ _ (hkeys b hb) (hkeys a ha)
    cases descending with
    | false => simpa [InOrder] using not_congr hba
    | true => simpa [InOrder] using not_congr hab
  rw [hkeyed, Except.map, sortKeyed, List.map_mergeSort same, hrows, sortBy]

section Texts

variable (fold : String → String) (path : String) (descending : Bool)

/-- The texts that a row is sorted by, whichever letters `fold` takes for the same. -/
def foldedKey (row : Entries) : Except Fault (String × String) := do
  let text := (← (Value.object row).lookupD path).plain
  return (fold text, text)

/-- Rows sorted by their texts at a path. -/
def sortByText (rows : List Entries) : Except Fault (List Entries) :=
  (keyedRows (foldedKey fold path) rows).map (sortKeyed textBefore descending)

/-- The text of a row at a path; empty if the path cannot be read. -/
def textAt (row : Entries) : String :=
  match (Value.object row).lookupD path with
  | .ok v => v.plain
  | .error _ => ""

def textRank (row : Entries) : String ×ₗ String :=
  toLex (fold (textAt path row), textAt path row)

theorem textBefore_iff (a b : String × String) : textBefore a b = true ↔ toLex a < toLex b := by
  simp [textBefore, Prod.Lex.toLex_lt_toLex]

theorem foldedKey_eq_ok {row : Entries} {k : String × String}
    (h : foldedKey fold path row = .ok k) : toLex k = textRank fold path row := by
  obtain ⟨v, hv, h⟩ := bind_eq_ok_iff.mp h
  obtain rfl := pure_eq_ok_iff.mp h
  rw [textRank, textAt, hv]

theorem sortByText_eq {rows : List Entries}
    (readable : ∀ row ∈ rows, ∃ v, (Value.object row).lookupD path = .ok v) :
    sortByText fold path descending rows =
      .ok (sortBy (textRank fold path) descending rows) := by
  refine sortKeyed_keyedRows (fun row hm => ?_) (fun p q k l hk hl => ?_) descending
  · obtain ⟨v, hv⟩ := readable row hm
    exact ⟨_, by rw [foldedKey, hv]; rfl⟩
  · rw [textBefore_iff, foldedKey_eq_ok fold path hk, foldedKey_eq_ok fold path hl]

end Texts

section Numbers

variable (path : String) (descending : Bool)

/-- The number that the value of a row at a path is or spells. -/
def numberAt (row : Entries) : Except Fault Number := do
  orTooLarge (← (Value.object row).lookupD path).toNumber?

/-- The number of a row at a path; NaN if there is no result. -/
def numberOf (row : Entries) : Number :=
  match numberAt path row with
  | .ok n => n
  | .error _ => .nan

def numberRank (row : Entries) : Number.Rank :=
  (numberOf path row).rank

theorem numberOf_eq {row : Entries} {n : Number} (h : numberAt path row = .ok n) :
    numberOf path row = n := by
  rw [numberOf, h]

theorem numberKey_eq_ok_iff {row : Entries} {k : Option Binary64} :
    numberKey path row = .ok k ↔ ∃ n x, numberAt path row = .ok n ∧ n.toFloat? = some x ∧
      (if x.isNaN then none else some x) = k := by
  have hkey : numberKey path row = numberAt path row >>= fun n => orTooLarge n.toFloat? >>= fun x =>
      pure (if x.isNaN then none else some x) := by
    rw [numberKey, numberAt, bind_assoc]
  rw [hkey, bind_eq_ok_iff]
  simp only [bind_eq_ok_iff, orTooLarge_eq_ok_iff, pure_eq_ok_iff, exists_and_left]

theorem numberBefore_iff (x y : Binary64) :
    numberBefore (if x.isNaN then none else some x) (if y.isNaN then none else some y) = true ↔
      (Number.float x).rank < (Number.float y).rank := by
  rw [Number.rank_lt_iff, Number.isNaN, Number.isNaN]
  cases hx : x.isNaN <;> cases hy : y.isNaN <;> simp [numberBefore]

theorem exists_numberKey_iff {row : Entries} :
    (∃ k, numberKey path row = .ok k) ↔ ∃ n, numberAt path row = .ok n ∧ n.InRange := by
  simp only [numberKey_eq_ok_iff, Number.InRange, Option.isSome_iff_exists]
  constructor
  · rintro ⟨_, n, x, hn, hx, -⟩
    exact ⟨n, hn, x, hx⟩
  · rintro ⟨n, hn, x, hx⟩
    exact ⟨_, n, x, hn, hx, rfl⟩

theorem sortRows_byNumber {rows : List Entries}
    (numbers : ∀ row ∈ rows, ∃ n, numberAt path row = .ok n ∧ n.InRange) :
    sortRows ⟨path, descending, true⟩ rows =
      .ok (sortBy (Number.Rank.rounded ∘ numberRank path) descending rows) := by
  refine sortKeyed_keyedRows (fun row hm => (exists_numberKey_iff path).mpr (numbers row hm))
    (fun p q k l hk hl => ?_) descending
  obtain ⟨m, x, hm, hx, rfl⟩ := (numberKey_eq_ok_iff path).mp hk
  obtain ⟨n, y, hn, hy, rfl⟩ := (numberKey_eq_ok_iff path).mp hl
  rw [numberBefore_iff, Number.rank_toFloat? hx, Number.rank_toFloat? hy]
  simp only [Function.comp_apply, numberRank, numberOf_eq path hm, numberOf_eq path hn]

theorem numbers_of_sortRows {rows sorted : List Entries}
    (h : sortRows ⟨path, descending, true⟩ rows = .ok sorted) :
    ∀ row ∈ rows, ∃ n, numberAt path row = .ok n ∧ n.InRange := by
  obtain ⟨keyed, hkeyed, -⟩ := map_eq_ok_iff.mp h
  obtain ⟨hrows, hkeys⟩ := keyedRows_eq_ok hkeyed
  rw [← hrows]
  exact List.forall_mem_map.mpr fun pair hm => (exists_numberKey_iff path).mp ⟨_, hkeys pair hm⟩

end Numbers

end Rows

/-- The doubles next to two numbers are the same. -/
def Number.RoundAlike (m n : Number) : Prop :=
  ∃ x y, m.toFloat? = some x ∧ n.toFloat? = some y ∧ (Number.float x).same (.float y) = true

theorem Number.roundAlike_iff {m n : Number} (hm : m.InRange) (hn : n.InRange) :
    m.RoundAlike n ↔ m.rank.rounded = n.rank.rounded := by
  obtain ⟨x, hx⟩ := Option.isSome_iff_exists.mp hm
  obtain ⟨y, hy⟩ := Option.isSome_iff_exists.mp hn
  rw [← rank_toFloat? hx, ← rank_toFloat? hy, rank_eq_iff]
  simp [RoundAlike, hx, hy]

/-- A sort by number comes to a result if all rows have numbers within the range of doubles, and
sorts them by value, NaN below all others, if those whose doubles are the same stand in order
already. Without either it fails, since doubles are what it compares. -/
theorem sortRows_byNumber_iff (path : String) (descending : Bool) (rows : List Entries) :
    (∃ sorted, sortRows ⟨path, descending, true⟩ rows = .ok sorted ∧
      SortedBy (numberRank path) descending rows sorted) ↔
    (∀ row ∈ rows, ∃ n, numberAt path row = .ok n ∧ n.InRange) ∧
      rows.Pairwise fun p q => (numberOf path p).RoundAlike (numberOf path q) →
        InOrder descending (numberRank path p) (numberRank path q) := by
  have hsorted (numbers : ∀ row ∈ rows, ∃ n, numberAt path row = .ok n ∧ n.InRange) :
      SortedBy (numberRank path) descending rows
          (sortBy (Number.Rank.rounded ∘ numberRank path) descending rows) ↔
        rows.Pairwise fun p q => (numberOf path p).RoundAlike (numberOf path q) →
          InOrder descending (numberRank path p) (numberRank path q) := by
    have inRange : ∀ row ∈ rows, (numberOf path row).InRange := fun row hm => by
      obtain ⟨n, hn, hin⟩ := numbers row hm
      rwa [numberOf_eq path hn]
    rw [sortedBy_sortBy_comp_iff _ _ Number.Rank.rounded_mono]
    refine List.Pairwise.iff_of_mem fun {p q} hp hq => ?_
    rw [Number.roundAlike_iff (inRange p hp) (inRange q hq)]
    rfl
  constructor
  · rintro ⟨sorted, hrun, h⟩
    have numbers := numbers_of_sortRows path descending hrun
    obtain rfl := Except.ok.inj ((sortRows_byNumber path descending numbers).symm.trans hrun)
    exact ⟨numbers, (hsorted numbers).mp h⟩
  · rintro ⟨numbers, h⟩
    exact ⟨_, sortRows_byNumber path descending numbers, (hsorted numbers).mpr h⟩

/-- Of two numbers that round to the same double the greater stays first, and where a number is
beyond the range of doubles there is no result. -/
theorem sortRows_byNumber_unsorted :
    let greater : Entries := [("n", .int 9007199254740993)]
    let less : Entries := [("n", .int 9007199254740992)]
    (sortRows ⟨"n", false, true⟩ [greater, less] = .ok [greater, less] ∧
      ¬ SortedBy (numberRank "n") false [greater, less] [greater, less]) ∧
    sortRows ⟨"n", false, true⟩ [[("n", .int (10 ^ 400))]] = .error .tooLarge := by
  intro greater less
  have hgreater : numberAt "n" greater = .ok (.int 9007199254740993) := rfl
  have hless : numberAt "n" less = .ok (.int 9007199254740992) := rfl
  have numbers : ∀ row ∈ [greater, less], ∃ n, numberAt "n" row = .ok n ∧ n.InRange := by
    simp only [List.forall_mem_cons]
    exact ⟨⟨_, hgreater, by decide +kernel⟩, ⟨_, hless, by decide +kernel⟩, nofun⟩
  refine ⟨⟨?_, fun h => ?_⟩, ?_⟩
  · rw [sortRows_byNumber "n" false numbers]
    refine congrArg _ (sortBy_of_pairwise _ false ?_)
    simp only [List.pairwise_pair, Function.comp_apply, numberRank, numberOf_eq _ hgreater,
      numberOf_eq _ hless]
    decide +kernel
  · have hin := List.pairwise_pair.mp h.ordered
    simp only [numberRank, numberOf_eq _ hgreater, numberOf_eq _ hless] at hin
    revert hin
    decide +kernel
  · decide +kernel

/-- A sort by text is stable, goes by the text without regard to case and then by the text, in
either direction, and leaves rows as they are that are sorted already. This holds of any `fold`;
transforms take `casefold`. -/
theorem sortRows_byText (fold : String → String) (path : String) (descending : Bool)
    {rows : List Entries}
    (readable : ∀ row ∈ rows, ∃ v, (Value.object row).lookupD path = .ok v) :
    sortRows ⟨path, descending, false⟩ = sortByText casefold path descending ∧
      ∃ sorted, sortByText fold path descending rows = .ok sorted ∧
        sorted.Perm rows ∧
        (sorted.Pairwise fun p q =>
          InOrder descending (textRank fold path p) (textRank fold path q)) ∧
        (∀ text, sorted.filter (textAt path · = text) = rows.filter (textAt path · = text)) ∧
        sortByText fold path descending sorted = .ok sorted := by
  have perm := sortBy_perm (textRank fold path) descending rows
  have ordered := sortBy_pairwise (textRank fold path) descending rows
  refine ⟨rfl, _, sortByText_eq fold path descending readable, perm, ordered, fun text => ?_, ?_⟩
  · refine filter_sortBy _ descending rows fun p q hp hq => ?_
    rw [decide_eq_true_iff] at hp hq
    rw [textRank, textRank, hp, hq]
  · rw [sortByText_eq fold path descending fun row hm => readable row (perm.mem_iff.mp hm),
      sortBy_of_pairwise _ descending ordered]

theorem sortRows_byText_ties :
    let rows : List Entries := [[("n", .str "b")], [("n", .float (.ofInt 3))], [],
      [("n", .str "B")], [("n", .int 3)], [("n", .str "")], [("n", .str "3")]]
    (∀ row ∈ rows, ∃ v, (Value.object row).lookupD "n" = .ok v) ∧
      ∃ sorted, sortByText casefold "n" true rows = .ok sorted ∧
        (sorted.Pairwise fun p q =>
          InOrder true (textRank casefold "n" p) (textRank casefold "n" q)) ∧
        sorted.filter (textAt "n" · = "3") =
          [[("n", .float (.ofInt 3))], [("n", .int 3)], [("n", .str "3")]] := by
  intro rows
  have readable : ∀ row ∈ rows, ∃ v, (Value.object row).lookupD "n" = .ok v := by
    simp only [rows, List.forall_mem_cons]
    exact ⟨⟨_, rfl⟩, ⟨_, rfl⟩, ⟨_, rfl⟩, ⟨_, rfl⟩, ⟨_, rfl⟩, ⟨_, rfl⟩, ⟨_, rfl⟩, nofun⟩
  obtain ⟨-, sorted, hsorted, -, ordered, stable, -⟩ := sortRows_byText casefold "n" true readable
  exact ⟨readable, sorted, hsorted, ordered, (stable "3").trans (by decide +kernel)⟩

end GridRules
